import GatewayVpn.Calendar
import GatewayVpn.Durable.Table
import GatewayVpn.Access.Ranking

/-!
# Access: the evidence tables and their queries

The tables from which the gateway decides which path it may use, and the queries that read them.
A join on a primary key is a lookup; a query that returns no row is `none`.  Three styles of
freshness test occur: `expires_at > ?` on the stored texts, the same on `julianday`, and none.
Each query takes the test as its argument `after`, the comparison with the bound parameter.

Columns that no modelled function reads (names, counters of targets, latencies of results, the
time of the last check) are left out.
-/

namespace GatewayVpn.Access

open Durable

/-! ## rows -/

inductive UplinkState where
  | ready
  | other (text : String)
  deriving DecidableEq

structure Uplink where
  id : String
  enabled : Bool := true
  state : UplinkState := .ready
  priority : Int := 1
  routeGeneration : Int := 0

def Uplink.isReady (u : Uplink) : Bool := u.enabled && u.state = .ready

structure Subscription where
  id : String
  enabled : Bool := true
  priority : Int := 1
  activeVersionID : Option String := none

structure Version where
  id : String
  subscriptionID : String
  /-- the state `LKG` -/
  lastKnownGood : Bool := true

inductive SelectionOverride where
  | auto
  | include
  | exclude
  deriving DecidableEq

structure Node where
  id : String
  versionID : String
  enabled : Bool := true
  selectionOverride : SelectionOverride := .auto
  fingerprint : String := ""
  deriving DecidableEq

structure AccessMethod where
  id : String
  kind : MethodKind
  subscriptionID : Option String := none
  enabled : Bool := true
  priority : Int := 1

inductive TargetClass where
  | globalRequired
  | globalOptional
  | whitelistIndicator
  | serviceEndpoint
  deriving DecidableEq

structure Target where
  id : String
  enabled : Bool := true
  targetClass : TargetClass := .globalRequired
  /-- the state `TARGET_SUSPECT` -/
  suspect : Bool := false

def Target.required (t : Target) : Bool := t.enabled && t.targetClass = .globalRequired

inductive PathState where
  | uplinkOffline
  | uplinkDisabled
  | subscriptionDisabled
  | subnetConflict
  | untested
  | probing
  | qualified
  | degraded
  | failed
  | stale
  | other (text : String)
  deriving DecidableEq

inductive TransportState where
  | unknown
  | passed
  | failed
  | other (text : String)
  deriving DecidableEq

/-- a row of `subscription_uplink_paths` -/
structure Path where
  id : String
  uplinkID : String
  subscriptionID : String
  state : PathState := .untested
  transportState : TransportState := .unknown
  selectedNodeID : Option String := none
  quality : Quality := .unknown
  functionalScore : Int := 0
  latencyMS : Option Int := none
  policyGeneration : Int := 0
  routeGeneration : Int := 0
  expiresAt : Option Time := none

inductive QualificationState where
  | untested
  | bypassQualified
  | bypassLimited
  | bypassFailed
  | stale
  | other (text : String)
  deriving DecidableEq

/-- a row of `uplink_path_nodes` -/
structure PathNode where
  pathID : String
  nodeID : String
  state : QualificationState := .untested
  policyGeneration : Int := 0
  routeGeneration : Int := 0
  expiresAt : Option Time := none

inductive ResultState where
  | passed
  | failed
  | other (text : String)
  deriving DecidableEq

/-- a row of `uplink_path_node_target_results` -/
structure TargetResult where
  pathID : String
  nodeID : String
  targetID : String
  state : ResultState
  policyGeneration : Int := 0
  routeGeneration : Int := 0
  expiresAt : Option Time := none

/-- a row of `direct_uplink_paths` -/
structure DirectPath where
  id : String
  uplinkID : String
  state : PathState := .untested
  transportState : TransportState := .unknown
  quality : Quality := .unknown
  functionalScore : Int := 0
  requiredTargetsPassed : Int := 0
  requiredTargetsTotal : Int := 0
  optionalTargetsPassed : Int := 0
  optionalTargetsTotal : Int := 0
  whitelistTargetsPassed : Int := 0
  whitelistTargetsTotal : Int := 0
  policyGeneration : Int := 0
  routeGeneration : Int := 0
  expiresAt : Option Time := none

/-- a row of `direct_uplink_path_target_results` -/
structure DirectTargetRow where
  pathID : String
  targetID : String
  targetClass : TargetClass
  state : ResultState
  policyGeneration : Int
  routeGeneration : Int

/-- a row of `subscription_node_preferences` -/
structure Preference where
  subscriptionID : String
  fingerprint : String
  preferredRank : Option Int := none

/-! ## the database -/

def PathNode.key (pn : PathNode) : String × String := (pn.pathID, pn.nodeID)
def TargetResult.key (r : TargetResult) : String × String × String := (r.pathID, r.nodeID, r.targetID)
def DirectTargetRow.key (r : DirectTargetRow) : String × String := (r.pathID, r.targetID)
def Preference.key (p : Preference) : String × String := (p.subscriptionID, p.fingerprint)

/-- the tables that the components around the reconciler write -/
structure Database where
  uplinks : Table Uplink.id := .empty
  subscriptions : Table Subscription.id := .empty
  versions : Table Version.id := .empty
  nodes : Table Node.id := .empty
  methods : Table AccessMethod.id := .empty
  targets : Table Target.id := .empty
  paths : Table Path.id := .empty
  pathNodes : Table PathNode.key := .empty
  targetResults : Table TargetResult.key := .empty
  directPaths : Table DirectPath.id := .empty
  directResults : Table DirectTargetRow.key := .empty
  preferences : Table Preference.key := .empty
  /-- the setting `next_policy_generation` -/
  nextPolicyGeneration : Option String := none
  hilinkModems : List String := []
  /-- the date function of the SQLite that runs the queries -/
  julianDay : JulianDay := .rounding fun _ => false

namespace Database

variable (db : Database)

def subscriptionMethod (subscriptionID : String) : Option AccessMethod :=
  db.methods.rows.find? fun a => a.subscriptionID = some subscriptionID && a.kind = .subscription

def modemOf (uplinkID : String) : String :=
  if db.hilinkModems.contains uplinkID then uplinkID else ""

end Database

/-! ## generations -/

/-- `strconv.ParseInt(_, 10, 64)` -/
def parseInt (s : String) : Option Int :=
  match s.toList with
  | '-' :: digits => number digits (-1)
  | '+' :: digits => number digits 1
  | digits => number digits 1
where
  number (digits : List Char) (sign : Int) : Option Int :=
    if digits = [] || !digits.all isDigit then none
    else if sign * decimal digits < -2 ^ 63 || sign * decimal digits ≥ 2 ^ 63 then none
    else some (sign * decimal digits)

def currentPolicyGeneration (db : Database) : Except Fault Int :=
  match db.nextPolicyGeneration with
  | none => .ok 0
  | some value =>
    match parseInt value with
    | some next =>
      if next < 1 then .error (.text "stored direct policy generation is invalid")
      else .ok (next - 1)
    | none => .error (.text "stored direct policy generation is invalid")

/-! ## freshness -/

/-- `expires_at > ?` on the texts -/
def textAfter (now expires : Time) : Bool := lexLess (rfc3339Nano now) (rfc3339Nano expires)

/-- `julianday(expires_at) > julianday(?)` -/
def julianAfter (db : Database) (now expires : Time) : Bool :=
  db.julianDay.millis now < db.julianDay.millis expires

/-- `NULL` is never later -/
def expiresAfter (after : Time → Bool) (expires : Option Time) : Bool := expires.any after

/-! ## `SQLiteInventory` -/

structure ActivationCandidate where
  key : String := ""
  methodID : String := ""
  methodKind : MethodKind := .other ""
  qualityClass : Quality := .other ""
  pathID : String := ""
  uplinkID : String := ""
  subscriptionID : String := ""
  nodeID : String := ""
  policyGeneration : Int := 0
  routeGeneration : Int := 0
  configGeneration : Int := 0
  startupRecovery : Bool := false
  deriving DecidableEq

def inventoryCandidate (p : Path) (nodeID : String) : ActivationCandidate :=
  { pathID := p.id, uplinkID := p.uplinkID, subscriptionID := p.subscriptionID, nodeID,
    policyGeneration := p.policyGeneration, routeGeneration := p.routeGeneration }

section
variable (db : Database)

def hasRequiredTargets : Bool := db.targets.rows.any Target.required

def hasReadyUplinks : Bool := db.uplinks.rows.any Uplink.isReady

def sameGenerations (p : Path) (pn : PathNode) : Bool :=
  pn.policyGeneration = p.policyGeneration && pn.routeGeneration = p.routeGeneration

section
variable (after : Time → Bool)

section
variable (pathID nodeID : String)

/-- the query of `FreshNodeCandidate` -/
def freshNodeRow : Option Path := do
  let p ← db.paths.find pathID
  let u ← db.uplinks.find p.uplinkID
  let s ← db.subscriptions.find p.subscriptionID
  let pn ← db.pathNodes.find (p.id, nodeID)
  let n ← db.nodes.find pn.nodeID
  let v ← db.versions.find n.versionID
  if n.enabled && s.activeVersionID = some v.id && p.state = .qualified &&
      expiresAfter after p.expiresAt && u.isReady && s.enabled && pn.state = .bypassQualified &&
      sameGenerations p pn && expiresAfter after pn.expiresAt then
    some p
  else none

def freshNodeCandidate : Except Fault ActivationCandidate :=
  if trimSpace pathID = "" || trimSpace nodeID = "" then
    .error (.text "path and node ids are required")
  else match freshNodeRow db after pathID nodeID with
  | none => .error .notFound
  | some p => .ok (inventoryCandidate p nodeID)

def targetResult (p : Path) (nodeID : String) (t : Target) : Option TargetResult :=
  (db.targetResults.find (p.id, nodeID, t.id)).filter fun r =>
    r.policyGeneration = p.policyGeneration && r.routeGeneration = p.routeGeneration &&
      expiresAfter after r.expiresAt

/-- the query of `TargetDegradedCandidate`: a required target failed while it is suspect, and every
other required target passed -/
def targetDegradedRow : Option Path := do
  let p ← db.paths.find pathID
  let u ← db.uplinks.find p.uplinkID
  let s ← db.subscriptions.find p.subscriptionID
  let pn ← db.pathNodes.find (p.id, nodeID)
  let n ← db.nodes.find pn.nodeID
  let v ← db.versions.find n.versionID
  let required := db.targets.rows.filter Target.required
  if n.enabled && s.activeVersionID = some v.id && p.state = .degraded &&
      p.transportState = .passed && p.selectedNodeID = some pn.nodeID &&
      expiresAfter after p.expiresAt && u.isReady && s.enabled && pn.state = .bypassFailed &&
      sameGenerations p pn && expiresAfter after pn.expiresAt &&
      required.any (fun t => t.suspect &&
        (targetResult db after p pn.nodeID t).any fun r => r.state ≠ .passed) &&
      required.all (fun t =>
        (targetResult db after p pn.nodeID t).any fun r => r.state = .passed || t.suspect) then
    some p
  else none

def targetDegradedCandidate : Except Fault ActivationCandidate :=
  if trimSpace pathID = "" || trimSpace nodeID = "" then
    .error (.text "path and node ids are required")
  else match targetDegradedRow db after pathID nodeID with
  | none => .error .notFound
  | some p => .ok (inventoryCandidate p nodeID)

end

/-- the rows of the query of `readCandidate`: a path with its uplink, its subscription and its
selected node -/
def selectedRow (p : Path) : Option (Uplink × Subscription × String) := do
  let u ← db.uplinks.find p.uplinkID
  let s ← db.subscriptions.find p.subscriptionID
  let nodeID ← p.selectedNodeID
  let n ← db.nodes.find nodeID
  let v ← db.versions.find n.versionID
  let pn ← db.pathNodes.find (p.id, nodeID)
  if s.activeVersionID = some v.id && p.state = .qualified && expiresAfter after p.expiresAt &&
      u.isReady && s.enabled && pn.state = .bypassQualified && sameGenerations p pn &&
      expiresAfter after pn.expiresAt then
    some (u, s, nodeID)
  else none

def freshCandidate (pathID : String) : Except Fault ActivationCandidate :=
  match (do let p ← db.paths.find pathID; let row ← selectedRow db after p; some (p, row)) with
  | none => .error .notFound
  | some (p, _, _, nodeID) => .ok (inventoryCandidate p nodeID)

/-- `ORDER BY u.priority, s.priority, p.latency_ms, p.id`; `NULL` comes first -/
def inventoryOrder (row : Path × Uplink × Subscription × String) :
    ℤ ×ₗ ℤ ×ₗ WithBot ℤ ×ₗ List Char :=
  toLex (row.2.1.priority, toLex (row.2.2.1.priority,
    toLex ((row.1.latencyMS : WithBot ℤ), row.1.id.toList)))

/-- `readCandidate` without a path id: the first row of the order -/
def bestFreshCandidate : Except Fault ActivationCandidate :=
  let rows := db.paths.rows.filterMap fun p => (selectedRow db after p).map fun row => (p, row)
  match rows.insertionSort (fun a b => inventoryOrder a ≤ inventoryOrder b) with
  | [] => .error .notFound
  | (p, _, _, nodeID) :: _ => .ok (inventoryCandidate p nodeID)

end

end

/-! ## the checks of `state.Repository` -/

structure FreshPath where
  id : String
  uplinkID : String
  subscriptionID : String
  nodeID : String
  methodID : String
  qualityClass : Quality
  deriving DecidableEq

def evidenceMatches (p : Path) (pn : PathNode) : Bool :=
  (p.state = .qualified && p.quality = .full && pn.state = .bypassQualified) ||
    (p.state = .degraded && p.quality = .limited && pn.state = .bypassLimited)

def requestedNode (p : Path) (nodeID : String) : Option String :=
  if nodeID = "" then p.selectedNodeID else some nodeID

section
variable (db : Database)

/-- the query of `readFreshPath` -/
def freshPathRow (after : Time → Bool) (pathID nodeID : String)
    (policyGeneration routeGeneration : Int) : Option FreshPath := do
  let p ← db.paths.find pathID
  let node ← requestedNode p nodeID
  let pn ← db.pathNodes.find (p.id, node)
  let n ← db.nodes.find pn.nodeID
  let v ← db.versions.find n.versionID
  let s ← db.subscriptions.find p.subscriptionID
  let u ← db.uplinks.find p.uplinkID
  let a ← db.subscriptionMethod s.id
  if s.activeVersionID = some v.id && p.policyGeneration = policyGeneration &&
      p.routeGeneration = routeGeneration && expiresAfter after p.expiresAt &&
      evidenceMatches p pn && sameGenerations p pn && expiresAfter after pn.expiresAt &&
      n.enabled && s.enabled && a.enabled && u.isReady then
    some ⟨p.id, p.uplinkID, p.subscriptionID, pn.nodeID, a.id, p.quality⟩
  else none

def readFreshPath (now : Time) (pathID nodeID : String)
    (policyGeneration routeGeneration : Int) : Except Fault FreshPath :=
  match freshPathRow db (textAfter now) pathID nodeID policyGeneration routeGeneration with
  | none => .error .staleGeneration
  | some path => .ok path

structure FreshDirectPath where
  id : String
  uplinkID : String
  methodID : String
  qualityClass : Quality

def directMethodID : String := "access:direct"

/-- the query of `readFreshDirectPath` -/
def freshDirectRow (after : Time → Bool) (pathID : String)
    (policyGeneration routeGeneration : Int) : Option FreshDirectPath := do
  let p ← db.directPaths.find pathID
  let u ← db.uplinks.find p.uplinkID
  let a ← db.methods.find directMethodID
  if a.kind = .direct && p.policyGeneration = policyGeneration &&
      p.routeGeneration = routeGeneration && p.routeGeneration = u.routeGeneration &&
      (p.quality = .full || p.quality = .limited || p.quality = .whitelistOnly) &&
      (p.state = .qualified || p.state = .degraded) && expiresAfter after p.expiresAt &&
      a.enabled && u.isReady then
    some ⟨p.id, p.uplinkID, a.id, p.quality⟩
  else none

def readFreshDirectPath (now : Time) (pathID : String)
    (policyGeneration routeGeneration : Int) : Except Fault FreshDirectPath :=
  match freshDirectRow db (julianAfter db now) pathID policyGeneration routeGeneration with
  | none => .error .staleGeneration
  | some path => .ok path

/-- the query of `FinishPolicyVerification` for the active tuple -/
def verifiedPathRow (after : Time → Bool)
    (pathID uplinkID subscriptionID nodeID : String) (policyGeneration : Int) : Option Quality := do
  let p ← db.paths.find pathID
  let pn ← db.pathNodes.find (p.id, nodeID)
  let s ← db.subscriptions.find p.subscriptionID
  let u ← db.uplinks.find p.uplinkID
  if p.uplinkID = uplinkID && p.subscriptionID = subscriptionID &&
      p.selectedNodeID = some nodeID && p.policyGeneration = policyGeneration &&
      expiresAfter after p.expiresAt && evidenceMatches p pn && sameGenerations p pn &&
      expiresAfter after pn.expiresAt && s.enabled && u.isReady then
    some p.quality
  else none

end

/-! ## `DirectPathRepository.Candidates` -/

def directMatches (p : DirectPath) : Bool :=
  (p.quality = .full && p.state = .qualified) ||
    ((p.quality = .limited || p.quality = .whitelistOnly) && p.state = .degraded)

def directCandidate (db : Database) (after : Time → Bool) (policyGeneration : Int)
    (p : DirectPath) : Option Candidate := do
  let u ← db.uplinks.find p.uplinkID
  let a ← db.methods.find directMethodID
  if a.enabled && u.isReady && directMatches p && p.transportState = .passed &&
      expiresAfter after p.expiresAt && p.policyGeneration = policyGeneration &&
      p.routeGeneration = u.routeGeneration then
    some { key := p.id, pathID := p.id, methodID := a.id, methodKind := .direct,
           uplinkID := p.uplinkID, quality := p.quality, functionalScore := p.functionalScore,
           methodPriority := a.priority, uplinkPriority := u.priority,
           policyGeneration := p.policyGeneration, routeGeneration := p.routeGeneration }
  else none

def unrankedPriority : Int := 1000000000

def nodeCandidate (db : Database) (after : Time → Bool) (policyGeneration : Int) (p : Path) :
    Option Candidate := do
  let u ← db.uplinks.find p.uplinkID
  let s ← db.subscriptions.find p.subscriptionID
  let a ← db.subscriptionMethod s.id
  let nodeID ← p.selectedNodeID
  let n ← db.nodes.find nodeID
  let pn ← db.pathNodes.find (p.id, n.id)
  if s.activeVersionID = some n.versionID && a.enabled && s.enabled && u.isReady && n.enabled &&
      n.selectionOverride ≠ .exclude && p.transportState = .passed &&
      expiresAfter after p.expiresAt && sameGenerations p pn && expiresAfter after pn.expiresAt &&
      evidenceMatches p pn && p.policyGeneration = policyGeneration &&
      p.routeGeneration = u.routeGeneration then
    some { key := p.id ++ ":" ++ n.id, pathID := p.id, methodID := a.id,
           methodKind := .subscription, uplinkID := p.uplinkID,
           subscriptionID := p.subscriptionID, nodeID := n.id, quality := p.quality,
           functionalScore := p.functionalScore, methodPriority := a.priority,
           uplinkPriority := u.priority,
           nodePriority := ((db.preferences.find (s.id, n.fingerprint)).bind
             (·.preferredRank)).getD unrankedPriority,
           policyGeneration := p.policyGeneration, routeGeneration := p.routeGeneration }
  else none

def candidates (db : Database) (now : Time) (directOnly : Bool) : Except Fault (List Candidate) :=
  match currentPolicyGeneration db with
  | .error err => .error err
  | .ok policyGeneration =>
    let direct := db.directPaths.rows.filterMap
      (directCandidate db (julianAfter db now) policyGeneration)
    if directOnly then .ok direct
    else .ok (direct ++ db.paths.rows.filterMap
      (nodeCandidate db (julianAfter db now) policyGeneration))

end GatewayVpn.Access
