import GatewayVpn.Access.Evidence

/-!
# Access: the runtime state

`state.Repository` keeps one row: what the gateway is doing, over which tuple of method, uplink,
path and node, in which quality class, and whether a policy change is being verified.  Every
operation is one transaction, so it returns an error and leaves the row alone, or it returns the
row after it and whether it changed it.

The events that the operations append, and the probe schedule that the boot intent resets, are
not read by anything modelled here and are left out; an event that cannot be written fails the
transaction as any other statement of it does.
-/

namespace GatewayVpn.Access

/-! ## the row -/

inductive GatewayState where
  | booting
  | allUplinksOffline
  | noBypassTargets
  | noWorkingSubscription
  | verifying
  | verifyingPolicy
  | degradedTarget
  | active
  | degraded
  | switching
  | blocked
  deriving DecidableEq

inductive RuntimePathState where
  | blocked
  | verifying
  | active
  deriving DecidableEq

def noStamp : Stamp := .malformed ""

structure Snapshot where
  gatewayState : GatewayState := .booting
  pathState : RuntimePathState := .blocked
  activeUplinkID : String := ""
  activeModemID : String := ""
  activePathID : String := ""
  activeDirectPathID : String := ""
  managementUplinkID : String := ""
  managementModemID : String := ""
  activeSubscriptionID : String := ""
  activeNodeID : String := ""
  activeMethodID : String := ""
  activeMethodKind : MethodKind := .other ""
  activeQualityClass : Quality := .other ""
  configGeneration : Int := 0
  policyTransitionGeneration : Int := 0
  policyTransitionStartedAt : Stamp := noStamp
  policyTransitionDeadline : Stamp := noStamp
  updatedAt : Stamp := noStamp
  deriving DecidableEq

namespace Snapshot

def policyTransitionActive (s : Snapshot) : Bool :=
  s.gatewayState = .verifyingPolicy && s.pathState = .active &&
    s.policyTransitionGeneration > 0 && s.policyTransitionStartedAt ≠ noStamp &&
    s.policyTransitionDeadline ≠ noStamp && s.activeUplinkID ≠ "" && s.activePathID ≠ "" &&
    s.activeDirectPathID = "" && s.activeSubscriptionID ≠ "" && s.activeNodeID ≠ "" &&
    s.activeMethodKind = .subscription

/-- the columns of a policy transition set to `NULL` -/
def clearTransition (s : Snapshot) : Snapshot :=
  { s with policyTransitionGeneration := 0, policyTransitionStartedAt := noStamp,
           policyTransitionDeadline := noStamp }

def noTransition (s : Snapshot) : Bool :=
  s.policyTransitionGeneration = 0 && s.policyTransitionStartedAt = noStamp &&
    s.policyTransitionDeadline = noStamp

/-- the tuple and its class set to `NULL` -/
def clearTuple (s : Snapshot) : Snapshot :=
  { s with activeUplinkID := "", activeModemID := "", activePathID := "", activeDirectPathID := "",
           activeSubscriptionID := "", activeNodeID := "", activeMethodID := "",
           activeMethodKind := .other "", activeQualityClass := .other "" }

end Snapshot

def stampText : Stamp → List Char
  | .format t => rfc3339Nano t
  | .malformed s => s.toList

/-- the trigger `runtime_state_policy_transition_validate_update` lets the row through -/
def transitionValid (s : Snapshot) : Bool :=
  s.noTransition ||
    (s.policyTransitionGeneration > 0 && s.policyTransitionStartedAt ≠ noStamp &&
      s.policyTransitionDeadline ≠ noStamp &&
      lexLess (stampText s.policyTransitionStartedAt) (stampText s.policyTransitionDeadline) &&
      s.gatewayState = .verifyingPolicy && s.pathState = .active && s.activeUplinkID ≠ "" &&
      s.activePathID ≠ "" && s.activeSubscriptionID ≠ "" && s.activeNodeID ≠ "" &&
      s.activeMethodKind = .subscription)

def invalidTransition : Fault := .text "invalid generic runtime policy transition"

/-- the row after an operation and whether it was changed -/
abbrev Committed := Except Fault (Snapshot × Bool)

/-- an update that keeps the columns of a policy transition and is checked by the trigger -/
def checked (s : Snapshot) : Committed :=
  if transitionValid s then .ok (s, true) else .error invalidTransition

def Committed.row (r : Committed) (before : Snapshot) : Snapshot :=
  match r with
  | .ok (after, _) => after
  | .error _ => before

/-! ## activation of a subscription path -/

section
variable (db : Database)

def verifyingPath (now : Time) (path : FreshPath) (s : Snapshot) : Snapshot :=
  { s.clearTransition with
    gatewayState := .verifying, pathState := .verifying, activeUplinkID := path.uplinkID,
    activeModemID := db.modemOf path.uplinkID, activePathID := path.id, activeDirectPathID := "",
    activeSubscriptionID := path.subscriptionID, activeNodeID := path.nodeID,
    activeMethodID := path.methodID, activeMethodKind := .subscription,
    activeQualityClass := path.qualityClass, configGeneration := s.configGeneration + 1,
    updatedAt := .format now }

def beginActivation (now : Time) (current : Snapshot) (pathID nodeID : String)
    (policyGeneration routeGeneration : Int) : Committed :=
  match readFreshPath db now pathID nodeID policyGeneration routeGeneration with
  | .error err => .error err
  | .ok path =>
    if current.pathState = .verifying && current.activePathID = path.id &&
        current.activeNodeID = path.nodeID then
      .ok (current, false)
    else .ok (verifyingPath db now path current, true)

def beginNodeActivation (now : Time) (current : Snapshot) (pathID nodeID : String)
    (policyGeneration routeGeneration : Int) : Committed :=
  if trimSpace nodeID = "" then .error (.text "node id is required for exact activation")
  else beginActivation db now current pathID nodeID policyGeneration routeGeneration

def finishActivation (now : Time) (current : Snapshot) (pathID nodeID : String)
    (policyGeneration routeGeneration : Int) : Committed :=
  match readFreshPath db now pathID nodeID policyGeneration routeGeneration with
  | .error err => .error err
  | .ok path =>
    if current.pathState = .active && current.activePathID = path.id &&
        current.activeNodeID = path.nodeID then
      .ok (current, false)
    else if current.pathState ≠ .verifying || current.activePathID ≠ path.id ||
        current.activeNodeID ≠ path.nodeID then
      .error .staleGeneration
    else
      -- the class that the start recorded stays
      .ok ({ current.clearTransition with
              gatewayState := .active, pathState := .active, updatedAt := .format now }, true)

def finishNodeActivation (now : Time) (current : Snapshot) (pathID nodeID : String)
    (policyGeneration routeGeneration : Int) : Committed :=
  if trimSpace nodeID = "" then
    .error (.text "node id is required for exact activation completion")
  else finishActivation db now current pathID nodeID policyGeneration routeGeneration

end

/-! ## activation of a direct path -/

def verifyingDirect (db : Database) (now : Time) (path : FreshDirectPath) (s : Snapshot) :
    Snapshot :=
  { s.clearTransition with
    gatewayState := .verifying, pathState := .verifying, activeUplinkID := path.uplinkID,
    activeModemID := db.modemOf path.uplinkID, activePathID := "", activeDirectPathID := path.id,
    activeSubscriptionID := "", activeNodeID := "", activeMethodID := path.methodID,
    activeMethodKind := .direct, activeQualityClass := path.qualityClass,
    configGeneration := s.configGeneration + 1, updatedAt := .format now }

def beginDirectActivation (db : Database) (now : Time) (current : Snapshot) (pathID : String)
    (policyGeneration routeGeneration : Int) : Committed :=
  match readFreshDirectPath db now pathID policyGeneration routeGeneration with
  | .error err => .error err
  | .ok path =>
    if current.pathState = .verifying && current.activeDirectPathID = path.id &&
        current.activeMethodKind = .direct then
      .ok (current, false)
    else .ok (verifyingDirect db now path current, true)

def finishDirectActivation (db : Database) (now : Time) (current : Snapshot) (pathID : String)
    (policyGeneration routeGeneration : Int) : Committed :=
  match readFreshDirectPath db now pathID policyGeneration routeGeneration with
  | .error err => .error err
  | .ok path =>
    if current.pathState = .active && current.activeDirectPathID = path.id &&
        current.activeMethodKind = .direct then
      .ok (current, false)
    else if current.pathState ≠ .verifying || current.activeDirectPathID ≠ path.id ||
        current.activeMethodKind ≠ .direct then
      .error .staleGeneration
    else
      .ok ({ current.clearTransition with
              gatewayState := .active, pathState := .active,
              activeQualityClass := path.qualityClass, updatedAt := .format now }, true)

/-! ## giving the tuple up -/

def validBlockedGatewayState : GatewayState → Bool
  | .allUplinksOffline => true
  | .noBypassTargets => true
  | .noWorkingSubscription => true
  | .blocked => true
  | _ => false

def alreadyBlocked (current : Snapshot) (gatewayState : GatewayState) : Bool :=
  current.gatewayState = gatewayState && current.pathState = .blocked &&
    current.activeUplinkID = "" && current.activeModemID = "" && current.activePathID = "" &&
    current.activeDirectPathID = "" && current.activeSubscriptionID = "" &&
    current.activeNodeID = "" && current.activeMethodID = "" &&
    current.activeMethodKind = .other "" && current.activeQualityClass = .other ""

def blockedRow (now : Time) (gatewayState : GatewayState) (s : Snapshot) : Snapshot :=
  { s.clearTransition.clearTuple with
    gatewayState, pathState := .blocked, configGeneration := s.configGeneration + 1,
    updatedAt := .format now }

def block (now : Time) (current : Snapshot) (gatewayState : GatewayState) (reason : String) :
    Committed :=
  if !validBlockedGatewayState gatewayState || trimSpace reason = "" then
    .error (.text "valid blocked gateway state and reason are required")
  else if alreadyBlocked current gatewayState then .ok (current, false)
  else .ok (blockedRow now gatewayState current, true)

/-! ## a policy change -/

def finishPolicyVerification (db : Database) (now : Time) (current : Snapshot)
    (expectedGeneration : Int) : Committed :=
  if expectedGeneration ≤ 0 then
    .error (.text "positive policy transition generation is required")
  else if !current.policyTransitionActive ||
      current.policyTransitionGeneration ≠ expectedGeneration then
    .error .staleGeneration
  else match current.policyTransitionDeadline.parse with
  | none => .error (.text "stored policy transition deadline is invalid")
  | some deadline =>
  if deadline ≤ now then .error .policyGraceExpired
  else match verifiedPathRow db (textAfter now) current.activePathID current.activeUplinkID
      current.activeSubscriptionID current.activeNodeID expectedGeneration with
  | none => .error .staleGeneration
  | some quality =>
    .ok ({ current.clearTransition with
            gatewayState := .active, activeQualityClass := quality, updatedAt := .format now },
      true)

def recoverPolicyTransition (now : Time) (current : Snapshot) : Committed :=
  if !current.policyTransitionActive then .ok (current, false)
  else .ok (blockedRow now .blocked current, true)

/-! ## a suspected outage -/

/-- the query of `MarkTargetDegraded` -/
def degradedRow (db : Database) (after : Time → Bool) (pathID nodeID : String)
    (policyGeneration routeGeneration : Int) : Option Path := do
  let p ← db.paths.find pathID
  let pn ← db.pathNodes.find (p.id, nodeID)
  if p.state = .degraded && p.transportState = .passed && p.selectedNodeID = some nodeID &&
      p.policyGeneration = policyGeneration && p.routeGeneration = routeGeneration &&
      pn.state = .bypassFailed && sameGenerations p pn && expiresAfter after pn.expiresAt then
    some p
  else none

def markTargetDegraded (db : Database) (now written : Time) (current : Snapshot)
    (pathID nodeID : String) (policyGeneration routeGeneration : Int) : Committed :=
  if current.gatewayState = .degradedTarget && current.pathState = .active &&
      current.activePathID = pathID && current.activeNodeID = nodeID then
    .ok (current, false)
  else if current.pathState ≠ .active || current.activePathID ≠ pathID ||
      current.activeNodeID ≠ nodeID then
    .error .staleGeneration
  else match degradedRow db (textAfter now) pathID nodeID policyGeneration routeGeneration with
  | none => .error .staleGeneration
  | some _ =>
    checked { current with gatewayState := .degradedTarget, updatedAt := .format written }

def recoverTargetDegraded (db : Database) (now : Time) (current : Snapshot)
    (pathID nodeID : String) (policyGeneration routeGeneration : Int) : Committed :=
  match readFreshPath db now pathID nodeID policyGeneration routeGeneration with
  | .error err => .error err
  | .ok _ =>
    if current.gatewayState = .active && current.pathState = .active &&
        current.activePathID = pathID && current.activeNodeID = nodeID then
      .ok (current, false)
    else if current.gatewayState ≠ .degradedTarget || current.pathState ≠ .active ||
        current.activePathID ≠ pathID || current.activeNodeID ≠ nodeID then
      .error .staleGeneration
    else checked { current with gatewayState := .active, updatedAt := .format now }

/-! ## at boot -/

/-- the spaces that SQLite skips in front of a number -/
def sqlSpace (c : Char) : Bool :=
  c = ' ' || c = '\t' || c = '\n' || c = '\x0b' || c = '\x0c' || c = '\r'

/-- `CAST(_ AS INTEGER)`: the number at the start of a text, kept within 64 bits -/
def sqlInteger (s : String) : Int :=
  let value : Int := match s.toList.dropWhile sqlSpace with
    | '-' :: rest => -(decimal (rest.takeWhile isDigit) : Int)
    | '+' :: rest => decimal (rest.takeWhile isDigit)
    | text => decimal (text.takeWhile isDigit)
  max (-2 ^ 63) (min value (2 ^ 63 - 1))

section
variable (db : Database)

/-- `COALESCE(CAST((SELECT value_json …) AS INTEGER)-1, 0)` -/
def storedPolicyGeneration : Int :=
  match db.nextPolicyGeneration with
  | none => 0
  | some value => sqlInteger value - 1

def startupPathValid (current : Snapshot) : Bool :=
  (do
    let p ← db.paths.find current.activePathID
    let u ← db.uplinks.find p.uplinkID
    let s ← db.subscriptions.find p.subscriptionID
    let version ← s.activeVersionID
    let v ← db.versions.find version
    let n ← db.nodes.find current.activeNodeID
    let a ← db.methods.find current.activeMethodID
    some (v.lastKnownGood && n.versionID = v.id && a.kind = .subscription &&
      a.subscriptionID = some s.id && p.uplinkID = current.activeUplinkID &&
      p.subscriptionID = current.activeSubscriptionID && p.routeGeneration = u.routeGeneration &&
      p.policyGeneration = storedPolicyGeneration db && a.enabled && s.enabled && u.isReady &&
      n.enabled && n.selectionOverride ≠ .exclude)) = some true

def startupDirectValid (current : Snapshot) : Bool :=
  (do
    let p ← db.directPaths.find current.activeDirectPathID
    let u ← db.uplinks.find p.uplinkID
    let a ← db.methods.find current.activeMethodID
    some (a.kind = .direct && p.uplinkID = current.activeUplinkID &&
      p.routeGeneration = u.routeGeneration && p.policyGeneration = storedPolicyGeneration db &&
      a.enabled && u.isReady)) = some true

def startupTupleValid (current : Snapshot) : Bool :=
  match current.activeMethodKind with
  | .subscription =>
    (current.activeQualityClass = .full || current.activeQualityClass = .limited) &&
      current.activePathID ≠ "" && current.activeDirectPathID = "" &&
      current.activeUplinkID ≠ "" && current.activeSubscriptionID ≠ "" &&
      current.activeNodeID ≠ "" && current.activeMethodID ≠ "" && startupPathValid db current
  | .direct =>
    (current.activeQualityClass = .full || current.activeQualityClass = .limited ||
        current.activeQualityClass = .whitelistOnly) &&
      current.activeDirectPathID ≠ "" && current.activePathID = "" &&
      current.activeUplinkID ≠ "" && current.activeSubscriptionID = "" &&
      current.activeNodeID = "" && current.activeMethodID ≠ "" && startupDirectValid db current
  | .other _ => false

def startupRefresh : Time := 30 * second

/-- the expiry of a direct path is brought forward, so that it is checked again soon -/
def shortenExpiry (now : Time) (p : DirectPath) : DirectPath :=
  { p with expiresAt := p.expiresAt.map fun e =>
      if julianAfter db (now + startupRefresh) e then now + startupRefresh else e }

theorem shortenExpiry_id (now : Time) (p : DirectPath) : (shortenExpiry db now p).id = p.id := rfl

def shortenDirect (now : Time) (pathID : String) : Database :=
  { db with directPaths :=
      db.directPaths.update pathID (shortenExpiry db now) (shortenExpiry_id db now) }

def prepareStartupRecovery (now : Time) (current : Snapshot) : Committed × Database :=
  if current.pathState ≠ .active || !current.noTransition || !startupTupleValid db current then
    (.error .notFound, db)
  else
    (.ok ({ current.clearTransition with
            gatewayState := .verifying, pathState := .verifying,
            configGeneration := current.configGeneration + 1, updatedAt := .format now }, true),
      if current.activeMethodKind = .direct then shortenDirect db now current.activeDirectPathID
      else db)

end

/-! ## management traffic -/

def setManagementUplink (db : Database) (now : Time) (current : Snapshot)
    (uplinkID reason : String) (requireHiLink : Bool) : Committed :=
  if trimSpace reason = "" then .error (.text "management uplink reason is required")
  else if current.managementUplinkID = uplinkID then .ok (current, false)
  else if uplinkID ≠ "" && !((db.uplinks.find uplinkID).any Uplink.isReady &&
      (!requireHiLink || db.hilinkModems.contains uplinkID)) then
    .error (.text "management uplink must be enabled and ready")
  else checked { current with
    managementUplinkID := uplinkID, managementModemID := db.modemOf uplinkID,
    updatedAt := .format now }

/-! ## what an accepted operation has read and written -/

section Accepted

variable {db : Database} {now : Time} {s after : Snapshot} {changed : Bool}
  {pathID nodeID : String} {policyGeneration routeGeneration : Int}

theorem readFreshPath_eq_ok {path : FreshPath} :
    readFreshPath db now pathID nodeID policyGeneration routeGeneration = .ok path ↔
      freshPathRow db (textAfter now) pathID nodeID policyGeneration routeGeneration =
        some path := by
  rw [readFreshPath]
  split <;> simp [*]

theorem readFreshDirectPath_eq_ok {path : FreshDirectPath} :
    readFreshDirectPath db now pathID policyGeneration routeGeneration = .ok path ↔
      freshDirectRow db (julianAfter db now) pathID policyGeneration routeGeneration = some path := by
  rw [readFreshDirectPath]
  split <;> simp [*]

theorem checked_ok {row : Snapshot} (h : checked row = .ok (after, changed)) : after = row := by
  rw [checked] at h
  split at h
  · cases h
    rfl
  · cases h

theorem beginActivation_ok
    (h : beginActivation db now s pathID nodeID policyGeneration routeGeneration =
      .ok (after, changed)) :
    ∃ path, readFreshPath db now pathID nodeID policyGeneration routeGeneration = .ok path ∧
      ((after = s ∧ s.pathState = .verifying) ∨ after = verifyingPath db now path s) := by
  rw [beginActivation] at h
  split at h
  · cases h
  next path hread =>
  refine ⟨path, hread, ?_⟩
  split at h
  · next hsame =>
    cases h
    simp only [Bool.and_eq_true, decide_eq_true_eq] at hsame
    exact Or.inl ⟨rfl, hsame.1.1⟩
  · cases h
    exact Or.inr rfl

theorem finishActivation_ok
    (h : finishActivation db now s pathID nodeID policyGeneration routeGeneration =
      .ok (after, changed)) :
    ∃ path, readFreshPath db now pathID nodeID policyGeneration routeGeneration = .ok path ∧
      s.activePathID = path.id ∧ s.activeNodeID = path.nodeID ∧
      ((after = s ∧ s.pathState = .active) ∨ after = { s.clearTransition with
          gatewayState := .active, pathState := .active, updatedAt := .format now }) := by
  rw [finishActivation] at h
  split at h
  · cases h
  next path hread =>
  refine ⟨path, hread, ?_⟩
  split at h
  · next hactive =>
    cases h
    simp only [Bool.and_eq_true, decide_eq_true_eq] at hactive
    exact ⟨hactive.1.2, hactive.2, Or.inl ⟨rfl, hactive.1.1⟩⟩
  split at h
  · cases h
  next hsame =>
  cases h
  simp only [Bool.or_eq_true, decide_eq_true_eq, not_or, not_not] at hsame
  exact ⟨hsame.1.2, hsame.2, Or.inr rfl⟩

theorem beginDirectActivation_ok
    (h : beginDirectActivation db now s pathID policyGeneration routeGeneration =
      .ok (after, changed)) :
    ∃ path, readFreshDirectPath db now pathID policyGeneration routeGeneration = .ok path ∧
      ((after = s ∧ s.pathState = .verifying) ∨ after = verifyingDirect db now path s) := by
  rw [beginDirectActivation] at h
  split at h
  · cases h
  next path hread =>
  refine ⟨path, hread, ?_⟩
  split at h
  · next hsame =>
    cases h
    simp only [Bool.and_eq_true, decide_eq_true_eq] at hsame
    exact Or.inl ⟨rfl, hsame.1.1⟩
  · cases h
    exact Or.inr rfl

theorem finishDirectActivation_ok
    (h : finishDirectActivation db now s pathID policyGeneration routeGeneration =
      .ok (after, changed)) :
    ∃ path, readFreshDirectPath db now pathID policyGeneration routeGeneration = .ok path ∧
      s.activeDirectPathID = path.id ∧ s.activeMethodKind = .direct ∧
      ((after = s ∧ s.pathState = .active) ∨ after = { s.clearTransition with
          gatewayState := .active, pathState := .active,
          activeQualityClass := path.qualityClass, updatedAt := .format now }) := by
  rw [finishDirectActivation] at h
  split at h
  · cases h
  next path hread =>
  refine ⟨path, hread, ?_⟩
  split at h
  · next hactive =>
    cases h
    simp only [Bool.and_eq_true, decide_eq_true_eq] at hactive
    exact ⟨hactive.1.2, hactive.2, Or.inl ⟨rfl, hactive.1.1⟩⟩
  split at h
  · cases h
  next hsame =>
  cases h
  simp only [Bool.or_eq_true, decide_eq_true_eq, not_or, not_not] at hsame
  exact ⟨hsame.1.2, hsame.2, Or.inr rfl⟩

theorem block_ok {gatewayState : GatewayState} {reason : String}
    (h : block now s gatewayState reason = .ok (after, changed)) :
    (after = s ∧ s.pathState = .blocked) ∨ after = blockedRow now gatewayState s := by
  rw [block] at h
  split at h
  · cases h
  split at h
  · next hblocked =>
    cases h
    simp only [alreadyBlocked, Bool.and_eq_true, decide_eq_true_eq] at hblocked
    exact Or.inl ⟨rfl, hblocked.1.1.1.1.1.1.1.1.1.2⟩
  · cases h
    exact Or.inr rfl

theorem finishPolicyVerification_ok {generation : Int}
    (h : finishPolicyVerification db now s generation = .ok (after, changed)) :
    s.activeDirectPathID = "" ∧ ∃ quality,
      verifiedPathRow db (textAfter now) s.activePathID s.activeUplinkID s.activeSubscriptionID
        s.activeNodeID generation = some quality ∧ after = { s.clearTransition with
        gatewayState := .active, activeQualityClass := quality, updatedAt := .format now } := by
  rw [finishPolicyVerification] at h
  split at h
  · cases h
  split at h
  · cases h
  next hopen =>
  split at h
  · cases h
  split at h
  · cases h
  split at h
  · cases h
  next quality hrow =>
  cases h
  simp only [Bool.or_eq_true, Bool.not_eq_true', not_or, Bool.not_eq_false,
    Snapshot.policyTransitionActive, Bool.and_eq_true, decide_eq_true_eq] at hopen
  exact ⟨hopen.1.1.1.1.2, quality, hrow, rfl⟩

theorem recoverTargetDegraded_ok
    (h : recoverTargetDegraded db now s pathID nodeID policyGeneration routeGeneration =
      .ok (after, changed)) :
    after = s ∨ after = { s with gatewayState := .active, updatedAt := .format now } := by
  rw [recoverTargetDegraded] at h
  split at h
  · cases h
  split at h
  · cases h
    exact Or.inl rfl
  split at h
  · cases h
  · exact Or.inr (checked_ok h)

end Accepted

end GatewayVpn.Access
