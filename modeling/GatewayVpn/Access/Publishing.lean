import GatewayVpn.Access.Repository
import GatewayVpn.Durable.Logic

/-!
# Access: publishing evidence

The probes write what they found with `StoreQualification` for a subscription path and with
`DirectPathRepository.Publish` for a direct path.  Both replace the evidence of one path in one
transaction, and refuse it when the generations have moved on.

Error codes, HTTP statuses and the counters of a subscription path are stored for display and left
out.
-/

namespace GatewayVpn.Access

open Durable List

/-! ## several rows at once -/

/-- a list of `INSERT`s, of which the first that violates the key fails them all -/
def insertAll {ρ κ : Type} [DecidableEq κ] {key : ρ → κ} (t : Table key) :
    List ρ → Option (Table key)
  | [] => some t
  | r :: rs => (t.insert r).bind fun t' => insertAll t' rs

theorem insertAll_rows {ρ κ : Type} [DecidableEq κ] {key : ρ → κ} {rs : List ρ} {t t' : Table key}
    (h : insertAll t rs = some t') : t'.rows = t.rows ++ rs := by
  induction rs generalizing t with
  | nil =>
    cases h
    simp
  | cons r rs ih =>
    obtain ⟨u, hu, hrest⟩ := Option.bind_eq_some_iff.mp h
    rw [ih hrest]
    unfold Table.insert at hu
    split at hu
    · cases hu
    · cases hu
      simp

/-! ## subscription paths -/

structure TargetEvidence where
  targetID : String
  state : ResultState
  latencyMS : Int := 0

structure NodeEvidence where
  nodeID : String
  state : QualificationState
  latencyMS : Int := 0
  targets : List TargetEvidence := []

structure QualificationSnapshot where
  pathID : String
  expectedPolicyGeneration : Int
  expectedRouteGeneration : Int
  state : PathState
  transportState : TransportState
  selectedNodeID : String := ""
  requiredTargetsPassed : Int
  requiredTargetsTotal : Int
  optionalTargetsPassed : Int := 0
  optionalTargetsTotal : Int := 0
  functionalScore : Int := 0
  latencyMS : Int := 0
  checkedAt : Time
  expiresAt : Time
  nodes : List NodeEvidence := []

def PathState.toText : PathState → String
  | .uplinkOffline => "UPLINK_OFFLINE"
  | .uplinkDisabled => "UPLINK_DISABLED"
  | .subscriptionDisabled => "SUBSCRIPTION_DISABLED"
  | .subnetConflict => "SUBNET_CONFLICT"
  | .untested => "UNTESTED"
  | .probing => "PROBING"
  | .qualified => "QUALIFIED"
  | .degraded => "DEGRADED"
  | .failed => "FAILED"
  | .stale => "STALE"
  | .other text => text

def finalState : PathState → Bool
  | .qualified => true
  | .degraded => true
  | .failed => true
  | .stale => true
  | _ => false

def validateTargets : List TargetEvidence → List String → Except Fault Unit
  | [], _ => .ok ()
  | target :: targets, seen =>
    if target.targetID = "" || target.latencyMS < 0 then
      .error (.text "invalid target qualification evidence")
    else if seen.contains target.targetID then
      .error (.text "duplicate target qualification evidence")
    else validateTargets targets (target.targetID :: seen)

def validateNodes : List NodeEvidence → List String → Except Fault Unit
  | [], _ => .ok ()
  | node :: nodes, seen =>
    if node.nodeID = "" || (node.state ≠ .bypassQualified && node.state ≠ .bypassLimited &&
        node.state ≠ .bypassFailed) || node.latencyMS < 0 then
      .error (.text "invalid node qualification evidence")
    else if seen.contains node.nodeID then
      .error (.text "duplicate node qualification evidence")
    else match validateTargets node.targets [] with
    | .error err => .error err
    | .ok () => validateNodes nodes (node.nodeID :: seen)

section
variable (snapshot : QualificationSnapshot)

def selectedIn (state : QualificationState) : Bool :=
  snapshot.nodes.any fun node => node.nodeID = snapshot.selectedNodeID && node.state = state

def validateSelection : Except Fault Unit :=
  match snapshot.state with
  | .qualified =>
    if snapshot.transportState ≠ .passed || snapshot.selectedNodeID = "" ||
        snapshot.requiredTargetsPassed ≠ snapshot.requiredTargetsTotal then
      .error (.text
        "qualified snapshot requires passed transport, selected node, and all required targets")
    else if !selectedIn snapshot .bypassQualified then
      .error (.text "selected node is not qualified in this snapshot")
    else .ok ()
  | .degraded =>
    if snapshot.transportState ≠ .passed || snapshot.selectedNodeID = "" ||
        snapshot.functionalScore ≤ 0 ||
        snapshot.requiredTargetsPassed ≥ snapshot.requiredTargetsTotal then
      .error (.text
        "degraded snapshot requires passed transport, selected node, and partial target access")
    else if !selectedIn snapshot .bypassLimited then
      .error (.text "selected node is not limited in this snapshot")
    else .ok ()
  | _ => .ok ()

def validateQualificationSnapshot : Except Fault Unit :=
  if snapshot.pathID = "" || snapshot.checkedAt = zeroTime || snapshot.expiresAt = zeroTime ||
      !(snapshot.expiresAt > snapshot.checkedAt) then
    .error (.text "qualification path, check time, and future expiry are required")
  else if !finalState snapshot.state then
    .error (.text ("invalid final qualification state " ++ quote snapshot.state.toText))
  else if snapshot.requiredTargetsTotal ≤ 0 || snapshot.requiredTargetsPassed < 0 ||
      snapshot.requiredTargetsPassed > snapshot.requiredTargetsTotal || snapshot.latencyMS < 0 then
    .error (.text "invalid qualification counters")
  else match validateNodes snapshot.nodes [] with
  | .error err => .error err
  | .ok () => validateSelection snapshot

def activeVersionNode (db : Database) (version subscriptionID nodeID : String) : Bool :=
  (do
    let n ← db.nodes.find nodeID
    let v ← db.versions.find n.versionID
    some (v.id = version && v.subscriptionID = subscriptionID)) = some true

def classOfState : PathState → Quality
  | .qualified => .full
  | .degraded => .limited
  | _ => .failed

def scoreOf : Int :=
  match snapshot.state with
  | .qualified => snapshot.requiredTargetsPassed * 1000 + snapshot.optionalTargetsPassed
  | .degraded => snapshot.functionalScore
  | _ => 0

def nullIfEmpty (value : String) : Option String := if value = "" then none else some value

def nullIfZero (value : Int) : Option Int := if value = 0 then none else some value

def pathNodeRow (node : NodeEvidence) : PathNode :=
  { pathID := snapshot.pathID, nodeID := node.nodeID, state := node.state,
    policyGeneration := snapshot.expectedPolicyGeneration,
    routeGeneration := snapshot.expectedRouteGeneration, expiresAt := some snapshot.expiresAt }

def targetRows (node : NodeEvidence) : List TargetResult :=
  node.targets.map fun target =>
    { pathID := snapshot.pathID, nodeID := node.nodeID, targetID := target.targetID,
      state := target.state, policyGeneration := snapshot.expectedPolicyGeneration,
      routeGeneration := snapshot.expectedRouteGeneration, expiresAt := some snapshot.expiresAt }

def aggregate (p : Path) : Path :=
  { p with
    state := snapshot.state, transportState := snapshot.transportState,
    selectedNodeID := nullIfEmpty snapshot.selectedNodeID, quality := classOfState snapshot.state,
    functionalScore := scoreOf snapshot, latencyMS := nullIfZero snapshot.latencyMS,
    expiresAt := some snapshot.expiresAt }

theorem aggregate_id (p : Path) : (aggregate snapshot p).id = p.id := rfl

end

/-- the `CHECK`s and the foreign keys of the rows written -/
def qualificationConstraints (db : Database) (snapshot : QualificationSnapshot) : Bool :=
  0 ≤ snapshot.optionalTargetsPassed &&
    snapshot.optionalTargetsPassed ≤ snapshot.optionalTargetsTotal &&
    (snapshot.selectedNodeID = "" || (db.nodes.find snapshot.selectedNodeID).isSome) &&
    snapshot.nodes.all fun node => node.targets.all fun target =>
      (db.targets.find target.targetID).isSome

def constraintFailed : Fault := .text "constraint failed"

def storeQualification (db : Database) (snapshot : QualificationSnapshot) : Except Fault Database :=
  match validateQualificationSnapshot snapshot with
  | .error err => .error err
  | .ok () =>
  match (do let p ← db.paths.find snapshot.pathID
            let s ← db.subscriptions.find p.subscriptionID
            some (p, s)) with
  | none => .error .notFound
  | some (p, s) =>
  if p.policyGeneration ≠ snapshot.expectedPolicyGeneration ||
      p.routeGeneration ≠ snapshot.expectedRouteGeneration then
    .error .staleGeneration
  else if s.activeVersionID.getD "" = "" then
    .error (.text "subscription has no active version")
  else match snapshot.nodes.find? fun node =>
      !activeVersionNode db (s.activeVersionID.getD "") p.subscriptionID node.nodeID with
  | some node =>
    .error (.text ("node " ++ node.nodeID ++
      " does not belong to the active subscription version"))
  | none =>
  if !qualificationConstraints db snapshot then .error constraintFailed
  else match
    insertAll (db.pathNodes.delete fun pn => pn.pathID = snapshot.pathID)
      (snapshot.nodes.map (pathNodeRow snapshot)),
    -- the results go with their nodes
    insertAll (db.targetResults.delete fun r => r.pathID = snapshot.pathID)
      (snapshot.nodes.flatMap (targetRows snapshot)) with
  | some pathNodes, some targetResults =>
    .ok { db with
      pathNodes, targetResults,
      paths := db.paths.update snapshot.pathID (aggregate snapshot) (aggregate_id snapshot) }
  | _, _ => .error constraintFailed

theorem storeQualification_ok {db db' : Database} {snapshot : QualificationSnapshot}
    (h : storeQualification db snapshot = .ok db') :
    db'.paths = db.paths.update snapshot.pathID (aggregate snapshot) (aggregate_id snapshot) ∧
      db'.directPaths = db.directPaths := by
  unfold storeQualification at h
  cases hvalid : validateQualificationSnapshot snapshot with
  | error err =>
    rw [hvalid] at h
    cases h
  | ok _ =>
  simp only [hvalid] at h
  split at h
  · cases h
  split at h
  · cases h
  split at h
  · cases h
  split at h
  · cases h
  split at h
  · cases h
  split at h
  · cases h
    exact ⟨rfl, rfl⟩
  · cases h

/-! ## direct paths -/

structure DirectTargetResult where
  targetID : String
  targetClass : TargetClass
  state : ResultState
  latencyMS : Int := 0
  checkedAt : Time
  expiresAt : Time

structure DirectResultUpdate where
  pathID : String
  expectedPolicyGeneration : Int
  expectedRouteGeneration : Int
  transportState : TransportState
  qualityClass : Quality
  functionalScore : Int
  requiredTargetsPassed : Int
  requiredTargetsTotal : Int
  optionalTargetsPassed : Int
  optionalTargetsTotal : Int
  whitelistTargetsPassed : Int
  whitelistTargetsTotal : Int
  latencyMS : Int := 0
  checkedAt : Time
  expiresAt : Time
  targets : List DirectTargetResult

def probedDirectly : TargetClass → Bool
  | .globalRequired => true
  | .globalOptional => true
  | .whitelistIndicator => true
  | .serviceEndpoint => false

def validDirectTarget (target : DirectTargetResult) : Bool :=
  target.targetID ≠ "" && probedDirectly target.targetClass &&
    (target.state = .passed || target.state = .failed) && 0 ≤ target.latencyMS &&
    target.checkedAt ≠ zeroTime && target.expiresAt > target.checkedAt

section
variable (update : DirectResultUpdate)

def validateDirectResult : Except Fault Unit :=
  if trimSpace update.pathID = "" || update.expectedPolicyGeneration < 0 ||
      update.expectedRouteGeneration < 0 || update.checkedAt = zeroTime ||
      !(update.expiresAt > update.checkedAt) then
    .error (.text "direct result identity, generations, or freshness is invalid")
  else if update.transportState ≠ .passed && update.transportState ≠ .failed then
    .error (.text "direct result transport state is invalid")
  else if update.qualityClass ≠ .full && update.qualityClass ≠ .limited &&
      update.qualityClass ≠ .whitelistOnly && update.qualityClass ≠ .failed then
    .error (.text "direct result quality class is invalid")
  else if update.functionalScore < 0 || update.requiredTargetsPassed < 0 ||
      update.requiredTargetsTotal < 0 || update.optionalTargetsPassed < 0 ||
      update.optionalTargetsTotal < 0 || update.whitelistTargetsPassed < 0 ||
      update.whitelistTargetsTotal < 0 || update.latencyMS < 0 ||
      update.requiredTargetsPassed > update.requiredTargetsTotal ||
      update.optionalTargetsPassed > update.optionalTargetsTotal ||
      update.whitelistTargetsPassed > update.whitelistTargetsTotal then
    .error (.text "direct result counters are invalid")
  else if (update.targets.length : Int) ≠ update.requiredTargetsTotal +
      update.optionalTargetsTotal + update.whitelistTargetsTotal then
    .error (.text "direct target evidence count does not match result totals")
  else if update.qualityClass = .full && (update.transportState ≠ .passed ||
      update.requiredTargetsTotal = 0 ||
      update.requiredTargetsPassed ≠ update.requiredTargetsTotal) then
    .error (.text "FULL direct result requires passed transport and every required target")
  else if update.qualityClass = .limited && (update.transportState ≠ .passed ||
      update.functionalScore ≤ 0 || update.requiredTargetsTotal > 0 &&
      update.requiredTargetsPassed = update.requiredTargetsTotal) then
    .error (.text "LIMITED direct result requires partial target access and positive score")
  else if update.qualityClass = .whitelistOnly && (update.transportState ≠ .passed ||
      update.functionalScore ≤ 0 || update.requiredTargetsPassed ≠ 0 ||
      update.optionalTargetsPassed ≠ 0 || update.whitelistTargetsPassed ≤ 0) then
    .error (.text "WHITELIST_ONLY direct result requires whitelist evidence and no passed global target")
  else if !update.targets.all validDirectTarget then
    .error (.text "direct target evidence is invalid")
  else .ok ()

def stateOfClass : Quality → PathState
  | .full => .qualified
  | .limited => .degraded
  | .whitelistOnly => .degraded
  | _ => .failed

def directAggregate (p : DirectPath) : DirectPath :=
  { p with
    state := stateOfClass update.qualityClass, transportState := update.transportState,
    quality := update.qualityClass, functionalScore := update.functionalScore,
    requiredTargetsPassed := update.requiredTargetsPassed,
    requiredTargetsTotal := update.requiredTargetsTotal,
    optionalTargetsPassed := update.optionalTargetsPassed,
    optionalTargetsTotal := update.optionalTargetsTotal,
    whitelistTargetsPassed := update.whitelistTargetsPassed,
    whitelistTargetsTotal := update.whitelistTargetsTotal,
    expiresAt := some update.expiresAt }

theorem directAggregate_id (p : DirectPath) :
    (directAggregate update p).id = p.id := rfl

end

def publishedRow (db : Database) (update : DirectResultUpdate) : Option DirectPath :=
  (db.directPaths.find update.pathID).filter fun p =>
    p.policyGeneration = update.expectedPolicyGeneration &&
      p.routeGeneration = update.expectedRouteGeneration &&
      (db.uplinks.find p.uplinkID).any fun u => p.routeGeneration = u.routeGeneration

def passedCount (rows : List DirectTargetRow) (targetClass : TargetClass) : Int :=
  rows.countP fun r => r.targetClass = targetClass && r.state = .passed

def totalCount (rows : List DirectTargetRow) (targetClass : TargetClass) : Int :=
  rows.countP fun r => r.targetClass = targetClass

def activeCount (db : Database) (targetClass : TargetClass) : Int :=
  db.targets.rows.countP fun t => t.enabled && t.targetClass = targetClass

def DirectResultUpdate.row (update : DirectResultUpdate) (target : DirectTargetResult) :
    DirectTargetRow :=
  ⟨update.pathID, target.targetID, target.targetClass, target.state,
    update.expectedPolicyGeneration, update.expectedRouteGeneration⟩

/-- the target that the `SELECT` of an insertion finds -/
def Database.accepts (db : Database) (target : DirectTargetResult) : Bool :=
  (db.targets.find target.targetID).any fun t =>
    t.enabled && t.targetClass = target.targetClass && probedDirectly t.targetClass

def Database.countedRows (db : Database) (update : DirectResultUpdate) : List DirectTargetRow :=
  db.directResults.rows.filter fun r =>
    r.pathID = update.pathID && r.policyGeneration = update.expectedPolicyGeneration &&
      r.routeGeneration = update.expectedRouteGeneration &&
      (db.targets.find r.targetID).any (·.enabled)

/-! ### the statements of `Publish` -/

/-- the committed database, and what the open transaction sees; a transaction that is not committed
is rolled back, which drops its view -/
structure PublishStore where
  db : Database
  view : Database

inductive Statement where
  | begin
  | policyGeneration
  | updatePath
  | deleteResults
  | insertResult (target : DirectTargetResult)
  | countResults
  | countTargets
  | commit

@[reducible] def Statement.Answer : Statement → Type
  | .policyGeneration => Int
  | .updatePath | .insertResult _ => Nat
  | .countResults => TargetClass → Int × Int
  | .countTargets => TargetClass → Int
  | .begin | .deleteResults | .commit => Unit

def Statement.failure : Statement → String
  | .begin => "begin direct path result"
  | .policyGeneration => "read current direct policy generation"
  | .updatePath => "publish direct path result"
  | .deleteResults => "replace direct target results"
  | .insertResult _ => "insert direct target result"
  | .countResults => "verify direct target evidence"
  | .countTargets => "read active direct target policy"
  | .commit => "commit"

section
variable (update : DirectResultUpdate)

def Statement.effect (s : PublishStore) : (o : Statement) → Except Fault o.Answer × PublishStore
  | .begin => (.ok (), { s with view := s.db })
  | .policyGeneration => (currentPolicyGeneration s.view, s)
  | .updatePath =>
    if (publishedRow s.view update).isSome then
      (.ok 1, { s with view := { s.view with
        directPaths := s.view.directPaths.update update.pathID (directAggregate update)
          (directAggregate_id update) } })
    else (.ok 0, s)
  | .deleteResults =>
    (.ok (), { s with view := { s.view with
      directResults := s.view.directResults.delete fun r =>
        r.pathID = update.pathID && probedDirectly r.targetClass } })
  | .insertResult target =>
    if !s.view.accepts target then (.ok 0, s)
    else match s.view.directResults.insert (update.row target) with
    | none => (.error constraintFailed, s)
    | some directResults => (.ok 1, { s with view := { s.view with directResults } })
  | .countResults =>
    let rows := s.view.countedRows update
    (.ok fun c => (passedCount rows c, totalCount rows c), s)
  | .countTargets => (.ok (activeCount s.view), s)
  | .commit => (.ok (), { s with db := s.view })

def publishExec (o : Statement) (f : Fate) (s : PublishStore) :
    Except Fault o.Answer × PublishStore :=
  f.deliver (.text o.failure) (o.effect update s) s

abbrev Publication := Proc Statement (fun o => Except Fault o.Answer) (Except Fault Unit)

/-- the loop of `Publish` with the target ids that it has seen -/
def insertResults : List DirectTargetResult → List String → Publication
  | [], _ => .done (.ok ())
  | target :: targets, seen =>
    if seen.contains target.targetID then
      .done (.error (.text "duplicate direct target result"))
    else .call (.insertResult target) fun
    | .error err => .done (.error err)
    | .ok count =>
      if count ≠ 1 then
        .done (.error (.text "direct target evidence does not match an enabled direct target"))
      else insertResults targets (target.targetID :: seen)

/-- the end of `Publish`, once the rows are replaced -/
def verifyAndCommit : Publication :=
  .call .countResults fun
  | .error err => .done (.error err)
  | .ok counts =>
  if counts .globalRequired ≠ (update.requiredTargetsPassed, update.requiredTargetsTotal) ||
      counts .globalOptional ≠ (update.optionalTargetsPassed, update.optionalTargetsTotal) ||
      counts .whitelistIndicator ≠
        (update.whitelistTargetsPassed, update.whitelistTargetsTotal) then
    .done (.error (.text "direct target evidence does not match the active target policy"))
  else .call .countTargets fun
  | .error err => .done (.error err)
  | .ok active =>
  if (counts .globalRequired).2 ≠ active .globalRequired ||
      (counts .globalOptional).2 ≠ active .globalOptional ||
      (counts .whitelistIndicator).2 ≠ active .whitelistIndicator then
    .done (.error (.text "direct target evidence does not cover every active target"))
  else .call .commit .done

def publishStatements : Publication :=
  match validateDirectResult update with
  | .error err => .done (.error err)
  | .ok () =>
  .call .begin fun
  | .error err => .done (.error err)
  | .ok () =>
  .call .policyGeneration fun
  | .error err => .done (.error err)
  | .ok policyGeneration =>
  if update.expectedPolicyGeneration ≠ policyGeneration then .done (.error .staleGeneration)
  else .call .updatePath fun
  | .error err => .done (.error err)
  | .ok count =>
  if count ≠ 1 then .done (.error .staleGeneration)
  else .call .deleteResults fun
  | .error err => .done (.error err)
  | .ok () =>
  (insertResults update.targets []).bind fun
  | .error err => .done (.error err)
  | .ok () => verifyAndCommit update

end

/-- `Publish` when no statement fails -/
def publish (db : Database) (update : DirectResultUpdate) : Except Fault Database :=
  match runWith (publishExec update) (fun _ => .ok) (publishStatements update) ⟨db, db⟩ with
  | (.ok (), s) => .ok s.db
  | (.error err, _) => .error err

/-! ## what an accepted publication stores -/

def DirectPath.Counts (p : DirectPath) (rows : List DirectTargetRow) : Prop :=
  (p.requiredTargetsPassed = passedCount rows .globalRequired ∧
      p.requiredTargetsTotal = totalCount rows .globalRequired) ∧
    (p.optionalTargetsPassed = passedCount rows .globalOptional ∧
      p.optionalTargetsTotal = totalCount rows .globalOptional) ∧
    p.whitelistTargetsPassed = passedCount rows .whitelistIndicator ∧
      p.whitelistTargetsTotal = totalCount rows .whitelistIndicator

def Database.directTargets (db : Database) : List Target :=
  db.targets.rows.filter fun t => t.enabled && probedDirectly t.targetClass

def Database.directEvidence (db : Database) (pathID : String) : List DirectTargetRow :=
  db.directResults.rows.filter fun r => r.pathID = pathID && probedDirectly r.targetClass

/-- the evidence of the path after a publication: the submitted results, one for each target that
has to be probed, and their counters -/
structure Published (db db' : Database) (update : DirectResultUpdate) : Prop where
  policy : currentPolicyGeneration db = .ok update.expectedPolicyGeneration
  route : ∃ p u, db.directPaths.find update.pathID = some p ∧ db.uplinks.find p.uplinkID = some u ∧
    p.policyGeneration = update.expectedPolicyGeneration ∧
    p.routeGeneration = update.expectedRouteGeneration ∧
    u.routeGeneration = update.expectedRouteGeneration
  evidence : db'.directEvidence update.pathID = update.targets.map update.row
  covers : ((db'.directEvidence update.pathID).map fun r => (r.targetID, r.targetClass)).Perm
    (db.directTargets.map fun t => (t.id, t.targetClass))
  counters : ∃ p, db'.directPaths.find update.pathID = some p ∧
    p.Counts (db'.directEvidence update.pathID)

section
variable {db db' view : Database} {update : DirectResultUpdate} {s : PublishStore}

/-- the three classes make up what is probed -/
theorem count_classes {α : Type} (f : α → TargetClass) (l : List α) :
    l.countP (fun a => f a = .globalRequired) + l.countP (fun a => f a = .globalOptional) +
      l.countP (fun a => f a = .whitelistIndicator) = l.countP fun a => probedDirectly (f a) := by
  induction l with
  | nil => rfl
  | cons a l ih =>
    simp only [countP_cons, ← ih]
    cases f a <;> simp [probedDirectly] <;> omega

structure Publishes (db : Database) (update : DirectResultUpdate) : Prop where
  policy : currentPolicyGeneration db = .ok update.expectedPolicyGeneration
  row : ∃ p, publishedRow db update = some p
  nodup : (update.targets.map (·.targetID)).Nodup
  accepted : ∀ x ∈ update.targets, db.accepts x = true
  counts : ∀ p, (directAggregate update p).Counts (update.targets.map update.row)
  total : ∀ c, probedDirectly c = true →
    totalCount (update.targets.map update.row) c = activeCount db c

def Stored (db db' : Database) (update : DirectResultUpdate) : Prop :=
  Publishes db update ∧ ∃ results, insertAll (db.directResults.delete fun r =>
      r.pathID = update.pathID && probedDirectly r.targetClass) (update.targets.map update.row) =
        some results ∧
    db' = { db with
      directResults := results
      directPaths := db.directPaths.update update.pathID (directAggregate update)
        (directAggregate_id update) }

theorem accepts_iff {x : DirectTargetResult} : db.accepts x = true ↔
    ∃ t, db.targets.find x.targetID = some t ∧ t.enabled = true ∧ t.targetClass = x.targetClass ∧
      probedDirectly x.targetClass = true := by
  simp only [Database.accepts, Option.any_eq_true, Bool.and_eq_true, decide_eq_true_eq, and_assoc]
  constructor
  · rintro ⟨t, hfind, henabled, hclass, hprobed⟩
    exact ⟨t, hfind, henabled, hclass, hclass ▸ hprobed⟩
  · rintro ⟨t, hfind, henabled, hclass, hprobed⟩
    exact ⟨t, hfind, henabled, hclass, hclass.symm ▸ hprobed⟩

/-! ### one statement -/

variable {A : Fate → Prop} {Q : Except Fault Unit → PublishStore → Prop}

theorem effect_db (o : Statement) (ho : o ≠ .commit) : (o.effect update s).2.db = s.db := by
  cases o with
  | commit => exact absurd rfl ho
  | updatePath =>
    dsimp only [Statement.effect]
    split <;> rfl
  | insertResult target =>
    dsimp only [Statement.effect]
    split
    · rfl
    · split <;> rfl
  | _ => rfl

theorem wp_statement {o : Statement} {k : Except Fault o.Answer → Publication} (ho : o ≠ .commit)
    (hdb : s.db = db) (herror : ∀ err t, t.db = db → wp (publishExec update) A (·.db = db)
      (k (.error err)) Q t)
    (hok : ∀ a t, o.effect update s = (.ok a, t) → t.db = db →
      wp (publishExec update) A (·.db = db) (k (.ok a)) Q t) :
    wp (publishExec update) A (·.db = db) (.call o k) Q s := by
  have heffect : (o.effect update s).2.db = db := (effect_db o ho).trans hdb
  refine ⟨hdb, fun f _ => ?_⟩
  cases f with
  | fail => exact herror _ _ hdb
  | late => exact herror _ _ heffect
  | ok =>
  show wp _ _ _ (k (o.effect update s).1) _ (o.effect update s).2
  rcases h : o.effect update s with ⟨err | a, t⟩
  · exact herror err t ((congrArg (·.2.db) h).symm.trans heffect)
  · exact hok a t h ((congrArg (·.2.db) h).symm.trans heffect)

/-! ### the loop -/

/-- what the loop has inserted once it is through -/
structure Inserted (update : DirectResultUpdate) (targets : List DirectTargetResult)
    (seen : List String) (view view' : Database) : Prop where
  rows : ∃ results, insertAll view.directResults (targets.map update.row) = some results ∧
    view' = { view with directResults := results }
  nodup : (targets.map (·.targetID)).Nodup
  unseen : ∀ x ∈ targets, x.targetID ∉ seen
  accepted : ∀ x ∈ targets, view.accepts x = true

theorem Inserted.cons {target : DirectTargetResult} {targets : List DirectTargetResult}
    {seen : List String} {results : Table DirectTargetRow.key} (hseen : target.targetID ∉ seen)
    (haccepts : view.accepts target = true)
    (hinsert : view.directResults.insert (update.row target) = some results)
    (h : Inserted update targets (target.targetID :: seen) { view with directResults := results }
      db') : Inserted update (target :: targets) seen view db' := by
  obtain ⟨final, hfinal, hdb⟩ := h.rows
  refine ⟨⟨final, ?_, hdb⟩, nodup_cons.2 ⟨fun hmem => ?_, h.nodup⟩,
    forall_mem_cons.2 ⟨hseen, fun x hx hmem => ?_⟩, forall_mem_cons.2 ⟨haccepts, h.accepted⟩⟩
  · rw [map_cons, insertAll, hinsert]
    exact hfinal
  · obtain ⟨x, hx, heq⟩ := mem_map.1 hmem
    exact h.unseen x hx (heq ▸ mem_cons_self)
  · exact h.unseen x hx (mem_cons_of_mem _ hmem)

theorem wp_insertResults (targets : List DirectTargetResult) (seen : List String)
    (hdb : s.db = db) : wp (publishExec update) A (·.db = db) (insertResults targets seen)
      (fun r t => t.db = db ∧ (r = .ok () → Inserted update targets seen s.view t.view)) s := by
  induction targets generalizing seen s with
  | nil => exact ⟨hdb, fun _ => ⟨⟨s.view.directResults, rfl, rfl⟩, nodup_nil, by simp, by simp⟩⟩
  | cons target targets ih =>
    rw [insertResults]
    split
    · exact ⟨hdb, nofun⟩
    next hseen =>
    refine wp_statement (by simp) hdb (fun err t ht => ⟨ht, nofun⟩) fun count t heffect ht => ?_
    dsimp only [Statement.effect] at heffect
    split at heffect
    · cases heffect
      exact ⟨hdb, nofun⟩
    next haccepts =>
    split at heffect
    · cases heffect
    next results hinsert =>
    cases heffect
    refine wp_post (fun r t h => ⟨h.1, fun hr => ?_⟩) (ih (target.targetID :: seen) hdb)
    exact Inserted.cons (by simpa using hseen) (by simpa using haccepts) hinsert (h.2 hr)

/-! ### the counts -/

theorem countedRows_inserted {results : Table DirectTargetRow.key}
    (haccepted : ∀ x ∈ update.targets, view.accepts x = true)
    (hresults : insertAll (db.directResults.delete fun r =>
      r.pathID = update.pathID && probedDirectly r.targetClass) (update.targets.map update.row) =
        some results) :
    ((Database.countedRows { view with directResults := results } update).filter fun r =>
      probedDirectly r.targetClass) = update.targets.map update.row := by
  rw [Database.countedRows, filter_filter, insertAll_rows hresults, filter_append,
    filter_eq_nil_iff.2 fun r hr => ?_, filter_eq_self.2 fun r hr => ?_, nil_append]
  · obtain ⟨x, hx, rfl⟩ := mem_map.1 hr
    obtain ⟨t, hfind, henabled, -, hprobed⟩ := accepts_iff.1 (haccepted x hx)
    simp [DirectResultUpdate.row, hprobed, hfind, henabled]
  · have hkept := (mem_filter.1 hr).2
    simp only [Bool.not_and, Bool.or_eq_true, Bool.not_eq_true', decide_eq_false_iff_not] at hkept
    rcases hkept with hpath | hclass
    · simp [hpath]
    · simp [hclass]

theorem counts_filter (rows : List DirectTargetRow) {c : TargetClass}
    (hc : probedDirectly c = true) :
    passedCount rows c = passedCount (rows.filter fun r => probedDirectly r.targetClass) c ∧
      totalCount rows c = totalCount (rows.filter fun r => probedDirectly r.targetClass) c := by
  unfold passedCount totalCount
  rw [countP_filter, countP_filter]
  constructor <;>
  · congr 1
    refine countP_congr fun r _ => ?_
    by_cases h : r.targetClass = c
    · simp [h, hc]
    · simp [h]

/-- what a run of `Publish` leaves: when it succeeds the accepted publication is committed, and when
it fails nothing is, unless the commit reports an error after its effect -/
def PublishEnded (A : Fate → Prop) (db : Database) (update : DirectResultUpdate)
    (r : Except Fault Unit) (s : PublishStore) : Prop :=
  (r = .ok () → Stored db s.db update) ∧
    ∀ err, r = .error err → s.db = db ∨ A .late ∧ Stored db s.db update

theorem ended_refused {err : Fault} (h : s.db = db) : PublishEnded A db update (.error err) s :=
  ⟨nofun, fun _ _ => .inl h⟩

theorem wp_verifyAndCommit (hdb : s.db = db)
    (hrows : ((s.view.countedRows update).filter fun r => probedDirectly r.targetClass) =
      update.targets.map update.row)
    (hstored : (∀ p, (directAggregate update p).Counts (update.targets.map update.row)) →
      (∀ c, probedDirectly c = true →
        totalCount (update.targets.map update.row) c = activeCount s.view c) →
      Stored db s.view update) :
    wp (publishExec update) A (·.db = db) (verifyAndCommit update)
      (PublishEnded A db update) s := by
  have hpassed : ∀ c, probedDirectly c = true → passedCount (s.view.countedRows update) c =
      passedCount (update.targets.map update.row) c :=
    fun c hc => by rw [(counts_filter _ hc).1, hrows]
  have htotal : ∀ c, probedDirectly c = true → totalCount (s.view.countedRows update) c =
      totalCount (update.targets.map update.row) c :=
    fun c hc => by rw [(counts_filter _ hc).2, hrows]
  refine wp_statement (by simp) hdb (fun _ _ ht => ended_refused ht) fun counts t heffect _ => ?_
  cases heffect
  dsimp only
  split
  · exact ended_refused hdb
  next hcounts =>
  refine wp_statement (by simp) hdb (fun _ _ ht => ended_refused ht) fun active t heffect _ => ?_
  cases heffect
  dsimp only
  split
  · exact ended_refused hdb
  next hactive =>
  simp only [Bool.or_eq_true, decide_eq_true_eq, not_or, not_not, Prod.mk.injEq] at hcounts hactive
  rw [hpassed _ rfl, hpassed _ rfl, hpassed _ rfl, htotal _ rfl, htotal _ rfl,
    htotal _ rfl] at hcounts
  rw [htotal _ rfl, htotal _ rfl, htotal _ rfl] at hactive
  have hstored := hstored (fun p => ⟨?_, ?_, ?_⟩) fun c hc => ?_
  · -- the commit takes place, or it does not, or it does and reports an error
    refine ⟨hdb, fun f hf => ?_⟩
    cases f with
    | ok => exact ⟨fun _ => hstored, nofun⟩
    | fail => exact ended_refused hdb
    | late => exact ⟨nofun, fun _ _ => .inr ⟨hf, hstored⟩⟩
  · exact ⟨hcounts.1.1.1.symm, hcounts.1.1.2.symm⟩
  · exact ⟨hcounts.1.2.1.symm, hcounts.1.2.2.symm⟩
  · exact ⟨hcounts.2.1.symm, hcounts.2.2.symm⟩
  · cases c with
    | globalRequired => exact hactive.1.1
    | globalOptional => exact hactive.1.2
    | whitelistIndicator => exact hactive.2
    | serviceEndpoint => cases hc

/-- **`Publish`, statement by statement**, under any fates of its statements -/
theorem wp_publish (view : Database) : wp (publishExec update) A (·.db = db)
    (publishStatements update) (PublishEnded A db update) ⟨db, view⟩ := by
  unfold publishStatements
  split
  · exact ended_refused rfl
  refine wp_statement (by simp) rfl (fun _ _ ht => ended_refused ht) fun _ t heffect _ => ?_
  cases heffect
  refine wp_statement (by simp) rfl (fun _ _ ht => ended_refused ht) fun current t heffect _ => ?_
  have hcurrent : currentPolicyGeneration db = .ok current := congrArg Prod.fst heffect
  obtain rfl : (⟨db, db⟩ : PublishStore) = t := congrArg Prod.snd heffect
  dsimp only
  split
  · exact ended_refused rfl
  next hpolicy =>
  refine wp_statement (by simp) rfl (fun _ _ ht => ended_refused ht) fun count t heffect _ => ?_
  dsimp only [Statement.effect] at heffect
  split at heffect
  case isFalse =>
    cases heffect
    exact ended_refused rfl
  next hrow =>
  cases heffect
  refine wp_statement (by simp) rfl (fun _ _ ht => ended_refused ht) fun _ t heffect _ => ?_
  cases heffect
  refine wp_bind.2 (wp_post ?_ (wp_insertResults update.targets [] rfl))
  rintro (err | _) t ⟨ht, hinserted⟩
  · exact ended_refused ht
  obtain ⟨⟨results, hresults, hview⟩, hnodup, -, haccepted⟩ := hinserted rfl
  refine wp_verifyAndCommit ht ?_ fun hcounts htotal => ?_
  · rw [hview]
    exact @countedRows_inserted db _ update _ haccepted hresults
  rw [hview] at htotal ⊢
  refine ⟨⟨?_, Option.isSome_iff_exists.1 hrow, hnodup, haccepted, hcounts, htotal⟩, results,
    hresults, rfl⟩
  rw [hcurrent, not_not.1 hpolicy]

theorem publish_ok (h : publish db update = .ok db') : Stored db db' update := by
  have hend : ∀ r, runWith (publishExec update) (fun _ => .ok) (publishStatements update) ⟨db, db⟩ =
      r → PublishEnded (fun _ => True) db update r.1 r.2 := by
    rintro _ rfl
    exact wp_runWith (wp_publish db) fun _ => trivial
  unfold publish at h
  split at h
  · next s hrun => exact Except.ok.inj h ▸ (hend _ hrun).1 rfl
  · cases h

theorem Publishes.row_mem (h : Publishes db update) :
    ∀ r ∈ update.targets.map update.row, r.pathID = update.pathID ∧
      probedDirectly r.targetClass = true ∧
      (r.targetID, r.targetClass) ∈ db.directTargets.map fun t => (t.id, t.targetClass) := by
  intro r hr
  obtain ⟨x, hx, rfl⟩ := mem_map.1 hr
  obtain ⟨t, hfind, henabled, hclass, hprobed⟩ := accepts_iff.1 (h.accepted x hx)
  refine ⟨rfl, hprobed, mem_map.2 ⟨t, mem_filter.2 ⟨Table.mem_of_find hfind, ?_⟩, ?_⟩⟩
  · rw [henabled, hclass, hprobed]
    rfl
  · rw [hclass, show t.id = x.targetID from Table.key_of_find hfind]
    rfl

theorem Publishes.covers (h : Publishes db update) :
    ((update.targets.map update.row).map fun r => (r.targetID, r.targetClass)).Perm
      (db.directTargets.map fun t => (t.id, t.targetClass)) := by
  have hids : ((update.targets.map update.row).map fun r => (r.targetID, r.targetClass)).Nodup := by
    refine List.Nodup.of_map Prod.fst ?_
    rw [map_map, map_map]
    exact h.nodup
  have hsub : ((update.targets.map update.row).map fun r => (r.targetID, r.targetClass)) ⊆
      db.directTargets.map fun t => (t.id, t.targetClass) := by
    intro pair hpair
    obtain ⟨r, hr, rfl⟩ := mem_map.1 hpair
    exact (h.row_mem r hr).2.2
  -- as many rows as targets, in each of the three classes
  have hlength : db.directTargets.length = (update.targets.map update.row).length := by
    have hrequired := h.total .globalRequired rfl
    have hoptional := h.total .globalOptional rfl
    have hwhitelist := h.total .whitelistIndicator rfl
    unfold totalCount activeCount at hrequired hoptional hwhitelist
    have hactive := count_classes Target.targetClass (db.targets.rows.filter (·.enabled))
    have hfound := count_classes DirectTargetRow.targetClass (update.targets.map update.row)
    rw [countP_eq_length.2 fun r hr => (h.row_mem r hr).2.1] at hfound
    simp only [countP_filter] at hactive
    rw [Database.directTargets, ← countP_eq_length_filter]
    simp only [Bool.and_comm] at hactive hrequired hoptional hwhitelist ⊢
    omega
  refine (subperm_of_subset hids hsub).perm_of_length_le ?_
  rw [length_map, length_map, hlength]

theorem published (h : Stored db db' update) : Published db db' update := by
  obtain ⟨hp, results, hresults, rfl⟩ := h
  obtain ⟨p, hfound⟩ := hp.row
  obtain ⟨hfind, hcurrent⟩ := Option.filter_eq_some_iff.1 hfound
  obtain ⟨⟨hpolicy, hroute⟩, u, hu, hsame⟩ : (p.policyGeneration = update.expectedPolicyGeneration ∧
      p.routeGeneration = update.expectedRouteGeneration) ∧
      ∃ u, db.uplinks.find p.uplinkID = some u ∧ p.routeGeneration = u.routeGeneration := by
    simpa [Option.any_eq_true] using hcurrent
  -- the old rows of the path are gone, and every inserted row is one of the path
  have hevidence : results.rows.filter (fun r => r.pathID = update.pathID &&
      probedDirectly r.targetClass) = update.targets.map update.row := by
    rw [insertAll_rows hresults, filter_append, filter_eq_nil_iff.2 fun r hr => ?_,
      filter_eq_self.2 fun r hr => ?_, nil_append]
    · obtain ⟨hpath, hprobed, -⟩ := hp.row_mem r hr
      simp [hpath, hprobed]
    · simpa [imp_iff_not_or] using (mem_filter.1 hr).2
  refine ⟨hp.policy, ⟨p, u, hfind, hu, hpolicy, hroute, hsame.symm.trans hroute⟩,
    hevidence, ?_, directAggregate update p, ?_, ?_⟩
  · show ((results.rows.filter _).map _).Perm _
    rw [hevidence]
    exact hp.covers
  · show (db.directPaths.update _ _ (directAggregate_id update)).find update.pathID = _
    rw [Table.find_update, hfind]
    simp [show p.id = update.pathID from Table.key_of_find hfind]
  · show (directAggregate update p).Counts (results.rows.filter _)
    rw [hevidence]
    exact hp.counts p

end

end GatewayVpn.Access
