import GatewayVpn.Candidate.Inventory
import GatewayVpn.Durable.Part

/-!
# Candidate: the runtime operations

`Runtime` promotes a staged version: it applies a bundle with the candidate as a shadow, probes it,
and on `Commit` applies the bundle of the version that has become active.  It also probes the active
versions again, for one uplink or for one path.

Each query sees the tables as one call (`Op.read`), and a query that fails is reported without its
name.  The authorized versions are those of the last call of `AuthorizeMihomoVersions` that
succeeded.  Which node the stored evidence of a path selects is computed by the database
(`World.aggregate`).
-/

namespace GatewayVpn.Candidate

open Durable
open Access (Snapshot QualificationSnapshot)

/-! ## the world -/

structure NodeSnapshot where
  pathID : String
  expectedPolicyGeneration : Int
  expectedRouteGeneration : Int
  candidateNodes : Nat
  requiredTargetsTotal : Nat
  checkedAt : Time
  expiresAt : Time
  node : Access.NodeEvidence

structure Evidence where
  pathID : String
  checkedAt : Time
  expiresAt : Time

structure World where
  inventory : Inventory := {}
  mihomo : Mihomo.World := {}
  authorized : List String := []
  evidence : List Evidence := []
  aggregate : String → String := fun _ => ""
  clock : Nat → Time := fun _ => 0
  reads : Nat := 0

inductive Op where
  | read
  | syncRouting
  | reconcileCells
  | authorize (versions : List String)
  | controller (o : Mihomo.Op)
  /-- the probes of a cell, whose context may end -/
  | probe
  | now
  | select (group node : String)
  | storeQualification (snapshot : QualificationSnapshot)
  | storeNodeQualification (snapshot : NodeSnapshot)
  | invalidateVersionEvidence (subscriptionID versionID : String)
  | evaluate (targetID : String)
  | appendEvent (kind : String)

def Op.Ret : Op → Type
  | .read => Except Failure Inventory
  | .controller o => o.Ret
  | .now => Time
  | .storeNodeQualification _ => Except Failure String
  | _ => Except Failure Unit

def refused : Failure := .text "input/output error"

def World.transact (w : World) : Except Failure Inventory → Except Failure Unit × World
  | .error err => (.error err, w)
  | .ok inventory => (.ok (), { w with inventory })

def World.keep (w : World) (e : Evidence) : World := { w with evidence := e :: w.evidence }

def exec : (o : Op) → Fate → World → o.Ret × World
  | .read, f, w => f.deliver refused (.ok w.inventory, w) w
  | .syncRouting, f, w => f.deliver refused (.ok (), w) w
  | .reconcileCells, f, w => f.deliver refused (w.transact (reconcileCells w.inventory)) w
  | .authorize versions, f, w =>
    if f = .ok then (.ok (), { w with authorized := versions }) else (.error refused, w)
  | .controller o, f, w =>
    ((Mihomo.exec o f w.mihomo).1, { w with mihomo := (Mihomo.exec o f w.mihomo).2 })
  | .probe, f, w => f.deliver refused (.ok (), w) w
  | .now, _, w => (w.clock w.reads, { w with reads := w.reads + 1 })
  | .select _ _, f, w => f.deliver refused (.ok (), w) w
  | .storeQualification s, f, w =>
    f.deliver refused (.ok (), w.keep ⟨s.pathID, s.checkedAt, s.expiresAt⟩) w
  | .storeNodeQualification s, f, w =>
    f.deliver refused (.ok (w.aggregate s.pathID), w.keep ⟨s.pathID, s.checkedAt, s.expiresAt⟩) w
  | .invalidateVersionEvidence _ _, f, w => f.deliver refused (.ok (), w) w
  | .evaluate _, f, w => f.deliver refused (.ok (), w) w
  | .appendEvent _, f, w => f.deliver refused (.ok (), w) w

abbrev Action := Proc Op Op.Ret

/-! ## small procedures -/

def stop {α : Type} (err : Failure) : Action (Except Failure α) := .done (.error err)

def query {α : Type} (f : Inventory → Except Failure α) : Action (Except Failure α) :=
  .call .read fun
  | .error err => .done (.error err)
  | .ok inventory => .done (f inventory)

def controllerPart : Part Mihomo.exec exec where
  op := .controller
  answer := fun _ r => r
  get := World.mihomo
  set := fun w mihomo => { w with mihomo }
  get_set := fun _ _ => rfl
  set_get := fun _ => rfl
  set_set := fun _ _ _ => rfl
  answer_exec := fun _ _ _ => rfl
  exec_state := fun _ _ _ => rfl

def controller {α : Type} (p : Mihomo.Action α) : Action α :=
  p.embed controllerPart.op controllerPart.answer

def applyBundle (rt : Runtime) (generation : String) (bundle : Mihomo.Bundle) :
    Action (Except Failure String) :=
  (controller (Mihomo.apply rt.controller generation bundle)).bind fun reply =>
    match reply.err with
    | some err => .done (.error (.text err))
    | none => .done (.ok reply.result.previousGeneration)

def Failure.message : Failure → String
  | .text message => message
  | .pathNotReady => "requested path is not ready"
  | .nodeNotEligible => "requested node is not an enabled active-LKG candidate"

/-- `errors.Join` of a cause and the error of a restoration -/
def Failure.join (cause : Failure) : Option String → Failure
  | none => cause
  | some err => .text (cause.message ++ "\n" ++ err)

/-- `Controller.Restore`, after which the cause is reported -/
def restoreAfter {α : Type} (rt : Runtime) (previous : String) (cause : Failure) :
    Action (Except Failure α) :=
  (controller (Mihomo.restore rt.controller previous)).bind fun reply => stop (cause.join reply.err)

def evaluateTargetStates : List Health.Target → Action Unit
  | [] => .done ()
  | t :: ts => .call (.evaluate t.id) fun
    | .ok _ => evaluateTargetStates ts
    | .error _ => .call (.appendEvent "TARGET_OUTAGE_EVALUATION_FAILED") fun _ =>
      evaluateTargetStates ts

def evaluateProbeTargets : Action Unit :=
  (query probeTargets).attempt
    (fun _ => .call (.appendEvent "TARGET_OUTAGE_EVALUATION_SKIPPED") fun _ => .done ())
    evaluateTargetStates

/-! ## qualification -/

structure Qualification where
  result : Health.CellResult
  policyGeneration : Int
  routeGeneration : Int
  deriving DecidableEq

def preferredNodeIDs (nodes : List NodeIdentity) (preferences : List NodePreference)
    (stickyNodeID : String) : List String :=
  let byFingerprint := fun fingerprint =>
    ((nodes.find? fun n => n.fingerprint = fingerprint).map (·.id)).getD ""
  let sticky :=
    if stickyNodeID = "" then []
    else if nodes.any fun n => n.id = stickyNodeID then [stickyNodeID]
    else ((preferences.find? fun p => p.activeNodeID = stickyNodeID).map
      fun p => byFingerprint p.fingerprint).toList
  let ranked := (preferences.filter fun p => 0 < p.preferredRank &&
    p.selectionOverride ≠ .exclude).map fun p => byFingerprint p.fingerprint
  ((sticky ++ ranked).filter fun id => id ≠ "").eraseDups

def sortNodes (nodes : List NodeIdentity) : List NodeIdentity :=
  nodes.insertionSort fun a b => !lexLess b.id.toList a.id.toList

def healthCandidates (path : Mihomo.Path) (nodes : List NodeIdentity) : List Health.Candidate :=
  (sortNodes nodes).map fun n =>
    { nodeID := n.id, fingerprint := n.fingerprint
      providerNodeName := path.nodePrefix ++ n.externalName }

def stickyNode (inv : Inventory) (cell : Access.Path) : String :=
  match inv.policyTransition with
  | some t =>
    if t.activePathID = cell.id && t.policyTransitionGeneration = cell.policyGeneration then
      t.activeNodeID
    else ""
  | none => ""

def qualificationPath (material : Material) (path : Mihomo.Path) (inv : Inventory) :
    Except Failure (Access.Path × Health.Path) :=
  match getCell inv path.uplinkID material.subscription.id with
  | .error err => .error err
  | .ok cell => .ok (cell,
    { id := cell.id, uplinkID := path.uplinkID, subscriptionID := material.subscription.id
      providerName := path.providerName, probeGroupName := path.probeGroupName
      preferredNodeIDs := preferredNodeIDs material.nodes
        (inv.preferences.filter fun p => p.subscriptionID = material.subscription.id)
        (if path.qualificationOnly then "" else stickyNode inv cell)
      candidates := healthCandidates path material.nodes })

/-- the loop of `qualifyPaths` -/
def qualifyEach (rt : Runtime) (material : Material) (targets : List Health.Target) :
    List Mihomo.Path → Action (Except Failure (List Qualification))
  | [] => .done (.ok [])
  | path :: paths => (query (qualificationPath material path)).attempt stop fun (cell, probed) =>
    .call .probe fun
    | .error err => stop (err.wrap ("qualify path " ++ cell.id))
    | .ok _ => match Health.qualifyCell rt.qualifier rt.prober probed targets with
      | .error err => stop (.text ("qualify path " ++ cell.id ++ ": " ++ err))
      | .ok result => (qualifyEach rt material targets paths).attempt stop fun rest =>
        .done (.ok (⟨result, cell.policyGeneration, cell.routeGeneration⟩ :: rest))

def qualifyPaths (rt : Runtime) (material : Material) (bundle : Mihomo.Bundle)
    (targets : List Health.Target) (include_ : Mihomo.Path → Bool) :
    Action (Except Failure (List Qualification)) :=
  let paths := bundle.paths.filter include_
  if paths.isEmpty then
    stop (.text "generated Mihomo bundle has no requested qualification paths")
  else qualifyEach rt material targets paths

def Material.shadows (m : Material) (p : Mihomo.Path) : Bool :=
  p.qualificationOnly && p.subscriptionID = m.subscription.id &&
    p.runtimeKey = shadowKey m.versionID

def hasQualifiedPath (items : List Qualification) : Bool :=
  items.any fun q => q.result.state = .qualified && q.result.selectedNodeID ≠ ""

/-- `SnapshotFromHealth` -/
def nodeEvidence (r : Health.NodeResult) : Access.NodeEvidence :=
  { nodeID := r.nodeID, state := r.state, latencyMS := r.aggregateLatencyMS
    targets := r.targets.map fun t => ⟨t.targetID, t.state, t.latencyMS⟩ }

def snapshotFromHealth (result : Health.CellResult) (policyGeneration routeGeneration : Int)
    (checkedAt expiresAt : Time) : QualificationSnapshot :=
  { pathID := result.pathID, expectedPolicyGeneration := policyGeneration
    expectedRouteGeneration := routeGeneration, state := result.state
    transportState := result.transportState, selectedNodeID := result.selectedNodeID
    requiredTargetsPassed := result.requiredTargetsPassed
    requiredTargetsTotal := result.requiredTargetsTotal
    optionalTargetsPassed := result.optionalTargetsPassed
    optionalTargetsTotal := result.optionalTargetsTotal
    functionalScore := result.functionalScore, latencyMS := result.latencyMS
    checkedAt, expiresAt, nodes := result.nodes.map nodeEvidence }

/-! ## Promote -/

structure Promotion where
  candidate : Material
  qualifications : List Qualification
  previousGeneration : String
  previousEndpointVersions : List String
  deriving DecidableEq

/-- what `Promote` has gathered before it authorizes anything -/
structure Prepared where
  material : Material
  targets : List Health.Target
  bundle : Mihomo.Bundle
  previous : List String

/-- `Promote`, before the authorization -/
def prepare (rt : Runtime) (candidate : StagedCandidate) : Action (Except Failure Prepared) :=
  match rt.validate with
  | .error err => stop err
  | .ok _ => .call .syncRouting fun
    | .error err => stop (err.wrap "synchronize modem routing before candidate qualification")
    | .ok _ => (query (loadCandidate rt candidate)).attempt stop fun material =>
      (query readyUplinks).attempt stop fun uplinks =>
      (query probeTargets).attempt stop fun targets =>
      .call .reconcileCells fun
      | .error err => stop (err.wrap "reconcile path matrix before candidate qualification")
      | .ok _ => (query (buildBundle rt uplinks (some material))).attempt stop fun bundle =>
        (query endpointVersionIDs).attempt stop fun previous =>
        .done (.ok ⟨material, targets, bundle, previous⟩)

def temporaryVersions (p : Prepared) : List String :=
  if p.previous.contains p.material.versionID then p.previous
  else sortStrings (p.previous ++ [p.material.versionID])

/-- `Promote`, after the candidate has been applied -/
def qualifyCandidate (rt : Runtime) (p : Prepared) (previousGeneration : String) :
    Action (Except Failure Promotion) :=
  (qualifyPaths rt p.material p.bundle p.targets p.material.shadows).attempt
    (restoreAfter rt previousGeneration) fun qualifications =>
      if hasQualifiedPath qualifications then
        .done (.ok ⟨p.material, qualifications, previousGeneration, p.previous⟩)
      else restoreAfter rt previousGeneration
        (.text "candidate has no BYPASS_QUALIFIED path through any ready modem")

/-- `Promote`, from the authorization on -/
def promotePrepared (rt : Runtime) (p : Prepared) : Action (Except Failure Promotion) :=
  .call (.authorize (temporaryVersions p)) fun
  | .error err => stop (err.wrap "authorize candidate Mihomo endpoints")
  | .ok _ => (applyBundle rt (rt.generationID "shadow" p.material.versionID) p.bundle).attempt
    (fun err => stop (err.wrap "apply candidate shadow generation"))
    (qualifyCandidate rt p)

def promote (rt : Runtime) (candidate : StagedCandidate) : Action (Except Failure Promotion) :=
  (prepare rt candidate).attempt stop (promotePrepared rt)

/-! ## Commit and Rollback -/

def verifyActive (p : Promotion) (inv : Inventory) : Except Failure Bool :=
  match inv.store.subscriptions.find p.candidate.subscription.id with
  | none => .error (.text "verify active candidate before runtime commit: not found")
  | some s =>
    match inv.store.versions.find (activeVersion s) with
    | none => .error (.text "verify active candidate before runtime commit: not found")
    | some version =>
      if version.id ≠ p.candidate.versionID || version.state ≠ .lkg then
        .error (.text "candidate must be the SQLite LKG before runtime commit")
      else .ok s.enabled

def verifyUnchanged (p : Promotion) (enabled : Bool) (inv : Inventory) : Except Failure Unit :=
  match inv.store.subscriptions.find p.candidate.subscription.id with
  | some s =>
    if s.enabled ≠ enabled || activeVersion s ≠ p.candidate.versionID then
      .error (.text "candidate subscription routing state changed during runtime commit")
    else .ok ()
  | none => .error (.text "candidate subscription routing state changed during runtime commit")

def finalPath (p : Promotion) (enabled : Bool) (bundle : Mihomo.Bundle) (uplinkID : String) :
    Option Mihomo.Path :=
  (bundle.paths.filter fun item => item.subscriptionID = p.candidate.subscription.id &&
    (!item.qualificationOnly || !enabled) && item.uplinkID = uplinkID).getLast?

def selectCommitted (p : Promotion) (enabled : Bool) (bundle : Mihomo.Bundle) :
    List Qualification → Action (Except Failure Unit)
  | [] => .done (.ok ())
  | q :: qs =>
    if q.result.state ≠ .qualified then selectCommitted p enabled bundle qs
    else match finalPath p enabled bundle q.result.uplinkID with
    | none => stop (.text ("final Mihomo bundle has no path for qualified modem " ++
        q.result.uplinkID))
    | some path =>
      match p.candidate.nodes.find? fun n => n.id = q.result.selectedNodeID with
      | none => stop (.text ("qualified node " ++ q.result.selectedNodeID ++
          " is absent from candidate identity map"))
      | some node =>
        .call (.select (if enabled then path.groupName else path.probeGroupName)
          (path.nodePrefix ++ node.externalName)) fun
        | .error err => stop (err.wrap ("select qualified candidate node for modem " ++
            q.result.uplinkID))
        | .ok _ => selectCommitted p enabled bundle qs

def storeCommitted (checkedAt expiresAt : Time) : List Qualification → Action (Except Failure Unit)
  | [] => .done (.ok ())
  | q :: qs =>
    .call (.storeQualification (snapshotFromHealth q.result q.policyGeneration q.routeGeneration
      checkedAt expiresAt)) fun
    | .error err => stop (err.wrap ("persist candidate qualification for path " ++
        q.result.pathID))
    | .ok _ => storeCommitted checkedAt expiresAt qs

def commitApplied (rt : Runtime) (p : Promotion) (enabled : Bool) (bundle : Mihomo.Bundle) :
    Action (Except Failure Unit) :=
  (query (verifyUnchanged p enabled)).attempt stop fun _ =>
  (selectCommitted p enabled bundle p.qualifications).attempt stop fun _ =>
    if !enabled then .done (.ok ())
    else .call .now fun (checkedAt : Time) =>
      (storeCommitted checkedAt (checkedAt + rt.ttl) p.qualifications).attempt stop fun _ =>
      evaluateProbeTargets.bind fun _ => .done (.ok ())

def commit (rt : Runtime) (p : Promotion) : Action (Except Failure Unit) :=
  (query (verifyActive p)).attempt stop fun enabled =>
  (query readyUplinks).attempt stop fun uplinks =>
  (query (buildBundle rt uplinks none)).attempt stop fun bundle =>
  (query endpointVersionIDs).attempt stop fun versions =>
  .call (.authorize versions) fun
  | .error err => stop (err.wrap "authorize final Mihomo endpoints")
  | .ok _ => (applyBundle rt (rt.generationID "active" p.candidate.versionID) bundle).attempt
    (fun err => stop (err.wrap "apply final candidate generation"))
    fun _ => commitApplied rt p enabled bundle

def joinSteps (authorizeErr : Except Failure Unit) (restoreErr : Option String)
    (invalidateErr : Except Failure Unit) : Except Failure Unit :=
  match (match authorizeErr with | .error err => [err.message] | .ok _ => []) ++ restoreErr.toList ++
    (match invalidateErr with | .error err => [err.message] | .ok _ => []) with
  | [] => .ok ()
  | err :: rest => .error (.text (rest.foldl (fun text e => text ++ "\n" ++ e) err))

def rollback (rt : Runtime) (p : Promotion) : Action (Except Failure Unit) :=
  .call (.authorize p.previousEndpointVersions) fun authorized =>
  (controller (Mihomo.restore rt.controller p.previousGeneration)).bind fun restored =>
  .call (.invalidateVersionEvidence p.candidate.subscription.id p.candidate.versionID) fun
    invalidated => .done (joinSteps authorized restored.err invalidated)

/-! ## RequalifyUplink -/

def activeMaterials (rt : Runtime) (inv : Inventory) :
    List Subscriptions.Subscription → Except Failure (List Material)
  | [] => .ok []
  | s :: ss =>
    if !s.enabled || activeVersion s = "" then activeMaterials rt inv ss
    else match loadActive rt s inv with
    | .error err => .error err
    | .ok material =>
      match activeMaterials rt inv ss with
      | .error err => .error err
      | .ok rest => .ok (material :: rest)

section
variable (rt : Runtime)

def requalifyMaterials (inv : Inventory) : Except Failure (List Material) :=
  match activeMaterials rt inv inv.store.subscriptions.rows with
  | .error err => .error err
  | .ok materials =>
    if materials.isEmpty then
      .error (.text "uplink requalification requires at least one active subscription LKG")
    else .ok materials

section
variable (uplinkID : String)

/-- during a policy change on this uplink the subscription in use comes first -/
def orderMaterials (materials : List Material) (inv : Inventory) :
    Except Failure (List Material) :=
  match inv.policyTransition with
  | some t =>
    if t.activeUplinkID = uplinkID then
      .ok (materials.filter (fun m => m.subscription.id = t.activeSubscriptionID) ++
        materials.filter fun m => m.subscription.id ≠ t.activeSubscriptionID)
    else .ok materials
  | none => .ok materials

structure RequalificationResult where
  uplinkID : String
  subscriptionsChecked : Nat := 0
  qualified : Nat := 0
  failed : Nat := 0
  checkedAt : Time
  deriving DecidableEq

def ofPair (uplinkID subscriptionID : String) (p : Mihomo.Path) : Bool :=
  !p.qualificationOnly && p.uplinkID = uplinkID && p.subscriptionID = subscriptionID

def selectRequalified (bundle : Mihomo.Bundle) (uplinkID : String) (m : Material)
    (result : Health.CellResult) : Action (Except Failure Bool) :=
  if result.state = .qualified && result.selectedNodeID ≠ "" then
    match m.nodes.find? fun n => n.id = result.selectedNodeID with
    | none => stop (.text "requalified node identity is unavailable")
    | some node =>
      match bundle.paths.find? (ofPair uplinkID m.subscription.id) with
      | none => stop (.text "requalified Mihomo path is unavailable")
      | some path =>
        if path.groupName = "" then stop (.text "requalified Mihomo path is unavailable")
        else .call (.select path.groupName (path.nodePrefix ++ node.externalName)) fun
          | .error err => stop (err.wrap "select requalified node")
          | .ok _ => .done (.ok true)
  else .done (.ok false)

def requalifyOne (bundle : Mihomo.Bundle) (targets : List Health.Target)
    (uplinkID : String) (checkedAt : Time) (m : Material) : Action (Except Failure Bool) :=
  (qualifyPaths rt m bundle targets (ofPair uplinkID m.subscription.id)).attempt stop fun items =>
    match items with
    | [item] =>
      .call (.storeQualification (snapshotFromHealth item.result item.policyGeneration
        item.routeGeneration checkedAt (checkedAt + rt.ttl))) fun
      | .error err => stop (err.wrap ("store uplink requalification for path " ++
          item.result.pathID))
      | .ok _ => selectRequalified bundle uplinkID m item.result
    | _ => stop (.text ("active bundle has " ++ toString items.length ++ " paths for uplink " ++
        uplinkID ++ " subscription " ++ m.subscription.id))

def requalifyEach (rt : Runtime) (bundle : Mihomo.Bundle) (targets : List Health.Target)
    (uplinkID : String) : RequalificationResult → List Material →
    Action (Except Failure RequalificationResult)
  | result, [] => .done (.ok result)
  | result, m :: ms =>
    (requalifyOne rt bundle targets uplinkID result.checkedAt m).attempt stop fun qualified =>
      requalifyEach rt bundle targets uplinkID
        { result with
          subscriptionsChecked := result.subscriptionsChecked + 1
          qualified := if qualified then result.qualified + 1 else result.qualified
          failed := if qualified then result.failed else result.failed + 1 } ms

/-- `RequalifyUplink`, after the bundle has been applied -/
def requalifyApplied (targets : List Health.Target)
    (materials : List Material) (bundle : Mihomo.Bundle) (previous : String) :
    Action (Except Failure RequalificationResult) :=
  .call .now fun (checkedAt : Time) =>
  (requalifyEach rt bundle targets uplinkID { uplinkID, checkedAt } materials).attempt
    (restoreAfter rt previous) fun result =>
      (evaluateTargetStates targets).bind fun _ => .done (.ok result)

/-- `RequalifyUplink`, from the authorization on -/
def requalifyPrepared (targets : List Health.Target)
    (materials : List Material) (bundle : Mihomo.Bundle) (versionIDs : List String) :
    Action (Except Failure RequalificationResult) :=
  .call (.authorize versionIDs) fun
  | .error err => stop (err.wrap "authorize active endpoints before modem requalification")
  | .ok _ =>
    (applyBundle rt (rt.generationID ("requalify-" ++ uplinkID) (",".intercalate versionIDs))
      bundle).attempt (fun err => stop (err.wrap "apply active bundle for uplink requalification"))
      (requalifyApplied rt uplinkID targets materials bundle)

def requalifyUplink : Action (Except Failure RequalificationResult) :=
  match rt.validate with
  | .error err => stop err
  | .ok _ =>
    if trimSpace uplinkID = "" then stop (.text "uplink id is required for requalification")
    else .call .syncRouting fun
      | .error err => stop (err.wrap "synchronize uplink routing before requalification")
      | .ok _ => (query readyUplinks).attempt stop fun uplinks =>
        if !uplinks.any fun u => u.id = uplinkID then
          stop (.text "requested uplink is not ready")
        else .call .reconcileCells fun
          | .error err => stop (err.wrap "reconcile path matrix before uplink requalification")
          | .ok _ => (query probeTargets).attempt stop fun targets =>
            (query (requalifyMaterials rt)).attempt stop fun materials =>
            (query (orderMaterials uplinkID materials)).attempt stop fun ordered =>
            (query (buildBundle rt uplinks none)).attempt stop fun bundle =>
            requalifyPrepared rt uplinkID targets ordered bundle
              (sortStrings (materials.map (·.versionID)))

end

end

/-! ## path operations -/

structure PathOperationOptions where
  authoritative : Bool := false
  probeClass : String := ""
  qualifier : Health.Qualifier := {}
  phase : String := ""
  diagnosticEvent : String := ""
  pathEvent : String := ""
  nodeEvent : String := ""
  skipDeferredStore : Bool := false

structure PathOperationResult where
  pathID : String
  nodeID : String
  authoritative : Bool
  policyGeneration : Int
  routeGeneration : Int
  checkedAt : Time
  expiresAt : Time
  candidateNodesTotal : Nat
  deferredReason : String := ""
  result : Health.CellResult

structure Operation where
  cell : Access.Path
  material : Material
  targets : List Health.Target
  bundle : Mihomo.Bundle
  path : Mihomo.Path
  versions : List String

def loadCell (pathID : String) (inv : Inventory) :
    Except Failure (Access.Path × List Mihomo.Uplink × Subscriptions.Subscription) :=
  match inv.cells.find pathID with
  | none => .error (.text "not found")
  | some cell =>
  match readyUplinks inv with
  | .error err => .error err
  | .ok uplinks =>
  if !uplinks.any fun u => u.id = cell.uplinkID then .error .pathNotReady
  else match inv.store.subscriptions.find cell.subscriptionID with
  | none => .error (.text "not found")
  | some s =>
    if !s.enabled || activeVersion s = "" then .error .pathNotReady else .ok (cell, uplinks, s)

section
variable (rt : Runtime)

def loadOperation (pathID nodeID : String) (inv : Inventory) : Except Failure Operation :=
  match loadCell pathID inv with
  | .error err => .error err
  | .ok (cell, uplinks, s) =>
  match loadActive rt s inv with
  | .error err => .error err
  | .ok material =>
  if nodeID ≠ "" && !material.nodes.any fun n => n.id = nodeID then .error .nodeNotEligible
  else match probeTargets inv with
  | .error err => .error err
  | .ok targets =>
  match buildBundle rt uplinks none inv with
  | .error err => .error err
  | .ok bundle =>
  match bundle.paths.find? (ofPair cell.uplinkID cell.subscriptionID) with
  | none => .error (.text "active Mihomo bundle has no requested path")
  | some path =>
  match endpointVersionIDs inv with
  | .error err => .error err
  | .ok versions => .ok ⟨cell, material, targets, bundle, path, versions⟩

def operationPath (op : Operation) (nodeID : String) (inv : Inventory) :
    Except Failure Health.Path :=
  .ok { id := op.cell.id, uplinkID := op.cell.uplinkID, subscriptionID := op.cell.subscriptionID
        providerName := op.path.providerName, probeGroupName := op.path.probeGroupName
        preferredNodeIDs := if nodeID = "" then preferredNodeIDs op.material.nodes
          (inv.preferences.filter fun p => p.subscriptionID = op.cell.subscriptionID)
          (stickyNode inv op.cell) else []
        candidates := healthCandidates op.path
          (op.material.nodes.filter fun n => nodeID = "" || n.id = nodeID) }

def deferredReason (result : Health.CellResult) : String :=
  if result.nodes.any fun n => n.transport.errorCode = "DEFERRED_BUDGET" ||
      n.targets.any fun t => t.errorCode = "DEFERRED_BUDGET" then "DEFERRED_BUDGET"
  else ""

def restoreResult (previous event : String) (result : PathOperationResult) :
    Action (Except Failure PathOperationResult) :=
  (controller (Mihomo.restore rt.controller previous)).bind fun reply =>
    match reply.err with
    | some err => stop (.text err)
    | none =>
      if event = "" then .done (.ok result)
      else .call (.appendEvent event) fun _ => .done (.ok result)

def storeOperation (op : Operation) (nodeID : String) (r : PathOperationResult) :
    Action (Except Failure String) :=
  let snapshot := snapshotFromHealth r.result r.policyGeneration r.routeGeneration r.checkedAt
    r.expiresAt
  if nodeID = "" then
    .call (.storeQualification snapshot) fun
    | .error err => stop (err.wrap "store manual path qualification")
    | .ok _ => .done (.ok r.result.selectedNodeID)
  else match snapshot.nodes with
  | [node] =>
    .call (.storeNodeQualification ⟨op.cell.id, r.policyGeneration, r.routeGeneration,
      op.material.nodes.length, r.result.requiredTargetsTotal, r.checkedAt, r.expiresAt, node⟩) fun
    | .error err => stop (err.wrap "store manual node qualification")
    | .ok selected => .done (.ok selected)
  | _ => stop (.text "exact node qualification produced an invalid result count")

def publishOperation (op : Operation) (nodeID : String) (r : PathOperationResult) :
    Action (Except Failure Unit) :=
  (storeOperation op nodeID r).attempt stop fun selected =>
    if selected = "" then .done (.ok ())
    else match op.material.nodes.find? fun n => n.id = selected with
    | none => stop (.text "qualified node identity is unavailable after commit")
    | some node => .call (.select op.path.groupName (op.path.nodePrefix ++ node.externalName)) fun
      | .error err => stop (err.wrap "select manually qualified path node")
      | .ok _ => .done (.ok ())

section
variable (options : PathOperationOptions)

def operationEvent (nodeID : String) : String :=
  if nodeID ≠ "" && options.nodeEvent ≠ "" then options.nodeEvent else options.pathEvent

def PathOperationOptions.restores (result : Health.CellResult) : Bool :=
  !options.authoritative ||
    (deferredReason result ≠ "" && options.skipDeferredStore && result.state ≠ .qualified)

def finishOperation (op : Operation) (nodeID previous : String) (r : PathOperationResult) :
    Action (Except Failure PathOperationResult) :=
  if deferredReason r.result ≠ "" && options.skipDeferredStore && r.result.state ≠ .qualified then
    restoreResult rt previous "PERIODIC_PATH_DEFERRED"
      { r with authoritative := false, deferredReason := deferredReason r.result }
  else if !options.authoritative then restoreResult rt previous options.diagnosticEvent r
  else (publishOperation op nodeID r).attempt (restoreAfter rt previous) fun _ =>
    (evaluateTargetStates op.targets).bind fun _ =>
      if operationEvent options nodeID = "" then .done (.ok r)
      else .call (.appendEvent (operationEvent options nodeID)) fun _ => .done (.ok r)

def Runtime.proberOf : Health.Prober :=
  if options.probeClass = "" then rt.prober
  else (rt.proberForClass options.probeClass).getD rt.prober

def operationApplied (op : Operation)
    (nodeID previous : String) : Action (Except Failure PathOperationResult) :=
  (query (operationPath op nodeID)).attempt (restoreAfter rt previous) fun path =>
  .call .probe fun
  | .error err => restoreAfter rt previous (err.wrap "qualify exact path")
  | .ok _ => match Health.qualifyCell options.qualifier (rt.proberOf options) path op.targets with
    | .error err => restoreAfter rt previous (.text ("qualify exact path: " ++ err))
    | .ok result => .call .now fun (checkedAt : Time) =>
      finishOperation rt options op nodeID previous
        { pathID := op.cell.id, nodeID, authoritative := options.authoritative
          policyGeneration := op.cell.policyGeneration, routeGeneration := op.cell.routeGeneration
          checkedAt, expiresAt := checkedAt + rt.ttl
          candidateNodesTotal := op.material.nodes.length, result }

def operationSeed (op : Operation) (pathID nodeID : String) (startedAt : Time) : String :=
  pathID ++ ":" ++ nodeID ++ ":" ++ toString op.cell.policyGeneration ++ ":" ++
    toString op.cell.routeGeneration ++ ":" ++ toString startedAt

def operationPhase : String :=
  if options.phase = "" then "path-operation" else options.phase

def operationPrepared (pathID nodeID : String)
    (op : Operation) : Action (Except Failure PathOperationResult) :=
  .call (.authorize op.versions) fun
  | .error err => stop (err.wrap "authorize active endpoints before path operation")
  | .ok _ => .call .now fun (startedAt : Time) =>
    (applyBundle rt (rt.generationID (operationPhase options)
      (operationSeed op pathID nodeID startedAt)) op.bundle).attempt
      (fun err => stop (err.wrap "apply active bundle for path operation"))
      (operationApplied rt options op nodeID)

end

def runPathOperation (pathID nodeID : String) (options : PathOperationOptions) :
    Action (Except Failure PathOperationResult) :=
  match rt.validate with
  | .error err => stop err
  | .ok _ =>
    if trimSpace pathID = "" || (nodeID ≠ "" && trimSpace nodeID = "") then
      stop (.text "path id and optional node id must be non-empty")
    else .call .syncRouting fun
      | .error err => stop (err.wrap "synchronize modem routing before path operation")
      | .ok _ => .call .reconcileCells fun
        | .error err => stop (err.wrap "reconcile path matrix before path operation")
        | .ok _ => (query (loadOperation rt pathID nodeID)).attempt stop
          (operationPrepared rt options pathID nodeID)

end

/-! ## a sample -/

def sampleRuntime (passes : Bool) : Runtime where
  lib := { normalizeNodeName := id, compiles := fun _ => true, compileError := fun _ => ""
           matchString := fun _ _ => false, nodeDigest := fun _ fingerprint => fingerprint }
  generator := { loopbackPort := fun _ => true, sameAddrPort := fun _ _ => false
                 shortID := fun _ => "0a", encodeProvider := fun _ => "proxies: []"
                 encodeMain := fun _ _ => "mode: rule"
                 shortID_hex := fun _ => by decide, encodeMain_ne := fun _ _ => by decide }
  digest := fun _ => "0a"
  prober := { probeTransport := fun _ _ => { state := .passed }
              probeTarget := fun _ _ _ => { state := if passes then .passed else .failed } }

def samplePayload (versionID : String) : Subscriptions.Payload :=
  { contentSHA256 := "", proxies := [{ name := "node of " ++ versionID, fingerprint := versionID }] }

def sampleNode (versionID : String) : Subscriptions.StoredNode :=
  { id := "node of " ++ versionID, versionID, externalName := "node of " ++ versionID
    normalizedName := "node of " ++ versionID, fingerprint := versionID }

def sampleInventory : Inventory where
  store :=
    { subscriptions := ⟨[{ id := "s1", activeVersionID := some "v1" },
        { id := "s2", enabled := false, activeVersionID := some "v2" }], by decide⟩
      versions := ⟨[{ id := "v1", subscriptionID := "s1", state := .lkg, createdAt := 0 },
        { id := "v2", subscriptionID := "s2", state := .lkg, createdAt := 0 },
        { id := "v3", subscriptionID := "s1", createdAt := 1 }], by decide⟩
      nodes := ⟨["v1", "v2", "v3"].map sampleNode, by decide⟩ }
  payload := fun _ versionID => some (samplePayload versionID)
  uplinks := ⟨[{ id := "u1" }], by decide⟩
  targets := ⟨[{ id := "t1" }], by decide⟩

def sampleWorld : World := { inventory := sampleInventory }

def sampleCandidate : StagedCandidate :=
  { subscriptionID := "s1", versionID := "v3", versionSubscriptionID := "s1"
    payloadPath := "/var/lib/gateway-vpn/subscriptions/s1/v3/payload.yaml" }

end GatewayVpn.Candidate
