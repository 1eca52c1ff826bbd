import GatewayVpn.Subscription.Versions
import GatewayVpn.Access.Publishing
import GatewayVpn.Mihomo.Transaction
import GatewayVpn.Health.Qualifier

/-!
# Candidate: what the runtime reads

The candidate runtime builds a Mihomo bundle from the tables and the stored payloads, and decides
which versions the firewall has to let through.

A list is returned in the order of its table.  The cause of an unreadable payload is not told.
-/

namespace GatewayVpn.Candidate

open Durable List
open Subscriptions (ImportedNode StoredNode Store VersionState Payload)
open Access (Snapshot SelectionOverride PathState TargetClass)

/-! ## errors -/

inductive Failure where
  | text (message : String)
  | pathNotReady
  | nodeNotEligible
  deriving DecidableEq

/-- `fmt.Errorf("context: %w")` -/
def Failure.wrap (context : String) : Failure → Failure
  | .text message => .text (context ++ ": " ++ message)
  | err => err

def wrapError {α : Type} (context : String) : Except Failure α → Except Failure α
  | .error err => .error (err.wrap context)
  | .ok a => .ok a

/-! ## rows -/

structure Uplink where
  id : String
  priority : Int := 1
  enabled : Bool := true
  /-- the state `UPLINK_READY` -/
  ready : Bool := true
  currentIfname : String := "eth0"
  fwmark : Int := 1
  routeGeneration : Int := 0

/-- a target, with what `bypass.Repository` checks before it writes one -/
structure Target where
  id : String
  normalizedURL : String := "https://example.net/"
  enabled : Bool := true
  required : Bool := true
  targetClass : TargetClass := .globalRequired
  priority : Int := 1
  timeoutSeconds : Int := 8
  valid : id ≠ "" ∧ normalizedURL ≠ "" ∧ 1 ≤ timeoutSeconds ∧ timeoutSeconds ≤ 60 := by decide

structure NodePreference where
  subscriptionID : String
  fingerprint : String
  activeNodeID : String := ""
  preferredRank : Int := 0
  selectionOverride : SelectionOverride := .auto

/-- the tables and files; cells and nodes have ids, and a version that is pointed to was activated -/
structure Inventory where
  store : Store := {}
  payload : String → String → Option Payload := fun _ _ => none
  uplinks : Table Uplink.id := .empty
  targets : Table Target.id := .empty
  cells : Table Access.Path.id := .empty
  preferences : List NodePreference := []
  state : Snapshot := {}
  /-- the setting `next_policy_generation` -/
  nextPolicyGeneration : Option String := none
  cells_named : ∀ c ∈ cells.rows, c.id ≠ "" := by decide
  nodes_named : ∀ n ∈ store.nodes.rows, n.id ≠ "" := by decide
  active_activated : ∀ s ∈ store.subscriptions.rows, ∀ v ∈ store.versions.rows,
    s.activeVersionID = some v.id → v.state ≠ .candidate := by decide

def activeVersion (s : Subscriptions.Subscription) : String := s.activeVersionID.getD ""

namespace Inventory

variable (inv : Inventory)

def listNodes (versionID : String) (candidatesOnly : Bool) : List StoredNode :=
  (inv.store.versionNodes versionID).filter fun n => !candidatesOnly || n.enabled

def policyTransition : Option Snapshot :=
  if inv.state.policyTransitionActive then some inv.state else none

def transitionOn (subscriptionID : String) : Bool :=
  inv.policyTransition.any fun t => t.activeSubscriptionID = subscriptionID

end Inventory

/-! ## nodes -/

structure NodeIdentity where
  id : String
  fingerprint : String
  externalName : String
  deriving DecidableEq

def matchNodes : List ImportedNode → List StoredNode →
    List (ImportedNode × NodeIdentity) × List StoredNode
  | [], left => ([], left)
  | n :: ns, left =>
    match left.find? fun s => s.fingerprint = n.fingerprint with
    | none => matchNodes ns left
    | some s =>
      let rest := matchNodes ns (left.filter fun s => s.fingerprint ≠ n.fingerprint)
      ((n, ⟨s.id, n.fingerprint, n.externalName⟩) :: rest.1, rest.2)

def filterEnabledNodes (imported : List ImportedNode) (stored : List StoredNode) :
    Except Failure (List ImportedNode × List NodeIdentity) :=
  let enabled := stored.filter (·.enabled)
  if ¬ (enabled.map (·.fingerprint)).Nodup then .error (.text "duplicate stored node fingerprint")
  else
    let matched := matchNodes imported enabled
    if !matched.2.isEmpty then
      .error (.text "stored enabled node is absent from immutable payload")
    else .ok (matched.1.map (·.1), matched.1.map (·.2))

def loadNormalizedPayload (lib : Subscriptions.Library) (inv : Inventory)
    (subscriptionID versionID : String) : Except Failure (List ImportedNode) :=
  match inv.payload subscriptionID versionID with
  | none => .error (.text "inspect normalized subscription payload")
  | some payload =>
    match Subscriptions.importNodes lib payload with
    | .error _ => .error (.text "validate stored normalized subscription payload")
    | .ok nodes => .ok nodes

/-! ## the runtime -/

structure Runtime where
  lib : Subscriptions.Library
  generator : Mihomo.Generator
  digest : String → String
  prober : Health.Prober
  proberForClass : String → Option Health.Prober := fun _ => none
  qualifier : Health.Qualifier := {}
  baseInput : Mihomo.Input := {}
  controller : Mihomo.Controller := {}
  payloadRoot : String := "/var/lib/gateway-vpn/subscriptions"
  evidenceTTL : Time := 0
  /-- every dependency is there -/
  complete : Bool := true

def Runtime.validate (rt : Runtime) : Except Failure Unit :=
  if !rt.complete || trimSpace rt.payloadRoot = "" then
    .error (.text "candidate runtime dependencies are incomplete")
  else if rt.evidenceTTL < 0 then .error (.text "candidate evidence TTL cannot be negative")
  else .ok ()

def defaultEvidenceTTL : Time := 300 * second

def Runtime.ttl (rt : Runtime) : Time :=
  if rt.evidenceTTL > 0 then rt.evidenceTTL else defaultEvidenceTTL

def Runtime.generationID (rt : Runtime) (phase seed : String) : String :=
  phase ++ "-" ++ rt.digest (phase ++ "\x00" ++ seed)

/-! ## material -/

structure Material where
  subscription : Subscriptions.Subscription
  versionID : String
  imported : List ImportedNode
  nodes : List NodeIdentity
  deriving DecidableEq

structure StagedCandidate where
  subscriptionID : String
  versionID : String
  versionSubscriptionID : String
  versionState : VersionState := .candidate
  payloadPath : String

/-- `filepath.Clean`: whether the path is absolute, and its segments in reverse -/
def cleanPath (value : String) : Bool × List (List Char) :=
  let absolute := value.toList.head? = some '/'
  let segments := Mihomo.cleanSegments (value.toList.splitOn '/')
  (absolute, if absolute then segments.filter fun s => s ≠ ['.', '.'] else segments)

def samePath (left right : String) : Bool :=
  left ≠ "" && right ≠ "" && cleanPath left = cleanPath right

def loadCandidate (rt : Runtime) (candidate : StagedCandidate) (inv : Inventory) :
    Except Failure Material :=
  if candidate.subscriptionID = "" || candidate.versionID = "" ||
      candidate.versionSubscriptionID ≠ candidate.subscriptionID ||
      candidate.versionState ≠ .candidate then
    .error (.text "complete staged candidate identity is required")
  else match inv.store.versions.find candidate.versionID with
  | none => .error (.text "read staged candidate version: not found")
  | some version =>
  if version.subscriptionID ≠ candidate.subscriptionID || version.state ≠ .candidate then
    .error (.text "candidate version is not staged for the requested subscription")
  else match inv.store.subscriptions.find candidate.subscriptionID with
  | none => .error (.text "read candidate subscription: not found")
  | some subscription =>
  if !samePath candidate.payloadPath (rt.payloadRoot ++ "/" ++ candidate.subscriptionID ++ "/" ++
      candidate.versionID ++ "/payload.yaml") then
    .error (.text "candidate payload path is outside its immutable version directory")
  else match loadNormalizedPayload rt.lib inv candidate.subscriptionID candidate.versionID with
  | .error err => .error err
  | .ok imported =>
  match filterEnabledNodes imported (inv.listNodes candidate.versionID true) with
  | .error err => .error (err.wrap "match candidate payload to stored nodes")
  | .ok (filtered, nodes) =>
    if filtered.isEmpty then .error (.text "candidate has no enabled nodes")
    else .ok ⟨subscription, version.id, filtered, nodes⟩

def loadActive (rt : Runtime) (subscription : Subscriptions.Subscription) (inv : Inventory) :
    Except Failure Material :=
  match inv.store.versions.find (activeVersion subscription) with
  | none => .error (.text "read active subscription version: not found")
  | some version =>
  if version.subscriptionID ≠ subscription.id || version.state ≠ .lkg then
    .error (.text "active subscription pointer does not reference an LKG")
  else match loadNormalizedPayload rt.lib inv subscription.id version.id with
  | .error err => .error err
  | .ok imported =>
  match filterEnabledNodes imported (inv.listNodes version.id true) with
  | .error err => .error (err.wrap "match active payload to stored nodes")
  | .ok (filtered, nodes) =>
    if filtered.isEmpty && !inv.transitionOn subscription.id then
      .error (.text "active subscription has no enabled nodes")
    else .ok ⟨subscription, version.id, filtered, nodes⟩

/-! ## uplinks and targets -/

def Uplink.isReady (u : Uplink) : Bool :=
  u.enabled && u.ready && u.currentIfname ≠ "" && 0 < u.fwmark && u.fwmark ≤ 2 ^ 32 - 1

def Uplink.generated (u : Uplink) : Mihomo.Uplink :=
  { id := u.id, priority := u.priority, interfaceName := u.currentIfname
    fwmark := u.fwmark.toNat, enabled := true, online := true }

def readyUplinks (inv : Inventory) : Except Failure (List Mihomo.Uplink) :=
  let ready := inv.uplinks.rows.filter Uplink.isReady
  if ready.isEmpty then
    .error (.text "candidate qualification requires at least one ready uplink")
  else .ok (ready.map Uplink.generated)

def Target.probed (t : Target) : Bool :=
  t.enabled && (t.targetClass = .globalRequired || t.targetClass = .globalOptional)

def Target.health (t : Target) : Health.Target :=
  { id := t.id, url := t.normalizedURL, priority := t.priority, required := t.required
    timeout := t.timeoutSeconds * second }

def probeTargets (inv : Inventory) : Except Failure (List Health.Target) :=
  let probed := inv.targets.rows.filter Target.probed
  if !probed.any (·.required) then
    .error (.text "candidate qualification requires at least one enabled required target")
  else .ok (probed.map Target.health)

/-! ## the bundle -/

def preserveTransitionNode (imported filtered : List ImportedNode) (stored : List StoredNode)
    (nodeID : String) : Except Failure (List ImportedNode) :=
  if nodeID = "" then .error (.text "active grace node id is required")
  else match stored.find? fun n => n.id = nodeID with
  | none => .error (.text "active grace node is absent from the active version")
  | some node =>
    if node.fingerprint = "" then
      .error (.text "active grace node is absent from the active version")
    else if filtered.any fun n => n.fingerprint = node.fingerprint then .ok filtered
    else match imported.find? fun n => n.fingerprint = node.fingerprint with
    | none => .error (.text "active grace node is absent from the immutable payload")
    | some n => .ok (n :: filtered)

def bundledNodes (rt : Runtime) (inv : Inventory) (s : Subscriptions.Subscription) :
    Except Failure (List ImportedNode) :=
  match loadNormalizedPayload rt.lib inv s.id (activeVersion s) with
  | .error err => .error (err.wrap ("load active payload for subscription " ++ s.id))
  | .ok imported =>
  match filterEnabledNodes imported (inv.listNodes (activeVersion s) true) with
  | .error err => .error (err.wrap ("match active payload for subscription " ++ s.id))
  | .ok (filtered, _) =>
    if inv.transitionOn s.id then
      wrapError ("preserve active grace node for subscription " ++ s.id)
        (preserveTransitionNode imported filtered (inv.listNodes (activeVersion s) false)
          inv.state.activeNodeID)
    else .ok filtered

/-- access-method enablement only decides who may use the nodes -/
def bundled (s : Subscriptions.Subscription) (nodes : List ImportedNode) : Mihomo.Subscription :=
  { id := s.id, priority := s.priority, qualificationOnly := !s.enabled, nodes
    version := activeVersion s }

def bundledSubscriptions (rt : Runtime) (inv : Inventory) :
    List Subscriptions.Subscription → Except Failure (List Mihomo.Subscription)
  | [] => .ok []
  | s :: ss =>
    if activeVersion s = "" then bundledSubscriptions rt inv ss
    else match bundledNodes rt inv s with
    | .error err => .error err
    | .ok nodes =>
      match bundledSubscriptions rt inv ss with
      | .error err => .error err
      | .ok rest => .ok (if nodes.isEmpty then rest else bundled s nodes :: rest)

def shadowKey (versionID : String) : String := "qualification-shadow-" ++ versionID

def Material.shadow (m : Material) : Mihomo.Subscription :=
  { id := m.subscription.id, runtimeKey := shadowKey m.versionID
    priority := m.subscription.priority, qualificationOnly := true, nodes := m.imported
    version := m.versionID }

def bundleInput (rt : Runtime) (uplinks : List Mihomo.Uplink)
    (subscriptions : List Mihomo.Subscription) : Mihomo.Input :=
  { rt.baseInput with uplinks, subscriptions }

def buildBundle (rt : Runtime) (uplinks : List Mihomo.Uplink) (shadow : Option Material)
    (inv : Inventory) : Except Failure Mihomo.Bundle :=
  match bundledSubscriptions rt inv inv.store.subscriptions.rows with
  | .error err => .error err
  | .ok subscriptions =>
    match Mihomo.generate rt.generator
      (bundleInput rt uplinks (subscriptions ++ (shadow.map Material.shadow).toList)) with
    | .error err => .error (.text ("generate Mihomo candidate bundle: " ++ err))
    | .ok bundle => .ok bundle

/-! ## the authorized versions -/

def sortStrings (values : List String) : List String :=
  values.insertionSort fun a b => !lexLess b.toList a.toList

def activeVersions (p : Subscriptions.Subscription → Bool) (inv : Inventory) : List String :=
  ((inv.store.subscriptions.rows.filter p).map activeVersion).filter fun v => v ≠ ""

/-- `endpointVersionIDs`; every caller asks without a shadow -/
def endpointVersionIDs (inv : Inventory) : Except Failure (List String) :=
  let versions := activeVersions (fun _ => true) inv
  if versions.isEmpty then
    .error (.text "Mihomo endpoint authorization has no active or candidate versions")
  else .ok (sortStrings versions)

/-! ## the cells -/

def policyGeneration (inv : Inventory) : Except Failure Int :=
  match inv.nextPolicyGeneration with
  | none => .ok 0
  | some value =>
    match Access.parseInt value with
    | some next =>
      if next < 1 then .error (.text ("invalid next path policy generation " ++ quote value))
      else .ok (next - 1)
    | none => .error (.text ("invalid next path policy generation " ++ quote value))

def forcedState (u : Uplink) (s : Subscriptions.Subscription) : Option PathState :=
  if !u.enabled then some .uplinkDisabled
  else if !s.enabled then some .subscriptionDisabled
  else if !u.ready then some .uplinkOffline
  else none

def newCell (policy : Int) (u : Uplink) (s : Subscriptions.Subscription) : Access.Path :=
  { id := "path:" ++ u.id ++ ":" ++ s.id, uplinkID := u.id, subscriptionID := s.id
    state := (forcedState u s).getD .untested, policyGeneration := policy
    routeGeneration := u.routeGeneration }

def missingCells (inv : Inventory) (policy : Int) : List Access.Path :=
  inv.uplinks.rows.flatMap fun u => (inv.store.subscriptions.rows.filter fun s =>
    !inv.cells.rows.any fun c => c.uplinkID = u.id && c.subscriptionID = s.id).map (newCell policy u)

def refreshCell (inv : Inventory) (c : Access.Path) : Access.Path :=
  match inv.uplinks.find c.uplinkID, inv.store.subscriptions.find c.subscriptionID with
  | some u, some s =>
    match forcedState u s with
    | some state =>
      { c with state, transportState := .unknown, selectedNodeID := none, quality := .unknown
               functionalScore := 0, expiresAt := none }
    | none =>
      if c.state = .uplinkDisabled || c.state = .subscriptionDisabled || c.state = .uplinkOffline
      then { c with state := .untested }
      else c
  | _, _ => c

structure SameCell (c d : Access.Path) : Prop where
  id : d.id = c.id
  uplinkID : d.uplinkID = c.uplinkID
  subscriptionID : d.subscriptionID = c.subscriptionID

theorem refreshCell_same (inv : Inventory) (c : Access.Path) : SameCell c (refreshCell inv c) := by
  unfold refreshCell
  split
  · split
    · exact ⟨rfl, rfl, rfl⟩
    · split <;> exact ⟨rfl, rfl, rfl⟩
  · exact ⟨rfl, rfl, rfl⟩

variable {inv : Inventory}

theorem mem_missingCells {policy : Int} {c : Access.Path} :
    c ∈ missingCells inv policy ↔ ∃ u ∈ inv.uplinks.rows, ∃ s ∈ inv.store.subscriptions.rows,
      (∀ d ∈ inv.cells.rows, ¬ (d.uplinkID = u.id ∧ d.subscriptionID = s.id)) ∧
        c = newCell policy u s := by
  simp only [missingCells, mem_flatMap, mem_map, mem_filter, Bool.not_eq_true',
    any_eq_false, Bool.and_eq_true, decide_eq_true_eq]
  constructor
  · rintro ⟨u, hu, s, ⟨hs, hnone⟩, rfl⟩
    exact ⟨u, hu, s, hs, hnone, rfl⟩
  · rintro ⟨u, hu, s, hs, hnone, rfl⟩
    exact ⟨u, hu, s, ⟨hs, hnone⟩, rfl⟩

theorem newCell_named (policy : Int) (u : Uplink) (s : Subscriptions.Subscription) :
    (newCell policy u s).id ≠ "" := by
  intro h
  have hlength := congrArg (fun t => t.toList) h
  simp [newCell] at hlength

def reconciledRows (inv : Inventory) (cells : Table Access.Path.id) : Table Access.Path.id :=
  cells.updateWhere (fun _ => true) (refreshCell inv) fun c => (refreshCell_same inv c).id

variable {cells : Table Access.Path.id}

theorem mem_reconciledRows {c : Access.Path} :
    c ∈ (reconciledRows inv cells).rows ↔ ∃ d ∈ cells.rows, refreshCell inv d = c := by
  simp [reconciledRows, Table.updateWhere]

theorem reconciledRows_named {policy : Int}
    (h : Access.insertAll inv.cells (missingCells inv policy) = some cells) :
    ∀ c ∈ (reconciledRows inv cells).rows, c.id ≠ "" := by
  intro c hc
  obtain ⟨d, hd, rfl⟩ := mem_reconciledRows.mp hc
  rw [(refreshCell_same inv d).id]
  rw [Access.insertAll_rows h, mem_append] at hd
  rcases hd with hd | hd
  · exact inv.cells_named d hd
  · obtain ⟨u, _, s, _, _, rfl⟩ := mem_missingCells.mp hd
    exact newCell_named policy u s

def reconcileCells (inv : Inventory) : Except Failure Inventory :=
  match policyGeneration inv with
  | .error err => .error err
  | .ok policy =>
    match h : Access.insertAll inv.cells (missingCells inv policy) with
    | none => .error (.text "create path matrix cells: constraint failed")
    | some cells => .ok { inv with
        cells := reconciledRows inv cells
        cells_named := reconciledRows_named h }

def getCell (inv : Inventory) (uplinkID subscriptionID : String) : Except Failure Access.Path :=
  match inv.cells.rows.find? fun c => c.uplinkID = uplinkID && c.subscriptionID = subscriptionID with
  | none => .error (.text "read path matrix cell for qualification: not found")
  | some cell => .ok cell

structure SameTables (inv inv' : Inventory) : Prop where
  store : inv'.store = inv.store
  payload : inv'.payload = inv.payload
  uplinks : inv'.uplinks = inv.uplinks
  targets : inv'.targets = inv.targets
  state : inv'.state = inv.state

/-- **after a reconciliation every uplink and subscription have a cell** -/
theorem reconcileCells_ok {inv' : Inventory} (h : reconcileCells inv = .ok inv') :
    SameTables inv inv' ∧ ∀ u ∈ inv.uplinks.rows, ∀ s ∈ inv.store.subscriptions.rows,
      ∃ c ∈ inv'.cells.rows, c.uplinkID = u.id ∧ c.subscriptionID = s.id := by
  unfold reconcileCells at h
  split at h
  · cases h
  next policy _ =>
  split at h
  · cases h
  next cells hinsert =>
  cases h
  refine ⟨⟨rfl, rfl, rfl, rfl, rfl⟩, fun u hu s hs => ?_⟩
  have hcell : ∃ d ∈ cells.rows, d.uplinkID = u.id ∧ d.subscriptionID = s.id := by
    rw [Access.insertAll_rows hinsert]
    by_cases hthere : ∃ d ∈ inv.cells.rows, d.uplinkID = u.id ∧ d.subscriptionID = s.id
    · obtain ⟨d, hd, hpair⟩ := hthere
      exact ⟨d, mem_append_left _ hd, hpair⟩
    · refine ⟨newCell policy u s, mem_append_right _ (mem_missingCells.mpr
        ⟨u, hu, s, hs, fun d hd hpair => hthere ⟨d, hd, hpair⟩, rfl⟩), rfl, rfl⟩
  obtain ⟨d, hd, huplink, hsubscription⟩ := hcell
  have hsame := refreshCell_same inv d
  exact ⟨refreshCell inv d, mem_reconciledRows.mpr ⟨d, hd, rfl⟩, hsame.uplinkID.trans huplink,
    hsame.subscriptionID.trans hsubscription⟩

theorem getCell_ok {uplinkID subscriptionID : String}
    (h : ∃ c ∈ inv.cells.rows, c.uplinkID = uplinkID ∧ c.subscriptionID = subscriptionID) :
    ∃ cell, getCell inv uplinkID subscriptionID = .ok cell ∧ cell.id ≠ "" := by
  obtain ⟨c, hc, hpair⟩ := h
  unfold getCell
  cases hfind : inv.cells.rows.find? fun c =>
      c.uplinkID = uplinkID && c.subscriptionID = subscriptionID with
  | none => exact absurd (find?_eq_none.mp hfind c hc) (by simp [hpair])
  | some cell => exact ⟨cell, rfl, inv.cells_named cell (mem_of_find?_eq_some hfind)⟩

/-! ## the tables that an operation reads -/

section
variable {inv inv' : Inventory}

theorem SameTables.refl (inv : Inventory) : SameTables inv inv := ⟨rfl, rfl, rfl, rfl, rfl⟩

theorem SameTables.trans {a b c : Inventory} (h : SameTables a b) (h' : SameTables b c) :
    SameTables a c :=
  ⟨h'.store.trans h.store, h'.payload.trans h.payload, h'.uplinks.trans h.uplinks,
    h'.targets.trans h.targets, h'.state.trans h.state⟩

variable (h : SameTables inv inv')
include h

theorem SameTables.readyUplinks : readyUplinks inv' = readyUplinks inv := by
  unfold Candidate.readyUplinks
  rw [h.uplinks]

theorem SameTables.activeVersions (p : Subscriptions.Subscription → Bool) :
    activeVersions p inv' = activeVersions p inv := by
  unfold Candidate.activeVersions
  rw [h.store]

theorem SameTables.endpointVersionIDs : endpointVersionIDs inv' = endpointVersionIDs inv := by
  unfold Candidate.endpointVersionIDs
  rw [h.activeVersions]

theorem SameTables.transitionOn (id : String) : inv'.transitionOn id = inv.transitionOn id := by
  unfold Inventory.transitionOn Inventory.policyTransition
  rw [h.state]

theorem SameTables.listNodes (versionID : String) (candidatesOnly : Bool) :
    inv'.listNodes versionID candidatesOnly = inv.listNodes versionID candidatesOnly := by
  unfold Inventory.listNodes
  rw [h.store]

theorem SameTables.loadNormalizedPayload (lib : Subscriptions.Library)
    (a b : String) : loadNormalizedPayload lib inv' a b = loadNormalizedPayload lib inv a b := by
  unfold Candidate.loadNormalizedPayload
  rw [h.payload]

theorem SameTables.loadCandidate (rt : Runtime) (c : StagedCandidate) :
    loadCandidate rt c inv' = loadCandidate rt c inv := by
  unfold Candidate.loadCandidate
  rw [h.store, h.loadNormalizedPayload, h.listNodes]

theorem SameTables.bundledNodes (rt : Runtime)
    (s : Subscriptions.Subscription) : bundledNodes rt inv' s = bundledNodes rt inv s := by
  unfold Candidate.bundledNodes
  rw [h.loadNormalizedPayload, h.listNodes, h.listNodes, h.transitionOn, h.state]

theorem SameTables.bundledSubscriptions (rt : Runtime) (rows : List Subscriptions.Subscription) :
    bundledSubscriptions rt inv' rows = bundledSubscriptions rt inv rows := by
  induction rows with
  | nil => rfl
  | cons s ss ih =>
    unfold Candidate.bundledSubscriptions
    rw [h.bundledNodes, ih]

theorem SameTables.buildBundle (rt : Runtime)
    (uplinks : List Mihomo.Uplink) (shadow : Option Material) :
    buildBundle rt uplinks shadow inv' = buildBundle rt uplinks shadow inv := by
  unfold Candidate.buildBundle
  rw [h.bundledSubscriptions, h.store]

end

/-! ## enabled nodes -/

variable {stored : List StoredNode} {imported : List ImportedNode}

theorem matchNodes_none (h : (matchNodes imported stored).1 = []) :
    (matchNodes imported stored).2 = stored := by
  induction imported generalizing stored with
  | nil => rfl
  | cons n ns ih =>
    unfold matchNodes at h ⊢
    split
    · next hfind =>
      simp only [hfind] at h
      exact ih h
    next s hfind =>
    simp only [hfind] at h
    cases h

theorem matchNodes_nil (imported : List ImportedNode) : (matchNodes imported []).1 = [] := by
  induction imported with
  | nil => rfl
  | cons n ns ih => exact ih

theorem mem_matchNodes {m : ImportedNode × NodeIdentity} (h : m ∈ (matchNodes imported stored).1) :
    m.1 ∈ imported ∧ ∃ s ∈ stored, m.2 = ⟨s.id, m.1.fingerprint, m.1.externalName⟩ := by
  induction imported generalizing stored with
  | nil => cases h
  | cons n ns ih =>
    unfold matchNodes at h
    split at h
    · obtain ⟨hmem, hstored⟩ := ih h
      exact ⟨mem_cons_of_mem _ hmem, hstored⟩
    next s hfind =>
    rcases mem_cons.mp h with rfl | h
    · exact ⟨mem_cons_self, s, mem_of_find?_eq_some hfind, rfl⟩
    · obtain ⟨hmem, t, ht, heq⟩ := ih h
      exact ⟨mem_cons_of_mem _ hmem, t, (mem_filter.mp ht).1, heq⟩

/-- **what the enabled nodes of a version are**: there is one as soon as one is stored, and each has
the id of a stored one -/
theorem filterEnabledNodes_ok {filtered : List ImportedNode} {nodes : List NodeIdentity}
    (h : filterEnabledNodes imported stored = .ok (filtered, nodes)) :
    (filtered = [] ↔ stored.filter (·.enabled) = []) ∧ (nodes = [] ↔ filtered = []) ∧
      ∀ n ∈ nodes, ∃ s ∈ stored, n.id = s.id := by
  unfold filterEnabledNodes at h
  dsimp only at h
  split at h
  · cases h
  split at h
  · cases h
  next hleft =>
  cases h
  have hleft : (matchNodes imported (stored.filter (·.enabled))).2 = [] := by simpa using hleft
  refine ⟨?_, by simp, fun n hn => ?_⟩
  · rw [map_eq_nil_iff]
    refine ⟨fun hnone => (matchNodes_none hnone).symm.trans hleft, fun hnone => ?_⟩
    rw [hnone]
    exact matchNodes_nil imported
  · obtain ⟨m, hm, rfl⟩ := mem_map.mp hn
    obtain ⟨_, s, hs, heq⟩ := mem_matchNodes hm
    exact ⟨s, (mem_filter.mp hs).1, by rw [heq]⟩

/-! ## the versions of a bundle -/

def Bundles (inv : Inventory) (s : Subscriptions.Subscription) : Prop :=
  inv.listNodes (activeVersion s) true ≠ [] ∨ inv.transitionOn s.id = true

theorem listNodes_enabled (inv : Inventory) (versionID : String) :
    (inv.listNodes versionID true).filter (·.enabled) = inv.listNodes versionID true := by
  refine filter_eq_self.mpr fun n hn => ?_
  simpa using (mem_filter.mp hn).2

theorem preserveTransitionNode_ne_nil {filtered nodes : List ImportedNode} {nodeID : String}
    (h : preserveTransitionNode imported filtered stored nodeID = .ok nodes) : nodes ≠ [] := by
  unfold preserveTransitionNode at h
  split at h
  · cases h
  split at h
  · cases h
  split at h
  · cases h
  split at h
  · next hany =>
    cases h
    rintro rfl
    simp at hany
  split at h
  · cases h
  · cases h
    exact cons_ne_nil _ _

variable {rt : Runtime} {s : Subscriptions.Subscription}

theorem bundledNodes_ne_nil {nodes : List ImportedNode}
    (h : bundledNodes rt inv s = .ok nodes) : nodes ≠ [] ↔ Bundles inv s := by
  unfold bundledNodes at h
  split at h
  · cases h
  split at h
  · cases h
  next filtered _ hfilter =>
  have hnone := (filterEnabledNodes_ok hfilter).1
  rw [listNodes_enabled] at hnone
  split at h
  · next htransition =>
    refine ⟨fun _ => Or.inr htransition, fun _ => ?_⟩
    unfold wrapError at h
    split at h
    · cases h
    next hpreserve =>
    cases h
    exact preserveTransitionNode_ne_nil hpreserve
  · next htransition =>
    cases h
    rw [Bundles, ne_eq, ne_eq, hnone]
    exact (or_iff_left htransition).symm

section
variable {rows : List Subscriptions.Subscription} {subscriptions : List Mihomo.Subscription}
  (h : bundledSubscriptions rt inv rows = .ok subscriptions)
include rows subscriptions h

theorem mem_bundledSubscriptions {g : Mihomo.Subscription} :
    g ∈ subscriptions ↔ ∃ s ∈ rows, activeVersion s ≠ "" ∧ ∃ nodes,
      bundledNodes rt inv s = .ok nodes ∧ nodes ≠ [] ∧ g = bundled s nodes := by
  induction rows generalizing subscriptions with
  | nil =>
    cases h
    simp
  | cons s ss ih =>
    unfold bundledSubscriptions at h
    split at h
    · next hempty =>
      rw [ih h]
      simp [hempty]
    next hactive =>
    split at h
    · cases h
    next nodes hnodes =>
    split at h
    · cases h
    next rest hrest =>
    cases h
    have hrest := ih hrest
    constructor
    · intro hg
      split at hg
      · obtain ⟨t, ht, hfacts⟩ := hrest.mp hg
        exact ⟨t, mem_cons_of_mem _ ht, hfacts⟩
      next hne =>
      rcases mem_cons.mp hg with rfl | hg
      · exact ⟨s, mem_cons_self, hactive, nodes, hnodes, by simpa using hne, rfl⟩
      · obtain ⟨t, ht, hfacts⟩ := hrest.mp hg
        exact ⟨t, mem_cons_of_mem _ ht, hfacts⟩
    rintro ⟨t, ht, hversion, nodes', hnodes', hne, rfl⟩
    rcases mem_cons.mp ht with rfl | ht
    · rw [hnodes] at hnodes'
      cases hnodes'
      rw [if_neg (by simpa using hne)]
      exact mem_cons_self
    · have hmem := hrest.mpr ⟨t, ht, hversion, nodes', hnodes', hne, rfl⟩
      split
      · exact hmem
      · exact mem_cons_of_mem _ hmem

theorem bundledNodes_of_bundledSubscriptions (hs : s ∈ rows) (hactive : activeVersion s ≠ "") :
    ∃ nodes, bundledNodes rt inv s = .ok nodes := by
  induction rows generalizing subscriptions with
  | nil => cases hs
  | cons t ts ih =>
    unfold bundledSubscriptions at h
    split at h
    · next hempty =>
      rcases mem_cons.mp hs with rfl | hs
      · exact absurd hempty hactive
      · exact ih h hs
    split at h
    · cases h
    next nodes hnodes =>
    split at h
    · cases h
    next rest hrest =>
    rcases mem_cons.mp hs with rfl | hs
    · exact ⟨nodes, hnodes⟩
    · exact ih hrest hs

end

theorem buildBundle_ok {uplinks : List Mihomo.Uplink} {shadow : Option Material} {b : Mihomo.Bundle}
    (h : buildBundle rt uplinks shadow inv = .ok b) :
    ∃ subscriptions, bundledSubscriptions rt inv inv.store.subscriptions.rows = .ok subscriptions ∧
      Mihomo.generate rt.generator (bundleInput rt uplinks
        (subscriptions ++ (shadow.map Material.shadow).toList)) = .ok b := by
  unfold buildBundle at h
  split at h
  · cases h
  next subscriptions hsubscriptions =>
  split at h
  · cases h
  next b' hgenerate =>
  cases h
  exact ⟨subscriptions, hsubscriptions, hgenerate⟩

/-- **The versions of a bundle**: those of the active subscriptions that have a node, and that of
the shadow. -/
theorem buildBundle_versions {rt : Runtime} {uplinks : List Mihomo.Uplink}
    {shadow : Option Material} {inv : Inventory} {b : Mihomo.Bundle}
    (h : buildBundle rt uplinks shadow inv = .ok b)
    (huplink : ∃ u ∈ uplinks, u.enabled = true ∧ u.online = true) {v : String} :
    v ∈ b.paths.map (·.version) ↔
      (∃ s ∈ inv.store.subscriptions.rows, activeVersion s ≠ "" ∧ Bundles inv s ∧
        v = activeVersion s) ∨ ∃ m, shadow = some m ∧ m.imported ≠ [] ∧ v = m.versionID := by
  obtain ⟨subscriptions, hsubscriptions, hgenerate⟩ := buildBundle_ok h
  -- a path for some ready uplink and each subscription with nodes
  have hpath : v ∈ b.paths.map (·.version) ↔
      ∃ g ∈ subscriptions ++ (shadow.map Material.shadow).toList,
        g.enabled = true ∧ g.nodes ≠ [] ∧ v = g.version := by
    rw [mem_map]
    constructor
    · rintro ⟨p, hp, rfl⟩
      obtain ⟨u, g, hpair, rfl⟩ := (Mihomo.mem_paths hgenerate).mp hp
      obtain ⟨_, hg, henabled, hnodes⟩ := Mihomo.mem_pairs.mp hpair
      exact ⟨g, hg, henabled, hnodes, rfl⟩
    · rintro ⟨g, hg, henabled, hnodes, rfl⟩
      obtain ⟨u, hu, hused⟩ := huplink
      exact ⟨_, (Mihomo.mem_paths hgenerate).mpr ⟨u, g,
        Mihomo.mem_pairs.mpr ⟨⟨hu, hused⟩, hg, henabled, hnodes⟩, rfl⟩, rfl⟩
  rw [hpath]
  constructor
  · rintro ⟨g, hg, _, hnodes, rfl⟩
    rcases mem_append.mp hg with hg | hg
    · obtain ⟨s, hs, hactive, nodes, hbundled, hne, rfl⟩ :=
        (mem_bundledSubscriptions hsubscriptions).mp hg
      exact Or.inl ⟨s, hs, hactive, (bundledNodes_ne_nil hbundled).mp hne, rfl⟩
    cases shadow with
    | none => cases hg
    | some m =>
    obtain rfl : g = m.shadow := by simpa using hg
    exact Or.inr ⟨m, rfl, hnodes, rfl⟩
  rintro (⟨s, hs, hactive, hbundles, rfl⟩ | ⟨m, rfl, hne, rfl⟩)
  · obtain ⟨nodes, hnodes⟩ := bundledNodes_of_bundledSubscriptions hsubscriptions hs hactive
    have hne := (bundledNodes_ne_nil hnodes).mpr hbundles
    exact ⟨bundled s nodes, mem_append_left _ ((mem_bundledSubscriptions hsubscriptions).mpr
      ⟨s, hs, hactive, nodes, hnodes, hne, rfl⟩), rfl, hne, rfl⟩
  · exact ⟨m.shadow, mem_append_right _ (by simp), rfl, hne, rfl⟩

/-! ## the versions that are authorized -/

variable {v : String}

theorem mem_sortStrings {values : List String} : v ∈ sortStrings values ↔ v ∈ values :=
  mem_insertionSort _

theorem mem_activeVersions {p : Subscriptions.Subscription → Bool} : v ∈ activeVersions p inv ↔
      ∃ s ∈ inv.store.subscriptions.rows, p s = true ∧ activeVersion s = v ∧ v ≠ "" := by
  simp only [activeVersions, mem_filter, mem_map, ne_eq, decide_not, Bool.not_eq_true',
    decide_eq_false_iff_not]
  constructor
  · rintro ⟨⟨s, ⟨hs, hp⟩, rfl⟩, hne⟩
    exact ⟨s, hs, hp, rfl, hne⟩
  · rintro ⟨s, hs, hp, rfl, hne⟩
    exact ⟨⟨s, ⟨hs, hp⟩, rfl⟩, hne⟩

variable {versions : List String}

theorem mem_endpointVersionIDs (h : endpointVersionIDs inv = .ok versions) :
    v ∈ versions ↔ ∃ s ∈ inv.store.subscriptions.rows, activeVersion s = v ∧ v ≠ "" := by
  unfold endpointVersionIDs at h
  dsimp only at h
  split at h
  · cases h
  cases h
  rw [mem_sortStrings, mem_activeVersions]
  simp

variable {c : StagedCandidate}

theorem loadCandidate_ok {m : Material} (h : loadCandidate rt c inv = .ok m) :
    m.versionID = c.versionID ∧ m.imported ≠ [] ∧
      ∃ v ∈ inv.store.versions.rows, v.id = c.versionID ∧ v.state = .candidate := by
  unfold loadCandidate at h
  split at h
  · cases h
  split at h
  · cases h
  next version hfind =>
  split at h
  · cases h
  next hstaged =>
  split at h
  · cases h
  split at h
  · cases h
  split at h
  · cases h
  split at h
  · cases h
  split at h
  · cases h
  next hne =>
  cases h
  have hid := Table.key_of_find hfind
  have hstaged : version.subscriptionID = c.subscriptionID ∧ version.state = .candidate := by
    simpa using hstaged
  exact ⟨hid, by simpa using hne, version, Table.mem_of_find hfind, hid, hstaged.2⟩

theorem candidate_not_active {m : Material}
    (h : loadCandidate rt c inv = .ok m) (hversions : endpointVersionIDs inv = .ok versions) :
    c.versionID ∉ versions := by
  intro hmem
  obtain ⟨s, hs, hactive, hne⟩ := (mem_endpointVersionIDs hversions).mp hmem
  obtain ⟨_, _, v, hv, hid, hstate⟩ := loadCandidate_ok h
  have hpoints : s.activeVersionID = some v.id := by
    rw [hid, ← hactive]
    unfold activeVersion at hactive ⊢
    cases hs' : s.activeVersionID with
    | none =>
      rw [hs'] at hactive
      exact absurd hactive.symm hne
    | some a => rfl
  exact inv.active_activated s hs v hv hpoints hstate

end GatewayVpn.Candidate
