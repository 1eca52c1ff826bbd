import GatewayVpn.Access.Evidence

/-!
# Health: qualifying the nodes of a path

`QualifyCell` probes the nodes of one path against the ordered targets: a node that passes every
required target is qualified, one that passes some target is limited, the others have failed.
Preferred nodes are probed first, and the first of them that qualifies ends the round.

The answers of the prober are fixed during a round, so the order in which the nodes are probed
beside each other does not matter.  A round whose context ends returns an error, which its caller
sees; it is not repeated here.  The status codes are only displayed.
-/

namespace GatewayVpn.Health

open List

open Access (ResultState QualificationState PathState TransportState)

/-! ## targets, nodes and answers -/

structure Target where
  id : String
  url : String := "https://example.net/"
  priority : Int := 1
  required : Bool := true
  timeout : Time := 8 * second
  deriving DecidableEq

structure Candidate where
  nodeID : String
  fingerprint : String := ""
  providerNodeName : String := ""

structure Path where
  id : String
  uplinkID : String
  subscriptionID : String
  providerName : String
  probeGroupName : String := ""
  preferredNodeIDs : List String := []
  candidates : List Candidate := []

structure ProbeResult where
  state : ResultState
  latencyMS : Int := 0
  errorCode : String := ""
  deriving DecidableEq

structure Prober where
  probeTransport : Path → Candidate → ProbeResult
  probeTarget : Path → Candidate → Target → ProbeResult

structure TargetResult where
  targetID : String
  required : Bool
  state : ResultState
  latencyMS : Int := 0
  errorCode : String := ""
  deriving DecidableEq

structure NodeResult where
  nodeID : String
  fingerprint : String := ""
  state : QualificationState := .bypassFailed
  transport : ProbeResult
  targets : List TargetResult := []
  requiredPassed : Nat := 0
  requiredTotal : Nat
  optionalPassed : Nat := 0
  optionalTotal : Nat
  aggregateLatencyMS : Int := 0
  deriving DecidableEq

structure CellResult where
  pathID : String
  uplinkID : String
  subscriptionID : String
  state : PathState := .failed
  transportState : TransportState := .failed
  selectedNodeID : String := ""
  candidateNodes : Nat := 0
  qualifiedNodes : Nat := 0
  requiredTargetsPassed : Nat := 0
  requiredTargetsTotal : Nat
  optionalTargetsPassed : Nat := 0
  optionalTargetsTotal : Nat
  functionalScore : Nat := 0
  latencyMS : Int := 0
  nodes : List NodeResult := []
  deriving DecidableEq

structure Qualifier where
  maxConcurrency : Nat := 1
  continueAfterRequiredFailure : Bool := false

/-! ## the targets -/

def checkTargets : List String → List Target → Except String Unit
  | _, [] => .ok ()
  | seen, t :: ts =>
    if t.id = "" || t.url = "" || t.timeout ≤ 0 || t.timeout > 60 * second then
      .error ("invalid probe target " ++ quote t.id)
    else if seen.contains t.id then .error ("duplicate probe target " ++ quote t.id)
    else checkTargets (t.id :: seen) ts

def orderTargets (targets : List Target) : List Target :=
  targets.insertionSort fun a b => a.priority ≤ b.priority

def validateTargets (targets : List Target) : Except String (List Target × Nat × Nat) :=
  match checkTargets [] (orderTargets targets) with
  | .error err => .error err
  | .ok () => .ok (orderTargets targets, targets.countP (·.required), targets.countP (!·.required))

/-! ## one node -/

def NodeResult.record (r : NodeResult) (t : Target) (probe : ProbeResult) : NodeResult :=
  let r := { r with targets := r.targets ++ [⟨t.id, t.required, probe.state, probe.latencyMS,
    probe.errorCode⟩] }
  if probe.state ≠ .passed then r
  else if t.required then
    { r with aggregateLatencyMS := r.aggregateLatencyMS + probe.latencyMS
             requiredPassed := r.requiredPassed + 1 }
  else
    { r with aggregateLatencyMS := r.aggregateLatencyMS + probe.latencyMS
             optionalPassed := r.optionalPassed + 1 }

def NodeResult.classify (r : NodeResult) : NodeResult :=
  if r.requiredPassed = r.requiredTotal then { r with state := .bypassQualified }
  else if r.requiredPassed + r.optionalPassed > 0 then { r with state := .bypassLimited }
  else r

def probeFrom (probe : Target → ProbeResult) (exhaustive : Bool) :
    List Target → NodeResult → NodeResult
  | [], r => r.classify
  | t :: ts, r =>
    if (probe t).state ≠ .passed && t.required && !exhaustive then r.record t (probe t)
    else probeFrom probe exhaustive ts (r.record t (probe t))

def qualifyNode (prober : Prober) (path : Path) (c : Candidate) (targets : List Target)
    (requiredTotal optionalTotal : Nat) (exhaustive : Bool) : NodeResult :=
  let transport := prober.probeTransport path c
  let r : NodeResult :=
    { nodeID := c.nodeID, fingerprint := c.fingerprint, transport, requiredTotal, optionalTotal }
  if transport.state ≠ .passed then r
  else probeFrom (prober.probeTarget path c) exhaustive targets
    { r with aggregateLatencyMS := transport.latencyMS }

/-! ## the choice of a node -/

def nodeFunctionalScore (r : NodeResult) : Nat := r.requiredPassed * 1000 + r.optionalPassed

def quicker (r best : NodeResult) : Bool :=
  r.aggregateLatencyMS < best.aggregateLatencyMS ||
    (r.aggregateLatencyMS = best.aggregateLatencyMS &&
      lexLess r.nodeID.toList best.nodeID.toList)

def preferredRank (path : Path) (nodeID : String) : Option Nat :=
  (path.preferredNodeIDs.filter fun id => id ≠ "").eraseDups.idxOf? nodeID

def betterLimitedNode (path : Path) (r best : NodeResult) : Bool :=
  if nodeFunctionalScore r ≠ nodeFunctionalScore best then
    nodeFunctionalScore r > nodeFunctionalScore best
  else match preferredRank path r.nodeID, preferredRank path best.nodeID with
  | some _, none => true
  | none, some _ => false
  | some i, some j => if i ≠ j then i < j else quicker r best
  | none, none => quicker r best

def choose (better : NodeResult → NodeResult → Bool) (results : List NodeResult) :
    Option NodeResult :=
  results.foldl (fun best r => match best with
    | none => some r
    | some b => if better r b then some r else some b) none

def CellResult.select (cell : CellResult) (state : PathState) (best : NodeResult) : CellResult :=
  { cell with
    state, selectedNodeID := best.nodeID, requiredTargetsPassed := best.requiredPassed
    optionalTargetsPassed := best.optionalPassed, functionalScore := nodeFunctionalScore best
    latencyMS := best.aggregateLatencyMS }

def buildCellResult (path : Path) (candidateCount requiredTotal optionalTotal : Nat)
    (results : List NodeResult) : CellResult :=
  let qualified := results.filter fun r => r.state = .bypassQualified
  let limited := results.filter fun r => r.state = .bypassLimited
  let cell : CellResult :=
    { pathID := path.id, uplinkID := path.uplinkID, subscriptionID := path.subscriptionID
      transportState := if results.any fun r => r.transport.state = .passed then .passed else .failed
      candidateNodes := candidateCount, qualifiedNodes := qualified.length
      requiredTargetsTotal := requiredTotal, optionalTargetsTotal := optionalTotal
      nodes := results }
  match choose quicker qualified, choose (betterLimitedNode path) limited with
  | some best, _ => cell.select .qualified best
  | none, some best => cell.select .degraded best
  | none, none => cell

/-! ## the round -/

def qualifyPreferred (qualify : Candidate → NodeResult) :
    List String → List Candidate → List NodeResult → List NodeResult × List Candidate × Bool
  | [], candidates, results => (results, candidates, false)
  | id :: ids, candidates, results =>
    match candidates.find? fun c => c.nodeID = id with
    | none => qualifyPreferred qualify ids candidates results
    | some c =>
      let candidates := candidates.eraseP fun c => c.nodeID = id
      if (qualify c).state = .bypassQualified then (results ++ [qualify c], candidates, true)
      else qualifyPreferred qualify ids candidates (results ++ [qualify c])

def roundResults (qualify : Candidate → NodeResult) (path : Path) : List NodeResult :=
  let preferred := (path.preferredNodeIDs.filter fun id => id ≠ "").eraseDups
  match qualifyPreferred qualify preferred path.candidates [] with
  | (results, _, true) => results
  | (results, candidates, false) => results ++ candidates.map qualify

def qualifyCell (q : Qualifier) (prober : Prober) (path : Path) (targets : List Target) :
    Except String CellResult :=
  if path.id = "" || path.uplinkID = "" || path.subscriptionID = "" || path.providerName = "" then
    .error "complete path identity is required"
  else match validateTargets targets with
  | .error err => .error err
  | .ok (ordered, requiredTotal, optionalTotal) =>
    if requiredTotal = 0 then .error "at least one required bypass target is required"
    else if path.candidates.isEmpty then
      .ok { pathID := path.id, uplinkID := path.uplinkID, subscriptionID := path.subscriptionID
            requiredTargetsTotal := requiredTotal, optionalTargetsTotal := optionalTotal }
    else
      let qualify := fun c => qualifyNode prober path c ordered requiredTotal optionalTotal
        q.continueAfterRequiredFailure
      .ok (buildCellResult path path.candidates.length requiredTotal optionalTotal
        (roundResults qualify path))

/-! ## the class of a node -/

def Passes (probe : Target → ProbeResult) (t : Target) : Bool := (probe t).state = .passed

variable {r : NodeResult} {targets : List Target}

section
variable {probe : Target → ProbeResult} {exhaustive : Bool}

section
variable (r : NodeResult)

theorem record_requiredPassed (t : Target) : (r.record t (probe t)).requiredPassed =
      r.requiredPassed + if t.required && Passes probe t then 1 else 0 := by
  unfold NodeResult.record Passes
  by_cases hp : (probe t).state = .passed <;> cases t.required <;> simp [hp]

theorem record_fixed (t : Target) (p : ProbeResult) :
    (r.record t p).nodeID = r.nodeID ∧ (r.record t p).transport = r.transport ∧
      (r.record t p).requiredTotal = r.requiredTotal ∧ (r.record t p).state = r.state := by
  unfold NodeResult.record
  split
  · exact ⟨rfl, rfl, rfl, rfl⟩
  · split <;> exact ⟨rfl, rfl, rfl, rfl⟩

theorem classify_fixed : r.classify.nodeID = r.nodeID ∧ r.classify.transport = r.transport ∧
      r.classify.targets = r.targets := by
  unfold NodeResult.classify
  split
  · exact ⟨rfl, rfl, rfl⟩
  · split <;> exact ⟨rfl, rfl, rfl⟩

end

/-- the result of a loop that was not broken off, before the class is chosen -/
def recordAll (probe : Target → ProbeResult) (targets : List Target) (r : NodeResult) : NodeResult :=
  targets.foldl (fun r t => r.record t (probe t)) r

theorem probeFrom_complete
    (h : exhaustive = true ∨ ∀ t ∈ targets, t.required = true → Passes probe t = true) :
    probeFrom probe exhaustive targets r = (recordAll probe targets r).classify := by
  induction targets generalizing r with
  | nil => rfl
  | cons t ts ih =>
    have hgo : ¬ ((probe t).state ≠ .passed && t.required && !exhaustive) = true := by
      rcases h with h | h
      · simp [h]
      intro hstop
      simp only [Bool.and_eq_true, decide_eq_true_eq] at hstop
      have hpass := h t mem_cons_self hstop.1.2
      simp only [Passes, decide_eq_true_eq] at hpass
      exact hstop.1.1 hpass
    rw [probeFrom, if_neg hgo]
    exact ih (h.imp id fun h t' ht' => h t' (mem_cons_of_mem _ ht'))

theorem recordAll_fixed : (recordAll probe targets r).nodeID = r.nodeID ∧
      (recordAll probe targets r).transport = r.transport ∧
      (recordAll probe targets r).requiredTotal = r.requiredTotal ∧
      (recordAll probe targets r).state = r.state := by
  induction targets generalizing r with
  | nil => exact ⟨rfl, rfl, rfl, rfl⟩
  | cons t ts ih =>
    obtain ⟨hid, htransport, htotal, hstate⟩ := @ih (r.record t (probe t))
    obtain ⟨hid', htransport', htotal', hstate'⟩ := record_fixed r t (probe t)
    exact ⟨hid.trans hid', htransport.trans htransport', htotal.trans htotal', hstate.trans hstate'⟩

theorem recordAll_requiredPassed : (recordAll probe targets r).requiredPassed =
      r.requiredPassed + targets.countP fun t => t.required && Passes probe t := by
  induction targets generalizing r with
  | nil => rfl
  | cons t ts ih =>
    rw [recordAll, foldl_cons]
    change (recordAll probe ts (r.record t (probe t))).requiredPassed = _
    rw [ih, record_requiredPassed, countP_cons]
    omega

end

section
variable {prober : Prober} {path : Path} {c : Candidate} {targets : List Target}
variable {requiredTotal optionalTotal : Nat} {exhaustive : Bool}

theorem probeFrom_nodeID {probe : Target → ProbeResult} :
    (probeFrom probe exhaustive targets r).nodeID = r.nodeID := by
  induction targets generalizing r with
  | nil => exact (classify_fixed r).1
  | cons t ts ih =>
    rw [probeFrom]
    split
    · exact (record_fixed r t _).1
    · exact ih.trans (record_fixed r t _).1

theorem qualifyNode_nodeID :
    (qualifyNode prober path c targets requiredTotal optionalTotal exhaustive).nodeID = c.nodeID := by
  unfold qualifyNode
  dsimp only
  split
  · rfl
  · exact probeFrom_nodeID

/-- **a node on which the transport and every required target pass is qualified** -/
theorem qualifyNode_passing (htransport : (prober.probeTransport path c).state = .passed)
    (hpasses : ∀ t ∈ targets, t.required = true → Passes (prober.probeTarget path c) t = true)
    (htotal : targets.countP (·.required) = requiredTotal) :
    (qualifyNode prober path c targets requiredTotal optionalTotal exhaustive).state =
      .bypassQualified := by
  unfold qualifyNode
  rw [if_neg (by simp [htransport]), probeFrom_complete (Or.inr hpasses), NodeResult.classify]
  rw [if_pos]
  rw [recordAll_requiredPassed, recordAll_fixed.2.2.1, ← htotal]
  simp only [Nat.zero_add]
  refine countP_congr fun t ht => ?_
  simp only [Bool.and_eq_true]
  exact ⟨fun h => h.1, fun h => ⟨h, hpasses t ht h⟩⟩

end

/-! ## the choice -/

variable {results : List NodeResult}

theorem choose_mem {better : NodeResult → NodeResult → Bool} {best : NodeResult}
    (h : choose better results = some best) : best ∈ results := by
  have hloop : ∀ (results : List NodeResult) (acc : Option NodeResult),
      results.foldl (fun best r => match best with
        | none => some r
        | some b => if better r b then some r else some b) acc = some best →
      acc = some best ∨ best ∈ results := by
    intro results
    induction results with
    | nil => exact fun acc h => Or.inl h
    | cons r results ih =>
      intro acc h
      rcases ih _ h with hacc | hmem
      · cases acc with
        | none => exact Or.inr (by simp [Option.some.inj hacc])
        | some b =>
          dsimp only at hacc
          split at hacc
          · exact Or.inr (by simp [Option.some.inj hacc])
          · exact Or.inl hacc
      · exact Or.inr (mem_cons_of_mem _ hmem)
  exact (hloop results none h).resolve_left (by simp)

theorem choose_isSome {better : NodeResult → NodeResult → Bool} {results : List NodeResult}
    (h : results ≠ []) : ∃ best, choose better results = some best := by
  have hloop : ∀ (results : List NodeResult) (b : NodeResult), ∃ best,
      results.foldl (fun best r => match best with
        | none => some r
        | some b => if better r b then some r else some b) (some b) = some best := by
    intro results
    induction results with
    | nil => exact fun b => ⟨b, rfl⟩
    | cons r results ih =>
      intro b
      rw [foldl_cons]
      dsimp only
      split
      · exact ih r
      · exact ih b
  cases results with
  | nil => exact absurd rfl h
  | cons r results => exact hloop results r

theorem buildCellResult_qualified {path : Path} {n m k : Nat} {results : List NodeResult}
    (h : ∃ r ∈ results, r.state = .bypassQualified) :
    (buildCellResult path n m k results).state = .qualified ∧
      ∃ r ∈ results, (buildCellResult path n m k results).selectedNodeID = r.nodeID := by
  obtain ⟨r, hr, hstate⟩ := h
  obtain ⟨best, hbest⟩ := @choose_isSome quicker (results.filter fun r => r.state = .bypassQualified)
    (ne_nil_of_mem (mem_filter.mpr ⟨hr, by simp [hstate]⟩))
  unfold buildCellResult
  dsimp only
  rw [hbest]
  exact ⟨rfl, best, (mem_filter.mp (choose_mem hbest)).1, rfl⟩

/-! ## the round -/

section
variable {qualify : Candidate → NodeResult}

theorem qualifyPreferred_mem {ids : List String} {candidates cs : List Candidate}
    {rs : List NodeResult} {found : Bool} (P : NodeResult → Prop)
    (h : qualifyPreferred qualify ids candidates results = (rs, cs, found))
    (hcandidates : ∀ c ∈ candidates, P (qualify c)) (hresults : ∀ r ∈ results, P r) :
    (∀ r ∈ rs, P r) ∧ ∀ c ∈ cs, P (qualify c) := by
  induction ids generalizing candidates results with
  | nil =>
    cases h
    exact ⟨hresults, hcandidates⟩
  | cons id ids ih =>
    rw [qualifyPreferred] at h
    split at h
    · exact ih h hcandidates hresults
    next c hfind =>
    have herase : ∀ c' ∈ candidates.eraseP fun c => c.nodeID = id, P (qualify c') :=
      fun c' hc' => hcandidates c' (mem_of_mem_eraseP hc')
    have hnew : ∀ r ∈ results ++ [qualify c], P r := by
      intro r hr
      rcases mem_append.mp hr with hr | hr
      · exact hresults r hr
      · exact mem_singleton.mp hr ▸ hcandidates c (mem_of_find?_eq_some hfind)
    split at h
    · cases h
      exact ⟨hnew, herase⟩
    · exact ih h herase hnew

theorem qualifyPreferred_found {ids : List String} {candidates cs : List Candidate}
    {rs : List NodeResult} {found : Bool} {c : Candidate}
    (h : qualifyPreferred qualify ids candidates results = (rs, cs, found)) (hc : c ∈ candidates)
    (hqualifies : (qualify c).state = .bypassQualified) :
    (found = true ∧ ∃ r ∈ rs, r.state = .bypassQualified) ∨ (found = false ∧ c ∈ cs) := by
  induction ids generalizing candidates results with
  | nil =>
    cases h
    exact Or.inr ⟨rfl, hc⟩
  | cons id ids ih =>
    rw [qualifyPreferred] at h
    split at h
    · exact ih h hc
    next d hfind =>
    split at h
    · next hqualified =>
      cases h
      exact Or.inl ⟨rfl, qualify d, by simp, hqualified⟩
    next hfailed =>
    -- the candidate that is removed did not qualify, so it is another one
    refine ih h ?_
    have hne : c ≠ d := by
      rintro rfl
      exact hfailed hqualifies
    obtain ⟨hd, before, after, rfl, hbefore⟩ := find?_eq_some_iff_append.mp hfind
    have herase : (before ++ d :: after).eraseP (fun c => decide (c.nodeID = id)) =
        before ++ after := by
      rw [eraseP_append_right _ (fun b hb => by simpa using hbefore b hb),
        eraseP_cons_of_pos (by simpa using hd)]
    rw [herase]
    rcases mem_append.mp hc with hc | hc
    · exact mem_append_left _ hc
    · exact mem_append_right _ ((mem_cons.mp hc).resolve_left hne)

theorem roundResults_mem {path : Path} (hr : r ∈ roundResults qualify path) :
    ∃ c ∈ path.candidates, r = qualify c := by
  unfold roundResults at hr
  dsimp only at hr
  split at hr
  · next results cs h =>
    exact (qualifyPreferred_mem (fun r => ∃ c ∈ path.candidates, r = qualify c) h
      (fun c hc => ⟨c, hc, rfl⟩) (by simp)).1 r hr
  next results cs h =>
  have hall := qualifyPreferred_mem (fun r => ∃ c ∈ path.candidates, r = qualify c) h
    (fun c hc => ⟨c, hc, rfl⟩) (by simp)
  rcases mem_append.mp hr with hr | hr
  · exact hall.1 r hr
  · obtain ⟨c, hc, rfl⟩ := mem_map.mp hr
    exact hall.2 c hc

theorem roundResults_qualified {path : Path} {c : Candidate} (hc : c ∈ path.candidates)
    (hqualifies : (qualify c).state = .bypassQualified) :
    ∃ r ∈ roundResults qualify path, r.state = .bypassQualified := by
  unfold roundResults
  dsimp only
  split
  · next results cs h =>
    rcases qualifyPreferred_found h hc hqualifies with ⟨_, hfound⟩ | ⟨hfalse, _⟩
    · exact hfound
    · cases hfalse
  · next results cs h =>
    rcases qualifyPreferred_found h hc hqualifies with ⟨htrue, _⟩ | ⟨_, hleft⟩
    · cases htrue
    · exact ⟨qualify c, mem_append_right _ (mem_map_of_mem hleft), hqualifies⟩

end

theorem checkTargets_ok {seen : List String}
    (hvalid : ∀ t ∈ targets, t.id ≠ "" ∧ t.url ≠ "" ∧ 0 < t.timeout ∧ t.timeout ≤ 60 * second)
    (hnodup : (targets.map (·.id)).Nodup) (hseen : ∀ t ∈ targets, t.id ∉ seen) :
    checkTargets seen targets = .ok () := by
  induction targets generalizing seen with
  | nil => rfl
  | cons t ts ih =>
    obtain ⟨hid, hurl, hpositive, hbound⟩ := hvalid t mem_cons_self
    rw [checkTargets, if_neg, if_neg]
    · refine ih (fun u hu => hvalid u (mem_cons_of_mem _ hu)) (nodup_cons.mp hnodup).2
        fun u hu => ?_
      rw [mem_cons, not_or]
      refine ⟨fun heq => ?_, hseen u (mem_cons_of_mem _ hu)⟩
      refine (nodup_cons.mp hnodup).1 ?_
      exact mem_map.mpr ⟨u, hu, heq⟩
    · simpa using hseen t mem_cons_self
    · simp only [Bool.or_eq_true, decide_eq_true_eq, not_or, hid, hurl, not_false_eq_true,
        true_and]
      exact ⟨not_le.mpr hpositive, not_lt.mpr hbound⟩

structure Probeable (targets : List Target) : Prop where
  valid : ∀ t ∈ targets, t.id ≠ "" ∧ t.url ≠ "" ∧ 0 < t.timeout ∧ t.timeout ≤ 60 * second
  nodup : (targets.map (·.id)).Nodup
  required : ∃ t ∈ targets, t.required = true

structure Path.Named (path : Path) : Prop where
  id : path.id ≠ ""
  uplinkID : path.uplinkID ≠ ""
  subscriptionID : path.subscriptionID ≠ ""
  providerName : path.providerName ≠ ""

section
variable {q : Qualifier} {prober : Prober} {path : Path} {targets : List Target}

theorem orderTargets_perm (targets : List Target) : (orderTargets targets).Perm targets :=
  perm_insertionSort _ _

theorem Probeable.validate (h : Probeable targets) : validateTargets targets =
    .ok (orderTargets targets, targets.countP (·.required), targets.countP (!·.required)) := by
  have hperm := orderTargets_perm targets
  have hcheck : checkTargets [] (orderTargets targets) = .ok () :=
    checkTargets_ok (fun t ht => h.valid t (hperm.mem_iff.mp ht))
      ((hperm.map _).nodup_iff.mpr h.nodup) (by simp)
  rw [validateTargets, hcheck]

theorem Probeable.total (h : Probeable targets) : targets.countP (·.required) ≠ 0 := by
  obtain ⟨t, ht, hrequired⟩ := h.required
  exact (countP_pos_iff.mpr ⟨t, ht, hrequired⟩).ne'

theorem qualifyCell_total (q : Qualifier) (prober : Prober) (hpath : path.Named)
    (htargets : Probeable targets) : ∃ cell, qualifyCell q prober path targets = .ok cell := by
  unfold qualifyCell
  rw [if_neg (by simp [hpath.id, hpath.uplinkID, hpath.subscriptionID, hpath.providerName]),
    htargets.validate]
  dsimp only
  rw [if_neg htargets.total]
  split <;> exact ⟨_, rfl⟩

theorem buildCellResult_path {n m k : Nat} : (buildCellResult path n m k results).pathID = path.id ∧
      ((buildCellResult path n m k results).selectedNodeID ≠ "" →
        ∃ r ∈ results, (buildCellResult path n m k results).selectedNodeID = r.nodeID) := by
  unfold buildCellResult
  dsimp only
  split
  · next best hbest =>
    exact ⟨rfl, fun _ => ⟨best, (mem_filter.mp (choose_mem hbest)).1, rfl⟩⟩
  · next best hnone hbest =>
    exact ⟨rfl, fun _ => ⟨best, (mem_filter.mp (choose_mem hbest)).1, rfl⟩⟩
  · exact ⟨rfl, fun h => absurd rfl h⟩

theorem qualifyCell_path {cell : CellResult} (h : qualifyCell q prober path targets = .ok cell) :
    cell.pathID = path.id ∧ (cell.selectedNodeID ≠ "" →
      ∃ c ∈ path.candidates, cell.selectedNodeID = c.nodeID) := by
  unfold qualifyCell at h
  split at h
  · cases h
  split at h
  · cases h
  split at h
  · cases h
  split at h
  · cases h
    exact ⟨rfl, fun h => absurd rfl h⟩
  cases h
  refine ⟨buildCellResult_path.1, fun hne => ?_⟩
  obtain ⟨r, hr, heq⟩ := buildCellResult_path.2 hne
  obtain ⟨c, hc, rfl⟩ := roundResults_mem hr
  exact ⟨c, hc, heq.trans qualifyNode_nodeID⟩

/-- **A node that passes every required target qualifies its path.** -/
theorem qualifyCell_qualified (hpath : path.Named) (htargets : Probeable targets) {c : Candidate}
    (hc : c ∈ path.candidates) (htransport : (prober.probeTransport path c).state = .passed)
    (hpasses : ∀ t ∈ targets, t.required = true → Passes (prober.probeTarget path c) t = true) :
    ∃ cell, qualifyCell q prober path targets = .ok cell ∧ cell.state = .qualified ∧
      ∃ c ∈ path.candidates, cell.selectedNodeID = c.nodeID := by
  have hperm := orderTargets_perm targets
  have hqualifies : (qualifyNode prober path c (orderTargets targets)
      (targets.countP (·.required)) (targets.countP (!·.required))
      q.continueAfterRequiredFailure).state = .bypassQualified :=
    qualifyNode_passing htransport (fun t ht => hpasses t (hperm.mem_iff.mp ht))
      (hperm.countP_eq _)
  unfold qualifyCell
  rw [if_neg (by simp [hpath.id, hpath.uplinkID, hpath.subscriptionID, hpath.providerName]),
    htargets.validate]
  dsimp only
  rw [if_neg htargets.total, if_neg (by simpa using ne_nil_of_mem hc)]
  have hround := @roundResults_qualified (fun c => qualifyNode prober path c
    (orderTargets targets) (targets.countP (·.required)) (targets.countP (!·.required))
    q.continueAfterRequiredFailure) path c hc hqualifies
  obtain ⟨hstate, r, hr, hselected⟩ := @buildCellResult_qualified path path.candidates.length
    (targets.countP (·.required)) (targets.countP (!·.required)) _ hround
  obtain ⟨d, hd, rfl⟩ := roundResults_mem hr
  exact ⟨_, rfl, hstate, d, hd, hselected.trans qualifyNode_nodeID⟩

end

/-! ## which cells are qualified -/

section
variable {q : Qualifier} {prober : Prober} {path : Path} {targets : List Target} {c : Candidate}

def PassesAll (prober : Prober) (path : Path) (targets : List Target) (c : Candidate) : Prop :=
  (prober.probeTransport path c).state = .passed ∧
    ∀ t ∈ targets, t.required = true → Passes (prober.probeTarget path c) t = true

theorem probeFrom_qualified {probe : Target → ProbeResult} {exhaustive : Bool} {r : NodeResult}
    (hstate : r.state ≠ .bypassQualified)
    (hle : r.requiredPassed + targets.countP (·.required) ≤ r.requiredTotal)
    (h : (probeFrom probe exhaustive targets r).state = .bypassQualified) :
    r.requiredPassed + targets.countP (·.required) = r.requiredTotal ∧
      ∀ t ∈ targets, t.required = true → Passes probe t = true := by
  induction targets generalizing r with
  | nil =>
    refine ⟨?_, by simp⟩
    by_contra hne
    rw [probeFrom, NodeResult.classify, if_neg (by simpa using hne)] at h
    split at h
    · cases h
    · exact hstate h
  | cons t ts ih =>
    obtain ⟨-, -, htotal, hsame⟩ := record_fixed r t (probe t)
    have hpassed : (r.record t (probe t)).requiredPassed = _ := record_requiredPassed r t
    rw [probeFrom] at h
    split at h
    · exact absurd (hsame.symm.trans h) hstate
    rw [countP_cons] at hle ⊢
    have hstep : (if t.required && Passes probe t then 1 else 0) ≤ if t.required then 1 else 0 := by
      cases t.required <;> cases Passes probe t <;> decide
    obtain ⟨heq, hall⟩ := ih (fun hr => hstate (hsame.symm.trans hr)) (by omega) h
    rw [hpassed, htotal] at heq
    -- a required target that fails leaves one too few for the rest
    have hlast : t.required = true → Passes probe t = true := by
      intro hrequired
      by_contra hfail
      simp [hrequired, hfail] at heq hle
      omega
    refine ⟨by omega, fun t' ht' => ?_⟩
    rcases mem_cons.mp ht' with rfl | ht'
    · exact hlast
    · exact hall t' ht'

theorem qualifyNode_qualified {requiredTotal optionalTotal : Nat} {exhaustive : Bool}
    (htotal : targets.countP (·.required) = requiredTotal) :
    (qualifyNode prober path c targets requiredTotal optionalTotal exhaustive).state =
      .bypassQualified ↔ PassesAll prober path targets c := by
  refine ⟨fun h => ?_, fun h => qualifyNode_passing h.1 h.2 htotal⟩
  unfold qualifyNode at h
  dsimp only at h
  split at h
  · cases h
  next htransport =>
  exact ⟨by simpa using htransport, (probeFrom_qualified (by simp) (by simp [htotal]) h).2⟩

theorem buildCellResult_selects {n m k : Nat} {results : List NodeResult}
    (h : (buildCellResult path n m k results).state = .qualified) :
    ∃ r ∈ results, r.state = .bypassQualified ∧
      (buildCellResult path n m k results).selectedNodeID = r.nodeID := by
  unfold buildCellResult at h ⊢
  dsimp only at h ⊢
  cases hbest : choose quicker (results.filter fun r => r.state = .bypassQualified) with
  | some best =>
    have hmem := mem_filter.mp (choose_mem hbest)
    exact ⟨best, hmem.1, of_decide_eq_true hmem.2, rfl⟩
  | none =>
    rw [hbest] at h
    split at h
    · next heq => cases heq
    · cases h
    · cases h

/-- **A path is qualified exactly when one of its nodes passes the transport and every required
target**, whether a node is given up at its first failure or not and whichever nodes are preferred;
and the node that is selected is such a one. -/
theorem qualifyCell_exact {cell : CellResult} (h : qualifyCell q prober path targets = .ok cell) :
    (∀ c ∈ path.candidates, PassesAll prober path targets c → cell.state = .qualified) ∧
      (cell.state = .qualified → ∃ c ∈ path.candidates, PassesAll prober path targets c ∧
        cell.selectedNodeID = c.nodeID) := by
  have hperm := orderTargets_perm targets
  have hnode : ∀ c, (qualifyNode prober path c (orderTargets targets)
      (targets.countP (·.required)) (targets.countP (!·.required))
      q.continueAfterRequiredFailure).state = .bypassQualified ↔
        PassesAll prober path targets c := by
    intro c
    rw [qualifyNode_qualified (hperm.countP_eq _), PassesAll, PassesAll]
    simp only [hperm.mem_iff]
  unfold qualifyCell validateTargets at h
  split at h
  · cases h
  cases hcheck : checkTargets [] (orderTargets targets) with
  | error err => rw [hcheck] at h; cases h
  | ok u =>
  rw [hcheck] at h
  dsimp only at h
  split at h
  · cases h
  split at h
  · next hempty =>
    cases h
    rw [isEmpty_iff.mp hempty]
    simp
  cases h
  refine ⟨fun c hc hqualifies => ?_, fun hstate => ?_⟩
  · exact (buildCellResult_qualified (roundResults_qualified hc ((hnode c).mpr hqualifies))).1
  · obtain ⟨r, hr, hqualified, hid⟩ := buildCellResult_selects hstate
    obtain ⟨c, hc, rfl⟩ := roundResults_mem hr
    exact ⟨c, hc, (hnode c).mp hqualified, hid.trans qualifyNode_nodeID⟩

end

/-- the node `x` misses a required target, and no node reaches the optional one -/
def sampleProber : Prober where
  probeTransport _ _ := ⟨.passed, 1, ""⟩
  probeTarget _ c t :=
    if t.id = "o" || c.nodeID = "x" && t.id = "t2" then ⟨.failed, 1, "TIMEOUT"⟩
    else ⟨.passed, 1, ""⟩

def samplePath : Path :=
  { id := "p", uplinkID := "u", subscriptionID := "s", providerName := "provider"
    candidates := [{ nodeID := "x" }, { nodeID := "y" }] }

def sampleTargets : List Target :=
  [{ id := "t1" }, { id := "t2" }, { id := "o", required := false }]

theorem sample_qualified : ∃ cell,
    qualifyCell {} sampleProber samplePath sampleTargets = .ok cell ∧ cell.state = .qualified ∧
      cell.selectedNodeID = "y" := by
  obtain ⟨cell, hcell⟩ : ∃ cell,
      qualifyCell {} sampleProber samplePath sampleTargets = .ok cell := ⟨_, rfl⟩
  obtain ⟨hqualified, hselected⟩ := qualifyCell_exact hcell
  have hstate : cell.state = .qualified :=
    hqualified { nodeID := "y" } (by simp [samplePath]) ⟨rfl, by decide⟩
  obtain ⟨c, hc, hpasses, hid⟩ := hselected hstate
  rcases mem_pair.mp hc with rfl | rfl
  · exact absurd (hpasses.2 { id := "t2" } (by simp [sampleTargets]) rfl) (by decide)
  · exact ⟨cell, hcell, hstate, hid⟩

end GatewayVpn.Health
