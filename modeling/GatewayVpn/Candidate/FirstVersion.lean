import GatewayVpn.Candidate.Coverage

/-!
# Candidate: promoting the first version

A gateway without an active version gets its first one by `Promote`, which asks for the versions
that are active before it lets the candidate through; `endpointVersionIDs` refuses to answer with an
empty list.
-/

namespace GatewayVpn.Candidate

open Durable List

/-! ## the cells -/

structure Reconcilable (inv : Inventory) : Prop where
  setting : ∀ value, inv.nextPolicyGeneration = some value →
    ∃ next, Access.parseInt value = some next ∧ 1 ≤ next
  distinct : ((missingCells inv 0).map (·.id)).Nodup
  free : ∀ c ∈ missingCells inv 0, ∀ d ∈ inv.cells.rows, c.id ≠ d.id

variable {inv : Inventory}

theorem policyGeneration_ok :
    (∃ policy, policyGeneration inv = .ok policy) ↔ ∀ value, inv.nextPolicyGeneration = some value →
      ∃ next, Access.parseInt value = some next ∧ 1 ≤ next := by
  unfold policyGeneration
  cases inv.nextPolicyGeneration with
  | none => simp
  | some value =>
  simp only [Option.some.injEq, forall_eq']
  cases hparse : Access.parseInt value with
  | none => simp
  | some next =>
  by_cases hnext : next < 1
  · simp [hnext]
  · simp [hnext, not_lt.mp hnext]

theorem insertAll_isSome {rows : List Access.Path} {t : Table Access.Path.id} :
    (∃ t', Access.insertAll t rows = some t') ↔
      (rows.map (·.id)).Nodup ∧ ∀ c ∈ rows, ∀ d ∈ t.rows, c.id ≠ d.id := by
  induction rows generalizing t with
  | nil => simp [Access.insertAll]
  | cons c cs ih =>
    simp only [Access.insertAll, Option.bind_eq_some_iff, map_cons, nodup_cons,
      forall_mem_cons]
    by_cases hc : c.id ∈ t.rows.map (·.id)
    · have hnone : t.insert c = none := dif_pos hc
      obtain ⟨d, hd, heq⟩ := mem_map.mp hc
      constructor
      · rintro ⟨t', t'', h, _⟩
        rw [hnone] at h
        cases h
      · rintro ⟨_, hfree, _⟩
        exact absurd heq.symm (hfree d hd)
    have hsome : ∃ t1, t.insert c = some t1 ∧ t1.rows = t.rows ++ [c] := ⟨_, dif_neg hc, rfl⟩
    obtain ⟨t1, hinsert, hrows⟩ := hsome
    have hfree : ∀ d ∈ t.rows, c.id ≠ d.id := fun d hd heq =>
      hc (mem_map.mpr ⟨d, hd, heq.symm⟩)
    have hrest : (∃ t', Access.insertAll t1 cs = some t') ↔ _ := ih
    rw [hrows] at hrest
    constructor
    · rintro ⟨t', t'', h, hall⟩
      rw [hinsert] at h
      cases h
      obtain ⟨hnodup, hall⟩ := hrest.mp ⟨t', hall⟩
      refine ⟨⟨fun hmem => ?_, hnodup⟩, hfree, fun d hd e he => hall d hd e (by simp [he])⟩
      obtain ⟨d, hd, heq⟩ := mem_map.mp hmem
      exact hall d hd c (by simp) heq
    rintro ⟨⟨hnew, hnodup⟩, _, hall⟩
    obtain ⟨t', ht'⟩ := hrest.mpr ⟨hnodup, fun d hd e he => by
      rcases mem_append.mp he with he | he
      · exact hall d hd e he
      · obtain rfl : e = c := by simpa using he
        exact fun heq => hnew (mem_map.mpr ⟨d, hd, heq⟩)⟩
    exact ⟨t', t1, hinsert, ht'⟩

theorem missingCells_ids (inv : Inventory) (policy : Int) :
    (missingCells inv policy).map (·.id) = (missingCells inv 0).map (·.id) := by
  simp only [missingCells, map_flatMap, map_map]
  rfl

theorem reconcileCells_iff : (∃ inv', reconcileCells inv = .ok inv') ↔ Reconcilable inv := by
  have hcells : ∀ policy, (∃ t, Access.insertAll inv.cells (missingCells inv policy) = some t) ↔
      ((missingCells inv 0).map (·.id)).Nodup ∧
        ∀ c ∈ missingCells inv 0, ∀ d ∈ inv.cells.rows, c.id ≠ d.id := by
    intro policy
    have hfree : ∀ cells : List Access.Path, (∀ c ∈ cells, ∀ d ∈ inv.cells.rows, c.id ≠ d.id) ↔
        ∀ id ∈ cells.map (·.id), ∀ d ∈ inv.cells.rows, id ≠ d.id := by simp
    rw [insertAll_isSome, hfree, hfree, missingCells_ids]
  unfold reconcileCells
  cases hpolicy : policyGeneration inv with
  | error err =>
    have hnone : ¬ ∃ policy, policyGeneration inv = .ok policy := by simp [hpolicy]
    refine iff_of_false (by simp) fun h => hnone (policyGeneration_ok.mpr h.setting)
  | ok policy =>
  have hsetting := policyGeneration_ok.mp ⟨policy, hpolicy⟩
  have hcells := hcells policy
  dsimp only
  split
  · next hnone =>
    have hno : ¬ ∃ t, Access.insertAll inv.cells (missingCells inv policy) = some t := by
      simp [hnone]
    exact iff_of_false (by simp) fun h => hno (hcells.mpr ⟨h.distinct, h.free⟩)
  · next cells hsome =>
    obtain ⟨hdistinct, hfree⟩ := hcells.mp ⟨cells, hsome⟩
    exact iff_of_true ⟨_, rfl⟩ ⟨hsetting, hdistinct, hfree⟩

/-! ## paths -/

/-- **what is known of each path of a bundle** -/
theorem bundle_path {rt : Runtime} {uplinks : List Mihomo.Uplink} {shadow : Option Material}
    {b : Mihomo.Bundle} (huplinks : readyUplinks inv = .ok uplinks)
    (h : buildBundle rt uplinks shadow inv = .ok b) {p : Mihomo.Path} (hp : p ∈ b.paths) :
    (∃ u ∈ inv.uplinks.rows, u.id = p.uplinkID) ∧ p.uplinkID ≠ "" ∧ p.providerName ≠ "" ∧
      p.groupName ≠ "" := by
  obtain ⟨subscriptions, _, hgenerate⟩ := buildBundle_ok h
  obtain ⟨u, g, hpair, rfl⟩ := (Mihomo.mem_paths hgenerate).mp hp
  obtain ⟨⟨hu, _⟩, _⟩ := Mihomo.mem_pairs.mp hpair
  have hvalid := Mihomo.validateInput_ok (Mihomo.generate_ok hgenerate).1
  have hrow : ∃ row ∈ inv.uplinks.rows, row.id = u.id := by
    unfold readyUplinks at huplinks
    dsimp only at huplinks
    split at huplinks
    · cases huplinks
    cases huplinks
    obtain ⟨row, hrow, rfl⟩ := mem_map.mp hu
    exact ⟨row, (mem_filter.mp hrow).1, rfl⟩
  have hname : ∀ (head : Char) (s t : String), String.ofList [head] ++ s ++ t ≠ "" := by
    intro head s t h
    have htext := congrArg String.toList h
    simp at htext
  refine ⟨hrow, ((Mihomo.validateUplinks_ok hvalid.2.1).2 u hu).2, ?_, ?_⟩
  · exact hname 'p' "rovider-" _
  · exact hname 'p' "ath-" _

theorem probeTargets_probeable {targets : List Health.Target} (h : probeTargets inv = .ok targets) :
    Health.Probeable targets := by
  unfold probeTargets at h
  dsimp only at h
  split at h
  · cases h
  next hrequired =>
  cases h
  refine ⟨fun t ht => ?_, ?_, ?_⟩
  · obtain ⟨row, _, rfl⟩ := mem_map.mp ht
    obtain ⟨hid, hurl, hlow, hhigh⟩ := row.valid
    refine ⟨hid, hurl, ?_, ?_⟩
    · show 0 < row.timeoutSeconds * second
      exact mul_pos hlow (by decide)
    · show row.timeoutSeconds * second ≤ 60 * second
      exact mul_le_mul_of_nonneg_right hhigh (by decide)
  · rw [map_map]
    exact inv.targets.nodup.sublist (filter_sublist.map _)
  · have hany : (inv.targets.rows.filter Target.probed).any (·.required) = true := by
      simpa using hrequired
    obtain ⟨row, hrow, hreq⟩ := any_eq_true.mp hany
    exact ⟨row.health, mem_map_of_mem hrow, hreq⟩

def Complete (inv : Inventory) : Prop :=
  ∀ u ∈ inv.uplinks.rows, ∀ s ∈ inv.store.subscriptions.rows,
    ∃ c ∈ inv.cells.rows, c.uplinkID = u.id ∧ c.subscriptionID = s.id

theorem reconcileCells_complete {inv' : Inventory} (h : reconcileCells inv = .ok inv') :
    Complete inv' := by
  obtain ⟨hsame, hcells⟩ := reconcileCells_ok h
  intro u hu s hs
  rw [hsame.uplinks] at hu
  rw [hsame.store] at hs
  exact hcells u hu s hs

section
variable {rt : Runtime} {inv : Inventory} {m : Material} {targets : List Health.Target}
variable {p : Mihomo.Path}

section
variable (hcells : Complete inv) (huplink : ∃ u ∈ inv.uplinks.rows, u.id = p.uplinkID)
  (hnamed : p.uplinkID ≠ "") (hprovider : p.providerName ≠ "")
  (hs : m.subscription ∈ inv.store.subscriptions.rows) (hid : m.subscription.id ≠ "")
include hcells huplink hnamed hprovider hs hid

theorem qualificationPath_ok :
    ∃ cell probed, qualificationPath m p inv = .ok (cell, probed) ∧ probed.Named ∧
      probed.uplinkID = p.uplinkID ∧ probed.subscriptionID = m.subscription.id ∧
      probed.providerName = p.providerName ∧ probed.probeGroupName = p.probeGroupName ∧
      probed.candidates = healthCandidates p m.nodes := by
  obtain ⟨u, hu, heq⟩ := huplink
  obtain ⟨c, hc, hcu, hcs⟩ := hcells u hu m.subscription hs
  obtain ⟨cell, hcell, hcellID⟩ := getCell_ok ⟨c, hc, hcu.trans heq, hcs⟩
  unfold qualificationPath
  rw [hcell]
  exact ⟨cell, _, rfl, ⟨hcellID, hnamed, hid, hprovider⟩, rfl, rfl, rfl, rfl, rfl⟩

/-- **a path of a bundle is qualified without an error** -/
theorem qualifies_of_reconciled (htargets : Health.Probeable targets) :
    ∃ q, Qualifies rt m targets inv p q := by
  obtain ⟨cell, probed, hpath, hprobed, _⟩ :=
    qualificationPath_ok hcells huplink hnamed hprovider hs hid
  obtain ⟨result, hresult⟩ := Health.qualifyCell_total rt.qualifier rt.prober hprobed htargets
  exact ⟨⟨result, cell.policyGeneration, cell.routeGeneration⟩, cell, probed, hpath, hresult, rfl,
    rfl⟩

end

def NodePasses (prober : Health.Prober) (m : Material) (p : Mihomo.Path)
    (targets : List Health.Target) (n : NodeIdentity) : Prop :=
  ∀ probed : Health.Path, probed.uplinkID = p.uplinkID →
    probed.subscriptionID = m.subscription.id → probed.providerName = p.providerName →
    probed.probeGroupName = p.probeGroupName →
    (prober.probeTransport probed ⟨n.id, n.fingerprint, p.nodePrefix ++ n.externalName⟩).state =
        .passed ∧
      ∀ t ∈ targets, t.required = true → Health.Passes (prober.probeTarget probed
        ⟨n.id, n.fingerprint, p.nodePrefix ++ n.externalName⟩) t = true

theorem mem_healthCandidates {nodes : List NodeIdentity} {c : Health.Candidate} :
    c ∈ healthCandidates p nodes ↔
      ∃ n ∈ nodes, c = ⟨n.id, n.fingerprint, p.nodePrefix ++ n.externalName⟩ := by
  unfold healthCandidates
  rw [mem_map]
  constructor
  · rintro ⟨n, hn, rfl⟩
    exact ⟨n, (mem_insertionSort _).mp hn, rfl⟩
  · rintro ⟨n, hn, rfl⟩
    exact ⟨n, (mem_insertionSort _).mpr hn, rfl⟩

theorem qualified_of_passes {q : Qualification} (hq : Qualifies rt m targets inv p q)
    (hcells : Complete inv) (huplink : ∃ u ∈ inv.uplinks.rows, u.id = p.uplinkID)
    (hnamed : p.uplinkID ≠ "") (hprovider : p.providerName ≠ "")
    (hs : m.subscription ∈ inv.store.subscriptions.rows) (hid : m.subscription.id ≠ "")
    (htargets : Health.Probeable targets) (hnodes : ∀ n ∈ m.nodes, n.id ≠ "")
    (hpasses : ∃ n ∈ m.nodes, NodePasses rt.prober m p targets n) :
    q.result.state = .qualified ∧ q.result.selectedNodeID ≠ "" := by
  obtain ⟨cell, probed, hpath, hprobed, huplinkID, hsubscription, hname, hgroup, hcandidates⟩ :=
    qualificationPath_ok hcells huplink hnamed hprovider hs hid
  obtain ⟨n, hn, hpasses⟩ := hpasses
  obtain ⟨htransport, hrequired⟩ := hpasses probed huplinkID hsubscription hname hgroup
  have hc : (⟨n.id, n.fingerprint, p.nodePrefix ++ n.externalName⟩ : Health.Candidate) ∈
      probed.candidates := hcandidates ▸ mem_healthCandidates.mpr ⟨n, hn, rfl⟩
  obtain ⟨result, hresult, hstate, c, hc, hselected⟩ :=
    @Health.qualifyCell_qualified rt.qualifier rt.prober probed targets hprobed htargets _ hc
      htransport hrequired
  obtain ⟨cell', probed', hpath', hresult', _⟩ := hq
  rw [hpath] at hpath'
  cases hpath'
  rw [hresult] at hresult'
  obtain rfl : result = q.result := Except.ok.inj hresult'
  obtain ⟨n', hn', rfl⟩ := mem_healthCandidates.mp (hcandidates ▸ hc)
  exact ⟨hstate, hselected ▸ hnodes n' hn'⟩

end

/-! ## Promote -/

theorem loadCandidate_material {rt : Runtime} {c : StagedCandidate} {m : Material}
    (h : loadCandidate rt c inv = .ok m) :
    m.subscription ∈ inv.store.subscriptions.rows ∧ m.subscription.id ≠ "" ∧
      ∀ n ∈ m.nodes, n.id ≠ "" := by
  unfold loadCandidate at h
  split at h
  · cases h
  next hidentity =>
  split at h
  · cases h
  split at h
  · cases h
  split at h
  · cases h
  next subscription hsubscription =>
  split at h
  · cases h
  split at h
  · cases h
  split at h
  · cases h
  next filtered nodes hfilter =>
  split at h
  · cases h
  cases h
  have hid : c.subscriptionID ≠ "" := fun hid => hidentity (by simp [hid])
  have hkey : subscription.id = c.subscriptionID := Table.key_of_find hsubscription
  refine ⟨Table.mem_of_find hsubscription, hkey ▸ hid, fun n hn => ?_⟩
  obtain ⟨stored, hstored, heq⟩ := (filterEnabledNodes_ok hfilter).2.2 n hn
  have hrow : stored ∈ inv.store.nodes.rows :=
    (mem_filter.mp (mem_filter.mp hstored).1).1
  exact heq ▸ inv.nodes_named stored hrow

theorem forall₂_mem {α β : Type} {R : α → β → Prop} {xs : List α} {ys : List β}
    (h : List.Forall₂ R xs ys) {x : α} (hx : x ∈ xs) : ∃ y ∈ ys, R x y := by
  induction h with
  | nil => cases hx
  | cons hR _ ih =>
    rcases mem_cons.mp hx with rfl | hx
    · exact ⟨_, mem_cons_self, hR⟩
    · obtain ⟨y, hy, hxy⟩ := ih hx
      exact ⟨y, mem_cons_of_mem _ hy, hxy⟩

/-- a staged candidate of which some node passes, when every external step succeeds -/
structure Promotable (rt : Runtime) (c : StagedCandidate) (w : World) (m : Material)
    (uplinks : List Mihomo.Uplink) (targets : List Health.Target) (bundle : Mihomo.Bundle) :
    Prop where
  complete : rt.validate = .ok ()
  loads : loadCandidate rt c w.inventory = .ok m
  ready : readyUplinks w.inventory = .ok uplinks
  probes : probeTargets w.inventory = .ok targets
  generates : buildBundle rt uplinks (some m) w.inventory = .ok bundle
  applies : (applied rt (rt.generationID "shadow" m.versionID) bundle w.mihomo).1.err = none
  passes : ∃ p ∈ bundle.paths, m.shadows p = true ∧
    ∃ n ∈ m.nodes, NodePasses rt.prober m p targets n

section
variable {rt : Runtime} {c : StagedCandidate} {w : World} {m : Material}
variable {uplinks : List Mihomo.Uplink} {targets : List Health.Target} {bundle : Mihomo.Bundle}

theorem Promotable.unreconciled (h : Promotable rt c w m uplinks targets bundle) {err : Failure}
    (herr : reconcileCells w.inventory = .error err) :
    Smooth (prepare rt c) (fun r _ => ∃ err, r = .error err) w := by
  unfold prepare
  rw [h.complete]
  refine smooth_call (smooth_query h.loads (smooth_query h.ready (smooth_query h.probes ?_)))
  exact smooth_reconcileCells_error herr ⟨_, rfl⟩

section
variable (h : Promotable rt c w m uplinks targets bundle)
  (hinv : reconcileCells w.inventory = .ok inv)
include h hinv

theorem Promotable.bundled : buildBundle rt uplinks (some m) inv = .ok bundle :=
  ((reconcileCells_ok hinv).1.buildBundle rt uplinks (some m)).trans h.generates

theorem Promotable.unversioned {err : Failure} (herr : endpointVersionIDs inv = .error err) :
    Smooth (prepare rt c) (fun r _ => ∃ err, r = .error err) w := by
  unfold prepare
  rw [h.complete]
  refine smooth_call (smooth_query h.loads (smooth_query h.ready (smooth_query h.probes ?_)))
  refine smooth_reconcileCells hinv (smooth_query (h.bundled hinv) ?_)
  exact smooth_query_error herr ⟨_, rfl⟩

theorem Promotable.prepared {previous : List String}
    (hprevious : endpointVersionIDs inv = .ok previous) :
    Smooth (prepare rt c) (fun r v => ∃ p, r = .ok p ∧ p = ⟨m, targets, bundle, previous⟩ ∧
      v = { w with inventory := inv }) w := by
  unfold prepare
  rw [h.complete]
  refine smooth_call (smooth_query h.loads (smooth_query h.ready (smooth_query h.probes ?_)))
  refine smooth_reconcileCells hinv (smooth_query (h.bundled hinv) (smooth_query hprevious ?_))
  exact ⟨_, rfl, rfl, rfl⟩

theorem Promotable.qualified {v : World} (hv : v.inventory = inv) :
    Smooth (qualifyPaths rt m bundle targets m.shadows)
      (fun r _ => ∃ items, r = .ok items ∧ hasQualifiedPath items = true) v := by
  have hsame := (reconcileCells_ok hinv).1
  have hcells := reconcileCells_complete hinv
  obtain ⟨hs, hid, hnodes⟩ := loadCandidate_material h.loads
  have htargets := probeTargets_probeable h.probes
  have hpath : ∀ p ∈ bundle.paths, (∃ u ∈ inv.uplinks.rows, u.id = p.uplinkID) ∧
      p.uplinkID ≠ "" ∧ p.providerName ≠ "" := by
    intro p hp
    obtain ⟨hrow, hnamed, hprovider, _⟩ := bundle_path h.ready h.generates hp
    rw [← hsame.uplinks] at hrow
    exact ⟨hrow, hnamed, hprovider⟩
  rw [← hsame.store] at hs
  obtain ⟨p, hp, hshadow, hpasses⟩ := h.passes
  have hmem : p ∈ bundle.paths.filter m.shadows := mem_filter.mpr ⟨hp, hshadow⟩
  unfold qualifyPaths
  rw [if_neg (by simpa using ne_nil_of_mem hmem)]
  refine (smooth_qualifyEach fun path hmem => ?_).mono ?_
  · obtain ⟨hrow, hnamed, hprovider⟩ := hpath path (mem_filter.mp hmem).1
    rw [hv]
    exact qualifies_of_reconciled hcells hrow hnamed hprovider hs hid htargets
  rintro r v' ⟨items, rfl, _, hitems⟩
  refine ⟨items, rfl, ?_⟩
  obtain ⟨q, hq, hqualifies⟩ := forall₂_mem hitems hmem
  rw [hv] at hqualifies
  obtain ⟨hrow, hnamed, hprovider⟩ := hpath p hp
  obtain ⟨hstate, hselected⟩ := qualified_of_passes hqualifies hcells hrow hnamed hprovider hs hid
    htargets hnodes hpasses
  exact any_eq_true.mpr ⟨q, hq, by simp [hstate, hselected]⟩

theorem Promotable.promoted {previous : List String}
    (hprevious : endpointVersionIDs inv = .ok previous) :
    Smooth (promote rt c) (fun r _ => ∃ p, r = .ok p) w := by
  refine smooth_attempt (h.prepared hinv hprevious) ?_
  rintro p v ⟨rfl, rfl⟩
  refine smooth_call (smooth_applyBundle h.applies ?_)
  refine smooth_attempt (h.qualified hinv rfl) fun items v hitems => ?_
  rw [if_pos hitems]
  exact ⟨_, rfl⟩

end

theorem smooth_attempt_stop {α β : Type} {p : Action (Except Failure α)}
    {k : α → Action (Except Failure β)} {w : World}
    (h : Smooth p (fun r _ => ∃ err, r = .error err) w) :
    Smooth (p.attempt stop k) (fun r _ => ∃ err, r = .error err) w := by
  refine wp_attempt h (fun err v _ => ⟨err, rfl⟩) fun a v hok => ?_
  obtain ⟨err, herr⟩ := hok
  cases herr

end

theorem endpointVersionIDs_iff {inv : Inventory} :
    (∃ versions, endpointVersionIDs inv = .ok versions) ↔
    ∃ s ∈ inv.store.subscriptions.rows, activeVersion s ≠ "" := by
  unfold endpointVersionIDs
  dsimp only
  constructor
  · rintro ⟨versions, h⟩
    split at h
    · cases h
    next hne =>
    have hne : activeVersions (fun _ => true) inv ≠ [] := by rwa [Ne, ← List.isEmpty_iff]
    obtain ⟨v, hv⟩ := List.exists_mem_of_ne_nil _ hne
    obtain ⟨s, hs, _, rfl, hactive⟩ := mem_activeVersions.mp hv
    exact ⟨s, hs, hactive⟩
  · rintro ⟨s, hs, hactive⟩
    have hmem : activeVersion s ∈ activeVersions (fun _ => true) inv :=
      mem_activeVersions.mpr ⟨s, hs, rfl, rfl, hactive⟩
    rw [if_neg (by simpa using List.ne_nil_of_mem hmem)]
    exact ⟨_, rfl⟩

/-- **A candidate of which some node passes is promoted exactly when the cells can be created and some
subscription has an active version.** -/
theorem promotable_promoted (rt : Runtime) (c : StagedCandidate) (w : World) (m : Material)
    (uplinks : List Mihomo.Uplink) (targets : List Health.Target) (bundle : Mihomo.Bundle)
    (h : Promotable rt c w m uplinks targets bundle) :
    (∃ p, (runWith exec (fun _ => .ok) (promote rt c) w).1 = .ok p) ↔
      Reconcilable w.inventory ∧
        ∃ s ∈ w.inventory.store.subscriptions.rows, activeVersion s ≠ "" := by
  have hrefused : Smooth (prepare rt c) (fun r _ => ∃ err, r = .error err) w →
      ¬ ∃ p, (runWith exec (fun _ => .ok) (promote rt c) w).1 = .ok p := by
    rintro hprepare ⟨p, hp⟩
    obtain ⟨err, herr⟩ := (smooth_attempt_stop hprepare).runWith
    rw [show runWith exec (fun _ => .ok) ((prepare rt c).attempt stop (promotePrepared rt)) w =
      runWith exec (fun _ => .ok) (promote rt c) w from rfl, hp] at herr
    cases herr
  cases hinv : reconcileCells w.inventory with
  | error err =>
    refine iff_of_false (hrefused (h.unreconciled hinv)) fun hcond => ?_
    obtain ⟨inv, hok⟩ := reconcileCells_iff.mpr hcond.1
    rw [hinv] at hok
    cases hok
  | ok inv =>
  have hreconcilable := reconcileCells_iff.mp ⟨inv, hinv⟩
  have hversions := @endpointVersionIDs_iff inv
  rw [(reconcileCells_ok hinv).1.store] at hversions
  rw [← hversions]
  cases hprevious : endpointVersionIDs inv with
  | error err =>
    refine iff_of_false (hrefused (h.unversioned hinv hprevious)) ?_
    rintro ⟨_, versions, hok⟩
    cases hok
  | ok previous =>
  exact iff_of_true (h.promoted hinv hprevious).runWith ⟨hreconcilable, previous, rfl⟩

/-! ## a gateway with an active version and one without -/

/-- the sample candidate, before any version was activated -/
def sampleFresh : Inventory where
  store :=
    { subscriptions := ⟨[{ id := "s1" }], Subscriptions.nodup_s1⟩
      versions := ⟨[{ id := "v3", subscriptionID := "s1", createdAt := 1 }], by decide⟩
      nodes := ⟨[sampleNode "v3"], by decide⟩ }
  payload := fun _ versionID => some (samplePayload versionID)
  uplinks := sampleInventory.uplinks
  targets := sampleInventory.targets
  cells_named := sampleInventory.cells_named

def sampleMaterial : Material :=
  { subscription := { id := "s1" }, versionID := "v3"
    imported := [⟨"node of v3", "node of v3", "node of v3", "v3", "vless"⟩]
    nodes := [⟨"node of v3", "v3", "node of v3"⟩] }

def sampleUplink : Mihomo.Uplink :=
  { id := "u1", priority := 1, interfaceName := "eth0", fwmark := 1, enabled := true, online := true }

def sampleTarget : Health.Target :=
  { id := "t1", url := "https://example.net/", priority := 1, required := true, timeout := 8 * second }

def sampleShadow (inv : Inventory) (m : Material) : Mihomo.Bundle :=
  match buildBundle (sampleRuntime true) [sampleUplink] (some m) inv with
  | .ok bundle => bundle
  | .error _ => { main := "" }

theorem samplePasses (m : Material) (p : Mihomo.Path) (n : NodeIdentity) :
    NodePasses (sampleRuntime true).prober m p [sampleTarget] n :=
  fun _ _ _ _ _ => ⟨rfl, fun _ _ _ => rfl⟩

theorem samplePromotable {m : Material}
    (hloads : loadCandidate (sampleRuntime true) sampleCandidate inv = .ok m)
    (hready : readyUplinks inv = .ok [sampleUplink]) (hprobes : probeTargets inv = .ok [sampleTarget])
    (hgenerates : buildBundle (sampleRuntime true) [sampleUplink] (some m) inv =
      .ok (sampleShadow inv m))
    (happlies : (applied (sampleRuntime true) ((sampleRuntime true).generationID "shadow" m.versionID)
      (sampleShadow inv m) {}).1.err = none)
    (hshadow : ∃ p ∈ (sampleShadow inv m).paths, m.shadows p = true) (hnodes : m.nodes ≠ []) :
    Promotable (sampleRuntime true) sampleCandidate { inventory := inv } m [sampleUplink]
      [sampleTarget] (sampleShadow inv m) := by
  obtain ⟨p, hp, hshadow⟩ := hshadow
  obtain ⟨n, hn⟩ := exists_mem_of_ne_nil _ hnodes
  exact ⟨rfl, hloads, hready, hprobes, hgenerates, happlies, p, hp, hshadow, n, hn,
    samplePasses m p n⟩

theorem promotable_promoted_sample :
    Promotable (sampleRuntime true) sampleCandidate sampleWorld
      { sampleMaterial with subscription := { id := "s1", activeVersionID := some "v1" } }
      [sampleUplink] [sampleTarget] (sampleShadow sampleInventory
        { sampleMaterial with subscription := { id := "s1", activeVersionID := some "v1" } }) ∧
    ∃ p, (runWith exec (fun _ => .ok) (promote (sampleRuntime true) sampleCandidate)
      sampleWorld).1 = .ok p := by
  have h : Promotable (sampleRuntime true) sampleCandidate sampleWorld
      { sampleMaterial with subscription := { id := "s1", activeVersionID := some "v1" } }
      [sampleUplink] [sampleTarget] (sampleShadow sampleInventory
        { sampleMaterial with subscription := { id := "s1", activeVersionID := some "v1" } }) :=
    samplePromotable (by decide +kernel) (by decide +kernel) (by decide +kernel)
      (by decide +kernel) (by decide +kernel) (by decide +kernel) (by decide)
  refine ⟨h, (promotable_promoted _ _ _ _ _ _ _ h).mpr ⟨⟨?_, ?_, ?_⟩, ?_⟩⟩
  · exact fun value hvalue => absurd hvalue.symm (Option.some_ne_none value)
  · decide +kernel
  · decide +kernel
  · decide +kernel

/-- **The first version of a gateway is refused**, although its nodes pass and every step succeeds. -/
theorem first_version_refused :
    Promotable (sampleRuntime true) sampleCandidate { inventory := sampleFresh } sampleMaterial
      [sampleUplink] [sampleTarget] (sampleShadow sampleFresh sampleMaterial) ∧
    (runWith exec (fun _ => .ok) (promote (sampleRuntime true) sampleCandidate)
      { inventory := sampleFresh }).1 =
        .error (.text "Mihomo endpoint authorization has no active or candidate versions") := by
  refine ⟨?_, by decide +kernel⟩
  exact samplePromotable (by decide +kernel) (by decide +kernel) (by decide +kernel)
    (by decide +kernel) (by decide +kernel) (by decide +kernel) (by decide)

end GatewayVpn.Candidate
