import GatewayVpn.Candidate.FirstVersion

/-!
# Candidate: the same request again

`RequalifyUplink` names its generation after the uplink and the versions, and a generation directory
is created once.
-/

namespace GatewayVpn.Candidate

open Durable List Mihomo

/-! ## the path of an uplink and a subscription -/

theorem eq_singleton {α : Type} {l : List α} {x : α} (hnodup : l.Nodup) (hx : x ∈ l)
    (hall : ∀ y ∈ l, y = x) : l = [x] := by
  cases l with
  | nil => cases hx
  | cons y ys =>
  obtain rfl : y = x := hall y mem_cons_self
  cases ys with
  | nil => rfl
  | cons z zs =>
  obtain rfl : z = y := hall z (by simp)
  simp at hnodup

theorem pairs_nodup {lib : Mihomo.Generator} {input : Mihomo.Input}
    (h : Mihomo.validateInput lib input = .ok ()) : input.pairs.Nodup := by
  obtain ⟨_, huplinks, hsubscriptions⟩ := validateInput_ok h
  have hu : input.usedUplinks.Nodup :=
    ((perm_insertionSort _ _).nodup_iff.mpr
      (validateUplinks_ok huplinks).1.of_map).filter _
  have hs : input.usedSubscriptions.Nodup :=
    ((perm_insertionSort _ _).nodup_iff.mpr
      (validateSubscriptions_ok hsubscriptions).1.of_map).filter _
  exact hu.product hs

variable {s : Subscriptions.Subscription}

section
variable {rt : Runtime} {uplinks : List Mihomo.Uplink} {inv : Inventory} {b : Mihomo.Bundle}

/-- **a bundle has one path for an uplink and an enabled subscription with nodes** -/
theorem bundle_pair (h : buildBundle rt uplinks none inv = .ok b) {u : Mihomo.Uplink}
    (hu : u ∈ uplinks) (hused : u.enabled = true ∧ u.online = true)
    (hs : s ∈ inv.store.subscriptions.rows)
    (henabled : s.enabled = true) (hactive : activeVersion s ≠ "") (hbundles : Bundles inv s) :
    s.id ≠ "" ∧ ∃ p, b.paths.filter (ofPair u.id s.id) = [p] := by
  obtain ⟨subscriptions, hsubscriptions, hgenerate⟩ := buildBundle_ok h
  obtain ⟨hvalid, _, _, _, hpaths⟩ := generate_ok hgenerate
  obtain ⟨_, huplinks, hkeys⟩ := validateInput_ok hvalid
  obtain ⟨nodes, hnodes⟩ := bundledNodes_of_bundledSubscriptions hsubscriptions hs hactive
  have hg : bundled s nodes ∈ subscriptions ++ ((none : Option Material).map Material.shadow).toList :=
    mem_append_left _ ((mem_bundledSubscriptions hsubscriptions).mpr
      ⟨s, hs, hactive, nodes, hnodes, (bundledNodes_ne_nil hnodes).mpr hbundles, rfl⟩)
  have hne : (bundled s nodes).nodes ≠ [] := (bundledNodes_ne_nil hnodes).mpr hbundles
  have hpair : (u, bundled s nodes) ∈ (bundleInput rt uplinks (subscriptions ++
      ((none : Option Material).map Material.shadow).toList)).pairs :=
    mem_pairs.mpr ⟨⟨hu, hused⟩, hg, rfl, hne⟩
  refine ⟨((validateSubscriptions_ok hkeys).2 _ hg).2, ?_⟩
  rw [hpaths, generatedPaths, filter_map]
  refine ⟨_, congrArg (map _) (@eq_singleton _ _ (u, bundled s nodes)
    ((pairs_nodup hvalid).filter _) (mem_filter.mpr ⟨hpair, ?_⟩) ?_)⟩
  · simp [generatedPath, ofPair, bundled, henabled]
  -- the ids of the uplink and of the subscription determine the pair
  rintro ⟨u', g'⟩ hmem
  obtain ⟨hmem, hmatch⟩ := mem_filter.mp hmem
  obtain ⟨⟨hu', _⟩, hg', _⟩ := mem_pairs.mp hmem
  have hmatch : (g'.qualificationOnly = false ∧ u'.id = u.id) ∧ g'.id = s.id := by
    simpa [generatedPath, ofPair] using hmatch
  obtain rfl : u' = u := inj_on_of_nodup_map
    (validateUplinks_ok huplinks).1 hu' hu hmatch.1.2
  have hown : g'.key = g'.id := by
    rcases mem_append.mp hg' with hg' | hg'
    · obtain ⟨s', _, _, nodes', _, _, rfl⟩ := (mem_bundledSubscriptions hsubscriptions).mp hg'
      rfl
    · cases hg'
  obtain rfl : g' = bundled s nodes := inj_on_of_nodup_map
    (validateSubscriptions_ok hkeys).1 hg' hg (hown.trans hmatch.2)
  rfl

end

/-! ## materials -/

variable {m : Material} {materials : List Material}

section
variable {rt : Runtime} {inv : Inventory}

structure Loaded (inv : Inventory) (m : Material) : Prop where
  subscription : m.subscription ∈ inv.store.subscriptions.rows
  enabled : m.subscription.enabled = true
  active : activeVersion m.subscription ≠ ""
  bundles : Bundles inv m.subscription

theorem loadActive_bundles (h : loadActive rt s inv = .ok m) :
    m.subscription = s ∧ Bundles inv s := by
  unfold loadActive at h
  split at h
  · cases h
  next version hfind =>
  split at h
  · cases h
  split at h
  · cases h
  split at h
  · cases h
  next filtered nodes hfilter =>
  split at h
  · cases h
  next hnodes =>
  cases h
  refine ⟨rfl, ?_⟩
  have hkey : version.id = activeVersion s := Table.key_of_find hfind
  have hnone := (filterEnabledNodes_ok hfilter).1
  rw [listNodes_enabled, hkey] at hnone
  by_cases htransition : inv.transitionOn s.id = true
  · exact Or.inr htransition
  refine Or.inl fun hempty => hnodes ?_
  rw [hnone.mpr hempty]
  simpa using htransition

theorem activeMaterials_loaded {rows : List Subscriptions.Subscription}
    (hrows : ∀ s ∈ rows, s ∈ inv.store.subscriptions.rows)
    (h : activeMaterials rt inv rows = .ok materials) :
    (∀ m ∈ materials, Loaded inv m) ∧ ∀ s ∈ rows, s.enabled = true → activeVersion s ≠ "" →
      ∃ m ∈ materials, m.subscription = s := by
  induction rows generalizing materials with
  | nil =>
    cases h
    simp
  | cons s ss ih =>
    have hss : ∀ t ∈ ss, t ∈ inv.store.subscriptions.rows :=
      fun t ht => hrows t (mem_cons_of_mem _ ht)
    unfold activeMaterials at h
    split at h
    · next hskip =>
      obtain ⟨hall, hfound⟩ := ih hss h
      refine ⟨hall, fun t ht henabled hactive => ?_⟩
      rcases mem_cons.mp ht with rfl | ht
      · simp [henabled, hactive] at hskip
      · exact hfound t ht henabled hactive
    next huse =>
    have huse : s.enabled = true ∧ activeVersion s ≠ "" := by simpa using huse
    split at h
    · cases h
    next m hm =>
    split at h
    · cases h
    next rest hrest =>
    cases h
    obtain ⟨hall, hfound⟩ := ih hss hrest
    obtain ⟨hsubscription, hbundles⟩ := loadActive_bundles hm
    refine ⟨fun m' hm' => ?_, fun t ht henabled hactive => ?_⟩
    · rcases mem_cons.mp hm' with rfl | hm'
      · exact ⟨hsubscription ▸ hrows s mem_cons_self, hsubscription ▸ huse.1,
          hsubscription ▸ huse.2, hsubscription ▸ hbundles⟩
      · exact hall m' hm'
    · rcases mem_cons.mp ht with rfl | ht
      · exact ⟨m, mem_cons_self, hsubscription⟩
      · obtain ⟨m', hm', heq⟩ := hfound t ht henabled hactive
        exact ⟨m', mem_cons_of_mem _ hm', heq⟩

theorem requalifyMaterials_loaded (h : requalifyMaterials rt inv = .ok materials) :
    (∀ m ∈ materials, Loaded inv m) ∧ ∀ s ∈ inv.store.subscriptions.rows, s.enabled = true →
      activeVersion s ≠ "" → ∃ m ∈ materials, m.subscription = s := by
  unfold requalifyMaterials at h
  split at h
  · cases h
  next materials' hmaterials =>
  split at h
  · cases h
  cases h
  exact activeMaterials_loaded (fun _ hs => hs) hmaterials

theorem orderMaterials_ok (uplinkID : String) (materials : List Material) (inv : Inventory) :
    ∃ ordered, orderMaterials uplinkID materials inv = .ok ordered ∧
      ∀ m, m ∈ ordered ↔ m ∈ materials := by
  unfold orderMaterials
  split
  · split
    · refine ⟨_, rfl, fun m => ?_⟩
      simp only [mem_append, mem_filter, decide_eq_true_eq, ne_eq, decide_not,
        Bool.not_eq_true', decide_eq_false_iff_not]
      tauto
    · exact ⟨_, rfl, fun _ => Iff.rfl⟩
  · exact ⟨_, rfl, fun _ => Iff.rfl⟩

end

variable {inv inv' : Inventory}

section
variable (h : SameTables inv inv')
include h

theorem SameTables.loadActive (rt : Runtime)
    (s : Subscriptions.Subscription) : loadActive rt s inv' = loadActive rt s inv := by
  unfold Candidate.loadActive
  rw [h.store]
  simp only [h.loadNormalizedPayload, h.listNodes, h.transitionOn]

theorem SameTables.activeMaterials (rt : Runtime) (rows : List Subscriptions.Subscription) :
    activeMaterials rt inv' rows = activeMaterials rt inv rows := by
  induction rows with
  | nil => rfl
  | cons s ss ih =>
    unfold Candidate.activeMaterials
    rw [h.loadActive, ih]

theorem SameTables.requalifyMaterials (rt : Runtime) :
    requalifyMaterials rt inv' = requalifyMaterials rt inv := by
  unfold Candidate.requalifyMaterials
  rw [h.store, h.activeMaterials]

theorem SameTables.probeTargets : probeTargets inv' = probeTargets inv := by
  unfold Candidate.probeTargets
  rw [h.targets]

end

/-! ## one subscription -/

section
variable {rt : Runtime} {m : Material} {targets : List Health.Target} {inv : Inventory}
variable {p : Mihomo.Path} {q : Qualification}

theorem Qualifies.facts (h : Qualifies rt m targets inv p q) :
    (∃ cell, getCell inv p.uplinkID m.subscription.id = .ok cell ∧ q.result.pathID = cell.id) ∧
      (q.result.selectedNodeID ≠ "" → ∃ n ∈ m.nodes, n.id = q.result.selectedNodeID) := by
  obtain ⟨cell, probed, hpath, hcell, _⟩ := h
  unfold qualificationPath at hpath
  split at hpath
  · cases hpath
  next cell' hget =>
  cases hpath
  obtain ⟨hid, hselected⟩ := Health.qualifyCell_path hcell
  refine ⟨⟨cell, hget, hid⟩, fun hne => ?_⟩
  obtain ⟨c, hc, heq⟩ := hselected hne
  obtain ⟨n, hn, rfl⟩ := mem_healthCandidates.mp hc
  exact ⟨n, hn, heq.symm⟩

end

variable {w : World}

section
variable {rt : Runtime} {bundle : Mihomo.Bundle} {targets : List Health.Target} {uplinkID : String}

theorem smooth_selectRequalified {p : Mihomo.Path} {result : Health.CellResult}
    (hfilter : bundle.paths.filter (ofPair uplinkID m.subscription.id) = [p])
    (hgroup : p.groupName ≠ "")
    (hselected : result.selectedNodeID ≠ "" → ∃ n ∈ m.nodes, n.id = result.selectedNodeID) :
    Smooth (selectRequalified bundle uplinkID m result)
      (fun r v => ∃ found, r = .ok found ∧ v = w) w := by
  have hfind : bundle.paths.find? (ofPair uplinkID m.subscription.id) = some p := by
    rw [← head?_filter, hfilter]
    rfl
  unfold selectRequalified
  split
  · next hqualified =>
    have hqualified : result.state = .qualified ∧ result.selectedNodeID ≠ "" := by
      simpa using hqualified
    obtain ⟨n, hn, heq⟩ := hselected hqualified.2
    split
    · next hnone => exact absurd (find?_eq_none.mp hnone n hn) (by simp [heq])
    rw [hfind]
    dsimp only
    rw [if_neg hgroup]
    exact smooth_call ⟨true, rfl, rfl⟩
  · exact ⟨false, rfl, rfl⟩

theorem smooth_requalifyOne {p : Mihomo.Path} {checkedAt : Time}
    (hfilter : bundle.paths.filter (ofPair uplinkID m.subscription.id) = [p])
    (hgroup : p.groupName ≠ "") (hq : ∃ q, Qualifies rt m targets w.inventory p q) :
    Smooth (requalifyOne rt bundle targets uplinkID checkedAt m) (fun r v => ∃ found, r = .ok found ∧
      ∃ q, Qualifies rt m targets w.inventory p q ∧
        v = w.keep ⟨q.result.pathID, checkedAt, checkedAt + rt.ttl⟩) w := by
  have hpaths : Smooth (qualifyPaths rt m bundle targets (ofPair uplinkID m.subscription.id))
      (fun r v => ∃ items, r = .ok items ∧ v = w ∧
        List.Forall₂ (Qualifies rt m targets w.inventory) [p] items) w := by
    unfold qualifyPaths
    rw [hfilter]
    exact smooth_qualifyEach fun path hpath => mem_singleton.mp hpath ▸ hq
  refine smooth_attempt hpaths ?_
  rintro items v ⟨rfl, hitems⟩
  obtain ⟨item, rest, hitem, hrest, rfl⟩ := forall₂_cons_left_iff.mp hitems
  obtain rfl := forall₂_nil_left_iff.mp hrest
  refine smooth_call ?_
  refine (smooth_selectRequalified hfilter hgroup hitem.facts.2).mono ?_
  rintro r v' ⟨found, rfl, rfl⟩
  exact ⟨found, rfl, item, hitem, rfl⟩

def Renewed (rt : Runtime) (uplinkID : String) (checkedAt : Time)
    (subscriptions : List Subscriptions.Subscription) (w v : World) : Prop :=
  ∃ news, v = { w with evidence := news ++ w.evidence } ∧ ∀ s ∈ subscriptions, ∃ cell,
    getCell w.inventory uplinkID s.id = .ok cell ∧ ⟨cell.id, checkedAt, checkedAt + rt.ttl⟩ ∈ news

theorem smooth_requalifyEach {result : RequalificationResult}
    (h : ∀ m ∈ materials, ∃ p, bundle.paths.filter (ofPair uplinkID m.subscription.id) = [p] ∧
      p.groupName ≠ "" ∧ p.uplinkID = uplinkID ∧ ∃ q, Qualifies rt m targets w.inventory p q) :
    Smooth (requalifyEach rt bundle targets uplinkID result materials) (fun r v => ∃ result',
      r = .ok result' ∧ result'.checkedAt = result.checkedAt ∧
        Renewed rt uplinkID result.checkedAt (materials.map (·.subscription)) w v) w := by
  induction materials generalizing w result with
  | nil => exact ⟨result, rfl, rfl, [], rfl, by simp⟩
  | cons m ms ih =>
    obtain ⟨p, hfilter, hgroup, huplink, hq⟩ := h m mem_cons_self
    refine smooth_attempt (smooth_requalifyOne hfilter hgroup hq) ?_
    rintro found v ⟨q, hq, rfl⟩
    obtain ⟨⟨cell, hcell, hid⟩, _⟩ := hq.facts
    refine (@ih (w.keep _) _ fun m' hm' => h m' (mem_cons_of_mem _ hm')).mono ?_
    rintro r v' ⟨result', rfl, hchecked, news, rfl, hnews⟩
    refine ⟨result', rfl, hchecked, news ++ [⟨q.result.pathID, result.checkedAt,
      result.checkedAt + rt.ttl⟩], by simp [World.keep], fun s hs => ?_⟩
    rcases mem_cons.mp hs with rfl | hs
    · refine ⟨cell, huplink ▸ hcell, ?_⟩
      rw [hid]
      simp
    · obtain ⟨cell', hcell', hmem⟩ := hnews s hs
      exact ⟨cell', hcell', mem_append_left _ hmem⟩

theorem smooth_evaluateTargetStates (targets : List Health.Target) (w : World) :
    Smooth (evaluateTargetStates targets) (fun _ v => v = w) w := by
  induction targets with
  | nil => rfl
  | cons t ts ih => exact smooth_call ih

end

/-! ## the request -/

def requalifyID (rt : Runtime) (uplinkID : String) (materials : List Material) : String :=
  rt.generationID ("requalify-" ++ uplinkID)
    (",".intercalate (sortStrings (materials.map (·.versionID))))

structure Requalifiable (rt : Runtime) (uplinkID : String) (w : World) : Prop where
  complete : rt.validate = .ok ()
  named : trimSpace uplinkID ≠ ""
  cells : Reconcilable w.inventory
  inputs : ∃ uplinks targets materials bundle, readyUplinks w.inventory = .ok uplinks ∧
    (∃ u ∈ uplinks, u.id = uplinkID) ∧ probeTargets w.inventory = .ok targets ∧
    requalifyMaterials rt w.inventory = .ok materials ∧
    buildBundle rt uplinks none w.inventory = .ok bundle ∧
    Mihomo.Accepts rt.controller (requalifyID rt uplinkID materials) bundle w.mihomo

def requalified (rt : Runtime) (uplinkID : String) (w : World) :
    Except Failure RequalificationResult × World :=
  runWith exec (fun _ => .ok) (requalifyUplink rt uplinkID) w

/-- the request succeeds, and the evidence of every enabled subscription with an active version is
from this moment -/
def Renews (rt : Runtime) (uplinkID : String) (w : World) : Prop :=
  ∃ result, (requalified rt uplinkID w).1 = .ok result ∧ result.checkedAt = w.clock w.reads ∧
    ∃ news, (requalified rt uplinkID w).2.evidence = news ++ w.evidence ∧
      ∀ s ∈ w.inventory.store.subscriptions.rows, s.enabled = true → activeVersion s ≠ "" →
        ∃ cell, getCell (requalified rt uplinkID w).2.inventory uplinkID s.id = .ok cell ∧
          ⟨cell.id, result.checkedAt, result.checkedAt + rt.ttl⟩ ∈ news

section
variable {rt : Runtime} {uplinkID : String} {w : World} {uplinks : List Mihomo.Uplink}

theorem readyUplinks_all (h : readyUplinks inv = .ok uplinks) :
    ∀ u ∈ uplinks, u.enabled = true ∧ u.online = true := by
  unfold readyUplinks at h
  dsimp only at h
  split at h
  · cases h
  cases h
  intro u hu
  obtain ⟨row, _, rfl⟩ := mem_map.mp hu
  exact ⟨rfl, rfl⟩

theorem Loaded.path {targets : List Health.Target}
    {bundle : Mihomo.Bundle} (h : Loaded inv m) (hcells : Complete inv)
    (huplinks : readyUplinks inv = .ok uplinks) (hu : ∃ u ∈ uplinks, u.id = uplinkID)
    (htargets : probeTargets inv = .ok targets)
    (hbundle : buildBundle rt uplinks none inv = .ok bundle) :
    ∃ p, bundle.paths.filter (ofPair uplinkID m.subscription.id) = [p] ∧ p.groupName ≠ "" ∧
      p.uplinkID = uplinkID ∧ ∃ q, Qualifies rt m targets inv p q := by
  obtain ⟨u, hu, rfl⟩ := hu
  obtain ⟨hid, p, hfilter⟩ := bundle_pair hbundle hu (readyUplinks_all huplinks u hu) h.subscription
    h.enabled h.active h.bundles
  have hmem : p ∈ bundle.paths.filter (ofPair u.id m.subscription.id) := by
    rw [hfilter]
    exact mem_singleton_self p
  obtain ⟨hp, hmatch⟩ := mem_filter.mp hmem
  have hmatch : (p.qualificationOnly = false ∧ p.uplinkID = u.id) ∧
      p.subscriptionID = m.subscription.id := by simpa [ofPair] using hmatch
  obtain ⟨hrow, hnamed, hprovider, hgroup⟩ := bundle_path huplinks hbundle hp
  exact ⟨p, hfilter, hgroup, hmatch.1.2, qualifies_of_reconciled hcells hrow hnamed hprovider
    h.subscription hid (probeTargets_probeable htargets)⟩

/-- **a request that has what it needs succeeds** -/
theorem Requalifiable.smooth (h : Requalifiable rt uplinkID w) :
    Smooth (requalifyUplink rt uplinkID) (fun r v => ∃ result, r = .ok result ∧
      result.checkedAt = w.clock w.reads ∧ SameTables w.inventory v.inventory ∧
      (∃ news, v.evidence = news ++ w.evidence ∧ ∀ s ∈ w.inventory.store.subscriptions.rows,
        s.enabled = true → activeVersion s ≠ "" → ∃ cell,
          getCell v.inventory uplinkID s.id = .ok cell ∧
            ⟨cell.id, result.checkedAt, result.checkedAt + rt.ttl⟩ ∈ news) ∧
      ∀ materials, requalifyMaterials rt w.inventory = .ok materials →
        v.mihomo.has (requalifyID rt uplinkID materials) = true) w := by
  obtain ⟨uplinks, targets, materials, bundle, huplinks, hu, htargets, hmaterials, hbundle,
    haccepts⟩ := h.inputs
  obtain ⟨inv, hinv⟩ := reconcileCells_iff.mpr h.cells
  have hsame := (reconcileCells_ok hinv).1
  have happly : applied rt (requalifyID rt uplinkID materials) bundle w.mihomo = _ :=
    runWith_apply haccepts
  have hsuccess : (applied rt (requalifyID rt uplinkID materials) bundle w.mihomo).1.err = none := by
    rw [happly]
  -- the same queries after the reconciliation
  have htargets' := hsame.probeTargets.trans htargets
  have hmaterials' := (hsame.requalifyMaterials rt).trans hmaterials
  have hbundle' := (hsame.buildBundle rt uplinks none).trans hbundle
  have huplinks' := hsame.readyUplinks.trans huplinks
  obtain ⟨ordered, hordered, hmem⟩ := orderMaterials_ok uplinkID materials inv
  obtain ⟨hloaded, hfound⟩ := requalifyMaterials_loaded hmaterials'
  unfold requalifyUplink
  rw [h.complete]
  rw [if_neg h.named]
  refine smooth_call (smooth_query huplinks ?_)
  rw [if_neg (by simpa using hu)]
  refine smooth_reconcileCells hinv (smooth_query htargets' (smooth_query hmaterials'
    (smooth_query hordered (smooth_query hbundle' ?_))))
  refine smooth_call (smooth_applyBundle hsuccess (smooth_call ?_))
  refine smooth_attempt (smooth_requalifyEach fun m hm => (hloaded m ((hmem m).mp hm)).path
    (reconcileCells_complete hinv) huplinks' hu htargets' hbundle') ?_
  rintro result v ⟨hchecked, news, rfl, hnews⟩
  refine smooth_bind (smooth_evaluateTargetStates _ _) ?_
  rintro _ v rfl
  refine ⟨result, rfl, hchecked, hsame, ⟨news, rfl, fun s hs henabled hactive => ?_⟩, ?_⟩
  · rw [← hsame.store] at hs
    obtain ⟨m, hm, rfl⟩ := hfound s hs henabled hactive
    obtain ⟨cell, hcell, hevidence⟩ := hnews m.subscription
      (mem_map_of_mem ((hmem m).mpr hm))
    exact ⟨cell, hcell, hchecked ▸ hevidence⟩
  intro materials' h'
  rw [hmaterials] at h'
  cases h'
  show (applied rt (requalifyID rt uplinkID materials) bundle w.mihomo).2.has _ = true
  rw [happly]
  simp [Mihomo.World.applied, Mihomo.World.has]

/-- **and nothing less succeeds** -/
theorem requalifiable_of_success : Smooth (requalifyUplink rt uplinkID)
      (fun r _ => (∃ result, r = .ok result) → Requalifiable rt uplinkID w) w := by
  have hfail : ∀ (err : Failure) (v : World), Smooth (stop err) (fun r _ =>
      (∃ result : RequalificationResult, r = .ok result) → Requalifiable rt uplinkID w) v := by
    rintro err v ⟨result, hresult⟩
    cases hresult
  unfold requalifyUplink
  cases hcomplete : rt.validate with
  | error err => exact hfail err w
  | ok _ =>
  dsimp only
  split
  · exact hfail _ w
  next hnamed =>
  refine smooth_call ?_
  cases huplinks : readyUplinks w.inventory with
  | error err => exact smooth_query_error huplinks (hfail _ _)
  | ok uplinks =>
  refine smooth_query huplinks ?_
  split
  · exact hfail _ w
  next hu =>
  cases hinv : reconcileCells w.inventory with
  | error err => exact smooth_reconcileCells_error hinv (hfail _ _)
  | ok inv =>
  have hsame := (reconcileCells_ok hinv).1
  refine smooth_reconcileCells hinv ?_
  cases htargets : probeTargets inv with
  | error err => exact smooth_query_error htargets (hfail _ _)
  | ok targets =>
  refine smooth_query htargets ?_
  cases hmaterials : requalifyMaterials rt inv with
  | error err => exact smooth_query_error hmaterials (hfail _ _)
  | ok materials =>
  refine smooth_query hmaterials ?_
  obtain ⟨ordered, hordered, _⟩ := orderMaterials_ok uplinkID materials inv
  refine smooth_query hordered ?_
  cases hbundle : buildBundle rt uplinks none inv with
  | error err => exact smooth_query_error hbundle (hfail _ _)
  | ok bundle =>
  refine smooth_query hbundle (smooth_call ?_)
  cases happly : (applied rt (requalifyID rt uplinkID materials) bundle w.mihomo).1.err with
  | some err => exact smooth_applyBundle_error happly (hfail _ _)
  | none =>
  refine smooth_applyBundle happly (wp_oks_iff.2 fun _ => ?_)
  exact ⟨hcomplete, hnamed, reconcileCells_iff.mp ⟨inv, hinv⟩, uplinks, targets, materials, bundle,
    huplinks, by simpa using hu, hsame.probeTargets.symm.trans htargets,
    (hsame.requalifyMaterials rt).symm.trans hmaterials,
    (hsame.buildBundle rt uplinks none).symm.trans hbundle, accepts_of_applied happly⟩

theorem requalified_iff : Renews rt uplinkID w ↔ Requalifiable rt uplinkID w := by
  constructor
  · rintro ⟨result, hresult, _⟩
    exact requalifiable_of_success.runWith ⟨result, hresult⟩
  intro h
  obtain ⟨result, hresult, hchecked, _, hnews, _⟩ := h.smooth.runWith
  exact ⟨result, hresult, hchecked, hnews⟩

theorem Requalifiable.once (h : Requalifiable rt uplinkID w) :
    ¬ Requalifiable rt uplinkID (requalified rt uplinkID w).2 := by
  intro hagain
  obtain ⟨_, _, _, hsame, _, hstored⟩ := h.smooth.runWith
  obtain ⟨_, _, materials, _, _, _, _, hmaterials, _, haccepts⟩ := hagain.inputs
  have hhas := hstored materials ((hsame.requalifyMaterials rt).symm.trans hmaterials)
  have hnew := haccepts.new
  rw [show (requalified rt uplinkID w).2.mihomo.has _ = true from hhas] at hnew
  cases hnew

end

/-- **How often a request can be made**: when no call of it fails, all of `n` requests in a row succeed
and store new evidence exactly when there are none, or one that has what it needs. -/
theorem requalified_times (rt : Runtime) (uplinkID : String) (n : Nat) (w : World) :
    (∀ k < n, Renews rt uplinkID ((fun v => (requalified rt uplinkID v).2)^[k] w)) ↔
      n = 0 ∨ n = 1 ∧ Requalifiable rt uplinkID w := by
  constructor
  · intro h
    match n, h with
    | 0, _ => exact Or.inl rfl
    | 1, h => exact Or.inr ⟨rfl, requalified_iff.mp (h 0 Nat.one_pos)⟩
    | n + 2, h =>
      have hfirst := requalified_iff.mp (h 0 (by omega))
      have hsecond := requalified_iff.mp (h 1 (by omega))
      exact absurd hsecond hfirst.once
  · rintro (rfl | ⟨rfl, h⟩) k hk
    · cases hk
    · obtain rfl : k = 0 := by omega
      exact requalified_iff.mpr h

theorem requalified_again_refused :
    (requalified (sampleRuntime true) "u1" sampleWorld).1 = .ok
      { uplinkID := "u1", subscriptionsChecked := 1, qualified := 1, checkedAt := 0 } ∧
    (requalified (sampleRuntime true) "u1" (requalified (sampleRuntime true) "u1" sampleWorld).2).1 =
      .error (.text ("apply active bundle for uplink requalification: " ++
        "write Mihomo candidate generation: candidate destination already exists")) := by
  decide +kernel

end GatewayVpn.Candidate
