import GatewayVpn.Candidate.Revocation

/-!
# Candidate: the firewall covers what Mihomo runs

Each operation computes the bundle that it applies and the versions that it authorizes by code of
its own.  In `Promote` and `Commit` they agree.  `RequalifyUplink` authorizes the versions of the
enabled subscriptions and applies a bundle that also has the disabled ones.  A path operation that
is only a diagnosis returns to the last good generation with the versions of now.
-/

namespace GatewayVpn.Candidate

open Durable List

/-- the firewall lets through to every node of the running configuration -/
def Covered (w : World) : Prop :=
  ∀ g b, w.mihomo.running = some g → w.mihomo.generations.lookup g = some b →
    ∀ p ∈ b.paths, p.version ∈ w.authorized

/-! ## generations -/

section
variable {m m' : Mihomo.World} {g g' : String} {b : Mihomo.Bundle}

theorem lookup_none_of_has (h : m.has g = false) : m.generations.lookup g = none := by
  rw [lookup_eq_none_iff]
  intro p hp
  have hne : p.1 ≠ g := by simpa using any_eq_false.mp h p hp
  simpa using hne.symm

theorem lookup_applied (hnew : m.has g = false) (h : m'.generations = m.generations ++ [(g, b)]) :
    m'.generations.lookup g = some b := by
  rw [h, lookup_append, lookup_none_of_has hnew]
  simp

theorem lookup_kept (hold : m.has g' = true) (h : m'.generations = m.generations ++ [(g, b)]) :
    m'.generations.lookup g' = m.generations.lookup g' := by
  rw [h, lookup_append]
  cases hlookup : m.generations.lookup g' with
  | some b' => rfl
  | none =>
  obtain ⟨p, hp, hg⟩ := any_eq_true.mp hold
  have hne := lookup_eq_none_iff.mp hlookup p hp
  simp only [decide_eq_true_eq] at hg
  simp [hg] at hne

end

variable {b : Mihomo.Bundle} {w : World}

theorem covered_running {g : String} (hrunning : w.mihomo.running = some g)
    (hlookup : w.mihomo.generations.lookup g = some b) :
    Covered w ↔ ∀ p ∈ b.paths, p.version ∈ w.authorized := by
  constructor
  · exact fun h => h g b hrunning hlookup
  intro h g' b' hrunning' hlookup'
  rw [hrunning] at hrunning'
  cases hrunning'
  rw [hlookup] at hlookup'
  cases hlookup'
  exact h

theorem Quiet.covered {v : World} (h : Quiet w v) : Covered v ↔ Covered w := by
  unfold Covered
  rw [h.mihomo, h.authorized]

/-! ## bundles -/

variable {inv : Inventory} {uplinks : List Mihomo.Uplink}

theorem readyUplinks_used (h : readyUplinks inv = .ok uplinks) :
    ∃ u ∈ uplinks, u.enabled = true ∧ u.online = true := by
  unfold readyUplinks at h
  dsimp only at h
  split at h
  · cases h
  next hne =>
  cases h
  have hne : inv.uplinks.rows.filter Uplink.isReady ≠ [] := by
    rwa [Ne, ← List.isEmpty_iff]
  obtain ⟨u, hu⟩ := List.exists_mem_of_ne_nil _ hne
  exact ⟨u.generated, List.mem_map_of_mem hu, rfl, rfl⟩

def AllIn (inv : Inventory) (versions : List String) : Prop :=
  ∀ s ∈ inv.store.subscriptions.rows, activeVersion s ≠ "" → Bundles inv s →
    activeVersion s ∈ versions

variable {versions : List String} {rt : Runtime}

theorem buildBundle_covered
    (huplinks : readyUplinks inv = .ok uplinks) (h : buildBundle rt uplinks none inv = .ok b) :
    (∀ p ∈ b.paths, p.version ∈ versions) ↔ AllIn inv versions := by
  have hversions := fun v => @buildBundle_versions rt uplinks none inv b h (readyUplinks_used huplinks) v
  constructor
  · intro hin s hs hactive hbundles
    obtain ⟨p, hp, hversion⟩ := mem_map.mp ((hversions _).mpr
      (Or.inl ⟨s, hs, hactive, hbundles, rfl⟩))
    exact hversion ▸ hin p hp
  · intro hall p hp
    rcases (hversions p.version).mp (mem_map_of_mem hp) with
      ⟨s, hs, hactive, hbundles, heq⟩ | ⟨m, hm, _⟩
    · exact heq ▸ hall s hs hactive hbundles
    · cases hm

theorem allIn_endpointVersionIDs (h : endpointVersionIDs inv = .ok versions) : AllIn inv versions :=
  fun s hs hactive _ => (mem_endpointVersionIDs h).mpr ⟨s, hs, rfl, hactive⟩

/-! ## Promote and Commit -/

def Success {α : Type} (P : α → World → Prop) (r : Except Failure α) (v : World) : Prop :=
  ∀ a, r = .ok a → P a v

section
variable {α : Type} {P : α → World → Prop} {rt : Runtime} {w : World}

theorem success_stop (err : Failure) :
    Post (stop err : Action (Except Failure α)) (Success P) w := nofun

theorem success_restoreAfter (previous : String) (cause : Failure) :
    Post (restoreAfter rt previous cause : Action (Except Failure α)) (Success P) w :=
  post_restoreAfter nofun

theorem success_silent {p : Action (Except Failure α)} (hp : Silent p)
    (h : ∀ a v, Quiet w v → P a v) : Post p (Success P) w :=
  (post_silent hp).mono fun _ v hv a _ => h a v hv

end

variable {previous : String}

theorem covered_qualifyCandidate {p : Prepared} (h : Covered w) :
    Post (qualifyCandidate rt p previous) (Success fun _ => Covered) w := by
  refine post_attempt (post_silent (silent_qualifyPaths _ _ _ _)) ?_ ?_
  · exact fun err v _ => success_restoreAfter _ _
  intro items v hv
  split
  · exact fun _ _ => hv.covered.mpr h
  · exact success_restoreAfter _ _

theorem temporaryVersions_cover {c : StagedCandidate} {p : Prepared} (h : p.From rt c inv) :
    ∀ path ∈ p.bundle.paths, path.version ∈ temporaryVersions p := by
  obtain ⟨uplinks, huplinks, hbundle⟩ := h.bundle
  intro path hpath
  have hprevious : ∀ v ∈ p.previous, v ∈ temporaryVersions p := by
    intro v hv
    unfold temporaryVersions
    split
    · exact hv
    · rw [mem_sortStrings]
      exact mem_append_left _ hv
  rcases (buildBundle_versions hbundle (readyUplinks_used huplinks)).mp
    (mem_map_of_mem hpath) with ⟨s, hs, hactive, _, heq⟩ | ⟨m, hm, _, heq⟩
  · exact heq ▸ hprevious _ ((mem_endpointVersionIDs h.previous).mpr ⟨s, hs, rfl, hactive⟩)
  · cases hm
    exact heq ▸ candidate_temporary

theorem covered_promote (rt : Runtime) (c : StagedCandidate) (w : World) :
    Post (promote rt c) (Success fun _ => Covered) w := by
  refine post_attempt (post_prepare rt c w) (fun err v _ => success_stop err) ?_
  rintro p v ⟨_, hfrom⟩
  have hfrom := hfrom p rfl
  refine post_authorize ?_ (success_stop _)
  refine post_applyBundle (fun err m reply _ => success_stop _) fun m hnew hstored hrunning => ?_
  exact covered_qualifyCandidate
    ((covered_running hrunning (lookup_applied hnew hstored)).mpr (temporaryVersions_cover hfrom))

theorem covered_commit (rt : Runtime) (p : Promotion) (w : World) :
    Post (commit rt p) (Success fun _ => Covered) w := by
  refine post_query success_stop fun enabled _ => post_query success_stop fun uplinks huplinks =>
    post_query success_stop fun bundle hbundle => post_query success_stop fun versions hversions => ?_
  refine post_authorize ?_ (success_stop _)
  refine post_applyBundle (fun err m reply _ => success_stop _) fun m hnew hstored hrunning => ?_
  refine success_silent (silent_commitApplied _ _ _) fun _ v hv => hv.covered.mpr ?_
  exact (covered_running hrunning (lookup_applied hnew hstored)).mpr
    ((buildBundle_covered huplinks hbundle).mpr (allIn_endpointVersionIDs hversions))

/-! ## RequalifyUplink -/

def Shared (inv : Inventory) : Prop :=
  ∀ s ∈ inv.store.subscriptions.rows, s.enabled = false → activeVersion s ≠ "" → Bundles inv s →
    ∃ t ∈ inv.store.subscriptions.rows, t.enabled = true ∧ activeVersion t = activeVersion s

theorem loadActive_versionID {s : Subscriptions.Subscription} {m : Material}
    (h : loadActive rt s inv = .ok m) : m.versionID = activeVersion s := by
  unfold loadActive at h
  split at h
  · cases h
  next version hfind =>
  split at h
  · cases h
  split at h
  · cases h
  split at h
  · cases h
  split at h
  · cases h
  cases h
  show version.id = activeVersion s
  exact Table.key_of_find hfind

variable {materials : List Material}

theorem mem_activeMaterials {rows : List Subscriptions.Subscription}
    (h : activeMaterials rt inv rows = .ok materials) {v : String} :
    v ∈ materials.map (·.versionID) ↔
      ∃ s ∈ rows, s.enabled = true ∧ activeVersion s ≠ "" ∧ activeVersion s = v := by
  induction rows generalizing materials with
  | nil =>
    cases h
    simp
  | cons s ss ih =>
    unfold activeMaterials at h
    split at h
    · next hskip =>
      rw [ih h]
      have hskip : s.enabled = true → activeVersion s ≠ "" → False := by
        intro henabled hactive
        simp [henabled, hactive] at hskip
      constructor
      · rintro ⟨t, ht, hfacts⟩
        exact ⟨t, mem_cons_of_mem _ ht, hfacts⟩
      rintro ⟨t, ht, henabled, hactive, heq⟩
      rcases mem_cons.mp ht with rfl | ht
      · exact (hskip henabled hactive).elim
      · exact ⟨t, ht, henabled, hactive, heq⟩
    next huse =>
    have huse : s.enabled = true ∧ activeVersion s ≠ "" := by simpa using huse
    split at h
    · cases h
    next m hm =>
    split at h
    · cases h
    next rest hrest =>
    cases h
    rw [map_cons, mem_cons, ih hrest, loadActive_versionID hm]
    constructor
    · rintro (rfl | ⟨t, ht, hfacts⟩)
      · exact ⟨s, mem_cons_self, huse.1, huse.2, rfl⟩
      · exact ⟨t, mem_cons_of_mem _ ht, hfacts⟩
    rintro ⟨t, ht, henabled, hactive, heq⟩
    rcases mem_cons.mp ht with rfl | ht
    · exact Or.inl heq.symm
    · exact Or.inr ⟨t, ht, henabled, hactive, heq⟩

theorem mem_requalifyMaterials (h : requalifyMaterials rt inv = .ok materials) {v : String} :
    v ∈ materials.map (·.versionID) ↔ ∃ s ∈ inv.store.subscriptions.rows,
      s.enabled = true ∧ activeVersion s ≠ "" ∧ activeVersion s = v := by
  unfold requalifyMaterials at h
  split at h
  · cases h
  next materials' hmaterials =>
  split at h
  · cases h
  cases h
  exact mem_activeMaterials hmaterials

theorem allIn_requalified (h : requalifyMaterials rt inv = .ok materials) :
    AllIn inv (sortStrings (materials.map (·.versionID))) ↔ Shared inv := by
  have hmem : ∀ v, v ∈ sortStrings (materials.map (·.versionID)) ↔
      ∃ s ∈ inv.store.subscriptions.rows, s.enabled = true ∧ activeVersion s ≠ "" ∧
        activeVersion s = v :=
    fun v => mem_sortStrings.trans (mem_requalifyMaterials h)
  constructor
  · intro hall s hs _ hactive hbundles
    obtain ⟨t, ht, henabled, _, heq⟩ := (hmem _).mp (hall s hs hactive hbundles)
    exact ⟨t, ht, henabled, heq⟩
  intro hshared s hs hactive hbundles
  rw [hmem]
  by_cases henabled : s.enabled = true
  · exact ⟨s, hs, henabled, hactive, rfl⟩
  · obtain ⟨t, ht, htenabled, heq⟩ := hshared s hs (by simpa using henabled) hactive hbundles
    exact ⟨t, ht, htenabled, heq ▸ hactive, heq⟩

theorem SameTables.shared {inv' : Inventory} (h : SameTables inv inv') :
    Shared inv' ↔ Shared inv := by
  unfold Shared Bundles
  rw [h.store]
  simp only [h.listNodes, h.transitionOn]

theorem covered_requalifyApplied {uplinkID : String} {targets : List Health.Target}
    {bundle : Mihomo.Bundle} : Post (requalifyApplied rt uplinkID targets materials bundle previous)
      (Success fun _ v => Covered v ↔ Covered w) w := by
  refine post_call rfl fun checkedAt v hv => ?_
  refine post_attempt (post_silent (silent_requalifyEach _ _ _ _ _))
    (fun err u _ => success_restoreAfter _ _) fun result u hu => ?_
  refine post_bind (post_silent (silent_evaluateTargetStates _)) fun _ t ht => ?_
  exact fun _ _ => ((hv.trans hu).trans ht).covered

theorem covered_requalifyUplink (rt : Runtime) (uplinkID : String) (w : World) :
    Post (requalifyUplink rt uplinkID) (Success fun _ v => Covered v ↔ Shared w.inventory) w := by
  unfold requalifyUplink
  split
  · exact success_stop _
  split
  · exact success_stop _
  refine post_call rfl fun r v1 h1 => ?_
  rcases r with err | _
  · exact success_stop _
  refine post_query success_stop fun uplinks huplinks => ?_
  split
  · exact success_stop _
  refine post_call rfl fun r v2 h2 => ?_
  rcases r with err | _
  · exact success_stop _
  refine post_query success_stop fun targets _ => post_query success_stop fun materials hmaterials =>
    post_query success_stop fun ordered _ => post_query success_stop fun bundle hbundle => ?_
  refine post_authorize ?_ (success_stop _)
  refine post_applyBundle (fun err m reply _ => success_stop _) fun m hnew hstored hrunning => ?_
  refine covered_requalifyApplied.mono fun r u hu a ha => (hu a ha).trans ?_
  rw [covered_running hrunning (lookup_applied hnew hstored)]
  rw [← h2.tables.readyUplinks] at huplinks
  rw [← (h1.trans h2).tables.shared, ← allIn_requalified hmaterials]
  exact buildBundle_covered huplinks hbundle

/-! ## path operations -/

def LKGActive (w : World) : Prop :=
  ∀ g b, w.mihomo.lkg = some g → g ≠ "" → w.mihomo.generations.lookup g = some b →
    ∀ p ∈ b.paths, p.version ∈ activeVersions (fun _ => true) w.inventory

/-- if the operation ends by restoring the last good generation, then that has active versions -/
def Returnable (rt : Runtime) (pathID nodeID : String) (options : PathOperationOptions)
    (w : World) : Prop :=
  ∀ inv op path result, reconcileCells w.inventory = .ok inv →
    loadOperation rt pathID nodeID inv = .ok op → operationPath op nodeID inv = .ok path →
    Health.qualifyCell options.qualifier (rt.proberOf options) path op.targets = .ok result →
    options.restores result = true → LKGActive w

variable {nodeID : String} {op : Operation}

theorem loadOperation_ok {pathID : String} (h : loadOperation rt pathID nodeID inv = .ok op) :
    endpointVersionIDs inv = .ok op.versions ∧ ∃ uplinks, readyUplinks inv = .ok uplinks ∧
      buildBundle rt uplinks none inv = .ok op.bundle := by
  unfold loadOperation at h
  split at h
  · cases h
  next cell uplinks s hcell =>
  split at h
  · cases h
  split at h
  · cases h
  split at h
  · cases h
  split at h
  · cases h
  next bundle hbundle =>
  split at h
  · cases h
  split at h
  · cases h
  next versions hversions =>
  cases h
  refine ⟨hversions, uplinks, ?_, hbundle⟩
  unfold loadCell at hcell
  split at hcell
  · cases hcell
  split at hcell
  · cases hcell
  next uplinks' huplinks =>
  split at hcell
  · cases hcell
  split at hcell
  · cases hcell
  split at hcell
  · cases hcell
  cases hcell
  exact huplinks

variable {r : PathOperationResult}

theorem success_restoreResult {event : String} {P : PathOperationResult → World → Prop}
    (h : ∀ m v, Quiet { w with mihomo := m } v → m.generations = w.mihomo.generations →
      (previous = "" ∧ m.running = none ∨
        previous ≠ "" ∧ w.mihomo.has previous = true ∧ m.running = some previous) → P r v) :
    Post (restoreResult rt previous event r) (Success P) w := by
  refine post_bind (post_controller (Mihomo.wp_restore rt.controller previous w.mihomo)) ?_
  rintro reply v ⟨m, hrestored, rfl⟩
  split
  · exact success_stop _
  next hnone =>
  have hcases := hrestored.success hnone
  split
  · rintro a ⟨⟩
    exact h m _ (.refl _) hrestored.stored hcases
  refine post_call rfl fun _ v hv => ?_
  rintro a ⟨⟩
  exact h m v hv hrestored.stored hcases

theorem success_finishOperation {options : PathOperationOptions}
    {Q : World → Prop} (hkept : options.restores r.result = false → ∀ v, Quiet w v → Q v)
    (hrestored : options.restores r.result = true → ∀ m v, Quiet { w with mihomo := m } v →
      m.generations = w.mihomo.generations → (previous = "" ∧ m.running = none ∨
        previous ≠ "" ∧ w.mihomo.has previous = true ∧ m.running = some previous) → Q v) :
    Post (finishOperation rt options op nodeID previous r) (Success fun _ => Q) w := by
  unfold finishOperation
  split
  · next hdeferred =>
    exact success_restoreResult (hrestored (by
      simp only [PathOperationOptions.restores, hdeferred, Bool.or_true]))
  next hdeferred =>
  split
  · next hdiagnosis =>
    exact success_restoreResult (hrestored (by
      simp only [PathOperationOptions.restores, hdiagnosis, Bool.true_or]))
  next hauthoritative =>
  have hkept := hkept (by
    simp only [PathOperationOptions.restores, hauthoritative, hdeferred, Bool.or_false])
  refine post_attempt (post_silent (silent_publishOperation _ _ _))
    (fun err v _ => success_restoreAfter _ _) fun _ v hv => ?_
  refine post_bind (post_silent (silent_evaluateTargetStates _)) fun _ u hu => ?_
  split
  · exact fun _ _ => hkept u (hv.trans hu)
  · exact post_call rfl fun _ t ht => fun _ _ => hkept t ((hv.trans hu).trans ht)

theorem loadOperation_covered {pathID : String} (h : loadOperation rt pathID nodeID inv = .ok op) :
    ∀ p ∈ op.bundle.paths, p.version ∈ op.versions := by
  obtain ⟨hversions, uplinks, huplinks, hbundle⟩ := loadOperation_ok h
  exact (buildBundle_covered huplinks hbundle).mpr (allIn_endpointVersionIDs hversions)

theorem covered_restored {v : World} {m m' : Mihomo.World} {g : String}
    (hnew : w.mihomo.has g = false) (hstored : m.generations = w.mihomo.generations ++ [(g, b)])
    (hsame : m'.generations = m.generations) (hbundle : ∀ p ∈ b.paths, p.version ∈ versions)
    (hversions : ∀ x, x ∈ versions ↔ x ∈ activeVersions (fun _ => true) w.inventory)
    (hmihomo : v.mihomo = m') (hauthorized : v.authorized = versions)
    (hrestored : w.mihomo.lkg.getD "" = "" ∧ m'.running = none ∨ w.mihomo.lkg.getD "" ≠ "" ∧
      m.has (w.mihomo.lkg.getD "") = true ∧ m'.running = some (w.mihomo.lkg.getD "")) :
    Covered v ↔ LKGActive w := by
  rcases hrestored with ⟨hempty, hrunning⟩ | ⟨hne, hhas, hrunning⟩
  · refine iff_of_true (fun g b hg => ?_) fun g b hlkg hg => absurd ?_ hg
    · rw [hmihomo, hrunning] at hg
      cases hg
    · rwa [hlkg] at hempty
  obtain ⟨l, hl⟩ : ∃ l, w.mihomo.lkg = some l := by
    cases hlkg : w.mihomo.lkg with
    | none => exact absurd (by rw [hlkg]; rfl) hne
    | some l => exact ⟨l, rfl⟩
  rw [hl] at hne hhas hrunning
  change m'.running = some l at hrunning
  by_cases hold : w.mihomo.has l = true
  · have hlookup : v.mihomo.generations.lookup l = w.mihomo.generations.lookup l := by
      rw [hmihomo, hsame]
      exact lookup_kept hold hstored
    constructor
    · intro hcovered g' b' hg' _ hb' p hp
      rw [hl] at hg'
      cases hg'
      have hin := hcovered l b' (by rw [hmihomo, hrunning]) (hlookup.trans hb') p hp
      rwa [hauthorized, hversions] at hin
    · intro hactive g' b' hg' hb' p hp
      rw [hmihomo, hrunning] at hg'
      cases hg'
      rw [hauthorized, hversions]
      exact hactive l b' hl hne (hlookup.symm.trans hb') p hp
  -- the marker named a generation that was not stored until now
  have hold : w.mihomo.has l = false := by simpa using hold
  obtain rfl : l = g := by
    have hl' : m.generations.any (fun p => p.1 = l) = true := hhas
    rw [hstored, any_append, show w.mihomo.generations.any (fun p => p.1 = l) = false from hold]
      at hl'
    simpa [eq_comm] using hl'
  have hlookup : v.mihomo.generations.lookup l = some b := by
    rw [hmihomo, hsame]
    exact lookup_applied hnew hstored
  refine iff_of_true ((covered_running (by rw [hmihomo, hrunning]) hlookup).mpr ?_) ?_
  · rwa [hauthorized]
  intro g' b' hg' _ hb'
  rw [hl] at hg'
  cases hg'
  rw [lookup_none_of_has hnew] at hb'
  cases hb'

theorem covered_runPathOperation (rt : Runtime) (pathID nodeID : String)
    (options : PathOperationOptions) (w : World) : Post (runPathOperation rt pathID nodeID options)
      (Success fun _ v => Covered v ↔ Returnable rt pathID nodeID options w) w := by
  unfold runPathOperation
  split
  · exact success_stop _
  split
  · exact success_stop _
  refine post_syncRouting fun r => ?_
  rcases r with err | _
  · exact success_stop _
  refine post_reconcileCells (fun inv hinv => ?_) fun err v _ => success_stop _
  refine post_query success_stop fun op hop => ?_
  refine post_authorize ?_ (success_stop _)
  refine post_now (post_applyBundle (fun err m reply _ => success_stop _)
    fun m hnew hstored hrunning => ?_)
  refine post_query (fun err => success_restoreAfter _ _) fun path hpath => ?_
  refine post_probe fun r => ?_
  rcases r with err | _
  · exact success_restoreAfter _ _
  dsimp only
  split
  · exact success_restoreAfter _ _
  next result hresult =>
  -- every input of the operation is determined by the tables
  have hreturnable : Returnable rt pathID nodeID options w ↔
      (options.restores result = true → LKGActive w) := by
    constructor
    · exact fun h => h inv op path result hinv hop hpath hresult
    intro h inv' op' path' result' hinv' hop' hpath' hresult' hrestores
    rw [hinv] at hinv'
    cases hinv'
    rw [hop] at hop'
    cases hop'
    rw [hpath] at hpath'
    cases hpath'
    rw [hresult] at hresult'
    cases hresult'
    exact h hrestores
  have hcover := loadOperation_covered hop
  have hversions : ∀ x, x ∈ op.versions ↔ x ∈ activeVersions (fun _ => true) w.inventory := by
    intro x
    rw [mem_endpointVersionIDs (loadOperation_ok hop).1, (reconcileCells_ok hinv).1.store,
      mem_activeVersions]
    simp
  refine post_now (success_finishOperation (fun hkept v hv => ?_) fun hrestores m' v hv hsame hcases => ?_)
  · rw [hreturnable, hkept]
    refine iff_of_true (hv.covered.mpr ?_) (nofun)
    exact (covered_running hrunning (lookup_applied hnew hstored)).mpr hcover
  · rw [hreturnable, forall_prop_of_true hrestores]
    exact covered_restored hnew hstored hsame hcover hversions hv.mihomo hv.authorized hcases

/-! ## every operation -/

inductive Call where
  | promote (candidate : StagedCandidate)
  | commit (session : Session)
  | requalifyUplink (uplinkID : String)
  | runPathOperation (pathID nodeID : String) (options : PathOperationOptions)

def Call.Result : Call → Type
  | .promote _ => Promotion
  | .commit _ => Unit
  | .requalifyUplink _ => RequalificationResult
  | .runPathOperation _ _ _ => PathOperationResult

def Call.action (rt : Runtime) : (call : Call) → Action (Except Failure call.Result)
  | .promote candidate => Candidate.promote rt candidate
  | .commit session => (session.commit rt).bind fun r => .done r.1
  | .requalifyUplink uplinkID => Candidate.requalifyUplink rt uplinkID
  | .runPathOperation pathID nodeID options => Candidate.runPathOperation rt pathID nodeID options

/-- what the operation needs to leave Mihomo covered; a promotion that is committed already is not
touched again -/
def Call.Covers (rt : Runtime) (w : World) : Call → Prop
  | .promote _ => True
  | .commit session => session.committed = true → Covered w
  | .requalifyUplink _ => Shared w.inventory
  | .runPathOperation pathID nodeID options => Returnable rt pathID nodeID options w

theorem covered_session_commit (rt : Runtime) (s : Session) (w : World) :
    Post ((s.commit rt).bind fun r => .done r.1)
      (Success fun _ v => Covered v ↔ (s.committed = true → Covered w)) w := by
  unfold Session.commit
  split
  · next hcommitted => exact fun _ _ => by rw [forall_prop_of_true hcommitted]
  next hcommitted =>
  split
  · exact nofun
  refine post_bind (post_bind (covered_commit rt s.promotion w) ?_) fun r v hr => hr
  rintro (err | _) v hv
  · exact nofun
  · exact fun _ _ => iff_of_true (hv () rfl) fun h => absurd h hcommitted

/-- **An operation that succeeds leaves the running configuration covered by the firewall exactly
when `Covers` holds before it.** -/
theorem running_covered (rt : Runtime) (call : Call) (fs : List Fate) (w : World)
    (a : call.Result) (h : (run exec (call.action rt) fs w).result = some (.ok a)) :
    Covered (run exec (call.action rt) fs w).state ↔ call.Covers rt w := by
  cases call with
  | promote c => exact iff_of_true ((covered_promote rt c w).run h a rfl) trivial
  | commit s => exact (covered_session_commit rt s w).run h a rfl
  | requalifyUplink uplinkID => exact (covered_requalifyUplink rt uplinkID w).run h a rfl
  | runPathOperation pathID nodeID options =>
  exact (covered_runPathOperation rt pathID nodeID options w).run h a rfl

theorem running_covered_promoted :
    ∃ p, samplePromoted.result = some (.ok p) ∧ Covered samplePromoted.state := by
  have hends : samplePromoted.result.any Except.isOk = true := by decide +kernel
  rcases hpromoted : samplePromoted.result with _ | _ | p <;> rw [hpromoted] at hends
  · cases hends
  · cases hends
  · exact ⟨p, rfl, (running_covered (sampleRuntime true) (.promote sampleCandidate)
      (replicate 40 .ok) sampleWorld p hpromoted).mpr trivial⟩

def sampleRequalified : Outcome (Except Failure RequalificationResult) World :=
  run exec (requalifyUplink (sampleRuntime true) "u1") (List.replicate 60 .ok) sampleWorld

theorem requalified_uplink_uncovered :
    sampleRequalified.result = some (.ok
      { uplinkID := "u1", subscriptionsChecked := 1, qualified := 1, checkedAt := 0 }) ∧
    sampleRequalified.state.authorized = ["v1"] ∧ ¬ Covered sampleRequalified.state := by
  refine ⟨by decide +kernel, by decide +kernel, fun hcovered => ?_⟩
  have hany : ((sampleRequalified.state.mihomo.running.bind fun g =>
      sampleRequalified.state.mihomo.generations.lookup g).any fun b => b.paths.any fun p =>
        p.version ∉ sampleRequalified.state.authorized) = true := by decide +kernel
  obtain ⟨b, hb, hpath⟩ := (Option.any_eq_true _ _).mp hany
  obtain ⟨g, hg, hlookup⟩ := Option.bind_eq_some_iff.mp hb
  obtain ⟨p, hp, hout⟩ := any_eq_true.mp hpath
  exact absurd (hcovered g b hg hlookup p hp) (by simpa using hout)

end GatewayVpn.Candidate
