import GatewayVpn.Restore.Rules

/-!
# A restore takes place as a whole or not at all

When a run of `Apply` ends with a result, all ten places hold their verified candidates; when it
reports a safe rollback, all ten hold what they held when the journal was first written.  That is so
in every sequence of runs, each with failing calls and cut off anywhere, in which

* the inspection of a rollback copy that is there does not fail while it decides a rollback,
* writing the journal of a committed transaction does not report an error after the journal was
  replaced, and
* no check fails while the journal says that the transaction is committed.
-/

namespace GatewayVpn.Restore

open Durable List

variable {D : Type} {lib : Library D}

/-! ## the states of a transaction -/

def Restorable (original : Option (Tree D)) (install : Bool) (p : Place D) : Prop :=
  (original ≠ none ∧ p.rollback = original) ∨
    (p.rollback = none ∧ (original ≠ none → p.destination = original) ∧
      (original = none → install = true → p.candidate ≠ none → p.destination = none))

variable {p : Place D}

theorem restorable_original {original : Option (Tree D)} {install : Bool}
    (hd : p.destination = original) (hr : p.rollback = none) : Restorable original install p :=
  .inr ⟨hr, fun _ => hd, fun hnone _ _ => hd.trans hnone⟩

def swapItems (b : Book D) : List SwapItem :=
  restoreItems.map fun i => ⟨i, (b.original i).isSome⟩

theorem swapItems_item (b : Book D) : (swapItems b).map SwapItem.item = restoreItems := by
  rw [swapItems, map_map]
  exact map_id _

theorem swapItems_listed {b : Book D} {it : SwapItem} (h : it ∈ swapItems b) :
    it.originalExists = (b.original it.item).isSome := by
  obtain ⟨i, -, rfl⟩ := mem_map.mp h
  rfl

structure Sane (lib : Library D) (b : Book D) : Prop where
  typed : ∀ i t, b.original i = some t → lib.type t.data ≠ .other
  bare : ∀ i, i.install = false → b.verified i = none

/-- the transaction has begun and can be rolled back -/
structure Midway (lib : Library D) (w : World D) : Prop where
  journal : ∃ j, w.journal = some j ∧ (j.state = .prepared ∨ j.state = .applying) ∧
    j.items = swapItems w.book
  sane : Sane lib w.book
  restorable : ∀ i, Restorable (w.book.original i) i.install (w.files i)

def Old (w : World D) : Prop := ∀ i, (w.files i).destination = w.book.original i

def Installed (w : World D) : Prop := ∀ i, (w.files i).destination = w.book.verified i

/-- the transaction is committed: the places are installed, but for sidecars of an open database -/
structure Settled (lib : Library D) (version : Int) (w : World D) : Prop where
  sane : Sane lib w.book
  installed : ∀ i, i ≠ .databaseWAL → i ≠ .databaseSHM →
    (w.files i).destination = w.book.verified i
  activated : Activated lib version w

def Safe (lib : Library D) (w : World D) : Prop :=
  match w.journal with
  | none => True
  | some j =>
    match j.state with
    | .prepared => Midway lib w
    | .applying => Midway lib w
    | .committed => Settled lib j.result.schemaVersion w
    | .rolledBack => Old w

variable {w : World D}

theorem Midway.safe (h : Midway lib w) : Safe lib w := by
  obtain ⟨j, hj, hstate, -⟩ := h.journal
  unfold Safe
  rw [hj]
  dsimp only
  rcases hstate with hstate | hstate <;> rw [hstate] <;> exact h

theorem safe_of_none (h : w.journal = none) : Safe lib w := by
  unfold Safe
  rw [h]
  trivial

variable {j : Journal}

theorem safe_committed (hj : w.journal = some j) (hstate : j.state = .committed)
    (h : Settled lib j.result.schemaVersion w) : Safe lib w := by
  unfold Safe
  rw [hj]
  dsimp only
  rw [hstate]
  exact h

theorem safe_rolledBack (hj : w.journal = some j) (hstate : j.state = .rolledBack) (h : Old w) :
    Safe lib w := by
  unfold Safe
  rw [hj]
  dsimp only
  rw [hstate]
  exact h

variable {v : World D}

theorem Alike.safe (h : Alike w v) (hw : Safe lib w) : Safe lib v := by
  obtain ⟨files, journal, marker, record, last, snapshots, clock, reads, book⟩ := w
  obtain ⟨files', journal', marker', record', last', snapshots', clock', reads', book'⟩ := v
  obtain ⟨hf, hj, hb⟩ := h
  dsimp only at hf hj hb
  subst hf hj hb
  unfold Safe at hw ⊢
  dsimp only at hw ⊢
  split at hw
  · trivial
  next j =>
    split at hw
    · exact ⟨hw.journal, hw.sane, hw.restorable⟩
    · exact ⟨hw.journal, hw.sane, hw.restorable⟩
    · exact ⟨hw.sane, hw.installed, hw.activated.config, hw.activated.database,
        hw.activated.sidecar, hw.activated.active⟩
    · exact hw

theorem Alike.old (h : Alike w v) (hw : Old w) : Old v := by
  unfold Old
  rw [h.files, h.book]
  exact hw

variable {i : Item}

theorem Midway.setPlace (h : Midway lib w) (hp : Restorable (w.book.original i) i.install p) :
    Midway lib (w.setPlace i p) := by
  refine ⟨h.journal, h.sane, ?_⟩
  exact forall_setPlace (P := fun k q => Restorable (w.book.original k) k.install q) hp
    fun k _ => h.restorable k

/-! ## rolling back -/

theorem managedExists_rollback {f : Fate} (h : Midway lib w)
    (hf : Reliable (.managedExists i .rollback) f w) :
    exec lib (.managedExists i .rollback) f w = ((w.files i).rollback.isSome, w) := by
  have hanswer : (f = .ok && managedExists lib i .rollback w) = (w.files i).rollback.isSome := by
    unfold managedExists
    dsimp only [World.get, Place.get]
    cases hr : (w.files i).rollback with
    | none => simp
    | some t =>
    have hok : f = .ok := hf.resolve_right (by rw [hr]; simp)
    have horiginal : w.book.original i = some t := by
      rcases h.restorable i with ⟨-, heq⟩ | ⟨hnone, -⟩
      · rw [← heq, hr]
      · rw [hr] at hnone
        cases hnone
    simp [hok, h.sane.typed i t horiginal]
  show ((f = .ok && managedExists lib i .rollback w), w) = _
  rw [hanswer]

variable {C : World D → Prop}

theorem awp_candidateExists (hC : C w) : Runs lib C (candidateExists i)
      (fun b v => v = w ∧ (b = true → i.install = true ∧ (w.files i).candidate ≠ none)) w := by
  unfold candidateExists
  split
  · next hinstall =>
    refine awp_step hC fun f _ b v hbv => ?_
    obtain ⟨rfl, rfl⟩ := Prod.mk.inj hbv
    refine ⟨rfl, fun hb => ⟨hinstall, fun hnone => ?_⟩⟩
    have hget : w.get i .candidate = none := hnone
    simp [managedExists, hget] at hb
  · exact ⟨rfl, nofun⟩

theorem awp_finishRollback {candidate : Bool}
    (hw : Midway lib w) (hkeep : ∀ t, (candidate = false → t = p.candidate) →
      Restorable (w.book.original i) i.install (p.set .candidate t)) (failures : List Fault) :
    Runs lib (Safe lib) (finishRollback i candidate failures)
      (fun es v => ∃ q, v = w.setPlace i q ∧ Restorable (w.book.original i) i.install q ∧
        q.destination = p.destination ∧ (es = [] → failures = [])) (w.setPlace i p) := by
  refine awp_seq (awp_removeManaged_if candidate fun t ht _ => (hw.setPlace (hkeep t ht)).safe) ?_
  rintro r v ⟨t, ht, -, -, rfl⟩
  refine awp_seq (awp_sync (hw.setPlace (hkeep t ht)).safe) ?_
  rintro r' v rfl
  refine ⟨p.set .candidate t, rfl, hkeep t ht, rfl, fun hnil => ?_⟩
  exact (append_eq_nil_iff.mp (append_eq_nil_iff.mp hnil).1).1

def RolledBack (w : World D) (i : Item) (es : List Fault) (v : World D) : Prop :=
  ∃ q, v = w.setPlace i q ∧ Restorable (w.book.original i) i.install q ∧
    (es = [] → q.destination = w.book.original i)

theorem awp_restoreCopy {t : Tree D} (hw : Midway lib w) (hr : (w.files i).rollback = some t)
    (candidate : Bool) : Runs lib (Safe lib) (restoreCopy i candidate) (RolledBack w i) w := by
  have horiginal : w.book.original i = some t := by
    rcases hw.restorable i with ⟨-, heq⟩ | ⟨hnone, -⟩
    · rw [← heq, hr]
    · rw [hr] at hnone
      cases hnone
  have hany : ∀ d, Restorable (w.book.original i) i.install ((w.files i).set .destination d) :=
    fun d => .inl ⟨by rw [horiginal]; simp, hr.trans horiginal.symm⟩
  rw [← setPlace_files w i]
  refine awp_attempt (awp_removeManaged fun d _ => ?_) ?_ ?_
  · exact (hw.setPlace (hany d)).safe
  · rintro es v ⟨d, hne, -, hgone, rfl⟩
    rw [setPlace_files]
    exact ⟨_, rfl, hany d, fun hnil => (hne (congrArg _ hnil)).elim⟩
  rintro ⟨⟩ v ⟨d, -, -, hgone, rfl⟩
  obtain rfl := hgone rfl
  rw [setPlace_files]
  refine awp_attempt (awp_rename hr rfl (hw.setPlace (hany none)).safe) ?_ ?_
  · rintro es v (⟨hes, rfl⟩ | ⟨hes, rfl⟩)
    · refine ⟨_, rfl, hany none, fun hnil => ?_⟩
      rw [hnil] at hes
      cases hes
    · refine ⟨_, rfl, restorable_original horiginal.symm rfl, fun _ => horiginal.symm⟩
  rintro ⟨⟩ v (⟨hr, -⟩ | ⟨-, rfl⟩)
  · cases hr
  have hmoved : ∀ c, Restorable (w.book.original i) i.install
      (((((w.files i).set .destination none).set .rollback none).set .destination
        (some t)).set .candidate c) := fun c => restorable_original horiginal.symm rfl
  refine awp_post ?_ (awp_finishRollback hw (fun c _ => hmoved c) [])
  rintro es v ⟨q, rfl, hq, hd, -⟩
  exact ⟨q, rfl, hq, fun _ => hd.trans horiginal.symm⟩

variable {it : SwapItem}

theorem awp_dropActivated {candidate : Bool} (hw : Midway lib w)
    (hit : it.originalExists = (w.book.original it.item).isSome)
    (hr : (w.files it.item).rollback = none)
    (hcandidate : candidate = true → it.item.install = true ∧ (w.files it.item).candidate ≠ none) :
    Runs lib (Safe lib) (dropActivated it candidate) (RolledBack w it.item) w := by
  obtain ⟨i, found⟩ := it
  dsimp only at hit hr hcandidate ⊢
  obtain ⟨-, hpresent, habsent⟩ : (w.files i).rollback = none ∧
      (w.book.original i ≠ none → (w.files i).destination = w.book.original i) ∧
      (w.book.original i = none → i.install = true → (w.files i).candidate ≠ none →
        (w.files i).destination = none) := by
    refine (hw.restorable i).resolve_left ?_
    rintro ⟨hne, heq⟩
    exact hne (heq.symm.trans hr)
  unfold dropActivated
  split
  · next hdrop =>
    -- the item was not there, and was installed if it could be
    have hnone : w.book.original i = none := by
      rw [hit, Bool.and_eq_true] at hdrop
      simpa using hdrop.1
    have hleft : candidate = false := by
      cases candidate with
      | false => rfl
      | true => simp [(hcandidate rfl).1] at hdrop
    have hany : ∀ d, ((w.files i).get .destination = none → d = none) →
        Restorable (w.book.original i) i.install ((w.files i).set .destination d) := by
      intro d hd
      refine .inr ⟨hr, fun hne => (hne hnone).elim, fun _ hinstall hc => ?_⟩
      exact hd (habsent hnone hinstall hc)
    rw [← setPlace_files w i]
    refine awp_seq (awp_removeManaged fun d hd => ?_) ?_
    · exact (hw.setPlace (hany d hd)).safe
    rintro r v ⟨d, hne, hkept, hgone, rfl⟩
    rw [setPlace_files]
    have hstays : ∀ t, (candidate = false → t = (w.files i).candidate) → Restorable
        (w.book.original i) i.install (((w.files i).set .destination d).set .candidate t) := by
      intro t ht
      rw [ht hleft]
      exact hany d hkept
    refine awp_post ?_ (awp_finishRollback hw hstays (errorsOf r))
    rintro es v ⟨q, rfl, hq, hd, hnil⟩
    refine ⟨q, rfl, hq, fun h => ?_⟩
    rw [hd, hnone]
    exact hgone (ok_of_errorsOf hne (hnil h))
  next hstay =>
  have hd : (w.files i).destination = w.book.original i := by
    by_cases hnone : w.book.original i = none
    · have hboth : i.install = true ∧ candidate = true := by
        rw [hit, hnone] at hstay
        simpa using hstay
      rw [hnone]
      exact habsent hnone hboth.1 (hcandidate hboth.2).2
    · exact hpresent hnone
  rw [← setPlace_files w i]
  refine awp_post ?_
    (awp_finishRollback hw (fun c _ => restorable_original hd hr) [])
  rintro es v ⟨q, rfl, hq, hd', -⟩
  rw [setPlace_files]
  exact ⟨q, rfl, hq, fun _ => hd'.trans hd⟩

/-- **One item is rolled back**, or a failure is reported and it can still be. -/
theorem awp_rollbackItem (hw : Midway lib w)
    (hit : it.originalExists = (w.book.original it.item).isSome) :
    Runs lib (Safe lib) (rollbackItem it) (RolledBack w it.item) w := by
  refine awp_step hw.safe fun f hf a v hav => ?_
  rw [managedExists_rollback hw hf] at hav
  obtain ⟨rfl, rfl⟩ := Prod.mk.inj hav
  refine awp_seq (awp_candidateExists hw.safe) ?_
  rintro candidate v ⟨hv, hcandidate⟩
  rw [hv]
  cases hr : (w.files it.item).rollback with
  | some t => exact awp_restoreCopy hw hr candidate
  | none => exact awp_dropActivated hw hit hr hcandidate

theorem awp_rollbackEach (items : List SwapItem) (hw : Midway lib w)
    (hitems : ∀ it ∈ items, it.originalExists = (w.book.original it.item).isSome) :
    Runs lib (Safe lib) (rollbackEach items)
      (fun es v => Midway lib v ∧ v.journal = w.journal ∧ v.book = w.book ∧ (es = [] → ∀ k,
        (w.files k).destination = w.book.original k ∨ k ∈ items.map SwapItem.item →
          (v.files k).destination = w.book.original k)) w := by
  induction items generalizing w with
  | nil =>
    refine ⟨hw, rfl, rfl, fun _ k hk => ?_⟩
    rcases hk with hk | hk
    · exact hk
    · cases hk
  | cons it rest ih =>
    refine awp_seq (awp_rollbackItem hw (hitems it (by simp))) ?_
    rintro es v ⟨q, rfl, hq, hes⟩
    have hnext := ih (hw.setPlace hq) fun it' hit' => hitems it' (by simp [hit'])
    refine awp_seq hnext ?_
    rintro fs x ⟨hx, hjournal, hbook, hrest⟩
    refine ⟨hx, hjournal, hbook, fun hnil k hk => ?_⟩
    obtain ⟨rfl, rfl⟩ := append_eq_nil_iff.mp hnil
    refine hrest rfl k ?_
    by_cases hki : k = it.item
    · left
      rw [hki, setPlace_files_self]
      exact hes rfl
    rw [setPlace_files_ne w q hki]
    refine hk.imp id fun hmem => ?_
    exact (mem_cons.mp hmem).resolve_left hki

theorem mem_restoreItems (i : Item) : i ∈ restoreItems := by
  cases i <;> decide

variable {items : List SwapItem}

theorem awp_rollbackItems (hw : Midway lib w) (hitems : items = swapItems w.book) :
    Runs lib (Safe lib) (rollbackItems items)
      (fun es v => Midway lib v ∧ v.book = w.book ∧ (es = [] → Old v)) w := by
  have heach : ∀ it ∈ items.reverse, it.originalExists = (w.book.original it.item).isSome := by
    intro it hit
    rw [hitems, mem_reverse] at hit
    exact swapItems_listed hit
  refine awp_post ?_ (awp_rollbackEach items.reverse hw heach)
  rintro es v ⟨hv, -, hbook, hold⟩
  refine ⟨hv, hbook, fun hnil k => ?_⟩
  rw [hbook]
  refine hold hnil k (.inr ?_)
  rw [hitems, map_reverse, mem_reverse, swapItems_item]
  exact mem_restoreItems k

/-! ## the end of a run -/

def New (w : World D) : Prop := Installed w ∧ ∀ i, (w.files i).rollback = none

/-- what the outcome of `Apply` says about the places -/
def Honest (lib : Library D) (r : Except Failure Result) (w : World D) : Prop :=
  Safe lib w ∧ (∀ result, r = .ok result → New w) ∧
    ∀ e, r = .error e → e.safelyRolledBack = true → Old w

abbrev Honestly (lib : Library D) (p : Final) (w : World D) : Prop :=
  Runs lib (Safe lib) p (Honest lib) w

variable {es : List Fault}

theorem honest_fails (h : Safe lib w) : Honest lib (.error ⟨false, es⟩) w := by
  refine ⟨h, nofun, fun e he hback => ?_⟩
  obtain rfl := Except.error.inj he
  cases hback

theorem honest_rolledBack (h : Safe lib w) (hold : Old w) : Honest lib (.error ⟨true, es⟩) w :=
  ⟨h, nofun, fun _ _ _ => hold⟩

variable {restoreID : String}

theorem awp_removeJournal (hC : C w) : Runs lib C (removeJournal restoreID)
      (fun r v => (v = w ∧ r ≠ .ok ()) ∨ v = { w with journal := none }) w := by
  unfold removeJournal
  split
  · refine awp_lift (fun _ => rfl) hC (.inr rfl) (fun _ => .inl ⟨rfl, fun h => (by cases h)⟩) ?_
    exact fun _ => .inr rfl
  · exact .inl ⟨rfl, fun h => by cases h⟩

variable {cause : List Fault}

theorem awp_finalizeRolledBack {code : String} (hj : w.journal = some j)
    (hstate : j.state = .rolledBack) (hw : Old w) :
    Honestly lib (finalizeRolledBack restoreID code cause) w := by
  have hsafe : Safe lib w := safe_rolledBack hj hstate hw
  unfold finalizeRolledBack
  split
  · refine awp_attempt
      (awp_alike (markApplyFailure_records restoreID code) fun v hv => hv.safe hsafe) ?_ ?_
    · exact fun es v hv => honest_rolledBack (hv.safe hsafe) (hv.old hw)
    rintro ⟨⟩ v hv
    refine awp_seq (awp_removeJournal (hv.safe hsafe)) ?_
    rintro r x (⟨rfl, -⟩ | rfl)
    · exact honest_rolledBack (hv.safe hsafe) (hv.old hw)
    · exact honest_rolledBack (safe_of_none rfl) (hv.old hw)
  · exact honest_fails hsafe

theorem awp_writeJournal (hC : C w) : Runs lib C (writeJournal j true)
      (fun r v => (r ≠ .ok () ∧ v = w) ∨
        ((r = .ok () ∨ j.state ≠ .committed) ∧ v = { w with journal := some j })) w := by
  unfold writeJournal
  split
  · exact .inl ⟨nofun, rfl⟩
  refine awp_lift (fun _ => rfl) hC ?_ ?_ ?_
  · exact .inr ⟨.inl rfl, rfl⟩
  · exact fun _ => .inl ⟨nofun, rfl⟩
  · exact fun hlate => .inr ⟨.inr fun hcommitted => hlate hcommitted rfl, rfl⟩

theorem awp_recordRollback {message : List Fault → List Fault} (hw : Midway lib w) (hold : Old w)
    (hstate : j.state = .rolledBack) :
    Honestly lib ((writeJournal j true).attempt (fun es => fails (message es))
      fun _ => finalizeRolledBack restoreID j.rollbackErrorCode cause) w := by
  refine awp_attempt (awp_writeJournal hw.safe) ?_ ?_
  · rintro es v (⟨-, rfl⟩ | ⟨-, rfl⟩)
    · exact honest_fails hw.safe
    · exact honest_fails (safe_rolledBack rfl hstate hold)
  rintro ⟨⟩ v (⟨hr, -⟩ | ⟨-, rfl⟩)
  · exact (hr rfl).elim
  · exact awp_finalizeRolledBack rfl hstate hold

theorem awp_afterRollback {message : List Fault → List Fault} {k : Final} (hw : Midway lib w)
    (hitems : items = swapItems w.book) (hk : ∀ v, Midway lib v → Old v → Honestly lib k v) :
    Honestly lib ((rollbackItems items).bind fun failures =>
      if failures ≠ [] then fails (message failures) else k) w := by
  refine awp_seq (awp_rollbackItems hw hitems) ?_
  rintro failures v ⟨hv, -, hold⟩
  split
  · exact honest_fails hv.safe
  · next hnil => exact hk v hv (hold (not_not.mp hnil))

theorem awp_rollbackFailure (hw : Midway lib w) (hitems : j.items = swapItems w.book) :
    Honestly lib (rollbackFailure restoreID j cause) w :=
  awp_afterRollback hw hitems fun _ hv hold => awp_recordRollback hv hold rfl

variable {o : Operation}

theorem awp_rollbackInterrupted (hw : Midway lib w) (hitems : j.items = swapItems w.book) :
    Honestly lib (rollbackInterrupted o j) w :=
  awp_afterRollback hw hitems fun _ hv hold => awp_recordRollback hv hold rfl

/-! ## activating -/

/-- the place is as it was when the journal was first written -/
structure Ready (b : Book D) (i : Item) (p : Place D) : Prop where
  destination : p.destination = b.original i
  rollback : p.rollback = none
  candidate : i.install = true → p.candidate = b.verified i

theorem Ready.restorable {b : Book D} (h : Ready b i p) :
    Restorable (b.original i) i.install p := restorable_original h.destination h.rollback

def Activation (w : World D) (i : Item) (r : Except (List Fault) Unit) (v : World D) : Prop :=
  ∃ q, v = w.setPlace i q ∧ Restorable (w.book.original i) i.install q ∧
    (r = .ok () → q.destination = w.book.verified i)

theorem activation_error (hp : Restorable (w.book.original i) i.install p) :
    Activation w i (.error es) (w.setPlace i p) := ⟨p, rfl, hp, nofun⟩

theorem awp_activateCandidate (hw : Midway lib w) (hd : p.destination = none)
    (hr : p.rollback = w.book.original i)
    (hc : i.install = true → p.candidate = w.book.verified i) :
    Runs lib (Safe lib) (activateCandidate i) (Activation w i) (w.setPlace i p) := by
  -- with the rollback copy as it is, nothing that is done here can go wrong
  have hany : ∀ d c, (w.book.original i = none → c ≠ none → d = none) →
      Restorable (w.book.original i) i.install ⟨d, c, p.rollback⟩ := by
    intro d c hdc
    by_cases hnone : w.book.original i = none
    · exact .inr ⟨hr.trans hnone, fun hne => (hne hnone).elim, fun _ _ hc => hdc hnone hc⟩
    · exact .inl ⟨hnone, hr⟩
  have hp : Restorable (w.book.original i) i.install p := hany p.destination p.candidate fun _ _ => hd
  unfold activateCandidate
  split
  · next hinstall =>
    cases hcandidate : p.candidate with
    | none =>
      have hrename : (w.setPlace i p).rename lib i .candidate .destination =
          (.error .system, w.setPlace i p) := by
        have hget : p.get .candidate = none := hcandidate
        simp [World.rename, hget]
      refine awp_attempt (R := fun r v => r ≠ .ok () ∧ v = w.setPlace i p) ?_ ?_ ?_
      · refine awp_lift (fun _ => rfl) (hw.setPlace hp).safe ?_ ?_ ?_
        · rw [hrename]
          exact ⟨fun h => (by cases h), rfl⟩
        · exact fun _ => ⟨fun h => (by cases h), rfl⟩
        · rw [hrename]
          exact fun _ => ⟨fun h => (by cases h), rfl⟩
      · rintro es v ⟨-, rfl⟩
        exact activation_error hp
      · rintro ⟨⟩ v ⟨hne, -⟩
        exact (hne rfl).elim
    | some t =>
    have hmoved : Restorable (w.book.original i) i.install
        ((p.set .candidate none).set .destination (some t)) :=
      hany (some t) none fun _ hne => (hne rfl).elim
    refine awp_attempt (awp_rename hcandidate hd (hw.setPlace hp).safe) ?_ ?_
    · rintro es v (⟨-, rfl⟩ | ⟨-, rfl⟩)
      · exact activation_error hp
      · exact activation_error hmoved
    rintro ⟨⟩ v (⟨hr, -⟩ | ⟨-, rfl⟩)
    · cases hr
    refine awp_post ?_ (awp_sync (hw.setPlace hmoved).safe)
    rintro r v rfl
    exact ⟨_, rfl, hmoved, fun _ => hcandidate.symm.trans (hc hinstall)⟩
  · next hremove =>
    refine ⟨p, rfl, hp, fun _ => ?_⟩
    rw [hd, hw.sane.bare i (by simpa using hremove)]

/-- **One item is activated**, or an error is reported and it can be rolled back. -/
theorem awp_activateItem (hw : Midway lib w)
    (hit : it.originalExists = (w.book.original it.item).isSome)
    (hready : Ready w.book it.item (w.files it.item)) :
    Runs lib (Safe lib) (activateItem it) (Activation w it.item) w := by
  have hp := hready.restorable
  have hhere : ∀ es, Activation w it.item (.error es) w := by
    intro es
    have herror : Activation w it.item (.error es) (w.setPlace it.item (w.files it.item)) :=
      activation_error hp
    rwa [setPlace_files] at herror
  refine awp_step hw.safe fun f _ a v hav => ?_
  cases f with
  | fail | late => cases hav; exact hhere _
  | ok =>
  obtain ⟨rfl, rfl⟩ := Prod.mk.inj hav
  have hget : w.get it.item .rollback = none := hready.rollback
  rw [hget]
  cases horiginal : w.book.original it.item with
  | none =>
    rw [hit, horiginal]
    have hcandidate := awp_activateCandidate hw (hready.destination.trans horiginal)
      (hready.rollback.trans horiginal.symm) hready.candidate
    rw [setPlace_files] at hcandidate
    exact hcandidate
  | some t =>
  have hd : (w.files it.item).destination = some t := hready.destination.trans horiginal
  rw [hit, horiginal]
  refine awp_step hw.safe fun f _ a v hav => ?_
  cases f with
  | fail | late => cases hav; exact hhere _
  | ok =>
  obtain ⟨rfl, rfl⟩ := Prod.mk.inj hav
  have hget : w.get it.item .destination = some t := hd
  rw [hget]
  have hmoved : Restorable (w.book.original it.item) it.item.install
      (((w.files it.item).set .destination none).set .rollback (some t)) :=
    .inl ⟨by rw [horiginal]; simp, horiginal.symm⟩
  have hstart : Safe lib (w.setPlace it.item (w.files it.item)) := by
    rw [setPlace_files]
    exact hw.safe
  rw [← setPlace_files w it.item]
  refine awp_attempt (awp_rename hd hready.rollback hstart) ?_ ?_
  · rintro es v (⟨-, rfl⟩ | ⟨-, rfl⟩)
    · rw [setPlace_files]
      exact hhere es
    · rw [setPlace_files]
      exact activation_error hmoved
  rintro ⟨⟩ v (⟨hr, -⟩ | ⟨-, rfl⟩)
  · cases hr
  rw [setPlace_files]
  refine awp_attempt (awp_sync (hw.setPlace hmoved).safe) ?_ ?_
  · rintro es v rfl
    exact activation_error hmoved
  · rintro ⟨⟩ v rfl
    exact awp_activateCandidate hw rfl horiginal.symm hready.candidate

theorem Midway.setJournal (h : Midway lib w) (hstate : j.state = .prepared ∨ j.state = .applying)
    (hitems : j.items = swapItems w.book) : Midway lib { w with journal := some j } :=
  ⟨⟨j, rfl, hstate, hitems⟩, h.sane, h.restorable⟩

theorem awp_noteProgress {k : Final}
    (hw : Midway lib w) (hstate : j.state = .applying) (hitems : j.items = swapItems w.book)
    (hk : Midway lib { w with journal := some j } →
      Honestly lib k { w with journal := some j }) :
    Honestly lib
      ((writeJournal j true).attempt (rollbackFailure restoreID j) fun _ => k) w := by
  have hnext : Midway lib { w with journal := some j } := hw.setJournal (.inr hstate) hitems
  refine awp_attempt (awp_writeJournal hw.safe) ?_ ?_
  · rintro es v (⟨-, rfl⟩ | ⟨-, rfl⟩)
    · exact awp_rollbackFailure hw hitems
    · exact awp_rollbackFailure hnext hitems
  rintro ⟨⟩ v (⟨hr, -⟩ | ⟨-, rfl⟩)
  · exact (hr rfl).elim
  · exact hk hnext

theorem awp_activateEach {k : Journal → Final} (hw : Midway lib w) (hstate : j.state = .applying)
    (hitems : j.items = swapItems w.book)
    (hlisted : ∀ it ∈ items, it.originalExists = (w.book.original it.item).isSome)
    (hready : ∀ it ∈ items, Ready w.book it.item (w.files it.item))
    (hnodup : (items.map SwapItem.item).Nodup)
    (hdone : ∀ i, i ∉ items.map SwapItem.item → (w.files i).destination = w.book.verified i)
    (hk : ∀ v j', Midway lib v → Installed v → j'.state = .applying → j'.items = swapItems v.book →
      Honestly lib (k j') v) : Honestly lib (activateEach restoreID j items k) w := by
  induction items generalizing w j with
  | nil => exact hk w j hw (fun i => hdone i (by simp)) hstate hitems
  | cons it rest ih =>
    have hlist := hlisted it (by simp)
    refine awp_attempt (awp_activateItem hw hlist (hready it (by simp))) ?_ ?_
    · rintro es v ⟨q, rfl, hq, -⟩
      exact awp_rollbackFailure (hw.setPlace hq) hitems
    rintro ⟨⟩ v ⟨q, rfl, hq, hdest⟩
    rw [map_cons, nodup_cons] at hnodup
    refine awp_noteProgress (hw.setPlace hq) hstate hitems fun hnext => ?_
    refine ih hnext hstate hitems ?_ ?_ hnodup.2 ?_
    · exact fun it' hit' => hlisted it' (by simp [hit'])
    · intro it' hit'
      have hne : it'.item ≠ it.item := by
        intro heq
        exact hnodup.1 (heq ▸ mem_map_of_mem hit')
      rw [setPlace_files_ne w q hne]
      exact hready it' (by simp [hit'])
    intro i hi
    by_cases heq : i = it.item
    · rw [heq, setPlace_files_self]
      exact hdest rfl
    · rw [setPlace_files_ne w q heq]
      exact hdone i (by simp [heq, hi])

/-! ## committing -/

theorem Activated.congr {version : Int} (h : Activated lib version w)
    (hd : ∀ i, i ≠ .databaseWAL → i ≠ .databaseSHM → v.get i .destination = w.get i .destination) :
    Activated lib version v := by
  refine ⟨?_, ?_, h.sidecar, ?_⟩
  · rw [hd .config (by decide) (by decide)]
    exact h.config
  · rw [hd .database (by decide) (by decide)]
    exact h.database
  · rw [hd .mihomoActive (by decide) (by decide)]
    exact h.active

theorem Settled.congr {version : Int} (h : Settled lib version w) (hbook : v.book = w.book)
    (hd : ∀ i, i ≠ .databaseWAL → i ≠ .databaseSHM →
      (v.files i).destination = (w.files i).destination) : Settled lib version v := by
  refine ⟨hbook ▸ h.sane, fun i hwal hshm => ?_, h.activated.congr hd⟩
  rw [hd i hwal hshm, hbook]
  exact h.installed i hwal hshm

theorem awp_removeCopies (items : List SwapItem) (hC : ∀ v, Cleared w v → C v) (hv : Cleared w v) :
    Runs lib C (removeCopies items)
      (fun r x => Cleared v x ∧ (r = .ok () → ∀ it ∈ items, (x.files it.item).rollback = none))
      v := by
  induction items generalizing v with
  | nil => exact ⟨Cleared.refl v, nofun⟩
  | cons it rest ih =>
    refine awp_attempt (awp_removeCopy true (by decide) hC hv) ?_ ?_
    · rintro es x ⟨hx, -⟩
      exact ⟨hx, nofun⟩
    rintro ⟨⟩ x ⟨hx, hgone⟩
    refine awp_attempt (awp_removeCopy it.item.install (by decide) hC (hv.trans hx)) ?_ ?_
    · rintro es y ⟨hy, -⟩
      exact ⟨hx.trans hy, nofun⟩
    rintro ⟨⟩ y ⟨hy, -⟩
    refine awp_post ?_ (ih ((hv.trans hx).trans hy))
    rintro r z ⟨hz, hrest⟩
    refine ⟨(hx.trans hy).trans hz, fun hr it' hit' => ?_⟩
    rcases mem_cons.mp hit' with rfl | hit'
    · exact (hy.trans hz).rollback it'.item (hgone rfl rfl)
    · exact hrest hr it' hit'

theorem awp_finalizeCommitted {result : Result} (hj : w.journal = some j)
    (hstate : j.state = .committed) (hw : Settled lib j.result.schemaVersion w) (hnew : Installed w)
    (hitems : items.map SwapItem.item = restoreItems) :
    Honestly lib (finalizeCommitted items result) w := by
  have hsafe : ∀ v, Cleared w v → Safe lib v := fun v hv =>
    safe_committed (hv.journal.trans hj) hstate
      (hw.congr hv.book fun i _ _ => hv.destination i)
  have hinstalled : ∀ v, Cleared w v → Installed v := by
    intro v hv i
    rw [hv.destination i, hv.book]
    exact hnew i
  refine awp_attempt (awp_removeCopies items hsafe (Cleared.refl w)) ?_ ?_
  · rintro es v ⟨hv, -⟩
    exact honest_fails (hsafe v hv)
  rintro ⟨⟩ v ⟨hv, hgone⟩
  refine awp_attempt (awp_alike (complete_records _ _) fun x hx => hx.safe (hsafe v hv)) ?_ ?_
  · exact fun es x hx => honest_fails (hx.safe (hsafe v hv))
  rintro ⟨⟩ x hx
  refine awp_attempt (awp_removeJournal (hx.safe (hsafe v hv))) ?_ ?_
  · rintro es y (⟨rfl, -⟩ | rfl)
    · exact honest_fails (hx.safe (hsafe v hv))
    · exact honest_fails (safe_of_none rfl)
  rintro ⟨⟩ y (⟨-, hne⟩ | rfl)
  · exact (hne rfl).elim
  refine ⟨safe_of_none rfl, fun _ _ => ⟨fun i => ?_, fun i => ?_⟩, nofun⟩
  · show (x.files i).destination = x.book.verified i
    rw [hx.files, hx.book]
    exact hinstalled v hv i
  have hmem : i ∈ items.map SwapItem.item := by
    rw [hitems]
    exact mem_restoreItems i
  obtain ⟨it, hit, rfl⟩ := mem_map.mp hmem
  rw [hx.files]
  exact hgone rfl it hit

/-- a place that is only taken away can be brought back whatever appears there -/
theorem restorable_reappears {original : Option (Tree D)} (h : Restorable original false p)
    (hd : p.destination = none) (t : Option (Tree D)) :
    Restorable original false (p.set .destination t) := by
  rcases h with ⟨hne, hr⟩ | ⟨hr, hpresent, -⟩
  · exact .inl ⟨hne, hr⟩
  · refine .inr ⟨hr, fun hne => (hne ?_).elim, nofun⟩
    rw [← hpresent hne, hd]

theorem Installed.bare (hnew : Installed w) (hsane : Sane lib w.book) (hi : i.install = false) :
    (w.files i).destination = none := by
  rw [hnew, hsane.bare _ hi]

theorem Midway.shade (h : Midway lib w) (hnew : Installed w) (a b : Option (Tree D)) :
    Midway lib (w.shade a b) := by
  have hfirst : Midway lib (w.put .databaseWAL .destination a) :=
    h.setPlace (restorable_reappears (h.restorable .databaseWAL) (hnew.bare h.sane rfl) a)
  have hsame : (w.put .databaseWAL .destination a).files .databaseSHM = w.files .databaseSHM :=
    setPlace_files_ne _ _ (by decide)
  refine hfirst.setPlace (restorable_reappears (hfirst.restorable .databaseSHM) ?_ b)
  rw [hsame]
  exact hnew.bare h.sane rfl

theorem Installed.shade (hnew : Installed w) (hsane : Sane lib w.book) : w.shade none none = w := by
  have hwal : w.get .databaseWAL .destination = none := hnew.bare hsane rfl
  have hshm : w.get .databaseSHM .destination = none := hnew.bare hsane rfl
  conv_rhs => rw [shade_self w, hwal, hshm]

theorem awp_commit (hw : Midway lib w) (hnew : Installed w) (hitems : j.items = swapItems w.book) :
    Honestly lib (commit restoreID j) w := by
  have hshade : ∀ a b, Safe lib (w.shade a b) := fun a b => (hw.shade hnew a b).safe
  refine awp_attempt (awp_checks _ hshade ⟨_, _, shade_self w⟩) ?_ ?_
  · rintro es v ⟨⟨a, b, rfl⟩, -⟩
    exact awp_rollbackFailure (hw.shade hnew a b) hitems
  rintro ⟨⟩ v ⟨-, hpasses⟩
  obtain ⟨hactivated, rfl⟩ := passes_activationChecks.mp (hpasses rfl)
  rw [hnew.shade hw.sane]
  refine awp_step hw.safe fun f _ now v hv => ?_
  obtain ⟨rfl, rfl⟩ := Prod.mk.inj hv
  have hread : Midway lib { w with reads := w.reads + 1 } :=
    ⟨hw.journal, hw.sane, hw.restorable⟩
  refine awp_attempt (awp_writeJournal hread.safe) ?_ ?_
  · rintro es v (⟨-, rfl⟩ | ⟨hlate, -⟩)
    · exact awp_rollbackFailure hread hitems
    -- the journal was replaced and an error is reported
    rcases hlate with hr | hne
    · cases hr
    · exact (hne rfl).elim
  rintro ⟨⟩ v (⟨hr, -⟩ | ⟨-, rfl⟩)
  · exact (hr rfl).elim
  refine awp_finalizeCommitted rfl rfl ?_ hnew ?_
  · refine ⟨hw.sane, fun i _ _ => hnew i, ?_⟩
    exact hactivated.congr fun _ _ _ => rfl
  rw [hitems, swapItems_item]

theorem awp_resumeCommitted (hj : w.journal = some j) (hstate : j.state = .committed)
    (hw : Settled lib j.result.schemaVersion w)
    (hitems : j.items.map SwapItem.item = restoreItems) : Honestly lib
      ((verifyActivated j.result).attempt (rollbackFailure restoreID j) fun _ =>
        finalizeCommitted j.items j.result) w := by
  have hsettled : ∀ a b, Settled lib j.result.schemaVersion (w.shade a b) := by
    intro a b
    refine hw.congr rfl fun i hwal hshm => ?_
    exact get_shade w a b .destination hwal hshm
  have hsafe : ∀ a b, Safe lib (w.shade a b) := fun a b => safe_committed hj hstate (hsettled a b)
  have hcommitted : w.committed = true := by
    rw [World.committed, hj]
    simpa using hstate
  have hpasses := passes_activationChecks.mpr ⟨hw.activated, rfl⟩
  refine awp_attempt
    (awp_checks_reliable _ hcommitted hsafe ⟨_, _, shade_self w⟩ hpasses) ?_ ?_
  · rintro es v ⟨hr, -⟩
    cases hr
  rintro ⟨⟩ v ⟨-, rfl⟩
  refine awp_finalizeCommitted hj hstate (hsettled none none) ?_ hitems
  intro i
  by_cases hwal : i = .databaseWAL
  · subst hwal
    show (w.shade none none).get .databaseWAL .destination = w.book.verified .databaseWAL
    rw [shade_wal, hw.sane.bare _ rfl]
  by_cases hshm : i = .databaseSHM
  · subst hshm
    show (w.shade none none).get .databaseSHM .destination = w.book.verified .databaseSHM
    rw [shade_shm, hw.sane.bare _ rfl]
  · exact (hsettled none none).installed i hwal hshm

/-! ## a fresh run -/

theorem awp_abandon {code : String} {cleanup : Bool} (hw : ∀ v, Cleared w v → Safe lib v) :
    Honestly lib (abandon restoreID code cleanup es) w := by
  have hclean : Runs lib (Safe lib)
      (if cleanup then cleanupCandidates restoreItems else .done [])
      (fun _ v => Cleared w v) w := by
    cases cleanup with
    | true =>
      exact awp_post (fun _ _ h => h.1)
        (awp_cleanupCandidates restoreItems hw (Cleared.refl w))
    | false => exact Cleared.refl w
  refine awp_seq hclean fun _ v hv => ?_
  refine awp_seq (awp_alike (markApplyFailure_records _ _) fun x hx => hx.safe (hw v hv)) ?_
  exact fun _ x hx => honest_fails (hx.safe (hw v hv))

/-- the candidates are made and nothing else is changed -/
structure Prepared (lib : Library D) (items : List SwapItem) (w : World D) : Prop where
  items : items = restoreItems.map fun i => ⟨i, (w.files i).destination.isSome⟩
  typed : ∀ i t, (w.files i).destination = some t → lib.type t.data ≠ .other
  rollback : ∀ i, (w.files i).rollback = none

theorem awp_prepareCandidates {pre : Nat} (hw : w.journal = none) :
    Runs lib (Safe lib) (prepareCandidates pre)
      (fun r v => v.journal = none ∧ ∀ items x, r = .ok (items, x) → Prepared lib items v) w := by
  have hclear : ∀ v, Cleared w v → Safe lib v := fun v hv => safe_of_none (hv.journal.trans hw)
  refine awp_seq (awp_cleanupCandidates restoreItems hclear (Cleared.refl w)) ?_
  rintro es v ⟨hv, hgone⟩
  have hnone : v.journal = none := hv.journal.trans hw
  split
  · exact ⟨hnone, nofun⟩
  next hnil =>
  have hrollback : ∀ i, (v.files i).rollback = none := fun i =>
    hgone (not_not.mp hnil) i (mem_restoreItems i)
  refine awp_attempt (awp_checkDestinations restoreItems (safe_of_none hnone)) ?_ ?_
  · rintro es x ⟨rfl, -⟩
    exact ⟨hnone, nofun⟩
  rintro items x ⟨rfl, hitems⟩
  obtain ⟨rfl, htyped⟩ := hitems items rfl
  have hmake : Runs lib (Safe lib) (makeCandidates pre)
      (fun _ y => Filled x y) x := by
    refine awp_mono (fun y hy => safe_of_none (hy.journal.trans hnone)) (fun _ _ h => h)
      (awp_frame (fun o f y ho _ h => filled_exec o f ho h) (makeCandidates_fills pre) ?_)
    exact ⟨rfl, fun _ => rfl, fun _ => rfl⟩
  refine awp_attempt hmake ?_ ?_
  · exact fun es y hy => ⟨hy.journal.trans hnone, nofun⟩
  rintro r y hy
  refine ⟨hy.journal.trans hnone, fun items z h => ?_⟩
  obtain ⟨rfl, -⟩ := Prod.mk.inj (Except.ok.inj h)
  refine ⟨?_, fun i t ht => ?_, fun i => ?_⟩
  · refine map_congr_left fun i _ => ?_
    rw [hy.destination i]
  · exact htyped i (mem_restoreItems i) t (by rw [← hy.destination i]; exact ht)
  · rw [hy.rollback i]
    exact hrollback i

/-- the state right after the journal was first written -/
structure Begun (lib : Library D) (w : World D) : Prop where
  midway : Midway lib w
  ready : ∀ i, Ready w.book i (w.files i)

theorem Prepared.begun (h : Prepared lib items w) (hstate : j.state = .prepared)
    (hitems : j.items = items) : Begun lib { w with journal := some j, book := w.opened } := by
  have hready : ∀ i, Ready w.opened i (w.files i) := by
    intro i
    refine ⟨rfl, h.rollback i, fun hinstall => ?_⟩
    show (w.files i).candidate = if i.install then (w.files i).candidate else none
    rw [if_pos hinstall]
  refine ⟨⟨⟨j, rfl, .inl hstate, hitems.trans h.items⟩, ⟨h.typed, fun i hi => ?_⟩, fun i => ?_⟩,
    hready⟩
  · show (if i.install then (w.files i).candidate else none) = none
    rw [hi]
    rfl
  · exact (hready i).restorable

theorem Begun.cleared (h : Begun lib w) (hv : Cleared w v) : Midway lib v := by
  refine ⟨?_, hv.book ▸ h.midway.sane, fun i => ?_⟩
  · rw [hv.journal, hv.book]
    exact h.midway.journal
  refine restorable_original ?_ (hv.rollback i (h.ready i).rollback)
  rw [hv.destination i, hv.book]
  exact (h.ready i).destination

theorem awp_startApplying (hw : Begun lib w) (hstate : j.state = .applying)
    (hitems : j.items = swapItems w.book) : Honestly lib (startApplying restoreID j) w := by
  refine awp_noteProgress hw.midway hstate hitems fun hnext => ?_
  rw [hitems]
  refine awp_activateEach hnext hstate hitems ?_ (fun it _ => hw.ready it.item) ?_ ?_ ?_
  · exact fun it hit => swapItems_listed hit
  · rw [swapItems_item]
    decide
  · intro i hi
    rw [swapItems_item] at hi
    exact (hi (mem_restoreItems i)).elim
  · exact fun v j' hv hnew _ hitems' => awp_commit hv hnew hitems'

theorem createSnapshot_journal (w : World D) : (w.createSnapshot lib).2.journal = w.journal := by
  unfold World.createSnapshot
  split <;> rfl

theorem awp_applyFresh (hw : w.journal = none) : Honestly lib (applyFresh o) w := by
  have hclear : ∀ v : World D, v.journal = none → ∀ x, Cleared v x → Safe lib x :=
    fun v hv x hx => safe_of_none (hx.journal.trans hv)
  refine awp_step (safe_of_none hw) fun f _ a v hav => ?_
  have hv : v.journal = none := by
    have hsnap : (w.createSnapshot lib).2.journal = none := (createSnapshot_journal w).trans hw
    have hstate : (exec lib .createSnapshot f w).2.journal = none :=
      Fate.deliver_keeps (I := fun v : World D => v.journal = none) hw hsnap
    rw [hav] at hstate
    exact hstate
  cases a with
  | error e => exact awp_abandon (hclear v hv)
  | ok pre =>
  refine awp_attempt (awp_prepareCandidates hv) ?_ ?_
  · exact fun es x hx => awp_abandon (hclear x hx.1)
  rintro ⟨items, version, revoked⟩ x ⟨hx, hprepared⟩
  have hprepared := hprepared items (version, revoked) rfl
  set j := newJournal o items ⟨o.restoreID, o.snapshotID, pre, version, revoked, none, true⟩
  have hbegun : Begun lib { x with journal := some j, book := x.opened } :=
    hprepared.begun rfl rfl
  have hwrite : x.writeJournal j false =
      (.ok (), { x with journal := some j, book := x.opened }) := by
    simp [World.writeJournal, hx]
  refine awp_attempt (R := fun r y => (r ≠ .ok () ∧ y = x) ∨
    y = { x with journal := some j, book := x.opened }) ?_ ?_ ?_
  · unfold writeJournal
    split
    · exact .inl ⟨nofun, rfl⟩
    refine awp_lift (fun _ => rfl) (safe_of_none hx) ?_ ?_ ?_
    · rw [hwrite]
      exact .inr rfl
    · exact fun _ => .inl ⟨nofun, rfl⟩
    · rw [hwrite]
      exact fun _ => .inr rfl
  · rintro es y (⟨-, rfl⟩ | rfl)
    · exact awp_abandon (hclear y hx)
    · exact awp_abandon fun y hy => (hbegun.cleared hy).safe
  · rintro ⟨⟩ y (⟨hne, -⟩ | rfl)
    · exact (hne rfl).elim
    · exact awp_startApplying hbegun rfl hprepared.items

/-! ## all runs -/

theorem awp_resumeWith (hj : w.journal = some j) (hw : Safe lib w)
    (hitems : j.items.map SwapItem.item = restoreItems) : Honestly lib (resumeWith o j) w := by
  have hstate := hw
  unfold Safe at hstate
  rw [hj] at hstate
  dsimp only at hstate
  have hmidway : Midway lib w → Honestly lib
      (if j.foreign o then
        fails [.text "interrupted restore journal belongs to a different apply authorization"]
      else rollbackInterrupted o j) w := by
    intro hmid
    split
    · exact honest_fails hw
    obtain ⟨j', hj', -, hitems'⟩ := hmid.journal
    obtain rfl := Option.some.inj (hj.symm.trans hj')
    exact awp_rollbackInterrupted hmid hitems'
  unfold resumeWith
  cases hcase : j.state with
  | prepared =>
    rw [hcase] at hstate
    exact hmidway hstate
  | applying =>
    rw [hcase] at hstate
    exact hmidway hstate
  | committed =>
    rw [hcase] at hstate
    dsimp only
    split
    · exact honest_fails hw
    · exact awp_resumeCommitted hj hcase hstate hitems
  | rolledBack =>
  rw [hcase] at hstate
  dsimp only
  split
  · refine awp_attempt (awp_removeJournal hw) ?_ ?_
    · rintro es v (⟨rfl, -⟩ | rfl)
      · exact honest_fails hw
      · exact honest_fails (safe_of_none rfl)
    rintro ⟨⟩ v (⟨-, hne⟩ | rfl)
    · exact (hne rfl).elim
    · exact awp_applyFresh rfl
  · exact awp_finalizeRolledBack hj hcase hstate

theorem validateApplyJournal_items {expected : List Item}
    (h : validateApplyJournal j restoreID expected = none) :
    j.items.map SwapItem.item = expected := by
  unfold validateApplyJournal at h
  split at h
  · cases h
  split at h
  · cases h
  · next hsame => exact not_not.mp hsame

/-- **One run of `Apply`**, finished or cut off. -/
theorem awp_apply (hw : Safe lib w) : Honestly lib apply w := by
  refine awp_attempt (awp_alike (lift_all trivial) fun v hv => hv.safe hw) ?_ ?_
  · exact fun es v hv => honest_fails (hv.safe hw)
  rintro ⟨⟩ v hv
  replace hw := hv.safe hw
  refine awp_attempt (awp_alike verifyPending_records fun x hx => hx.safe hw) ?_ ?_
  · exact fun es x hx => honest_fails (hx.safe hw)
  rintro o x hx
  replace hw := hx.safe hw
  refine awp_step hw fun f _ a y hay => ?_
  cases f with
  | fail | late => cases hay; exact honest_fails hw
  | ok =>
  obtain ⟨rfl, rfl⟩ := Prod.mk.inj hay
  cases hj : x.journal with
  | none => exact awp_applyFresh hj
  | some j =>
  refine awp_step hw fun f _ a y hay => ?_
  cases f with
  | fail | late => cases hay; exact honest_fails hw
  | ok =>
  obtain ⟨rfl, rfl⟩ := Prod.mk.inj hay
  rw [hj]
  dsimp only [Option.elim]
  split
  · exact honest_fails hw
  · next hvalid => exact awp_resumeWith hj hw (validateApplyJournal_items hvalid)

/-- what happens to one restore operation: a run of `Apply`, or an operator authorizes it again -/
inductive Move where
  | apply (fates : List Fate)
  | authorize (restoreID authorization : String) (fates : List Fate)

def step (lib : Library D) (w : World D) : Move → World D
  | .apply fates => (run (exec lib) apply fates w).state
  | .authorize restoreID authorization fates =>
    (run (exec lib) (authorizeApply restoreID authorization) fates w).state

/-- the calls of the run that may not fail do not fail -/
def Move.Reliable (lib : Library D) (w : World D) : Move → Prop
  | .apply fates => Admissible (exec lib) Restore.Reliable Restore.apply fates w
  | .authorize _ _ _ => True

theorem step_safe {m : Move} (hw : Safe lib w) (hm : m.Reliable lib w) :
    Safe lib (step lib w m) := by
  cases m with
  | apply fates =>
    obtain ⟨hdone, hcut⟩ := awp_sound (awp_apply hw) hm
    cases hr : (run (exec lib) apply fates w).result with
    | none => exact hcut hr
    | some r => exact (hdone r hr).1
  | authorize restoreID authorization fates =>
  have hall := authorizeApply_records restoreID authorization
  have hadm : Admissible (exec lib) Restore.Reliable (authorizeApply restoreID authorization)
      fates w := by
    refine admissible_of_all (fun o f v ho => ?_) hall fates w
    cases o <;> first | exact ho.elim | trivial
  obtain ⟨hdone, hcut⟩ := awp_sound (awp_alike hall fun v hv => hv.safe hw) hadm
  cases hr : (run (exec lib) (authorizeApply restoreID authorization) fates w).result with
  | none => exact hcut hr
  | some r => exact (hdone r hr).safe hw

/-- **A restore takes place as a whole or not at all.**  In every sequence of runs in which the
calls that may not fail do not: a run that ends with a result leaves all ten places new and no
rollback copy, and one that reports a safe rollback leaves all ten old. -/
theorem restore_atomic (lib : Library D) (w : World D) (hw : w.journal = none) (moves : List Move)
    (fates : List Fate)
    (hmoves : Throughout (step lib) (fun v m => m.Reliable lib v) w (moves ++ [.apply fates])) :
    (∀ result, (run (exec lib) apply fates (moves.foldl (step lib) w)).result = some (.ok result) →
      New (run (exec lib) apply fates (moves.foldl (step lib) w)).state) ∧
    (∀ e, (run (exec lib) apply fates (moves.foldl (step lib) w)).result = some (.error e) →
      e.safelyRolledBack = true →
        Old (run (exec lib) apply fates (moves.foldl (step lib) w)).state) := by
  obtain ⟨hbefore, hlast, -⟩ := Throughout.append.mp hmoves
  have hsafe : Safe lib (moves.foldl (step lib) w) :=
    Throughout.invariant (I := Safe lib) (fun v m hv hm => step_safe hv hm) (safe_of_none hw) hbefore
  obtain ⟨hdone, -⟩ := awp_sound (awp_apply hsafe) hlast
  exact ⟨fun result hr => (hdone _ hr).2.1 result rfl, fun e hr => (hdone _ hr).2.2 e rfl⟩

/-! ## a restore of fixed contents -/

def sampleType (i : Item) : FileType :=
  match i.kind with
  | .file => .regular
  | .remove => .regular
  | .directory => .directory
  | .active => .symlink

/-- a content is an item with a number: 0 is the live one, 1 the staged one and 2 a prepared
database -/
def sampleLibrary : Library (Item × Nat) where
  type d := sampleType d.1
  entries _ := 0
  safe _ := true
  source i := (i, 1)
  validConfig _ := true
  prepare _ _ _ := some ((.database, 2), 7, 0)
  failClosed d := d.2 = 2
  schemaVersion _ := 7
  announce d := d
  sidecar := (.databaseWAL, 0)

def sampleOperation : Operation :=
  ⟨"restore-00000000000000000000000000000000", "snapshot", .applyRequested,
    "0000000000000000000000000000000000000000000000000000000000000000", "", none⟩

def sampleWorld : World (Item × Nat) where
  files i := ⟨if i.install then some ⟨(i, 0), 0⟩ else none, none, none⟩
  journal := none
  marker := some sampleOperation
  record := some sampleOperation
  lastRestore := none
  snapshots := 0
  clock _ := 0
  reads := 0
  book := ⟨fun _ => none, fun _ => none⟩

/-- the directory cannot be synced after the live configuration was set aside; all is rolled back -/
def rolledBackFates : List Fate := List.replicate 54 .ok ++ .fail :: List.replicate 56 .ok

/-- every call succeeds -/
def restoredRun : Outcome (Except Failure Result) (World (Item × Nat)) :=
  run (exec sampleLibrary) apply (List.replicate 160 .ok) sampleWorld

theorem restore_atomic_sample : New restoredRun.state ∧
    Old (run (exec sampleLibrary) apply rolledBackFates sampleWorld).state := by
  refine ⟨?_, (restore_atomic sampleLibrary sampleWorld rfl [] rolledBackFates ⟨?_, trivial⟩).2
    ⟨true, [.system]⟩ ?_ rfl⟩
  · have hends : restoredRun.result.any Except.isOk = true := by decide +kernel
    rcases hresult : restoredRun.result with _ | _ | result <;> rw [hresult] at hends
    · cases hends
    · cases hends
    refine (restore_atomic sampleLibrary sampleWorld rfl [] (List.replicate 160 .ok)
      ⟨?_, trivial⟩).1 result hresult
    show Admissible (exec sampleLibrary) Reliable apply _ _
    decide +kernel
  · show Admissible (exec sampleLibrary) Reliable apply _ _
    decide +kernel
  · decide +kernel

/-- a run that is cut off when it has removed the rollback copy of the configuration -/
def committedWorld : World (Item × Nat) :=
  step sampleLibrary sampleWorld (.apply (List.replicate 119 .ok))

/-- the next run, in which the activated configuration cannot be read -/
def unverifiedRun : Outcome (Except Failure Result) (World (Item × Nat)) :=
  run (exec sampleLibrary) apply (List.replicate 5 .ok ++ .fail :: List.replicate 100 .ok)
    committedWorld

/-- the places that still have a rollback copy are rolled back, and that is reported as a safe
rollback -/
theorem mixture_reported :
    unverifiedRun.result = some (.error ⟨true, [.system]⟩) ∧
      (unverifiedRun.state.files .config).destination =
        unverifiedRun.state.book.verified .config ∧
      (unverifiedRun.state.files .config).destination ≠
        unverifiedRun.state.book.original .config ∧
      (unverifiedRun.state.files .secrets).destination =
        unverifiedRun.state.book.original .secrets ∧
      (unverifiedRun.state.files .secrets).destination ≠
        unverifiedRun.state.book.verified .secrets := by
  decide +kernel

end GatewayVpn.Restore
