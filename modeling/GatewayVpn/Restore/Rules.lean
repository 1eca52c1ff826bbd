import GatewayVpn.Durable.Admit
import GatewayVpn.Durable.Cut
import GatewayVpn.Restore.Applier

/-!
# The procedures of a restore, one by one

Which calls may fail, and what the building blocks of `Apply` do to the places when any of the
others fails.
-/

namespace GatewayVpn.Restore

open Durable Option World

variable {D : Type} {lib : Library D}

/-! ## conditions -/

def World.committed (w : World D) : Bool := w.journal.any fun j => j.state = .committed

def Reliable (o : Op) (f : Fate) (w : World D) : Prop :=
  match o with
  | .managedExists i .rollback => f = .ok ∨ (w.files i).rollback = none
  | .writeJournal j _ => j.state = .committed → f ≠ .late
  | .check _ => w.committed = true → f = .ok
  | _ => True

instance (o : Op) (f : Fate) (w : World D) : Decidable (Reliable o f w) := by
  unfold Reliable
  split <;> infer_instance

/-! ## places -/

@[simp] theorem setPlace_files_self (w : World D) (i : Item) (p : Place D) :
    (w.setPlace i p).files i = p := Function.update_self ..

variable {i k : Item}

section
variable (w : World D)

theorem setPlace_files_ne (p : Place D) (h : k ≠ i) :
    (w.setPlace i p).files k = w.files k := Function.update_of_ne h ..

@[simp] theorem setPlace_files (i : Item) : w.setPlace i (w.files i) = w := by
  unfold setPlace
  rw [Function.update_eq_self]

@[simp] theorem setPlace_setPlace (i : Item) (p q : Place D) :
    (w.setPlace i p).setPlace i q = w.setPlace i q := by
  unfold setPlace
  rw [Function.update_idem]

@[simp] theorem get_setPlace (i : Item) (p : Place D) (s : Slot) :
    (w.setPlace i p).get i s = p.get s := by
  rw [World.get, setPlace_files_self]

@[simp] theorem put_setPlace (i : Item) (p : Place D) (s : Slot)
    (t : Option (Tree D)) : (w.setPlace i p).put i s t = w.setPlace i (p.set s t) := by
  rw [put, setPlace_files_self, setPlace_setPlace]

end

@[simp] theorem Place.get_set (p : Place D) (s : Slot) (t : Option (Tree D)) :
    (p.set s t).get s = t := by
  cases s <;> rfl

@[simp] theorem Place.set_set (p : Place D) (s : Slot) (t u : Option (Tree D)) :
    (p.set s t).set s u = p.set s u := by
  cases s <;> rfl

@[simp] theorem Place.set_get (p : Place D) (s : Slot) : p.set s (p.get s) = p := by
  cases s <;> rfl

/-- what holds of every place after one was changed -/
theorem forall_setPlace {P : Item → Place D → Prop} {w : World D} {p : Place D} (hself : P i p)
    (hother : ∀ k, k ≠ i → P k (w.files k)) (k : Item) : P k ((w.setPlace i p).files k) := by
  by_cases hk : k = i
  · subst hk
    rw [setPlace_files_self]
    exact hself
  · rw [setPlace_files_ne w p hk]
    exact hother k hk

/-! ## calls -/

abbrev Runs {α : Type} (lib : Library D) (C : World D → Prop) (p : Act α)
    (Q : α → World D → Prop) (w : World D) : Prop := awp (exec lib) Reliable C p Q w

def joined : Except Fault Unit → Except (List Fault) Unit
  | .error e => .error [e]
  | .ok () => .ok ()

variable {C : World D → Prop} {w : World D}

/-- the rule of a call that can report an error: it takes place, fails, or fails late -/
theorem awp_lift {o : Op} {h : o.Ret = Except Fault Unit} {r : Except Fault Unit × World D}
    {Q : Except (List Fault) Unit → World D → Prop}
    (hexec : ∀ f, (cast h (exec lib o f w).1, (exec lib o f w).2) = f.deliver .system r w)
    (hC : C w) (hok : Q (joined r.1) r.2) (hfail : Reliable o .fail w → Q (.error [.system]) w)
    (hlate : Reliable o .late w → Q (.error [.system]) r.2) : Runs lib C (lift o h) Q w := by
  refine awp_step hC fun f hf a v hav => ?_
  have hout : (cast h a, v) = f.deliver .system r w := by
    rw [← hexec f, hav]
  cases f with
  | ok =>
    obtain ⟨hr, rfl⟩ := Prod.mk.inj hout
    rw [← hr] at hok
    cases hcase : cast h a with
    | error e => rw [hcase] at hok; exact hok
    | ok u => rw [hcase] at hok; exact hok
  | fail =>
    obtain ⟨hr, rfl⟩ := Prod.mk.inj hout
    rw [hr]
    exact hfail hf
  | late =>
  obtain ⟨hr, rfl⟩ := Prod.mk.inj hout
  rw [hr]
  exact hlate hf

theorem awp_sync (hC : C w) : Runs lib C (lift (.syncParent i) rfl) (fun _ v => v = w) w :=
  awp_lift (fun _ => rfl) hC rfl (fun _ => rfl) fun _ => rfl

variable {p : Place D}

theorem awp_rename {source target : Slot} {t : Tree D} (hs : p.get source = some t)
    (ht : p.get target = none) (hC : C (w.setPlace i p)) :
    Runs lib C (lift (.rename i source target) rfl)
      (fun r v => (r = .error [.system] ∧ v = w.setPlace i p) ∨
        ((r = .ok () ∨ r = .error [.system]) ∧
          v = w.setPlace i ((p.set source none).set target (some t)))) (w.setPlace i p) := by
  have hmove : (w.setPlace i p).rename lib i source target =
      (.ok (), w.setPlace i ((p.set source none).set target (some t))) := by
    simp [rename, hs, ht]
  refine awp_lift (fun _ => rfl) hC ?_ (fun _ => .inl ⟨rfl, rfl⟩) fun _ => ?_
  · rw [hmove]
    exact .inr ⟨.inl rfl, rfl⟩
  · rw [hmove]
    exact .inr ⟨.inr rfl, rfl⟩

/-! ## removing -/

def sizeOf (lib : Library D) : Option (Tree D) → Nat
  | none => 0
  | some t => lib.entries t.data - t.missing + 1

theorem walk_ok {t : Tree D} {n : Nat} (h : t.walk lib = .ok n) : sizeOf lib (some t) = n := by
  unfold Tree.walk at h
  split at h
  · exact Except.ok.inj h
  · cases h

variable {s : Slot}

theorem awp_removeEntries (hC : ∀ t, C (w.setPlace i (p.set s t))) (n : Nat) (t : Option (Tree D))
    (hsize : sizeOf lib t = n) (hdir : ∀ u, t = some u → lib.type u.data = .directory) :
    Runs lib C (removeEntries i s n)
      (fun r v => ∃ u, r ≠ .error [] ∧ (r = .ok () → u = none) ∧ v = w.setPlace i (p.set s u))
      (w.setPlace i (p.set s t)) := by
  induction n generalizing t with
  | zero =>
    cases t with
    | none => exact ⟨none, nofun, fun _ => rfl, rfl⟩
    | some u => cases hsize
  | succ n ih =>
    cases t with
    | none => cases hsize
    | some u =>
    have hremove : (w.setPlace i (p.set s (some u))).removeEntry lib i s =
        (.ok (), w.setPlace i (p.set s (u.shrink lib))) := by
      simp [removeEntry]
    refine awp_attempt (R := fun r v => (r = .ok () → v = w.setPlace i (p.set s (u.shrink lib))) ∧
      r ≠ .error [] ∧ ∃ x, v = w.setPlace i (p.set s x)) ?_ ?_ ?_
    · refine awp_lift (fun _ => rfl) (hC _) ?_ ?_ ?_
      · rw [hremove]
        exact ⟨fun _ => rfl, nofun, _, rfl⟩
      · exact fun _ => ⟨nofun, nofun, _, rfl⟩
      · rw [hremove]
        exact fun _ => ⟨nofun, nofun, _, rfl⟩
    · rintro es v ⟨-, hne, x, rfl⟩
      exact ⟨x, hne, nofun, rfl⟩
    rintro ⟨⟩ v ⟨hv, -⟩
    rw [hv rfl]
    refine ih (u.shrink lib) ?_ ?_
    · have hn : lib.entries u.data - u.missing + 1 = n + 1 := hsize
      unfold Tree.shrink
      split
      · next hmore =>
        show lib.entries u.data - (u.missing + 1) + 1 = n
        have := hmore.2
        omega
      next hlast =>
      have hle : lib.entries u.data ≤ u.missing := by
        by_contra hlt
        exact hlast ⟨hdir u rfl, Nat.lt_of_not_le hlt⟩
      show 0 = n
      omega
    intro x hx
    unfold Tree.shrink at hx
    split at hx
    · obtain rfl := some.inj hx
      exact hdir u rfl
    · cases hx

def Removal (w : World D) (i : Item) (p : Place D) (s : Slot) (r : Except (List Fault) Unit)
    (v : World D) : Prop :=
  ∃ t, r ≠ .error [] ∧ (p.get s = none → t = none) ∧ (r = .ok () → t = none) ∧
    v = w.setPlace i (p.set s t)

theorem removal_error (e : Fault) : Removal w i p s (.error [e]) (w.setPlace i p) :=
  ⟨p.get s, nofun, id, nofun, by rw [Place.set_get]⟩

theorem awp_removeManaged (hC : ∀ t, (p.get s = none → t = none) → C (w.setPlace i (p.set s t))) :
    Runs lib C (removeManaged i s) (Removal w i p s) (w.setPlace i p) := by
  have hstart : C (w.setPlace i p) := by
    have := hC (p.get s) id
    rwa [Place.set_get] at this
  refine awp_step hstart fun f _ a v hav => ?_
  cases f with
  | fail | late => cases hav; exact removal_error _
  | ok =>
  obtain ⟨rfl, rfl⟩ := Prod.mk.inj hav
  rw [get_setPlace]
  cases ht : p.get s with
  | none =>
    refine ⟨none, nofun, fun _ => rfl, fun _ => rfl, ?_⟩
    rw [← ht, Place.set_get]
  | some t =>
  have hnone : ¬ p.get s = none := by rw [ht]; exact nofun
  have hany : ∀ u, C (w.setPlace i (p.set s u)) := fun u => hC u fun h => absurd h hnone
  have hp : w.setPlace i p = w.setPlace i (p.set s (some t)) := by rw [← ht, Place.set_get]
  have hremove : (w.setPlace i p).removeEntry lib i s =
      (.ok (), w.setPlace i (p.set s (t.shrink lib))) := by
    simp [removeEntry, ht]
  have hsingle : lib.type t.data ≠ .directory →
      Runs lib C (lift (.removeEntry i s) rfl) (Removal w i p s) (w.setPlace i p) := by
    intro hne
    have hshrink : t.shrink lib = none := by
      unfold Tree.shrink
      rw [if_neg]
      exact fun h => hne h.1
    refine awp_lift (fun _ => rfl) hstart ?_ ?_ ?_
    · rw [hremove, hshrink]
      exact ⟨none, nofun, fun _ => rfl, fun _ => rfl, rfl⟩
    · exact fun _ => removal_error _
    · rw [hremove, hshrink]
      exact fun _ => ⟨none, nofun, fun _ => rfl, fun _ => rfl, rfl⟩
  rw [map_some]
  cases htype : lib.type t.data with
  | symlink => exact hsingle (by rw [htype]; decide)
  | regular => exact hsingle (by rw [htype]; decide)
  | other => exact removal_error _
  | directory =>
  refine awp_step hstart fun f _ a v hav => ?_
  cases f with
  | fail | late => cases hav; exact removal_error _
  | ok =>
  obtain ⟨rfl, rfl⟩ := Prod.mk.inj hav
  rw [get_setPlace, ht]
  rw [elim_some]
  cases hwalk : t.walk lib with
  | error e => exact removal_error e
  | ok n =>
  rw [hp]
  refine awp_post ?_ (awp_removeEntries hany n (some t) (walk_ok hwalk) ?_)
  · rintro r v ⟨u, hne, hu, rfl⟩
    exact ⟨u, hne, fun h => absurd h hnone, hu, rfl⟩
  intro u hu
  obtain rfl := some.inj hu
  exact htype

theorem ok_of_errorsOf {r : Except (List Fault) Unit} (hne : r ≠ .error []) (h : errorsOf r = []) :
    r = .ok () := by
  cases r with
  | error es => exact (hne (congrArg _ h)).elim
  | ok u => rfl

theorem awp_removeManaged_if
    (b : Bool) (hC : ∀ t, (b = false → t = p.get s) → (p.get s = none → t = none) →
      C (w.setPlace i (p.set s t))) : Runs lib C (if b then removeManaged i s else .done (.ok ()))
      (fun r v => ∃ t, (b = false → t = p.get s) ∧ (p.get s = none → t = none) ∧
        (b = true → errorsOf r = [] → t = none) ∧ v = w.setPlace i (p.set s t))
      (w.setPlace i p) := by
  cases b with
  | true =>
    refine awp_post ?_
      (awp_removeManaged fun t ht => hC t (nofun) ht)
    rintro r v ⟨t, hne, hkept, hgone, rfl⟩
    refine ⟨t, nofun, hkept, fun _ hr => hgone ?_, rfl⟩
    exact ok_of_errorsOf hne hr
  | false => exact ⟨p.get s, fun _ => rfl, id, nofun, by rw [Place.set_get]⟩

/-! ## records -/

structure Alike (w v : World D) : Prop where
  files : v.files = w.files
  journal : v.journal = w.journal
  book : v.book = w.book

theorem Alike.refl (w : World D) : Alike w w := ⟨rfl, rfl, rfl⟩

variable {v u : World D}

def Op.Records : Op → Prop
  | .validate | .readPending | .verifyTree | .writeMarker _ | .writeRecord _ => True
  | .writeLastRestore _ | .removeMarker | .syncMarker | .removeDirectory => True
  | .now | .lstatJournal | .readJournal | .syncParent _ => True
  | _ => False

variable {α : Type}

theorem alike_exec (o : Op) (f : Fate) (ho : o.Records) (h : Alike w v) :
    Alike w (exec lib o f v).2 := by
  cases o with
  | validate | readPending | verifyTree | syncMarker | lstatJournal | readJournal | syncParent =>
    exact Fate.deliver_keeps h h
  | writeMarker | writeRecord | writeLastRestore | removeMarker | removeDirectory =>
    exact Fate.deliver_keeps h ⟨h.files, h.journal, h.book⟩
  | now => exact ⟨h.files, h.journal, h.book⟩
  | _ => exact ho.elim

theorem awp_alike {p : Act α} (hp : p.All (fun _ _ => True) Op.Records)
    (hC : ∀ v, Alike w v → C v) : Runs lib C p (fun _ v => Alike w v) w :=
  awp_mono hC (fun _ _ h => h)
    (awp_frame (fun o f _ ho _ h => alike_exec o f ho h) hp (Alike.refl w))

theorem lift_all {P : Op → Prop} {o : Op} {h : o.Ret = Except Fault Unit} (ho : P o) :
    (lift o h).All (fun _ _ => True) P := by
  refine ⟨ho, fun r _ => ?_⟩
  dsimp only
  split <;> trivial

theorem readPending_records {k : Except Fault (Option Operation) → Act α}
    (herror : ∀ e, (k (.error e)).All (fun _ _ => True) Op.Records)
    (hnone : (k (.ok none)).All (fun _ _ => True) Op.Records)
    (hsome : ∀ o, (k (.ok (some o))).All (fun _ _ => True) Op.Records) :
    Proc.All (fun _ _ => True) Op.Records (.call .readPending k : Act α) := by
  refine ⟨trivial, fun r _ => ?_⟩
  rcases r with e | (_ | o)
  · exact herror e
  · exact hnone
  · exact hsome o

theorem verifyPending_records : verifyPending.All (fun _ _ => True) Op.Records := by
  refine readPending_records (fun _ => trivial) trivial fun o => ?_
  dsimp only
  split
  · trivial
  · exact (lift_all trivial).attempt (fun _ => trivial) fun _ => trivial

theorem markApplyFailure_records (restoreID code : String) :
    (markApplyFailure restoreID code).All (fun _ _ => True) Op.Records := by
  unfold markApplyFailure
  split
  · refine readPending_records (fun _ => trivial) trivial fun o => ?_
    dsimp only
    split
    · trivial
    · exact (lift_all trivial).attempt (fun _ => trivial) fun _ => lift_all trivial
  · trivial

theorem complete_records (restoreID : String) (appliedAt : Option Int) :
    (complete restoreID appliedAt).All (fun _ _ => True) Op.Records := by
  refine readPending_records (fun _ => trivial) trivial fun o => ?_
  dsimp only
  split
  · trivial
  split
  · trivial
  refine (lift_all trivial).attempt (fun _ => trivial) fun _ => ?_
  refine (lift_all trivial).attempt (fun _ => trivial) fun _ => ?_
  exact (lift_all trivial).attempt (fun _ => trivial) fun _ => lift_all trivial

theorem authorizeApply_records (restoreID authorization : String) :
    (authorizeApply restoreID authorization).All (fun _ _ => True) Op.Records := by
  refine readPending_records (fun _ => trivial) trivial fun o => ?_
  dsimp only
  split
  · trivial
  · exact (lift_all trivial).attempt (fun _ => trivial) fun _ => lift_all trivial

/-! ## the copies -/

structure Cleared (w v : World D) : Prop where
  journal : v.journal = w.journal
  book : v.book = w.book
  destination : ∀ k, (v.files k).destination = (w.files k).destination
  rollback : ∀ k, (w.files k).rollback = none → (v.files k).rollback = none

theorem Cleared.refl (w : World D) : Cleared w w := ⟨rfl, rfl, fun _ => rfl, fun _ h => h⟩

theorem Cleared.trans (h : Cleared u v) (h' : Cleared v w) : Cleared u w where
  journal := h'.journal.trans h.journal
  book := h'.book.trans h.book
  destination k := (h'.destination k).trans (h.destination k)
  rollback k hk := h'.rollback k (h.rollback k hk)

/-- one place was changed, but neither its destination nor an absent rollback copy -/
theorem cleared_setPlace (hd : p.destination = (w.files i).destination)
    (hr : (w.files i).rollback = none → p.rollback = none) : Cleared w (w.setPlace i p) := by
  refine ⟨rfl, rfl, ?_, ?_⟩
  · exact forall_setPlace (P := fun k q => q.destination = (w.files k).destination) hd fun _ _ => rfl
  · exact forall_setPlace (P := fun k q => (w.files k).rollback = none → q.rollback = none) hr
      fun _ _ => id

theorem awp_removeCopy (b : Bool) (hs : s ≠ .destination) (hC : ∀ v, Cleared w v → C v)
    (hv : Cleared w v) : Runs lib C (if b then removeManaged i s else .done (.ok ()))
      (fun r x => Cleared v x ∧ (b = true → errorsOf r = [] → (x.files i).get s = none)) v := by
  have hcleared : ∀ t, ((v.files i).get s = none → t = none) →
      Cleared v (v.setPlace i ((v.files i).set s t)) := by
    intro t ht
    cases s with
    | destination => exact (hs rfl).elim
    | candidate => exact cleared_setPlace rfl id
    | rollback => exact cleared_setPlace rfl ht
  rw [← setPlace_files v i]
  refine awp_post ?_
    (awp_removeManaged_if b fun t _ ht => hC _ (hv.trans (hcleared t ht)))
  rintro r x ⟨t, -, hkept, hgone, rfl⟩
  rw [setPlace_files]
  refine ⟨hcleared t hkept, fun hb hr => ?_⟩
  rw [setPlace_files_self, Place.get_set]
  exact hgone hb hr

theorem awp_cleanupCandidates (items : List Item) (hC : ∀ v, Cleared w v → C v) (hv : Cleared w v) :
    Runs lib C (cleanupCandidates items)
      (fun es x => Cleared v x ∧ (es = [] → ∀ i ∈ items, (x.files i).rollback = none)) v := by
  induction items generalizing v with
  | nil => exact ⟨Cleared.refl v, nofun⟩
  | cons i rest ih =>
    refine awp_seq (awp_removeCopy i.install (by decide) hC hv) ?_
    rintro r x ⟨hx, -⟩
    refine awp_seq (awp_removeCopy true (by decide) hC (hv.trans hx)) ?_
    rintro r' y ⟨hy, hgone⟩
    refine awp_seq (ih ((hv.trans hx).trans hy)) ?_
    rintro es z ⟨hz, hrest⟩
    refine ⟨(hx.trans hy).trans hz, fun hnil k hk => ?_⟩
    obtain ⟨hnil', rfl⟩ := List.append_eq_nil_iff.mp hnil
    obtain ⟨-, hr'⟩ := List.append_eq_nil_iff.mp hnil'
    rcases List.mem_cons.mp hk with rfl | hk
    · exact hz.rollback k (hgone rfl hr')
    · exact hrest rfl k hk

/-! ## checks -/

section
variable (w : World D) (a b : Option (Tree D))

def World.shade : World D :=
  (w.put .databaseWAL .destination a).put .databaseSHM .destination b

theorem get_put_self (i : Item) (s : Slot) (t : Option (Tree D)) : (w.put i s t).get i s = t := by
  rw [put, get_setPlace, Place.get_set]

theorem get_put_ne (s s' : Slot) (t : Option (Tree D)) (h : k ≠ i) :
    (w.put i s t).get k s' = w.get k s' := by
  rw [World.get, World.put, setPlace_files_ne w _ h]
  rfl

@[simp] theorem get_shade (s : Slot) (hwal : k ≠ .databaseWAL)
    (hshm : k ≠ .databaseSHM) : (w.shade a b).get k s = w.get k s := by
  rw [shade, get_put_ne _ _ _ _ hshm, get_put_ne _ _ _ _ hwal]

@[simp] theorem shade_wal : (w.shade a b).get .databaseWAL .destination = a := by
  rw [shade, get_put_ne _ _ _ _ (by decide), get_put_self]

@[simp] theorem shade_shm : (w.shade a b).get .databaseSHM .destination = b := get_put_self ..

@[simp] theorem shade_put_wal (a b t : Option (Tree D)) :
    (w.shade a b).put .databaseWAL .destination t = w.shade t b := by
  unfold shade put setPlace
  congr 1
  funext k
  by_cases hwal : k = .databaseWAL
  · subst hwal
    simp [Function.update]
  by_cases hshm : k = .databaseSHM
  · subst hshm
    simp [Function.update]
  · simp [Function.update, hwal, hshm]

@[simp] theorem shade_put_shm (a b t : Option (Tree D)) :
    (w.shade a b).put .databaseSHM .destination t = w.shade a t := by
  show (((w.put .databaseWAL .destination a).put .databaseSHM .destination b).put .databaseSHM
    .destination t) = _
  rw [put, put, setPlace_files_self, Place.set_set, setPlace_setPlace]
  rfl

@[simp] theorem shade_shade (a b c d : Option (Tree D)) :
    (w.shade a b).shade c d = w.shade c d := by
  rw [shade, shade_put_wal, shade_put_shm]

theorem shade_self :
    w = w.shade (w.get .databaseWAL .destination) (w.get .databaseSHM .destination) := by
  have hput : ∀ i, w.put i .destination (w.get i .destination) = w := by
    intro i
    rw [World.put, World.get, Place.set_get, setPlace_files]
  rw [World.shade, hput, hput]

theorem check_shade (c : Check) : ∃ a b, (w.check lib c).2 = w.shade a b := by
  have hself : ∃ a b, w = w.shade a b := ⟨_, _, shade_self w⟩
  have hput : ∀ i, i = .databaseWAL ∨ i = .databaseSHM →
      ∃ a b, (w.removeSidecar lib i).2 = w.shade a b := by
    intro i hi
    unfold removeSidecar
    split
    · exact hself
    split
    · rcases hi with rfl | rfl
      · refine ⟨none, w.get .databaseSHM .destination, ?_⟩
        conv_lhs => rw [shade_self w]
        exact shade_put_wal ..
      refine ⟨w.get .databaseWAL .destination, none, ?_⟩
      conv_lhs => rw [shade_self w]
      exact shade_put_shm ..
    · exact hself
  cases c with
  | openDatabase =>
    rw [check]
    split
    · exact hself
    · exact ⟨_, _, rfl⟩
  | removeWAL => exact hput _ (.inl rfl)
  | removeSHM => exact hput _ (.inr rfl)
  | _ => exact hself

theorem check_shaded (c : Check) : ∃ a' b', ((w.shade a b).check lib c).2 = w.shade a' b' := by
  obtain ⟨a', b', h⟩ := check_shade (w.shade a b) c
  exact ⟨a', b', by rw [h, shade_shade]⟩

end

def passes (lib : Library D) : List Check → World D → Option (World D)
  | [], w => some w
  | c :: cs, w =>
    match w.check lib c with
    | (.ok (), v) => passes lib cs v
    | (.error _, _) => none

theorem awp_checks (cs : List Check) (hC : ∀ a b, C (w.shade a b)) (hv : ∃ a b, v = w.shade a b) :
    Runs lib C (checks cs)
      (fun r x => (∃ a b, x = w.shade a b) ∧ (r = .ok () → passes lib cs v = some x)) v := by
  induction cs generalizing v with
  | nil => exact ⟨hv, fun _ => rfl⟩
  | cons c cs ih =>
    obtain ⟨a, b, rfl⟩ := hv
    have hcheck := @check_shaded _ lib w a b c
    refine awp_attempt (R := fun r x => (∃ a b, x = w.shade a b) ∧
      (r = .ok () → (w.shade a b).check lib c = (.ok (), x))) ?_ ?_ ?_
    · refine awp_lift (fun _ => rfl) (hC a b) ⟨hcheck, fun hr => ?_⟩
        (fun _ => ⟨⟨a, b, rfl⟩, nofun⟩) fun _ => ⟨hcheck, nofun⟩
      cases hfst : ((w.shade a b).check lib c).1 with
      | error e => rw [hfst] at hr; cases hr
      | ok u => rw [← hfst]
    · rintro es x ⟨hx, -⟩
      exact ⟨hx, nofun⟩
    · rintro ⟨⟩ x ⟨hx, hstep⟩
      rw [passes, hstep rfl]
      exact ih hx

theorem awp_checks_reliable (cs : List Check) (hcommitted : w.committed = true)
    (hC : ∀ a b, C (w.shade a b)) (hv : ∃ a b, v = w.shade a b)
    (hpasses : passes lib cs v = some u) :
    Runs lib C (checks cs) (fun r x => r = .ok () ∧ x = u) v := by
  induction cs generalizing v with
  | nil => exact ⟨rfl, some.inj hpasses⟩
  | cons c cs ih =>
    obtain ⟨a, b, rfl⟩ := hv
    have hstill : (w.shade a b).committed = true := hcommitted
    cases hstep : (w.shade a b).check lib c with
    | mk r x =>
    rw [passes, hstep] at hpasses
    cases r with
    | error e => cases hpasses
    | ok u' =>
    have hx := @check_shaded _ lib w a b c
    rw [hstep] at hx
    refine awp_attempt (R := fun r y => r = .ok () ∧ y = x) ?_ ?_ ?_
    · refine awp_lift (fun _ => rfl) (hC a b) ?_ (fun hf => ?_) fun hf => ?_
      · rw [hstep]
        exact ⟨rfl, rfl⟩
      · cases hf hstill
      · cases hf hstill
    · rintro es y ⟨hr, -⟩
      cases hr
    · rintro ⟨⟩ y ⟨-, rfl⟩
      exact ih hx hpasses

/-- what an activated restore must look like -/
structure Activated (lib : Library D) (version : Int) (w : World D) : Prop where
  config : ∃ t, w.get .config .destination = some t ∧ lib.validConfig t.data = true
  database : ∃ t, w.get .database .destination = some t ∧ lib.failClosed t.data = true ∧
    lib.schemaVersion t.data = version
  sidecar : lib.type lib.sidecar = .regular
  active : w.get .mihomoActive .destination = none

theorem inspect_ok {t : Option (Tree D)} {accepts : D → Bool} {absent refused : Fault} :
    inspect t accepts absent refused = .ok () ↔ ∃ u, t = some u ∧ accepts u.data = true := by
  unfold inspect
  cases t with
  | none => simp
  | some u => by_cases h : accepts u.data = true <;> simp [h]

theorem passes_cons {c : Check} {cs : List Check} : passes lib (c :: cs) w = some v ↔
      (w.check lib c).1 = .ok () ∧ passes lib cs (w.check lib c).2 = some v := by
  rw [passes]
  rcases w.check lib c with ⟨_ | _, x⟩ <;> simp

theorem passes_nil : passes lib [] w = some v ↔ v = w := by
  rw [passes, some.injEq, eq_comm]

/-- **The checks succeed exactly on an activated restore**, and leave no sidecar behind. -/
theorem passes_activationChecks {version : Int} : passes lib (activationChecks version) w = some v ↔
      Activated lib version w ∧ v = w.shade none none := by
  have hopen : w.openSidecars lib = w.shade (some ⟨lib.sidecar, 0⟩) (some ⟨lib.sidecar, 0⟩) := rfl
  have hiff : Activated lib version w ↔
      (∃ t, w.get .config .destination = some t ∧ lib.validConfig t.data = true) ∧
      (∃ t, w.get .database .destination = some t ∧ lib.failClosed t.data = true ∧
        lib.schemaVersion t.data = version) ∧ lib.type lib.sidecar = .regular ∧
      w.get .mihomoActive .destination = none :=
    ⟨fun h => ⟨h.config, h.database, h.sidecar, h.active⟩, fun h => ⟨h.1, h.2.1, h.2.2.1, h.2.2.2⟩⟩
  rw [hiff]
  cases hd : w.get .database .destination with
  | none => simp [activationChecks, passes_cons, check, hd]
  | some d =>
  by_cases hside : lib.type lib.sidecar = .regular
  · cases hactive : w.get .mihomoActive .destination with
    | none =>
      simp [activationChecks, passes_cons, passes_nil, check, removeSidecar, inspect_ok,
        hd, hopen, hside, hactive, and_assoc]
    | some t =>
      simp [activationChecks, passes_cons, check, removeSidecar, inspect_ok,
        hd, hopen, hside, hactive]
  · simp [activationChecks, passes_cons, check, removeSidecar, inspect_ok, hd, hopen,
      hside]

/-! ## candidates -/

theorem checkDestination_ok {found : Bool} (h : checkDestination lib i w = .ok found) :
    found = (w.files i).destination.isSome ∧
      ∀ t, (w.files i).destination = some t → lib.type t.data ≠ .other := by
  unfold checkDestination at h
  have hget : w.get i .destination = (w.files i).destination := rfl
  rw [hget] at h
  cases hd : (w.files i).destination with
  | none =>
    rw [hd] at h
    exact ⟨(Except.ok.inj h).symm, nofun⟩
  | some t =>
  rw [hd] at h
  dsimp only at h
  have hboth : found = true ∧ lib.type t.data ≠ .other := by
    cases hkind : i.kind <;> cases htype : lib.type t.data <;> rw [hkind, htype] at h <;> cases h <;>
      exact ⟨rfl, by decide⟩
  refine ⟨hboth.1, fun u hu => ?_⟩
  obtain rfl := some.inj hu
  exact hboth.2

theorem awp_checkDestinations (items : List Item) (hC : C w) : Runs lib C (checkDestinations items)
      (fun r v => v = w ∧ ∀ found, r = .ok found →
        found = items.map (fun i => ⟨i, (w.files i).destination.isSome⟩) ∧
        ∀ i ∈ items, ∀ t, (w.files i).destination = some t → lib.type t.data ≠ .other) w := by
  induction items with
  | nil =>
    refine ⟨rfl, fun found hfound => ?_⟩
    obtain rfl := Except.ok.inj hfound
    exact ⟨rfl, nofun⟩
  | cons i rest ih =>
    refine awp_step hC fun f _ a v hav => ?_
    have herror : ∀ e : Fault, w = w ∧ ∀ found : List SwapItem,
        (Except.error [e] : Except (List Fault) (List SwapItem)) = .ok found →
        found = (i :: rest).map (fun i => ⟨i, (w.files i).destination.isSome⟩) ∧
        ∀ k ∈ i :: rest, ∀ t, (w.files k).destination = some t → lib.type t.data ≠ .other :=
      fun e => ⟨rfl, nofun⟩
    cases f with
    | fail | late => cases hav; exact herror _
    | ok =>
    obtain ⟨rfl, rfl⟩ := Prod.mk.inj hav
    cases hcheck : checkDestination lib i w with
    | error e => exact herror e
    | ok found =>
    obtain ⟨hfound, htyped⟩ := checkDestination_ok hcheck
    refine awp_attempt ih ?_ ?_
    · rintro es v ⟨rfl, -⟩
      exact ⟨rfl, nofun⟩
    rintro items v ⟨rfl, hitems⟩
    obtain ⟨rfl, hrest⟩ := hitems items rfl
    refine ⟨rfl, fun all hall => ?_⟩
    obtain rfl := Except.ok.inj hall
    refine ⟨by rw [hfound]; rfl, fun k hk => ?_⟩
    rcases List.mem_cons.mp hk with rfl | hk
    · exact htyped
    · exact hrest k hk

structure Filled (w v : World D) : Prop where
  journal : v.journal = w.journal
  destination : ∀ k, (v.files k).destination = (w.files k).destination
  rollback : ∀ k, (v.files k).rollback = (w.files k).rollback

def Op.Fills : Op → Prop
  | .createCandidate _ | .fillCandidate _ | .loadCandidateConfig | .prepareDatabase _ => True
  | _ => False

theorem filled_put (h : Filled w v) (i : Item) (t : Option (Tree D)) :
    Filled w (v.put i .candidate t) := by
  refine ⟨h.journal, ?_, ?_⟩
  · exact forall_setPlace (P := fun k q => q.destination = (w.files k).destination)
      (h.destination i) fun k _ => h.destination k
  · exact forall_setPlace (P := fun k q => q.rollback = (w.files k).rollback)
      (h.rollback i) fun k _ => h.rollback k

theorem filled_exec (o : Op) (f : Fate) (ho : o.Fills) (h : Filled w v) :
    Filled w (exec lib o f v).2 := by
  cases o with
  | createCandidate i =>
    refine Fate.deliver_keeps h ?_
    unfold createCandidate
    split
    · exact h
    · exact filled_put h i _
  | fillCandidate i => exact Fate.deliver_keeps h (filled_put h i _)
  | loadCandidateConfig => exact Fate.deliver_keeps h h
  | prepareDatabase pre =>
    refine Fate.deliver_keeps h ?_
    unfold prepareDatabase
    split
    · exact h
    split
    · exact h
    next data version revoked _ =>
    have hput := filled_put h .database (some ⟨data, 0⟩)
    exact ⟨hput.journal, hput.destination, hput.rollback⟩
  | _ => exact ho.elim

theorem copyCandidate_fills (i : Item) : (copyCandidate i).All (fun _ _ => True) Op.Fills :=
  (lift_all trivial).attempt (fun _ => trivial) fun _ => lift_all trivial

theorem copyCandidates_fills (items : List Item) :
    (copyCandidates items).All (fun _ _ => True) Op.Fills := by
  induction items with
  | nil => trivial
  | cons i rest ih => exact (copyCandidate_fills i).attempt (fun _ => trivial) fun _ => ih

theorem makeCandidates_fills (pre : Nat) : (makeCandidates pre).All (fun _ _ => True) Op.Fills := by
  refine (copyCandidate_fills _).attempt (fun _ => trivial) fun _ => ?_
  refine (lift_all trivial).attempt (fun _ => trivial) fun _ => ?_
  refine (copyCandidate_fills _).attempt (fun _ => trivial) fun _ => ?_
  refine ⟨trivial, fun r _ => ?_⟩
  rcases r with e | r
  · trivial
  · exact (copyCandidates_fills _).attempt (fun _ => trivial) fun _ => trivial

end GatewayVpn.Restore
