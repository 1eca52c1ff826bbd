import GatewayVpn.Durable.Table

/-!
# Tables with unique indexes

A table declares a key, the entries that a row has in unique indexes, and a check of a row.  A
partial index is an entry that only some rows have.  The table carries that no two rows share an
entry and that every row passes its check, so a statement that would break this fails and changes
nothing.  A statement over several rows changes them one after the other and looks at the indexes
after each, as a database does without deferred constraints.
-/

set_option linter.unusedVariables false
set_option linter.unusedSectionVars false

namespace Durable

open List

/-! ## computations that may fail -/

section
variable {ε δ α β : Type}

/-- `x` returns a value with `Q` or fails with an error with `E` -/
def Yields (Q : α → Prop) (E : ε → Prop) : Except ε α → Prop
  | .ok a => Q a
  | .error e => E e

variable {Q Q' : α → Prop} {R : β → Prop} {E E' : ε → Prop} {x : Except ε α}

theorem Yields.mono (h : Yields Q E x) (hq : ∀ a, Q a → Q' a)
    (he : ∀ e, E e → E' e) : Yields Q' E' x := by
  cases x with
  | ok a => exact hq a h
  | error e => exact he e h

theorem Yields.map {f : α → β} (h : Yields (fun a => R (f a)) E x) : Yields R E (x.map f) := by
  cases x with
  | ok a => exact h
  | error e => exact h

theorem Yields.bind {k : α → Except ε β} (h : Yields Q E x)
    (hk : ∀ a, Q a → Yields R E (k a)) : Yields R E (x >>= k) := by
  cases x with
  | ok a => exact hk a h
  | error e => exact h

theorem Yields.mapError {f : ε → δ} {D : δ → Prop}
    (h : Yields Q (fun e => D (f e)) x) : Yields Q D (x.mapError f) := by
  cases x with
  | ok a => exact h
  | error e => exact h

theorem Yields.safe {f : δ → ε} {x : Except δ α} (h : Yields Q (fun _ => False) x) :
    Yields Q E (x.mapError f) :=
  (h.mono (fun _ hq => hq) fun _ hno => hno.elim).mapError

/-- a loop keeps an invariant that speaks about what it has gone through -/
theorem yields_foldlM {f : β → α → Except ε β} {I : List α → β → Prop} {xs : List α}
    (hstep : ∀ done x todo b, xs = done ++ x :: todo → I done b →
      Yields (I (done ++ [x])) E (f b x)) {b : β} (h : I [] b) :
    Yields (I xs) E (xs.foldlM f b) := by
  suffices H : ∀ todo done b, xs = done ++ todo → I done b → Yields (I xs) E (todo.foldlM f b) from
    H xs [] b rfl h
  intro todo
  induction todo with
  | nil =>
    intro done b hxs hb
    rw [append_nil] at hxs
    rw [hxs]
    exact hb
  | cons x todo ih =>
    intro done b hxs hb
    refine (hstep done x todo b hxs hb).bind fun b' hb' => ?_
    exact ih (done ++ [x]) b' (by rw [hxs, append_assoc]; rfl) hb'

end

/-! ## declarations -/

/-- what a table declares: its key, the entries of a row in unique indexes, and the checks -/
structure Schema (ρ κ ν : Type) where
  key : ρ → κ
  entries : ρ → List ν
  check : ρ → Bool

inductive Violation (ν : Type) where
  | key
  | entry (e : ν)
  | check
  deriving DecidableEq

variable {ρ κ ν : Type} {σ : Schema ρ κ ν}

structure Relation (σ : Schema ρ κ ν) extends Table σ.key where
  unique : ∀ r ∈ rows, ∀ r' ∈ rows, ∀ e, e ∈ σ.entries r → e ∈ σ.entries r' → σ.key r = σ.key r'
  checked : ∀ r ∈ rows, σ.check r = true

variable {r : ρ} {e : ν} {k : κ}

namespace Relation

def empty : Relation σ where
  rows := []
  nodup := List.nodup_nil
  unique := by simp
  checked := by simp

theorem eq_of_key (t : Relation σ) {r r' : ρ} (hr : r ∈ t.rows) (hr' : r' ∈ t.rows)
    (h : σ.key r = σ.key r') : r = r' :=
  inj_on_of_nodup_map t.nodup hr hr' h

theorem eq_of_entry (t : Relation σ) {r r' : ρ} (hr : r ∈ t.rows) (hr' : r' ∈ t.rows)
    (he : e ∈ σ.entries r) (he' : e ∈ σ.entries r') : r = r' :=
  t.eq_of_key hr hr' (t.unique r hr r' hr' e he he')

/-! ## statements -/

variable [DecidableEq κ] [DecidableEq ν]

section
variable (t : Relation σ)

/-- a row with another key than `k` has the entry -/
def held (k : κ) (e : ν) : Bool :=
  t.rows.any fun r => σ.key r ≠ k && (σ.entries r).contains e

def admits (r : ρ) : Bool :=
  σ.check r && (σ.entries r).all fun e => !t.held (σ.key r) e

def violation (r : ρ) : Violation ν :=
  match (σ.entries r).find? (t.held (σ.key r)) with
  | some e => .entry e
  | none => .check

theorem held_iff {t : Relation σ} :
    t.held k e = true ↔ ∃ r ∈ t.rows, σ.key r ≠ k ∧ e ∈ σ.entries r := by
  simp [held]

theorem admits_iff {t : Relation σ} : t.admits r = true ↔ σ.check r = true ∧
    ∀ e ∈ σ.entries r, ∀ r' ∈ t.rows, e ∈ σ.entries r' → σ.key r' = σ.key r := by
  rw [admits, Bool.and_eq_true, all_eq_true]
  refine and_congr_right fun _ => forall₂_congr fun e he => ?_
  rw [Bool.not_eq_true', ← Bool.not_eq_true, held_iff]
  constructor
  · intro h r' hr' he'
    by_contra hne
    exact h ⟨r', hr', hne, he'⟩
  · rintro h ⟨r', hr', hne, he'⟩
    exact hne (h r' hr' he')

theorem unique_append {t : Relation σ} (ha : t.admits r) :
    ∀ x ∈ t.rows ++ [r], ∀ y ∈ t.rows ++ [r], ∀ e, e ∈ σ.entries x → e ∈ σ.entries y →
      σ.key x = σ.key y := by
  have hnew := (admits_iff.mp ha).2
  intro x hx y hy e hex hey
  rw [mem_append, mem_singleton] at hx hy
  rcases hx with hx | rfl <;> rcases hy with hy | rfl
  · exact t.unique x hx y hy e hex hey
  · exact hnew e hey x hx hex
  · exact (hnew e hex y hy hey).symm
  · rfl

def insert (r : ρ) : Except (Violation ν) (Relation σ) :=
  if hk : σ.key r ∈ t.rows.map σ.key then .error .key
  else if ha : t.admits r then .ok {
      rows := t.rows ++ [r]
      nodup := by
        rw [List.map_append, List.map_singleton]
        refine t.nodup.append (List.nodup_singleton _) fun k hk' hk'' => ?_
        rw [List.mem_singleton] at hk''
        exact hk (hk'' ▸ hk')
      unique := unique_append ha
      checked := by
        intro x hx
        rw [List.mem_append, List.mem_singleton] at hx
        rcases hx with hx | rfl
        · exact t.checked x hx
        · exact (admits_iff.mp ha).1 }
  else .error (t.violation r)

variable {f : ρ → ρ} {hf : ∀ r, σ.key (f r) = σ.key r}

theorem mem_update {t : Table σ.key} {x : ρ} : x ∈ (t.update k f hf).rows ↔
      ∃ r ∈ t.rows, σ.key r = k ∧ x = f r ∨ σ.key r ≠ k ∧ x = r := by
  show x ∈ t.rows.map _ ↔ _
  rw [mem_map]
  refine exists_congr fun r => and_congr_right fun _ => ?_
  by_cases hk : σ.key r = k <;> simp [hk, eq_comm]

def Changes (k : κ) (f : ρ → ρ) : Prop :=
  ∀ r ∈ t.rows, σ.key r = k → t.admits (f r) = true

theorem unique_update {t : Relation σ} (ha : t.Changes k f) :
    ∀ x ∈ (t.toTable.update k f hf).rows, ∀ y ∈ (t.toTable.update k f hf).rows, ∀ e,
      e ∈ σ.entries x → e ∈ σ.entries y → σ.key x = σ.key y := by
  -- the changed row against an unchanged one
  have hcross : ∀ r ∈ t.rows, ∀ r' ∈ t.rows, σ.key r = k → ∀ e ∈ σ.entries (f r),
      e ∈ σ.entries r' → σ.key r' = σ.key (f r) := fun r hr r' hr' hk e he he' =>
    (admits_iff.mp (ha r hr hk)).2 e he r' hr' he'
  intro x hx y hy e hex hey
  obtain ⟨r, hr, ⟨hrk, rfl⟩ | ⟨hrk, rfl⟩⟩ := mem_update.mp hx <;>
    obtain ⟨r', hr', ⟨hrk', rfl⟩ | ⟨hrk', rfl⟩⟩ := mem_update.mp hy
  · rw [hf, hf, hrk, hrk']
  · exact (hcross r hr _ hr' hrk e hex hey).symm
  · exact hcross r' hr' _ hr hrk' e hey hex
  · exact t.unique _ hr _ hr' e hex hey

theorem changes_iff {t : Relation σ} :
    (t.find k).all (fun r => t.admits (f r)) = true ↔ t.Changes k f := by
  constructor
  · intro h r hr hk
    have hfind : t.find k = some r := hk ▸ Table.mem_iff_find.mp hr
    rwa [hfind] at h
  intro h
  cases hfind : t.find k with
  | none => rfl
  | some r => exact h r (Table.mem_of_find hfind) (Table.key_of_find hfind)

/-- the row of a key, changed; a row that is not there is not changed -/
def modify (k : κ) (f : ρ → ρ) (hf : ∀ r, σ.key (f r) = σ.key r) :
    Except (Violation ν) (Relation σ) :=
  if ha : (t.find k).all (fun r => t.admits (f r)) then .ok {
      toTable := t.toTable.update k f hf
      unique := unique_update (changes_iff.mp ha)
      checked := by
        intro x hx
        obtain ⟨r, hr, ⟨hk, rfl⟩ | ⟨hk, rfl⟩⟩ := mem_update.mp hx
        · exact (admits_iff.mp (changes_iff.mp ha r hr hk)).1
        · exact t.checked _ hr }
  else .error ((t.find k).elim .check fun r => t.violation (f r))

/-- `UPDATE … WHERE`: the selected rows are changed one after the other -/
def updateWhere (p : ρ → Bool) (f : ρ → ρ) (hf : ∀ r, σ.key (f r) = σ.key r) :
    Except (Violation ν) (Relation σ) :=
  ((t.rows.filter p).map σ.key).foldlM (fun t k => t.modify k f hf) t

/-- `RowsAffected` of an update -/
def affected (p : ρ → Bool) : Nat := (t.rows.filter p).length

def delete (p : ρ → Bool) : Relation σ where
  toTable := t.toTable.delete p
  unique := fun r hr r' hr' => t.unique r (List.mem_filter.mp hr).1 r' (List.mem_filter.mp hr').1
  checked := fun r hr => t.checked r (List.mem_filter.mp hr).1

end

/-! ## what the statements do -/

theorem violation_entry {t : Relation σ} (h : t.violation r = .entry e) :
    e ∈ σ.entries r ∧ t.held (σ.key r) e = true := by
  rw [violation] at h
  cases hfind : (σ.entries r).find? (t.held (σ.key r)) with
  | none =>
    rw [hfind] at h
    cases h
  | some e' =>
  rw [hfind] at h
  cases h
  exact ⟨mem_of_find?_eq_some hfind, find?_some hfind⟩

/-- an insertion that an index refuses would have given its entry twice -/
theorem insert_yields (t : Relation σ) (r : ρ) : Yields (fun t' => t'.rows = t.rows ++ [r])
      (fun v => ∀ e, v = .entry e → e ∈ σ.entries r ∧ t.held (σ.key r) e = true) (t.insert r) := by
  rw [insert]
  split
  · exact fun e he => by cases he
  split
  · exact rfl
  · exact fun e => violation_entry

theorem modify_yields (t : Relation σ) (k : κ) {f : ρ → ρ} (hf : ∀ r, σ.key (f r) = σ.key r)
    (ha : t.Changes k f) :
    Yields (fun t' => t'.rows = t.rows.map fun r => if σ.key r = k then f r else r)
      (fun _ => False) (t.modify k f hf) := by
  rw [modify, dif_pos (changes_iff.mpr ha)]
  show (t.rows.map fun r => if decide (σ.key r = k) = true then f r else r) = _
  simp only [decide_eq_true_eq]

structure Fits (t : Relation σ) (p : ρ → Bool) (f : ρ → ρ) : Prop where
  check : ∀ r ∈ t.rows, p r = true → σ.check (f r) = true
  free : ∀ r ∈ t.rows, p r = true → ∀ e ∈ σ.entries (f r), e ∉ σ.entries r →
    ∀ r' ∈ t.rows, e ∉ σ.entries r'
  apart : ∀ r ∈ t.rows, p r = true → ∀ e ∈ σ.entries (f r), e ∉ σ.entries r →
    ∀ r' ∈ t.rows, p r' = true → e ∈ σ.entries (f r') → r = r'

section
variable {t : Relation σ} {p : ρ → Bool} {f : ρ → ρ}
include t p f

theorem fits_of_one (hone : ∀ r ∈ t.rows, ∀ r' ∈ t.rows, p r = true → p r' = true → r = r')
    (hcheck : ∀ r ∈ t.rows, p r = true → σ.check (f r) = true)
    (hfree : ∀ r ∈ t.rows, p r = true → ∀ e ∈ σ.entries (f r),
      e ∈ σ.entries r ∨ ∀ r' ∈ t.rows, e ∉ σ.entries r') : t.Fits p f where
  check := hcheck
  free := fun r hr hp e he hnew => (hfree r hr hp e he).resolve_left hnew
  apart := fun r hr hp e he hnew r' hr' hp' he' => hone r hr r' hr' hp hp'

theorem Fits.own (h : t.Fits p f) {r r' : ρ}
    (hr : r ∈ t.rows) (hp : p r = true) (hr' : r' ∈ t.rows) (he : e ∈ σ.entries (f r))
    (he' : e ∈ σ.entries r' ∨ p r' = true ∧ e ∈ σ.entries (f r')) : r = r' := by
  by_cases hold : e ∈ σ.entries r
  · rcases he' with he' | ⟨hp', he'⟩
    · exact t.eq_of_entry hr hr' hold he'
    by_cases hold' : e ∈ σ.entries r'
    · exact t.eq_of_entry hr hr' hold hold'
    · exact absurd hold (h.free r' hr' hp' e he' hold' r hr)
  · rcases he' with he' | ⟨hp', he'⟩
    · exact absurd he' (h.free r hr hp e he hold r' hr')
    · exact h.apart r hr hp e he hold r' hr' hp' he'

theorem updateWhere_yields (h : t.Fits p f) (hf : ∀ r, σ.key (f r) = σ.key r) :
    Yields (fun t' => t'.rows = t.rows.map fun r => if p r then f r else r) (fun _ => False)
      (t.updateWhere p f hf) := by
  -- after some of the selected keys their rows are changed and the others are not
  have hloop := @yields_foldlM (Violation ν) κ (Relation σ) (fun _ => False)
    (fun t k => t.modify k f hf)
    (fun done t' => t'.rows = t.rows.map fun r => if σ.key r ∈ done then f r else r)
    ((t.rows.filter p).map σ.key) ?_ t (by simp)
  · refine hloop.mono (fun t' ht' => ?_) fun _ hno => hno
    rw [ht']
    refine map_congr_left fun r hr => ?_
    have hsel : σ.key r ∈ (t.rows.filter p).map σ.key ↔ p r = true := by
      rw [mem_map]
      constructor
      · rintro ⟨r', hr', hk⟩
        obtain ⟨hmem, hp⟩ := mem_filter.mp hr'
        rwa [← t.eq_of_key hmem hr hk]
      · exact fun hp => ⟨r, mem_filter.mpr ⟨hr, hp⟩, rfl⟩
    simp only [hsel]
  intro done k todo t' hkeys ht'
  have hdone : ∀ r ∈ t.rows, σ.key r ∈ done ∨ σ.key r = k → p r = true := by
    intro r hr hk
    have hmem : σ.key r ∈ (t.rows.filter p).map σ.key := by
      rw [hkeys]
      rcases hk with hk | hk <;> simp [hk]
    obtain ⟨r', hr', hkey⟩ := mem_map.mp hmem
    obtain ⟨hr', hp⟩ := mem_filter.mp hr'
    rwa [← t.eq_of_key hr' hr hkey]
  have hnew : k ∉ done := by
    have hnd : ((t.rows.filter p).map σ.key).Nodup := (filter_sublist.map σ.key).nodup t.nodup
    rw [hkeys, nodup_append] at hnd
    exact fun hk => hnd.2.2 k hk k (by simp) rfl
  refine (modify_yields t' k hf ?_).mono (fun t'' ht'' => ?_) fun _ hno => hno
  · intro r' hr' hk
    rw [ht'] at hr'
    obtain ⟨r, hr, rfl⟩ := mem_map.mp hr'
    have hkey : σ.key r = k := by
      split at hk
      · rwa [hf] at hk
      · exact hk
    rw [if_neg (by rwa [hkey])]
    have hp : p r = true := hdone r hr (.inr hkey)
    refine admits_iff.mpr ⟨h.check r hr hp, fun e he x hx hex => ?_⟩
    rw [ht'] at hx
    obtain ⟨y, hy, rfl⟩ := mem_map.mp hx
    rw [hf]
    by_cases hyd : σ.key y ∈ done
    · rw [if_pos hyd] at hex ⊢
      rw [hf, h.own hr hp hy he (.inr ⟨hdone y hy (.inl hyd), hex⟩)]
    · rw [if_neg hyd] at hex ⊢
      rw [h.own hr hp hy he (.inl hex)]
  rw [ht'', ht', map_map]
  refine map_congr_left fun r hr => ?_
  show (if σ.key (if σ.key r ∈ done then f r else r) = k
    then f (if σ.key r ∈ done then f r else r) else (if σ.key r ∈ done then f r else r)) = _
  by_cases hk : σ.key r = k
  · rw [if_neg (show σ.key r ∉ done by rwa [hk]), if_pos hk, if_pos (by simp [hk])]
  by_cases hd : σ.key r ∈ done
  · rw [if_pos hd, hf, if_neg hk, if_pos (by simp [hd])]
  · rw [if_neg hd, if_neg hk, if_neg (by simp [hd, hk])]

end

theorem updateWhere_key {t : Relation σ} (hr : r ∈ t.rows) {p : ρ → Bool}
    (hp : ∀ x, p x = true ↔ σ.key x = σ.key r) {f : ρ → ρ} (hf : ∀ r, σ.key (f r) = σ.key r) :
    t.updateWhere p f hf = t.modify (σ.key r) f hf := by
  have hone : t.rows.filter p = [r] := by
    have hnd : (t.rows.filter p).Nodup := (List.Nodup.of_map _ t.nodup).filter p
    refine perm_singleton.mp ((perm_ext_iff_of_nodup hnd (nodup_singleton r)).mpr ?_)
    intro x
    rw [mem_filter, mem_singleton, hp]
    constructor
    · exact fun h => t.eq_of_key h.1 hr h.2
    · rintro rfl
      exact ⟨hr, rfl⟩
  rw [updateWhere, hone]
  exact bind_pure _

/-- the first entry of the changed row that another row has is reported -/
theorem modify_refused {t : Relation σ} (hr : r ∈ t.rows) {f : ρ → ρ}
    (hf : ∀ r, σ.key (f r) = σ.key r) (he : (σ.entries (f r)).find? (t.held (σ.key r)) = some e) :
    t.modify (σ.key r) f hf = .error (.entry e) := by
  have hfind : t.find (σ.key r) = some r := Table.mem_iff_find.mp hr
  have hrefused : t.admits (f r) = false := by
    rw [admits, hf, Bool.and_eq_false_iff, all_eq_false]
    exact .inr ⟨e, mem_of_find?_eq_some he, by simp [find?_some he]⟩
  rw [modify, dif_neg (by rw [hfind]; simp [hrefused]), hfind]
  show Except.error (t.violation (f r)) = _
  rw [violation, hf, he]

/-! ## loops of statements -/

section
variable {ε α : Type} {E : ε → Prop} {step : Relation σ → α → Except ε (Relation σ)}
  {sel : α → ρ → Bool} {change : α → ρ → ρ} {mark : α → ν}

/-- a row after the statements of a loop -/
def swept (sel : α → ρ → Bool) (change : α → ρ → ρ) (xs : List α) (r : ρ) : ρ :=
  xs.foldl (fun r x => if sel x r then change x r else r) r

variable {xs : List α}

theorem swept_of_none (h : ∀ x ∈ xs, sel x r = false) : swept sel change xs r = r := by
  induction xs with
  | nil => rfl
  | cons x xs ih =>
    show swept sel change xs (if sel x r then change x r else r) = r
    rw [h x (by simp), if_neg (by simp)]
    exact ih fun y hy => h y (by simp [hy])

theorem swept_keeps {P : ρ → Prop} (hP : ∀ x r, P r → P (change x r)) {xs : List α} {r : ρ}
    (h : P r) : P (swept sel change xs r) := by
  induction xs generalizing r with
  | nil => exact h
  | cons x xs ih =>
    show P (swept sel change xs (if sel x r then change x r else r))
    refine ih ?_
    split
    · exact hP x r h
    · exact h

/-- a row that some statement selects is as that statement, or a later one, leaves it -/
theorem swept_of_some (hsel : ∀ x y r, sel x (change y r) = sel x r) {P : ρ → Prop} {xs : List α}
    (hP : ∀ x ∈ xs, ∀ r, P (change x r)) {r : ρ} (h : ∃ x ∈ xs, sel x r = true) :
    P (swept sel change xs r) := by
  induction xs generalizing r with
  | nil => simp at h
  | cons x xs ih =>
    show P (swept sel change xs (if sel x r then change x r else r))
    have hkeep : ∀ y, sel y (if sel x r then change x r else r) = sel y r := by
      intro y
      split
      · exact hsel y x r
      · rfl
    by_cases hlater : ∃ y ∈ xs, sel y r = true
    · obtain ⟨y, hy, hs⟩ := hlater
      exact ih (fun y hy => hP y (by simp [hy])) ⟨y, hy, by rw [hkeep, hs]⟩
    have hnone : ∀ y ∈ xs, sel y (if sel x r then change x r else r) = false := by
      intro y hy
      rw [hkeep, ← Bool.not_eq_true]
      exact fun hs => hlater ⟨y, hy, hs⟩
    rw [swept_of_none hnone]
    obtain ⟨y, hy, hs⟩ := h
    rcases mem_cons.mp hy with rfl | hy
    · rw [if_pos hs]
      exact hP y (by simp) r
    · exact absurd ⟨y, hy, hs⟩ hlater

/-- each statement of the loop changes one row at most and gives it one new entry, its mark -/
structure Marked (t : Relation σ) (sel : α → ρ → Bool) (change : α → ρ → ρ) (mark : α → ν)
    (xs : List α) : Prop where
  check : ∀ x ∈ xs, ∀ r, σ.check r = true → σ.check (change x r) = true
  entry : ∀ x r, ∀ e ∈ σ.entries (change x r), e ∈ σ.entries r ∨ e = mark x
  one : ∀ x, ∀ r ∈ t.rows, ∀ r' ∈ t.rows, sel x r = true → sel x r' = true → r = r'
  marks : (xs.map mark).Nodup
  free : ∀ x ∈ xs, ∀ r ∈ t.rows, mark x ∉ σ.entries r

theorem Marked.fits {t : Relation σ} {x : α}
    (h : t.Marked sel change mark (x :: xs)) : t.Fits (sel x) (change x) := by
  refine fits_of_one (h.one x) (fun r hr hp => h.check x (by simp) r (t.checked r hr)) ?_
  intro r hr hp e he
  refine (h.entry x r e he).imp_right fun hmark r' hr' => ?_
  rw [hmark]
  exact h.free x (by simp) r' hr'

theorem Marked.tail (hsel : ∀ x y r, sel x (change y r) = sel x r) {t t' : Relation σ} {x : α}
    (h : t.Marked sel change mark (x :: xs))
    (ht' : t'.rows = t.rows.map fun r => if sel x r then change x r else r) :
    t'.Marked sel change mark xs where
  check := fun y hy => h.check y (by simp [hy])
  entry := h.entry
  one := fun y r hr r' hr' hs hs' => by
    rw [ht'] at hr hr'
    obtain ⟨a, ha, rfl⟩ := List.mem_map.mp hr
    obtain ⟨b, hb, rfl⟩ := List.mem_map.mp hr'
    have hkeep : ∀ r, sel y (if sel x r then change x r else r) = sel y r := by
      intro r
      split
      · exact hsel y x r
      · rfl
    rw [hkeep] at hs hs'
    rw [h.one y a ha b hb hs hs']
  marks := (nodup_cons.mp h.marks).2
  free := fun y hy r hr he => by
    rw [ht'] at hr
    obtain ⟨a, ha, rfl⟩ := mem_map.mp hr
    have hold := h.free y (by simp [hy]) a ha
    split at he
    · rcases h.entry x a _ he with he | he
      · exact hold he
      · exact (nodup_cons.mp h.marks).1 (he ▸ mem_map_of_mem hy)
    · exact hold he

/-- **A loop of statements** goes through when the marks differ and nobody holds one of them. -/
theorem sweep_yields {t : Relation σ} (h : t.Marked sel change mark xs)
    (hsel : ∀ x y r, sel x (change y r) = sel x r) (hstep : ∀ t x, t.Fits (sel x) (change x) →
      Yields (fun t' => t'.rows = t.rows.map fun r => if sel x r then change x r else r) E
        (step t x)) :
    Yields (fun t' => t'.rows = t.rows.map (swept sel change xs)) E (xs.foldlM step t) := by
  induction xs generalizing t with
  | nil =>
    show t.rows = t.rows.map _
    rw [show swept sel change ([] : List α) = id from rfl, map_id]
  | cons x xs ih =>
    refine (hstep t x h.fits).bind fun t' ht' => ?_
    refine (ih (h.tail hsel ht')).mono (fun t'' ht'' => ?_) fun _ he => he
    rw [ht'', ht', map_map]
    rfl

end

end Relation

end Durable
