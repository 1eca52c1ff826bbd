import Mathlib

/-!
# Tables with a primary key

A table is a list of rows in which the key column has no repetition.  The statements that change
a table keep that, so a row is always found by its key.
-/

namespace Durable

open List

structure Table {ρ κ : Type} (key : ρ → κ) where
  rows : List ρ
  nodup : (rows.map key).Nodup

namespace Table

variable {ρ κ : Type} {key : ρ → κ}

def empty : Table key := ⟨[], List.nodup_nil⟩

instance : Inhabited (Table key) := ⟨empty⟩

def updateWhere (t : Table key) (p : ρ → Bool) (f : ρ → ρ) (hf : ∀ r, key (f r) = key r) :
    Table key :=
  ⟨t.rows.map fun r => if p r then f r else r, by
    have h : (t.rows.map fun r => if p r then f r else r).map key = t.rows.map key := by
      rw [List.map_map]
      refine List.map_congr_left fun r _ => ?_
      show key (if p r then f r else r) = key r
      split
      · exact hf r
      · rfl
    rw [h]
    exact t.nodup⟩

def delete (t : Table key) (p : ρ → Bool) : Table key :=
  ⟨t.rows.filter fun r => !p r, (List.filter_sublist.map key).nodup t.nodup⟩

variable [DecidableEq κ] {r : ρ} {k : κ}

section
variable (t : Table key)

def find (k : κ) : Option ρ := t.rows.find? fun r => key r = k

theorem key_of_find {t : Table key} (h : t.find k = some r) : key r = k := by
  simpa using find?_some h

theorem mem_of_find {t : Table key} (h : t.find k = some r) : r ∈ t.rows :=
  mem_of_find?_eq_some h

theorem mem_iff_find {t : Table key} : r ∈ t.rows ↔ t.find (key r) = some r := by
  refine ⟨fun hr => ?_, mem_of_find⟩
  cases h : t.find (key r) with
  | none => exact absurd (find?_eq_none.mp h r hr) (by simp)
  | some r' =>
  rw [inj_on_of_nodup_map t.nodup (mem_of_find h) hr (key_of_find h)]

/-- `INSERT`: a taken key is a constraint violation -/
def insert (r : ρ) : Option (Table key) :=
  if h : key r ∈ t.rows.map key then none
  else some ⟨t.rows ++ [r], by
    rw [List.map_append, List.map_singleton, List.nodup_append]
    refine ⟨t.nodup, List.nodup_singleton _, ?_⟩
    intro a ha b hb hab
    rw [List.mem_singleton] at hb
    exact h (hb ▸ hab ▸ ha)⟩

/-- insert a row unless there is one with its key -/
def ensure (r : ρ) : Table key := (t.insert r).getD t

theorem find_ensure_self (r : ρ) : (t.ensure r).find (key r) = some ((t.find (key r)).getD r) := by
  rw [ensure, insert]
  split
  · next h =>
    obtain ⟨r', hr', hkey⟩ := mem_map.mp h
    have hfind : t.find (key r) = some r' := hkey ▸ mem_iff_find.mp hr'
    show t.find (key r) = _
    rw [hfind]
    rfl
  next h =>
  have hnone : t.find (key r) = none := by
    refine find?_eq_none.mpr fun r' hr' hkey => h ?_
    exact mem_map.mpr ⟨r', hr', of_decide_eq_true hkey⟩
  rw [hnone]
  show (t.rows ++ [r]).find? _ = some r
  have hlast : [r].find? (fun r' => decide (key r' = key r)) = some r := by simp
  rw [find?_append, hlast, show t.rows.find? _ = none from hnone]
  rfl

theorem find_ensure_ne {t : Table key} (hne : k ≠ key r) : (t.ensure r).find k = t.find k := by
  rw [ensure, insert]
  split
  · rfl
  show (t.rows ++ [r]).find? _ = t.find k
  have hlast : [r].find? (fun r' => decide (key r' = k)) = none := by simp [Ne.symm hne]
  rw [find?_append, hlast, Option.or_none]
  rfl

theorem find_insert {t t' : Table key} (h : t.insert r = some t') (k : κ) :
    t.find (key r) = none ∧ t'.find k = if k = key r then some r else t.find k := by
  have hnone : t.find (key r) = none := by
    rw [insert] at h
    split at h
    · cases h
    next hnew =>
    refine find?_eq_none.mpr fun r' hr' hkey => hnew ?_
    exact mem_map.mpr ⟨r', hr', of_decide_eq_true hkey⟩
  have ht' : t.ensure r = t' := by rw [ensure, h, Option.getD_some]
  refine ⟨hnone, ?_⟩
  split
  · next hk => rw [hk, ← ht', find_ensure_self, hnone, Option.getD_none]
  · next hk => rw [← ht', find_ensure_ne hk]

def ensureAll (rs : List ρ) : Table key := rs.foldl ensure t

theorem find_ensureAll (rs : List ρ) (k : κ) :
    (t.ensureAll rs).find k = (t.find k).or (rs.find? fun r => key r = k) := by
  induction rs generalizing t with
  | nil => exact (Option.or_none).symm
  | cons r rs ih =>
    show ((t.ensure r).ensureAll rs).find k = _
    rw [ih, find?_cons]
    by_cases hk : key r = k
    · subst hk
      rw [find_ensure_self]
      cases t.find (key r) <;> simp
    · rw [find_ensure_ne (Ne.symm hk), decide_eq_false hk]

def update (k : κ) (f : ρ → ρ) (hf : ∀ r, key (f r) = key r) : Table key :=
  t.updateWhere (fun r => key r = k) f hf

end

variable {f : ρ → ρ}

theorem find_updateWhere {t : Table key} {p : ρ → Bool} (hf : ∀ r, key (f r) = key r)
    (k : κ) : (t.updateWhere p f hf).find k = (t.find k).map fun r => if p r then f r else r := by
  have hkey : ∀ r, key (if p r then f r else r) = key r := by
    intro r
    split
    · exact hf r
    · rfl
  show (t.rows.map _).find? _ = (t.rows.find? _).map _
  rw [find?_map]
  congr 1
  refine find?_congr ?_
  intro r _
  show decide (key (if p r then f r else r) = k) = decide (key r = k)
  rw [hkey r]

theorem find_update {t : Table key} {k k' : κ} (hf : ∀ r, key (f r) = key r) :
    (t.update k f hf).find k' = (t.find k').map fun r => if key r = k then f r else r := by
  rw [update, find_updateWhere]
  simp

theorem find_update_ne {t : Table key} {k k' : κ} (hf : ∀ r, key (f r) = key r)
    (hne : k' ≠ k) : (t.update k f hf).find k' = t.find k' := by
  rw [find_update]
  cases h : t.find k' with
  | none => rfl
  | some r =>
  have : key r ≠ k := by
    rw [key_of_find h]
    exact hne
  simp [this]

theorem find_update_self {t : Table key} (hf : ∀ r, key (f r) = key r) :
    (t.update k f hf).find k = (t.find k).map f := by
  rw [find_update]
  cases h : t.find k with
  | none => rfl
  | some r => simp [key_of_find h]

theorem find_delete {t : Table key} {p : ρ → Bool} :
    (t.delete p).find k = some r ↔ t.find k = some r ∧ p r = false := by
  constructor
  · intro h
    obtain ⟨hmem, hp⟩ := mem_filter.mp (mem_of_find h)
    refine ⟨?_, by simpa using hp⟩
    rw [← key_of_find h]
    exact mem_iff_find.mp hmem
  · rintro ⟨h, hp⟩
    have hmem : r ∈ (t.delete p).rows := mem_filter.mpr ⟨mem_of_find h, by simp [hp]⟩
    rw [← key_of_find h]
    exact mem_iff_find.mp hmem

end Table

/-! ## ordered queries -/

section
variable {ρ : Type} {before : ρ → ρ → Bool}

/-- `ORDER BY … LIMIT 1`: the first row that no other row comes before -/
def firstBy (before : ρ → ρ → Bool) (rows : List ρ) : Option ρ :=
  rows.foldl (fun best r => match best with
    | none => some r
    | some b => if before r b then some r else some b) none

theorem firstBy_append_singleton (rows : List ρ) (r : ρ) :
    firstBy before (rows ++ [r]) = match firstBy before rows with
      | none => some r
      | some b => if before r b then some r else some b := by
  rw [firstBy, foldl_append]
  rfl

variable {x : ρ}

theorem mem_of_firstBy {rows : List ρ} (h : firstBy before rows = some x) : x ∈ rows := by
  induction rows using reverseRecOn generalizing x with
  | nil => cases h
  | append_singleton rows r ih =>
    rw [firstBy_append_singleton] at h
    cases hrows : firstBy before rows with
    | none =>
      rw [hrows] at h
      cases h
      simp
    | some b =>
    rw [hrows] at h
    dsimp only at h
    split at h
    · cases h
      simp
    · cases h
      simp [ih hrows]

theorem firstBy_isSome {rows : List ρ} (hne : rows ≠ []) : (firstBy before rows).isSome := by
  obtain ⟨init, r, rfl⟩ := eq_nil_or_concat' rows |>.resolve_left hne
  rw [firstBy_append_singleton]
  cases firstBy before init with
  | none => rfl
  | some b =>
  dsimp only
  split <;> rfl

/-- a row that comes before all rows above it and before which none below it comes is the first -/
theorem firstBy_split {pre post : List ρ} (hpre : ∀ r ∈ pre, before x r = true)
    (hpost : ∀ r ∈ post, before r x = false) : firstBy before (pre ++ x :: post) = some x := by
  induction post using reverseRecOn with
  | nil =>
    rw [firstBy_append_singleton]
    cases h : firstBy before pre with
    | none => rfl
    | some b =>
    dsimp only
    rw [if_pos (hpre b (mem_of_firstBy h))]
  | append_singleton post r ih =>
    have hrest := ih fun r hr => hpost r (by simp [hr])
    rw [← cons_append, ← append_assoc, firstBy_append_singleton, hrest]
    dsimp only
    rw [if_neg (by simp [hpost r (by simp)])]

section
variable (htrans : ∀ a b c, before a b = true → before b c = true → before a c = true)
  (hweak : ∀ a b c, before a c = true → before a b = true ∨ before b c = true) {rows : List ρ}
include htrans hweak rows

/-- **The first row of a query**, when the order is a strict weak one. -/
theorem firstBy_iff : firstBy before rows = some x ↔ ∃ pre post, rows = pre ++ x :: post ∧
      (∀ r ∈ pre, before x r = true) ∧ ∀ r ∈ post, before r x = false := by
  constructor
  · induction rows using reverseRecOn generalizing x with
    | nil => intro h; cases h
    | append_singleton rows r ih =>
      intro h
      rw [firstBy_append_singleton] at h
      cases hrows : firstBy before rows with
      | none =>
        rw [hrows] at h
        cases h
        have hnil : rows = [] := by
          by_contra hne
          simpa [hrows] using @firstBy_isSome ρ before rows hne
        exact ⟨[], [], by rw [hnil], by simp, by simp⟩
      | some b =>
      rw [hrows] at h
      dsimp only at h
      obtain ⟨pre, post, hsplit, hpre, hpost⟩ := ih hrows
      split at h
      · next hbefore =>
        cases h
        -- `r` comes before the first of the rows above it, so before all of them
        refine ⟨rows, [], rfl, ?_, by simp⟩
        intro y hy
        rw [hsplit, mem_append, mem_cons] at hy
        rcases hy with hy | rfl | hy
        · exact htrans r b y hbefore (hpre y hy)
        · exact hbefore
        · refine (hweak r y b hbefore).resolve_right ?_
          simp [hpost y hy]
      next hafter =>
      cases h
      refine ⟨pre, post ++ [r], by rw [hsplit]; simp, hpre, ?_⟩
      intro y hy
      rcases mem_append.mp hy with hy | hy
      · exact hpost y hy
      · rw [mem_singleton.mp hy]
        simpa using hafter
  · rintro ⟨pre, post, rfl, hpre, hpost⟩
    exact firstBy_split hpre hpost

theorem firstBy_filter_iff {p : ρ → Bool} :
    firstBy before (rows.filter p) = some x ↔ p x = true ∧ ∃ pre post, rows = pre ++ x :: post ∧
      (∀ r ∈ pre, p r = true → before x r = true) ∧
      ∀ r ∈ post, p r = true → before r x = false := by
  rw [firstBy_iff htrans hweak]
  constructor
  · rintro ⟨pre', post', hsplit, hpre, hpost⟩
    obtain ⟨pre, rest, rfl, rfl, hrest⟩ := filter_eq_append_iff.mp hsplit
    obtain ⟨skipped, post, rfl, hskipped, hx, rfl⟩ := filter_eq_cons_iff.mp hrest
    refine ⟨hx, pre ++ skipped, post, by simp, ?_, ?_⟩
    · intro r hr hp
      rcases mem_append.mp hr with hr | hr
      · exact hpre r (mem_filter.mpr ⟨hr, hp⟩)
      · exact absurd hp (hskipped r hr)
    · exact fun r hr hp => hpost r (mem_filter.mpr ⟨hr, hp⟩)
  · rintro ⟨hx, pre, post, rfl, hpre, hpost⟩
    refine ⟨pre.filter p, post.filter p, by simp [hx], ?_, ?_⟩
    · exact fun r hr => hpre r (mem_filter.mp hr).1 (mem_filter.mp hr).2
    · exact fun r hr => hpost r (mem_filter.mp hr).1 (mem_filter.mp hr).2

end

theorem firstBy_map {f : ρ → ρ} {rows : List ρ}
    (hf : ∀ a ∈ rows, ∀ b ∈ rows, before (f a) (f b) = before a b) :
    firstBy before (rows.map f) = (firstBy before rows).map f := by
  induction rows using reverseRecOn with
  | nil => rfl
  | append_singleton rows r ih =>
    have hrest := ih fun a ha b hb => hf a (by simp [ha]) b (by simp [hb])
    rw [map_append, map_singleton, firstBy_append_singleton, firstBy_append_singleton,
      hrest]
    cases h : firstBy before rows with
    | none => rfl
    | some b =>
    dsimp only [Option.map_some]
    rw [hf r (by simp) b (by simp [mem_of_firstBy h])]
    split <;> rfl

end

end Durable
