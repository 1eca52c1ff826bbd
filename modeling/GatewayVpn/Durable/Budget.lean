import Mathlib

/-!
# Budgets that survive a crash

A budget admits at most `limit` calls in any period of length `window`, and none within `pause`
of the one before.  It is kept in a *book*, the list of the times at which attempts were recorded;
entries that have left the window are dropped, and an attempt is recorded before its call is made.
A crash can lose the entries that were not stored, but not those whose calls were made.
-/

set_option linter.unusedVariables false
set_option linter.unusedSectionVars false

namespace Durable

open List

variable {τ : Type} [AddCommGroup τ] [LinearOrder τ] [IsOrderedAddMonoid τ]
variable {window pause now : τ} {limit : ℕ} {calls book : List τ}

/-! ## the window -/

def within (window now : τ) (ts : List τ) : List τ := ts.filter (now - window ≤ ·)

theorem within_append (ts us : List τ) :
    within window now (ts ++ us) = within window now ts ++ within window now us :=
  filter_append ..

theorem within_sublist (ts : List τ) : (within window now ts).Sublist ts := List.filter_sublist

theorem mem_within {t : τ} {ts : List τ} :
    t ∈ within window now ts ↔ t ∈ ts ∧ now - window ≤ t := by
  simp [within]

theorem within_mono {ts us : List τ} (h : ts.Sublist us) :
    (within window now ts).Sublist (within window now us) := h.filter _

theorem within_within {later : τ} (h : now ≤ later) (ts : List τ) :
    within window later (within window now ts) = within window later ts := by
  rw [within, within, filter_filter]
  refine filter_congr fun t _ => ?_
  have : later - window ≤ t → now - window ≤ t := le_trans (sub_le_sub_right h window)
  by_cases ht : later - window ≤ t <;> simp [ht, this]

theorem within_now (hwindow : 0 ≤ window) (ts : List τ) :
    within window now (ts ++ [now]) = within window now ts ++ [now] := by
  simp [within, hwindow]

/-! ## the book -/

/-- the book holds every call that the window covers, in order, after what it began with -/
def Covers (window now : τ) (calls book : List τ) : Prop :=
  ∃ old new, book = old ++ new ∧ new.Pairwise (· ≤ ·) ∧ (∀ t ∈ new, t ≤ now) ∧
    (within window now calls).Sublist new

theorem covers_nil (book : List τ) : Covers window now [] book :=
  ⟨book, [], (append_nil _).symm, .nil, fun _ h => absurd h not_mem_nil, .slnil⟩

theorem Covers.later {t : τ} (h : Covers window now calls book) (ht : now ≤ t) :
    Covers window t calls book := by
  obtain ⟨old, new, rfl, hsorted, hpast, hcalls⟩ := h
  refine ⟨old, new, rfl, hsorted, fun x hx => le_trans (hpast x hx) ht, ?_⟩
  rw [← within_within ht]
  exact (within_mono hcalls).trans (within_sublist new)

theorem Covers.prune (h : Covers window now calls book) :
    Covers window now calls (within window now book) := by
  obtain ⟨old, new, rfl, hsorted, hpast, hcalls⟩ := h
  refine ⟨within window now old, within window now new, within_append .., ?_, ?_, ?_⟩
  · exact hsorted.sublist (within_sublist new)
  · exact fun x hx => hpast x (mem_within.mp hx).1
  · rw [← within_within le_rfl]
    exact within_mono hcalls

theorem Covers.record (h : Covers window now calls book) :
    Covers window now calls (book ++ [now]) := by
  obtain ⟨old, new, rfl, hsorted, hpast, hcalls⟩ := h
  refine ⟨old, new ++ [now], append_assoc .., ?_, ?_, ?_⟩
  · exact pairwise_append.mpr ⟨hsorted, pairwise_singleton .., by simpa using hpast⟩
  · simpa [or_imp, forall_and] using hpast
  · exact hcalls.trans (sublist_append_left ..)

theorem Covers.call (hwindow : 0 ≤ window) (h : Covers window now calls book) :
    Covers window now (calls ++ [now]) (book ++ [now]) := by
  obtain ⟨old, new, rfl, hsorted, hpast, hcalls⟩ := h
  refine ⟨old, new ++ [now], append_assoc .., ?_, ?_, ?_⟩
  · exact pairwise_append.mpr ⟨hsorted, pairwise_singleton .., by simpa using hpast⟩
  · simpa [or_imp, forall_and] using hpast
  · rw [within_now hwindow]
    exact hcalls.append (List.Sublist.refl _)

theorem Covers.count (h : Covers window now calls book)
    (hroom : (within window now book).length < limit) :
    (within window now calls).length < limit := by
  obtain ⟨old, new, rfl, -, -, hcalls⟩ := h
  refine lt_of_le_of_lt ?_ hroom
  rw [← within_within (le_refl now), within_append, length_append]
  exact le_trans (within_mono hcalls).length_le (Nat.le_add_left ..)

theorem Covers.le_last {r : τ} (h : Covers window now calls book) (hr : r ∈ calls)
    (hnear : now - window ≤ r) :
    ∃ last, (within window now book).getLast? = some last ∧ r ≤ last := by
  obtain ⟨old, new, rfl, hsorted, -, hcalls⟩ := h
  have hmem : r ∈ within window now new :=
    mem_within.mpr ⟨hcalls.subset (mem_within.mpr ⟨hr, hnear⟩), hnear⟩
  obtain ⟨pre, last, hpre⟩ := eq_nil_or_concat'  (within window now new) |>.resolve_left
    (ne_nil_of_mem hmem)
  refine ⟨last, ?_, ?_⟩
  · rw [within_append, hpre, ← append_assoc, getLast?_concat]
  have hwithin : (within window now new).Sublist new := within_sublist new
  have hpair := hsorted.sublist hwithin
  rw [hpre] at hpair hmem
  rcases mem_append.mp hmem with hmem | hmem
  · exact (pairwise_append.mp hpair).2.2 r hmem last (mem_singleton.mpr rfl)
  · exact le_of_eq (mem_singleton.mp hmem)

theorem Covers.apart {r : τ} (h : Covers window now calls book) (hwindow : pause ≤ window)
    (hlast : ∀ last, (within window now book).getLast? = some last → last + pause ≤ now)
    (hr : r ∈ calls) : r + pause ≤ now := by
  by_cases hnear : now - window ≤ r
  · obtain ⟨last, hget, hle⟩ := h.le_last hr hnear
    exact le_trans (add_le_add_left hle pause) (hlast last hget)
  · have hfar : r + window < now := lt_sub_iff_add_lt.mp (not_le.mp hnear)
    exact le_trans (add_le_add_right hwindow r) hfar.le

/-! ## the calls -/

/-- at every call fewer than `limit` calls were in the window, and none within the pause -/
def Sparse (limit : ℕ) (window pause : τ) (calls : List τ) : Prop :=
  ∀ pre t post, calls = pre ++ t :: post →
    (within window t pre).length < limit ∧ ∀ r ∈ pre, r + pause ≤ t

theorem sparse_nil : Sparse limit window pause [] := by
  intro pre t post h
  cases pre <;> cases h

theorem Sparse.concat (h : Sparse limit window pause calls)
    (hroom : (within window now calls).length < limit) (hapart : ∀ r ∈ calls, r + pause ≤ now) :
    Sparse limit window pause (calls ++ [now]) := by
  intro pre t post heq
  rcases eq_nil_or_concat' post with rfl | ⟨init, last, rfl⟩
  · obtain ⟨rfl, hlast⟩ := append_inj' heq rfl
    obtain rfl := (cons.inj hlast).1
    exact ⟨hroom, hapart⟩
  · rw [← cons_append, ← append_assoc] at heq
    exact h pre t init (append_inj' heq rfl).1

theorem Sparse.init {t : τ} (h : Sparse limit window pause (calls ++ [t])) :
    Sparse limit window pause calls := by
  rintro pre x post rfl
  exact h pre x (post ++ [t]) (by simp)

/-- **At most `limit` calls in any period of the length of the window.** -/
theorem Sparse.period (h : Sparse limit window pause calls) (s : τ) :
    (calls.filter fun t => s ≤ t ∧ t ≤ s + window).length ≤ limit := by
  induction calls using reverseRecOn with
  | nil => exact Nat.zero_le _
  | append_singleton calls t ih =>
    rw [filter_append, length_append]
    by_cases ht : s ≤ t ∧ t ≤ s + window
    · have hsub : (calls.filter fun x => s ≤ x ∧ x ≤ s + window).Sublist
          (within window t calls) := by
        refine monotone_filter_right _ fun x hx => ?_
        have hx : s ≤ x ∧ x ≤ s + window := by simpa using hx
        simpa using le_trans (sub_le_iff_le_add.mpr ht.2) hx.1
      have hroom := (h calls t [] rfl).1
      have hone : ([t].filter fun x => s ≤ x ∧ x ≤ s + window).length ≤ 1 :=
        length_filter_le ..
      have := hsub.length_le
      omega
    · have hnone : ([t].filter fun x => s ≤ x ∧ x ≤ s + window) = [] := by simp [ht]
      rw [hnone]
      exact ih h.init

/-- **Two calls are at least the pause apart.** -/
theorem Sparse.apart (h : Sparse limit window pause calls) :
    calls.Pairwise fun r t => r + pause ≤ t := by
  induction calls using reverseRecOn with
  | nil => exact .nil
  | append_singleton calls t ih =>
    refine pairwise_append.mpr ⟨ih h.init, pairwise_singleton .., fun r hr x hx => ?_⟩
    obtain rfl := mem_singleton.mp hx
    exact (h calls x [] rfl).2 r hr

/-- calls that are recorded at `a.1` and made at `a.2`, at most `delay` later -/
theorem Sparse.delayed {delay : τ} {made : List (τ × τ)}
    (h : Sparse limit window pause (made.map Prod.fst))
    (hmade : ∀ a ∈ made, a.1 ≤ a.2 ∧ a.2 ≤ a.1 + delay) :
    (∀ s, (made.filter fun a => s ≤ a.2 ∧ a.2 ≤ s + (window - delay)).length ≤ limit) ∧
      made.Pairwise fun a b => a.2 + (pause - delay) ≤ b.2 := by
  constructor
  · intro s
    have hperiod := h.period (s - delay)
    rw [filter_map, length_map, ← countP_eq_length_filter] at hperiod
    rw [← countP_eq_length_filter]
    refine le_trans (countP_mono_left fun a ha hin => ?_) hperiod
    obtain ⟨hle, hlate⟩ := hmade a ha
    obtain ⟨hs, he⟩ : s ≤ a.2 ∧ a.2 ≤ s + (window - delay) := by simpa using hin
    have hbefore : s - delay ≤ a.1 := sub_le_iff_le_add.mpr (le_trans hs hlate)
    have hafter : a.1 ≤ s - delay + window :=
      le_trans hle (le_trans he (le_of_eq (by abel)))
    exact decide_eq_true ⟨hbefore, hafter⟩
  refine (pairwise_map.mp h.apart).imp_of_mem fun {a b} ha hb hab => ?_
  have := (hmade a ha).2
  calc a.2 + (pause - delay) ≤ a.1 + delay + (pause - delay) := by gcongr
    _ = a.1 + pause := by abel
    _ ≤ b.1 := hab
    _ ≤ b.2 := (hmade b hb).1

end Durable
