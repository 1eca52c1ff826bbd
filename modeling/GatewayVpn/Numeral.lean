import GatewayVpn.Text

/-!
# Decimal numerals as texts

Numbers are stored and compared as texts.  Here the order of the texts is set against the order
of the numbers: the two agree on numerals of one length, and without leading zeroes the longer
numeral is the larger number.
-/

namespace GatewayVpn

open List

/-! ## the order of texts -/

theorem lexLess_iff (s t : List Char) : lexLess s t = true ↔ s < t := by
  induction s generalizing t with
  | nil =>
    cases t with
    | nil => simp [lexLess]
    | cons d ds => simp [lexLess]
  | cons c cs ih =>
    cases t with
    | nil => simp [lexLess]
    | cons d ds =>
    rw [cons_lt_cons_iff, ← ih ds]
    simp [lexLess]

theorem append_lt_append_left (s : List Char) {t u : List Char} : s ++ t < s ++ u ↔ t < u := by
  induction s with
  | nil => exact Iff.rfl
  | cons c cs ih =>
    show c :: (cs ++ t) < c :: (cs ++ u) ↔ t < u
    rw [cons_lt_cons_iff, ih]
    simp

/-- texts that differ within their first parts, of one length, are ordered by those parts -/
theorem append_lt_append {s t u v : List Char} (hlen : s.length = t.length) (hne : s ≠ t) :
    s ++ u < t ++ v ↔ s < t := by
  induction s generalizing t with
  | nil =>
    rw [length_nil] at hlen
    exact absurd (length_eq_zero_iff.mp hlen.symm).symm hne
  | cons c cs ih =>
    cases t with
    | nil => simp at hlen
    | cons d ds =>
    show c :: (cs ++ u) < d :: (ds ++ v) ↔ c :: cs < d :: ds
    rw [cons_lt_cons_iff, cons_lt_cons_iff]
    by_cases hcd : c = d
    · subst hcd
      have hrest : cs ++ u < ds ++ v ↔ cs < ds :=
        ih (by simpa using hlen) (fun h => hne (by rw [h]))
      rw [hrest]
    · simp [hcd]

/-! ## reading a numeral -/

def digitValue (c : Char) : Nat := c.toNat - '0'.toNat

def decimal (s : List Char) : Nat := s.foldl (fun n c => 10 * n + digitValue c) 0

theorem foldl_decimal (s : List Char) (n : Nat) :
    s.foldl (fun n c => 10 * n + digitValue c) n = n * 10 ^ s.length + decimal s := by
  induction s generalizing n with
  | nil => simp [decimal]
  | cons c cs ih =>
    have hc : decimal (c :: cs) = digitValue c * 10 ^ cs.length + decimal cs := by
      show cs.foldl _ (10 * 0 + digitValue c) = _
      rw [Nat.mul_zero, Nat.zero_add, ih]
    rw [hc, foldl_cons, ih, length_cons]
    ring

theorem decimal_nil : decimal [] = 0 := rfl

theorem decimal_cons (c : Char) (s : List Char) :
    decimal (c :: s) = digitValue c * 10 ^ s.length + decimal s := by
  show s.foldl _ (10 * 0 + digitValue c) = _
  rw [Nat.mul_zero, Nat.zero_add, foldl_decimal]

theorem isDigit_iff (c : Char) : isDigit c = true ↔ 48 ≤ c.toNat ∧ c.toNat ≤ 57 := by
  rw [isDigit, Bool.and_eq_true, decide_eq_true_eq, decide_eq_true_eq]
  exact Iff.rfl

theorem char_lt_iff (c d : Char) : c < d ↔ c.toNat < d.toNat := Iff.rfl

theorem digitValue_lt {c : Char} (hc : isDigit c) : digitValue c < 10 := by
  have h := (isDigit_iff c).mp hc
  have h0 : '0'.toNat = 48 := rfl
  rw [digitValue]
  omega

theorem digitValue_lt_iff {c d : Char} (hc : isDigit c) (hd : isDigit d) :
    digitValue c < digitValue d ↔ c < d := by
  have h := (isDigit_iff c).mp hc
  have h' := (isDigit_iff d).mp hd
  have h0 : '0'.toNat = 48 := rfl
  rw [char_lt_iff, digitValue, digitValue]
  omega

theorem decimal_lt {s : List Char} (hs : s.all isDigit) : decimal s < 10 ^ s.length := by
  induction s with
  | nil => simp [decimal_nil]
  | cons c cs ih =>
    rw [all_cons, Bool.and_eq_true] at hs
    have hc := digitValue_lt hs.1
    have hcs := ih hs.2
    rw [decimal_cons, length_cons, Nat.pow_succ]
    nlinarith

/-- **numerals of one length are ordered as the numbers they denote** -/
theorem decimal_lt_iff {s t : List Char} (hs : s.all isDigit) (ht : t.all isDigit)
    (hlen : s.length = t.length) : decimal s < decimal t ↔ s < t := by
  induction s generalizing t with
  | nil =>
    have ht' : t = [] := length_eq_zero_iff.mp hlen.symm
    subst ht'
    simp
  | cons c cs ih =>
    cases t with
    | nil => simp at hlen
    | cons d ds =>
    rw [all_cons, Bool.and_eq_true] at hs ht
    have hlen' : cs.length = ds.length := by simpa using hlen
    have hrest := ih hs.2 ht.2 hlen'
    have hcs := decimal_lt hs.2
    have hds := decimal_lt ht.2
    rw [decimal_cons, decimal_cons, cons_lt_cons_iff, ← hrest,
      ← digitValue_lt_iff hs.1 ht.1, hlen']
    rw [hlen'] at hcs
    -- the leading digits decide unless they are equal
    rcases lt_trichotomy (digitValue c) (digitValue d) with hlt | heq | hgt
    · have : digitValue c * 10 ^ ds.length + decimal cs <
          digitValue d * 10 ^ ds.length + decimal ds := by nlinarith
      simp [this, hlt]
    · have hcd : c = d := by
        have h1 := mt (digitValue_lt_iff hs.1 ht.1).mpr (by omega)
        have h2 := mt (digitValue_lt_iff ht.1 hs.1).mpr (by omega)
        exact le_antisymm (not_lt.mp h2) (not_lt.mp h1)
      simp [hcd]
    have hnot : ¬ (digitValue c * 10 ^ ds.length + decimal cs <
        digitValue d * 10 ^ ds.length + decimal ds) := by nlinarith
    have hne : c ≠ d := by
      rintro rfl
      exact lt_irrefl _ hgt
    simp [hnot, hne, hgt.le]

/-- **without a leading zero, a longer numeral denotes a larger number** -/
theorem decimal_lt_of_length {s t : List Char} (hs : s.all isDigit) (ht : t.all isDigit)
    (hlead : t.head? ≠ some '0') (hlen : s.length < t.length) : decimal s < decimal t := by
  cases t with
  | nil => simp at hlen
  | cons d ds =>
  rw [all_cons, Bool.and_eq_true] at ht
  have hd : 1 ≤ digitValue d := by
    have h := (isDigit_iff d).mp ht.1
    have hne : d.toNat ≠ 48 := fun h48 => hlead (by
      rw [head?_cons, Char.toNat_inj.mp (h48.trans (show (48 : Nat) = '0'.toNat from rfl))])
    have h0 : '0'.toNat = 48 := rfl
    rw [digitValue]
    omega
  have hpow : 10 ^ s.length ≤ 10 ^ ds.length :=
    Nat.pow_le_pow_right (by norm_num) (by simpa [Nat.lt_succ_iff] using hlen)
  have hs' := decimal_lt hs
  rw [decimal_cons]
  nlinarith

/-! ## writing a numeral with a fixed number of digits -/

def digitChar (n : Nat) : Char := Char.ofNat (48 + n % 10)

/-- the last `width` digits of a number -/
def pad : Nat → Nat → List Char
  | 0, _ => []
  | width + 1, n => pad width (n / 10) ++ [digitChar n]

theorem length_pad (width n : Nat) : (pad width n).length = width := by
  induction width generalizing n with
  | zero => rfl
  | succ width ih => simp [pad, ih]

theorem digitChar_cases (n : Nat) : isDigit (digitChar n) ∧ digitValue (digitChar n) = n % 10 := by
  have hlt : n % 10 < 10 := Nat.mod_lt _ (by norm_num)
  unfold digitChar
  interval_cases h : n % 10 <;> exact ⟨by decide, by decide⟩

theorem all_isDigit_pad (width n : Nat) : (pad width n).all isDigit := by
  induction width generalizing n with
  | zero => rfl
  | succ width ih => simp [pad, ih, (digitChar_cases n).1]

theorem decimal_pad (width n : Nat) : decimal (pad width n) = n % 10 ^ width := by
  induction width generalizing n with
  | zero => simp [pad, decimal_nil, Nat.mod_one]
  | succ width ih =>
    have happ : decimal (pad width (n / 10) ++ [digitChar n]) =
        10 * decimal (pad width (n / 10)) + digitValue (digitChar n) := by
      rw [decimal, foldl_append]
      rfl
    rw [pad, happ, ih, (digitChar_cases n).2, Nat.pow_succ', Nat.mod_mul]
    omega

/-- **written numerals are ordered as their numbers** -/
theorem pad_lt_iff {width n m : Nat} (hn : n < 10 ^ width) (hm : m < 10 ^ width) :
    pad width n < pad width m ↔ n < m := by
  rw [← decimal_lt_iff (all_isDigit_pad _ _) (all_isDigit_pad _ _)
    (by rw [length_pad, length_pad]), decimal_pad, decimal_pad, Nat.mod_eq_of_lt hn,
    Nat.mod_eq_of_lt hm]

theorem pad_inj {width n m : Nat} (hn : n < 10 ^ width) (hm : m < 10 ^ width) :
    pad width n = pad width m ↔ n = m := by
  constructor
  · intro h
    have hd := congrArg decimal h
    rwa [decimal_pad, decimal_pad, Nat.mod_eq_of_lt hn, Nat.mod_eq_of_lt hm] at hd
  · intro h
    rw [h]

end GatewayVpn
