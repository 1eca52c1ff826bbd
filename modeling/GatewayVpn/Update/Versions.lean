import GatewayVpn.Update.Contract

/-!
# Update: the precedence of versions

`compareVersions` against the precedence of SemVer 2.0.0.  The precedence is given by a key in a
linear order: the numeric core, then the pre-release identifiers, with a release above all its
pre-releases, numeric identifiers below all others, and a proper prefix below the longer list.
The comparison agrees with it except where `strconv.ParseUint` gives up on a numeric identifier
and the comparison falls back to the order of texts.
-/

namespace GatewayVpn.Update

open List Option

/-! ## the precedence -/

/-- a pre-release identifier: a number of any length, or a text -/
abbrev IdentifierKey := ℕ ⊕ₗ List Char

def identifierKey (x : List Char) : IdentifierKey :=
  if x.all isDigit then toLex (.inl (decimal x)) else toLex (.inr x)

abbrev PrecedenceKey := ℕ ×ₗ ℕ ×ₗ ℕ ×ₗ WithTop (List IdentifierKey)

section
variable (value : String)

def coreText : List Char := (cut '-' (cut '+' value.toList).1).1
def prereleaseText (value : String) : Option (List Char) := (cut '-' (cut '+' value.toList).1).2

def coreNumber (i : Nat) : ℕ := decimal ((fields '.' (coreText value)).getD i [])

/-- the pre-release identifiers; a release has none and stands above its pre-releases -/
def prereleaseKey : WithTop (List IdentifierKey) :=
  match prereleaseText value with
  | none => ⊤
  | some text => ↑((fields '.' text).map identifierKey)

/-- the SemVer 2.0.0 precedence of a version; its build metadata is not part of it -/
def precedence : PrecedenceKey :=
  toLex (coreNumber value 0, toLex (coreNumber value 1, toLex (coreNumber value 2,
    prereleaseKey value)))

end

/-! ## where the text order may be used -/

def firstDifference {α : Type} [DecidableEq α] : List α → List α → Option (α × α)
  | a :: as, b :: bs => if a = b then firstDifference as bs else some (a, b)
  | _, _ => none

/-- a number too large for 64 bits -/
def oversized (x : List Char) : Bool := x.all isDigit && 2 ^ 64 ≤ decimal x

/-- the text order of two identifiers is their precedence wherever a number above 64 bits leaves
the comparison to it: two such numbers have equally many digits, or the shorter is also first as a
text; one such number stands before a text -/
def Legible (x y : List Char) : Prop :=
  (oversized x = true → oversized y = true → x.length ≠ y.length → (x.length < y.length ↔ x < y)) ∧
    (oversized x = true → y.all isDigit = false → x < y) ∧
    (x.all isDigit = false → oversized y = true → y < x)

/-- the condition on two versions: equal cores and two pre-releases leave the decision to their
first different identifiers, and these must be legible -/
def Readable (left right : String) : Prop :=
  ∀ p q x y, (∀ i, i < 3 → coreNumber left i = coreNumber right i) →
    prereleaseText left = some p → prereleaseText right = some q →
    firstDifference (fields '.' p) (fields '.' q) = some (x, y) → Legible x y

/-! ## orders -/

variable {o : Ordering}

section
variable {α β : Type} [LinearOrder α] [LinearOrder β]

/-- a field decides a lexicographic comparison unless it is equal -/
theorem compares_then {o' : Ordering} {a b : α} {s t : β} (ho : o.Compares a b) :
    (o.then o').Compares (toLex (a, s)) (toLex (b, t)) ↔ (o = .eq → o'.Compares s t) := by
  cases o with
  | lt => simpa [Ordering.then, Ordering.Compares, Prod.Lex.toLex_lt_toLex] using Or.inl ho
  | gt => simpa [Ordering.then, Ordering.Compares, Prod.Lex.toLex_lt_toLex] using Or.inl ho
  | eq =>
  have hab : a = b := ho
  subst hab
  cases o' <;> simp [Ordering.then, Ordering.Compares, Prod.Lex.toLex_lt_toLex]

theorem compares_cons_self (a : α) (l m : List α) :
    o.Compares (a :: l) (a :: m) ↔ o.Compares l m := by
  cases o <;> simp [Ordering.Compares]

theorem compares_cons_of_ne {a b : α} (hne : a ≠ b) (l m : List α) :
    o.Compares (a :: l) (b :: m) ↔ o.Compares a b := by
  cases o <;> simp [Ordering.Compares, cons_lt_cons_iff, hne, hne.symm]

/-- a two-way test on different values is right exactly when it tests their order -/
theorem compares_ite {a b : α} (hne : a ≠ b) (p : Prop) [Decidable p] :
    (if p then Ordering.lt else Ordering.gt).Compares a b ↔ (p ↔ a < b) := by
  by_cases hp : p
  · simp [hp, Ordering.Compares]
  · simp [hp, Ordering.Compares, hne.symm.le_iff_lt]

end

/-! ## splitting a text -/

theorem fields_ne_nil (sep : Char) (s : List Char) : fields sep s ≠ [] := by
  cases s with
  | nil => simp [fields]
  | cons c cs =>
  rw [fields]
  split
  · simp
  · split <;> simp

/-- the fields of a text, put together again -/
theorem intercalate_fields (sep : Char) (s : List Char) :
    List.intercalate [sep] (fields sep s) = s := by
  induction s with
  | nil => rfl
  | cons c cs ih =>
    obtain ⟨f, fs, hf⟩ := exists_cons_of_ne_nil (fields_ne_nil sep cs)
    rw [fields]
    by_cases hc : c = sep
    · rw [if_pos hc, hf, hc, intercalate_cons_cons, ← hf, ih]
      rfl
    rw [if_neg hc, hf]
    rw [hf] at ih
    cases fs with
    | nil => simpa [intercalate] using ih
    | cons g gs =>
    rw [intercalate_cons_cons] at ih
    show intercalate [sep] ((c :: f) :: g :: gs) = c :: cs
    rw [intercalate_cons_cons, ← ih]
    rfl

theorem fields_injective (sep : Char) : Function.Injective (fields sep) := by
  intro s t h
  rw [← intercalate_fields sep s, h, intercalate_fields]

/-! ## one pair of identifiers -/

variable {x : List Char}

theorem numericIdentifier_of_digits (hx : prereleaseIdentifier x) (hd : x.all isDigit) :
    numericIdentifier x := by
  rw [prereleaseIdentifier, Bool.or_eq_true] at hx
  rcases hx with hx | hx
  · exact hx
  rw [Bool.and_eq_true, List.any_eq_true] at hx
  obtain ⟨c, hc, hnot⟩ := hx.2
  rw [List.all_eq_true.mp hd c hc] at hnot
  exact absurd hnot (by simp)

theorem ne_nil_of_prereleaseIdentifier (hx : prereleaseIdentifier x) : x ≠ [] := by
  rintro rfl
  exact absurd hx (by decide)

variable {y : List Char}

theorem head_of_numericIdentifier (hy : numericIdentifier y) (hlen : 1 < y.length) :
    y.head? ≠ some '0' := by
  rw [numericIdentifier, Bool.or_eq_true, decide_eq_true_eq] at hy
  rcases hy with rfl | hy
  · simp at hlen
  rw [Bool.and_eq_true] at hy
  intro h0
  rw [h0] at hy
  simp at hy

section
variable (hx : prereleaseIdentifier x) (hy : prereleaseIdentifier y) (hdx : x.all isDigit)
  (hdy : y.all isDigit)
include hx hy hdx hdy

theorem decimal_lt_of_shorter (hlen : x.length < y.length) : decimal x < decimal y := by
  have hpos : 0 < x.length := length_pos_iff.mpr (ne_nil_of_prereleaseIdentifier hx)
  exact decimal_lt_of_length hdx hdy
    (head_of_numericIdentifier (numericIdentifier_of_digits hy hdy) (by omega)) hlen

theorem decimal_ne (hne : x ≠ y) : decimal x ≠ decimal y := by
  rcases lt_trichotomy x.length y.length with hlen | hlen | hlen
  · exact (decimal_lt_of_shorter hx hy hdx hdy hlen).ne
  · rcases lt_or_gt_of_ne hne with h | h
    · exact ((decimal_lt_iff hdx hdy hlen).mpr h).ne
    · exact ((decimal_lt_iff hdy hdx hlen.symm).mpr h).ne'
  · exact (decimal_lt_of_shorter hy hx hdy hdx hlen).ne'

/-- the text order of two numbers, seen from their lengths -/
theorem lt_iff_decimal_lt : (x < y ↔ decimal x < decimal y) ↔
      (x.length ≠ y.length → (x.length < y.length ↔ x < y)) := by
  rcases lt_trichotomy x.length y.length with hlen | hlen | hlen
  · have h := decimal_lt_of_shorter hx hy hdx hdy hlen
    simp [h, hlen, hlen.ne]
  · simp [hlen, decimal_lt_iff hdx hdy hlen]
  · have h := decimal_lt_of_shorter hy hx hdy hdx hlen
    simp [not_lt.mpr h.le, not_lt.mpr hlen.le, hlen.ne']

end

theorem parseUint_of_digits (hne : x ≠ []) (hd : x.all isDigit) :
    parseUint x = if oversized x then none else some (decimal x) := by
  rw [parseUint, oversized, hd, Bool.true_and, if_neg (by simp [hne])]
  by_cases h : decimal x < 2 ^ 64
  · rw [if_pos h, if_neg (by rw [decide_eq_true_eq]; exact not_le.mpr h)]
  · rw [if_neg h, if_pos (by rw [decide_eq_true_eq]; exact not_lt.mp h)]

theorem parseUint_of_text (hd : x.all isDigit = false) : parseUint x = none := by
  simp [parseUint, hd]

theorem oversized_of_text (hd : x.all isDigit = false) : oversized x = false := by
  simp [oversized, hd]

theorem identifierKey_of_digits (hd : x.all isDigit) :
    identifierKey x = toLex (.inl (decimal x)) := if_pos hd

theorem identifierKey_of_text (hd : x.all isDigit = false) :
    identifierKey x = toLex (.inr x) := if_neg (by rw [hd]; exact Bool.false_ne_true)

theorem compareIdentifiers_numbers (hx : prereleaseIdentifier x) (hy : prereleaseIdentifier y)
    (hdx : x.all isDigit) (hdy : y.all isDigit) (hne : x ≠ y) :
    (compareIdentifiers x y).Compares (identifierKey x) (identifierKey y) ↔ Legible x y := by
  have hnum := decimal_ne hx hy hdx hdy hne
  have hkey : identifierKey x ≠ identifierKey y := by
    rw [identifierKey_of_digits hdx, identifierKey_of_digits hdy]
    simpa using hnum
  have hlt : identifierKey x < identifierKey y ↔ decimal x < decimal y := by
    rw [identifierKey_of_digits hdx, identifierKey_of_digits hdy, Sum.Lex.inl_lt_inl_iff]
  have hsmall : ∀ z : List Char, z.all isDigit → oversized z = false → decimal z < 2 ^ 64 := by
    intro z hz h
    rw [oversized, hz, Bool.true_and, decide_eq_false_iff_not, not_le] at h
    exact h
  have hlarge : ∀ z : List Char, oversized z = true → 2 ^ 64 ≤ decimal z := by
    intro z h
    rw [oversized, Bool.and_eq_true, decide_eq_true_eq] at h
    exact h.2
  rw [compareIdentifiers, parseUint_of_digits (ne_nil_of_prereleaseIdentifier hx) hdx,
    parseUint_of_digits (ne_nil_of_prereleaseIdentifier hy) hdy]
  cases hox : oversized x <;> cases hoy : oversized y
  · simp [Legible, hox, hoy, compares_ite hkey, hlt]
  · have : decimal x < decimal y := lt_of_lt_of_le (hsmall x hdx hox) (hlarge y hoy)
    simp [Legible, hox, hdx, Ordering.Compares, hlt, this]
  · have : decimal y < decimal x := lt_of_lt_of_le (hsmall y hdy hoy) (hlarge x hox)
    have hgt : identifierKey y < identifierKey x :=
      lt_of_le_of_ne (not_lt.mp (mt hlt.mp (not_lt.mpr this.le))) hkey.symm
    simp [Legible, hoy, hdy, Ordering.Compares, hgt]
  · have h := lt_iff_decimal_lt hx hy hdx hdy
    simp [Legible, hox, hoy, hdx, hdy, compares_ite hkey, hlt, lexLess_iff, h]

theorem compareIdentifiers_number_text (hx : prereleaseIdentifier x) (hdx : x.all isDigit)
    (hdy : y.all isDigit = false) :
    (compareIdentifiers x y).Compares (identifierKey x) (identifierKey y) ↔ Legible x y := by
  have hlt : identifierKey x < identifierKey y := by
    rw [identifierKey_of_digits hdx, identifierKey_of_text hdy]
    exact Sum.Lex.inl_lt_inr _ _
  rw [compareIdentifiers, parseUint_of_digits (ne_nil_of_prereleaseIdentifier hx) hdx,
    parseUint_of_text hdy]
  cases hox : oversized x
  · simp [Legible, hox, hdx, Ordering.Compares, hlt]
  · simp [Legible, hox, hdx, hdy, oversized_of_text hdy, compares_ite hlt.ne, hlt, lexLess_iff]

theorem compareIdentifiers_text_number (hy : prereleaseIdentifier y) (hdx : x.all isDigit = false)
    (hdy : y.all isDigit) :
    (compareIdentifiers x y).Compares (identifierKey x) (identifierKey y) ↔ Legible x y := by
  have hlt : identifierKey y < identifierKey x := by
    rw [identifierKey_of_digits hdy, identifierKey_of_text hdx]
    exact Sum.Lex.inl_lt_inr _ _
  have hne : x ≠ y := by
    rintro rfl
    exact absurd (hdx.symm.trans hdy) (by simp)
  rw [compareIdentifiers, parseUint_of_digits (ne_nil_of_prereleaseIdentifier hy) hdy,
    parseUint_of_text hdx]
  cases hoy : oversized y
  · simp [Legible, hoy, hdy, Ordering.Compares, hlt]
  · simp [Legible, hoy, hdx, hdy, oversized_of_text hdx, compares_ite hlt.ne', not_lt.mpr hlt.le,
      lexLess_iff, hne.symm.le_iff_lt]

theorem compareIdentifiers_texts (hdx : x.all isDigit = false) (hdy : y.all isDigit = false)
    (hne : x ≠ y) :
    (compareIdentifiers x y).Compares (identifierKey x) (identifierKey y) ↔ Legible x y := by
  rw [identifierKey_of_text hdx, identifierKey_of_text hdy, compareIdentifiers,
    parseUint_of_text hdx, parseUint_of_text hdy]
  simp [Legible, oversized_of_text hdx, oversized_of_text hdy, compares_ite, hne, lexLess_iff]

/-- **two different identifiers are ordered by precedence exactly when they are legible** -/
theorem compareIdentifiers_compares (hx : prereleaseIdentifier x) (hy : prereleaseIdentifier y)
    (hne : x ≠ y) :
    (compareIdentifiers x y).Compares (identifierKey x) (identifierKey y) ↔ Legible x y := by
  cases hdx : x.all isDigit <;> cases hdy : y.all isDigit
  · exact compareIdentifiers_texts hdx hdy hne
  · exact compareIdentifiers_text_number hy hdx hdy
  · exact compareIdentifiers_number_text hx hdx hdy
  · exact compareIdentifiers_numbers hx hy hdx hdy hne

theorem identifierKey_ne (hx : prereleaseIdentifier x) (hy : prereleaseIdentifier y) (hne : x ≠ y) :
    identifierKey x ≠ identifierKey y := by
  cases hdx : x.all isDigit <;> cases hdy : y.all isDigit
  · simpa [identifierKey_of_text hdx, identifierKey_of_text hdy] using hne
  · simp [identifierKey_of_text hdx, identifierKey_of_digits hdy]
  · simp [identifierKey_of_digits hdx, identifierKey_of_text hdy]
  · simpa [identifierKey_of_digits hdx, identifierKey_of_digits hdy] using
      decimal_ne hx hy hdx hdy hne

/-! ## whole lists of identifiers -/

theorem firstDifference_self {α : Type} [DecidableEq α] (l : List α) :
    firstDifference l l = none := by
  induction l with
  | nil => rfl
  | cons a l ih => rw [firstDifference, if_pos rfl, ih]

/-- **the loop is right exactly when the first different identifiers are legible** -/
theorem comparePrerelease_compares {as bs : List (List Char)} (ha : as.all prereleaseIdentifier)
    (hb : bs.all prereleaseIdentifier) (hne : as ≠ bs) :
    (comparePrerelease as bs).Compares (as.map identifierKey) (bs.map identifierKey) ↔
      ∀ x y, firstDifference as bs = some (x, y) → Legible x y := by
  induction as generalizing bs with
  | nil =>
    cases bs with
    | nil => exact absurd rfl hne
    | cons b bs => simp [comparePrerelease, firstDifference, Ordering.Compares]
  | cons a as ih =>
    cases bs with
    | nil => simp [comparePrerelease, firstDifference, Ordering.Compares]
    | cons b bs =>
    rw [all_cons, Bool.and_eq_true] at ha hb
    rw [comparePrerelease, firstDifference, map_cons, map_cons]
    by_cases hab : a = b
    · subst hab
      rw [if_pos rfl, if_pos rfl, compares_cons_self]
      exact ih ha.2 hb.2 (fun h => hne (by rw [h]))
    rw [if_neg hab, if_neg hab, compares_cons_of_ne (identifierKey_ne ha.1 hb.1 hab),
      compareIdentifiers_compares ha.1 hb.1 hab]
    simp only [some.injEq, Prod.mk.injEq]
    constructor
    · rintro h x y ⟨rfl, rfl⟩
      exact h
    · intro h
      exact h a b ⟨rfl, rfl⟩

/-! ## whole versions -/

variable {value : String}

theorem parseVersion_ok {version : SemanticVersion} (h : parseVersion value = .ok version) :
    versionPattern value ∧ version = ⟨coreNumber value 0, coreNumber value 1, coreNumber value 2,
      (prereleaseText value).getD []⟩ := by
  have hnum : ∀ x n, parseUint x = some n → n = decimal x := by
    intro x n hx
    rw [parseUint] at hx
    split at hx
    · cases hx
    split at hx
    · exact (some.inj hx).symm
    · cases hx
  rw [parseVersion] at h
  split at h
  · cases h
  rename_i hpattern
  refine ⟨by simpa using hpattern, ?_⟩
  dsimp only at h
  split at h
  · rename_i x y z hfields
    have hcore : fields '.' (coreText value) = [x, y, z] := hfields
    split at h
    · rename_i major minor patch hx hy hz
      rw [← Except.ok.inj h, hnum x _ hx, hnum y _ hy, hnum z _ hz]
      simp [coreNumber, hcore, prereleaseText]
    · cases h
    · cases h
    · cases h
  · cases h

variable {text : List Char}

theorem identifiers_of_pattern (hv : versionPattern value)
    (ht : prereleaseText value = some text) : (fields '.' text).all prereleaseIdentifier := by
  rw [versionPattern, semanticVersionText, Bool.and_eq_true, Bool.and_eq_true] at hv
  have h := hv.1.2
  rw [show (cut '-' (cut '+' value.toList).1).2 = some text from ht] at h
  exact h

theorem prerelease_ne_nil (hv : versionPattern value)
    (ht : prereleaseText value = some text) : text ≠ [] := by
  rintro rfl
  exact absurd (identifiers_of_pattern hv ht) (by decide)

/-- what `compareVersions` does once the cores are equal -/
def comparePre (p q : List Char) : Ordering :=
  if p = q then .eq
  else if p = [] then .gt
  else if q = [] then .lt
  else comparePrerelease (fields '.' p) (fields '.' q)

theorem SemanticVersion.compare_eq (a b : SemanticVersion) :
    a.compare b = (cmp a.major b.major).then ((cmp a.minor b.minor).then
      ((cmp a.patch b.patch).then (comparePre a.pre b.pre))) := by
  have hcmp : ∀ m n : ℕ, cmp m n = if m < n then .lt else if m > n then .gt else .eq :=
    fun m n => rfl
  rw [hcmp, hcmp, hcmp, SemanticVersion.compare, comparePre]
  by_cases h1 : a.major < b.major <;> by_cases h2 : a.major > b.major <;>
    by_cases h3 : a.minor < b.minor <;> by_cases h4 : a.minor > b.minor <;>
    by_cases h5 : a.patch < b.patch <;> by_cases h6 : a.patch > b.patch <;>
    simp only [h1, h2, h3, h4, h5, h6, if_true, if_false, Ordering.then]

variable {right left : String}

theorem comparePre_compares (hl : versionPattern left) (hr : versionPattern right) :
    (comparePre ((prereleaseText left).getD []) ((prereleaseText right).getD [])).Compares
        (prereleaseKey left) (prereleaseKey right) ↔
      ∀ p q x y, prereleaseText left = some p → prereleaseText right = some q →
        firstDifference (fields '.' p) (fields '.' q) = some (x, y) → Legible x y := by
  rw [prereleaseKey, prereleaseKey]
  cases hp : prereleaseText left with
  | none =>
    cases hq : prereleaseText right with
    | none => simp [comparePre, Ordering.Compares]
    | some q =>
    have hq' := prerelease_ne_nil hr hq
    simp [comparePre, Ordering.Compares, hq'.symm]
  | some p =>
  have hp' := prerelease_ne_nil hl hp
  cases hq : prereleaseText right with
  | none => simp [comparePre, Ordering.Compares, hp']
  | some q =>
  have hq' := prerelease_ne_nil hr hq
  by_cases hpq : p = q
  · subst hpq
    simp only [getD_some, comparePre, if_true, Ordering.Compares, true_iff,
      some.injEq]
    rintro p' q' x y rfl rfl h
    rw [firstDifference_self] at h
    cases h
  have hfields : fields '.' p ≠ fields '.' q := (fields_injective '.').ne hpq
  have h := comparePrerelease_compares (identifiers_of_pattern hl hp)
    (identifiers_of_pattern hr hq) hfields
  have hcoe : ∀ (o : Ordering) (l m : List IdentifierKey),
      o.Compares (l : WithTop (List IdentifierKey)) m ↔ o.Compares l m := by
    intro o l m
    cases o <;> simp [Ordering.Compares]
  simp only [getD_some, comparePre, if_neg hpq, if_neg hp', if_neg hq', hcoe, h,
    some.injEq]
  constructor
  · rintro h p' q' x y rfl rfl
    exact h x y
  · intro h x y
    exact h p q x y rfl rfl

variable {a b : SemanticVersion}

theorem compare_compares (ha : parseVersion left = .ok a) (hb : parseVersion right = .ok b) :
    (a.compare b).Compares (precedence left) (precedence right) ↔ Readable left right := by
  obtain ⟨hl, rfl⟩ := parseVersion_ok ha
  obtain ⟨hr, rfl⟩ := parseVersion_ok hb
  rw [SemanticVersion.compare_eq, precedence, precedence, compares_then (cmp_compares _ _),
    compares_then (cmp_compares _ _), compares_then (cmp_compares _ _),
    comparePre_compares hl hr, cmp_eq_eq_iff, cmp_eq_eq_iff, cmp_eq_eq_iff]
  constructor
  · intro h p q x y hcore
    exact h (hcore 0 (by decide)) (hcore 1 (by decide)) (hcore 2 (by decide)) p q x y
  intro h h0 h1 h2 p q x y
  refine h p q x y ?_
  intro i hi
  interval_cases i
  · exact h0
  · exact h1
  · exact h2

theorem compareVersions_of_parse (ha : parseVersion left = .ok a)
    (hb : parseVersion right = .ok b) : compareVersions left right = .ok (a.compare b) := by
  rw [compareVersions, ha, hb]

theorem ok_of_ite {ε : Type} {p : Prop} [Decidable p] {err : ε} {r : Except ε Unit}
    (h : (if p then .error err else r) = .ok ()) : r = .ok () := by
  split at h
  · cases h
  · exact h

theorem greater_of_compatible {release : Release} {policy : VerificationPolicy}
    (hcurrent : policy.currentGatewayVersion ≠ "") (hsame : policy.allowSameVersion = false)
    (hok : validateCompatibility release policy = .ok ()) :
    compareVersions release.gatewayVersion policy.currentGatewayVersion = .ok .gt := by
  unfold validateCompatibility at hok
  cases hrelease : validateRelease release with
  | error err =>
    rw [hrelease] at hok
    cases hok
  | ok u =>
  simp only [hrelease] at hok
  have hforward := ok_of_ite (ok_of_ite (ok_of_ite (ok_of_ite (ok_of_ite (ok_of_ite
    (ok_of_ite hok))))))
  rw [if_neg hcurrent] at hforward
  cases hcmp : compareVersions release.gatewayVersion policy.currentGatewayVersion with
  | error err =>
    rw [hcmp] at hforward
    cases hforward
  | ok comparison =>
  rw [hcmp] at hforward
  cases comparison with
  | gt => rfl
  | lt => simp at hforward
  | eq => simp [hsame] at hforward

/-- **versions are compared by their SemVer precedence, and a policy without `AllowSameVersion`
accepts only strictly newer releases, exactly for the pairs that are readable** -/
theorem compareVersions_precedence {left right : String} {a b : SemanticVersion}
    (ha : parseVersion left = .ok a) (hb : parseVersion right = .ok b) :
    ((∃ o, compareVersions left right = .ok o ∧
        o.Compares (precedence left) (precedence right)) ∧
      ∀ (release : Release) (policy : VerificationPolicy), release.gatewayVersion = left →
        policy.currentGatewayVersion = right → policy.allowSameVersion = false →
        validateCompatibility release policy = .ok () → precedence right < precedence left) ↔
      Readable left right := by
  have hcmp := compareVersions_of_parse ha hb
  rw [← compare_compares ha hb]
  constructor
  · rintro ⟨⟨o, ho, hcompares⟩, -⟩
    rw [hcmp] at ho
    rwa [Except.ok.inj ho]
  intro h
  refine ⟨⟨_, hcmp, h⟩, ?_⟩
  rintro release policy rfl rfl hsame hok
  have hcurrent : policy.currentGatewayVersion ≠ "" := by
    intro hempty
    rw [hempty] at hb
    exact absurd (parseVersion_ok hb).1 (by decide)
  have hgt := greater_of_compatible hcurrent hsame hok
  rw [hcmp] at hgt
  rw [Except.ok.inj hgt] at h
  exact h

/-- the larger of two numbers above 64 bits is refused as an update of the smaller one -/
theorem longer_number_not_newer :
    compareVersions "1.0.0-100000000000000000000" "1.0.0-99999999999999999999" = .ok .lt ∧
      precedence "1.0.0-99999999999999999999" < precedence "1.0.0-100000000000000000000" := by
  decide +kernel

theorem compareVersions_precedence_at_numbers :
    (parseVersion "1.0.0-rc.9").isOk ∧ (parseVersion "1.0.0-rc.10+build.7").isOk ∧
      ∃ o, compareVersions "1.0.0-rc.9" "1.0.0-rc.10+build.7" = .ok o ∧
        o.Compares (precedence "1.0.0-rc.9") (precedence "1.0.0-rc.10+build.7") := by
  have ha : parseVersion "1.0.0-rc.9" = .ok ⟨1, 0, 0, "rc.9".toList⟩ := by decide +kernel
  have hb : parseVersion "1.0.0-rc.10+build.7" = .ok ⟨1, 0, 0, "rc.10".toList⟩ := by
    decide +kernel
  refine ⟨by rw [ha]; rfl, by rw [hb]; rfl, ((compareVersions_precedence ha hb).mpr ?_).1⟩
  intro p q x y _ hp hq hdiff
  have hp' : prereleaseText "1.0.0-rc.9" = some "rc.9".toList := by decide +kernel
  have hq' : prereleaseText "1.0.0-rc.10+build.7" = some "rc.10".toList := by decide +kernel
  rw [hp'] at hp
  rw [hq'] at hq
  rw [← some.inj hp, ← some.inj hq] at hdiff
  have hxy : firstDifference (fields '.' "rc.9".toList) (fields '.' "rc.10".toList) =
      some (['9'], ['1', '0']) := by decide +kernel
  rw [hxy] at hdiff
  obtain ⟨rfl, rfl⟩ := Prod.mk.inj (some.inj hdiff)
  have h9 : oversized ['9'] = false := by decide +kernel
  have h10 : oversized ['1', '0'] = false := by decide +kernel
  simp [Legible, h9, h10]

end GatewayVpn.Update
