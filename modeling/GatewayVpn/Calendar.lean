import GatewayVpn.Numeral

/-!
# Times as RFC 3339 texts

`time.RFC3339Nano` writes an instant of the years 0 to 9999 as a date and a time of day of fixed
width, followed by the fraction of the second without its trailing zeroes.  Texts of different
seconds are ordered as their instants; within one second the order is wrong exactly when one
fraction is a proper prefix of the other.
-/

namespace GatewayVpn

open List

/-! ## the calendar -/

def yearStart (y : Nat) : Nat := 365 * y + (y + 3) / 4 - (y + 99) / 100 + (y + 399) / 400

def leapYear (y : Nat) : Bool := y % 4 = 0 && (y % 100 ≠ 0 || y % 400 = 0)

def yearOf (day : Nat) : Nat := Nat.findGreatest (fun y => yearStart y ≤ day) (day / 365)

def monthStart (leap : Bool) (m : Nat) : Nat :=
  [0, 31, 59, 90, 120, 151, 181, 212, 243, 273, 304, 334].getD m 366 +
    if leap && 2 ≤ m && m ≤ 11 then 1 else 0

def monthOf (leap : Bool) (dayOfYear : Nat) : Nat :=
  Nat.findGreatest (fun m => monthStart leap m ≤ dayOfYear) 11

def dateText (day : Nat) : List Char :=
  let y := yearOf day
  let dayOfYear := day - yearStart y
  let m := monthOf (leapYear y) dayOfYear
  pad 4 y ++ ('-' :: pad 2 (m + 1)) ++
    ('-' :: pad 2 (dayOfYear - monthStart (leapYear y) m + 1))

def clockText (secondOfDay : Nat) : List Char :=
  pad 2 (secondOfDay / 3600) ++ (':' :: pad 2 (secondOfDay / 60 % 60)) ++
    (':' :: pad 2 (secondOfDay % 60))

/-- a second, counted from the first of January of year 0 -/
def secondText (second : Nat) : List Char :=
  dateText (second / 86400) ++ ('T' :: clockText (second % 86400))

/-! ## the order of dates -/

theorem yearStart_succ (y : Nat) : yearStart y + 365 ≤ yearStart (y + 1) := by
  unfold yearStart
  omega

theorem yearStart_mono : StrictMono yearStart :=
  strictMono_nat_of_lt_succ fun y => by
    have := yearStart_succ y
    omega

theorem le_yearStart (y : Nat) : 365 * y ≤ yearStart y := by
  unfold yearStart
  omega

theorem yearStart_yearOf (day : Nat) : yearStart (yearOf day) ≤ day :=
  Nat.findGreatest_spec (P := fun y => yearStart y ≤ day) (Nat.zero_le _) (Nat.zero_le _)

theorem lt_yearStart_yearOf (day : Nat) : day < yearStart (yearOf day + 1) := by
  by_contra h
  have hle : yearOf day + 1 ≤ day / 365 := by
    have := le_yearStart (yearOf day + 1)
    omega
  have := Nat.le_findGreatest (P := fun y => yearStart y ≤ day) hle (not_lt.mp h)
  exact absurd this (by unfold yearOf; omega)

variable {a b : Nat}

theorem yearOf_mono (h : a ≤ b) : yearOf a ≤ yearOf b := by
  by_contra hlt
  have h1 : yearStart (yearOf b + 1) ≤ yearStart (yearOf a) :=
    yearStart_mono.monotone (by omega)
  have h2 := lt_yearStart_yearOf b
  have h3 := yearStart_yearOf a
  omega

theorem yearOf_lt {day : Nat} (h : day < 3652425) : yearOf day < 10000 := by
  by_contra hge
  have h1 := yearStart_mono.monotone (not_lt.mp hge)
  have h2 : yearStart 10000 = 3652425 := by decide
  have h3 := yearStart_yearOf day
  omega

theorem monthStart_monthOf (leap : Bool) (d : Nat) : monthStart leap (monthOf leap d) ≤ d :=
  Nat.findGreatest_spec (P := fun m => monthStart leap m ≤ d) (Nat.zero_le 11)
    (by cases leap <;> exact Nat.zero_le _)

theorem lt_monthStart_monthOf (leap : Bool) {d : Nat} (hd : d < 366) :
    d < monthStart leap (monthOf leap d + 1) := by
  have hle : monthOf leap d ≤ 11 := Nat.findGreatest_le _
  by_contra h
  rcases Nat.lt_or_ge (monthOf leap d) 11 with hlt | hge
  · have := Nat.le_findGreatest (P := fun m => monthStart leap m ≤ d) hlt (not_lt.mp h)
    exact absurd this (by unfold monthOf; omega)
  have h11 : monthOf leap d = 11 := by omega
  have : monthStart leap 12 = 366 := by cases leap <;> rfl
  rw [h11, this] at h
  exact h hd

theorem monthStart_step (leap : Bool) {m : Nat} (hm : m ≤ 11) :
    monthStart leap (m + 1) ≤ monthStart leap m + 32 := by
  interval_cases m <;> cases leap <;> decide

theorem monthOf_mono (leap : Bool) (h : a ≤ b) : monthOf leap a ≤ monthOf leap b :=
  Nat.findGreatest_mono_left (fun _ hm => le_trans hm h) 11

theorem dayOfYear_lt (day : Nat) : day - yearStart (yearOf day) < 366 := by
  have h1 := lt_yearStart_yearOf day
  have h2 : yearStart (yearOf day + 1) ≤ yearStart (yearOf day) + 366 := by
    unfold yearStart
    omega
  omega

/-! ## the order of their texts -/

theorem lt_append {s t : List Char} (u v : List Char) (hlen : s.length = t.length) (h : s < t) :
    s ++ u < t ++ v := (append_lt_append hlen h.ne).mpr h

theorem length_dateText (day : Nat) : (dateText day).length = 10 := by
  simp [dateText, length_pad]

theorem length_clockText (r : Nat) : (clockText r).length = 8 := by
  simp [clockText, length_pad]

theorem length_secondText (s : Nat) : (secondText s).length = 19 := by
  simp [secondText, length_dateText, length_clockText]

theorem field_lt {w a b : Nat} (u v : List Char) (ha : a < 10 ^ w) (hb : b < 10 ^ w)
    (h : a < b ∨ (a = b ∧ u < v)) : pad w a ++ u < pad w b ++ v := by
  rcases h with hlt | ⟨rfl, hrest⟩
  · exact lt_append u v (by rw [length_pad, length_pad]) ((pad_lt_iff ha hb).mpr hlt)
  · exact (append_lt_append_left _).mpr hrest

theorem cons_lt (c : Char) {u v : List Char} (h : u < v) : c :: u < c :: v :=
  cons_lt_cons_iff.mpr (Or.inr ⟨rfl, h⟩)

theorem dateText_lt (hab : a < b) (hb : b < 3652425) : dateText a < dateText b := by
  have hya : yearOf a < 10000 := yearOf_lt (hab.trans hb)
  have hyb : yearOf b < 10000 := yearOf_lt hb
  have hda := dayOfYear_lt a
  have hdb := dayOfYear_lt b
  unfold dateText
  dsimp only
  rw [append_assoc, append_assoc]
  refine field_lt _ _ hya hyb ?_
  rcases (yearOf_mono hab.le).lt_or_eq with hy | hy
  · exact Or.inl hy
  refine Or.inr ⟨hy, ?_⟩
  rw [← hy] at hdb ⊢
  have hstart : yearStart (yearOf a) ≤ a := yearStart_yearOf a
  have hd : a - yearStart (yearOf a) < b - yearStart (yearOf a) := by omega
  generalize a - yearStart (yearOf a) = d at hd hda ⊢
  generalize b - yearStart (yearOf a) = e at hd hdb ⊢
  generalize leapYear (yearOf a) = leap
  have hmd : monthOf leap d ≤ 11 := Nat.findGreatest_le _
  have hme : monthOf leap e ≤ 11 := Nat.findGreatest_le _
  have h1 := monthStart_step leap hmd
  have h2 := monthStart_step leap hme
  have h3 := lt_monthStart_monthOf leap hda
  have h4 := lt_monthStart_monthOf leap hdb
  have h5 := monthStart_monthOf leap d
  refine cons_lt '-' (field_lt _ _ (by omega) (by omega) ?_)
  rcases (monthOf_mono leap hd.le).lt_or_eq with hm | hm
  · exact Or.inl (by omega)
  refine Or.inr ⟨by rw [hm], cons_lt '-' ((pad_lt_iff (by omega) (by omega)).mpr ?_)⟩
  rw [← hm]
  omega

theorem clockText_lt (hab : a < b) (hb : b < 86400) : clockText a < clockText b := by
  unfold clockText
  rw [append_assoc, append_assoc]
  refine field_lt _ _ (by omega) (by omega) ?_
  rcases Nat.lt_or_ge (a / 3600) (b / 3600) with h | h
  · exact Or.inl h
  refine Or.inr ⟨by omega, cons_lt ':' (field_lt _ _ (by omega) (by omega) ?_)⟩
  rcases Nat.lt_or_ge (a / 60 % 60) (b / 60 % 60) with h' | h'
  · exact Or.inl h'
  · exact Or.inr ⟨by omega, cons_lt ':' ((pad_lt_iff (by omega) (by omega)).mpr (by omega))⟩

def secondLimit : Nat := 3652425 * 86400

/-- **texts of whole seconds are ordered as time** -/
theorem secondText_lt (hab : a < b) (hb : b < secondLimit) : secondText a < secondText b := by
  unfold secondLimit at hb
  unfold secondText
  rcases Nat.lt_or_ge (a / 86400) (b / 86400) with h | h
  · exact lt_append _ _ (by rw [length_dateText, length_dateText]) (dateText_lt h (by omega))
  · rw [show a / 86400 = b / 86400 by omega]
    exact (append_lt_append_left _).mpr (cons_lt 'T' (clockText_lt (by omega) (by omega)))

/-! ## the fraction of a second -/

/-- the nine digits of the nanoseconds without their trailing zeroes -/
def fraction (nanos : Nat) : List Char := (pad 9 nanos).rdropWhile (· = '0')

def fractionText (nanos : Nat) : List Char :=
  match fraction nanos with
  | [] => ['Z']
  | c :: cs => '.' :: ((c :: cs) ++ ['Z'])

def Nested (n m : Nat) : Prop :=
  fraction n ≠ fraction m ∧ (fraction n <+: fraction m ∨ fraction m <+: fraction n)

instance (n m : Nat) : Decidable (Nested n m) := by
  unfold Nested
  infer_instance

theorem pad_eq_fraction (n : Nat) : ∃ k, pad 9 n = fraction n ++ List.replicate k '0' := by
  refine ⟨((pad 9 n).rtakeWhile (· = '0')).length, ?_⟩
  have hzeros : (pad 9 n).rtakeWhile (· = '0') =
      replicate ((pad 9 n).rtakeWhile (· = '0')).length '0' :=
    eq_replicate_iff.mpr ⟨rfl, fun c hc => by simpa using mem_rtakeWhile_imp hc⟩
  rw [← hzeros]
  exact rdropWhile_append_rtakeWhile.symm

theorem fraction_digits (n : Nat) : (fraction n).all isDigit := by
  rw [all_eq_true]
  intro c hc
  exact all_eq_true.mp (all_isDigit_pad 9 n) c
    (( rdropWhile_prefix (· = '0') (l := pad 9 n)).subset hc)

variable {n : Nat}

theorem fraction_last (hne : fraction n ≠ []) : (fraction n).getLast hne ≠ '0' := by
  simpa [fraction] using rdropWhile_last_not (p := (· = '0')) (pad 9 n) hne

theorem fractionText_of_ne (hne : fraction n ≠ []) :
    fractionText n = '.' :: (fraction n ++ ['Z']) := by
  unfold fractionText
  split
  · exact absurd (by assumption) hne
  · rename_i c cs h
    rw [h]

theorem fractionText_of_eq (h : fraction n = []) : fractionText n = ['Z'] := by
  rw [fractionText, h]

theorem prefix_or_differ (s t : List Char) :
    s <+: t ∨ t <+: s ∨ ∃ p c d u v, c ≠ d ∧ s = p ++ c :: u ∧ t = p ++ d :: v := by
  induction s generalizing t with
  | nil => exact Or.inl t.nil_prefix
  | cons c s ih =>
    cases t with
    | nil => exact Or.inr (Or.inl nil_prefix)
    | cons d t =>
    by_cases hcd : c = d
    · subst hcd
      rcases ih t with h | h | ⟨p, a, b, u, v, hab, rfl, rfl⟩
      · exact Or.inl (cons_prefix_cons.mpr ⟨rfl, h⟩)
      · exact Or.inr (Or.inl (cons_prefix_cons.mpr ⟨rfl, h⟩))
      · exact Or.inr (Or.inr ⟨c :: p, a, b, u, v, hab, rfl, rfl⟩)
    · exact Or.inr (Or.inr ⟨[], c, d, s, t, hcd, rfl, rfl⟩)

theorem differ_lt_iff {c d : Char} (hcd : c ≠ d) (p u v : List Char) :
    p ++ c :: u < p ++ d :: v ↔ c < d := by
  rw [append_lt_append_left, cons_lt_cons_iff]
  simp [hcd]

theorem zeros_lt {r : List Char} (hr : r.all isDigit) (hne : r ≠ []) (hlast : r.getLast hne ≠ '0')
    (k : Nat) (s : List Char) : List.replicate (r.length + k) '0' < r ++ s := by
  induction r with
  | nil => exact absurd rfl hne
  | cons c r ih =>
    rw [all_cons, Bool.and_eq_true] at hr
    rw [length_cons, Nat.add_right_comm, replicate_succ]
    show '0' :: _ < c :: (r ++ s)
    rw [cons_lt_cons_iff]
    by_cases hc : '0' = c
    · have hr' : r ≠ [] := by
        rintro rfl
        exact hlast hc.symm
      rw [getLast_cons hr'] at hlast
      exact Or.inr ⟨hc, ih hr.2 hr' hlast⟩
    · refine Or.inl (lt_of_le_of_ne ?_ hc)
      exact (isDigit_iff c).mp hr.1 |>.1

/-- a fraction that extends another is later in time and earlier as a text -/
theorem nested_reverses {n m : Nat} (hn : n < 10 ^ 9) (hm : m < 10 ^ 9)
    (hne : fraction n ≠ fraction m) (hpre : fraction n <+: fraction m) :
    n < m ∧ fractionText m < fractionText n := by
  obtain ⟨r, hr⟩ := hpre
  have hr0 : r ≠ [] := by
    rintro rfl
    exact hne (by rw [← hr, append_nil])
  have hm0 : fraction m ≠ [] := by
    rw [← hr]
    exact append_ne_nil_of_right_ne_nil _ hr0
  have hlast : r.getLast hr0 ≠ '0' := by
    have h := fraction_last hm0
    rwa [getLast_congr hm0 (append_ne_nil_of_right_ne_nil _ hr0) hr.symm,
      getLast_append_of_ne_nil _ hr0] at h
  have hdigits : r.all isDigit := by
    have h := fraction_digits m
    rw [← hr, all_append, Bool.and_eq_true] at h
    exact h.2
  constructor
  · obtain ⟨i, hi⟩ := pad_eq_fraction n
    obtain ⟨j, hj⟩ := pad_eq_fraction m
    rw [← hr, append_assoc] at hj
    have hlen : i = r.length + j := by
      have h1 := congrArg length hi
      have h2 := congrArg length hj
      rw [length_pad] at h1 h2
      simp only [length_append, length_replicate] at h1 h2
      omega
    rw [← pad_lt_iff hn hm, hi, hj, append_lt_append_left, hlen]
    exact zeros_lt hdigits hr0 hlast j _
  obtain ⟨c, r', rfl⟩ := exists_cons_of_ne_nil hr0
  have hc : c < 'Z' := by
    rw [all_cons, Bool.and_eq_true] at hdigits
    have h := (isDigit_iff c).mp hdigits.1
    rw [char_lt_iff, show 'Z'.toNat = 90 from rfl]
    omega
  rw [fractionText_of_ne hm0]
  by_cases hn0 : fraction n = []
  · rw [fractionText_of_eq hn0]
    exact cons_lt_cons_iff.mpr (Or.inl (by decide))
  rw [fractionText_of_ne hn0, ← hr, append_assoc]
  refine cons_lt '.' ((append_lt_append_left _).mpr ?_)
  exact cons_lt_cons_iff.mpr (Or.inl hc)

/-- **within one second the texts are ordered as time unless one fraction extends the other** -/
theorem fractionText_lt_iff {n m : Nat} (hn : n < 10 ^ 9) (hm : m < 10 ^ 9) :
    (fractionText n < fractionText m ↔ n < m) ↔ ¬ Nested n m := by
  by_cases heq : fraction n = fraction m
  · obtain ⟨i, hi⟩ := pad_eq_fraction n
    obtain ⟨j, hj⟩ := pad_eq_fraction m
    have hij : i = j := by
      have h1 := congrArg length hi
      have h2 := congrArg length hj
      rw [length_pad, heq] at h1
      rw [length_pad] at h2
      simp only [length_append, length_replicate] at h1 h2
      omega
    have hnm : n = m := (pad_inj hn hm).mp (by rw [hi, hj, heq, hij])
    simp [hnm, Nested]
  rcases prefix_or_differ (fraction n) (fraction m) with h | h | ⟨p, c, d, u, v, hcd, hu, hv⟩
  · obtain ⟨hlt, htext⟩ := nested_reverses hn hm heq h
    refine iff_of_false (fun hiff => ?_) (fun hnot => hnot ⟨heq, Or.inl h⟩)
    exact absurd (hiff.mpr hlt) (not_lt.mpr htext.le)
  · obtain ⟨hlt, htext⟩ := nested_reverses hm hn (Ne.symm heq) h
    refine iff_of_false (fun hiff => ?_) (fun hnot => hnot ⟨heq, Or.inr h⟩)
    exact absurd (hiff.mp htext) (not_lt.mpr hlt.le)
  obtain ⟨i, hi⟩ := pad_eq_fraction n
  obtain ⟨j, hj⟩ := pad_eq_fraction m
  have hn0 : fraction n ≠ [] := by simp [hu]
  have hm0 : fraction m ≠ [] := by simp [hv]
  have hnested : ¬ Nested n m := by
    rintro ⟨-, hpre | hpre⟩
    · rw [hu, hv, prefix_append_right_inj, cons_prefix_cons] at hpre
      exact hcd hpre.1
    · rw [hu, hv, prefix_append_right_inj, cons_prefix_cons] at hpre
      exact hcd hpre.1.symm
  refine iff_of_true ?_ hnested
  rw [← pad_lt_iff hn hm, hi, hj, fractionText_of_ne hn0, fractionText_of_ne hm0, hu, hv]
  simp only [append_assoc, cons_append, cons_lt_cons_iff, lt_irrefl, true_and,
    false_or]
  rw [differ_lt_iff hcd, differ_lt_iff hcd]

/-! ## instants -/

def nanosPerSecond : Int := 1000000000

def yearZero : Int := 62167219200 * nanosPerSecond

/-- an instant of the years 0 to 9999, the ones an RFC 3339 text can name, in nanoseconds since
1970 -/
abbrev Instant := { t : Int // 0 ≤ t + yearZero ∧ t + yearZero < secondLimit * nanosPerSecond }

def secondOf (t : Int) : Nat := ((t + yearZero) / nanosPerSecond).toNat
def nanosOf (t : Int) : Nat := ((t + yearZero) % nanosPerSecond).toNat

/-- `t.UTC().Format(time.RFC3339Nano)` -/
def rfc3339Nano (t : Int) : List Char := secondText (secondOf t) ++ fractionText (nanosOf t)

theorem nanosOf_lt (t : Int) : nanosOf t < 10 ^ 9 := by
  unfold nanosOf nanosPerSecond
  omega

theorem secondOf_lt (t : Instant) : secondOf t.1 < secondLimit := by
  have h := t.2.2
  unfold secondOf
  unfold nanosPerSecond at h ⊢
  omega

theorem time_eq (t : Instant) : t.1 + yearZero = secondOf t.1 * 1000000000 + nanosOf t.1 := by
  have h := t.2.1
  unfold secondOf nanosOf nanosPerSecond
  omega

/-- **two texts are ordered as their instants exactly when the instants lie in different seconds
or neither fraction extends the other** -/
theorem rfc3339Nano_lt_iff (a b : Instant) : (rfc3339Nano a.1 < rfc3339Nano b.1 ↔ a.1 < b.1) ↔
      (secondOf a.1 ≠ secondOf b.1 ∨ ¬ Nested (nanosOf a.1) (nanosOf b.1)) := by
  have ha := time_eq a
  have hb := time_eq b
  have hna := nanosOf_lt a.1
  have hnb := nanosOf_lt b.1
  rcases lt_trichotomy (secondOf a.1) (secondOf b.1) with h | h | h
  · have htext : rfc3339Nano a.1 < rfc3339Nano b.1 :=
      lt_append _ _ (by rw [length_secondText, length_secondText])
        (secondText_lt h (secondOf_lt b))
    exact iff_of_true (iff_of_true htext (by omega)) (Or.inl h.ne)
  · have htime : a.1 < b.1 ↔ nanosOf a.1 < nanosOf b.1 := by omega
    rw [htime, rfc3339Nano, rfc3339Nano, h, append_lt_append_left, fractionText_lt_iff hna hnb]
    simp
  · have htext : rfc3339Nano b.1 < rfc3339Nano a.1 :=
      lt_append _ _ (by rw [length_secondText, length_secondText])
        (secondText_lt h (secondOf_lt a))
    exact iff_of_true (iff_of_false (not_lt.mpr htext.le) (by omega)) (Or.inl h.ne')

example : rfc3339Nano 1700000000500000000 = "2023-11-14T22:13:20.5Z".toList := by decide +kernel

/-- read back a stored time: its year must have four digits -/
def parseTime (t : Int) : Option Int :=
  if 0 ≤ t + yearZero ∧ t + yearZero < secondLimit * nanosPerSecond then some t else none

/-! ## date functions -/

def millisecond : Int := 1000000

/-- SQLite reads at most 0.999 from the fraction of a second -/
def capped (t : Int) : Int := t - (nanosOf t - 999000000 : Nat)

/-- the millisecond that `julianday` keeps of an instant; SQLite computes it in doubles, so it is
only known to be nearest -/
structure JulianDay where
  millis : Int → Int
  near : ∀ t, capped t ≤ millis t * millisecond + 500000 ∧
    millis t * millisecond ≤ capped t + 500000

/-- a tie goes to the later millisecond unless it is to go down -/
def JulianDay.rounding (down : Int → Bool) : JulianDay where
  millis t :=
    if down t && capped t % millisecond = 500000 then capped t / millisecond
    else (capped t + 500000) / millisecond
  near t := by
    unfold millisecond
    split
    · next h =>
      simp only [Bool.and_eq_true, decide_eq_true_eq] at h
      omega
    · omega

/-- an instant at least a millisecond after another one of the same second, which the cap and the
rounding keep apart -/
def Resolved (a b : Int) : Prop :=
  secondOf a = secondOf b → a + millisecond ≤ b →
    (nanosOf b ≤ 999000000 ∨ nanosOf a < 998500000) ∧
      ¬ (a + millisecond = b ∧ nanosOf a % 1000000 = 500000)

section
variable {a b : Instant}

theorem JulianDay.le (j : JulianDay) (h : a.1 + millisecond ≤ b.1) :
    j.millis a.1 ≤ j.millis b.1 := by
  have ha := j.near a.1
  have hb := j.near b.1
  have htime := time_eq a
  have htime' := time_eq b
  have hlt := nanosOf_lt a.1
  have hlt' := nanosOf_lt b.1
  unfold capped millisecond yearZero nanosPerSecond at *
  omega

theorem JulianDay.lt (j : JulianDay) (h : a.1 + millisecond ≤ b.1) (hres : Resolved a.1 b.1) :
    j.millis a.1 < j.millis b.1 := by
  have ha := j.near a.1
  have hb := j.near b.1
  have htime := time_eq a
  have htime' := time_eq b
  have hlt := nanosOf_lt a.1
  have hlt' := nanosOf_lt b.1
  by_cases hsecond : secondOf a.1 = secondOf b.1
  · obtain ⟨hcap, htie⟩ := hres hsecond h
    unfold capped millisecond yearZero nanosPerSecond at *
    omega
  · unfold capped millisecond yearZero nanosPerSecond at *
    omega

/-- **`julianday` keeps apart exactly the resolved instants**, however a tie is rounded -/
theorem resolved_iff (h : a.1 + millisecond ≤ b.1) :
    (∀ j : JulianDay, j.millis a.1 < j.millis b.1) ↔ Resolved a.1 b.1 := by
  refine ⟨fun hlt hsecond _ => ?_, fun hres j => j.lt h hres⟩
  have htime := time_eq a
  have htime' := time_eq b
  have hcap := hlt (.rounding fun _ => false)
  have htie := hlt (.rounding fun t => t = b.1)
  have hne : a.1 ≠ b.1 := by
    unfold millisecond at h
    omega
  simp only [JulianDay.rounding, hne, decide_true, decide_false, Bool.true_and, Bool.false_and,
    Bool.false_eq_true, if_false, decide_eq_true_eq] at hcap htie
  unfold capped millisecond yearZero nanosPerSecond at *
  constructor
  · omega
  · rintro ⟨heq, htied⟩
    split at htie <;> omega

end

end GatewayVpn
