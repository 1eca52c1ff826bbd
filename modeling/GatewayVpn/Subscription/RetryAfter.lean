import GatewayVpn.Access.Evidence

/-!
# The delay a server asks for

`parseRetryAfter` reads the header of a refused fetch, and `finishFailure` sets it against the
backoff.  Seconds become nanoseconds in 64 bits before they are bounded, so for some numbers past
a day the product comes round to less than a day.
-/

namespace GatewayVpn.Subscriptions

open Access (parseInt)

/-! ## the header -/

/-- what is left of a number in an `int64` -/
def int64 (x : Int) : Int := (x + 2 ^ 63) % 2 ^ 64 - 2 ^ 63

def maximumRetryAfter : Int := 24 * 3600 * second

/-- a number of seconds as `parseRetryAfter` takes it -/
def retrySeconds (seconds : Int) : Int :=
  if seconds ≤ 0 then 0
  else if int64 (seconds * second) > maximumRetryAfter || int64 (seconds * second) < 0 then
    maximumRetryAfter
  else int64 (seconds * second)

/-- `parseTime` is `http.ParseTime`; where `Sub` would overflow it stops past the bound -/
def parseRetryAfter (parseTime : String → Option Time) (value : String) (now : Time) : Int :=
  let value := trimSpace value
  if value = "" || byteLength value > 128 || value.toList.any (fun c => c = '\r' || c = '\n') then 0
  else match parseInt value with
    | some seconds => retrySeconds seconds
    | none =>
      match parseTime value with
      | none => 0
      | some requested =>
        if requested ≤ now then 0
        else if requested - now > maximumRetryAfter then maximumRetryAfter
        else requested - now

inductive FetchError where
  | text (message : String)
  | retryAfter (err : FetchError) (delay : Int)

def FetchError.withRetryAfter (err : FetchError) (delay : Int) : FetchError :=
  if delay ≤ 0 then err
  else .retryAfter err (if delay > maximumRetryAfter then maximumRetryAfter else delay)

def FetchError.fetchRetryAfter : FetchError → Option Int
  | .retryAfter _ delay => if delay ≤ 0 then none else some delay
  | .text _ => none

/-! ## the backoff -/

/-- what `validate` asks of the two durations -/
structure BackoffPolicy where
  initial : Int
  maximum : Int
  positive : second ≤ initial
  ordered : initial ≤ maximum
  fits : maximum < 2 ^ 63

def backoff (maximum : Int) : Nat → Int → Int
  | 0, delay => delay
  | failures + 1, delay =>
    if delay < maximum then
      if delay > maximum / 2 then maximum else backoff maximum failures (int64 (delay * 2))
    else delay

/-- `finishFailure`, up to the jitter -/
def BackoffPolicy.delay (p : BackoffPolicy) (failures : Nat) (requestedRetry : Int) : Int :=
  let delay := backoff p.maximum failures p.initial
  let delay := if delay > p.maximum then p.maximum else delay
  let delay := if requestedRetry > delay then requestedRetry else delay
  if delay > p.maximum then p.maximum else delay

theorem backoff_eq {maximum : Int} (hfits : maximum < 2 ^ 63) (failures : Nat) {delay : Int}
    (hpos : 0 < delay) (hle : delay ≤ maximum) :
    backoff maximum failures delay = min (delay * 2 ^ failures) maximum := by
  induction failures generalizing delay with
  | zero => rw [backoff, pow_zero, mul_one, min_eq_left hle]
  | succ failures ih =>
    have hone : (1 : Int) ≤ 2 ^ failures := one_le_pow₀ (by norm_num)
    rw [backoff, pow_succ', ← mul_assoc]
    split_ifs with hlt hhalf
    · have hdouble : maximum ≤ delay * 2 := by omega
      exact (min_eq_right (by nlinarith)).symm
    · have hwrap : int64 (delay * 2) = delay * 2 := by
        unfold int64
        omega
      rw [hwrap, ih (by omega) (by omega)]
    · exact (le_antisymm hle (not_lt.1 hlt)).trans (min_eq_right (by nlinarith)).symm

theorem BackoffPolicy.delay_eq (p : BackoffPolicy) (failures : Nat) (requestedRetry : Int) :
    p.delay failures requestedRetry =
      min (max (p.initial * 2 ^ failures) requestedRetry) p.maximum := by
  have hpos : 0 < p.initial := lt_of_lt_of_le (by decide) p.positive
  rw [BackoffPolicy.delay, backoff_eq p.fits failures hpos p.ordered]
  grind

/-! ## the text of a number -/

/-- `strconv.FormatInt(_, 10)` -/
def formatInt (n : Int) : String :=
  let digits := pad (Nat.log 10 n.natAbs + 1) n.natAbs
  String.ofList (if n < 0 then '-' :: digits else digits)

theorem plain_format {n : Int} {c : Char} (h : c ∈ (formatInt n).toList) :
    isSpace c = false ∧ (c = '\r' || c = '\n') = false := by
  rw [formatInt, String.toList_ofList] at h
  have hdigit := fun h => (isDigit_iff c).1
    (List.all_eq_true.1 (all_isDigit_pad (Nat.log 10 n.natAbs + 1) n.natAbs) c h)
  have hrange : 45 ≤ c.toNat ∧ c.toNat ≤ 57 := by
    split at h
    · rcases List.mem_cons.1 h with rfl | h
      · decide
      · exact (hdigit h).imp_left (by omega)
    · exact (hdigit h).imp_left (by omega)
  obtain ⟨hlow, hhigh⟩ := hrange
  rw [← Char.ofNat_toNat c]
  interval_cases c.toNat <;> decide

theorem trimSpace_of_plain {s : String} (h : ∀ c ∈ s.toList, isSpace c = false) :
    trimSpace s = s := by
  have hdrop : ∀ l : List Char, (∀ c ∈ l, isSpace c = false) → l.dropWhile isSpace = l := by
    exact fun l hl => List.dropWhile_eq_self_iff.2 fun _ => by simp [hl]
  rw [trimSpace, hdrop _ h, hdrop _ (fun c hc => h c (List.mem_reverse.1 hc)), List.reverse_reverse,
    String.ofList_toList]

section
variable {n : Int} (hlow : -2 ^ 63 ≤ n) (hhigh : n < 2 ^ 63)
include hlow hhigh

theorem parseInt_format : parseInt (formatInt n) = some n := by
  have hdecimal : decimal (pad (Nat.log 10 n.natAbs + 1) n.natAbs) = n.natAbs := by
    rw [decimal_pad, Nat.mod_eq_of_lt (Nat.lt_pow_succ_log_self (by norm_num) _)]
  have hall := all_isDigit_pad (Nat.log 10 n.natAbs + 1) n.natAbs
  have hlen := length_pad (Nat.log 10 n.natAbs + 1) n.natAbs
  rw [parseInt, formatInt, String.toList_ofList]
  generalize pad (Nat.log 10 n.natAbs + 1) n.natAbs = digits at hdecimal hall hlen
  have hnumber : ∀ sign : Int, sign * n.natAbs = n → parseInt.number digits sign = some n := by
    intro sign hsign
    have hne : digits ≠ [] := by
      rintro rfl
      cases hlen
    rw [parseInt.number, if_neg (by simp [hne, hall]), hdecimal, hsign, if_neg (by simp; omega)]
  by_cases hneg : n < 0
  · rw [if_pos hneg]
    exact hnumber (-1) (by omega)
  rw [if_neg hneg]
  split
  · cases hall
  · cases hall
  · exact hnumber 1 (by omega)

theorem parseRetryAfter_format (parseTime : String → Option Time) (now : Time) :
    parseRetryAfter parseTime (formatInt n) now = retrySeconds n := by
  have hplain := fun c hc => plain_format (n := n) (c := c) hc
  have hparse := parseInt_format hlow hhigh
  have hlen : (formatInt n).toList.length ≤ 20 := by
    have hlog : Nat.log 10 n.natAbs < 19 := Nat.log_lt_of_lt_pow' (by norm_num) (by omega)
    rw [formatInt, String.toList_ofList]
    split <;> simp [length_pad] <;> omega
  have hbytes : byteLength (formatInt n) ≤ 80 := by
    refine (List.sum_le_card_nsmul _ 4 ?_).trans ?_
    · simp [Char.utf8Size_le_four]
    · simp
      omega
  rw [parseRetryAfter, trimSpace_of_plain fun c hc => (hplain c hc).1, hparse, if_neg]
  rw [Bool.or_eq_true, Bool.or_eq_true, List.any_eq_true]
  rintro ((h | h) | ⟨c, hc, h⟩)
  · rw [of_decide_eq_true h] at hparse
    cases hparse
  · exact absurd (of_decide_eq_true h) (by omega)
  · exact absurd h (by simp [(hplain c hc).2])

end

/-! ## what the server asked for -/

/-- the smaller of so many seconds and a day -/
def asked (n : Int) : Int := if n ≤ 0 then 0 else min (n * second) maximumRetryAfter

/-- **the header is obeyed for a number exactly when its product does not come round to less
than a day** -/
theorem retry_exact_iff (parseTime : String → Option Time) (now : Time) (n : Int64) :
    (parseRetryAfter parseTime (formatInt n.toInt) now = asked n.toInt ∧
      (∀ m : Int64, m.toInt ≤ n.toInt → parseRetryAfter parseTime (formatInt m.toInt) now ≤
        parseRetryAfter parseTime (formatInt n.toInt) now) ∧
      ∀ (p : BackoffPolicy) (failures : Nat) (message : String),
        p.delay failures (((FetchError.text message).withRetryAfter (parseRetryAfter parseTime
          (formatInt n.toInt) now)).fetchRetryAfter.getD 0) =
            min (max (p.initial * 2 ^ failures) (asked n.toInt)) p.maximum) ↔
      n.toInt ≤ 24 * 3600 ∨ maximumRetryAfter ≤ n.toInt * second % 2 ^ 64 := by
  have hparse := fun m : Int64 =>
    parseRetryAfter_format (Int64.le_toInt m) (Int64.toInt_lt m) parseTime now
  have hiff : parseRetryAfter parseTime (formatInt n.toInt) now = asked n.toInt ↔
      n.toInt ≤ 24 * 3600 ∨ maximumRetryAfter ≤ n.toInt * second % 2 ^ 64 := by
    rw [hparse, asked, retrySeconds, maximumRetryAfter, second, int64]
    grind
  refine ⟨fun h => hiff.1 h.1, fun h => ⟨hiff.2 h, fun m hm => ?_, fun p failures message => ?_⟩⟩
  · -- no number is answered with more than it asks for
    rw [hiff.2 h, hparse, asked, retrySeconds, maximumRetryAfter, second, int64]
    grind
  · rw [hiff.2 h, p.delay_eq]
    congr 2
    rw [FetchError.withRetryAfter, asked, maximumRetryAfter, second]
    grind [FetchError.fetchRetryAfter]

def dayPolicy : BackoffPolicy where
  initial := 60 * second
  maximum := maximumRetryAfter
  positive := by decide
  ordered := by decide
  fits := by decide

/-- 584 years are taken for less than a second, and the next attempt is made after a minute -/
theorem retry_comes_round :
    parseRetryAfter (fun _ => none) (formatInt 18446744074) 0 = 290448384 ∧
    asked 18446744074 = maximumRetryAfter ∧
    parseRetryAfter (fun _ => none) (formatInt 1) 0 = second ∧
    dayPolicy.delay 0 (((FetchError.text "").withRetryAfter
      (parseRetryAfter (fun _ => none) (formatInt 18446744074) 0)).fetchRetryAfter.getD 0) =
        60 * second := by
  decide +kernel

end GatewayVpn.Subscriptions
