import GatewayVpn.Access.Evidence

/-!
# Access: when a better path replaces the current one

`accesspolicy.EvaluateTransition` holds a change of path back until the proposal has lasted.  A
proposal is remembered with the time at which it was first seen; it is carried out when it has
been the same for the hold of the policy and the last change is older than the cooldown.

Durations are exact: the code multiplies seconds in 64 bits, within bounds that the policy update
enforces.
-/

namespace GatewayVpn.Access

structure Policy where
  failureHoldSeconds : Int
  recoveryStableSeconds : Int
  switchCooldownSeconds : Int

structure SelectionRuntime where
  pendingCandidateKey : String := ""
  pendingCandidateSince : Stamp := .malformed ""
  lastSwitchAt : Stamp := .malformed ""
  lastSwitchReason : String := ""

structure TransitionInput where
  currentKey : String
  proposedKey : String
  currentHealthy : Bool
  hardFailure : Bool
  policy : Policy
  runtime : SelectionRuntime
  now : Time

structure TransitionDecision where
  allow : Bool := false
  trackPending : Bool := false
  clearPending : Bool := false
  reason : String := ""

section
variable (input : TransitionInput)

/-- how long a proposal has to last, and the name of the rule -/
def holdOf : Time × String :=
  if input.currentHealthy then
    (input.policy.recoveryStableSeconds * second, "RECOVERY_STABLE")
  else (input.policy.failureHoldSeconds * second, "FAILURE_HOLD")

def evaluateCooldown : Except Fault TransitionDecision :=
  let satisfied : TransitionDecision :=
    { allow := true, clearPending := true, reason := (holdOf input).2 ++ "_SATISFIED" }
  if input.runtime.lastSwitchAt = .malformed "" then .ok satisfied
  else match input.runtime.lastSwitchAt.parse with
  | none => .error (.text "stored access switch time is invalid")
  | some lastSwitch =>
    if lastSwitch > input.now then .error (.text "stored access switch time is invalid")
    else if input.now - lastSwitch < input.policy.switchCooldownSeconds * second then
      .ok { reason := "SWITCH_COOLDOWN" }
    else .ok satisfied

/-- the part for a change without a hard failure -/
def evaluateHold : Except Fault TransitionDecision :=
  if input.runtime.pendingCandidateKey ≠ input.proposedKey ||
      input.runtime.pendingCandidateSince = .malformed "" then
    .ok { trackPending := true, reason := (holdOf input).2 ++ "_STARTED" }
  else match input.runtime.pendingCandidateSince.parse with
  | none => .error (.text "stored pending access candidate time is invalid")
  | some since =>
    if since > input.now then
      .error (.text "stored pending access candidate time is invalid")
    else if input.now - since < (holdOf input).1 then
      .ok { reason := (holdOf input).2 ++ "_PENDING" }
    else evaluateCooldown input

def evaluateTransition : Except Fault TransitionDecision :=
  if trimSpace input.proposedKey = "" || input.now = zeroTime then
    .error (.text "proposed access candidate and current time are required")
  else if input.proposedKey = input.currentKey && input.hardFailure then
    .ok { allow := true, clearPending := true, reason := "HARD_FAILURE_REACTIVATE" }
  else if input.proposedKey = input.currentKey then
    .ok { clearPending := input.runtime.pendingCandidateKey ≠ "",
          reason := "CURRENT_PATH_REMAINS_BEST" }
  else if input.currentKey = "" then
    .ok { allow := true, clearPending := true, reason := "NO_ACTIVE_PATH" }
  else if input.hardFailure then
    .ok { allow := true, clearPending := true, reason := "HARD_FAILURE_FAST_PATH" }
  else evaluateHold input

end

/-! ## the decisions -/

structure TransitionInput.Soft (input : TransitionInput) : Prop where
  change : input.proposedKey ≠ input.currentKey
  current : input.currentKey ≠ ""
  soft : input.hardFailure = false

/-- the proposal is the one that is remembered, since the time `since` -/
structure TransitionInput.Pending (input : TransitionInput) (since : Time) : Prop where
  key : input.runtime.pendingCandidateKey = input.proposedKey
  stored : input.runtime.pendingCandidateSince.parse = some since
  past : since ≤ input.now

structure TransitionInput.Cooling (input : TransitionInput) (last : Time) : Prop where
  stored : input.runtime.lastSwitchAt.parse = some last
  past : last ≤ input.now
  young : input.now - last < input.policy.switchCooldownSeconds * second

/-- no change is remembered, or the last one is older than the cooldown -/
def TransitionInput.Cooled (input : TransitionInput) : Prop :=
  input.runtime.lastSwitchAt = .malformed "" ∨
    ∃ last, input.runtime.lastSwitchAt.parse = some last ∧
      input.policy.switchCooldownSeconds * second ≤ input.now - last

inductive Verdict (input : TransitionInput) : TransitionDecision → Prop
  | reactivate (same : input.proposedKey = input.currentKey) (hard : input.hardFailure = true) :
      Verdict input { allow := true, clearPending := true, reason := "HARD_FAILURE_REACTIVATE" }
  | remains (same : input.proposedKey = input.currentKey) (soft : input.hardFailure = false) :
      Verdict input { clearPending := input.runtime.pendingCandidateKey ≠ ""
                      reason := "CURRENT_PATH_REMAINS_BEST" }
  | inactive (change : input.proposedKey ≠ input.currentKey) (none : input.currentKey = "") :
      Verdict input { allow := true, clearPending := true, reason := "NO_ACTIVE_PATH" }
  | hard (change : input.proposedKey ≠ input.currentKey) (hard : input.hardFailure = true) :
      Verdict input { allow := true, clearPending := true, reason := "HARD_FAILURE_FAST_PATH" }
  | started (soft : input.Soft) (unseen : input.runtime.pendingCandidateKey ≠ input.proposedKey ∨
        input.runtime.pendingCandidateSince = .malformed "") :
      Verdict input { trackPending := true, reason := (holdOf input).2 ++ "_STARTED" }
  | waiting {since : Time} (soft : input.Soft) (pending : input.Pending since)
      (short : input.now - since < (holdOf input).1) :
      Verdict input { reason := (holdOf input).2 ++ "_PENDING" }
  | cooling {since last : Time} (soft : input.Soft) (pending : input.Pending since)
      (long : (holdOf input).1 ≤ input.now - since) (cooling : input.Cooling last) :
      Verdict input { reason := "SWITCH_COOLDOWN" }
  | satisfied {since : Time} (soft : input.Soft) (pending : input.Pending since)
      (long : (holdOf input).1 ≤ input.now - since) (cooled : input.Cooled) :
      Verdict input { allow := true, clearPending := true
                      reason := (holdOf input).2 ++ "_SATISFIED" }

variable {input : TransitionInput} {decision : TransitionDecision}

theorem evaluateCooldown_verdict {since : Time} (hsoft : input.Soft)
    (hpending : input.Pending since) (hlong : (holdOf input).1 ≤ input.now - since)
    (h : evaluateCooldown input = .ok decision) : Verdict input decision := by
  rw [evaluateCooldown] at h
  split at h
  · rename_i hnever
    cases h
    exact .satisfied hsoft hpending hlong (Or.inl hnever)
  split at h
  · cases h
  rename_i last hlast
  split at h
  · cases h
  rename_i hpast
  split at h
  · rename_i hyoung
    cases h
    exact .cooling hsoft hpending hlong ⟨hlast, not_lt.mp hpast, hyoung⟩
  rename_i hold
  cases h
  exact .satisfied hsoft hpending hlong (Or.inr ⟨last, hlast, not_lt.mp hold⟩)

theorem evaluateHold_verdict (hsoft : input.Soft) (h : evaluateHold input = .ok decision) :
    Verdict input decision := by
  rw [evaluateHold] at h
  split at h
  · rename_i hunseen
    cases h
    simp only [Bool.or_eq_true, decide_eq_true_eq] at hunseen
    exact .started hsoft hunseen
  rename_i hseen
  simp only [Bool.or_eq_true, decide_eq_true_eq, not_or, not_not] at hseen
  split at h
  · cases h
  rename_i since hsince
  split at h
  · cases h
  rename_i hpast
  have hpending : input.Pending since := ⟨hseen.1, hsince, not_lt.mp hpast⟩
  split at h
  · rename_i hshort
    cases h
    exact .waiting hsoft hpending hshort
  · rename_i hlong
    exact evaluateCooldown_verdict hsoft hpending (not_lt.mp hlong) h

/-- **what `EvaluateTransition` decides** -/
theorem evaluateTransition_verdict (h : evaluateTransition input = .ok decision) :
    Verdict input decision := by
  rw [evaluateTransition] at h
  split at h
  · cases h
  split at h
  · rename_i hsame
    cases h
    simp only [Bool.and_eq_true, decide_eq_true_eq] at hsame
    exact .reactivate hsame.1 hsame.2
  rename_i hfirst
  split at h
  · rename_i hsame
    cases h
    refine .remains hsame ?_
    simpa [hsame] using hfirst
  rename_i hchange
  split at h
  · rename_i hnone
    cases h
    exact .inactive hchange hnone
  rename_i hcurrent
  split at h
  · rename_i hhard
    cases h
    exact .hard hchange hhard
  · rename_i hsoft
    exact evaluateHold_verdict ⟨hchange, hcurrent, Bool.eq_false_iff.mpr hsoft⟩ h

section
variable (h : Verdict input decision) (hallow : decision.allow = true)
include h hallow

theorem Verdict.of_allow : decision.clearPending = true ∧ decision.trackPending = false := by
  cases h <;> first | exact ⟨rfl, rfl⟩ | cases hallow

theorem Verdict.hard_of_same (hsame : input.proposedKey = input.currentKey) : input.hardFailure =
    true := by
  cases h with
  | reactivate _ hhard => exact hhard
  | inactive hchange _ => exact absurd hsame hchange
  | hard hchange _ => exact absurd hsame hchange
  | satisfied hsoft _ _ _ => exact absurd hsame hsoft.change
  | _ => cases hallow

theorem Verdict.waited (hcurrent : input.currentKey ≠ "") (hsoft : input.hardFailure = false) :
    ∃ since, input.Pending since ∧ (holdOf input).1 ≤ input.now - since ∧ input.Cooled := by
  cases h with
  | reactivate _ hhard => rw [hsoft] at hhard; cases hhard
  | inactive _ hnone => exact absurd hnone hcurrent
  | hard _ hhard => rw [hsoft] at hhard; cases hhard
  | satisfied _ hpending hlong hcooled => exact ⟨_, hpending, hlong, hcooled⟩
  | _ => cases hallow

end

theorem Verdict.of_silent (h : Verdict input decision) (htrack : decision.trackPending = false)
    (hclear : decision.clearPending = false) : input.runtime.pendingCandidateKey = "" ∨
      input.runtime.pendingCandidateKey = input.proposedKey := by
  cases h with
  | remains _ _ => exact Or.inl (by simpa using hclear)
  | waiting _ hpending _ => exact Or.inr hpending.key
  | cooling _ hpending _ _ => exact Or.inr hpending.key
  | started _ _ => cases htrack
  | _ => cases hclear

/-! ## the writes -/

def trackPendingCandidate (now : Time) (runtime : SelectionRuntime) (candidateKey : String) :
    Except Fault SelectionRuntime :=
  if trimSpace candidateKey = "" || byteLength candidateKey > 512 then
    .error (.text "pending access candidate key is invalid")
  else .ok { runtime with
    pendingCandidateSince :=
      if runtime.pendingCandidateKey = candidateKey then runtime.pendingCandidateSince
      else .format now
    pendingCandidateKey := candidateKey }

def clearPendingCandidate (runtime : SelectionRuntime) : SelectionRuntime :=
  { runtime with pendingCandidateKey := "", pendingCandidateSince := .malformed "" }

def markSwitched (now : Time) (runtime : SelectionRuntime) (reason : String) :
    Except Fault SelectionRuntime :=
  if trimSpace reason = "" || byteLength reason > 128 then
    .error (.text "access switch reason is invalid")
  else .ok { clearPendingCandidate runtime with
    lastSwitchAt := .format now, lastSwitchReason := reason }

theorem markSwitched_ok {reason : String}
    (h : (trimSpace reason = "" || byteLength reason > 128) = false) (now : Time)
    (runtime : SelectionRuntime) :
    markSwitched now runtime reason = .ok { clearPendingCandidate runtime with
      lastSwitchAt := .format now, lastSwitchReason := reason } := by
  rw [markSwitched, h]
  rfl

theorem Verdict.reason_ok (h : Verdict input decision) (hallow : decision.allow = true) :
    (trimSpace decision.reason = "" || byteLength decision.reason > 128) = false := by
  have hhold : (holdOf input).2 = "RECOVERY_STABLE" ∨ (holdOf input).2 = "FAILURE_HOLD" := by
    unfold holdOf
    split
    · exact Or.inl rfl
    · exact Or.inr rfl
  cases h with
  | reactivate _ _ => decide +kernel
  | inactive _ _ => decide +kernel
  | hard _ _ => decide +kernel
  | satisfied _ _ _ _ =>
    rcases hhold with hhold | hhold
    · rw [hhold]
      decide +kernel
    · rw [hhold]
      decide +kernel
  | _ => cases hallow

end GatewayVpn.Access
