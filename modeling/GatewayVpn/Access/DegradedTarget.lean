import GatewayVpn.Access.UnifiedRound

/-!
# Access: a degraded target in the two modes

A required target that fails while it is suspect does not take the active path down:
`MarkTargetDegraded` stores the path as DEGRADED with failed node evidence, the gateway goes to
DEGRADED_TARGET, and without the access repositories `Reconcile` keeps the path as long as
`TargetDegradedCandidate` accepts it.  With them it has no such branch: failed node evidence is no
candidate, so the round looks for another path.
-/

namespace GatewayVpn.Access

open Durable Option

/-! ## the situation -/

def legacy : Reconciler := ⟨false, false⟩

/-- the round leaves the row alone and calls neither the actuator nor `State.Block` -/
def Kept (r : Reconciler) (w : World) : Prop :=
  (succeed r.reconcile w).2.runtime = w.runtime ∧ (succeed r.reconcile w).2.calls = w.calls

/-- the active path is degraded by a suspect target; `w.later 5` is when the inventory is asked -/
structure Degraded (w : World) (db : Database) : Prop where
  steady : ∀ i, (w.inputs i).database = db
  gatewayState : w.runtime.gatewayState = .degradedTarget
  pathState : w.runtime.pathState = .active
  kind : w.runtime.activeMethodKind = .subscription
  carries : observedRuntimeMatches (w.later 0).observed w.runtime = true
  ready : (w.later 0).observed.firewallReady = true ∧ (w.later 0).observed.mihomoReady = true ∧
    (w.later 0).observed.tunReady = true
  uplinks : hasReadyUplinks db = true
  targets : hasRequiredTargets db = true
  accepted : ∃ candidate, targetDegradedCandidate db (textAfter (w.later 5).now)
    w.runtime.activePathID w.runtime.activeNodeID = .ok candidate

/-- the change is held back: the proposal is the path itself, or is seen for the first time, or has
not lasted, or the last change is too young -/
def Waits (input : TransitionInput) : Prop :=
  input.now ≠ zeroTime ∧
    (input.proposedKey = input.currentKey ∨
      ((input.runtime.pendingCandidateKey ≠ input.proposedKey ∨
        input.runtime.pendingCandidateSince = .malformed "") ∧ byteLength input.proposedKey ≤ 512) ∨
      ∃ since, input.Pending since ∧
        (input.now - since < (holdOf input).1 ∨ ∃ last, input.Cooling last))

/-- another path is found, and the change to it is held back -/
def HeldBack (w : World) : Prop :=
  ∃ items decision, w.Ranks items ∧ rank items (activeCandidateKey w.runtime) = .ok decision ∧
    Waits (w.question items decision.candidate)

/-! ## the mode without the access repositories -/

variable {db : Database} {w : World}

section
variable (h : Degraded w db)
include h

theorem Degraded.ids :
    trimSpace w.runtime.activePathID ≠ "" ∧ trimSpace w.runtime.activeNodeID ≠ "" := by
  obtain ⟨candidate, haccepted⟩ := h.accepted
  rw [targetDegradedCandidate] at haccepted
  split at haccepted
  · cases haccepted
  · rename_i hids
    simpa using hids

theorem Degraded.key_ne : w.runtime.activePathID ≠ "" ∧ w.runtime.activeNodeID ≠ "" :=
  ⟨fun he => h.ids.1 (by rw [he]; rfl), fun he => h.ids.2 (by rw [he]; rfl)⟩

theorem Degraded.activeKey : activeCandidateKey w.runtime ≠ "" := by
  have hkey : activeCandidateKey w.runtime =
      w.runtime.activePathID ++ ":" ++ w.runtime.activeNodeID := by
    simp [activeCandidateKey, h.kind, h.key_ne.1, h.key_ne.2]
  rw [hkey]
  intro he
  have hlist := congrArg String.toList he
  simp at hlist

theorem Degraded.not_fresh (after : Time → Bool) :
    freshNodeCandidate db after w.runtime.activePathID w.runtime.activeNodeID =
      .error .notFound := by
  obtain ⟨candidate, haccepted⟩ := h.accepted
  rw [targetDegradedCandidate, if_neg (by simpa using h.ids)] at haccepted
  cases hrow : targetDegradedRow db (textAfter (w.later 5).now) w.runtime.activePathID
      w.runtime.activeNodeID with
  | none =>
    rw [hrow] at haccepted
    cases haccepted
  | some p =>
    obtain ⟨p, hp, hrow⟩ := bind_eq_some_iff.mp hrow
    obtain ⟨_, _, hrow⟩ := bind_eq_some_iff.mp hrow
    obtain ⟨_, _, hrow⟩ := bind_eq_some_iff.mp hrow
    obtain ⟨pn, hpn, hrow⟩ := bind_eq_some_iff.mp hrow
    obtain ⟨_, _, hrow⟩ := bind_eq_some_iff.mp hrow
    obtain ⟨_, _, hrow⟩ := bind_eq_some_iff.mp hrow
    simp only [ite_none_right_eq_some, Bool.and_eq_true, decide_eq_true_eq] at hrow
    have hfailed : pn.state = .bypassFailed := hrow.1.1.1.1.1.2
    rw [freshNodeCandidate, if_neg (by simpa using h.ids)]
    cases hfresh : freshNodeRow db after w.runtime.activePathID w.runtime.activeNodeID with
    | none => rfl
    | some p' =>
    obtain ⟨u, s, pn', n, v, f⟩ := freshNodeRow_some hfresh
    obtain rfl : p' = p := some.inj (f.path.symm.trans hp)
    obtain rfl : pn' = pn := some.inj (f.pathNode.symm.trans hpn)
    have hqualified := f.nodeState
    rw [hfailed] at hqualified
    cases hqualified

theorem Degraded.kept_legacy : Kept legacy w := by
  obtain ⟨candidate, haccepted⟩ := h.accepted
  have hdb : ∀ n, (w.wait n).input.database = db := fun n => h.steady _
  have hmatches := h.carries
  simp only [observedRuntimeMatches, h.pathState, h.kind] at hmatches
  have hsame : (w.later 0).observed.activePathID = w.runtime.activePathID ∧
      (w.later 0).observed.activeNodeID = w.runtime.activeNodeID := by
    split at hmatches
    · cases hmatches
    · simpa using hmatches
  have hround : Sure legacy.reconcile
      (fun _ w' => w'.runtime = w.runtime ∧ w'.calls = w.calls) (w.wait 0) := by
    refine sure_call (ok_observe w 0) ?_
    dsimp only
    rw [if_neg (by simp [h.ready.1])]
    refine sure_call (ok_stateGet w 1) (sure_call (ok_hasRequiredTargets w 2)
      (sure_call (ok_hasReadyUplinks w 3) ?_))
    dsimp only
    rw [show (w.later 3).database = db from h.steady _,
      show (w.later 2).database = db from h.steady _, if_neg (by simp [h.uplinks])]
    change Sure (reconcileLegacy _ _ _) _ _
    rw [reconcileLegacy, if_neg (by simp [h.ready.2.1, h.ready.2.2]),
      if_neg (by simp [Snapshot.policyTransitionActive, h.gatewayState]),
      if_neg (by simp [h.targets]), degradedLegacy,
      if_pos (by simp [h.gatewayState, h.pathState, h.key_ne.1, h.key_ne.2, hsame.1, hsame.2])]
    refine sure_call (ok_freshNodeCandidate (w.wait 4) _ _) ?_
    rw [hdb, h.not_fresh]
    refine sure_call (ok_targetDegradedCandidate (w.wait 5) _ _) ?_
    rw [hdb, show (w.wait 5).input.now = (w.later 5).now from rfl, haccepted]
    exact ⟨rfl, rfl⟩
  exact hround.succeed

end

/-! ## the decision -/

variable {input : TransitionInput}

theorem TransitionInput.Pending.seen {since : Time} (h : input.Pending since) :
    ¬ (input.runtime.pendingCandidateKey ≠ input.proposedKey ||
      input.runtime.pendingCandidateSince = .malformed "") = true := by
  have hsince : input.runtime.pendingCandidateSince ≠ .malformed "" := by
    intro he
    have hstored := h.stored
    rw [he] at hstored
    cases hstored
  simp [h.key, hsince]

theorem evaluateCooldown_cooling {last : Time} (h : input.Cooling last) :
    evaluateCooldown input = .ok { reason := "SWITCH_COOLDOWN" } := by
  have hlast : input.runtime.lastSwitchAt ≠ .malformed "" := by
    intro he
    have hstored := h.stored
    rw [he] at hstored
    cases hstored
  rw [evaluateCooldown, if_neg hlast, h.stored]
  dsimp only
  rw [if_neg (not_lt.mpr h.past), if_pos h.young]

theorem Waits.refused (h : Waits input) (hkey : trimSpace input.proposedKey ≠ "")
    (hcurrent : input.currentKey ≠ "") (hsoft : input.hardFailure = false) :
    ∃ transition, evaluateTransition input = .ok transition ∧ transition.allow = false ∧
      (transition.trackPending = true → byteLength input.proposedKey ≤ 512) := by
  obtain ⟨hnow, hwaits⟩ := h
  rw [evaluateTransition, if_neg (by simp [hkey, hnow]), if_neg (by simp [hsoft])]
  by_cases hsame : input.proposedKey = input.currentKey
  · rw [if_pos hsame]
    exact ⟨_, rfl, rfl, fun htrack => by cases htrack⟩
  rw [if_neg hsame, if_neg hcurrent, if_neg (by simp [hsoft]), evaluateHold]
  rcases hwaits with hsame' | ⟨hunseen, hlength⟩ | ⟨since, hpending, hwait⟩
  · exact absurd hsame' hsame
  · rw [if_pos (by simpa using hunseen)]
    exact ⟨_, rfl, rfl, fun _ => hlength⟩
  rw [if_neg hpending.seen, hpending.stored]
  dsimp only
  rw [if_neg (not_lt.mpr hpending.past)]
  by_cases hshort : input.now - since < (holdOf input).1
  · rw [if_pos hshort]
    exact ⟨_, rfl, rfl, fun htrack => by cases htrack⟩
  obtain ⟨last, hcooling⟩ := hwait.resolve_left hshort
  rw [if_neg hshort, evaluateCooldown_cooling hcooling]
  exact ⟨_, rfl, rfl, fun htrack => by cases htrack⟩

theorem waits_of_refused {transition : TransitionDecision}
    (h : evaluateTransition input = .ok transition) (hallow : transition.allow = false)
    (hlength : transition.trackPending = true → byteLength input.proposedKey ≤ 512) :
    Waits input := by
  have hnow : input.now ≠ zeroTime := by
    intro hzero
    rw [evaluateTransition, if_pos (by simp [hzero])] at h
    cases h
  refine ⟨hnow, ?_⟩
  cases evaluateTransition_verdict h with
  | remains hsame _ => exact Or.inl hsame
  | started _ hunseen => exact Or.inr (Or.inl ⟨hunseen, hlength rfl⟩)
  | waiting _ hpending hshort => exact Or.inr (Or.inr ⟨_, hpending, Or.inl hshort⟩)
  | cooling _ hpending _ hcooling => exact Or.inr (Or.inr ⟨_, hpending, Or.inr ⟨_, hcooling⟩⟩)
  | _ => cases hallow

theorem noting_ok_iff {winner : Candidate} {transition : TransitionDecision}
    (hkey : trimSpace winner.key ≠ "") : (∃ selection, w.noting winner transition = .ok selection) ↔
      (transition.trackPending = true → byteLength winner.key ≤ 512) := by
  unfold World.noting trackPendingCandidate
  cases transition.trackPending with
  | true =>
    by_cases hlength : byteLength winner.key ≤ 512
    · simp [hkey, not_lt.mpr hlength, hlength]
    · simp [hlength, not_le.mp hlength]
  | false =>
  cases transition.clearPending <;> simp

/-! ## the mode with the access repositories -/

theorem kept_unified_iff (hopen : w.runtime.policyTransitionActive = false)
    (hkey : activeCandidateKey w.runtime ≠ "")
    (hcarries : observedRuntimeMatches (w.later 0).observed w.runtime = true)
    (hfirewall : (w.later 0).observed.firewallReady = true)
    (htargets : hasRequiredTargets (w.later 2).database = true)
    (huplinks : hasReadyUplinks (w.later 3).database = true) : Kept unified w ↔ HeldBack w := by
  constructor
  · rintro ⟨_, hcalls⟩
    cases round_ends w hopen with
    | blocked hblocked _ =>
      have hlonger := hblocked.calls
      rw [hcalls] at hlonger
      exact absurd hlonger (lt_irrefl _)
    | switched _ _ hswitched =>
      obtain ⟨started, hstarted⟩ := hswitched.calls
      rw [hcalls] at hstarted
      exact absurd hstarted.symm (List.cons_ne_self _ _)
    | kept hd hallow _ _ hnoted _ =>
    obtain ⟨decision, hrank, rfl⟩ := hd.wins
    have hlength := (noting_ok_iff (rank_key_ne hrank)).mp ⟨_, hnoted⟩
    exact ⟨_, decision, hd.ranks, hrank, waits_of_refused hd.decided hallow hlength⟩
  rintro ⟨items, decision, hranks, hrank, hwaits⟩
  have hwinner := rank_key_ne hrank
  obtain ⟨transition, hdecided, hallow, hlength⟩ :=
    hwaits.refused hwinner hkey (hardFailure_of_matches hcarries)
  have hd : Decides w items decision.candidate transition :=
    ⟨hfirewall, htargets, huplinks, hranks, ⟨decision, hrank, rfl⟩, hdecided⟩
  cases round_ends w hopen with
  | blocked _ hrefused =>
    obtain ⟨selection, hnoted⟩ := (noting_ok_iff hwinner).mpr hlength
    rcases hrefused _ _ _ hd with hallow' | ⟨err, herr⟩
    · rw [hallow] at hallow'
      cases hallow'
    · rw [hnoted] at herr
      cases herr
  | switched hd' hallow' _ =>
    obtain ⟨_, _, rfl⟩ := hd.unique hd'
    rw [hallow] at hallow'
    cases hallow'
  | kept _ _ hruntime hcalls _ _ => exact ⟨hruntime, hcalls⟩

/-- **a path degraded by a suspect target is kept without the access repositories; with them it is
kept exactly when another path is found and the change to it is held back** -/
theorem degraded_kept_iff (w : World) (db : Database) (h : Degraded w db) :
    Kept legacy w ∧ (Kept unified w ↔ HeldBack w) := by
  have htargets : hasRequiredTargets (w.later 2).database = true := by
    rw [show (w.later 2).database = db from h.steady _]
    exact h.targets
  have huplinks : hasReadyUplinks (w.later 3).database = true := by
    rw [show (w.later 3).database = db from h.steady _]
    exact h.uplinks
  have hopen : w.runtime.policyTransitionActive = false := by
    simp [Snapshot.policyTransitionActive, h.gatewayState]
  exact ⟨h.kept_legacy,
    kept_unified_iff hopen h.activeKey h.carries h.ready.1 htargets huplinks⟩

/-! ## a path that is taken down -/

def degradedSample (direct : Bool) : Database :=
  { sampleDatabase (10 * second) with
    targets := ⟨[{ id := "t1", suspect := true }], by decide⟩
    paths := ⟨[{ samplePath (10 * second) with state := .degraded }], List.nodup_singleton _⟩
    pathNodes := ⟨[{ samplePathNode (10 * second) with state := .bypassFailed }],
      List.nodup_singleton _⟩
    targetResults := ⟨[{ pathID := "p1", nodeID := "n1", targetID := "t1", state := .failed,
                         policyGeneration := 1, routeGeneration := 1,
                         expiresAt := some (10 * second) }], List.nodup_singleton _⟩
    directPaths := if direct then (sampleDatabase (10 * second)).directPaths else .empty }

def degradedWorld (direct : Bool) : World :=
  { runtime := { gatewayState := .degradedTarget, pathState := .active, activeUplinkID := "u1",
                 activePathID := "p1", activeSubscriptionID := "s1", activeNodeID := "n1",
                 activeMethodID := "access:s1", activeMethodKind := .subscription,
                 activeQualityClass := .full }
    inputs := fun _ =>
      { now := 5 * second
        observed := { methodKind := .subscription, activePathID := "p1", activeNodeID := "n1" }
        database := degradedSample direct, policy := ⟨1, 1, 1⟩ } }

theorem degradedWorld_degraded (direct : Bool) :
    Degraded (degradedWorld direct) (degradedSample direct) where
  steady := fun _ => rfl
  gatewayState := rfl
  pathState := rfl
  kind := rfl
  carries := rfl
  ready := ⟨rfl, rfl, rfl⟩
  uplinks := rfl
  targets := rfl
  accepted := ⟨inventoryCandidate { samplePath (10 * second) with state := .degraded } "n1",
    by cases direct <;> decide +kernel⟩

/-- with a direct path that is seen for the first time, both modes keep the path -/
theorem degraded_kept_beside_direct :
    Kept legacy (degradedWorld true) ∧ HeldBack (degradedWorld true) := by
  obtain ⟨hlegacy, hiff⟩ := degraded_kept_iff _ _ (degradedWorld_degraded true)
  exact ⟨hlegacy, hiff.mp ⟨by decide +kernel, by decide +kernel⟩⟩

/-- **without another path, the path that the one mode keeps is blocked by the other** -/
theorem degraded_path_blocked :
    Degraded (degradedWorld false) (degradedSample false) ∧ Kept legacy (degradedWorld false) ∧
      (succeed unified.reconcile (degradedWorld false)).2.runtime.pathState = .blocked ∧
      ¬ Kept unified (degradedWorld false) := by
  have hblocked : (succeed unified.reconcile (degradedWorld false)).2.runtime.pathState =
      .blocked := by decide +kernel
  have hdegraded := degradedWorld_degraded false
  refine ⟨hdegraded, hdegraded.kept_legacy, hblocked, ?_⟩
  intro hkept
  rw [hkept.1] at hblocked
  cases hblocked

end GatewayVpn.Access
