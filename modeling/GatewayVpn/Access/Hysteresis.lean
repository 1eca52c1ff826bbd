import GatewayVpn.Access.UnifiedRound

/-!
# Access: hysteresis over whole runs

The pending candidate, the time since which it is pending and the time of the last change are kept
in the database and are written by different branches of the reconciler.  Over a run of rounds
with both access repositories, under a clock that does not go back, they mean what they say: while
a path is active, its pending candidate has won every round since the stored time against this
very path, and the stored time of the last change is not before any change of the run.  A round in
which a call fails may leave an old candidate pending, so it must not leave a path active.

`ActivateExact` changes the path without touching either.  A candidate that was pending before the
manual choice goes on counting after it, and the choice does not start a cooldown.
-/

namespace GatewayVpn.Access

open Durable

/-! ## runs -/

inductive Entry where
  | reconcile
  | activateExact (pathID nodeID : String)

def Entry.prog : Entry → Prog Reply
  | .reconcile => unified.reconcile
  | .activateExact pathID nodeID => Access.activateExact pathID nodeID

structure Turn where
  entry : Entry
  env : Op → Fate := fun _ => .ok

def Turn.take (t : Turn) (v : World) : Reply × World := runWith exec t.env t.entry.prog v

/-- the world before turn `n` -/
def trace (w : World) (turns : Nat → Turn) : Nat → World
  | 0 => w
  | n + 1 => ((turns n).take (trace w turns n)).2

def World.Forward (w : World) : Prop := ∀ i j, i ≤ j → (w.inputs i).now ≤ (w.inputs j).now

def During (w : World) (turns : Nat → Turn) (i k : Nat) : Prop :=
  (trace w turns i).ticks ≤ k ∧ k < (trace w turns (i + 1)).ticks

def World.Wins (w : World) (key : String) : Prop :=
  ∃ items decision, w.Ranks items ∧ rank items (activeCandidateKey w.runtime) = .ok decision ∧
    decision.candidate.key = key

def SwitchedAt (w w' : World) (a : Nat) : Prop :=
  ∃ candidate, w'.calls = (a, .activate candidate true) :: w.calls ∧ w'.runtime.pathState = .active

def Replaced (w w' : World) : Prop :=
  ∃ before after, w.runtime.activeTuple = some before ∧ w'.runtime.activeTuple = some after ∧
    after ≠ before

/-- the data plane carries the active path, which is one -/
def World.Carried (w : World) : Prop :=
  activeCandidateKey w.runtime ≠ "" ∧
    observedRuntimeMatches (w.later 0).observed w.runtime = true

instance (w : World) (turns : Nat → Turn) (i k : Nat) : Decidable (During w turns i k) :=
  inferInstanceAs (Decidable (_ ∧ _))

instance (w : World) : Decidable w.Carried := inferInstanceAs (Decidable (_ ∧ _))

theorem trace_inputs (w : World) (turns : Nat → Turn) (n : Nat) :
    (trace w turns n).inputs = w.inputs := by
  induction n with
  | zero => rfl
  | succ n ih => exact (runWith_frame _ _ _).1.trans ih

theorem trace_ticks (w : World) (turns : Nat → Turn) {i n : Nat} (h : i ≤ n) :
    (trace w turns i).ticks ≤ (trace w turns n).ticks := by
  induction n with
  | zero =>
    obtain rfl : i = 0 := Nat.le_zero.mp h
    exact Nat.le_refl _
  | succ n ih =>
    rcases Nat.lt_or_eq_of_le h with hlt | rfl
    · exact (ih (Nat.le_of_lt_succ hlt)).trans (runWith_frame _ _ _).2.1
    · exact Nat.le_refl _

theorem trace_later (w : World) (turns : Nat → Turn) (n k : Nat) :
    (trace w turns n).later k = w.inputs ((trace w turns n).ticks + k) := by
  rw [World.later, trace_inputs]

theorem During.lt {w : World} {turns : Nat → Turn} {i n k : Nat} (h : During w turns i k)
    (hi : i < n) : k < (trace w turns n).ticks :=
  h.2.trans_le (trace_ticks w turns hi)

theorem trace_open {w : World} {turns : Nat → Turn} {b n : Nat} (hn : b ≤ n)
    (hopen : (trace w turns b).runtime.policyTransitionActive = false) :
    (trace w turns n).runtime.policyTransitionActive = false := by
  induction n, hn using Nat.le_induction with
  | base => exact hopen
  | succ n _ ih =>
    have hframe := runWith_frame (turns n).env (turns n).entry.prog (trace w turns n)
    rcases hframe.2.2 with hsame | hclosed
    · exact (congrArg Snapshot.policyTransitionActive hsame).trans ih
    · exact hclosed

/-! ## a manual activation -/

/-- the calls that write the selection memory -/
def Op.remembers : Op → Bool
  | .trackPending _ | .clearPending | .markSwitched _ => true
  | _ => false

theorem selection_effect {o : Op} (ho : o.remembers = false) (f : Fate) (w : World) :
    (effect o f w).2.selection = w.selection := by
  cases o with
  | trackPending key => cases ho
  | clearPending => cases ho
  | markSwitched reason => cases ho
  | _ => cases f <;> rfl

abbrev Forgets (p : Prog Reply) : Prop := p.All (fun _ _ => True) fun o => o.remembers = false

theorem blockWith_forgets (gatewayState : GatewayState) (reason : String) (cause : Option Fault) :
    Forgets (blockWith gatewayState reason cause) :=
  ⟨rfl, fun _ _ => ⟨rfl, fun _ _ => ⟨rfl, fun _ _ => trivial⟩⟩⟩

theorem activate_forgets (candidate : ActivationCandidate) :
    Forgets (activate candidate) := by
  refine ⟨rfl, ?_⟩
  rintro (err | ⟨intent, _⟩) -
  · exact blockWith_forgets _ _ _
  refine ⟨rfl, ?_⟩
  rintro (err | _) -
  · exact blockWith_forgets _ _ _
  refine ⟨rfl, ?_⟩
  rintro (err | _) -
  · exact blockWith_forgets _ _ _
  · trivial

theorem activateExact_forgets (pathID nodeID : String) :
    Forgets (activateExact pathID nodeID) := by
  unfold activateExact
  dsimp only
  split
  · trivial
  refine ⟨rfl, ?_⟩
  rintro (err | hasTargets) -
  · trivial
  dsimp only
  split
  · trivial
  refine ⟨rfl, ?_⟩
  rintro (err | candidate) -
  · trivial
  refine ⟨rfl, ?_⟩
  rintro (err | observed) -
  · trivial
  dsimp only
  split
  · trivial
  refine ⟨rfl, ?_⟩
  rintro (err | desired) -
  · trivial
  dsimp only
  split
  · trivial
  refine ⟨rfl, ?_⟩
  rintro (err | _) -
  · trivial
  · exact activate_forgets candidate

/-- `ActivateExact` leaves the memory alone, whatever fails -/
theorem activateExact_selection (env : Op → Fate) (pathID nodeID : String) (v : World) :
    (runWith exec env (activateExact pathID nodeID) v).2.selection = v.selection := by
  have hkept : wp exec (fun _ => True) (fun w' : World => w'.selection = v.selection)
      (activateExact pathID nodeID) (fun _ w' => w'.selection = v.selection) v :=
    wp_of_all (fun _ _ _ => trivial) (fun _ f w' ho _ hw' => (selection_effect ho f w').trans hw')
      (activateExact_forgets pathID nodeID) rfl
  exact wp_runWith hkept fun _ => trivial

/-! ## what a turn does to the memory -/

theorem Blocked.not_active {w w' : World} (h : Blocked w w') : w'.runtime.pathState ≠ .active := by
  rw [h.pathState]
  decide

variable {v : World}

theorem noting_lastSwitch {w : World} {winner : Candidate} {transition : TransitionDecision}
    {selection : SelectionRuntime} (h : w.noting winner transition = .ok selection) :
    selection.lastSwitchAt = w.selection.lastSwitchAt := by
  rw [World.noting] at h
  split at h
  · rw [trackPendingCandidate] at h
    split at h
    · cases h
    · cases h
      rfl
  · split at h
    · cases h
      rfl
    · cases h
      rfl

/-- a turn is admitted: a manual activation finds no pending candidate, and a round in which a call
fails leaves no active path -/
def Admitted (v : World) (t : Turn) : Prop :=
  match t.entry with
  | .reconcile => (∀ o, t.env o = .ok) ∨ (t.take v).2.runtime.pathState ≠ .active
  | .activateExact _ _ => v.selection.pendingCandidateKey = ""

theorem Admitted.round {t : Turn} (h : Admitted v t) (ht : t.entry = .reconcile)
    (hactive : (t.take v).2.runtime.pathState = .active) :
    t.take v = succeed unified.reconcile v := by
  rw [Admitted, ht] at h
  rw [Turn.take, funext (h.resolve_right fun hne => hne hactive), ht]
  rfl

/-- **where a pending candidate comes from**: it was noted in this turn, at the last moment of it,
or nothing changed and it has won again -/
theorem pending_step {t : Turn} {since : Time}
    (hopen : v.runtime.policyTransitionActive = false) (hforward : v.Forward)
    (hadmitted : Admitted v t) (hactive : (t.take v).2.runtime.pathState = .active)
    (hpending : (t.take v).2.selection.pendingCandidateKey ≠ "")
    (hsince : (t.take v).2.selection.pendingCandidateSince.parse = some since) :
    (∀ k, k < (t.take v).2.ticks → (v.inputs k).now ≤ since) ∨
      ((t.take v).2.selection = v.selection ∧ (t.take v).2.runtime = v.runtime ∧
        v.Wins v.selection.pendingCandidateKey) := by
  cases ht : t.entry with
  | activateExact pathID nodeID =>
    rw [Admitted, ht] at hadmitted
    rw [Turn.take, ht, Entry.prog, activateExact_selection] at hpending
    exact absurd hadmitted hpending
  | reconcile =>
  have hround : t.take v = succeed unified.reconcile v := hadmitted.round ht hactive
  rw [hround] at hactive hpending hsince ⊢
  cases round_ends v hopen with
  | blocked hb _ => exact absurd hactive hb.not_active
  | switched _ _ hs => exact absurd hs.pending hpending
  | @kept items winner transition hd hallow hruntime _ hnoted hticks =>
  have hverdict := evaluateTransition_verdict hd.decided
  rw [World.noting] at hnoted
  split at hnoted
  · rename_i htrack
    left
    rw [trackPendingCandidate] at hnoted
    split at hnoted
    · cases hnoted
    have hselection := Except.ok.inj hnoted
    rw [← hselection] at hsince
    -- a candidate that is noted for the first time gets the time of the note
    have hunseen : v.selection.pendingCandidateKey ≠ winner.key := by
      intro hsame
      cases hverdict with
      | started _ hunseen =>
        rcases hunseen with hne | hempty
        · exact hne hsame
        simp only [hsame, if_true] at hsince
        rw [show v.selection.pendingCandidateSince = .malformed "" from hempty] at hsince
        cases hsince
      | _ => cases htrack
    simp only [if_neg hunseen, Stamp.parse_format, Option.some.injEq] at hsince
    intro k hk
    rw [← hsince]
    refine hforward _ _ ?_
    rw [hticks htrack] at hk
    omega
  rename_i htrack
  split at hnoted
  · have hselection := Except.ok.inj hnoted
    rw [← hselection] at hpending
    exact absurd rfl hpending
  rename_i hclear
  right
  have hselection := Except.ok.inj hnoted
  rw [← hselection] at hpending
  have hkey := (hverdict.of_silent (Bool.eq_false_iff.mpr htrack)
    (Bool.eq_false_iff.mpr hclear)).resolve_left hpending
  obtain ⟨decision, hrank, rfl⟩ := hd.wins
  exact ⟨hselection.symm, hruntime, items, decision, hd.ranks, hrank, hkey.symm⟩

theorem record_step (hopen : v.runtime.policyTransitionActive = false) :
    (succeed unified.reconcile v).2.selection.lastSwitchAt = v.selection.lastSwitchAt ∧
        (∀ a, ¬ SwitchedAt v (succeed unified.reconcile v).2 a) ∨
      ∃ m, m < (succeed unified.reconcile v).2.ticks ∧ v.ticks ≤ m ∧
        (succeed unified.reconcile v).2.selection.lastSwitchAt = .format (v.inputs m).now ∧
        ∀ a, SwitchedAt v (succeed unified.reconcile v).2 a → a ≤ m := by
  cases round_ends v hopen with
  | blocked hb _ =>
    refine Or.inl ⟨hb.lastSwitch, ?_⟩
    rintro a ⟨_, _, hactive⟩
    exact hb.not_active hactive
  | kept _ _ _ hcalls hnoted _ =>
    refine Or.inl ⟨noting_lastSwitch hnoted, ?_⟩
    rintro a ⟨candidate, hlonger, _⟩
    rw [hcalls] at hlonger
    exact absurd hlonger.symm (List.cons_ne_self _ _)
  | @switched items winner transition _ _ hs =>
  refine Or.inr ⟨v.ticks + v.decisionTick winner + 5, hs.ticks, by omega, hs.record, ?_⟩
  rintro a ⟨candidate, hcalls, _⟩
  obtain ⟨started, hstarted⟩ := hs.calls
  rw [hstarted] at hcalls
  have ha : v.ticks + v.decisionTick winner + 3 = a :=
    congrArg Prod.fst (List.cons.inj hcalls).1
  omega

/-! ## what the memory says about the run -/

/-- while a path is active, its pending candidate has won every round after the stored time since
turn `b`, against this very path; one that was not pending before turn `b` was noted after it -/
def PendingSound (w : World) (turns : Nat → Turn) (b n : Nat) : Prop :=
  ∀ since, (trace w turns n).runtime.pathState = .active →
    (trace w turns n).selection.pendingCandidateKey ≠ "" →
    (trace w turns n).selection.pendingCandidateSince.parse = some since →
    ((trace w turns b).selection.pendingCandidateKey = "" →
      ∀ k, k < (trace w turns b).ticks → (w.inputs k).now ≤ since) ∧
    ∀ i k, b ≤ i → i < n → (turns i).entry = .reconcile → During w turns i k →
      since < (w.inputs k).now →
      (trace w turns i).Wins (trace w turns n).selection.pendingCandidateKey ∧
        (trace w turns i).runtime.activeTuple = (trace w turns n).runtime.activeTuple

def rounds : Nat → Turn := fun _ => { entry := .reconcile }

/-- the stored time of the last change is not before any change of the run -/
def RecordSound (w : World) (n : Nat) : Prop :=
  ∀ i a, i < n → SwitchedAt (trace w rounds i) (trace w rounds (i + 1)) a →
    a < (trace w rounds n).ticks ∧
      ∃ last, (trace w rounds n).selection.lastSwitchAt.parse = some last ∧ (w.inputs a).now ≤ last

section Runs

variable {w : World} {turns : Nat → Turn}

theorem trace_forward (hforward : w.Forward) (n : Nat) : (trace w turns n).Forward := by
  unfold World.Forward
  rw [trace_inputs]
  exact hforward

/-- **the pending candidate, over whole runs** -/
theorem pending_sound {b n : Nat} (hn : b ≤ n)
    (hopen : (trace w turns b).runtime.policyTransitionActive = false) (hforward : w.Forward)
    (hadmitted : ∀ i, Admitted (trace w turns i) (turns i)) : PendingSound w turns b n := by
  induction n, hn using Nat.le_induction with
  | base =>
    intro since _ hpending _
    exact ⟨fun hnone => absurd hnone hpending, fun i _ hi hlt => absurd hlt (not_lt.mpr hi)⟩
  | succ n hn ih =>
    intro since hactive hpending hsince
    rcases pending_step (trace_open hn hopen) (trace_forward hforward n) (hadmitted n) hactive
      hpending hsince with hnew | ⟨hselection, hruntime, hwins⟩
    · -- noted in this turn: no moment of the run so far is later
      rw [trace_inputs] at hnew
      have hticks := trace_ticks w turns (hn.trans (Nat.le_succ n))
      refine ⟨fun _ k hk => hnew k (hk.trans_le hticks), ?_⟩
      intro i k _ hi _ hduring hlate
      exact absurd hlate (not_lt.mpr (hnew k (hduring.lt hi)))
    change (trace w turns (n + 1)).selection = _ at hselection
    change (trace w turns (n + 1)).runtime = _ at hruntime
    rw [hselection] at hpending hsince
    rw [hruntime] at hactive
    rw [hselection, hruntime]
    obtain ⟨hafter, hwon⟩ := ih since hactive hpending hsince
    refine ⟨hafter, ?_⟩
    intro i k hb hi hturn hduring hlate
    rcases Nat.lt_or_eq_of_le (Nat.le_of_lt_succ hi) with hi | rfl
    · exact hwon i k hb hi hturn hduring hlate
    · exact ⟨hwins, rfl⟩

/-- **the record of the last change, over whole runs** -/
theorem record_sound (hopen : w.runtime.policyTransitionActive = false) (hforward : w.Forward)
    (n : Nat) : RecordSound w n := by
  induction n with
  | zero => exact fun i _ hi => absurd hi (Nat.not_lt_zero i)
  | succ n ih =>
    intro i a hi hswitched
    have hticks : (trace w rounds n).ticks ≤ (trace w rounds (n + 1)).ticks :=
      trace_ticks w rounds (Nat.le_succ n)
    have hstep := record_step (@trace_open w rounds 0 n (Nat.zero_le n) hopen)
    change (trace w rounds (n + 1)).selection.lastSwitchAt = _ ∧
        (∀ a, ¬ SwitchedAt _ (trace w rounds (n + 1)) a) ∨
      ∃ m, m < (trace w rounds (n + 1)).ticks ∧ _ ≤ m ∧
        (trace w rounds (n + 1)).selection.lastSwitchAt = _ ∧
        ∀ a, SwitchedAt _ (trace w rounds (n + 1)) a → a ≤ m at hstep
    rcases hstep with ⟨hlast, hnone⟩ | ⟨m, hm, hstart, hlast, hmoment⟩
    · rw [hlast]
      rcases Nat.lt_or_eq_of_le (Nat.le_of_lt_succ hi) with hi | rfl
      · obtain ⟨ha, hrecord⟩ := ih i a hi hswitched
        exact ⟨ha.trans_le hticks, hrecord⟩
      · exact absurd hswitched (hnone a)
    rw [trace_inputs] at hlast
    have ha : a ≤ m := by
      rcases Nat.lt_or_eq_of_le (Nat.le_of_lt_succ hi) with hi | rfl
      · exact ((ih i a hi hswitched).1.trans_le hstart).le
      · exact hmoment a hswitched
    refine ⟨ha.trans_lt hm, (w.inputs m).now, ?_, hforward a m ha⟩
    rw [hlast]
    rfl

end Runs

/-! ## replacing a path that the data plane carries -/

/-- how long a change from the active path has to wait: it depends on whether the path is still a
candidate -/
def World.hold (w : World) (items : List Candidate) : Time :=
  if items.any fun item => item.key = activeCandidateKey w.runtime then
    (w.later 4).policy.recoveryStableSeconds * second
  else (w.later 4).policy.failureHoldSeconds * second

def World.cooldown (w : World) : Time := (w.later 4).policy.switchCooldownSeconds * second

theorem holdOf_question {w : World} (hcarried : w.Carried) (items : List Candidate)
    (winner : Candidate) : (holdOf (w.question items winner)).1 = w.hold items := by
  have hhealthy : (w.question items winner).currentHealthy =
      items.any fun item => item.key = activeCandidateKey w.runtime := by
    rw [Bool.eq_iff_iff, List.any_eq_true]
    simp only [decide_eq_true_eq]
    exact (currentHealthy_iff _ _ _).trans (and_iff_left hcarried.2)
  rw [holdOf, World.hold, hhealthy]
  split <;> rfl

theorem Replaced.switched {v : World} (hopen : v.runtime.policyTransitionActive = false)
    (hreplaced : Replaced v (succeed unified.reconcile v).2) :
    ∃ items winner transition, Decides v items winner transition ∧ transition.allow = true ∧
      Switched v (succeed unified.reconcile v).2 winner := by
  obtain ⟨before, after, hbefore, hafter, hne⟩ := hreplaced
  cases round_ends v hopen with
  | blocked hb _ =>
    rw [Snapshot.activeTuple, if_neg hb.not_active] at hafter
    cases hafter
  | kept _ _ hruntime _ _ _ =>
    rw [hruntime, hbefore] at hafter
    exact absurd (Option.some.inj hafter).symm hne
  | switched hd hallow hs => exact ⟨_, _, _, hd, hallow, hs⟩

/-- **what a round found that replaced a path which the data plane carries** -/
theorem replaced_decision (hopen : v.runtime.policyTransitionActive = false)
    (hcarried : v.Carried) (hreplaced : Replaced v (succeed unified.reconcile v).2) :
    ∃ items winner since, v.Ranks items ∧
      (∃ decision, rank items (activeCandidateKey v.runtime) = .ok decision ∧
        decision.candidate = winner) ∧
      (candidateFromAccess winner).request.Names (succeed unified.reconcile v).2.runtime ∧
      v.selection.pendingCandidateKey = winner.key ∧ winner.key ≠ "" ∧
      v.selection.pendingCandidateSince.parse = some since ∧
      v.hold items ≤ v.decisionTime winner - since ∧
      ∀ last, v.selection.lastSwitchAt.parse = some last →
        v.cooldown ≤ v.decisionTime winner - last := by
  obtain ⟨items, winner, transition, hd, hallow, hs⟩ := hreplaced.switched hopen
  obtain ⟨since, hpending, hlong, hcooled⟩ :=
    (evaluateTransition_verdict hd.decided).waited hallow hcarried.1
      (hardFailure_of_matches hcarried.2)
  rw [holdOf_question hcarried] at hlong
  obtain ⟨decision, hrank, hwinner⟩ := hd.wins
  have hblank : winner.key ≠ "" := by
    intro hempty
    rw [← hwinner] at hempty
    exact rank_key_ne hrank (by rw [hempty]; rfl)
  refine ⟨items, winner, since, hd.ranks, ⟨decision, hrank, hwinner⟩, hs.names, hpending.key,
    hblank, hpending.stored, hlong, ?_⟩
  intro last hlast
  rcases hcooled with hnever | ⟨last', hlast', hold⟩
  · change v.selection.lastSwitchAt = _ at hnever
    rw [hnever] at hlast
    cases hlast
  change v.selection.lastSwitchAt.parse = _ at hlast'
  rw [hlast] at hlast'
  cases hlast'
  exact hold

theorem activeTuple_active {s : Snapshot} {tuple : String × String × String}
    (h : s.activeTuple = some tuple) : s.pathState = .active := by
  by_contra hne
  rw [Snapshot.activeTuple, if_neg hne] at h
  cases h

theorem Replaced.active {v v' : World} (h : Replaced v v') : v.runtime.pathState = .active := by
  obtain ⟨_, _, hbefore, _⟩ := h
  exact activeTuple_active hbefore

theorem Replaced.after_active {v v' : World} (h : Replaced v v') :
    v'.runtime.pathState = .active := by
  obtain ⟨_, _, _, hafter, _⟩ := h
  exact activeTuple_active hafter

/-- **a path that the data plane carries is replaced only after its successor has won every round
for the hold, against this very path, and no change happened within the cooldown** -/
theorem switch_waited (w : World) (hopen : w.runtime.policyTransitionActive = false)
    (hforward : w.Forward) (n : Nat) (hcarried : (trace w rounds n).Carried)
    (hreplaced : Replaced (trace w rounds n) (trace w rounds (n + 1))) :
    ∃ items winner since, (trace w rounds n).Ranks items ∧
      (candidateFromAccess winner).request.Names (trace w rounds (n + 1)).runtime ∧
      (trace w rounds n).hold items ≤ (trace w rounds n).decisionTime winner - since ∧
      (∀ i k, i ≤ n → During w rounds i k → since < (w.inputs k).now →
        (trace w rounds i).Wins winner.key ∧
          (trace w rounds i).runtime.activeTuple = (trace w rounds n).runtime.activeTuple) ∧
      ∀ i a, i < n → SwitchedAt (trace w rounds i) (trace w rounds (i + 1)) a →
        (trace w rounds n).cooldown ≤ (trace w rounds n).decisionTime winner - (w.inputs a).now := by
  obtain ⟨items, winner, since, hranks, ⟨decision, hrank, hwinner⟩, hnames, hkey, hblank, hsince,
    hlong, hcooled⟩ := replaced_decision (trace_open (Nat.zero_le n) hopen) hcarried hreplaced
  refine ⟨items, winner, since, hranks, hnames, hlong, ?_, ?_⟩
  · intro i k hi hduring hlate
    rcases Nat.lt_or_eq_of_le hi with hi | rfl
    · have hsound : PendingSound w rounds 0 n :=
        pending_sound (Nat.zero_le n) hopen hforward fun _ => .inl fun _ => rfl
      rw [← hkey] at hblank ⊢
      exact (hsound since hreplaced.active hblank hsince).2 i k (Nat.zero_le i) hi rfl hduring hlate
    · exact ⟨⟨items, decision, hranks, hrank, by rw [hwinner]⟩, rfl⟩
  intro i a hi hswitched
  obtain ⟨_, last, hlast, ha⟩ := record_sound hopen hforward n i a hi hswitched
  have hold : (trace w rounds n).cooldown ≤ (trace w rounds n).decisionTime winner - last :=
    hcooled last hlast
  exact hold.trans (Int.sub_le_sub_left ha _)

/-- the path of the sample is active beside a direct path, and every call takes a second -/
def carriedWorld : World :=
  { runtime := { gatewayState := .active, pathState := .active, activeUplinkID := "u1",
                 activePathID := "p1", activeSubscriptionID := "s1", activeNodeID := "n1",
                 activeMethodID := "access:s1", activeMethodKind := .subscription,
                 activeQualityClass := .full }
    inputs := fun i =>
      { now := (5 + i) * second
        observed := { methodKind := .subscription, activePathID := "p1", activeNodeID := "n1" }
        database := sampleDatabase (1000 * second), policy := ⟨1, 1, 1⟩ } }

theorem seconds_forward {i j : Nat} (h : i ≤ j) :
    ((5 + i : Int) * second : Int) ≤ (5 + j : Int) * second :=
  Int.mul_le_mul_of_nonneg_right (by omega) (by decide)

/-- the first round finds the direct path, and the second one takes it -/
theorem switch_waited_direct :
    (trace carriedWorld rounds 2).runtime.activeTuple = some ("", "", "d1") ∧
      ∃ items winner since, (trace carriedWorld rounds 1).Ranks items ∧
        (candidateFromAccess winner).request.Names (trace carriedWorld rounds 2).runtime ∧
        (trace carriedWorld rounds 1).hold items ≤
          (trace carriedWorld rounds 1).decisionTime winner - since := by
  have hafter : (trace carriedWorld rounds 2).runtime.activeTuple = some ("", "", "d1") := by
    decide +kernel
  obtain ⟨items, winner, since, hranks, hnames, hlong, _, _⟩ :=
    switch_waited carriedWorld rfl (fun _ _ => seconds_forward) 1 (by decide +kernel)
      ⟨("p1", "n1", ""), _, by decide +kernel, hafter, by decide⟩
  exact ⟨hafter, items, winner, since, hranks, hnames, hlong⟩

/-! ## a manual choice -/

def World.StillCandidate (w : World) : Prop :=
  ∃ items, w.Ranks items ∧ ∃ item ∈ items, item.key = activeCandidateKey w.runtime

theorem stillCandidate_iff (w : World) : w.StillCandidate ↔
      (candidates (w.later 6).database (w.later 6).now (w.later 5).directOnly).toOption.any
        (fun found => (carried (w.later 0).observed found).any
          fun item => item.key = activeCandidateKey w.runtime) = true := by
  rw [Option.any_eq_true]
  constructor
  · rintro ⟨_, ⟨found, hfound, rfl⟩, item, hitem, hkey⟩
    exact ⟨found, by rw [hfound]; rfl, List.any_eq_true.mpr ⟨item, hitem, decide_eq_true hkey⟩⟩
  rintro ⟨found, hfound, hany⟩
  obtain ⟨item, hitem, hkey⟩ := List.any_eq_true.mp hany
  refine ⟨_, ⟨found, ?_, rfl⟩, item, hitem, of_decide_eq_true hkey⟩
  cases hread : candidates (w.later 6).database (w.later 6).now (w.later 5).directOnly with
  | error err =>
    rw [hread] at hfound
    cases hfound
  | ok items =>
  rw [hread] at hfound
  exact congrArg Except.ok (Option.some.inj hfound)

instance (w : World) : Decidable w.StillCandidate :=
  decidable_of_iff _ (stillCandidate_iff w).symm

structure ManualChange (w : World) (turns : Nat → Turn) (m : Nat) : Prop where
  turn : ∃ pathID nodeID, (turns m).entry = .activateExact pathID nodeID
  success : ((turns m).take (trace w turns m)).1.err = none
  changed : (trace w turns (m + 1)).runtime.activeTuple ≠ (trace w turns m).runtime.activeTuple

/-- a tuple that the operator chose is not replaced before the cooldown is over, and only by a
candidate that has won every round for the hold, counted from a time that is not before the choice.
Any moment `k` of the manual activation may be taken as the time of the choice -/
def ManualChoiceHeld (w : World) (turns : Nat → Turn) : Prop :=
  ∀ m n k, ManualChange w turns m → During w turns m k → m < n → (turns n).entry = .reconcile →
    (trace w turns n).runtime.activeTuple = (trace w turns (m + 1)).runtime.activeTuple →
    (trace w turns n).StillCandidate →
    observedRuntimeMatches ((trace w turns n).later 0).observed (trace w turns n).runtime = true →
    Replaced (trace w turns n) (trace w turns (n + 1)) →
    ∃ winner since,
      (candidateFromAccess winner).request.Names (trace w turns (n + 1)).runtime ∧
      (w.inputs k).now + (trace w turns n).cooldown ≤ (trace w turns n).decisionTime winner ∧
      (w.inputs k).now ≤ since ∧
      ((trace w turns n).later 4).policy.recoveryStableSeconds * second ≤
        (trace w turns n).decisionTime winner - since ∧
      ∀ i j, i ≤ n → (turns i).entry = .reconcile → During w turns i j →
        since < (w.inputs j).now → (trace w turns i).Wins winner.key

/-- besides, a round finds a policy whose cooldown is not longer than the time for which a better
path has to be stable -/
def ChoiceAdmitted (v : World) (t : Turn) : Prop :=
  Admitted v t ∧ (t.entry = .reconcile →
    (v.later 4).policy.switchCooldownSeconds ≤ (v.later 4).policy.recoveryStableSeconds)

theorem Ranks.unique {items items' : List Candidate} (h : v.Ranks items)
    (h' : v.Ranks items') : items' = items := by
  obtain ⟨found, hfound, rfl⟩ := h
  obtain ⟨found', hfound', rfl⟩ := h'
  rw [Except.ok.inj (hfound'.symm.trans hfound)]

theorem StillCandidate.carried (hopen : v.runtime.policyTransitionActive = false)
    (hstill : v.StillCandidate)
    (hseen : observedRuntimeMatches (v.later 0).observed v.runtime = true)
    (hreplaced : Replaced v (succeed unified.reconcile v).2) : v.Carried := by
  obtain ⟨items, _, _, hd, _, _⟩ := hreplaced.switched hopen
  obtain ⟨decision, hrank, _⟩ := hd.wins
  obtain ⟨items', hranks', item, hitem, hkey⟩ := hstill
  rw [Ranks.unique hd.ranks hranks'] at hitem
  refine ⟨?_, hseen⟩
  rw [← hkey]
  intro hempty
  exact (rank_keys hrank).2 item hitem (by rw [hempty]; rfl)

theorem StillCandidate.hold {items : List Candidate} (hranks : v.Ranks items)
    (hstill : v.StillCandidate) :
    v.hold items = (v.later 4).policy.recoveryStableSeconds * second := by
  obtain ⟨items', hranks', item, hitem, hkey⟩ := hstill
  rw [Ranks.unique hranks hranks'] at hitem
  exact if_pos (List.any_eq_true.mpr ⟨item, hitem, decide_eq_true hkey⟩)

theorem ManualChange.closed {w : World} {turns : Nat → Turn} {m : Nat}
    (h : ManualChange w turns m) :
    (trace w turns (m + 1)).runtime.policyTransitionActive = false := by
  have hframe := runWith_frame (turns m).env (turns m).entry.prog (trace w turns m)
  rcases hframe.2.2 with hsame | hclosed
  · exact absurd (congrArg Snapshot.activeTuple hsame) h.changed
  · exact hclosed

theorem ManualChange.pending {w : World} {turns : Nat → Turn} {m : Nat} (h : ManualChange w turns m)
    (hadmitted : Admitted (trace w turns m) (turns m)) :
    (trace w turns (m + 1)).selection.pendingCandidateKey = "" := by
  obtain ⟨pathID, nodeID, hm⟩ := h.turn
  rw [Admitted, hm] at hadmitted
  rw [trace, Turn.take, hm, Entry.prog, activateExact_selection]
  exact hadmitted

def policyUnread : Op → Fate
  | .getPolicy => .fail
  | _ => .ok

/-- the choice of the operator, two rounds, and a round that cannot read the policy -/
def chosenFirst : Nat → Turn
  | 0 => { entry := .activateExact "p1" "n1" }
  | 3 => { entry := .reconcile, env := policyUnread }
  | _ => { entry := .reconcile }

def blockedWorld : World := { carriedWorld with runtime := { gatewayState := .blocked } }

theorem chosenFirst_admitted (i : Nat) :
    ChoiceAdmitted (trace blockedWorld chosenFirst i) (chosenFirst i) := by
  refine ⟨?_, ?_⟩
  · match i with
    | 0 => exact (rfl : blockedWorld.selection.pendingCandidateKey = "")
    | 3 => exact Or.inr (by decide +kernel)
    | 1 => exact Or.inl fun _ => rfl
    | 2 => exact Or.inl fun _ => rfl
    | _ + 4 => exact Or.inl fun _ => rfl
  intro _
  rw [trace_later]
  exact Int.le_refl 1

def chosenLater : Nat → Turn
  | 1 => { entry := .activateExact "p1" "n1" }
  | _ => { entry := .reconcile }

/-- a path without evidence is active; the data plane follows the choice of the operator -/
def lostWorld : World :=
  { carriedWorld with
    runtime := { carriedWorld.runtime with activeNodeID := "n2" }
    inputs := fun i =>
      { carriedWorld.inputs i with
        observed := { methodKind := .subscription, activePathID := "p1",
                      activeNodeID := if i < 18 then "n2" else "n1" }
        policy := ⟨60, 15, 15⟩ } }

end GatewayVpn.Access
