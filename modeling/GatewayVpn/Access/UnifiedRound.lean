import GatewayVpn.Access.FailClosed

/-!
# Access: what a round does when every call succeeds

With both access repositories, no policy change and no failing call, a round of the reconciler
reads the world call by call, ranks the candidates and asks `EvaluateTransition`.  There are three
ends.

`Decides` says which decision the round reaches, `RoundEnd` how it ends, and `round_ends` that
every round ends so.  `evaluate_*` are the facts about the decision itself.
-/

namespace GatewayVpn.Access

open Durable World

/-! ## calls that succeed -/

def succeed (p : Prog Reply) (w : World) : Reply × World := runWith exec (fun _ => .ok) p w

/-- every run of `p` from `w` in which all calls succeed ends in `Q` -/
abbrev Sure (p : Prog Reply) (Q : Reply → World → Prop) (w : World) : Prop :=
  wp exec (fun f => f = .ok) (fun _ => True) p Q w

variable {Q : Reply → World → Prop} {w : World}

theorem Sure.succeed {p : Prog Reply} (h : Sure p Q w) : Q (succeed p w).1 (succeed p w).2 :=
  wp_runWith h fun _ => rfl

theorem Sure.mono {p : Prog Reply} {Q' : Reply → World → Prop} (h : Sure p Q w)
    (hQ : ∀ reply w', Q reply w' → Q' reply w') : Sure p Q' w :=
  wp_post hQ h

theorem sure_call {o : Op} {k : o.Ret → Prog Reply} {w' : World} {r : o.Ret}
    (he : exec o .ok w = (r, w')) (h : Sure (k r) Q w') : Sure (.call o k) Q w := by
  refine ⟨trivial, ?_⟩
  rintro _ rfl
  rw [he]
  exact h

def World.later (w : World) (k : Nat) : Input := w.inputs (w.ticks + k)

section Answers

variable (w : World) (n : Nat)

theorem ok_observe : exec .observe .ok (w.wait n) = (.ok (w.later n).observed, w.wait (n + 1)) :=
  rfl

theorem ok_stateGet : exec .stateGet .ok (w.wait n) = (.ok w.runtime, w.wait (n + 1)) := rfl

theorem ok_hasRequiredTargets : exec .hasRequiredTargets .ok (w.wait n) =
    (.ok (hasRequiredTargets (w.later n).database), w.wait (n + 1)) := rfl

theorem ok_hasReadyUplinks : exec .hasReadyUplinks .ok (w.wait n) =
    (.ok (hasReadyUplinks (w.later n).database), w.wait (n + 1)) := rfl

theorem ok_getPolicy : exec .getPolicy .ok (w.wait n) = (.ok (w.later n).policy, w.wait (n + 1)) :=
  rfl

theorem ok_getSelectionRuntime : exec .getSelectionRuntime .ok (w.wait n) =
    (.ok (w.selection, (w.later n).directOnly), w.wait (n + 1)) := rfl

theorem ok_candidates (directOnly : Bool) : exec (.candidates directOnly) .ok (w.wait n) =
    (candidates (w.later n).database (w.later n).now directOnly, w.wait (n + 1)) := by
  rw [exec, effect, Fate.ok_deliver]
  rfl

end Answers

section Effects

variable (w : World)

theorem ok_now : exec .now .ok w = (w.input.now, w.tick) := rfl

theorem ok_startupRecovery : exec .startupRecovery .ok w = (w.startupRecovery, w.tick) := rfl

theorem ok_clearStartupRecovery : exec .clearStartupRecovery .ok w =
    ((), { w with startupRecovery := false }.tick) := rfl

theorem ok_trackPending (key : String) : exec (.trackPending key) .ok w =
    ((w.remember (trackPendingCandidate w.input.now w.selection key)).1,
      (w.remember (trackPendingCandidate w.input.now w.selection key)).2.tick) := by
  rw [exec, effect, Fate.ok_deliver]

theorem ok_clearPending : exec .clearPending .ok w =
    (.ok (), { w with selection := clearPendingCandidate w.selection }.tick) := rfl

theorem ok_markSwitched (reason : String) : exec (.markSwitched reason) .ok w =
    ((w.remember (markSwitched w.input.now w.selection reason)).1,
      (w.remember (markSwitched w.input.now w.selection reason)).2.tick) := by
  rw [exec, effect, Fate.ok_deliver]

theorem ok_actuatorBlock (reason : String) : exec (.actuatorBlock reason) .ok w =
    (.ok (), (w.note (.actuatorBlock reason true)).tick) := rfl

theorem ok_actuatorActivate (candidate : ActivationCandidate) :
    exec (.actuatorActivate candidate) .ok w =
      (.ok (), (w.note (.activate candidate true)).tick) := rfl

theorem ok_stateBlock (gatewayState : GatewayState) (reason : String) :
    ∃ ok, exec (.stateBlock gatewayState reason) .ok w =
      (block w.input.now w.runtime gatewayState reason, ({ w with
            runtime := (block w.input.now w.runtime gatewayState reason).row w.runtime }.note
          (.stateBlock gatewayState reason ok)).tick) := by
  refine ⟨(block w.input.now w.runtime gatewayState reason).isOk, ?_⟩
  rw [exec, effect, Fate.ok_deliver]
  rfl

theorem ok_begin (request : Request) : exec (.beginActivation request) .ok w =
    (request.begin w.input.database w.input.now w.runtime, { w with
        runtime := (request.begin w.input.database w.input.now w.runtime).row w.runtime }.tick) := by
  rw [exec, effect, Fate.ok_deliver]
  rfl

theorem ok_finish (request : Request) : exec (.finishActivation request) .ok w =
    (request.finish w.input.database w.input.now w.runtime, { w with
        runtime := (request.finish w.input.database w.input.now w.runtime).row w.runtime }.tick) := by
  rw [exec, effect, Fate.ok_deliver]
  rfl

theorem ok_freshNodeCandidate (pathID nodeID : String) :
    exec (.freshNodeCandidate pathID nodeID) .ok w =
      (freshNodeCandidate w.input.database (textAfter w.input.now) pathID nodeID, w.tick) := by
  rw [exec, effect, Fate.ok_deliver]

theorem ok_targetDegradedCandidate (pathID nodeID : String) :
    exec (.targetDegradedCandidate pathID nodeID) .ok w =
      (targetDegradedCandidate w.input.database (textAfter w.input.now) pathID nodeID, w.tick) := by
  rw [exec, effect, Fate.ok_deliver]

end Effects

/-- the row was left alone, or no policy transition is open in it -/
def Unopened (s s' : Snapshot) : Prop := s' = s ∨ s'.policyTransitionActive = false

theorem unopened_of_gatewayState {s s' : Snapshot} (h : s'.gatewayState ≠ .verifyingPolicy) :
    Unopened s s' :=
  .inr (by simp [Snapshot.policyTransitionActive, h])

section
variable (db : Database) (now : Time) (s : Snapshot)

theorem unopened_begin (request : Request) : Unopened s ((request.begin db now s).row s) := by
  cases request with
  | node pathID nodeID policyGeneration routeGeneration =>
    simp only [Request.begin, beginNodeActivation, beginActivation]
    repeat' split
    all_goals first | exact .inl rfl | exact unopened_of_gatewayState (by intro h; cases h)
  | direct pathID policyGeneration routeGeneration =>
    simp only [Request.begin, beginDirectActivation]
    repeat' split
    all_goals first | exact .inl rfl | exact unopened_of_gatewayState (by intro h; cases h)

theorem unopened_finish (request : Request) : Unopened s ((request.finish db now s).row s) := by
  cases request with
  | node pathID nodeID policyGeneration routeGeneration =>
    simp only [Request.finish, finishNodeActivation, finishActivation]
    repeat' split
    all_goals first | exact .inl rfl | exact unopened_of_gatewayState (by intro h; cases h)
  | direct pathID policyGeneration routeGeneration =>
    simp only [Request.finish, finishDirectActivation]
    repeat' split
    all_goals first | exact .inl rfl | exact unopened_of_gatewayState (by intro h; cases h)

theorem unopened_finishPolicyVerification (generation : Int) :
    Unopened s ((finishPolicyVerification db now s generation).row s) := by
  unfold finishPolicyVerification
  repeat' split
  all_goals first | exact .inl rfl | exact unopened_of_gatewayState (by intro h; cases h)

theorem unopened_recoverTargetDegraded (pathID nodeID : String)
    (policyGeneration routeGeneration : Int) :
    Unopened s ((recoverTargetDegraded db now s pathID nodeID policyGeneration
      routeGeneration).row s) := by
  unfold recoverTargetDegraded checked
  repeat' split
  all_goals first | exact .inl rfl | exact unopened_of_gatewayState (by intro h; cases h)

theorem unopened_block (gatewayState : GatewayState) (reason : String) :
    Unopened s ((block now s gatewayState reason).row s) := by
  unfold block
  repeat' split
  · exact .inl rfl
  · exact .inl rfl
  · exact .inr (by simp [Snapshot.policyTransitionActive, Committed.row, blockedRow])

end

/-- the world outside and the moment are the same, and no policy transition was opened -/
def Framed (w w' : World) : Prop :=
  w'.inputs = w.inputs ∧ w'.ticks = w.ticks ∧ Unopened w.runtime w'.runtime

theorem framed_commit {r : Committed} (h : Unopened w.runtime (r.row w.runtime)) (f : Fate)
    (err : Fault) : Framed w (f.deliver err (w.commit r) w).2 :=
  Fate.deliver_keeps (I := Framed w) ⟨rfl, rfl, .inl rfl⟩ ⟨rfl, rfl, h⟩

theorem framed_effect (o : Op) (f : Fate) (w : World) : Framed w (effect o f w).2 := by
  by_cases ho : o.silent = true
  · obtain ⟨hruntime, _, hinputs, hticks⟩ := alike_effect ho f w
    exact ⟨hinputs, hticks, .inl hruntime⟩
  cases o with
  | beginActivation request => exact framed_commit (unopened_begin _ _ _ request) f _
  | finishActivation request => exact framed_commit (unopened_finish _ _ _ request) f _
  | finishPolicyVerification generation =>
    exact framed_commit (unopened_finishPolicyVerification _ _ _ generation) f _
  | recoverTargetDegraded pathID nodeID policyGeneration routeGeneration =>
    exact framed_commit (unopened_recoverTargetDegraded _ _ _ pathID nodeID _ _) f _
  | stateBlock gatewayState reason =>
    exact framed_commit (unopened_block _ _ gatewayState reason) f _
  | actuatorBlock reason => cases f <;> exact ⟨rfl, rfl, .inl rfl⟩
  | actuatorActivate candidate => cases f <;> exact ⟨rfl, rfl, .inl rfl⟩
  | _ => exact absurd rfl ho

theorem runWith_frame (env : Op → Fate) (p : Prog Reply) (w : World) :
    (runWith exec env p w).2.inputs = w.inputs ∧ w.ticks ≤ (runWith exec env p w).2.ticks ∧
      Unopened w.runtime (runWith exec env p w).2.runtime := by
  induction p generalizing w with
  | done reply => exact ⟨rfl, Nat.le_refl _, .inl rfl⟩
  | call o k ih =>
    obtain ⟨hinputs, hticks, hsettled⟩ := framed_effect o (env o) w
    obtain ⟨hinputs', hticks', hsettled'⟩ := ih (exec o (env o) w).1 (exec o (env o) w).2
    refine ⟨hinputs'.trans hinputs, ?_, ?_⟩
    · have hmoment : (exec o (env o) w).2.ticks = w.ticks + 1 := congrArg (· + 1) hticks
      rw [runWith_call]
      omega
    · rcases hsettled' with hsame | hclosed
      · rw [runWith_call, hsame]
        exact hsettled
      · exact .inr hclosed

/-! ## blocking -/

/-- the row is blocked, and no change was put on record -/
structure Blocked (w w' : World) : Prop where
  pathState : w'.runtime.pathState = .blocked
  key : activeCandidateKey w'.runtime = ""
  lastSwitch : w'.selection.lastSwitchAt = w.selection.lastSwitchAt
  calls : w.calls.length < w'.calls.length

variable {gatewayState : GatewayState} {reason : String}

theorem block_row {now : Time} {s : Snapshot}
    (hstate : validBlockedGatewayState gatewayState = true) (hreason : trimSpace reason ≠ "") :
    ((block now s gatewayState reason).row s).pathState = .blocked ∧
      activeCandidateKey ((block now s gatewayState reason).row s) = "" := by
  rw [block, if_neg (by simp [hstate, hreason])]
  split
  · rename_i hblocked
    simp only [alreadyBlocked, Bool.and_eq_true, decide_eq_true_eq] at hblocked
    refine ⟨hblocked.1.1.1.1.1.1.1.1.1.2, ?_⟩
    show activeCandidateKey s = ""
    rw [activeCandidateKey, hblocked.1.2]
  · exact ⟨rfl, rfl⟩

variable {w1 : World}

theorem blockWith_sure (cause : Option Fault)
    (hstate : validBlockedGatewayState gatewayState = true) (hreason : trimSpace reason ≠ "")
    (hswitch : w1.selection.lastSwitchAt = w.selection.lastSwitchAt)
    (hcalls : w.calls.length ≤ w1.calls.length) : Sure (blockWith gatewayState reason cause)
      (fun reply w' => Blocked w w' ∧ (cause ≠ none → reply.err ≠ none)) w1 := by
  refine sure_call (ok_clearStartupRecovery _) (sure_call (ok_actuatorBlock _ _) ?_)
  obtain ⟨ok, hok⟩ := ok_stateBlock
    ({ w1 with startupRecovery := false }.tick.note (.actuatorBlock reason true)).tick gatewayState
    reason
  refine sure_call hok ?_
  obtain ⟨hpath, hkey⟩ := block_row hstate hreason
  refine ⟨⟨hpath, hkey, hswitch, ?_⟩, ?_⟩
  · show w.calls.length < w1.calls.length + 2
    omega
  intro hcause
  cases cause with
  | none => exact absurd rfl hcause
  | some err => exact joinErrors_some err _

/-! ## activating -/

/-- the candidate is active, and nothing else was written -/
structure Activation (w w' : World) (candidate : ActivationCandidate) : Prop where
  names : candidate.request.Names w'.runtime
  pathState : w'.runtime.pathState = .active
  gatewayState : w'.runtime.gatewayState = .active
  calls : ∃ started, w'.calls = (w.ticks + 1, .activate started true) :: w.calls
  selection : w'.selection = w.selection
  inputs : w'.inputs = w.inputs
  ticks : w'.ticks = w.ticks + 3

/-- an activation without failing calls: it blocks with an error, or the candidate is active -/
theorem activate_sure {w w1 : World} (candidate : ActivationCandidate)
    (hswitch : w1.selection.lastSwitchAt = w.selection.lastSwitchAt)
    (hcalls : w.calls.length ≤ w1.calls.length) :
    Sure (activate candidate) (fun reply w' => reply.err ≠ none ∧ Blocked w w' ∨
      reply.err = none ∧ Activation w1 w' candidate) w1 := by
  have hreject : ∀ reason err w2, trimSpace reason ≠ "" →
      w2.selection.lastSwitchAt = w.selection.lastSwitchAt → w.calls.length ≤ w2.calls.length →
      Sure (blockWith .blocked reason (some err)) (fun reply w' => reply.err ≠ none ∧ Blocked w w' ∨
        reply.err = none ∧ Activation w1 w' candidate) w2 := by
    intro reason err w2 hreason hswitch2 hcalls2
    refine (blockWith_sure (some err) rfl hreason hswitch2 hcalls2).mono ?_
    rintro reply w' ⟨hblocked, herr⟩
    have hcause : some err ≠ none := Option.some_ne_none err
    exact Or.inl ⟨herr hcause, hblocked⟩
  refine sure_call (ok_begin _ _) ?_
  cases hbegin : candidate.request.begin w1.input.database w1.input.now w1.runtime with
  | error err => exact hreject _ err _ (by decide) hswitch hcalls
  | ok result =>
  obtain ⟨intent, changed⟩ := result
  have hverifying : intent.pathState = .verifying := begin_ok hbegin
  change Sure (.call (.actuatorActivate _) _) _ { w1 with runtime := intent }.tick
  refine sure_call (ok_actuatorActivate _ _) (sure_call (ok_finish _ _) ?_)
  set started := { candidate with configGeneration := intent.configGeneration } with hstarted
  set w3 := ({ w1 with runtime := intent }.tick.note (.activate started true)).tick with hw3
  cases hfinish : started.request.finish w3.input.database w3.input.now w3.runtime with
  | error err =>
    refine hreject "ACTIVATION_COMMIT_REJECTED" err _ (by decide) hswitch ?_
    show w.calls.length ≤ w1.calls.length + 1
    omega
  | ok result =>
  obtain ⟨after, changed⟩ := result
  obtain ⟨_, hnames, hactive, hgateway⟩ := finish_ok hfinish
  exact Or.inr ⟨rfl, hnames, hactive, hgateway hverifying, ⟨started, rfl⟩, rfl, rfl, rfl⟩

/-! ## the decision of a round -/

def World.keepsStartup (w : World) (winner : Candidate) : Bool :=
  w.startupRecovery && w.runtime.pathState = .verifying && activeCandidateKey w.runtime ≠ "" &&
    winner.key = activeCandidateKey w.runtime

/-- how many calls the round makes before it reads the clock; dropping the boot intent is one -/
def World.decisionTick (w : World) (winner : Candidate) : Nat :=
  if w.startupRecovery && !w.keepsStartup winner then 9 else 8

def World.decisionTime (w : World) (winner : Candidate) : Time :=
  (w.later (w.decisionTick winner)).now

/-- what `EvaluateTransition` is asked in the round -/
def World.question (w : World) (items : List Candidate) (winner : Candidate) : TransitionInput :=
  transitionInput (w.later 0).observed w.runtime items winner (w.later 4).policy w.selection
    (w.decisionTime winner)

def World.Ranks (w : World) (items : List Candidate) : Prop :=
  ∃ found, candidates (w.later 6).database (w.later 6).now (w.later 5).directOnly = .ok found ∧
    items = carried (w.later 0).observed found

structure Decides (w : World) (items : List Candidate) (winner : Candidate)
    (transition : TransitionDecision) : Prop where
  firewall : (w.later 0).observed.firewallReady = true
  targets : hasRequiredTargets (w.later 2).database = true
  uplinks : hasReadyUplinks (w.later 3).database = true
  ranks : w.Ranks items
  wins : ∃ decision, rank items (activeCandidateKey w.runtime) = .ok decision ∧
    decision.candidate = winner
  decided : evaluateTransition (w.question items winner) = .ok transition

variable {transition : TransitionDecision} {winner : Candidate} {items : List Candidate}

theorem Decides.unique {items' : List Candidate} {winner' : Candidate}
    {transition' : TransitionDecision} (h : Decides w items winner transition)
    (h' : Decides w items' winner' transition') :
    items' = items ∧ winner' = winner ∧ transition' = transition := by
  obtain ⟨found, hfound, rfl⟩ := h.ranks
  obtain ⟨found', hfound', rfl⟩ := h'.ranks
  obtain rfl : found' = found := Except.ok.inj (hfound'.symm.trans hfound)
  obtain ⟨decision, hrank, rfl⟩ := h.wins
  obtain ⟨decision', hrank', rfl⟩ := h'.wins
  obtain rfl : decision' = decision := Except.ok.inj (hrank'.symm.trans hrank)
  exact ⟨rfl, rfl, Except.ok.inj (h'.decided.symm.trans h.decided)⟩

def World.noting (w : World) (winner : Candidate) (transition : TransitionDecision) :
    Except Fault SelectionRuntime :=
  if transition.trackPending then
    trackPendingCandidate (w.later (w.decisionTick winner + 1)).now w.selection winner.key
  else if transition.clearPending then .ok (clearPendingCandidate w.selection)
  else .ok w.selection

theorem hardFailure_of_matches {observed : Observed} {desired : Snapshot}
    (h : observedRuntimeMatches observed desired = true) : hardFailure observed desired = false := by
  have hactive : desired.pathState = .active := by
    by_contra hne
    simp [observedRuntimeMatches, hne] at h
  simp [hardFailure, hactive, h]

theorem currentHealthy_foldl (observed : Observed) (desired : Snapshot) (items : List Candidate)
    (healthy : Bool) : items.foldl (fun healthy item =>
        if item.key = activeCandidateKey desired then observedCandidateMatches observed desired item
        else healthy) healthy = if ∃ item ∈ items, item.key = activeCandidateKey desired then
        observedRuntimeMatches observed desired else healthy := by
  induction items generalizing healthy with
  | nil => simp
  | cons item items ih =>
    rw [List.foldl_cons, ih]
    by_cases hitem : item.key = activeCandidateKey desired
    · simp [hitem, observedCandidateMatches]
    · simp [hitem]

theorem currentHealthy_iff (observed : Observed) (desired : Snapshot) (items : List Candidate) :
    currentHealthy observed desired items = true ↔
      (∃ item ∈ items, item.key = activeCandidateKey desired) ∧
        observedRuntimeMatches observed desired = true := by
  rw [currentHealthy, currentHealthy_foldl]
  split
  · rename_i hitem
    exact ⟨fun h => ⟨hitem, h⟩, fun h => h.2⟩
  · rename_i hitem
    exact ⟨nofun, fun h => absurd h.1 hitem⟩

theorem Decides.not_healthy (h : Decides w items winner transition)
    (hallow : transition.allow = true) : ¬ (winner.key = activeCandidateKey w.runtime ∧
      currentHealthy (w.later 0).observed w.runtime items = true) := by
  rintro ⟨hsame, hhealthy⟩
  have hhard := (evaluateTransition_verdict h.decided).hard_of_same hallow hsame
  have hsoft := hardFailure_of_matches ((currentHealthy_iff _ _ _).mp hhealthy).2
  rw [show (w.question items winner).hardFailure =
    hardFailure (w.later 0).observed w.runtime from rfl, hsoft] at hhard
  cases hhard

/-! ## the three ends -/

structure Switched (w w' : World) (winner : Candidate) : Prop where
  names : (candidateFromAccess winner).request.Names w'.runtime
  pathState : w'.runtime.pathState = .active
  gatewayState : w'.runtime.gatewayState = .active
  calls : ∃ started, w'.calls =
    (w.ticks + w.decisionTick winner + 3, .activate started true) :: w.calls
  pending : w'.selection.pendingCandidateKey = ""
  record : w'.selection.lastSwitchAt = .format (w.later (w.decisionTick winner + 5)).now
  ticks : w.ticks + w.decisionTick winner + 5 < w'.ticks

/-- how a round without failing calls ends -/
inductive RoundEnd (w w' : World) : Prop
  | blocked (h : Blocked w w')
      (refused : ∀ items winner transition, Decides w items winner transition →
        transition.allow = true ∨ ∃ err, w.noting winner transition = .error err)
  | kept {items : List Candidate} {winner : Candidate} {transition : TransitionDecision}
      (decides : Decides w items winner transition) (refuses : transition.allow = false)
      (runtime : w'.runtime = w.runtime) (calls : w'.calls = w.calls)
      (noted : w.noting winner transition = .ok w'.selection)
      (ticks : transition.trackPending = true →
        w'.ticks = w.ticks + w.decisionTick winner + 2)
  | switched {items : List Candidate} {winner : Candidate} {transition : TransitionDecision}
      (decides : Decides w items winner transition) (allows : transition.allow = true)
      (h : Switched w w' winner)

/-- all but the boot intent is as it was, `d` calls later -/
structure Still (w w1 : World) (d : Nat) : Prop where
  runtime : w1.runtime = w.runtime
  selection : w1.selection = w.selection
  calls : w1.calls = w.calls
  inputs : w1.inputs = w.inputs
  ticks : w1.ticks = w.ticks + d

theorem Still.wait (w : World) (n : Nat) : Still w (w.wait n) n := ⟨rfl, rfl, rfl, rfl, rfl⟩

variable {d : Nat}

section
variable (h : Still w w1 d)
include h

theorem Still.tick : Still w w1.tick (d + 1) :=
  ⟨h.runtime, h.selection, h.calls, h.inputs, congrArg (· + 1) h.ticks⟩

theorem Still.drop : Still w { w1 with startupRecovery := false }.tick (d + 1) :=
  ⟨h.runtime, h.selection, h.calls, h.inputs, congrArg (· + 1) h.ticks⟩

theorem Still.input : w1.input = w.later d := by
  rw [World.input, World.later, h.inputs, h.ticks]

theorem Still.block (cause : Option Fault)
    (hstate : validBlockedGatewayState gatewayState = true) (hreason : trimSpace reason ≠ "")
    (hrefused : ∀ items winner transition, Decides w items winner transition →
      transition.allow = true ∨ ∃ err, w.noting winner transition = .error err) :
    Sure (blockWith gatewayState reason cause) (fun _ w' => RoundEnd w w') w1 := by
  refine (blockWith_sure cause hstate hreason ?_ ?_).mono fun _ w' hb => .blocked hb.1 hrefused
  · rw [h.selection]
  · rw [h.calls]

end

/-! ## a round, from its end to its beginning -/

section
variable (hd : Decides w items winner transition)
include hd

theorem switchTo_sure (hallow : transition.allow = true)
    (startup : Bool) (hselection : w1.selection = clearPendingCandidate w.selection)
    (hcalls : w1.calls = w.calls) (hinputs : w1.inputs = w.inputs)
    (hticks : w1.ticks = w.ticks + w.decisionTick winner + 2) :
    Sure (switchTo startup winner transition.reason) (fun _ w' => RoundEnd w w') w1 := by
  have hswitch : w1.selection.lastSwitchAt = w.selection.lastSwitchAt := by
    rw [hselection]
    rfl
  have hrefused : ∀ items' winner' transition', Decides w items' winner' transition' →
      transition'.allow = true ∨ ∃ err, w.noting winner' transition' = .error err := by
    intro items' winner' transition' hd'
    rw [(hd.unique hd').2.2]
    exact Or.inl hallow
  refine wp_bind.mpr ((activate_sure _ hswitch (by rw [hcalls])).mono ?_)
  rintro reply w2 (⟨herr, hblocked⟩ | ⟨herr, hactivation⟩)
  · obtain ⟨err, herr⟩ := Option.ne_none_iff_exists'.mp herr
    simp only [herr]
    refine sure_call (ok_clearStartupRecovery _) ?_
    exact .blocked ⟨hblocked.pathState, hblocked.key, hblocked.lastSwitch, hblocked.calls⟩ hrefused
  simp only [herr]
  refine sure_call (ok_markSwitched _ _) ?_
  have hmark : ∃ reason, markSwitched w2.input.now w2.selection
      (if startup then "STARTUP_MINIMAL_RECOVERY" else transition.reason) =
        .ok { clearPendingCandidate w2.selection with
                lastSwitchAt := .format w2.input.now, lastSwitchReason := reason } := by
    cases startup with
    | true =>
      have hreason : (trimSpace "STARTUP_MINIMAL_RECOVERY" = "" ||
        byteLength "STARTUP_MINIMAL_RECOVERY" > 128) = false := by decide +kernel
      exact ⟨_, markSwitched_ok hreason _ _⟩
    | false =>
    exact ⟨transition.reason,
      markSwitched_ok ((evaluateTransition_verdict hd.decided).reason_ok hallow) _ _⟩
  obtain ⟨reason, hmark⟩ := hmark
  rw [hmark]
  refine sure_call (ok_clearStartupRecovery _) ?_
  obtain ⟨started, hstarted⟩ := hactivation.calls
  have hinput : w2.input = w.later (w.decisionTick winner + 5) := by
    rw [input, later, hactivation.inputs, hactivation.ticks, hinputs, hticks]
    rfl
  refine .switched hd hallow ⟨hactivation.names, hactivation.pathState, hactivation.gatewayState,
    ⟨started, ?_⟩, rfl, ?_, ?_⟩
  · show w2.calls = _
    rw [hstarted, hticks, hcalls]
  · show Stamp.format w2.input.now = _
    rw [hinput]
  show w.ticks + w.decisionTick winner + 5 < w2.ticks + 1 + 1
  rw [hactivation.ticks, hticks]
  omega

theorem settle_sure (startup : Bool)
    (htrack : transition.trackPending = false) (hruntime : w1.runtime = w.runtime)
    (hcalls : w1.calls = w.calls) (hinputs : w1.inputs = w.inputs)
    (hnoted : w.noting winner transition = .ok w1.selection)
    (hticks : transition.clearPending = true → w1.ticks = w.ticks + w.decisionTick winner + 2) :
    Sure (settle w.runtime (currentHealthy (w.later 0).observed w.runtime items) startup winner
      transition) (fun _ w' => RoundEnd w w') w1 := by
  have hkept : transition.allow = false → RoundEnd w w1 := by
    intro hallow
    refine .kept hd hallow hruntime hcalls hnoted ?_
    intro htrack'
    rw [htrack] at htrack'
    cases htrack'
  unfold settle
  split
  · rename_i hsame
    simp only [Bool.and_eq_true, decide_eq_true_eq] at hsame
    refine hkept (Bool.eq_false_iff.mpr ?_)
    exact fun hallow => hd.not_healthy hallow hsame
  split
  · rename_i hallow
    exact hkept (by simpa using hallow)
  rename_i hallow
  have hallow : transition.allow = true := by simpa using hallow
  have hclear := ((evaluateTransition_verdict hd.decided).of_allow hallow).1
  refine switchTo_sure hd hallow startup ?_ hcalls hinputs (hticks hclear)
  rw [noting, htrack, hclear] at hnoted
  exact (Except.ok.inj hnoted).symm

theorem carryOut_sure (startup : Bool) (hstill : Still w w1 (w.decisionTick winner + 1)) :
    Sure (carryOut w.runtime (currentHealthy (w.later 0).observed w.runtime items) startup winner
      transition) (fun _ w' => RoundEnd w w') w1 := by
  unfold carryOut
  split
  · rename_i htrack
    have hnoting : w.noting winner transition =
        trackPendingCandidate w1.input.now w1.selection winner.key := by
      rw [noting, if_pos htrack, hstill.input, hstill.selection]
    have hallow : transition.allow = false := by
      by_contra hne
      have hclear := (evaluateTransition_verdict hd.decided).of_allow (Bool.not_eq_false _ ▸ hne)
      rw [hclear.2] at htrack
      cases htrack
    refine sure_call (ok_trackPending _ _) ?_
    rw [← hnoting]
    cases hnote : w.noting winner transition with
    | error err =>
      refine Still.block hstill.tick (some err) rfl (by decide) ?_
      intro items' winner' transition' hd'
      obtain ⟨_, rfl, rfl⟩ := hd.unique hd'
      exact Or.inr ⟨err, hnote⟩
    | ok selection =>
    refine .kept hd hallow hstill.runtime hstill.calls hnote ?_
    intro _
    exact congrArg (· + 1) hstill.ticks
  rename_i htrack
  have htrack : transition.trackPending = false := by simpa using htrack
  split
  · rename_i hclear
    refine sure_call (ok_clearPending _) ?_
    refine settle_sure hd startup htrack hstill.runtime hstill.calls hstill.inputs ?_ ?_
    · rw [noting, htrack, hclear, ← hstill.selection]
      rfl
    · intro _
      exact congrArg (· + 1) hstill.ticks
  rename_i hclear
  refine settle_sure hd startup htrack hstill.runtime hstill.calls hstill.inputs ?_ ?_
  · rw [noting, htrack, Bool.eq_false_iff.mpr hclear, hstill.selection]
    rfl
  · intro hclear'
    exact absurd hclear' hclear

end

theorem sure_dropStartup {drop : Bool} {next : Prog Reply} (hstill : Still w w1 d)
    (h : ∀ w2, Still w w2 (if drop then d + 1 else d) → Sure next Q w2) :
    Sure (dropStartup drop next) Q w1 := by
  cases drop with
  | true => exact sure_call (ok_clearStartupRecovery _) (h _ hstill.drop)
  | false => exact h w1 hstill

theorem decisionTick_eq (w : World) (winner : Candidate) :
    (let startup := w.startupRecovery && w.runtime.pathState = .verifying &&
      activeCandidateKey w.runtime ≠ ""
    if (startup && winner.key ≠ activeCandidateKey w.runtime) = true then
      (if (w.startupRecovery && !startup) = true then 9 else 8) + 1
    else if (w.startupRecovery && !startup) = true then 9 else 8) = w.decisionTick winner := by
  unfold decisionTick keepsStartup
  cases w.startupRecovery
  · rfl
  by_cases hverifying : w.runtime.pathState = .verifying
  · by_cases hkey : activeCandidateKey w.runtime = ""
    · simp [hkey]
    · by_cases hwinner : winner.key = activeCandidateKey w.runtime <;>
        simp [hverifying, hkey, hwinner]
  · simp [hverifying]

theorem choose_sure {found : List Candidate} (hfirewall : (w.later 0).observed.firewallReady = true)
    (htargets : hasRequiredTargets (w.later 2).database = true)
    (huplinks : hasReadyUplinks (w.later 3).database = true)
    (hfound : candidates (w.later 6).database (w.later 6).now (w.later 5).directOnly = .ok found) :
    Sure (choose (w.later 0).observed w.runtime (w.later 4).policy w.selection found)
      (fun _ w' => RoundEnd w w') (w.wait 7) := by
  refine sure_call (ok_startupRecovery _) ?_
  refine sure_dropStartup (Still.wait w 8) fun w2 hstill2 => ?_
  dsimp only
  -- a decision of the round is a decision about these candidates
  have hitems : ∀ items, w.Ranks items → items = carried (w.later 0).observed found := by
    rintro items ⟨found', hfound', rfl⟩
    rw [Except.ok.inj (hfound'.symm.trans hfound)]
  cases hrank : rank (carried (w.later 0).observed found) (activeCandidateKey w.runtime) with
  | error err =>
    have hrefused : ∀ items winner transition, Decides w items winner transition →
        transition.allow = true ∨ ∃ err, w.noting winner transition = .error err := by
      intro items winner transition hd
      obtain ⟨decision, hwins, _⟩ := hd.wins
      rw [hitems items hd.ranks, hrank] at hwins
      cases hwins
    split
    · refine sure_call (ok_clearStartupRecovery _) ?_
      exact hstill2.drop.block none rfl (by decide) hrefused
    · exact hstill2.block _ rfl (by decide) hrefused
    · rename_i decision heq
      cases heq
  | ok decision =>
  refine sure_dropStartup hstill2 fun w3 hstill3 => ?_
  have hstill : Still w w3 (w.decisionTick decision.candidate) := by
    rw [← decisionTick_eq]
    exact hstill3
  refine sure_call (ok_now _) ?_
  rw [show w3.input.now = w.decisionTime decision.candidate from
    congrArg Input.now hstill.input]
  have hwins : ∀ items winner transition, Decides w items winner transition →
      items = carried (w.later 0).observed found ∧ winner = decision.candidate := by
    intro items winner transition hd
    obtain ⟨decision', hrank', rfl⟩ := hd.wins
    rw [hitems items hd.ranks, hrank] at hrank'
    exact ⟨hitems items hd.ranks, congrArg Decision.candidate (Except.ok.inj hrank').symm⟩
  cases hdecided : evaluateTransition (transitionInput (w.later 0).observed w.runtime
      (carried (w.later 0).observed found) decision.candidate (w.later 4).policy w.selection
      (w.decisionTime decision.candidate)) with
  | error err =>
    refine hstill.tick.block (some err) rfl (by decide) ?_
    intro items winner transition hd
    obtain ⟨rfl, rfl⟩ := hwins items winner transition hd
    have hdecided' := hd.decided
    rw [question, hdecided] at hdecided'
    cases hdecided'
  | ok transition =>
    refine carryOut_sure ?_ _ hstill.tick
    exact ⟨hfirewall, htargets, huplinks, ⟨found, hfound, rfl⟩, ⟨decision, hrank, rfl⟩, hdecided⟩

/-- **how a round ends when no policy change is open and every call succeeds** -/
theorem round_ends (w : World) (hopen : w.runtime.policyTransitionActive = false) :
    RoundEnd w (succeed unified.reconcile w).2 := by
  have hround : Sure unified.reconcile (fun _ w' => RoundEnd w w') (w.wait 0) := by
    refine sure_call (ok_observe w 0) ?_
    dsimp only
    split
    · rename_i hfirewall
      refine (Still.wait w 1).block none rfl (by decide) ?_
      intro items winner transition hd
      rw [hd.firewall] at hfirewall
      cases hfirewall
    rename_i hfirewall
    refine sure_call (ok_stateGet w 1) (sure_call (ok_hasRequiredTargets w 2)
      (sure_call (ok_hasReadyUplinks w 3) ?_))
    dsimp only
    split
    · rename_i huplinks
      refine (Still.wait w 4).block none rfl (by decide) ?_
      intro items winner transition hd
      rw [hd.uplinks] at huplinks
      cases huplinks
    rename_i huplinks
    change Sure (reconcileUnified (w.later 0).observed w.runtime
      (hasRequiredTargets (w.later 2).database)) _ (w.wait 4)
    unfold reconcileUnified
    rw [if_neg (by rw [hopen]; decide)]
    split
    · rename_i htargets
      refine (Still.wait w 4).block none rfl (by decide) ?_
      intro items winner transition hd
      rw [hd.targets] at htargets
      cases htargets
    rename_i htargets
    refine sure_call (ok_getPolicy w 4) (sure_call (ok_getSelectionRuntime w 5)
      (sure_call (ok_candidates w 6 _) ?_))
    cases hfound : candidates (w.later 6).database (w.later 6).now (w.later 5).directOnly with
    | error err =>
      refine (Still.wait w 7).block (some err) rfl (by decide) ?_
      intro items winner transition hd
      obtain ⟨found, hfound', _⟩ := hd.ranks
      rw [hfound] at hfound'
      cases hfound'
    | ok found =>
    exact choose_sure (by simpa using hfirewall) (by simpa using htargets)
      (by simpa using huplinks) hfound
  exact hround.succeed

end GatewayVpn.Access
