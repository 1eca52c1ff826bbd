import GatewayVpn.Access.Reconciler

/-!
# Access: the reconciler fails closed

Whatever the observer, the inventory, the repositories and the actuator answer, a round of the
reconciler that returns an error has blocked the data plane and the runtime row after the last
activation, a tuple becomes active only after the actuator carried it out and its evidence was
accepted once more, and a policy change whose grace is over does not stay open.

A round is quiet until it activates or blocks.  The postcondition `Closed` is proved for these two
ends, and then for each function from the inside out.
-/

namespace GatewayVpn.Access

open Durable List

/-! ## the contract -/

/-- the calls of the actuator and of `State.Block` in a round, newest first -/
def World.callsSince (start w : World) : List (Nat × Call) :=
  w.calls.take (w.calls.length - start.calls.length)

/-- both blocks were called after the last activation -/
def FailsClosed (calls : List (Nat × Call)) : Prop :=
  ∃ later earlier, calls = later ++ earlier ∧
    (∃ i reason ok, (i, Call.actuatorBlock reason ok) ∈ later) ∧
    (∃ i gatewayState reason ok, (i, Call.stateBlock gatewayState reason ok) ∈ later) ∧
    ∀ i candidate ok, (i, Call.activate candidate ok) ∉ later

def Snapshot.activeTuple (s : Snapshot) : Option (String × String × String) :=
  if s.pathState = .active then some (s.activePathID, s.activeNodeID, s.activeDirectPathID)
  else none

def Request.Names (s : Snapshot) : Request → Prop
  | .node pathID nodeID _ _ => s.activePathID = pathID ∧ s.activeNodeID = nodeID
  | .direct pathID _ _ => s.activeMethodKind = .direct ∧ s.activeDirectPathID = pathID

def Request.Fresh (db : Database) (now : Time) : Request → Prop
  | .node pathID nodeID policyGeneration routeGeneration =>
      ∃ path, readFreshPath db now pathID nodeID policyGeneration routeGeneration = .ok path
  | .direct pathID policyGeneration routeGeneration =>
      ∃ path, readFreshDirectPath db now pathID policyGeneration routeGeneration = .ok path

/-- the tuple of the row was activated, and its evidence accepted at a later moment -/
def Activated (inputs : Nat → Input) (ticks : Nat) (calls : List (Nat × Call)) (s : Snapshot) :
    Prop :=
  ∃ i j candidate, (i, Call.activate candidate true) ∈ calls ∧ i < j ∧ j < ticks ∧
    candidate.request.Names s ∧ candidate.request.Fresh (inputs j).database (inputs j).now

/-- a policy change is open and its grace is over at every moment from the start on -/
def Lapsed (start : World) : Prop :=
  start.runtime.policyTransitionActive = true ∧
    ∀ deadline, start.runtime.policyTransitionDeadline.parse = some deadline →
      ∀ i, start.ticks ≤ i → deadline ≤ (start.inputs i).now

def Snapshot.Stuck (s : Snapshot) : Prop :=
  s.gatewayState = .verifyingPolicy ∧ s.pathState = .active

def BlockFailed (calls : List (Nat × Call)) : Prop :=
  ∃ i gatewayState reason, (i, Call.stateBlock gatewayState reason false) ∈ calls

/-! ## quiet calls -/

/-- the calls that neither touch the runtime row nor the actuator -/
def Op.silent : Op → Bool
  | .beginActivation _ => false
  | .finishActivation _ => false
  | .finishPolicyVerification _ => false
  | .recoverTargetDegraded _ _ _ _ => false
  | .actuatorBlock _ => false
  | .actuatorActivate _ => false
  | .stateBlock _ _ => false
  | _ => true

/-- nothing has happened since the start but silent calls -/
structure Quiet (start w : World) : Prop where
  runtime : w.runtime = start.runtime
  calls : w.calls = start.calls
  inputs : w.inputs = start.inputs
  ticks : start.ticks ≤ w.ticks

theorem Quiet.refl (w : World) : Quiet w w := ⟨rfl, rfl, rfl, Nat.le_refl _⟩

/-- two states that differ in the selection memory and the boot intent at most -/
def Alike (w w' : World) : Prop :=
  w'.runtime = w.runtime ∧ w'.calls = w.calls ∧ w'.inputs = w.inputs ∧ w'.ticks = w.ticks

theorem Alike.refl (w : World) : Alike w w := ⟨rfl, rfl, rfl, rfl⟩

theorem alike_remember (w : World) (r : Except Fault SelectionRuntime) :
    Alike w (w.remember r).2 := by
  cases r <;> exact ⟨rfl, rfl, rfl, rfl⟩

variable {w : World}

theorem alike_deliver {α : Type} (f : Fate) (err : Fault) {r : Except Fault α × World}
    (hr : Alike w r.2) : Alike w (f.deliver err r w).2 := by
  cases f
  · exact hr
  · exact Alike.refl w
  · exact hr

variable {o : Op}

theorem alike_effect (ho : o.silent = true) (f : Fate) (w : World) : Alike w (effect o f w).2 := by
  cases o with
  | trackPending key => exact alike_deliver f _ (alike_remember w _)
  | clearPending => exact alike_deliver f _ (alike_remember w _)
  | markSwitched reason => exact alike_deliver f _ (alike_remember w _)
  | now => exact Alike.refl w
  | startupRecovery => exact Alike.refl w
  | clearStartupRecovery => exact ⟨rfl, rfl, rfl, rfl⟩
  | beginActivation request => cases ho
  | finishActivation request => cases ho
  | finishPolicyVerification generation => cases ho
  | recoverTargetDegraded pathID nodeID policyGeneration routeGeneration => cases ho
  | actuatorBlock reason => cases ho
  | actuatorActivate candidate => cases ho
  | stateBlock gatewayState reason => cases ho
  | _ => exact alike_deliver f _ (Alike.refl w)

theorem quiet_exec (ho : o.silent = true) (f : Fate) (w : World) : Quiet w (exec o f w).2 := by
  obtain ⟨hruntime, hcalls, hinputs, hticks⟩ := alike_effect ho f w
  refine ⟨hruntime, hcalls, hinputs, ?_⟩
  show w.ticks ≤ (effect o f w).2.ticks + 1
  omega

variable {w' start : World}

theorem Quiet.trans (h : Quiet start w) (h' : Quiet w w') : Quiet start w' :=
  ⟨h'.runtime.trans h.runtime, h'.calls.trans h.calls, h'.inputs.trans h.inputs,
    h.ticks.trans h'.ticks⟩

/-! ## accounting for the active tuple -/

/-- what the calls `new` since the start explain -/
structure Traced (start w : World) (new : List (Nat × Call)) : Prop where
  inputs : w.inputs = start.inputs
  ticks : start.ticks ≤ w.ticks
  calls : w.calls = new ++ start.calls
  rooted : ∀ tuple, w.runtime.activeTuple = some tuple → start.runtime.activeTuple ≠ some tuple →
    Activated start.inputs w.ticks new w.runtime

/-- **the contract of a round** -/
def Closed (start : World) (reply : Reply) (w : World) : Prop :=
  ∃ new, Traced start w new ∧ (reply.err ≠ none → FailsClosed new) ∧
    (Lapsed start → ¬ w.runtime.Stuck ∨ BlockFailed new)

variable {s : Snapshot} {new : List (Nat × Call)} {new' : List (Nat × Call)}

theorem Activated.mono {inputs : Nat → Input} {ticks ticks' : Nat}
    {s' : Snapshot} (h : Activated inputs ticks new s) (hticks : ticks ≤ ticks')
    (hnew : ∀ c ∈ new, c ∈ new') (hs : s' = s) : Activated inputs ticks' new' s' := by
  obtain ⟨i, j, candidate, hmem, hij, hj, hnames, hfresh⟩ := h
  subst hs
  exact ⟨i, j, candidate, hnew _ hmem, hij, by omega, hnames, hfresh⟩

theorem Quiet.traced (h : Quiet start w) : Traced start w [] := by
  refine ⟨h.inputs, h.ticks, h.calls, ?_⟩
  intro tuple htuple hne
  rw [h.runtime] at htuple
  exact absurd htuple hne

theorem Traced.quiet (h : Traced start w new) (hq : Quiet w w') : Traced start w' new := by
  refine ⟨hq.inputs.trans h.inputs, h.ticks.trans hq.ticks, hq.calls.trans h.calls, ?_⟩
  intro tuple htuple hne
  rw [hq.runtime] at htuple
  exact (h.rooted tuple htuple hne).mono hq.ticks (fun _ hc => hc) hq.runtime

variable {reply : Reply}

theorem Closed.quiet (h : Closed start reply w) (hq : Quiet w w') : Closed start reply w' := by
  obtain ⟨new, htraced, herr, hlapsed⟩ := h
  refine ⟨new, htraced.quiet hq, herr, ?_⟩
  rw [hq.runtime]
  exact hlapsed

theorem Traced.inactive (h : Traced start w new)
    (hinputs : w'.inputs = w.inputs) (hticks : w.ticks ≤ w'.ticks)
    (hcalls : w'.calls = new' ++ start.calls) (hnew : ∀ c ∈ new, c ∈ new')
    (hrow : w'.runtime = w.runtime ∨ w'.runtime.pathState ≠ .active) : Traced start w' new' := by
  refine ⟨hinputs.trans h.inputs, h.ticks.trans hticks, hcalls, ?_⟩
  intro tuple htuple hne
  rcases hrow with hrow | hrow
  · rw [hrow] at htuple
    exact (h.rooted tuple htuple hne).mono hticks hnew hrow
  · rw [Snapshot.activeTuple, if_neg hrow] at htuple
    cases htuple

theorem Traced.closed (h : Traced start w new) {result : Result}
    (hlapsed : Lapsed start → ¬ w.runtime.Stuck) : Closed start ⟨result, none⟩ w :=
  ⟨new, h, fun herr => absurd rfl herr, fun hl => Or.inl (hlapsed hl)⟩

theorem Traced.closed_active (h : Traced start w new) {result : Result}
    (hactive : w.runtime.gatewayState = .active) : Closed start ⟨result, none⟩ w := by
  refine h.closed ?_
  rintro _ ⟨hstuck, _⟩
  rw [hactive] at hstuck
  cases hstuck

/-! ## what the operations leave behind -/

theorem begin_ok {db : Database} {now : Time} {after : Snapshot} {changed : Bool}
    {request : Request} (h : request.begin db now s = .ok (after, changed)) :
    after.pathState = .verifying := by
  cases request with
  | node pathID nodeID policyGeneration routeGeneration =>
    rw [Request.begin, beginNodeActivation] at h
    split at h
    · cases h
    obtain ⟨path, _, ⟨rfl, hverifying⟩ | rfl⟩ := beginActivation_ok h
    · exact hverifying
    · rfl
  | direct pathID policyGeneration routeGeneration =>
  obtain ⟨path, _, ⟨rfl, hverifying⟩ | rfl⟩ := beginDirectActivation_ok h
  · exact hverifying
  · rfl

theorem finish_ok {db : Database} {now : Time} {after : Snapshot} {changed : Bool}
    {request : Request} (h : request.finish db now s = .ok (after, changed)) :
    request.Fresh db now ∧ request.Names after ∧ after.pathState = .active ∧
      (s.pathState = .verifying → after.gatewayState = .active) := by
  cases request with
  | node pathID nodeID policyGeneration routeGeneration =>
    rw [Request.finish, finishNodeActivation] at h
    split at h
    · cases h
    next hblank =>
    obtain ⟨path, hread, hpath, hnode, hafter⟩ := finishActivation_ok h
    obtain ⟨p, u, n, hrows, _⟩ := readFreshPath_found hread
    rw [hrows.id] at hpath
    rw [hrows.named (nodeID_ne_of_not_blank hblank)] at hnode
    refine ⟨⟨path, hread⟩, ?_⟩
    rcases hafter with ⟨rfl, hactive⟩ | rfl
    · exact ⟨⟨hpath, hnode⟩, hactive, fun hv => by rw [hactive] at hv; cases hv⟩
    · exact ⟨⟨hpath, hnode⟩, rfl, fun _ => rfl⟩
  | direct pathID policyGeneration routeGeneration =>
  obtain ⟨path, hread, hpath, hkind, hafter⟩ := finishDirectActivation_ok h
  obtain ⟨p, u, hrows, _⟩ := readFreshDirectPath_found hread
  rw [hrows.id] at hpath
  refine ⟨⟨path, hread⟩, ?_⟩
  rcases hafter with ⟨rfl, hactive⟩ | rfl
  · exact ⟨⟨hkind, hpath⟩, hactive, fun hv => by rw [hactive] at hv; cases hv⟩
  · exact ⟨⟨hkind, hpath⟩, rfl, fun _ => rfl⟩

theorem exec_commit {o : Op} {r : Committed} {err : Fault} {f : Fate} {w : World}
    (hexec : (exec o f w).2 = (f.deliver err (w.commit r) w).2.tick) :
    ((exec o f w).2 = w.tick ∧ ∀ result, (f.deliver err (w.commit r) w).1 ≠ .ok result) ∨
      ∃ after changed, r = .ok (after, changed) ∧
        (exec o f w).2 = { w with runtime := after }.tick := by
  rw [hexec]
  cases r with
  | error e =>
    refine Or.inl ⟨?_, ?_⟩
    · cases f <;> rfl
    · intro result
      cases f <;> exact nofun
  | ok result =>
  cases f with
  | fail => exact Or.inl ⟨rfl, fun _ h => by cases h⟩
  | ok => exact Or.inr ⟨result.1, result.2, rfl, rfl⟩
  | late => exact Or.inr ⟨result.1, result.2, rfl, rfl⟩

/-! ## the two ends of a round -/

/-- every run of `p` from `w`, whatever its calls answer, ends in `Q` -/
abbrev Holds (p : Prog Reply) (Q : Reply → World → Prop) (w : World) : Prop :=
  wp exec (fun _ => True) (fun _ => True) p Q w

variable {Q : Reply → World → Prop}

theorem Holds.mono {p : Prog Reply} {Q' : Reply → World → Prop} (h : Holds p Q w)
    (hQ : ∀ reply w', Q reply w' → Q' reply w') : Holds p Q' w :=
  wp_post hQ h

variable {k : o.Ret → Prog Reply}

theorem holds_silent (ho : o.silent = true)
    (h : ∀ r w', Quiet w w' → Holds (k r) Q w') : Holds (.call o k) Q w :=
  ⟨trivial, fun f _ => h _ _ (quiet_exec ho f w)⟩

theorem Quiet.read (hq : Quiet start w) (ho : o.silent = true)
    (h : ∀ r w', Quiet start w' → Holds (k r) Q w') : Holds (.call o k) Q w :=
  holds_silent ho fun r w' hq' => h r w' (hq.trans hq')

theorem exec_actuatorBlock (reason : String) (f : Fate) (w : World) :
    ∃ ok, (exec (.actuatorBlock reason) f w).2 = (w.note (.actuatorBlock reason ok)).tick := by
  cases f <;> exact ⟨_, rfl⟩

theorem exec_actuatorActivate (candidate : ActivationCandidate) (f : Fate) (w : World) :
    (exec (.actuatorActivate candidate) f w).2 =
      (w.note (.activate candidate (exec (.actuatorActivate candidate) f w).1.isOk)).tick := by
  cases f <;> rfl

theorem exec_stateBlock (gatewayState : GatewayState) (reason : String) (f : Fate) (w : World) :
    ∃ ok after, (exec (.stateBlock gatewayState reason) f w).2 =
        ({ w with runtime := after }.note (.stateBlock gatewayState reason ok)).tick ∧
      (after.pathState = .blocked ∨ after = w.runtime ∧ ok = false) := by
  cases hblock : block w.input.now w.runtime gatewayState reason with
  | error err =>
    refine ⟨false, w.runtime, ?_, Or.inr ⟨rfl, rfl⟩⟩
    cases f <;> simp only [exec, effect, noted, World.commit, hblock] <;> rfl
  | ok result =>
  have hblocked : result.1.pathState = .blocked := by
    rcases block_ok hblock with ⟨hsame, hblocked⟩ | hrow
    · rw [hsame, hblocked]
    · rw [hrow]
      rfl
  cases f with
  | ok =>
    refine ⟨true, result.1, ?_, Or.inl hblocked⟩
    simp only [exec, effect, noted, World.commit, hblock]
    rfl
  | fail =>
    refine ⟨false, w.runtime, ?_, Or.inr ⟨rfl, rfl⟩⟩
    rfl
  | late =>
  refine ⟨false, result.1, ?_, Or.inl hblocked⟩
  simp only [exec, effect, noted, World.commit, hblock]
  rfl

theorem joinErrors_some (err : Fault) (rest : List (Option Fault)) :
    joinErrors (some err :: rest) ≠ none := by
  rw [joinErrors]
  split <;> exact nofun

theorem failsClosed_of_blocks (i j : Nat) (gatewayState : GatewayState) (reason reason' : String)
    (ok ok' : Bool) (earlier : List (Nat × Call)) :
    FailsClosed ((i, .stateBlock gatewayState reason ok) :: (j, .actuatorBlock reason' ok') ::
      earlier) := by
  refine ⟨[(i, .stateBlock gatewayState reason ok), (j, .actuatorBlock reason' ok')], earlier, rfl,
    ⟨j, reason', ok', ?_⟩, ⟨i, gatewayState, reason, ok, mem_cons_self⟩, ?_⟩
  · exact mem_cons_of_mem _ (mem_singleton.mpr rfl)
  · intro k candidate done hmem
    rcases mem_pair.mp hmem with hc | hc <;> cases hc

/-- **blocking closes the round, and does not forget its cause** -/
theorem blockWith_closed (h : Traced start w new) (gatewayState : GatewayState) (reason : String)
    (cause : Option Fault) : Holds (blockWith gatewayState reason cause)
      (fun reply w' => Closed start reply w' ∧ (cause ≠ none → reply.err ≠ none)) w := by
  refine holds_silent rfl fun _ w1 hq => ?_
  have h1 := h.quiet hq
  refine ⟨trivial, fun f2 _ => ⟨trivial, fun f3 _ => ?_⟩⟩
  obtain ⟨ok2, hw2⟩ := exec_actuatorBlock reason f2 w1
  obtain ⟨ok3, after, hw3, hrow⟩ :=
    exec_stateBlock gatewayState reason f3 (exec (.actuatorBlock reason) f2 w1).2
  rw [wp_done, hw3]
  rw [hw2] at hrow ⊢
  set latest := (w1.ticks + 1, Call.stateBlock gatewayState reason ok3)
  set before := (w1.ticks, Call.actuatorBlock reason ok2)
  refine ⟨⟨latest :: before :: new, ?_, ?_, ?_⟩, ?_⟩
  · refine h1.inactive rfl ?_ ?_ ?_ ?_
    · show w1.ticks ≤ w1.ticks + 1 + 1
      omega
    · show latest :: before :: w1.calls = _
      rw [h1.calls]
      rfl
    · intro c hc
      exact mem_cons_of_mem _ (mem_cons_of_mem _ hc)
    rcases hrow with hrow | ⟨hrow, _⟩
    · right
      show after.pathState ≠ .active
      rw [hrow]
      decide
    · exact Or.inl hrow
  · exact fun _ => failsClosed_of_blocks _ _ _ _ _ _ _ new
  · intro _
    rcases hrow with hrow | ⟨_, hfailed⟩
    · left
      rintro ⟨_, hactive⟩
      have hblocked : after.pathState = .active := hactive
      rw [hrow] at hblocked
      cases hblocked
    · right
      refine ⟨w1.ticks + 1, gatewayState, reason, ?_⟩
      rw [← hfailed]
      exact mem_cons_self
  · intro hcause
    cases cause with
    | none => exact absurd rfl hcause
    | some err => exact joinErrors_some err _

theorem block_closes (h : Traced start w new) (gatewayState : GatewayState) (reason : String)
    (cause : Option Fault) : Holds (blockWith gatewayState reason cause) (Closed start) w :=
  (blockWith_closed h gatewayState reason cause).mono fun _ _ hc => hc.1

theorem Quiet.blocks (hq : Quiet start w) {gatewayState : GatewayState} {reason : String}
    {cause : Option Fault} : Holds (blockWith gatewayState reason cause) (Closed start) w :=
  block_closes hq.traced gatewayState reason cause

def Ended (start : World) (reply : Reply) (w : World) : Prop :=
  Closed start reply w ∧ (reply.err = none → w.runtime.gatewayState = .active)

section
variable (h : Traced start w new)
include h

theorem block_ends (gatewayState : GatewayState) (reason : String)
    (err : Fault) : Holds (blockWith gatewayState reason (some err)) (Ended start) w := by
  refine (blockWith_closed h gatewayState reason (some err)).mono ?_
  rintro reply w' ⟨hclosed, herr⟩
  exact ⟨hclosed, fun hnone => absurd hnone (herr nofun)⟩

theorem exec_begin (request : Request) (f : Fate) :
    Traced start (exec (.beginActivation request) f w).2 new ∧
      ∀ result, (exec (.beginActivation request) f w).1 = .ok result →
        (exec (.beginActivation request) f w).2.runtime.pathState = .verifying := by
  rcases @exec_commit (.beginActivation request) _ _ f w rfl with ⟨hw, hne⟩ | ⟨after, _, hr, hw⟩
  · rw [hw]
    exact ⟨h.inactive rfl (Nat.le_succ _) h.calls (fun _ hc => hc) (Or.inl rfl),
      fun result hok => absurd hok (hne result)⟩
  have hverifying : after.pathState = .verifying := begin_ok hr
  rw [hw]
  refine ⟨h.inactive rfl (Nat.le_succ _) h.calls (fun _ hc => hc) (Or.inr ?_), fun _ _ => hverifying⟩
  show after.pathState ≠ .active
  rw [hverifying]
  decide

theorem exec_finish {i : Nat} {candidate : ActivationCandidate}
    (hcall : (i, Call.activate candidate true) ∈ new) (hi : i < w.ticks) (f : Fate) :
    Traced start (exec (.finishActivation candidate.request) f w).2 new ∧
      ∀ result, (exec (.finishActivation candidate.request) f w).1 = .ok result →
        w.runtime.pathState = .verifying →
        (exec (.finishActivation candidate.request) f w).2.runtime.gatewayState = .active := by
  rcases @exec_commit (.finishActivation candidate.request) _ _ f w rfl with
    ⟨hw, hne⟩ | ⟨after, _, hr, hw⟩
  · rw [hw]
    exact ⟨h.inactive rfl (Nat.le_succ _) h.calls (fun _ hc => hc) (Or.inl rfl),
      fun result hok => absurd hok (hne result)⟩
  obtain ⟨hfresh, hnames, _, hgateway⟩ := finish_ok hr
  rw [hw]
  refine ⟨⟨h.inputs, h.ticks.trans (Nat.le_succ _), h.calls, ?_⟩, fun _ _ => hgateway⟩
  -- whatever the row says now, it is what the candidate asked for
  intro tuple _ _
  refine ⟨i, w.ticks, candidate, hcall, hi, Nat.lt_succ_self _, hnames, ?_⟩
  rw [← h.inputs]
  exact hfresh

/-- **an activation closes the round** -/
theorem activate_closed (candidate : ActivationCandidate) :
    Holds (activate candidate) (Ended start) w := by
  refine ⟨trivial, fun f1 _ => ?_⟩
  obtain ⟨h1, hbegun⟩ := exec_begin h candidate.request f1
  generalize (exec (.beginActivation candidate.request) f1 w).2 = w1 at h1 hbegun ⊢
  generalize (exec (.beginActivation candidate.request) f1 w).1 = r1 at hbegun ⊢
  rcases r1 with err | ⟨intent, changed⟩
  · exact block_ends h1 _ _ err
  set started := { candidate with configGeneration := intent.configGeneration }
  have hverifying : w1.runtime.pathState = .verifying := hbegun _ rfl
  refine ⟨trivial, fun f2 _ => ?_⟩
  have hw2 := exec_actuatorActivate started f2 w1
  generalize (exec (.actuatorActivate started) f2 w1).2 = w2 at hw2 ⊢
  generalize (exec (.actuatorActivate started) f2 w1).1 = r2 at hw2 ⊢
  have h2 : Traced start w2 ((w1.ticks, Call.activate started r2.isOk) :: new) := by
    rw [hw2]
    refine h1.inactive rfl (Nat.le_succ _) ?_ (fun _ hc => mem_cons_of_mem _ hc) (Or.inl rfl)
    show _ :: w1.calls = _
    rw [h1.calls]
    rfl
  rcases r2 with err | _
  · exact block_ends h2 _ _ err
  have hverifying2 : w2.runtime.pathState = .verifying := by
    rw [hw2]
    exact hverifying
  refine ⟨trivial, fun f3 _ => ?_⟩
  have hticks : w1.ticks < w2.ticks := by
    rw [hw2]
    exact Nat.lt_succ_self _
  obtain ⟨h3, hactive⟩ := exec_finish h2 mem_cons_self hticks f3
  generalize (exec (.finishActivation started.request) f3 w2).2 = w3 at h3 hactive ⊢
  generalize (exec (.finishActivation started.request) f3 w2).1 = r3 at hactive ⊢
  rcases r3 with err | result
  · exact block_ends h3 _ _ err
  · have hgateway : w3.runtime.gatewayState = .active := hactive _ rfl hverifying2
    exact ⟨h3.closed_active hgateway, fun _ => hgateway⟩

end

/-! ## the rounds -/

theorem holds_now {k : Time → Prog Reply}
    (h : ∀ w', Quiet w w' → Holds (k (w.inputs w.ticks).now) Q w') : Holds (.call .now k) Q w :=
  ⟨trivial, fun f _ => h _ (quiet_exec rfl f w)⟩

theorem holds_stateGet {k : Except Fault Snapshot → Prog Reply}
    (herror : ∀ err w', Quiet w w' → Holds (k (.error err)) Q w')
    (hok : ∀ w', Quiet w w' → Holds (k (.ok w.runtime)) Q w') : Holds (.call .stateGet k) Q w := by
  refine ⟨trivial, fun f _ => ?_⟩
  have hq := quiet_exec (o := .stateGet) rfl f w
  cases f
  · exact hok _ hq
  · exact herror _ _ hq
  · exact herror _ _ hq

theorem holds_dropStartup {drop : Bool} {next : Prog Reply}
    (h : ∀ w', Quiet w w' → Holds next Q w') : Holds (dropStartup drop next) Q w := by
  unfold dropStartup
  split
  · exact holds_silent rfl fun _ w' hq => h w' hq
  · exact h w (Quiet.refl w)

theorem Quiet.closed (h : Quiet start w) (hl : ¬ Lapsed start) (result : Result) :
    Closed start ⟨result, none⟩ w :=
  h.traced.closed fun hlapsed => absurd hlapsed hl

theorem Quiet.closed_pending (h : Quiet start w) {expired : Bool}
    (hexpired : Lapsed start → expired = true) (hpending : (!expired) = true) (result : Result) :
    Closed start ⟨result, none⟩ w := by
  refine h.closed (fun hl => ?_) result
  rw [hexpired hl] at hpending
  cases hpending

theorem Ended.closed (h : Ended start reply w) (herr : reply.err = none) (hq : Quiet w w')
    (result : Result) : Closed start ⟨result, none⟩ w' := by
  obtain ⟨new, htraced, _, _⟩ := h.1
  refine (htraced.quiet hq).closed_active ?_
  rw [hq.runtime, h.2 herr]

theorem Ended.block (h : Ended start reply w) (hq : Quiet w w') (gatewayState : GatewayState)
    (reason : String) (cause : Option Fault) :
    Holds (blockWith gatewayState reason cause) (Closed start) w' := by
  obtain ⟨new, htraced, _, _⟩ := h.1
  exact block_closes (htraced.quiet hq) gatewayState reason cause

section Rounds

variable {start w : World}

section
variable (hq : Quiet start w)
include hq

theorem switchTo_closed (startup : Bool) (winner : Candidate)
    (reason : String) : Holds (switchTo startup winner reason) (Closed start) w := by
  refine wp_bind.mpr ((activate_closed hq.traced _).mono ?_)
  intro reply w1 hended
  cases herr : reply.err with
  | some err =>
    exact holds_silent rfl fun _ w2 hq2 => hended.1.quiet hq2
  | none =>
  refine holds_silent rfl fun r w2 hq2 => ?_
  rcases r with err | _
  · exact hended.block hq2 _ _ _
  · exact holds_silent rfl fun _ w3 hq3 => hended.closed herr (hq2.trans hq3) _

theorem settle_closed (hl : ¬ Lapsed start) (desired : Snapshot)
    (healthy startup : Bool) (winner : Candidate) (transition : TransitionDecision) :
    Holds (settle desired healthy startup winner transition) (Closed start) w := by
  unfold settle
  split
  · exact hq.closed hl _
  split
  · exact hq.closed hl _
  · exact switchTo_closed hq startup winner _

theorem carryOut_closed (hl : ¬ Lapsed start) (desired : Snapshot)
    (healthy startup : Bool) (winner : Candidate) (transition : TransitionDecision) :
    Holds (carryOut desired healthy startup winner transition) (Closed start) w := by
  unfold carryOut
  split
  · refine holds_silent rfl fun r w1 hq1 => ?_
    rcases r with err | _
    · exact (hq.trans hq1).blocks
    · exact (hq.trans hq1).closed hl _
  split
  · refine holds_silent rfl fun r w1 hq1 => ?_
    rcases r with err | _
    · exact (hq.trans hq1).blocks
    · exact settle_closed (hq.trans hq1) hl desired healthy startup winner transition
  · exact settle_closed hq hl desired healthy startup winner transition

theorem choose_closed (hl : ¬ Lapsed start) (observed : Observed)
    (desired : Snapshot) (policy : Policy) (runtime : SelectionRuntime) (items : List Candidate) :
    Holds (choose observed desired policy runtime items) (Closed start) w := by
  refine holds_silent rfl fun flag w1 hq1 => holds_dropStartup fun w2 hq2 => ?_
  have hq2 := (hq.trans hq1).trans hq2
  dsimp only
  split
  · exact holds_silent rfl fun _ w3 hq3 => (hq2.trans hq3).blocks
  · exact hq2.blocks
  refine holds_dropStartup fun w3 hq3 => holds_now fun w4 hq4 => ?_
  have hq4 := (hq2.trans hq3).trans hq4
  split
  · exact hq4.blocks
  · exact carryOut_closed hq4 hl _ _ _ _ _

theorem replacePolicy_closed {expired : Bool}
    (hexpired : Lapsed start → expired = true) (eligible : List Candidate) (currentKey : String) :
    Holds (replacePolicy expired eligible currentKey) (Closed start) w := by
  unfold replacePolicy
  split
  · refine wp_bind.mpr ((activate_closed hq.traced _).mono ?_)
    intro reply w1 hended
    cases herr : reply.err with
    | some err =>
      exact hended.1
    | none =>
    refine holds_silent rfl fun r w2 hq2 => ?_
    rcases r with err | _
    · exact hended.block hq2 _ _ _
    · exact hended.closed herr hq2 _
  · split
    · next hpending => exact hq.closed_pending hexpired hpending _
    · exact hq.blocks
  · exact hq.blocks

theorem Quiet.sameTuple (hinputs : w'.inputs = w.inputs)
    (hticks : w.ticks ≤ w'.ticks) (hcalls : w'.calls = w.calls)
    (htuple : w'.runtime.activeTuple = w.runtime.activeTuple) : Traced start w' [] := by
  refine ⟨hinputs.trans hq.inputs, hq.ticks.trans hticks, hcalls.trans hq.calls, ?_⟩
  intro tuple hactive hne
  rw [htuple, hq.runtime] at hactive
  exact absurd hactive hne

theorem holds_verify {generation : Int} {k : Except Fault (Snapshot × Bool) → Prog Reply}
    (h : ∀ r w', Traced start w' [] → (∀ result, r = .ok result → w'.runtime.gatewayState = .active) →
      Holds (k r) Q w') : Holds (.call (.finishPolicyVerification generation) k) Q w := by
  refine ⟨trivial, fun f _ => ?_⟩
  rcases @exec_commit (.finishPolicyVerification generation) _ _ f w rfl with
    ⟨hw, hne⟩ | ⟨after, _, hr, hw⟩
  · rw [hw]
    exact h _ _ (hq.sameTuple rfl (Nat.le_succ _) rfl rfl) fun result hok => absurd hok (hne result)
  obtain ⟨_, quality, _, rfl⟩ := finishPolicyVerification_ok hr
  rw [hw]
  exact h _ _ (hq.sameTuple rfl (Nat.le_succ _) rfl rfl) fun _ _ => rfl

theorem exec_recover (pathID nodeID : String) (policyGeneration routeGeneration : Int) (f : Fate) :
    Traced start (exec (.recoverTargetDegraded pathID nodeID policyGeneration routeGeneration) f
      w).2 [] := by
  rcases @exec_commit (.recoverTargetDegraded pathID nodeID policyGeneration routeGeneration) _ _ f
    w rfl with ⟨hw, _⟩ | ⟨after, _, hr, hw⟩
  · rw [hw]
    exact hq.sameTuple rfl (Nat.le_succ _) rfl rfl
  rw [hw]
  rcases recoverTargetDegraded_ok hr with rfl | rfl <;>
    exact hq.sameTuple rfl (Nat.le_succ _) rfl rfl

end

theorem Lapsed.expired (hl : Lapsed start) (hq : Quiet start w) {deadline : Time}
    (hdeadline : start.runtime.policyTransitionDeadline.parse = some deadline) :
    deadline ≤ (w.inputs w.ticks).now := by
  rw [hq.inputs]
  exact hl.2 deadline hdeadline w.ticks hq.ticks

theorem unifiedTransition_closed (hq : Quiet start w) (observed : Observed) (hasTargets : Bool) :
    Holds (reconcileUnifiedPolicyTransition observed start.runtime hasTargets) (Closed start) w := by
  unfold reconcileUnifiedPolicyTransition
  split
  · exact hq.blocks
  rename_i deadline hdeadline
  refine holds_now fun w1 hq1 => ?_
  have hexpired : Lapsed start → decide (deadline ≤ (w.inputs w.ticks).now) = true :=
    fun hl => decide_eq_true (hl.expired hq hdeadline)
  have hq1 := hq.trans hq1
  dsimp only
  split
  · exact hq1.blocks
  split
  · split
    · next hpending => exact hq1.closed_pending hexpired hpending _
    · exact hq1.blocks
  refine hq1.read rfl fun r w2 hq2 => ?_
  rcases r with err | ⟨_, directOnly⟩
  · exact hq2.blocks
  refine hq2.read rfl fun r w3 hq3 => ?_
  rcases r with err | items
  · exact hq3.blocks
  dsimp only
  split
  · refine holds_verify hq3 fun r w4 htraced hgateway => ?_
    rcases r with err | result
    · exact block_closes htraced _ _ _
    · exact htraced.closed_active (hgateway _ rfl)
  · exact replacePolicy_closed hq3 hexpired _ _

theorem reconcileUnified_closed (hq : Quiet start w) (observed : Observed) (hasTargets : Bool) :
    Holds (reconcileUnified observed start.runtime hasTargets) (Closed start) w := by
  unfold reconcileUnified
  split
  · exact holds_silent rfl fun _ w1 hq1 =>
      unifiedTransition_closed (hq.trans hq1) observed hasTargets
  rename_i hopen
  have hl : ¬ Lapsed start := fun hl => hopen hl.1
  split
  · exact hq.blocks
  refine hq.read rfl fun r w1 hq1 => ?_
  rcases r with err | policy
  · exact hq1.blocks
  refine hq1.read rfl fun r w2 hq2 => ?_
  rcases r with err | ⟨runtime, directOnly⟩
  · exact hq2.blocks
  refine hq2.read rfl fun r w3 hq3 => ?_
  rcases r with err | items
  · exact hq3.blocks
  · exact choose_closed hq3 hl observed start.runtime policy runtime items

/-! ## the rounds without access repositories -/

theorem activate_closes (h : Traced start w new) (candidate : ActivationCandidate) :
    Holds (activate candidate) (Closed start) w :=
  (activate_closed h candidate).mono fun _ _ hended => hended.1

section
variable (hq : Quiet start w)
include hq

theorem replaceLegacyPolicy_closed {expired : Bool} (hexpired : Lapsed start → expired = true) :
    Holds (replaceLegacyPolicy expired) (Closed start) w := by
  refine hq.read rfl fun r w1 hq1 => ?_
  split
  · exact activate_closes hq1.traced _
  · split
    · next hpending => exact hq1.closed_pending hexpired hpending _
    · exact hq1.blocks
  · exact hq1.blocks

theorem legacyTransition_closed (observed : Observed) (hasTargets : Bool) :
    Holds (reconcilePolicyTransition observed start.runtime hasTargets) (Closed start) w := by
  unfold reconcilePolicyTransition
  split
  · exact hq.blocks
  rename_i deadline hdeadline
  refine holds_now fun w1 hq1 => ?_
  have hexpired : Lapsed start → decide (deadline ≤ (w.inputs w.ticks).now) = true :=
    fun hl => decide_eq_true (hl.expired hq hdeadline)
  have hq1 := hq.trans hq1
  dsimp only
  split
  · exact hq1.blocks
  split
  · split
    · next hpending => exact hq1.closed_pending hexpired hpending _
    · exact hq1.blocks
  refine hq1.read rfl fun r w2 hq2 => ?_
  split
  · split
    · refine holds_verify hq2 fun r w3 htraced hgateway => ?_
      split
      · exact block_closes htraced _ _ _
      · exact block_closes htraced _ _ _
      · exact htraced.closed_active (hgateway _ rfl)
    · exact replaceLegacyPolicy_closed hq2 hexpired
  · exact replaceLegacyPolicy_closed hq2 hexpired
  · exact hq2.blocks

theorem activateBest_closed : Holds activateBest (Closed start) w := by
  refine hq.read rfl fun r w1 hq1 => ?_
  split
  · exact activate_closes hq1.traced _
  · exact hq1.blocks
  · exact hq1.blocks

theorem searchLegacy_closed (desired : Snapshot) :
    Holds (searchLegacy desired) (Closed start) w := by
  unfold searchLegacy
  split
  · refine hq.read rfl fun r w1 hq1 => ?_
    rcases r with err | candidate
    · exact activateBest_closed hq1
    dsimp only
    split
    · exact activateBest_closed hq1
    · exact activate_closes hq1.traced _
  · exact activateBest_closed hq

theorem keepLegacy_closed (hl : ¬ Lapsed start) (observed : Observed)
    (desired : Snapshot) : Holds (keepLegacy observed desired) (Closed start) w := by
  unfold keepLegacy
  split
  · refine hq.read rfl fun r w1 hq1 => ?_
    split
    · exact hq1.closed hl _
    · exact searchLegacy_closed hq1 desired
    · exact hq1.blocks
  · exact searchLegacy_closed hq desired

theorem degradedLegacy_closed (hl : ¬ Lapsed start) (observed : Observed)
    (desired : Snapshot) : Holds (degradedLegacy observed desired) (Closed start) w := by
  unfold degradedLegacy
  split
  · refine hq.read rfl fun r w1 hq1 => ?_
    split
    · rename_i fresh
      refine ⟨trivial, fun f _ => ?_⟩
      have htraced := exec_recover hq1 fresh.pathID fresh.nodeID fresh.policyGeneration
        fresh.routeGeneration f
      generalize (exec (.recoverTargetDegraded fresh.pathID fresh.nodeID fresh.policyGeneration
        fresh.routeGeneration) f w1).2 = w2 at htraced ⊢
      generalize (exec (.recoverTargetDegraded fresh.pathID fresh.nodeID fresh.policyGeneration
        fresh.routeGeneration) f w1).1 = r2
      rcases r2 with err | result
      · exact block_closes htraced _ _ _
      · exact htraced.closed fun hlapsed => absurd hlapsed hl
    · refine hq1.read rfl fun r w2 hq2 => ?_
      split
      · exact hq2.closed hl _
      · exact keepLegacy_closed hq2 hl observed desired
      · exact hq2.blocks
    · exact hq1.blocks
  · exact keepLegacy_closed hq hl observed desired

theorem reconcileLegacy_closed (observed : Observed) (hasTargets : Bool) :
    Holds (reconcileLegacy observed start.runtime hasTargets) (Closed start) w := by
  unfold reconcileLegacy
  split
  · exact hq.blocks
  split
  · exact legacyTransition_closed hq observed hasTargets
  rename_i hopen
  have hl : ¬ Lapsed start := fun hl => hopen hl.1
  split
  · exact hq.blocks
  · exact degradedLegacy_closed hq hl observed start.runtime

end

end Rounds

/-! ## the whole round -/

theorem reconcile_closed (r : Reconciler) (start : World) :
    Holds r.reconcile (Closed start) start := by
  refine holds_silent rfl fun answer w1 hq1 => ?_
  rcases answer with err | observed
  · exact hq1.blocks
  dsimp only
  split
  · exact hq1.blocks
  refine holds_stateGet (fun err w2 hq2 => (hq1.trans hq2).blocks) ?_
  intro w2 hq2
  have hq2 := hq1.trans hq2
  rw [hq1.runtime]
  refine hq2.read rfl fun answer w3 hq3 => ?_
  rcases answer with err | hasTargets
  · exact hq3.blocks
  refine hq3.read rfl fun answer w4 hq4 => ?_
  rcases answer with err | hasUplinks
  · exact hq4.blocks
  dsimp only
  split
  · exact hq4.blocks
  split
  · split
    · exact hq4.blocks
    · exact reconcileUnified_closed hq4 observed hasTargets
  · exact reconcileLegacy_closed hq4 observed hasTargets

theorem callsSince_eq (h : w.calls = new ++ start.calls) : start.callsSince w = new := by
  rw [World.callsSince, h, length_append, Nat.add_sub_cancel]
  exact take_left

/-- **whatever its calls answer, a round that returns an error has blocked after its last
activation; a tuple that becomes active was activated and its evidence accepted again; a policy
change whose grace is over stays open only if `State.Block` failed** -/
theorem reconcile_fails_closed (r : Reconciler) (start : World) (fates : List Fate) (reply : Reply)
    (hdone : (run exec r.reconcile fates start).result = some reply) :
    let w := (run exec r.reconcile fates start).state
    (reply.err ≠ none → FailsClosed (start.callsSince w)) ∧
    (∀ tuple, w.runtime.activeTuple = some tuple → start.runtime.activeTuple ≠ some tuple →
      Activated start.inputs w.ticks (start.callsSince w) w.runtime) ∧
    (Lapsed start → w.runtime.Stuck → BlockFailed (start.callsSince w)) := by
  intro w
  obtain ⟨new, htraced, herr, hlapsed⟩ :=
    (wp_sound (reconcile_closed r start) (fun _ _ => trivial)).1 reply hdone
  rw [callsSince_eq htraced.calls]
  refine ⟨herr, htraced.rooted, ?_⟩
  intro hl hstuck
  exact (hlapsed hl).resolve_left fun hne => hne hstuck

def sampleWorld : World :=
  { runtime := { gatewayState := .blocked }
    inputs := fun _ =>
      { now := 5 * second, observed := {}, database := sampleDatabase (10 * second),
        policy := ⟨1, 1, 1⟩ } }

/-- the commit of the activation is reported late, and both blocks fail -/
def lateCommit : List Fate := List.replicate 12 .ok ++ [.late] ++ List.replicate 4 .fail

theorem reconcile_fails_closed_late_commit :
    ∃ reply, (run exec unified.reconcile lateCommit sampleWorld).result = some reply ∧
      reply.err ≠ none ∧
      FailsClosed (sampleWorld.callsSince (run exec unified.reconcile lateCommit sampleWorld).state) ∧
      Activated sampleWorld.inputs (run exec unified.reconcile lateCommit sampleWorld).state.ticks
        (sampleWorld.callsSince (run exec unified.reconcile lateCommit sampleWorld).state)
        (run exec unified.reconcile lateCommit sampleWorld).state.runtime := by
  have herr : ((run exec unified.reconcile lateCommit sampleWorld).result.bind Reply.err).isSome =
      true := by decide +kernel
  obtain ⟨err, hbind⟩ := Option.isSome_iff_exists.mp herr
  obtain ⟨reply, hdone, herr⟩ := Option.bind_eq_some_iff.mp hbind
  have hne : reply.err ≠ none := fun hnone => by rw [hnone] at herr; cases herr
  obtain ⟨hclosed, hactivated, _⟩ :=
    reconcile_fails_closed unified sampleWorld lateCommit reply hdone
  exact ⟨reply, hdone, hne, hclosed hne,
    hactivated ("", "", "d1") (by decide +kernel) (by decide +kernel)⟩

end GatewayVpn.Access
