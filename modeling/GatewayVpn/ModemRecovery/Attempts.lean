import GatewayVpn.ModemRecovery.Cooldown

/-!
# Attempts that are never closed

An attempt is opened in one transaction and closed in another, after the action was executed.  The
second one is made with the context of the caller, and its error is only reported.  When it fails
the attempt stays RUNNING and the runtime row keeps its id; from then on a failure of the uplink is
answered by `ALREADY_RUNNING`, a healthy observation is refused, and only `RecoverInterrupted`, which
runs when the process starts, ends the attempt.
-/

namespace GatewayVpn.ModemRecovery

open Durable List

/-! ## open attempts -/

namespace World

def Running (w : World) (id : String) : Prop := ∃ a ∈ w.attempts, a.id = id ∧ a.status = .running

instance (w : World) (id : String) : Decidable (w.Running id) :=
  inferInstanceAs (Decidable (∃ a ∈ w.attempts, _))

def active (w : World) (uplinkID : String) : Option String :=
  (w.runtimes uplinkID).bind (·.activeAttemptID)

end World

structure Silent (w v : World) : Prop where
  attempts : v.attempts = w.attempts
  active : ∀ u, v.active u = w.active u

theorem Silent.refl (w : World) : Silent w w := ⟨rfl, fun _ => rfl⟩

variable {x w v : World}

theorem Silent.trans (h : Silent w v) (h' : Silent v x) : Silent w x :=
  ⟨h'.attempts.trans h.attempts, fun u => (h'.active u).trans (h.active u)⟩

theorem Silent.tick (h : Silent w v) : Silent w v.tick := ⟨h.attempts, h.active⟩

theorem Silent.running (h : Silent w v) (id : String) : v.Running id ↔ w.Running id := by
  rw [World.Running, World.Running, h.attempts]

theorem active_setRuntime (w : World) (u x : String) (r : Runtime) :
    (w.setRuntime u r).active x = if x = u then r.activeAttemptID else w.active x := by
  show ((Function.update w.runtimes u (some r)) x).bind _ = _
  by_cases hx : x = u
  · subst hx
    rw [Function.update_self, if_pos rfl]
    rfl
  · rw [Function.update_of_ne hx, if_neg hx]
    rfl

variable {u : String}

theorem silent_setRuntime {old new : Runtime} (hold : w.runtimes u = some old)
    (h : new.activeAttemptID = old.activeAttemptID) : Silent w (w.setRuntime u new) := by
  refine ⟨rfl, fun x => ?_⟩
  rw [active_setRuntime]
  split
  · rename_i hx
    rw [hx, World.active, hold]
    exact h
  · rfl

theorem observeHealthy_silent {a : Unit} (h : observeHealthy u w = .ok (a, v)) : Silent w v := by
  obtain ⟨r, hr, rfl⟩ := observeHealthy_ok h
  exact ⟨rfl, (silent_setRuntime hr (by rfl)).active⟩

variable {reason : Failure}

theorem prepareFailure_silent {s : Snapshot} (h : prepareFailure u reason w = .ok (s, v)) :
    Silent w v := by
  obtain ⟨policy, r, -, hr, -, ⟨-, rfl⟩ | ⟨-, rfl⟩⟩ := prepareFailure_cases h
  · exact .refl _
  have hrow : Silent w (w.setRuntime u (r.observed policy.generation reason w.now)) :=
    silent_setRuntime hr rfl
  exact hrow.tick

theorem setWaiting_silent {code : String} {next : Option Time} {a : Unit}
    (h : setWaiting u code next w = .ok (a, v)) : Silent w v := by
  obtain rfl | ⟨r, hr, rfl⟩ := setWaiting_ok h
  · exact .refl _
  · exact silent_setRuntime hr rfl

theorem updatePolicy_silent {input : Settings} {p : Policy}
    (h : updatePolicy u input w = .ok (p, v)) : Silent w v := by
  obtain ⟨r, row, updated, hr, hactive, rfl⟩ := updatePolicy_ok h
  have hrow : Silent w (w.setRuntime u row) := silent_setRuntime hr hactive
  exact ⟨hrow.attempts, hrow.active⟩

/-! ## opening and closing -/

/-- `v` is `w` with one more attempt, which blocks its uplink and can be closed -/
structure Opened (a : Attempt) (w v : World) : Prop where
  fresh : ¬ w.Running a.id
  free : w.active a.uplinkID = none
  running : ∀ i, v.Running i ↔ w.Running i ∨ i = a.id
  active : ∀ x, v.active x = if x = a.uplinkID then some a.id else w.active x
  named : a.id ≠ "" ∧ validID a.uplinkID = true
  row : ∃ r, v.runtimes a.uplinkID = some r ∧ r.activeAttemptID = some a.id ∧
    r.policyGeneration = a.policyGeneration

theorem newAttemptID_ne (w : World) : newAttemptID w ≠ "" := by
  intro hnil
  have := congrArg String.length hnil
  simp [newAttemptID] at this

variable {requestedBy : RequestedBy} {a : Attempt}

theorem beginAttempt_opened {action : Action}
    (h : beginAttempt u action requestedBy reason w = .ok (a, v)) :
    Opened a w v ∧ a.uplinkID = u := by
  obtain ⟨policy, r, budget, hp, hr, hfree, -, -, hkey, hgen, hvalid, -, heq⟩ := beginAttempt_ok h
  obtain ⟨rfl, rfl⟩ := Prod.mk.inj heq
  refine ⟨⟨?_, ?_, fun i => ?_, fun x => active_setRuntime .., ⟨newAttemptID_ne w, hvalid⟩,
    _, Function.update_self .., rfl, hgen⟩, rfl⟩
  · rintro ⟨b, hb, hid, -⟩
    have : w.attempts.any (·.id = newAttemptID w) = true :=
      any_eq_true.mpr ⟨b, hb, by simpa using hid⟩
    rw [hkey] at this
    cases this
  · show (w.runtimes u).bind _ = none
    rw [hr]
    exact hfree
  · simp [World.Running, World.record, World.tick, World.setRuntime, or_and_right, exists_or,
      eq_comm]

theorem validCode_outcome (e : Executed) : validCode e.outcome.2 = true := by
  have hfailed : validCode "ACTION_FAILED" = true := by decide
  rcases e with _ | e
  · decide
  · cases e <;> first | decide | exact hfailed

theorem outcome_ne_running (e : Executed) : e.outcome.1 ≠ .running := by
  rcases e with _ | e
  · decide
  · cases e <;> exact Status.noConfusion

theorem closeAttempt_running {status : Status} (hstatus : status ≠ .running) (code : String)
    (cooldown : Time) (r : Runtime) (v : World) (i : String) :
    (closeAttempt a status code cooldown r v).Running i ↔ v.Running i ∧ i ≠ a.id := by
  constructor
  · rintro ⟨b, hb, rfl, hbr⟩
    obtain ⟨x, hx, rfl⟩ := mem_map.mp hb
    by_cases hsame : x.id = a.id ∧ x.status = .running
    · rw [if_pos hsame] at hbr
      exact absurd hbr hstatus
    · rw [if_neg hsame] at hbr ⊢
      exact ⟨⟨x, hx, rfl, hbr⟩, fun hid => hsame ⟨hid, hbr⟩⟩
  · rintro ⟨⟨x, hx, rfl, hxr⟩, hne⟩
    exact ⟨x, mem_map.mpr ⟨x, hx, if_neg fun hsame => hne hsame.1⟩, rfl, hxr⟩

def Restored (w v : World) : Prop :=
  (∀ i, v.Running i ↔ w.Running i) ∧ ∀ x, v.active x = w.active x

theorem Silent.restored (h : Silent w v) : Restored w v := ⟨h.running, h.active⟩

theorem Opened.finish (h : Opened a w v) (e : Executed) (cooldown : Time) :
    ∃ x, finishAttempt a e.outcome.1 e.outcome.2 cooldown v = .ok ((), x) ∧ Restored w x := by
  obtain ⟨r, hr, hactive, hgen⟩ := h.row
  have hrunning := (h.running a.id).mpr (.inr rfl)
  obtain ⟨b, hb, hbid, hbr⟩ := hrunning
  refine ⟨closeAttempt a e.outcome.1 e.outcome.2 cooldown r v, ?_, fun i => ?_, fun x => ?_⟩
  · have hany : v.attempts.any (fun b => b.id = a.id && b.status = .running) = true :=
      any_eq_true.mpr ⟨b, hb, by simp [hbid, hbr]⟩
    unfold finishAttempt
    rw [hr]
    simp [h.named.1, h.named.2, validCode_outcome, outcome_ne_running, hactive, hgen, hany]
  · rw [closeAttempt_running (outcome_ne_running e), h.running]
    constructor
    · rintro ⟨hrun | rfl, hne⟩
      · exact hrun
      · exact absurd rfl hne
    · intro hrun
      exact ⟨.inl hrun, fun hid => h.fresh (hid ▸ hrun)⟩
  refine (active_setRuntime ..).trans ?_
  split
  · rename_i hx
    exact ((congrArg w.active hx).trans h.free).symm
  · rename_i hx
    exact (h.active x).trans (if_neg hx)

/-! ## the handling of one failure -/

/-- the handling of a failure comes to open the attempt `a` -/
def AttemptDue (c : Faults) (u failureReason : String) (requestedBy : RequestedBy) (manual : Bool)
    (w : World) (a : Attempt) (x : World) : Prop :=
  ∃ reason s v action, validFailure failureReason = some reason ∧ c.prepare = .ok ∧
    prepareFailure u reason w = .ok (s, v) ∧ s.runtime.activeAttemptID = none ∧
    s.policy.enabled = true ∧ (s.runtime.cooldownUntil.any (v.now < ·) && !manual) = false ∧
    chooseAction s reason v.now manual = .act action ∧
    beginAttempt u action requestedBy reason v.tick = .ok (a, x)

variable {c : Faults} {failureReason : String} {manual : Bool}

theorem AttemptDue.opened (h : AttemptDue c u failureReason requestedBy manual w a x) :
    Opened a w x ∧ a.uplinkID = u := by
  obtain ⟨reason, s, v, action, -, -, hprep, -, -, -, -, hbegin⟩ := h
  have hv := (prepareFailure_silent hprep).tick
  obtain ⟨ho, hu⟩ := beginAttempt_opened hbegin
  refine ⟨⟨?_, ?_, fun i => ?_, fun y => ?_, ho.named, ho.row⟩, hu⟩
  · rw [← hv.running]
    exact ho.fresh
  · rw [← hv.active]
    exact ho.free
  · rw [← hv.running]
    exact ho.running i
  · rw [← hv.active]
    exact ho.active y

/-- the attempt, if one is due, is opened and closed, or is not opened at all -/
def Closed (c : Faults) (u failureReason : String) (requestedBy : RequestedBy) (manual : Bool)
    (w : World) : Prop :=
  ∀ a x, AttemptDue c u failureReason requestedBy manual w a x →
    c.start = .fail ∨ (c.start = .ok ∧ c.finish ≠ .fail)

theorem Restored.trans (h : Restored w v) (h' : Restored v x) : Restored w x :=
  ⟨fun i => (h'.1 i).trans (h.1 i), fun y => (h'.2 y).trans (h.2 y)⟩

theorem transact_setWaiting_silent {f : Fate} {code : String} {next : Option Time} :
    Silent w (transact f (setWaiting u code next) w).2 :=
  transact_state (.refl w) fun _ _ h => setWaiting_silent h

theorem execute_restored {policy : Policy} {now : Time} (h : Opened a w v)
    (hfinish : c.finish ≠ .fail) : Restored w (execute c policy now a v).2 := by
  obtain ⟨x, hx, hrest⟩ := h.finish c.execute (actionCooldown policy a.action)
  unfold execute transact
  dsimp only
  rw [hx]
  cases hf : c.finish with
  | fail => exact absurd hf hfinish
  | ok => exact hrest
  | late => exact hrest

theorem enact_restored {policy : Policy} {now : Time} {d : Decision}
    (hclosed : ∀ action a x, d = .act action →
      beginAttempt u action requestedBy reason w = .ok (a, x) →
        c.start = .fail ∨ (c.start = .ok ∧ c.finish ≠ .fail)) :
    Restored w (enact c u reason requestedBy policy now w d).2 := by
  cases d with
  | wait state code next =>
    have hwait : Restored w (transact c.waiting (setWaiting u code next) w).2 :=
      transact_setWaiting_silent.restored
    rw [enact]
    split <;> rename_i heq <;> rw [heq] at hwait <;> exact hwait
  | act action =>
  rw [enact]
  cases hb : beginAttempt u action requestedBy reason w with
  | ok r =>
    obtain ⟨a, x⟩ := r
    rcases hclosed action a x rfl hb with hstart | ⟨hstart, hfinish⟩
    · simp only [transact, hstart, hb, Fate.fail_deliver]
      exact (Silent.refl w).restored
    · simp only [transact, hstart, hb, Fate.ok_deliver]
      exact execute_restored (beginAttempt_opened hb).1 hfinish
  | error e =>
  -- the tables are as they were, and at most the waiting time is written
  have hsame : (transact c.start (beginAttempt u action requestedBy reason) w).2 = w := by
    unfold transact
    rw [hb]
    cases c.start <;> rfl
  split
  · rename_i heq
    have := transact_ok heq
    rw [hb] at this
    cases this
  · rename_i v heq
    rw [heq] at hsame
    rw [show v = w from hsame]
    exact (Silent.refl w).tick.restored.trans transact_setWaiting_silent.restored
  · rename_i v _ heq
    rw [heq] at hsame
    rw [show v = w from hsame]
    exact (Silent.refl w).restored

theorem handleLocked_restored (h : Closed c u failureReason requestedBy manual w) :
    Restored w (handleLocked c u failureReason requestedBy manual w).2 := by
  unfold handleLocked
  cases hreason : validFailure failureReason with
  | none => exact (Silent.refl w).restored
  | some reason =>
  dsimp only
  split
  · rename_i heq
    exact Silent.restored
      (transact_snd heq (.refl w) fun _ _ h => prepareFailure_silent h)
  rename_i s v heq
  have hprep := transact_ok heq
  have hfate : c.prepare = .ok := by
    cases hc : c.prepare with
    | ok => rfl
    | fail => simp [transact, hc] at heq
    | late => simp [transact, hc] at heq
  have hv := prepareFailure_silent hprep
  split
  · exact hv.restored
  rename_i hactive
  unfold handlePrepared
  by_cases hen : s.policy.enabled = true
  · simp only [hen, Bool.not_true, Bool.false_eq_true, if_false]
    split
    · exact hv.tick.restored
    rename_i hcool
    refine hv.tick.restored.trans (enact_restored fun action a x hd hb => ?_)
    exact h a x ⟨reason, s, v, action, hreason, hfate, hprep, hactive, hen,
      Bool.eq_false_iff.mpr hcool, hd, hb⟩
  · simp only [hen, Bool.not_false, if_true]
    exact hv.restored.trans transact_setWaiting_silent.restored

theorem handleLocked_open (h : AttemptDue c u failureReason requestedBy manual w a x)
    (hopen : ¬ (c.start = .fail ∨ (c.start = .ok ∧ c.finish ≠ .fail))) :
    (handleLocked c u failureReason requestedBy manual w).2 = x := by
  obtain ⟨reason, s, v, action, hreason, hfate, hprep, hactive, hen, hcool, hd, hb⟩ := h
  have hprepared : transact c.prepare (prepareFailure u reason) w = (.ok s, v) := by
    simp [transact, hfate, hprep]
  unfold handleLocked
  rw [hreason]
  dsimp only
  rw [hprepared]
  dsimp only
  rw [hactive]
  unfold handlePrepared
  simp only [hen, Bool.not_true, Bool.false_eq_true, if_false, hcool]
  rw [hd, enact]
  cases hstart : c.start with
  | fail => exact absurd (.inl hstart) hopen
  | late => simp [transact, hb]
  | ok =>
  have hfinish : c.finish = .fail := by
    by_contra hne
    exact hopen (.inr ⟨hstart, hne⟩)
  simp [transact, hb, execute, hfinish]

/-! ## the calls -/

/-- what is open stays open, and what blocks an uplink keeps blocking it -/
structure Persists (w v : World) : Prop where
  running : ∀ i, w.Running i → v.Running i
  active : ∀ u i, w.active u = some i → v.active u = some i

theorem Persists.trans (h : Persists w v) (h' : Persists v x) : Persists w x :=
  ⟨fun i hi => h'.running i (h.running i hi), fun u i hi => h'.active u i (h.active u i hi)⟩

theorem Restored.persists (h : Restored w v) : Persists w v :=
  ⟨fun i hi => (h.1 i).mpr hi, fun u _ hi => (h.2 u).trans hi⟩

theorem Opened.persists (h : Opened a w v) : Persists w v := by
  refine ⟨fun i hi => (h.running i).mpr (.inl hi), fun u i hi => ?_⟩
  rw [h.active, if_neg]
  · exact hi
  rintro rfl
  rw [h.free] at hi
  cases hi

/-- **The handling of a failure ends no attempt but its own.** -/
theorem handleLocked_persists (c : Faults) (u failureReason : String) (requestedBy : RequestedBy)
    (manual : Bool) (w : World) :
    Persists w (handleLocked c u failureReason requestedBy manual w).2 := by
  by_cases h : Closed c u failureReason requestedBy manual w
  · exact (handleLocked_restored h).persists
  simp only [Closed, not_forall] at h
  obtain ⟨a, x, hdue, hopen⟩ := h
  rw [handleLocked_open hdue hopen]
  exact hdue.opened.1.persists

theorem observeEach_silent (healthy : List (String × Fate)) (seen : List String) (w : World) :
    Silent w (observeEach healthy seen w).2 := by
  induction healthy generalizing seen w with
  | nil => exact .refl w
  | cons entry rest ih =>
    obtain ⟨u, fate⟩ := entry
    rw [observeEach]
    split
    · exact ih seen w
    have hv : Silent w (transact fate (observeHealthy u) w).2 :=
      transact_state (.refl w) fun _ _ h => observeHealthy_silent h
    have hrest := hv.trans (ih (u :: seen) _)
    dsimp only
    split <;> exact hrest

variable {seen : List String}

theorem handleEach_cons {o : Observed} {rest : List Observed} : (handleEach (o :: rest) seen w).2 =
      if o.uplinkID ∈ seen then (handleEach rest seen w).2
      else (handleEach rest (o.uplinkID :: seen) (o.handle w).2).2 := by
  rw [handleEach]
  split
  · rfl
  dsimp only
  split
  · split <;> rfl
  · rfl

theorem handleEach_persists (failures : List Observed) (seen : List String) (w : World) :
    Persists w (handleEach failures seen w).2 := by
  induction failures generalizing seen w with
  | nil => exact (Silent.refl w).restored.persists
  | cons o rest ih =>
    rw [handleEach_cons]
    split
    · exact ih seen w
    · exact (handleLocked_persists ..).trans (ih _ _)

/-- **No observation ends an attempt that is open, or frees an uplink that is blocked.** -/
theorem observe_persists (b : Batch) (w : World) : Persists w (observe b w).2 :=
  (observeEach_silent b.healthy [] w).restored.persists.trans (handleEach_persists ..)

/-- every attempt that the failures of a batch open is closed -/
def ClosedEach : List Observed → List String → World → Prop
  | [], _, _ => True
  | o :: rest, seen, w =>
    if o.uplinkID ∈ seen then ClosedEach rest seen w
    else Closed o.faults o.uplinkID o.reason .system false w ∧
      ClosedEach rest (o.uplinkID :: seen) (o.handle w).2

theorem handleEach_restored {failures : List Observed} (h : ClosedEach failures seen w) :
    Restored w (handleEach failures seen w).2 := by
  induction failures generalizing seen w with
  | nil => exact (Silent.refl w).restored
  | cons o rest ih =>
    rw [ClosedEach] at h
    rw [handleEach_cons]
    split at h
    · rename_i hseen
      rw [if_pos hseen]
      exact ih h
    rename_i hseen
    rw [if_neg hseen]
    exact (handleLocked_restored h.1).trans (ih h.2)

/-- an attempt that `w` did not know is open, and blocks an uplink that was free -/
def LeavesOpen (w v : World) : Prop :=
  ∃ u i, ¬ w.Running i ∧ w.active u = none ∧ v.Running i ∧ v.active u = some i

theorem handleLocked_leavesOpen (h : ¬ Closed c u failureReason requestedBy manual w) :
    LeavesOpen w (handleLocked c u failureReason requestedBy manual w).2 := by
  simp only [Closed, not_forall] at h
  obtain ⟨a, x, hdue, hopen⟩ := h
  rw [handleLocked_open hdue hopen]
  have ho := hdue.opened.1
  exact ⟨a.uplinkID, a.id, ho.fresh, ho.free, (ho.running a.id).mpr (.inr rfl),
    (ho.active a.uplinkID).trans (if_pos rfl)⟩

theorem LeavesOpen.persists (h : LeavesOpen w v) (hx : Persists v x) : LeavesOpen w x := by
  obtain ⟨u, i, hfresh, hfree, hrunning, hactive⟩ := h
  exact ⟨u, i, hfresh, hfree, hx.running i hrunning, hx.active u i hactive⟩

theorem LeavesOpen.of_restored (hw : Restored w v) (h : LeavesOpen v x) : LeavesOpen w x := by
  obtain ⟨u, i, hfresh, hfree, hrunning, hactive⟩ := h
  exact ⟨u, i, fun hi => hfresh ((hw.1 i).mpr hi), (hw.2 u).symm.trans hfree, hrunning, hactive⟩

theorem handleEach_leavesOpen {failures : List Observed} (h : ¬ ClosedEach failures seen w) :
    LeavesOpen w (handleEach failures seen w).2 := by
  induction failures generalizing seen w with
  | nil => exact absurd trivial h
  | cons o rest ih =>
    rw [ClosedEach] at h
    rw [handleEach_cons]
    split at h
    · rename_i hseen
      rw [if_pos hseen]
      exact ih h
    rename_i hseen
    rw [if_neg hseen]
    by_cases hfirst : Closed o.faults o.uplinkID o.reason .system false w
    · exact (ih fun hrest => h ⟨hfirst, hrest⟩).of_restored (handleLocked_restored hfirst)
    · exact (handleLocked_leavesOpen hfirst).persists (handleEach_persists ..)

/-- every attempt of the call is closed: its opening reports no error after it was committed, and
its closing takes place -/
def Call.Closes (w : World) : Call → Prop
  | .observe b =>
    let healthy := observeEach b.healthy [] w
    ClosedEach b.failures healthy.1.1 healthy.2
  | .request c u failureReason => failureReason = "" ∨ Closed c u failureReason .user true w
  | .recoverInterrupted _ => True
  | .updatePolicy _ _ _ => True

/-- what a call that turned `w` into `v` opened is closed, or can be closed by an observation, and
the uplinks that it blocked can be freed by one -/
def Settled (w v : World) : Prop :=
  (∀ i, v.Running i → w.Running i ∨ ∃ b, ¬ (observe b v).2.Running i) ∧
    ∀ u, v.active u ≠ none → w.active u ≠ none ∨ ∃ b, (observe b v).2.active u = none

theorem Restored.settled (h : Restored w v) : Settled w v :=
  ⟨fun i hi => .inl ((h.1 i).mp hi), fun u hu => .inl (h.2 u ▸ hu)⟩

theorem LeavesOpen.not_settled (h : LeavesOpen w v) : ¬ Settled w v := by
  obtain ⟨u, i, hfresh, hfree, hrunning, hactive⟩ := h
  rintro ⟨hsettled, -⟩
  rcases hsettled i hrunning with hold | ⟨b, hb⟩
  · exact hfresh hold
  · exact hb ((observe_persists b v).running i hrunning)

theorem closeInterrupted_settled (w : World) : Settled w (closeInterrupted w) := by
  constructor
  · rintro i ⟨a, ha, rfl, hrunning⟩
    obtain ⟨b, hb, rfl⟩ := mem_map.mp ha
    by_cases hstatus : b.status = .running
    · rw [if_pos hstatus] at hrunning
      cases hrunning
    · rw [if_neg hstatus] at hrunning
      exact absurd hrunning hstatus
  intro u hu
  refine absurd ?_ hu
  show ((w.runtimes u).map _).bind _ = none
  cases w.runtimes u with
  | none => rfl
  | some r => by_cases hr : r.activeAttemptID.isSome <;> simp_all

/-- **An attempt is left open for good exactly when its closing transaction fails**, or when its
opening one reports an error after it was committed; every other call of the controller leaves
nothing open. -/
theorem attempts_closed (w : World) (call : Call) :
    Settled w (step w call) ↔ call.Closes w := by
  cases call with
  | observe b =>
    have hhealthy := (observeEach_silent b.healthy [] w).restored
    constructor
    · intro hsettled
      by_contra h
      exact ((handleEach_leavesOpen h).of_restored hhealthy).not_settled hsettled
    · intro h
      exact (hhealthy.trans (handleEach_restored h)).settled
  | request c u failureReason =>
    show Settled w (request c u failureReason w).2 ↔ _
    by_cases hnone : failureReason = ""
    · have hsame : (request c u failureReason w).2 = w := by
        unfold request
        rw [if_pos hnone]
      rw [hsame]
      exact ⟨fun _ => .inl hnone, fun _ => (Silent.refl w).restored.settled⟩
    have hrun : (request c u failureReason w).2 =
        (handleLocked c u failureReason .user true w).2 := by
      unfold request
      rw [if_neg hnone]
    rw [hrun]
    constructor
    · intro hsettled
      by_contra h
      exact (handleLocked_leavesOpen fun hc => h (.inr hc)).not_settled hsettled
    rintro (h | h)
    · exact absurd h hnone
    · exact (handleLocked_restored h).settled
  | recoverInterrupted fate =>
    refine ⟨fun _ => trivial, fun _ => ?_⟩
    refine transact_state (Silent.refl w).restored.settled fun n v h => ?_
    obtain ⟨-, rfl⟩ := Prod.mk.inj (Except.ok.inj h)
    exact closeInterrupted_settled w
  | updatePolicy fate u input =>
  refine ⟨fun _ => trivial, fun _ => ?_⟩
  exact transact_state (Silent.refl w).restored.settled
    fun _ _ h => (updatePolicy_silent h).restored.settled

/-- a manual request opens an attempt, the action is executed, and the transaction that closes the
attempt fails: no observation ends it -/
theorem attempt_left_open :
    ¬ Settled (sampleWorld slowClock)
      (step (sampleWorld slowClock) (.request { finish := .fail } sampleModem "DHCP_LEASE_MISSING")) := by
  refine LeavesOpen.not_settled ⟨sampleModem, "modem-recovery-00", ?_, rfl, ?_, ?_⟩
  · rintro ⟨a, ha, -⟩
    cases ha
  · decide +kernel
  · decide +kernel

/-! ## a manual request during a failure -/

def firstAction : Failure → Option Action
  | .dhcpLeaseMissing => some .dhcpRenew
  | .managementUnreachable => some .hiLinkAPIReconnect
  | _ => none

def World.Records (w : World) (id u : String) (action : Action) : Prop :=
  ∃ a ∈ w.attempts, a.id = id ∧ a.uplinkID = u ∧ a.action = action

def Starts (c : Faults) (u : String) (reason : Failure) (action : Action) (w : World) : Prop :=
  (request c u reason.code w).2.Records (newAttemptID w) u action

section
variable {c : Faults} {u : String} {reason : Failure} {action : Action} {w : World}
variable {policy : Policy} {r : Runtime} {s : Snapshot} {now started : Time}

theorem chooseAction_first (haction : firstAction reason = some action)
    (hstarted : s.runtime.failureStartedAt = some started) (hpast : started ≤ now)
    (hfirst : ∀ a ∈ s.attempts, a.action = action → a.startedAt < started) :
    chooseAction s reason now true = .act action := by
  have hnew : (s.attempts.any fun a => started ≤ a.startedAt && a.action = action) = false := by
    simp only [any_eq_false, Bool.and_eq_true, decide_eq_true_eq, not_and]
    exact fun a ha hle hact => absurd (hfirst a ha hact) (not_lt.2 hle)
  cases reason <;> cases haction <;>
    simp [chooseAction, stagesForFailure, climb, hstarted, hnew, hpast]

theorem World.Records.execute {id : String} {a : Attempt} (h : w.Records id u action) :
    (execute c policy now a w).2.Records id u action := by
  unfold ModemRecovery.execute
  dsimp only
  split
  all_goals
    next heq =>
    refine transact_snd (P := fun v => v.Records id u action) heq h fun _ v hfinish => ?_
    obtain ⟨r, -, rfl⟩ := finishAttempt_ok hfinish
    obtain ⟨b, hb, hsame⟩ := h
    refine ⟨_, mem_map_of_mem hb, ?_⟩
    split <;> exact hsame

theorem prepareFailure_row (reason : Failure) (hvalid : validID u = true)
    (hpolicy : w.policies u = some policy) (hr : w.runtimes u = some r)
    (hactive : r.activeAttemptID = none) :
    ∃ attempts, (∀ a ∈ attempts, a ∈ w.attempts ∧ a.uplinkID = u) ∧
      prepareFailure u reason w = .ok (⟨policy, r.observed policy.generation reason w.now, attempts⟩,
        (w.setRuntime u (r.observed policy.generation reason w.now)).tick) := by
  refine ⟨((w.attempts.filter (·.uplinkID = u)).insertionSort fun a b => recent a b = true).take 100,
    fun a ha => ?_, ?_⟩
  · have hmem := (mem_insertionSort _).1 (mem_of_mem_take ha)
    simpa using hmem
  · unfold prepareFailure snapshot
    simp [hvalid, hpolicy, hr, hactive, World.setRuntime, World.tick, Except.map]

/-- **A manual request starts the first action at once exactly when `cooldown_until` is over**,
whoever has written it. -/
theorem request_starts_iff (haction : firstAction reason = some action)
    (hprepare : c.prepare = .ok) (hstart : c.start = .ok) (hvalid : validID u = true)
    (hpolicy : w.policies u = some policy) (henabled : policy.enabled = true)
    (hr : w.runtimes u = some r) (hactive : r.activeAttemptID = none)
    (hkey : ∀ a ∈ w.attempts, a.id ≠ newAttemptID w)
    (hstarted : (r.observed policy.generation reason w.now).failureStartedAt = some started)
    (hfirst : ∀ a ∈ w.attempts, a.uplinkID = u → a.action = action → a.startedAt < started)
    (hpast : started ≤ w.tick.now) :
    Starts c u reason action w ↔ r.cooldownUntil.any (w.tick.tick.now < ·) = false := by
  obtain ⟨attempts, hattempts, hs⟩ := prepareFailure_row reason hvalid hpolicy hr hactive
  generalize hrow : r.observed policy.generation reason w.now = row at hs hstarted
  have hchoice : chooseAction ⟨policy, row, attempts⟩ reason (w.setRuntime u row).tick.now true =
      .act action :=
    chooseAction_first haction hstarted hpast fun a ha => hfirst a (hattempts a ha).1 (hattempts a ha).2
  have hcode : reason.code ≠ "" := by cases reason <;> decide
  have hfailure : validFailure reason.code = some reason := by cases reason <;> decide
  have hprepared : transact c.prepare (prepareFailure u reason) w =
      (.ok ⟨policy, row, attempts⟩, (w.setRuntime u row).tick) := by simp [transact, hprepare, hs]
  have hidle : row.activeAttemptID = none := hrow ▸ hactive
  have hgeneration : row.policyGeneration = policy.generation := hrow ▸ rfl
  have hcooldown : r.cooldownUntil = row.cooldownUntil := hrow ▸ rfl
  rw [Starts, request, if_neg hcode, handleLocked, hfailure]
  dsimp only
  rw [hprepared]
  dsimp only
  rw [hidle, handlePrepared, hcooldown]
  simp only [henabled, Bool.not_true, Bool.false_eq_true, if_false, Bool.and_false]
  rw [hchoice, enact]
  have hother : action ≠ .usbDeviceReset := by
    cases reason <;> cases haction <;> decide
  have hunused : (w.attempts.any (·.id = newAttemptID w)) = false := by simpa using hkey
  have hbegin : beginAttempt u action .user reason (w.setRuntime u row).tick.tick =
      if row.cooldownUntil.any (w.tick.tick.now < ·) then .error .budgetExhausted
      else .ok (openAttempt u action .user reason policy row
        (row.budgetWindowStartedAt, row.usbResetsInWindow) (w.setRuntime u row).tick.tick) := by
    have hread : (w.setRuntime u row).tick.tick.runtimes u = some row := Function.update_self ..
    have hsame : (w.setRuntime u row).tick.tick.policies u = some policy := hpolicy
    have hfree : ((w.setRuntime u row).tick.tick.attempts.any
      (·.id = newAttemptID (w.setRuntime u row).tick.tick)) = false := hunused
    unfold beginAttempt
    rw [hread, hsame]
    simp only [hvalid, hidle, hgeneration, henabled, hother, hfree, Bool.not_true, Option.isSome_none,
      Bool.false_eq_true, if_false, ne_eq, not_true_eq_false]
    rfl
  rw [transact, hbegin, hstart]
  cases hcool : row.cooldownUntil.any (w.tick.tick.now < ·) with
  | true =>
    refine iff_of_false ?_ Bool.noConfusion
    rintro ⟨a, ha, hid, -⟩
    have hsame : a ∈ (w.setRuntime u row).tick.tick.tick.attempts := by
      simpa [transact_setWaiting_silent.attempts] using ha
    exact hkey a hsame hid
  | false =>
    refine iff_of_true (World.Records.execute ?_) rfl
    exact ⟨_, mem_append_right _ (mem_singleton_self _), rfl, rfl, rfl⟩

end

theorem request_starts_first : Starts {} sampleModem .dhcpLeaseMissing .dhcpRenew
    (sampleWorld slowClock) :=
  (@request_starts_iff {} sampleModem .dhcpLeaseMissing .dhcpRenew (sampleWorld slowClock)
    Policy.default {} 0 rfl rfl rfl (by decide +kernel) rfl rfl rfl rfl
    (fun _ h => absurd h not_mem_nil) rfl (fun _ h => absurd h not_mem_nil)
    (slowClock_monotone (Nat.le_succ 0))).2 rfl

/-- an observation waits for the first stage until thirty seconds after the start of the failure, and
a request in that time is refused, although nothing was ever attempted -/
theorem request_refused_early :
    let w := step (sampleWorld fun n => seconds n) sampleMissing
    w.attempts = [] ∧ (request {} sampleModem "DHCP_LEASE_MISSING" w).2.attempts = [] ∧
      (request {} sampleModem "DHCP_LEASE_MISSING" w).1.1.reasonCode =
        "RECOVERY_BUDGET_EXHAUSTED" := by
  decide +kernel

end GatewayVpn.ModemRecovery
