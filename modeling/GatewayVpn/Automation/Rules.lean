import GatewayVpn.Automation.Scheduler

/-!
# Automatic updates: rules for the functions of a cycle

What one call leaves alone, what a write can do, and how an assertion is carried through a cycle.
-/

namespace GatewayVpn.Automation

open Durable
open Update (TransactionState)

structure Same (w w' : World) : Prop where
  calls : w'.calls = w.calls
  phase : w'.row.phase = w.row.phase
  staged : w'.row.stagedUpdateID = w.row.stagedUpdateID
  input : w'.input = w.input

/-! ## one call -/

/-- the calls that leave the log and the memory of the row alone -/
def Op.Passive : Op → Prop
  | .updateOwned _ _ | .updateStatus | .applyPendingUpdate _ | .check _ => False
  | _ => True

theorem exec_passive {o : Op} (ho : o.Passive) (f : Fate) (w : World) : Same w (exec o f w).2 := by
  cases o with
  | updateOwned | updateStatus | applyPendingUpdate | check => exact ho.elim
  | acquire owner now =>
    have h : Same w (acquireEffect w owner now).2 := by
      unfold acquireEffect
      split
      · exact ⟨rfl, rfl, rfl, rfl⟩
      · split <;> exact ⟨rfl, rfl, rfl, rfl⟩
    cases f with
    | fail => exact ⟨rfl, rfl, rfl, rfl⟩
    | ok | late => exact ⟨h.calls, h.phase, h.staged, h.input⟩
  | release owner now =>
    have h : Same w (releaseEffect w owner now).2 := by
      unfold releaseEffect
      split
      · exact ⟨rfl, rfl, rfl, rfl⟩
      · split <;> exact ⟨rfl, rfl, rfl, rfl⟩
    cases f with
    | fail => exact ⟨rfl, rfl, rfl, rfl⟩
    | ok | late => exact ⟨h.calls, h.phase, h.staged, h.input⟩
  | getPolicy | getStatus => cases f <;> exact ⟨rfl, rfl, rfl, rfl⟩
  | _ => exact ⟨rfl, rfl, rfl, rfl⟩

def NoIntent (mutate : Status → Option Status) : Prop :=
  ∀ s s', mutate s = some s' → s'.phase = .applyIntent → s.phase = .applyIntent

variable {w : World} {s : Status}

theorem store_noIntent (h : s.phase = .applyIntent →
    w.row.phase = .applyIntent) : w.store s = { w with row := s } :=
  if_neg fun hs => hs.2 (h hs.1)

@[simp] theorem store_input (w : World) (s : Status) : (w.store s).tick.input = w.input := by
  unfold World.store
  split <;> rfl

@[simp] theorem store_row (w : World) (s : Status) : (w.store s).tick.row = s := by
  unfold World.store
  split <;> rfl

@[simp] theorem noteReport_row (w : World) : (noteReport w).row = w.row := by
  unfold noteReport
  split <;> rfl

@[simp] theorem noteReport_input (w : World) : (noteReport w).input = w.input := by
  unfold noteReport
  split <;> rfl

theorem updateEffect_cases (w : World) (owner : String) (mutate : Status → Option Status) :
    (∃ e, updateEffect w owner mutate = (.error e, w)) ∨
      ∃ s, mutate w.row = some s ∧ s.valid ∧ updateEffect w owner mutate = (.ok s, w.store s) := by
  unfold updateEffect readStatus
  by_cases hvalid : validOwner owner
  case neg => exact .inl ⟨_, by simp [hvalid]; rfl⟩
  rw [if_neg (by simp [hvalid])]
  by_cases hrow : w.row.valid
  · rw [if_pos hrow]
    by_cases howner : w.row.leaseOwner = owner
    · cases hm : mutate w.row with
      | none => exact .inl ⟨_, by simp [howner, hm]; rfl⟩
      | some s =>
        by_cases hs : s.valid
        · by_cases ht : s.fitsTable
          · exact .inr ⟨s, rfl, hs, by simp [howner, hm, hs, ht]⟩
          · exact .inl ⟨_, by simp [howner, hm, hs, ht]; rfl⟩
        · exact .inl ⟨_, by simp [howner, hm, hs]; rfl⟩
    · exact .inl ⟨_, by simp [howner]; rfl⟩
  · rw [if_neg hrow]
    exact .inl ⟨_, rfl⟩

variable {α β : Type}

variable {mutate : Status → Option Status} {sch : Scheduler} {k : Status → Prog (Except String β)}

theorem wp_update {C : World → Prop} {Q : Except String β → World → Prop}
    (hC : C w) (hrefused : ∀ e, Q (.error e) w.tick)
    (hmade : ∀ s, mutate w.row = some s → s.valid → (∀ e, Q (.error e) (w.store s).tick) ∧
      wp exec (fun _ => True) C (k s) Q (w.store s).tick) :
    wp exec (fun _ => True) C (update sch mutate k) Q w := by
  refine ⟨hC, fun f _ => ?_⟩
  rcases updateEffect_cases w sch.owner mutate with ⟨e, he⟩ | ⟨s, hm, hs, he⟩
  · cases f <;> simp only [exec, effect, he, Fate.ok_deliver, Fate.fail_deliver,
      Fate.late_deliver] <;> exact hrefused _
  cases f <;> simp only [exec, effect, he, Fate.ok_deliver, Fate.fail_deliver,
    Fate.late_deliver]
  · exact (hmade s hm hs).2
  · exact hrefused _
  · exact (hmade s hm hs).1 _

theorem getStatus_ok {f : Fate} (h : (exec .getStatus f w).1 = .ok s) : s = w.row := by
  cases f with
  | ok =>
    have h' : readStatus w = .ok s := h
    unfold readStatus at h'
    split at h'
    · exact (Except.ok.inj h').symm
    · exact nomatch h'
  | fail | late => exact nomatch h

theorem getStatus_state (f : Fate) (w : World) : (exec .getStatus f w).2 = w.tick := by
  cases f <;> rfl

/-! ## up to the end of the reconciliation -/

/-- the calls that a clear log stays clear under -/
def Op.Calm : Op → Prop
  | .updateOwned _ mutate => NoIntent mutate
  | .applyPendingUpdate _ => False
  | _ => True

abbrev AllCalm (p : Prog α) : Prop := p.All (fun _ _ => True) Op.Calm

variable {g : Status → Status}

theorem noIntent_some (h : ∀ s, (g s).phase = .applyIntent → s.phase = .applyIntent) :
    NoIntent fun s => some (g s) := by
  intro s s' hs hp
  obtain rfl := Option.some.inj hs
  exact h s hp

variable {operation : Operation}

theorem noIntent_stage {policy : Policy} (h : ∀ s, (g s).phase ≠ .applyIntent) :
    NoIntent fun s => (s.stage operation policy).map g := by
  intro s s' hs hp
  obtain ⟨t, -, rfl⟩ := Option.map_eq_some_iff.1 hs
  exact (h t hp).elim

def Stops (r : Except String (Status × Bool)) : Prop := ∀ s b, r = .ok (s, b) → b = true

theorem allCalm_update (hm : NoIntent mutate) (hk : ∀ s, AllCalm (k s)) :
    AllCalm (update sch mutate k) :=
  ⟨hm, fun
    | .error _, _ => trivial
    | .ok s, _ => hk s⟩

theorem allCalm_stopWith (hm : NoIntent mutate) : AllCalm (stopWith sch mutate) :=
  allCalm_update hm fun _ => trivial

theorem noIntent_followPolicy (digest : String → Channel → Nat) (policy : Policy) (now : Time) :
    NoIntent fun s => some (s.followPolicy digest policy now) := by
  refine noIntent_some fun s h => ?_
  unfold Status.followPolicy at h
  dsimp only at h
  split at h
  · split at h <;> exact h
  · split at h <;> exact Phase.noConfusion h

theorem allCalm_syncPolicy (sch : Scheduler) (policy : Policy) (now : Time) :
    AllCalm (syncPolicy sch policy now) := by
  refine ⟨trivial, fun r _ => ?_⟩
  cases r with
  | error e => trivial
  | ok current =>
  show AllCalm (if _ then _ else _)
  split
  · trivial
  · exact allCalm_update (noIntent_followPolicy sch.digest policy now) fun _ => trivial

theorem finish_phase (policy : Policy) (now : Time) (result error : String) (s : Status) :
    (s.finish policy now result error).phase ≠ .applyIntent := by
  show (if _ then Phase.succeeded else Phase.failed) ≠ _
  split <;> exact Phase.noConfusion

theorem allCalm_finishWith {type : String} (h : ∀ s, (g s).phase ≠ .applyIntent) :
    AllCalm (finishWith sch g type) :=
  ⟨noIntent_some fun s hs => (h s hs).elim, fun _ _ => ⟨trivial, fun _ _ => trivial⟩⟩

theorem allCalm_reconcileRoot (sch : Scheduler) (policy : Policy) (now : Time)
    (state : TransactionState) : AllCalm (reconcileRoot sch policy now state) := by
  cases state with
  | finalized | rolledBack => exact allCalm_finishWith (finish_phase policy now _ _)
  | rollbackFailed =>
    exact allCalm_stopWith (noIntent_some fun s hs => (finish_phase policy now _ _ s hs).elim)
  | _ => exact allCalm_stopWith (noIntent_some fun _ => Phase.noConfusion)

theorem allCalm_reconcilePending (sch : Scheduler) (policy : Policy) (status : Status) (now : Time)
    (operation : Operation) : AllCalm (reconcilePending sch policy status now operation) := by
  unfold reconcilePending
  split
  · exact allCalm_stopWith (noIntent_some fun _ => Phase.noConfusion)
  split
  · exact allCalm_stopWith (noIntent_some fun _ => Phase.noConfusion)
  split
  · trivial
  split
  · exact allCalm_stopWith (noIntent_stage fun _ => Phase.noConfusion)
  split
  · exact allCalm_stopWith (noIntent_some fun _ => Phase.noConfusion)
  · exact allCalm_update (noIntent_stage fun _ => Phase.noConfusion) fun _ => trivial

theorem allCalm_reconcileIdle (sch : Scheduler) (status : Status) (now : Time) :
    AllCalm (reconcileIdle sch status now) := by
  unfold reconcileIdle
  split
  · exact allCalm_stopWith (noIntent_some fun _ => Phase.noConfusion)
  split
  · exact allCalm_stopWith (noIntent_some fun _ => Phase.noConfusion)
  · trivial

theorem allCalm_reconcile (sch : Scheduler) (policy : Policy) (status : Status) (now : Time) :
    AllCalm (reconcile sch policy status now) := by
  refine ⟨trivial, fun r _ => ?_⟩
  cases r with
  | error e => exact allCalm_stopWith (noIntent_some fun _ => Phase.noConfusion)
  | ok root =>
  refine ⟨trivial, fun r _ => ?_⟩
  cases r with
  | error e => exact allCalm_stopWith (noIntent_some fun _ => Phase.noConfusion)
  | ok pending =>
  dsimp only
  split
  · exact allCalm_reconcileRoot sch policy now _
  split
  · exact allCalm_reconcilePending sch policy status now _
  · exact allCalm_reconcileIdle sch status now

theorem followPolicy_keeps (digest : String → Channel → Nat) (policy : Policy) (now : Time)
    (h : s.stagedUpdateID ≠ "") : (s.followPolicy digest policy now).phase = s.phase ∧
      (s.followPolicy digest policy now).stagedUpdateID = s.stagedUpdateID := by
  unfold Status.followPolicy
  dsimp only [Status.clearCandidate]
  rw [if_pos h]
  split <;> exact ⟨rfl, rfl⟩

theorem wp_syncPolicy {C : World → Prop} (hC : C w) (htick : C w.tick) (sch : Scheduler)
    (policy : Policy) (now : Time) :
    wp exec (fun _ => True) C (syncPolicy sch policy now) (fun r w' => (∀ s, r = .ok s → s = w'.row) ∧
      (w.row.stagedUpdateID ≠ "" → Same w w')) w := by
  refine ⟨hC, fun f _ => ?_⟩
  rw [getStatus_state]
  cases hr : (exec .getStatus f w).1 with
  | error e => exact ⟨fun s hs => by simp at hs, fun _ => ⟨rfl, rfl, rfl, rfl⟩⟩
  | ok current =>
  obtain rfl := getStatus_ok hr
  show wp exec _ C (if _ then _ else _) _ _
  split
  · exact ⟨fun s hs => (Except.ok.inj hs).symm, fun _ => ⟨rfl, rfl, rfl, rfl⟩⟩
  refine wp_update htick (fun e => ⟨fun s hs => by simp at hs, fun _ => ⟨rfl, rfl, rfl, rfl⟩⟩)
    fun s hs _ => ?_
  have hs' := Option.some.inj hs
  have hkept : w.row.stagedUpdateID ≠ "" → Same w (w.tick.store s).tick := by
    intro hid
    obtain ⟨hphase, hstaged⟩ := followPolicy_keeps sch.digest policy now hid
    rw [← hs']
    show Same w (w.tick.store (w.row.followPolicy sch.digest policy now)).tick
    rw [store_noIntent (w := w.tick) fun hi => hphase.symm.trans hi]
    exact ⟨rfl, hphase, hstaged, rfl⟩
  refine ⟨fun e => ⟨fun s hs => by simp at hs, hkept⟩, fun s' hs' => ?_, hkept⟩
  rw [store_row]
  exact (Except.ok.inj hs').symm

theorem stopWith_stops (sch : Scheduler) (mutate : Status → Option Status) :
    (stopWith sch mutate).Ends Stops := by
  intro answer
  cases answer with
  | error e => intro s b hs; simp at hs
  | ok s' => intro s b hs; exact (Prod.mk.inj (Except.ok.inj hs)).2.symm

theorem reconcileRoot_stops (sch : Scheduler) (policy : Policy) (now : Time)
    (state : TransactionState) : (reconcileRoot sch policy now state).Ends Stops := by
  have hfinish : ∀ g type, (finishWith sch g type).Ends Stops := by
    intro g type answer _ s b hs
    cases answer with
    | error e => simp [Except.map] at hs
    | ok s' => simp only [Except.map, Except.ok.injEq, Prod.mk.injEq] at hs; exact hs.2.symm
  cases state with
  | finalized | rolledBack => exact hfinish _ _
  | _ => exact stopWith_stops sch _

theorem acquire_position (w : World) (owner : String) (now : Time) (f : Fate) :
    (exec (.acquire owner now) f w).2.position = w.position + 1 := by
  have h : (acquireEffect w owner now).2.position = w.position := by
    unfold acquireEffect
    split
    · rfl
    · split <;> rfl
  cases f with
  | fail => rfl
  | ok | late => exact congrArg (· + 1) h

theorem stage_id {policy : Policy} {t : Status} (h : s.stage operation policy = some t) :
    t.stagedUpdateID = operation.updateID := by
  unfold Status.stage at h
  split at h
  · exact nomatch h
  split at h
  · exact nomatch h
  split at h
  · exact nomatch h
  · rw [← Option.some.inj h]

/-- what a cycle keeps under the lease, the whole cycle keeps; the policy is its third call -/
theorem cycle_keeps {I : World → Prop} (hI : ∀ w w', Same w w' → I w → I w') {t : Turn}
    (h : I (w.enter t.input)) (hleased : ∀ w', Same (w.enter t.input) w' → w'.position = 2 → I w' →
      wp exec (fun _ => True) I (leased t.scheduler (t.input.clock 0)) (fun _ => I) w') :
    I (cycle w t) := by
  refine wp_run_state ?_ fun _ _ => trivial
  unfold runOnce
  split
  · exact h
  have htick := hI (w.enter t.input) (w.enter t.input).tick ⟨rfl, rfl, rfl, rfl⟩ h
  refine ⟨h, fun f _ => ⟨htick, fun f2 _ => ?_⟩⟩
  have hsame := exec_passive (o := .acquire t.scheduler.owner (t.input.clock 0)) trivial f2
    (w.enter t.input).tick
  have hpos := acquire_position (w.enter t.input).tick t.scheduler.owner (t.input.clock 0) f2
  have h2 := hI _ _ hsame htick
  show wp exec _ I (acquired t.scheduler (t.input.clock 0)
    (exec (.acquire t.scheduler.owner (t.input.clock 0)) f2 (w.enter t.input).tick).1) _
    (exec (.acquire t.scheduler.owner (t.input.clock 0)) f2 (w.enter t.input).tick).2
  generalize (exec (.acquire t.scheduler.owner (t.input.clock 0)) f2
    (w.enter t.input).tick).2 = w2 at hsame hpos h2 ⊢
  match (exec (.acquire t.scheduler.owner (t.input.clock 0)) f2 (w.enter t.input).tick).1 with
  | .error e => exact h2
  | .ok false => exact h2
  | .ok true =>
    have hsame' : Same (w.enter t.input) w2 := ⟨hsame.calls, hsame.phase, hsame.staged, hsame.input⟩
    refine wp_bind.2 (wp_post ?_ (hleased w2 hsame' hpos h2))
    intro r w3 h3
    -- the lease is given back
    have h4 := hI w3 w3.tick ⟨rfl, rfl, rfl, rfl⟩ h3
    exact ⟨h3, fun f _ => ⟨h4, fun f2 _ => hI _ _ (exec_passive (by exact trivial) f2 w3.tick) h4⟩⟩

/-! ## after the reconciliation -/

structure Plain (g : Status → Status) : Prop where
  staged : ∀ s, (g s).stagedUpdateID = s.stagedUpdateID
  phase : ∀ s, (g s).phase = .applyIntent → s.phase = .applyIntent

/-- `Pre` holds until the request, and `Inv` at every point -/
structure Regime (Pre Inv : World → Prop) : Prop where
  inv : ∀ w, Pre w → Inv w
  same : ∀ w w', Same w w' → Pre w → Pre w'
  checked : ∀ w channel, Pre w → Pre (w.note (.checked channel)).tick
  plain : ∀ g w, Plain g → Pre w → Pre { w with row := g w.row }
  stage : ∀ w s operation, w.input.stage = .ok operation →
    s.stagedUpdateID = operation.updateID → Pre w → Pre { w with row := s }
  dispatch : ∀ sch now w, Pre w →
    wp exec (fun _ => True) Inv (dispatch sch now) (fun _ => Inv) w

namespace Regime
variable {Pre Inv : World → Prop}

abbrev Keeps (Pre Inv : World → Prop) (p : Prog α) : Prop :=
  ∀ w, Pre w → wp exec (fun _ => True) Inv p (fun _ => Inv) w

section
variable (R : Regime Pre Inv)
include R

theorem done (a : α) : Keeps Pre Inv (.done a : Prog α) := fun w h => R.inv w h

theorem tick (h : Pre w) : Pre w.tick := R.same w _ ⟨rfl, rfl, rfl, rfl⟩ h

theorem passive {o : Op} {k : o.Ret → Prog α} (ho : o.Passive) (hk : ∀ r, Keeps Pre Inv (k r)) :
    Keeps Pre Inv (.call o k) :=
  fun w h => ⟨R.inv w h, fun f _ => hk _ _ (R.same w _ (exec_passive ho f w) h)⟩

theorem update (hg : Plain g) (hk : ∀ s, Keeps Pre Inv (k s)) :
    Keeps Pre Inv (update sch (fun s => some (g s)) k) := by
  intro w h
  refine wp_update (R.inv w h) (fun _ => R.inv _ (R.tick h)) fun s hs _ => ?_
  obtain rfl := Option.some.inj hs
  have hw : Pre (w.store (g w.row)).tick := by
    rw [store_noIntent (hg.phase w.row)]
    exact R.tick (R.plain g w hg h)
  exact ⟨fun _ => R.inv _ hw, hk _ _ hw⟩

theorem write (hg : Plain g) : Keeps Pre Inv (write sch g) :=
  R.update hg fun _ => R.done _

theorem maintenance {now : Time} {k : Prog (Except String Unit)} (hk : Keeps Pre Inv k) :
    Keeps Pre Inv (maintenance sch now k) := by
  refine R.passive trivial fun r => ?_
  cases r with
  | error e => exact R.write ⟨fun _ => rfl, fun _ => Phase.noConfusion⟩
  | ok m =>
  show Keeps Pre Inv (if _ then _ else _)
  split
  · exact R.write ⟨fun _ => rfl, fun _ => Phase.noConfusion⟩
  · exact hk

theorem prepareApply (sch : Scheduler) (now : Time) : Keeps Pre Inv (prepareApply sch now) := by
  have hdeferred : ∀ code, Keeps Pre Inv (Automation.write sch (Status.applyDeferred now code)) :=
    fun code => R.write ⟨fun _ => rfl, fun _ => Phase.noConfusion⟩
  refine R.passive trivial fun r => ?_
  cases r with
  | error e => exact hdeferred _
  | ok reason =>
  show Keeps Pre Inv (if _ then _ else _)
  split
  · exact hdeferred _
  refine R.passive trivial fun r => ?_
  cases r with
  | error e => exact hdeferred _
  | ok u =>
  refine R.passive trivial fun r => ?_
  cases r with
  | error e => exact hdeferred _
  | ok u => exact R.dispatch sch now

theorem maybeApply (sch : Scheduler) (policy : Policy) (status : Status) (now : Time) :
    Keeps Pre Inv (maybeApply sch policy status now) := by
  unfold Automation.maybeApply
  split
  · exact R.write ⟨fun _ => rfl, fun _ => Phase.noConfusion⟩
  split
  · exact R.update ⟨fun _ => rfl, fun _ => Phase.noConfusion⟩ fun _ =>
      R.passive trivial fun _ => R.done _
  split
  · exact R.write ⟨fun _ => rfl, fun _ => Phase.noConfusion⟩
  refine R.passive trivial fun r => ?_
  cases r with
  | error e => exact R.done _
  | ok latest =>
  show Keeps Pre Inv (if _ then _ else _)
  split
  · exact R.done _
  · exact R.maintenance (R.prepareApply sch now)

variable (sch : Scheduler)

/-- the operation is the one that the remote source staged in this cycle -/
theorem adoptStaged (policy : Policy) (completed : Time) (h : Pre w)
    (hstage : w.input.stage = .ok operation) :
    wp exec (fun _ => True) Inv (adoptStaged sch policy operation completed) (fun _ => Inv) w := by
  unfold Automation.adoptStaged
  split
  · refine R.write ?_ w h
    exact ⟨fun _ => rfl, fun _ => Phase.noConfusion⟩
  refine wp_update (R.inv w h) (fun _ => R.inv _ (R.tick h)) fun s hs _ => ?_
  obtain ⟨t, ht, hts⟩ := Option.map_eq_some_iff.1 hs
  have hphase : s.phase ≠ .applyIntent := by rw [← hts]; exact Phase.noConfusion
  have ht' := stage_id ht
  have hid : s.stagedUpdateID = operation.updateID := by rw [← hts]; exact ht'
  have hstored : Pre (w.store s).tick := by
    rw [store_noIntent fun hi => (hphase hi).elim]
    exact R.tick (R.stage w s operation hstage hid h)
  refine ⟨fun _ => R.inv _ hstored, R.inv _ hstored, fun f _ => ?_⟩
  exact R.maybeApply sch policy s completed _ (R.tick hstored)

theorem stageAnswered (sch : Scheduler) (policy : Policy) (completed : Time) (h : Pre w) :
    wp exec (fun _ => True) Inv (stageAnswered sch policy completed w.input.stage)
      (fun _ => Inv) w := by
  match hstage : w.input.stage with
  | .error .updatePending =>
    refine R.write ?_ w h
    exact ⟨fun _ => rfl, fun _ => Phase.noConfusion⟩
  | .error (.other _) =>
    refine R.write ?_ w h
    exact ⟨fun _ => rfl, fun _ => Phase.noConfusion⟩
  | .ok operation => exact R.adoptStaged sch policy completed h hstage

theorem stageCandidate (policy : Policy) (completed : Time) :
    Keeps Pre Inv (stageCandidate sch policy completed) := by
  refine R.maintenance (R.update ⟨fun _ => rfl, fun _ => Phase.noConfusion⟩ fun _ w h => ?_)
  have h1 : Pre w.tick := R.tick h
  refine ⟨R.inv w h, fun f _ => ⟨R.inv _ h1, fun f2 _ => ?_⟩⟩
  exact R.stageAnswered sch policy _ (R.tick h1)

theorem checkAnswered (sch : Scheduler) (policy : Policy) (completed : Time)
    (answer : Except String Available) : Keeps Pre Inv (checkAnswered sch policy completed answer) := by
  cases answer with
  | error e => exact R.write ⟨fun _ => rfl, fun _ => Phase.noConfusion⟩
  | ok available =>
  unfold Automation.checkAnswered
  dsimp only
  split
  · exact R.write ⟨fun _ => rfl, fun _ => Phase.noConfusion⟩
  split
  · exact R.write ⟨fun _ => rfl, fun _ => Phase.noConfusion⟩
  refine R.update ⟨fun _ => rfl, fun _ => Phase.noConfusion⟩ fun _ =>
    R.passive trivial fun _ => ?_
  split
  · exact R.done _
  · exact R.stageCandidate sch policy completed

theorem checkAndMaybeStage (policy : Policy) (now : Time) :
    Keeps Pre Inv (checkAndMaybeStage sch policy now) := by
  refine R.maintenance (R.update ⟨fun _ => rfl, fun _ => Phase.noConfusion⟩ fun _ w h => ?_)
  have h1 := R.checked w policy.channel h
  refine ⟨R.inv w h, fun f _ => ⟨R.inv _ h1, fun f2 _ => ?_⟩⟩
  exact R.checkAnswered sch policy _ _ _ (R.tick h1)

theorem proceed (policy : Policy) (status : Status) (now : Time) :
    Keeps Pre Inv (proceed sch policy status now) := by
  unfold Automation.proceed
  split
  · refine R.write ⟨fun s => ?_, fun s => ?_⟩
    · split <;> rfl
    split
    · exact Phase.noConfusion
    · exact id
  split
  · split
    · exact R.maybeApply sch policy status now
    split
    · exact R.done _
    · exact R.maybeApply sch policy status now
  · split
    · exact R.done _
    · exact R.checkAndMaybeStage sch policy now

end

end Regime

end GatewayVpn.Automation
