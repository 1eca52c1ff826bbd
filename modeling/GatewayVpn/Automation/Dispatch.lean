import GatewayVpn.Automation.Rules

/-!
# Automatic updates: an update is handed over once

Before the scheduler asks the engine to apply an update it writes `APPLY_INTENT`, so that a cycle
after a crash finds in the row that the request may have been made.  A cycle that starts from such a
row never makes the request again.  But the memory is the phase, and the phase is also where the
scheduler writes that something else went wrong: when `UpdateStatus` or the stager cannot answer, the
row becomes `SUPPRESSED` or `FAILED`, and the cycle after that takes the update for a fresh one.
-/

namespace GatewayVpn.Automation

open Durable
open Update (TransactionState)

/-! ## the log -/

def terminal : TransactionState → Bool
  | .finalized | .rolledBack | .rollbackFailed => true
  | _ => false

def Call.closes (x : String) : Call → Bool
  | .reported root => root.updateID = x && terminal root.state
  | _ => false

/-- the calls since the end of the update was last reported -/
def since (x : String) (calls : List Call) : List Call := calls.takeWhile fun c => !c.closes x

def sent (x : String) (calls : List Call) : Bool :=
  (since x calls).any fun c => c = .dispatched x

/-- the update was intended or requested, and no end of it was reported -/
def outstanding (x : String) (calls : List Call) : Bool :=
  (since x calls).any fun c => c = .intended x || c = .dispatched x

/-- no update is requested while an earlier request for it has no reported end -/
def once : List Call → Bool
  | [] => true
  | .dispatched x :: older => !sent x older && once older
  | _ :: older => once older

/-- what is asked of every reached state -/
structure AtMostOnce (w : World) : Prop where
  once : once w.calls
  fresh : ∀ x, outstanding x w.calls → w.row.phase = .staged → w.row.stagedUpdateID ≠ x

variable {x : String} {calls : List Call}

theorem outstanding_of_sent (h : sent x calls) : outstanding x calls := by
  obtain ⟨c, hc, hx⟩ := List.any_eq_true.1 h
  exact List.any_eq_true.2 ⟨c, hc, by simp_all⟩

def Call.Quiet : Call → Prop
  | .reported _ | .checked _ => True
  | .intended _ | .dispatched _ => False

variable {c : Call}

theorem outstanding_quiet (hc : c.Quiet) (h : outstanding x (c :: calls)) :
    outstanding x calls := by
  unfold outstanding since at h ⊢
  rw [List.takeWhile_cons] at h
  split at h
  · cases c with
    | reported | checked => simpa using h
    | intended | dispatched => exact hc.elim
  · simp at h

theorem once_quiet (hc : c.Quiet) (h : once calls) : once (c :: calls) := by
  cases c with
  | reported | checked => exact h
  | intended | dispatched => exact hc.elim

variable {y : String}

theorem outstanding_intended :
    outstanding x (.intended y :: calls) = (decide (y = x) || outstanding x calls) := by
  simp [outstanding, since, Call.closes]

theorem outstanding_dispatched :
    outstanding x (.dispatched y :: calls) = (decide (y = x) || outstanding x calls) := by
  simp [outstanding, since, Call.closes]

theorem outstanding_closed (hc : c.closes x) : outstanding x (c :: calls) = false := by
  simp [outstanding, since, hc]

/-! ## invariants -/

structure Clear (w : World) : Prop where
  once : once w.calls
  none : ∀ x, outstanding x w.calls = false

structure Tracked (w : World) : Prop where
  once : once w.calls
  row : ∀ x, outstanding x w.calls →
    x ≠ "" ∧ w.row.stagedUpdateID = x ∧ w.row.phase.handedOver

variable {w : World}

theorem Clear.tracked (h : Clear w) : Tracked w :=
  ⟨h.once, fun x hx => by rw [h.none x] at hx; simp at hx⟩

theorem Tracked.atMostOnce (h : Tracked w) : AtMostOnce w := by
  refine ⟨h.once, fun x hx hphase hid => ?_⟩
  have hover := (h.row x hx).2.2
  rw [hphase] at hover
  exact Bool.noConfusion hover

variable {w' : World}

theorem Tracked.same (h : Tracked w) (hs : Same w w') : Tracked w' := by
  refine ⟨by rw [hs.calls]; exact h.once, fun x hx => ?_⟩
  rw [hs.calls] at hx
  rw [hs.phase, hs.staged]
  exact h.row x hx

theorem Clear.quiet (h : Clear w) (hc : c.Quiet) (hw : w'.calls = c :: w.calls) : Clear w' := by
  refine ⟨by rw [hw]; exact once_quiet hc h.once, fun x => ?_⟩
  rw [hw, Bool.eq_false_iff]
  intro hx
  have := outstanding_quiet hc hx
  rw [h.none x] at this
  exact Bool.noConfusion this

theorem Clear.same (h : Clear w) (hw : w'.calls = w.calls) : Clear w' :=
  ⟨by rw [hw]; exact h.once, fun x => by rw [hw]; exact h.none x⟩

/-! ## a cycle with nothing outstanding -/

theorem exec_calm {o : Op} (ho : o.Calm) (f : Fate) (h : Clear w) : Clear (exec o f w).2 := by
  cases o with
  | applyPendingUpdate => exact ho.elim
  | updateOwned owner mutate =>
    rcases updateEffect_cases w owner mutate with ⟨e, he⟩ | ⟨s, hm, hs, he⟩
    · cases f <;> exact h.same (by simp [exec, effect, he, World.tick])
    · have hstore := store_noIntent (ho w.row s hm)
      cases f <;> exact h.same (by simp [exec, effect, he, hstore, World.tick])
  | updateStatus =>
    show Clear (noteReport w).tick
    unfold noteReport
    split
    · exact h.quiet (c := .reported _) trivial rfl
    · exact h.same rfl
  | check channel => exact h.quiet (c := .checked channel) trivial rfl
  | _ => exact h.same (exec_passive (by exact trivial) f w).calls

variable {α : Type}

theorem AllCalm.wp {p : Prog α} (hp : AllCalm p) (h : Clear w) :
    wp exec (fun _ => True) Clear p (fun _ => Clear) w :=
  wp_of_all (fun _ _ _ => trivial) (fun _ f _ ho _ hs => exec_calm ho f hs) hp h

structure Retains (s s' : Status) : Prop where
  staged : s'.stagedUpdateID = s.stagedUpdateID
  handed : s'.phase.handedOver
  phase : s'.phase = .applyIntent → s.phase = .applyIntent

variable {s : Status}

theorem Tracked.retains (h : Tracked w) (hs : Retains w.row s) : Tracked (w.store s).tick := by
  rw [store_noIntent hs.phase]
  exact ⟨h.once, fun x hx => ⟨(h.row x hx).1, hs.staged.trans (h.row x hx).2.1, hs.handed⟩⟩

theorem Tracked.tick (h : Tracked w) : Tracked w.tick := h.same ⟨rfl, rfl, rfl, rfl⟩

theorem Tracked.wp_write (h : Tracked w) {sch : Scheduler} {g : Status → Status}
    (hg : ∀ s, Retains s (g s)) :
    wp exec (fun _ => True) Tracked (write sch g) (fun _ => Tracked) w := by
  refine wp_update h (fun _ => h.tick) fun s hs _ => ?_
  obtain rfl := Option.some.inj hs
  have hw := h.retains (hg w.row)
  exact ⟨fun _ => hw, hw⟩

theorem Tracked.wp_passive (h : Tracked w) {o : Op} {k : o.Ret → Prog α} {Q : α → World → Prop}
    (ho : o.Passive) (hk : ∀ r w', Same w w' → wp exec (fun _ => True) Tracked (k r) Q w') :
    wp exec (fun _ => True) Tracked (.call o k) Q w :=
  ⟨h, fun f _ => hk _ _ (exec_passive ho f w)⟩

/-- the request for `x` may be made: the row remembers it and nothing else is outstanding -/
structure Ready (x : String) (w : World) : Prop where
  once : once w.calls
  unsent : sent x w.calls = false
  only : ∀ y, outstanding y w.calls → y = x
  named : x ≠ ""
  staged : w.row.stagedUpdateID = x
  handed : w.row.phase.handedOver

theorem Ready.tracked (h : Ready x w) : Tracked w := by
  refine ⟨h.once, fun y hy => ?_⟩
  obtain rfl := h.only y hy
  exact ⟨h.named, h.staged, h.handed⟩

theorem Ready.same (h : Ready x w) (hs : Same w w') : Ready x w' := by
  obtain ⟨hc, hp, hi, -⟩ := hs
  refine ⟨?_, ?_, ?_, h.named, hi.trans h.staged, ?_⟩
  · rw [hc]; exact h.once
  · rw [hc]; exact h.unsent
  · rw [hc]; exact h.only
  · rw [hp]; exact h.handed

theorem Ready.dispatched (h : Ready x w) : Tracked (w.note (.dispatched x)).tick := by
  refine ⟨?_, fun y hy => ?_⟩
  · show Automation.once (.dispatched x :: w.calls)
    simp [Automation.once, h.unsent, h.once]
  have hy' : outstanding y (.dispatched x :: w.calls) := hy
  rw [outstanding_dispatched, Bool.or_eq_true, decide_eq_true_eq] at hy'
  obtain rfl : y = x := hy'.elim Eq.symm (h.only y)
  exact ⟨h.named, h.staged, h.handed⟩

theorem Clear.unsent (h : Clear w) (x : String) : sent x w.calls = false := by
  rw [Bool.eq_false_iff]
  intro hx
  have := outstanding_of_sent hx
  rw [h.none x] at this
  exact Bool.noConfusion this

theorem Clear.only (h : Clear w) (hy : outstanding y w.calls) : y = x := by
  rw [h.none y] at hy
  exact Bool.noConfusion hy

theorem staged_of_valid (h : s.valid) (hi : s.applyIntentAt ≠ none) : s.stagedUpdateID ≠ "" := by
  simp only [Status.valid, Status.validStaging, Bool.and_eq_true, Bool.or_eq_true,
    decide_eq_true_eq] at h
  obtain ⟨-, -, h⟩ := h
  rcases h with h | h
  · exact h
  · exact (hi h.1).elim

theorem Clear.ready (h : Clear w) (hphase : s.phase = .applyIntent) (hs : s.stagedUpdateID ≠ "") :
    Ready s.stagedUpdateID (w.store s).tick := by
  have hover : s.phase.handedOver := by rw [hphase]; rfl
  unfold World.store
  split
  · refine ⟨h.once, ?_, fun y hy => ?_, hs, rfl, hover⟩
    · show sent _ (.intended s.stagedUpdateID :: w.calls) = false
      exact h.unsent _
    have hy' : outstanding y (.intended s.stagedUpdateID :: w.calls) := hy
    rw [outstanding_intended, Bool.or_eq_true, decide_eq_true_eq] at hy'
    exact hy'.elim Eq.symm fun hy => h.only hy
  · exact ⟨h.once, h.unsent _, fun y hy => h.only hy, hs, rfl, hover⟩

theorem dispatch_tracked (sch : Scheduler) (now : Time) :
    Regime.Keeps Clear Tracked (dispatch sch now) := by
  intro w h
  refine wp_update h.tracked (fun _ => h.tracked.tick) fun s hs hvalid => ?_
  obtain rfl := Option.some.inj hs
  have hready := h.ready rfl (staged_of_valid hvalid (by simp))
  refine ⟨fun _ => hready.tracked, hready.tracked.wp_passive trivial fun _ w1 h1 => ?_⟩
  have hready1 := hready.same h1
  refine ⟨hready1.tracked, fun f _ => ?_⟩
  refine hready1.dispatched.wp_passive trivial fun at_ w2 h2 => ?_
  have htracked := hready1.dispatched.same h2
  cases (exec (.applyPendingUpdate _) f w1).1 with
  | error e => exact htracked.wp_write fun s => ⟨rfl, rfl, Phase.noConfusion⟩
  | ok u => exact htracked.wp_write fun s => ⟨rfl, rfl, Phase.noConfusion⟩

theorem regime_clear : Regime Clear Tracked where
  inv _ h := h.tracked
  same _ _ hs h := h.same hs.calls
  checked _ channel h := h.quiet (c := .checked channel) trivial rfl
  plain _ _ _ h := h.same rfl
  stage _ _ _ _ _ h := h.same rfl
  dispatch := dispatch_tracked

/-- up to the end of the reconciliation nothing is requested, and then the regime applies -/
theorem clear_attempt {β : Type} {p : Prog (Except String α)} {k : α → Prog (Except String β)}
    (hp : AllCalm p) (hk : ∀ a, Regime.Keeps Clear Tracked (k a)) :
    Regime.Keeps Clear Tracked (p.attempt (fun e => .done (.error e)) k) := fun _ h =>
  wp_attempt (R := fun _ => Clear) (wp_mono (fun _ => Clear.tracked) (fun _ _ h => h) (hp.wp h))
    (fun _ _ ht => ht.tracked) fun a t ht => hk a t ht

theorem clear_leased (sch : Scheduler) (now : Time) :
    Regime.Keeps Clear Tracked (leased sch now) := by
  refine regime_clear.passive trivial fun r => ?_
  cases r with
  | error e => exact regime_clear.done _
  | ok policy =>
  refine clear_attempt (allCalm_syncPolicy sch policy now) fun status =>
    clear_attempt (allCalm_reconcile sch policy status now) fun r => ?_
  split
  · exact regime_clear.done _
  · exact regime_clear.proceed sch policy r.1 now

/-! ## a cycle with an outstanding update -/

/-- the reconciliation finds an answer under which the row goes on naming the update as handed
over, or the reported end of it; the policy is the third call of a cycle -/
def Input.tracks (input : Input) (row : Status) : Bool :=
  match input.updateStatus, input.stager with
  | .ok root, .ok pending =>
    root.any (fun r => r.updateID = row.stagedUpdateID) ||
      match pending with
      | none => row.phase ≠ .outcomeUnknown
      | some operation =>
        operation.sourceKind = .automaticGitHub &&
          (row.stagedUpdateID = operation.updateID ||
            match input.policy 2 with
            | .ok policy =>
              operation.sourceChannel = some policy.channel && policy.automaticDownloadEnabled
            | .error _ => true)
  | _, _ => false

/-- the condition on a cycle: if the row says that an update was handed over, the cycle gets
answers that leave this memory alone -/
def Remembers (w : World) (t : Turn) : Prop :=
  w.row.phase.handedOver → w.row.stagedUpdateID ≠ "" → t.input.tracks w.row

instance (w : World) (t : Turn) : Decidable (Remembers w t) :=
  inferInstanceAs (Decidable (w.row.phase.handedOver → w.row.stagedUpdateID ≠ "" →
    t.input.tracks w.row))

theorem tracks_same {input : Input} {row row' : Status} (hp : row'.phase = row.phase)
    (hs : row'.stagedUpdateID = row.stagedUpdateID) (h : input.tracks row) : input.tracks row' := by
  unfold Input.tracks at h ⊢
  rw [hp, hs]
  exact h

theorem Tracked.wp_stopWith (h : Tracked w) {sch : Scheduler} {g : Status → Status}
    (hg : ∀ s, Retains s (g s)) : wp exec (fun _ => True) Tracked (stopWith sch fun s => some (g s))
      (fun r w' => Tracked w' ∧ Stops r) w := by
  refine wp_update h (fun e => ⟨h.tick, fun s b hs => by simp at hs⟩) fun s hs _ => ?_
  obtain rfl := Option.some.inj hs
  have hw := h.retains (hg w.row)
  refine ⟨fun e => ⟨hw, fun s b hs => by simp at hs⟩, hw, fun s b hs => ?_⟩
  obtain ⟨-, rfl⟩ := Prod.mk.inj (Except.ok.inj hs)
  rfl

theorem retains_outcomeUnknown (now : Time) (code : String) (s : Status) :
    Retains s (s.outcomeUnknown now code) := ⟨rfl, rfl, Phase.noConfusion⟩

theorem wp_reconcileRoot (h : Tracked w) (sch : Scheduler) (policy : Policy) (now : Time)
    (state : TransactionState) (hclear : terminal state → Clear w) :
    wp exec (fun _ => True) Tracked (reconcileRoot sch policy now state)
      (fun r w' => Tracked w' ∧ Stops r) w := by
  by_cases hstate : terminal state
  · have hcalm := (allCalm_reconcileRoot sch policy now state).wp (hclear hstate)
    have hends : wp exec (fun _ => True) (fun _ => True) (reconcileRoot sch policy now state)
        (fun r _ => Stops r) w := wp_of_ends (reconcileRoot_stops sch policy now state) w
    exact wp_mono (fun t ht => ht.1.tracked) (fun r t ht => ⟨ht.1.tracked, ht.2⟩)
      (wp_and hcalm hends)
  · cases state with
    | finalized | rolledBack | rollbackFailed => exact (hstate rfl).elim
    | _ => exact h.wp_stopWith fun s => ⟨rfl, rfl, Phase.noConfusion⟩

variable {status : Status}

theorem wp_reconcilePending (h : Tracked w) (sch : Scheduler) {policy : Policy} (now : Time)
    {operation : Operation} (hover : status.phase.handedOver)
    (hid : status.stagedUpdateID ≠ "") (hkind : operation.sourceKind = .automaticGitHub)
    (hop : status.stagedUpdateID = operation.updateID ∨
      operation.sourceChannel = some policy.channel ∧ policy.automaticDownloadEnabled) :
    wp exec (fun _ => True) Tracked (reconcilePending sch policy status now operation)
      (fun r w' => Tracked w' ∧ Stops r) w := by
  unfold reconcilePending
  rw [if_neg (not_not.2 hkind)]
  by_cases hsame : status.stagedUpdateID = operation.updateID
  · rw [if_pos ⟨hsame, hover⟩]
    exact h.wp_stopWith fun s => retains_outcomeUnknown now _ s
  obtain ⟨hchannel, hdownload⟩ := hop.resolve_left hsame
  rw [if_neg fun hc => hsame hc.1, if_neg fun hc => hsame hc.1,
    if_neg (by simp [hchannel, hdownload]), if_pos ⟨hid, hsame⟩]
  exact h.wp_stopWith fun s => retains_outcomeUnknown now _ s

theorem wp_reconcileIdle (h : Tracked w) (sch : Scheduler) (now : Time)
    (hover : status.phase.handedOver) (hphase : status.phase ≠ .outcomeUnknown) :
    wp exec (fun _ => True) Tracked (reconcileIdle sch status now)
      (fun r w' => Tracked w' ∧ Stops r) w := by
  have hactive : status.phase = .applyIntent ∨ status.phase = .applyDispatched := by
    cases hp : status.phase with
    | applyIntent => exact .inl rfl
    | applyDispatched => exact .inr rfl
    | outcomeUnknown => exact (hphase hp).elim
    | _ => rw [hp] at hover; exact Bool.noConfusion hover
  unfold reconcileIdle
  rw [if_pos hactive]
  exact h.wp_stopWith fun s => retains_outcomeUnknown now _ s

/-- a report leaves the invariant, and clears the log when it is the end of what is outstanding -/
theorem Tracked.reported (h : Tracked w) (root : RootStatus) : Tracked (w.note (.reported root)) ∧
      (root.updateID = w.row.stagedUpdateID → terminal root.state →
        Clear (w.note (.reported root))) := by
  have hquiet : (Call.reported root).Quiet := trivial
  refine ⟨⟨once_quiet hquiet h.once, fun x hx => h.row x (outstanding_quiet hquiet hx)⟩, ?_⟩
  intro hid hend
  refine ⟨once_quiet hquiet h.once, fun x => ?_⟩
  rw [Bool.eq_false_iff]
  intro hx
  -- what is outstanding is what the row names, and the report closes it
  have hrow := (h.row x (outstanding_quiet hquiet hx)).2.1
  have hcloses : (Call.reported root).closes x := by
    simp [Call.closes, hid, hrow, hend]
  have hx' : outstanding x (.reported root :: w.calls) := hx
  rw [outstanding_closed hcloses] at hx'
  exact Bool.noConfusion hx'

theorem Tracked.noteReport (h : Tracked w) {root : Option RootStatus}
    (hroot : w.input.updateStatus = .ok root) :
    Tracked (Automation.noteReport w).tick ∧ (Automation.noteReport w).tick.input = w.input ∧
      ∀ r, root = some r → r.updateID = w.row.stagedUpdateID → terminal r.state →
        Clear (Automation.noteReport w).tick := by
  unfold Automation.noteReport
  rw [hroot]
  cases root with
  | none => exact ⟨h.tick, rfl, fun r hr => by simp at hr⟩
  | some r =>
  refine ⟨(h.reported r).1.tick, rfl, fun r' hr hid hend => ?_⟩
  obtain rfl := Option.some.inj hr
  exact ((h.reported r).2 hid hend).same rfl

/-- **From a row that remembers an update the reconciliation ends the cycle.** -/
theorem wp_reconcile (h : Tracked w) (sch : Scheduler) {policy : Policy} (now : Time)
    (hp : status.phase = w.row.phase) (hs : status.stagedUpdateID = w.row.stagedUpdateID)
    (hover : w.row.phase.handedOver) (hid : w.row.stagedUpdateID ≠ "")
    (hpolicy : w.input.policy 2 = .ok policy) (htracks : w.input.tracks w.row) :
    wp exec (fun _ => True) Tracked (reconcile sch policy status now)
      (fun r w' => Tracked w' ∧ Stops r) w := by
  unfold Input.tracks at htracks
  rw [hpolicy, ← hs, ← hp] at htracks
  rw [← hp] at hover
  rw [← hs] at hid
  split at htracks
  case h_2 => exact Bool.noConfusion htracks
  case h_1 root pending hroot hpending =>
    refine ⟨h, fun f _ => ?_⟩
    have hanswer : (exec .updateStatus f w).1 = .ok root := hroot
    rw [hanswer]
    obtain ⟨htracked, hinput, hclear⟩ := h.noteReport hroot
    rw [← hs] at hclear
    show wp exec _ Tracked _ _ (noteReport w).tick
    generalize (noteReport w).tick = w1 at htracked hclear hinput ⊢
    refine ⟨htracked, fun f _ => ?_⟩
    have hstager : (exec .stagerStatus f w1).1 = .ok pending := by
      show w1.input.stager = _
      rw [hinput, hpending]
    rw [hstager]
    have htracked2 : Tracked (exec .stagerStatus f w1).2 := htracked.tick
    have hclear2 : ∀ r, root = some r → r.updateID = status.stagedUpdateID → terminal r.state →
        Clear (exec .stagerStatus f w1).2 := fun r h1 h2 h3 => (hclear r h1 h2 h3).same rfl
    generalize (exec .stagerStatus f w1).2 = w2 at htracked2 hclear2 ⊢
    split
    case h_1 r hr =>
      obtain ⟨hsome, hnames⟩ := Option.filter_eq_some_iff.1 hr
      have hnames' : r.updateID = status.stagedUpdateID := by simpa [hid] using hnames
      exact wp_reconcileRoot htracked2 sch policy now r.state fun hend =>
        hclear2 r hsome hnames' hend
    case h_2 hr =>
      have hnone : root.any (fun r => r.updateID = status.stagedUpdateID) = false := by
        cases root with
        | none => rfl
        | some r => simpa [Option.filter, hid] using hr
      rw [hnone, Bool.false_or] at htracks
      cases pending with
      | none => exact wp_reconcileIdle htracked2 sch now hover (by simpa using htracks)
      | some operation =>
      simp only [Bool.and_eq_true, Bool.or_eq_true, decide_eq_true_eq] at htracks
      exact wp_reconcilePending htracked2 sch now hover hid htracks.1 htracks.2

theorem wp_leased (h : Tracked w) (sch : Scheduler) (now : Time) (hover : w.row.phase.handedOver)
    (hid : w.row.stagedUpdateID ≠ "") (hpos : w.position = 2) (htracks : w.input.tracks w.row) :
    wp exec (fun _ => True) Tracked (leased sch now) (fun _ => Tracked) w := by
  refine ⟨h, fun f _ => ?_⟩
  have hstate : (exec .getPolicy f w).2 = w.tick := by cases f <;> rfl
  have hread : ∀ policy, (exec .getPolicy f w).1 = .ok policy → w.input.policy 2 = .ok policy := by
    intro policy hp
    cases f with
    | fail | late => exact nomatch hp
    | ok =>
    have hp' : readPolicy w = .ok policy := hp
    unfold readPolicy at hp'
    rw [hpos] at hp'
    split at hp'
    · exact nomatch hp'
    rename_i p hpolicy
    split at hp'
    · rw [hpolicy, Except.ok.inj hp']
    · exact nomatch hp'
  rw [hstate]
  cases hr : (exec .getPolicy f w).1 with
  | error e => exact h.tick
  | ok policy =>
  have hpolicy := hread policy hr
  refine wp_attempt (wp_syncPolicy h.tick h.tick.tick sch policy now)
    (fun e t ht => h.tick.same (ht.2 hid)) ?_
  rintro status w1 ⟨hstatus, hkept⟩
  obtain rfl := hstatus status rfl
  have hsame := hkept hid
  have hrow : w1.input.tracks w1.row := by
    rw [hsame.input]
    exact tracks_same hsame.phase hsame.staged htracks
  refine wp_attempt (wp_reconcile (h.tick.same hsame) sch now rfl rfl ?_ ?_ ?_ hrow) (fun e t ht => ht.1) ?_
  · rw [hsame.phase]; exact hover
  · rw [hsame.staged]; exact hid
  · rw [hsame.input]; exact hpolicy
  rintro ⟨s, b⟩ t ⟨ht, hstops⟩
  obtain rfl := hstops s b rfl
  exact ht

/-! ## runs -/

theorem tracked_leased (h : Tracked w) (sch : Scheduler) (now : Time) (hpos : w.position = 2)
    (ht : w.row.phase.handedOver → w.row.stagedUpdateID ≠ "" → w.input.tracks w.row) :
    wp exec (fun _ => True) Tracked (leased sch now) (fun _ => Tracked) w := by
  by_cases hx : ∃ x, outstanding x w.calls
  · obtain ⟨x, hx⟩ := hx
    obtain ⟨hne, rfl, hover⟩ := h.row x hx
    exact wp_leased h sch now hover hne hpos (ht hover hne)
  · exact clear_leased sch now w ⟨h.once, fun x => Bool.eq_false_iff.2 fun hx' => hx ⟨x, hx'⟩⟩

theorem tracked_cycle (w : World) (t : Turn) (h : Tracked w) (ht : Remembers w t) :
    Tracked (cycle w t) := by
  refine cycle_keeps (fun _ _ hs h => h.same hs) ⟨h.once, h.row⟩ fun w' hsame hpos h' => ?_
  refine tracked_leased h' t.scheduler _ hpos fun hover hid => ?_
  -- taking the lease has not touched what the condition is about
  rw [hsame.phase] at hover
  rw [hsame.staged] at hid
  rw [hsame.input]
  exact tracks_same hsame.phase hsame.staged (ht hover hid)

/-- **In a run of cycles that remember, an update is requested at most once before its end is
reported, and none that is outstanding is taken for a fresh one**; cycles may be cut off and writes
may fail anywhere. -/
theorem requested_once {w : World} (hw : w.calls = []) {ts : List Turn}
    (h : Throughout cycle Remembers w ts) : AtMostOnce (ts.foldl cycle w) := by
  have hstart : Tracked w := by
    refine ⟨by rw [hw]; rfl, fun x hx => ?_⟩
    rw [hw] at hx
    exact Bool.noConfusion hx
  exact (h.invariant tracked_cycle hstart).atMostOnce

theorem requested_once_pending :
    let w := [fullTurn (sampleInput 1), fullTurn (sampleInput 2)].foldl cycle sampleWorld
    AtMostOnce w ∧ sent sampleUpdateID w.calls ∧ w.row.phase = .outcomeUnknown :=
  ⟨requested_once rfl ⟨by decide +kernel, by decide +kernel, trivial⟩, by decide +kernel,
    by decide +kernel⟩

/-- the second cycle gets no answer from `UpdateStatus`: the row becomes `SUPPRESSED`, and the third
cycle stages the update afresh and requests it again -/
theorem requested_twice :
    ¬ AtMostOnce ([fullTurn (sampleInput 1),
      fullTurn { sampleInput 2 with updateStatus := .error "timeout" },
      fullTurn (sampleInput 3)].foldl cycle sampleWorld) := by
  intro h
  exact absurd h.once (by decide +kernel)

end GatewayVpn.Automation
