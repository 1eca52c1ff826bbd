import GatewayVpn.ModemRecovery.Controller

/-!
# The cooldown of a finished attempt

`cooldown_until` holds the end of the cooldown of the last attempt, and also the time of the next
check.  An automatic recovery looks at it before it does anything else.  A manual request does not:
when the ladder has no action for it, or when `BeginAttempt` refuses the action because of the
cooldown, `SetWaiting` overwrites the column, and the next observation starts an attempt that the
cooldown should have held back.
-/

namespace GatewayVpn.ModemRecovery

open Durable List Function World

/-! ## events -/

def Event.excuses (uplinkID : String) : Event → Bool
  | .healthy u _ => u = uplinkID
  | .policyUpdated u _ => u = uplinkID
  | _ => false

/-- an attempt finished at `t` with the cooldown `c`, and nothing has excused the uplink since -/
def Pending (uplinkID : String) (t c : Time) (events : List Event) : Prop :=
  ∃ id newer older, events = newer ++ .finished uplinkID id t c :: older ∧
    ∀ e ∈ newer, e.excuses uplinkID = false

def Respected (events : List Event) : Prop :=
  ∀ newer uplinkID id s older, events = newer ++ .started uplinkID id s :: older →
    ∀ t c, Pending uplinkID t c older → t + c ≤ s

variable {es : List Event} {t : Time} {e : Event} {u : String}

theorem pending_cons {c : Time} : Pending u t c (e :: es) ↔
      (∃ id, e = .finished u id t c) ∨ (e.excuses u = false ∧ Pending u t c es) := by
  constructor
  · rintro ⟨id, newer, older, heq, hfree⟩
    cases newer with
    | nil => exact .inl ⟨id, (cons.inj heq).1⟩
    | cons x xs =>
    obtain ⟨rfl, rfl⟩ := cons.inj heq
    exact .inr ⟨hfree e mem_cons_self,
      id, xs, older, rfl, fun y hy => hfree y (mem_cons_of_mem _ hy)⟩
  rintro (⟨id, rfl⟩ | ⟨hfree, id, newer, older, rfl, hrest⟩)
  · exact ⟨id, [], es, rfl, fun y hy => absurd hy not_mem_nil⟩
  refine ⟨id, e :: newer, older, rfl, fun y hy => ?_⟩
  rcases mem_cons.mp hy with rfl | hy
  · exact hfree
  · exact hrest y hy

theorem respected_cons (h : Respected es)
    (he : ∀ u id s, e = .started u id s → ∀ t c, Pending u t c es → t + c ≤ s) :
    Respected (e :: es) := by
  intro newer u id s older heq
  cases newer with
  | nil =>
    obtain ⟨rfl, rfl⟩ := cons.inj heq
    exact he u id s rfl
  | cons x xs =>
  obtain ⟨rfl, rfl⟩ := cons.inj heq
  exact h xs u id s older rfl

/-! ## the invariant -/

namespace World

def enabled (w : World) (uplinkID : String) : Bool := (w.policies uplinkID).any (·.enabled)

def cooldown (w : World) (uplinkID : String) : Option Time :=
  (w.runtimes uplinkID).bind (·.cooldownUntil)

end World

def Over (w : World) (uplinkID : String) : Prop :=
  ∀ t c, Pending uplinkID t c w.events → t + c ≤ w.now

/-- every cooldown of the uplink has run out or stands in its row -/
def Held (w : World) (uplinkID : String) : Prop :=
  ∀ t c, Pending uplinkID t c w.events → t + c ≤ w.now ∨
    (w.enabled uplinkID = true ∧ ∃ e, w.cooldown uplinkID = some e ∧ t + c ≤ e)

structure Kept (w : World) : Prop where
  monotone : Monotone w.clock
  respected : Respected w.events
  held : ∀ u, Held w u

variable {w : World}

theorem Over.held (h : Over w u) : Held w u :=
  fun t c hp => .inl (h t c hp)

/-- the clock of `v` is that of `w` and was not read less often -/
structure Later (w v : World) : Prop where
  clock : v.clock = w.clock
  reads : w.reads ≤ v.reads

theorem Later.refl (w : World) : Later w w := ⟨rfl, le_rfl⟩

variable {v : World}

theorem Later.now (h : Later w v) (hw : Monotone w.clock) : w.now ≤ v.now := by
  rw [World.now, World.now, h.clock]
  exact hw h.reads

/-- nothing that the cooldowns of an uplink depend on has changed -/
structure Undisturbed (u : String) (w v : World) : Prop where
  pending : ∀ t c, Pending u t c v.events → Pending u t c w.events
  enabled : v.enabled u = w.enabled u
  cooldown : v.cooldown u = w.cooldown u

theorem Undisturbed.over (h : Undisturbed u w v) (hnow : w.now ≤ v.now) (ho : Over w u) :
    Over v u :=
  fun t c hp => le_trans (ho t c (h.pending t c hp)) hnow

theorem Undisturbed.held (h : Undisturbed u w v) (hnow : w.now ≤ v.now) (hh : Held w u) :
    Held v u := by
  intro t c hp
  rcases hh t c (h.pending t c hp) with hover | ⟨hen, e, hcool, hle⟩
  · exact .inl (le_trans hover hnow)
  · exact .inr ⟨h.enabled.trans hen, e, h.cooldown.trans hcool, hle⟩

theorem Kept.change (hw : Kept w) (u : String) (hlater : Later w v)
    (hrespected : Respected v.events) (hothers : ∀ x, x ≠ u → Undisturbed x w v) (hown : Held v u) :
    Kept v := by
  have hnow := hlater.now hw.monotone
  refine ⟨hlater.clock ▸ hw.monotone, hrespected, fun x => ?_⟩
  by_cases hx : x = u
  · exact hx ▸ hown
  · exact (hothers x hx).held hnow (hw.held x)

/-! ## the transactions -/

variable {f : Fate} {α : Type}

theorem transact_state {P : World → Prop} {t : World → Except Error (α × World)} (hw : P w)
    (h : ∀ a v, t w = .ok (a, v) → P v) : P (transact f t w).2 := by
  unfold transact
  cases hr : t w with
  | error e => cases f <;> exact hw
  | ok r => cases f <;> first | exact hw | exact h r.1 r.2 hr

theorem transact_ok {t : World → Except Error (α × World)} {a : α}
    (h : transact f t w = (.ok a, v)) : t w = .ok (a, v) := by
  unfold transact at h
  cases hr : t w with
  | error e => cases f <;> simp [hr] at h
  | ok r =>
  cases f <;> simp [hr] at h
  obtain ⟨rfl, rfl⟩ := h
  rfl

theorem transact_snd {P : World → Prop} {t : World → Except Error (α × World)} {r : Except Error α}
    (h : transact f t w = (r, v)) (hw : P w) (ht : ∀ a v, t w = .ok (a, v) → P v) : P v := by
  have hv : (transact f t w).2 = v := by rw [h]
  exact hv ▸ transact_state hw ht

theorem kept_tick (hw : Kept w) : Kept w.tick := by
  have hlater : Later w w.tick := ⟨rfl, Nat.le_succ _⟩
  refine ⟨hw.monotone, hw.respected, fun u => ?_⟩
  exact Undisturbed.held (w := w) ⟨fun _ _ h => h, rfl, rfl⟩ (hlater.now hw.monotone) (hw.held u)

theorem over_tick (hw : Kept w) (ho : Over w u) : Over w.tick u := by
  have hlater : Later w w.tick := ⟨rfl, Nat.le_succ _⟩
  exact Undisturbed.over (w := w) ⟨fun _ _ h => h, rfl, rfl⟩ (hlater.now hw.monotone) ho

variable {x : String}

theorem undisturbed_setRuntime (hx : x ≠ u) (r : Runtime) : Undisturbed x w (w.setRuntime u r) := by
  refine ⟨fun _ _ h => h, rfl, ?_⟩
  show ((update w.runtimes u (some r)) x).bind _ = _
  rw [update_of_ne hx]
  rfl

theorem cooldown_setRuntime (w : World) (u : String) (r : Runtime) :
    (w.setRuntime u r).cooldown u = r.cooldownUntil := by
  show ((update w.runtimes u (some r)) u).bind _ = _
  rw [update_self]
  rfl

theorem pending_other {c : Time} (he : ∀ id t c, e ≠ .finished x id t c)
    (h : Pending x t c (e :: es)) : Pending x t c es := by
  rcases pending_cons.mp h with ⟨id, hid⟩ | ⟨-, h⟩
  · exact absurd hid (he id t c)
  · exact h

theorem undisturbed_write (hx : x ≠ u) {r : Runtime} (he : ∀ id t c, e ≠ .finished x id t c)
    (hpolicy : v.policies x = w.policies x) (hruntimes : v.runtimes = (w.setRuntime u r).runtimes)
    (hevents : v.events = e :: w.events) : Undisturbed x w v := by
  have hrow := undisturbed_setRuntime (w := w) hx r
  refine ⟨fun t c hp => ?_, ?_, ?_⟩
  · rw [hevents] at hp
    exact pending_other he hp
  · rw [enabled, enabled, hpolicy]
  · rw [← hrow.cooldown, cooldown, cooldown, hruntimes]

theorem observeHealthy_ok {a : Unit} (h : observeHealthy u w = .ok (a, v)) :
    ∃ r, w.runtimes u = some r ∧ v = ((w.setRuntime u { r with
      state := .idle, failureStartedAt := none, cooldownUntil := none }).record
        (.healthy u w.now)).tick := by
  unfold observeHealthy at h
  split at h
  · cases h
  cases hr : w.runtimes u with
  | none => rw [hr] at h; cases h
  | some r =>
  rw [hr] at h
  dsimp only at h
  split at h
  · cases h
  exact ⟨r, rfl, (Prod.mk.inj (Except.ok.inj h)).2.symm⟩

theorem held_of_excuse {v : World} (hv : v.events = e :: w.events) (he : e.excuses u = true) :
    Held v u := by
  intro t c hp
  rw [hv] at hp
  rcases pending_cons.mp hp with ⟨id, rfl⟩ | ⟨hfree, -⟩
  · cases he
  · rw [he] at hfree
    cases hfree

theorem observeHealthy_kept {a : Unit} (hw : Kept w) (h : observeHealthy u w = .ok (a, v)) :
    Kept v := by
  obtain ⟨r, hr, rfl⟩ := observeHealthy_ok h
  refine hw.change u ⟨rfl, Nat.le_succ _⟩ ?_ (fun x hx => ?_)
    (held_of_excuse rfl (by simp [Event.excuses]))
  · exact respected_cons hw.respected fun _ _ _ heq => by cases heq
  · exact undisturbed_write hx (fun _ _ _ heq => by cases heq) rfl rfl rfl

variable {s : Snapshot} {reason : Failure}

/-- **what the recorded failure looks like**: the rows that the snapshot was taken of, and a
cooldown that stays -/
theorem prepareFailure_cases (h : prepareFailure u reason w = .ok (s, v)) :
    ∃ policy r, w.policies u = some policy ∧ w.runtimes u = some r ∧ s.policy = policy ∧
      ((s.runtime = r ∧ v = w) ∨ (s.runtime = r.observed policy.generation reason w.now ∧
          v = (w.setRuntime u (r.observed policy.generation reason w.now)).tick)) := by
  unfold prepareFailure at h
  split at h
  · cases h
  cases hp : w.policies u with
  | none => rw [hp] at h; cases h
  | some policy =>
  cases hr : w.runtimes u with
  | none => rw [hp, hr] at h; cases h
  | some r =>
  rw [hp, hr] at h
  dsimp only at h
  refine ⟨policy, r, rfl, rfl, ?_⟩
  split at h
  · obtain ⟨rfl, rfl⟩ := Prod.mk.inj (Except.ok.inj h)
    exact ⟨rfl, .inl ⟨rfl, rfl⟩⟩
  unfold snapshot at h
  simp only [tick, setRuntime, hp, update_self] at h
  obtain ⟨rfl, rfl⟩ := Prod.mk.inj (Except.ok.inj h)
  exact ⟨rfl, .inr ⟨rfl, rfl⟩⟩

theorem prepareFailure_ok (h : prepareFailure u reason w = .ok (s, v)) :
    v.policies u = some s.policy ∧ v.runtimes u = some s.runtime ∧ Later w v ∧
      v.events = w.events ∧ ∀ x, Undisturbed x w v := by
  obtain ⟨policy, r, hp, hr, hpolicy, ⟨hs, rfl⟩ | ⟨hs, rfl⟩⟩ := prepareFailure_cases h
  · exact ⟨hpolicy ▸ hp, hs ▸ hr, .refl _, rfl, fun x => ⟨fun _ _ h => h, rfl, rfl⟩⟩
  refine ⟨hpolicy ▸ hp, hs ▸ update_self .., ⟨rfl, Nat.le_succ _⟩, rfl, fun x => ?_⟩
  refine ⟨fun _ _ h => h, rfl, ?_⟩
  by_cases hx : x = u
  · subst hx
    show ((update w.runtimes x _) x).bind _ = (w.runtimes x).bind _
    rw [update_self, hr]
    rfl
  · exact (undisturbed_setRuntime hx _).cooldown

theorem prepareFailure_kept (hw : Kept w) (h : prepareFailure u reason w = .ok (s, v)) :
    Kept v := by
  obtain ⟨-, -, hlater, hevents, hsame⟩ := prepareFailure_ok h
  exact hw.change u hlater (hevents ▸ hw.respected) (fun x _ => hsame x)
    ((hsame u).held (hlater.now hw.monotone) (hw.held u))

variable {code : String}

theorem setWaiting_ok {next : Option Time} {a : Unit} (h : setWaiting u code next w = .ok (a, v)) :
    v = w ∨ ∃ r, w.runtimes u = some r ∧ v = w.setRuntime u { r with cooldownUntil := next } := by
  unfold setWaiting at h
  split at h
  · cases h
  cases hr : w.runtimes u with
  | none =>
    rw [hr] at h
    exact .inl (Prod.mk.inj (Except.ok.inj h)).2.symm
  | some r =>
  rw [hr] at h
  dsimp only at h
  split at h
  · exact .inl (Prod.mk.inj (Except.ok.inj h)).2.symm
  · exact .inr ⟨r, rfl, (Prod.mk.inj (Except.ok.inj h)).2.symm⟩

theorem setWaiting_kept {next : Option Time} {a : Unit} (hw : Kept w)
    (h : setWaiting u code next w = .ok (a, v))
    (hover : Over w u ∨ ∃ e, next = some e ∧ ∀ t, w.cooldown u = some t → t ≤ e) : Kept v := by
  obtain rfl | ⟨r, -, rfl⟩ := setWaiting_ok h
  · exact hw
  refine hw.change u ⟨rfl, le_rfl⟩ hw.respected (fun x hx => undisturbed_setRuntime hx _) ?_
  intro t c hp
  rcases hover with hover | ⟨e, rfl, hle⟩
  · exact .inl (hover t c hp)
  rcases hw.held u t c hp with hdone | ⟨hen, e', hcool, hle'⟩
  · exact .inl hdone
  · exact .inr ⟨hen, e, cooldown_setRuntime .., le_trans hle' (hle e' hcool)⟩

variable {a : Attempt} {requestedBy : RequestedBy}

theorem beginAttempt_ok {action : Action}
    (h : beginAttempt u action requestedBy reason w = .ok (a, v)) :
    ∃ policy runtime budget, w.policies u = some policy ∧ w.runtimes u = some runtime ∧
      runtime.activeAttemptID = none ∧ policy.enabled = true ∧
      runtime.cooldownUntil.any (w.now < ·) = false ∧
      w.attempts.any (·.id = newAttemptID w) = false ∧
      runtime.policyGeneration = policy.generation ∧ validID u = true ∧
      (if action = .usbDeviceReset then chargeReset policy runtime w.now
        else .ok (runtime.budgetWindowStartedAt, runtime.usbResetsInWindow)) = .ok budget ∧
      (a, v) = openAttempt u action requestedBy reason policy runtime budget w := by
  unfold beginAttempt at h
  split at h
  · cases h
  rename_i hid
  cases hp : w.policies u with
  | none => rw [hp] at h; cases h
  | some policy =>
  cases hr : w.runtimes u with
  | none => rw [hp, hr] at h; cases h
  | some r =>
  rw [hp, hr] at h
  dsimp only at h
  split at h
  · cases h
  rename_i hactive
  split at h
  · cases h
  rename_i hgen
  split at h
  · cases h
  rename_i hen
  split at h
  · cases h
  rename_i hcool
  split at h
  · cases h
  rename_i budget hbudget
  split at h
  · cases h
  rename_i hkey
  refine ⟨policy, r, budget, rfl, rfl, ?_, ?_, ?_, ?_, ?_, ?_, hbudget, (Except.ok.inj h).symm⟩
  · simpa using hactive
  · simpa using hen
  · simpa using hcool
  · simpa using hkey
  · simpa using hgen
  · simpa using hid

/-- **An attempt starts when the cooldowns of its uplink are over.** -/
theorem beginAttempt_kept {action : Action} (hw : Kept w)
    (h : beginAttempt u action requestedBy reason w = .ok (a, v)) :
    Kept v ∧ Over v u ∧ v.enabled u = true ∧ a.uplinkID = u := by
  obtain ⟨policy, r, budget, hp, hr, -, hen, hcool, -, -, -, -, heq⟩ := beginAttempt_ok h
  obtain ⟨rfl, rfl⟩ := Prod.mk.inj heq
  have hover : Over w u := by
    intro t c hpend
    rcases hw.held u t c hpend with hdone | ⟨-, e, he, hle⟩
    · exact hdone
    have hrow : r.cooldownUntil = some e := by
      rw [cooldown, hr] at he
      exact he
    rw [hrow] at hcool
    have : e ≤ w.now := by simpa using hcool
    exact le_trans hle this
  have hlater : Later w (openAttempt u action requestedBy reason policy r budget w).2 :=
    ⟨rfl, Nat.le_succ _⟩
  have hnow := hlater.now hw.monotone
  have hafter : Over (openAttempt u action requestedBy reason policy r budget w).2 u := by
    intro t c hpend
    rcases pending_cons.mp hpend with ⟨id, hid⟩ | ⟨-, hpend⟩
    · cases hid
    · exact le_trans (hover t c hpend) hnow
  refine ⟨hw.change u hlater ?_ (fun x hx => ?_) hafter.held, hafter, ?_, rfl⟩
  · refine respected_cons hw.respected fun x id s heq => ?_
    cases heq
    exact hover
  · exact undisturbed_write hx (fun _ _ _ heq => by cases heq) rfl rfl rfl
  show (w.policies u).any _ = true
  rw [hp]
  exact hen

theorem finishAttempt_ok {status : Status} {cooldown : Time} {x : Unit}
    (h : finishAttempt a status code cooldown w = .ok (x, v)) :
    ∃ runtime, w.runtimes a.uplinkID = some runtime ∧
      v = closeAttempt a status code cooldown runtime w := by
  unfold finishAttempt at h
  split at h
  · cases h
  cases hr : w.runtimes a.uplinkID with
  | none => rw [hr] at h; cases h
  | some r =>
  rw [hr] at h
  dsimp only at h
  split at h
  · cases h
  split at h
  · exact ⟨r, rfl, (Prod.mk.inj (Except.ok.inj h)).2.symm⟩
  · cases h

theorem finishAttempt_kept {status : Status} {cooldown : Time} {x : Unit} (hw : Kept w)
    (hover : Over w a.uplinkID) (hen : w.enabled a.uplinkID = true)
    (h : finishAttempt a status code cooldown w = .ok (x, v)) : Kept v := by
  obtain ⟨r, hr, rfl⟩ := finishAttempt_ok h
  have hlater : Later w (closeAttempt a status code cooldown r w) := ⟨rfl, Nat.le_succ _⟩
  have hnow := hlater.now hw.monotone
  refine hw.change a.uplinkID hlater ?_ (fun y hy => ?_) ?_
  · exact respected_cons hw.respected nofun
  · refine undisturbed_write hy (fun _ _ _ heq => ?_) rfl rfl rfl
    exact hy (Event.finished.inj heq).1.symm
  intro t c hp
  rcases pending_cons.mp hp with ⟨id, hid⟩ | ⟨-, hp⟩
  · obtain ⟨-, -, rfl, rfl⟩ := Event.finished.inj hid
    by_cases hpos : 0 < cooldown
    · refine .inr ⟨hen, w.now + cooldown, ?_, le_rfl⟩
      refine (cooldown_setRuntime w _ _).trans ?_
      simp [hpos]
    · exact .inl (le_trans (add_le_of_nonpos_right (not_lt.mp hpos)) hnow)
  · exact .inl (le_trans (hover t c hp) hnow)

def interruptions (now : Time) (closed : List Attempt) : List Event :=
  closed.map fun a => .finished a.uplinkID a.id now 0

variable {now : Time}

theorem respected_interruptions (h : Respected es) (closed : List Attempt) :
    Respected (interruptions now closed ++ es) := by
  induction closed with
  | nil => exact h
  | cons a as ih => exact respected_cons ih nofun

theorem pending_interruptions {c : Time} {closed : List Attempt}
    (h : Pending u t c (interruptions now closed ++ es)) :
    (t = now ∧ c = 0) ∨ Pending u t c es := by
  induction closed with
  | nil => exact .inr h
  | cons a as ih =>
    rcases pending_cons.mp h with ⟨id, hid⟩ | ⟨-, h⟩
    · obtain ⟨-, -, rfl, rfl⟩ := Event.finished.inj hid
      exact .inl ⟨rfl, rfl⟩
    · exact ih h

theorem cooldown_closeInterrupted (w : World) (u : String) :
    (closeInterrupted w).cooldown u = w.cooldown u := by
  show ((w.runtimes u).map _).bind _ = (w.runtimes u).bind _
  cases w.runtimes u with
  | none => rfl
  | some r => by_cases hr : r.activeAttemptID.isSome <;> simp [hr]

theorem recoverInterrupted_kept {n : Nat} (hw : Kept w) (h : recoverInterrupted w = .ok (n, v)) :
    Kept v := by
  obtain ⟨-, rfl⟩ := Prod.mk.inj (Except.ok.inj h)
  have hlater : Later w (closeInterrupted w) := ⟨rfl, Nat.le_succ _⟩
  have hnow := hlater.now hw.monotone
  refine ⟨hw.monotone, respected_interruptions hw.respected _, fun u t c hp => ?_⟩
  rcases pending_interruptions hp with ⟨rfl, rfl⟩ | hp
  · exact .inl (le_trans (le_of_eq (add_zero _)) hnow)
  rcases hw.held u t c hp with hdone | ⟨hen, e, he, hle⟩
  · exact .inl (le_trans hdone hnow)
  · exact .inr ⟨hen, e, (cooldown_closeInterrupted w u).trans he, hle⟩

theorem updatePolicy_ok {input : Settings} {p : Policy} (h : updatePolicy u input w = .ok (p, v)) :
    ∃ r row updated, w.runtimes u = some r ∧ row.activeAttemptID = r.activeAttemptID ∧
      v = (({ (w.setRuntime u row) with
        policies := Function.update w.policies u updated } : World).record
          (.policyUpdated u w.now)).tick := by
  unfold updatePolicy at h
  split at h
  · cases h
  split at h
  · cases h
  split at h
  · next policy r hp hr =>
    split at h
    · cases h
    split at h
    · obtain ⟨-, rfl⟩ := Prod.mk.inj (Except.ok.inj h)
      refine ⟨r, _, _, hr, ?_, rfl⟩
      rfl
    · cases h
  · cases h

theorem updatePolicy_kept {input : Settings} {p : Policy} (hw : Kept w)
    (h : updatePolicy u input w = .ok (p, v)) : Kept v := by
  obtain ⟨r, row, updated, -, -, rfl⟩ := updatePolicy_ok h
  refine hw.change u ⟨rfl, Nat.le_succ _⟩ ?_ (fun x hx => ?_)
    (held_of_excuse rfl (by simp [Event.excuses]))
  · exact respected_cons hw.respected fun _ _ _ heq => by cases heq
  · refine undisturbed_write hx (fun _ _ _ heq => by cases heq) ?_ rfl rfl
    exact update_of_ne hx _ _

/-! ## the controller -/

variable {c : Faults}

theorem execute_kept {policy : Policy} (hw : Kept w) (hover : Over w a.uplinkID)
    (hen : w.enabled a.uplinkID = true) : Kept (execute c policy now a w).2 := by
  unfold execute
  dsimp only
  have hfinish := transact_state (f := c.finish)
    (t := finishAttempt a c.execute.outcome.1 c.execute.outcome.2 (actionCooldown policy a.action))
    hw fun _ _ h => finishAttempt_kept hw hover hen h
  split
  · rename_i heq
    rw [heq] at hfinish
    exact hfinish
  rename_i heq
  rw [heq] at hfinish
  exact hfinish

/-- the cooldowns of `u` are over, or the decision is to wait longer than they last -/
def Patient (w : World) (u : String) (d : Decision) : Prop :=
  Over w u ∨ ∃ state code e, d = .wait state code (some e) ∧ ∀ t, w.cooldown u = some t → t ≤ e

theorem enact_kept {policy : Policy} {d : Decision} (hw : Kept w) (hd : Patient w u d) :
    Kept (enact c u reason requestedBy policy now w d).2 := by
  cases d with
  | wait state code next =>
    have hnext : Over w u ∨ ∃ e, next = some e ∧ ∀ t, w.cooldown u = some t → t ≤ e := by
      refine hd.imp id ?_
      rintro ⟨_, _, e, heq, hle⟩
      exact ⟨e, (Decision.wait.inj heq).2.2, hle⟩
    have hwait := transact_state (f := c.waiting) (t := setWaiting u code next) hw
      fun _ _ h => setWaiting_kept hw h hnext
    rw [enact]
    split
    · rename_i heq
      rw [heq] at hwait
      exact hwait
    rename_i heq
    rw [heq] at hwait
    exact hwait
  | act action =>
  have hover : Over w u := by
    rcases hd with hover | ⟨_, _, _, heq, -⟩
    · exact hover
    · cases heq
  -- whatever the fate of the call, the cooldowns are over when it has returned
  have hbegin := transact_state (f := c.start) (P := fun v => Kept v ∧ Over v u)
    (t := beginAttempt u action requestedBy reason) ⟨hw, hover⟩
    fun _ _ h => ⟨(beginAttempt_kept hw h).1, (beginAttempt_kept hw h).2.1⟩
  rw [enact]
  split
  · rename_i a v heq
    obtain ⟨hv, hv', hen, rfl⟩ := beginAttempt_kept hw (transact_ok heq)
    exact execute_kept hv hv' hen
  · rename_i v heq
    rw [heq] at hbegin
    have hv : Kept v.tick := kept_tick hbegin.1
    exact transact_state hv fun _ _ h => setWaiting_kept hv h (.inl (over_tick hbegin.1 hbegin.2))
  rename_i heq
  rw [heq] at hbegin
  exact hbegin.1

structure Reads (u : String) (s : Snapshot) (w : World) : Prop where
  policy : w.policies u = some s.policy
  runtime : w.runtimes u = some s.runtime

theorem Reads.enabled (h : Reads u s w) : w.enabled u = s.policy.enabled := by
  rw [World.enabled, h.policy]
  rfl

theorem Reads.cooldown (h : Reads u s w) : w.cooldown u = s.runtime.cooldownUntil := by
  rw [World.cooldown, h.runtime]
  rfl

theorem over_of_ended (hw : Kept w) (h : ∀ e, w.cooldown u = some e → e ≤ w.now) : Over w u := by
  intro t c hp
  rcases hw.held u t c hp with hdone | ⟨-, e, he, hle⟩
  · exact hdone
  · exact le_trans hle (h e he)

theorem over_of_disabled (hw : Kept w) (h : w.enabled u = false) : Over w u := by
  intro t c hp
  rcases hw.held u t c hp with hdone | ⟨hen, -⟩
  · exact hdone
  · rw [h] at hen
    cases hen

theorem handlePrepared_kept {manual : Bool} (hw : Kept w) (hreads : Reads u s w)
    (hmanual : manual = true → s.policy.enabled = true →
      Patient w u (chooseAction s reason w.now manual)) :
    Kept (handlePrepared c u reason requestedBy manual s w).2 := by
  unfold handlePrepared
  by_cases hen : s.policy.enabled = true
  · have hpatient : (s.runtime.cooldownUntil.any (w.now < ·) && !manual) = false →
        Patient w u (chooseAction s reason w.now manual) := by
      intro hcool
      cases manual with
      | true => exact hmanual rfl hen
      | false =>
      refine .inl (over_of_ended hw fun e he => ?_)
      rw [hreads.cooldown] at he
      rw [he] at hcool
      simpa using hcool
    simp only [hen, Bool.not_true, Bool.false_eq_true, if_false]
    split
    · exact kept_tick hw
    rename_i hcool
    refine enact_kept (kept_tick hw) ?_
    exact (hpatient (Bool.eq_false_iff.mpr hcool)).imp (over_tick hw) id
  · simp only [hen, Bool.not_false, if_true]
    have hoff : w.enabled u = false := by
      rw [hreads.enabled]
      simpa using hen
    exact transact_state hw fun _ _ h => setWaiting_kept hw h (.inl (over_of_disabled hw hoff))

def Timely (u failureReason : String) (w : World) : Prop :=
  ∀ e, w.cooldown u = some e → e ≤ w.now ∨
    ∃ reason s v state code next, validFailure failureReason = some reason ∧
      prepareFailure u reason w = .ok (s, v) ∧ s.policy.enabled = true ∧
      chooseAction s reason v.now true = .wait state code (some next) ∧ e ≤ next

variable {failureReason : String}

theorem Timely.patient (hw : Kept w) (ht : Timely u failureReason w)
    (hreason : validFailure failureReason = some reason)
    (hprep : prepareFailure u reason w = .ok (s, v)) :
    Patient v u (chooseAction s reason v.now true) := by
  obtain ⟨hpolicy, hruntime, hlater, hevents, hsame⟩ := prepareFailure_ok hprep
  by_cases hended : ∀ e, w.cooldown u = some e → e ≤ w.now
  · exact .inl ((hsame u).over (hlater.now hw.monotone) (over_of_ended hw hended))
  simp only [not_forall, not_le] at hended
  obtain ⟨e, he, hlate⟩ := hended
  rcases ht e he with hle | ⟨reason', s', v', state, code, next, hr, hp, -, hchoose, hle⟩
  · exact absurd hle (not_le.mpr hlate)
  obtain rfl := Option.some.inj (hreason.symm.trans hr)
  obtain ⟨rfl, rfl⟩ := Prod.mk.inj (Except.ok.inj (hprep.symm.trans hp))
  refine .inr ⟨state, code, next, hchoose, fun t ht => ?_⟩
  rw [(hsame u).cooldown, he] at ht
  exact Option.some.inj ht ▸ hle

/-- **The handling of a failure keeps the cooldowns**, if a manual one is timely. -/
theorem handleLocked_kept {manual : Bool} (hw : Kept w)
    (hmanual : manual = true → Timely u failureReason w) :
    Kept (handleLocked c u failureReason requestedBy manual w).2 := by
  unfold handleLocked
  cases hreason : validFailure failureReason with
  | none => exact hw
  | some reason =>
  dsimp only
  split
  · rename_i heq
    exact transact_snd heq hw fun _ _ h => prepareFailure_kept hw h
  rename_i s v heq
  have hprep := transact_ok heq
  have hv := prepareFailure_kept hw hprep
  obtain ⟨hpolicy, hruntime, -⟩ := prepareFailure_ok hprep
  split
  · exact hv
  refine handlePrepared_kept hv ⟨hpolicy, hruntime⟩ fun hm _ => ?_
  subst hm
  exact (hmanual rfl).patient hw hreason hprep

theorem observeEach_kept (hw : Kept w) (healthy : List (String × Fate)) (seen : List String) :
    Kept (observeEach healthy seen w).2 := by
  induction healthy generalizing seen w with
  | nil => exact hw
  | cons entry rest ih =>
    obtain ⟨u, fate⟩ := entry
    rw [observeEach]
    split
    · exact ih hw seen
    have hv : Kept (transact fate (observeHealthy u) w).2 :=
      transact_state hw fun _ _ h => observeHealthy_kept hw h
    have hrest := ih hv (u :: seen)
    dsimp only
    split <;> exact hrest

theorem handleEach_kept (hw : Kept w) (failures : List Observed) (seen : List String) :
    Kept (handleEach failures seen w).2 := by
  induction failures generalizing seen w with
  | nil => exact hw
  | cons o rest ih =>
    rw [handleEach]
    split
    · exact ih hw seen
    have hv : Kept (o.handle w).2 := handleLocked_kept hw nofun
    have hrest := ih hv (o.uplinkID :: seen)
    dsimp only
    split
    · split <;> exact hrest
    · exact hrest

theorem observe_kept (hw : Kept w) (b : Batch) : Kept (observe b w).2 :=
  handleEach_kept (observeEach_kept hw b.healthy []) b.failures _

def Call.Timely (w : World) : Call → Prop
  | .request _ u failureReason => ModemRecovery.Timely u failureReason w
  | _ => True

theorem step_kept (w : World) (call : Call) (hw : Kept w) (ht : call.Timely w) :
    Kept (step w call) := by
  cases call with
  | observe b => exact observe_kept hw b
  | request c u failureReason =>
    show Kept (request c u failureReason w).2
    unfold request
    split
    · exact hw
    · exact handleLocked_kept hw fun _ => ht
  | recoverInterrupted fate =>
    exact transact_state hw fun _ _ h => recoverInterrupted_kept hw h
  | updatePolicy fate u input =>
  exact transact_state hw fun _ _ h => updatePolicy_kept hw h

/-! ## the column itself -/

def Lasts (w : World) (u : String) (e : Time) : Prop := ∃ t, w.cooldown u = some t ∧ e ≤ t

theorem setWaiting_lasts {next e : Time} {a : Unit} (hw : Lasts w u e) (hnext : e ≤ next)
    (h : setWaiting u code (some next) w = .ok (a, v)) : Lasts v u e := by
  obtain rfl | ⟨r, -, rfl⟩ := setWaiting_ok h
  · exact hw
  · exact ⟨next, cooldown_setRuntime .., hnext⟩

theorem prepareFailure_lasts {e : Time} (hw : Lasts w u e)
    (h : prepareFailure u reason w = .ok (s, v)) : Lasts v u e := by
  obtain ⟨-, -, -, -, hsame⟩ := prepareFailure_ok h
  obtain ⟨t, ht, hle⟩ := hw
  exact ⟨t, (hsame u).cooldown.trans ht, hle⟩

theorem request_lasts {e : Time} (ht : Timely u failureReason w) (he : w.cooldown u = some e)
    (hrunning : w.now < e) : Lasts (request c u failureReason w).2 u e := by
  have hw : Lasts w u e := ⟨e, he, le_rfl⟩
  rcases ht e he with hended | ⟨reason, s, v, state, code, next, hreason, hprep, hen, hd, hle⟩
  · exact absurd hended (not_le.mpr hrunning)
  have hv := prepareFailure_lasts hw hprep
  unfold request
  split
  · exact hw
  unfold handleLocked
  rw [hreason]
  dsimp only
  split
  · rename_i heq
    exact transact_snd heq hw fun _ _ h => prepareFailure_lasts hw h
  rename_i s' v' heq
  obtain ⟨rfl, rfl⟩ := Prod.mk.inj (Except.ok.inj (hprep.symm.trans (transact_ok heq)))
  split
  · exact hv
  unfold handlePrepared
  simp only [hen, Bool.not_true, Bool.false_eq_true, if_false, Bool.and_false]
  rw [hd, enact]
  have hwait := transact_state (f := c.waiting) (t := setWaiting u code (some next))
    (show Lasts v.tick u e from hv)
    fun _ _ h => setWaiting_lasts (show Lasts v.tick u e from hv) hle h
  split
  · rename_i heq
    rw [heq] at hwait
    exact hwait
  rename_i heq
  rw [heq] at hwait
  exact hwait

/-- a manual request that comes during the cooldown leaves one that lasts as long -/
def Call.Spares (w : World) : Call → Prop
  | .request c u failureReason =>
    ∀ e, w.cooldown u = some e → w.now < e → Lasts (step w (.request c u failureReason)) u e
  | _ => True

theorem Call.Timely.spares {call : Call} (h : call.Timely w) : call.Spares w := by
  cases call with
  | request c u failureReason => exact fun e he hrunning => request_lasts h he hrunning
  | observe | recoverInterrupted | updatePolicy => trivial

/-! ## runs -/

/-- **No attempt starts during a cooldown, and no request shortens one**, in any run of the
controller whose manual requests are timely. -/
theorem cooldown_respected (w : World) (calls : List Call) (hclock : Monotone w.clock)
    (hstart : w.events = []) (h : Throughout step (fun v call => call.Timely v) w calls) :
    Respected (calls.foldl step w).events ∧
      Throughout step (fun v call => call.Spares v) w calls := by
  have hpending : ∀ u t c, ¬ Pending u t c w.events := by
    rintro u t c ⟨id, newer, older, heq, -⟩
    rw [hstart] at heq
    cases newer <;> cases heq
  have hw : Kept w := by
    refine ⟨hclock, ?_, fun u t c hp => absurd hp (hpending u t c)⟩
    intro newer u id s older heq
    rw [hstart] at heq
    cases newer <;> cases heq
  refine ⟨(h.invariant step_kept hw).respected, ?_⟩
  clear hw hpending hstart hclock
  induction calls generalizing w with
  | nil => trivial
  | cons call calls ih => exact ⟨h.1.spares, ih _ h.2⟩

/-! ## samples -/

def sampleModem : String := "modem-a"

def sampleWorld (clock : Nat → Time) : World where
  policies := fun u => if u = sampleModem then some Policy.default else none
  runtimes := fun u => if u = sampleModem then some {} else none
  clock := clock
  random := fun n => [UInt8.ofNat n]

def sampleMissing : Call :=
  .observe { failures := [{ uplinkID := sampleModem, reason := "DHCP_LEASE_MISSING" }] }

def sampleRequest : Call := .request {} sampleModem "DHCP_LEASE_MISSING"

theorem seconds_le {a b : Int} (h : a ≤ b) : seconds a ≤ seconds b :=
  Int.mul_le_mul_of_nonneg_right h (by decide)

def slowClock (n : Nat) : Time := seconds (100 * n)

theorem slowClock_monotone : Monotone slowClock := by
  intro a b hab
  exact seconds_le (by omega)

/-- a clock that shows 0, jumps by five minutes, and then moves on by a second -/
def jumpClock (n : Nat) : Time := seconds (if n ≤ 1 then 0 else 300 + n)

theorem jumpClock_monotone : Monotone jumpClock := by
  intro a b hab
  refine seconds_le ?_
  split <;> split <;> omega

theorem cooldown_respected_sample :
    ([sampleMissing, sampleRequest, sampleMissing].foldl step (sampleWorld slowClock)).events ≠ [] ∧
      Respected
        ([sampleMissing, sampleRequest, sampleMissing].foldl step
          (sampleWorld slowClock)).events := by
  refine ⟨by decide +kernel, (cooldown_respected (sampleWorld slowClock)
    [sampleMissing, sampleRequest, sampleMissing] slowClock_monotone rfl ?_).1⟩
  refine ⟨trivial, fun e he => .inl ?_, trivial, trivial⟩
  have hrow : (step (sampleWorld slowClock) sampleMissing).cooldown sampleModem =
      some (seconds 330) := by decide +kernel
  obtain rfl := Option.some.inj (hrow.symm.trans he)
  decide +kernel

/-- an observation finishes an attempt with a cooldown of 30 seconds, a manual request five seconds
later is refused and clears it, and the next observation starts an attempt -/
theorem cooldown_forgotten :
    Monotone (sampleWorld jumpClock).clock ∧
    ¬ Respected ([sampleMissing, sampleMissing, sampleRequest, sampleMissing].foldl step
      (sampleWorld jumpClock)).events := by
  refine ⟨jumpClock_monotone, fun h => ?_⟩
  have hevents : ([sampleMissing, sampleMissing, sampleRequest, sampleMissing].foldl step
      (sampleWorld jumpClock)).events =
      [.finished sampleModem "modem-recovery-01" (seconds 312) (seconds 60),
       .started sampleModem "modem-recovery-01" (seconds 311),
       .finished sampleModem "modem-recovery-00" (seconds 305) (seconds 30),
       .started sampleModem "modem-recovery-00" (seconds 304)] := by decide +kernel
  have hlate := h [_] sampleModem "modem-recovery-01" (seconds 311) _ rfl (seconds 305) (seconds 30)
    ⟨_, [], _, rfl, fun _ hy => absurd hy not_mem_nil⟩
  exact absurd hlate (by decide)

end GatewayVpn.ModemRecovery
