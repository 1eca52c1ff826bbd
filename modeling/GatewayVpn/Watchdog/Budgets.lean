import GatewayVpn.Durable.Budget
import GatewayVpn.Durable.Cut
import GatewayVpn.Watchdog.Supervisor

/-!
# The budgets of the watchdog, over crashes

A restart or a reboot is charged to the history and saved before it is made, so whatever a crash
loses, the stored history knows every call.  An attempt is stamped with the reading of the clock at
the beginning of its tick; the call itself comes later, after the probes and the recovery of the
components before it.  Measured by these readings the budgets hold in every run.  Measured by the
clock at the calls they hold up to the time between the reading and the call: two restarts of a
component can be closer than the cooldown.

A process that cannot read the policy works with `DefaultPolicy`.  Its first tick restarts nothing,
but prunes the history with the window of that policy, and saves it if anything else in it changes.
-/

namespace GatewayVpn.Watchdog

open Durable List Function

/-! ## the calls of a run -/

def restarts (c : Component) : List Event → List (Time × Time)
  | [] => []
  | .restarted d reading time :: log =>
    if d = c then restarts c log ++ [(reading, time)] else restarts c log
  | .read _ :: log | .saved _ :: log | .blocked :: log | .rebooted _ _ :: log => restarts c log

def reboots : List Event → List (Time × Time)
  | [] => []
  | .rebooted reading time :: log => reboots log ++ [(reading, time)]
  | .read _ :: log | .saved _ :: log | .blocked :: log | .restarted _ _ _ :: log => reboots log

/-- the times that the budgets count: the readings -/
def charged (calls : List (Time × Time)) : List Time := calls.map Prod.fst

def Event.isRead : Event → Bool
  | .read _ => true
  | _ => false

def recent (log : List Event) : List Event := log.takeWhile (!·.isRead)

def lastRead : List Event → Option Time
  | [] => none
  | .read t :: _ => some t
  | .saved _ :: log | .blocked :: log | .restarted _ _ _ :: log | .rebooted _ _ :: log => lastRead log

/-- a call is made after its attempt was saved and, with an exception, the path was blocked, since
the clock was read for the tick -/
def Event.Justified (older : List Event) : Event → Prop
  | .restarted c reading time =>
    lastRead older = some reading ∧ reading ≤ time ∧
      (∃ h, .saved h ∈ recent older ∧ reading ∈ h.restartAttempts c) ∧
      ((spec c).restartWithoutPathBlock = false → .blocked ∈ recent older)
  | .rebooted reading time =>
    lastRead older = some reading ∧ reading ≤ time ∧
      (∃ h, .saved h ∈ recent older ∧ reading ∈ h.rebootAttempts) ∧ .blocked ∈ recent older
  | _ => True

def Justified (log : List Event) : Prop :=
  ∀ newer e older, log = newer ++ e :: older → e.Justified older

variable {e : Event} {log : List Event}

theorem justified_cons (h : Justified log) (he : e.Justified log) : Justified (e :: log) := by
  intro newer x older heq
  cases newer with
  | nil =>
    obtain ⟨rfl, rfl⟩ := cons.inj heq
    exact he
  | cons y ys =>
  obtain ⟨rfl, rfl⟩ := cons.inj heq
  exact h ys x older rfl

/-! ## the invariant -/

structure Backed (policy : Policy) (t : Time) (log : List Event) (h : DurableHistory) : Prop where
  restarts : ∀ c, Covers policy.restartWindow t (charged (restarts c log)) (h.restartAttempts c)
  reboots : Covers day t (charged (reboots log)) h.rebootAttempts

variable {h : DurableHistory} {policy : Policy} {t : Time}

theorem Backed.later {t' : Time} (hb : Backed policy t log h) (ht : t ≤ t') :
    Backed policy t' log h :=
  ⟨fun c => (hb.restarts c).later ht, hb.reboots.later ht⟩

theorem Backed.prune (hb : Backed policy t log h) : Backed policy t log (h.prune t policy) :=
  ⟨fun c => (hb.restarts c).prune, hb.reboots.prune⟩

theorem Backed.congr {h' : DurableHistory} (hb : Backed policy t log h)
    (hrestarts : h'.restartAttempts = h.restartAttempts)
    (hreboots : h'.rebootAttempts = h.rebootAttempts) : Backed policy t log h' :=
  ⟨fun c => hrestarts ▸ hb.restarts c, hreboots ▸ hb.reboots⟩

theorem Backed.recordRestart (hb : Backed policy t log h) (c : Component) :
    Backed policy t log (h.recordRestart c t) := by
  refine ⟨fun d => ?_, hb.reboots⟩
  show Covers _ _ _ (update h.restartAttempts c _ d)
  by_cases hd : d = c
  · subst hd
    rw [update_self]
    exact (hb.restarts d).record
  · rw [update_of_ne hd]
    exact hb.restarts d

theorem Backed.recordReboot (hb : Backed policy t log h) : Backed policy t log (h.recordReboot t) :=
  ⟨hb.restarts, hb.reboots.record⟩

theorem Policy.restartWindow_nonneg (policy : Policy) : 0 ≤ policy.restartWindow :=
  Int.mul_nonneg (le_trans (by decide) policy.valid.window.1) (by decide)

theorem Policy.cooldown_le_window (policy : Policy) :
    policy.restartCooldown ≤ policy.restartWindow :=
  Int.mul_le_mul_of_nonneg_right policy.valid.window.2.2 (by decide)

theorem Backed.restarted {time : Time} (hb : Backed policy t log h) (c : Component) :
    Backed policy t (.restarted c t time :: log) (h.recordRestart c t) := by
  refine ⟨fun d => ?_, hb.reboots⟩
  show Covers _ _ (charged (if c = d then _ else _)) (update h.restartAttempts c _ d)
  by_cases hd : d = c
  · subst hd
    rw [update_self, if_pos rfl, charged, map_append]
    exact (hb.restarts d).call policy.restartWindow_nonneg
  · rw [update_of_ne hd, if_neg (Ne.symm hd)]
    exact hb.restarts d

theorem Backed.rebooted {time : Time} (hb : Backed policy t log h) :
    Backed policy t (.rebooted t time :: log) (h.recordReboot t) := by
  refine ⟨hb.restarts, ?_⟩
  show Covers _ _ (charged (Watchdog.reboots log ++ [(t, time)])) _
  rw [charged, map_append]
  exact hb.reboots.call (by decide)

structure Sound (policy : Policy) (w : World) : Prop where
  monotone : Monotone w.clock
  backed : Backed policy w.now w.log w.stored
  restarts : ∀ c, Sparse policy.maxRestartsPerComponent policy.restartWindow policy.restartCooldown
    (charged (restarts c w.log))
  reboots : Sparse policy.maxRebootsPer24h day 0 (charged (reboots w.log))
  justified : Justified w.log

variable {w : World}

theorem now_record (hw : Monotone w.clock) (e : Event) : w.now ≤ (w.record e).now :=
  hw (Nat.le_succ _)

def Event.Quiet : Event → Prop
  | .restarted _ _ _ | .rebooted _ _ => False
  | _ => True

theorem Event.Quiet.restarts (h : e.Quiet) (c : Component) (log : List Event) :
    Watchdog.restarts c (e :: log) = Watchdog.restarts c log := by
  cases e <;> first | rfl | exact h.elim

theorem Event.Quiet.reboots (h : e.Quiet) (log : List Event) :
    Watchdog.reboots (e :: log) = Watchdog.reboots log := by
  cases e <;> first | rfl | exact h.elim

theorem Event.Quiet.justified (h : e.Quiet) (log : List Event) : e.Justified log := by
  cases e <;> trivial

theorem Event.Quiet.backed (h : e.Quiet) {d : DurableHistory} (hb : Backed policy t log d) :
    Backed policy t (e :: log) d :=
  ⟨fun c => by rw [h.restarts]; exact hb.restarts c, by rw [h.reboots]; exact hb.reboots⟩

theorem Sound.record (hw : Sound policy w) (he : e.Quiet) : Sound policy (w.record e) where
  monotone := hw.monotone
  backed := he.backed (hw.backed.later (now_record hw.monotone e))
  restarts c := by
    show Sparse _ _ _ (charged (Watchdog.restarts c (e :: w.log)))
    rw [he.restarts]
    exact hw.restarts c
  reboots := by
    show Sparse _ _ _ (charged (Watchdog.reboots (e :: w.log)))
    rw [he.reboots]
    exact hw.reboots
  justified := justified_cons hw.justified (he.justified _)

theorem Sound.store (hw : Sound policy w) (hb : Backed policy w.now w.log h) :
    Sound policy { w with stored := h } :=
  ⟨hw.monotone, hb, hw.restarts, hw.reboots, hw.justified⟩

/-! ## inside a tick -/

/-- the tick has read the time `t`, and its memory covers the calls -/
structure Ticking (policy : Policy) (t : Time) (s : Supervisor) (w : World) : Prop where
  sound : Sound policy w
  read : lastRead w.log = some t
  past : t ≤ w.now
  backed : Backed policy t w.log s.durable
  loaded : s.loaded = true

variable {s : Supervisor}

theorem Ticking.congr {s' : Supervisor} (h : Ticking policy t s w)
    (hrestarts : s'.durable.restartAttempts = s.durable.restartAttempts)
    (hreboots : s'.durable.rebootAttempts = s.durable.rebootAttempts)
    (hloaded : s'.loaded = s.loaded) : Ticking policy t s' w :=
  ⟨h.sound, h.read, h.past, h.backed.congr hrestarts hreboots, hloaded.trans h.loaded⟩

theorem Ticking.setRuntime (h : Ticking policy t s w) (c : Component) (r : ComponentRuntime) :
    Ticking policy t (s.setRuntime c r) w := h.congr rfl rfl rfl

theorem Ticking.prune (h : Ticking policy t s w) :
    Ticking policy t (s.setDurable (s.durable.prune t policy)) w :=
  ⟨h.sound, h.read, h.past, h.backed.prune, h.loaded⟩

theorem lastRead_record (he : e.isRead = false) : lastRead (w.record e).log = lastRead w.log := by
  cases e <;> first | rfl | cases he

theorem recent_record (he : e.isRead = false) : recent (w.record e).log = e :: recent w.log := by
  show (e :: w.log).takeWhile _ = _
  rw [takeWhile_cons, if_pos (by simp [he])]
  rfl

theorem Ticking.record (h : Ticking policy t s w) (he : e.Quiet) (hread : e.isRead = false) :
    Ticking policy t s (w.record e) :=
  ⟨h.sound.record he, (lastRead_record hread).trans h.read,
    le_trans h.past (now_record h.sound.monotone e), he.backed h.backed, h.loaded⟩

/-- every call of the outside world, whatever its fate -/
abbrev Any : Fate → Prop := fun _ => True

def Keeps {α : Type} (policy : Policy) (t : Time) (memory : α → Supervisor) (p : Prog α)
    (w : World) : Prop :=
  wp exec Any (Sound policy) p (fun a v => Ticking policy t (memory a) v) w

theorem keeps_conclude (h : Ticking policy t s w) (status : ComponentStatus) (changed : Bool) :
    Keeps policy t (fun a : Evaluated => a.1) (conclude s status changed) w := h

variable {α : Type} {k : Except Fault Unit → Prog α} {Q : α → World → Prop}

theorem wp_save (hw : Ticking policy t s w) (hb : Backed policy t w.log h)
    (herror : ∀ e v, Ticking policy t s v → wp exec Any (Sound policy) (k (.error e)) Q v)
    (hok : ∀ v, Ticking policy t s v → v.stored = h → v.log = .saved h :: w.log →
      wp exec Any (Sound policy) (k (.ok ())) Q v) :
    wp exec Any (Sound policy) (.call (.save h) k) Q w := by
  have hstored : Ticking policy t s { w with stored := h } :=
    ⟨hw.sound.store (hb.later hw.past), hw.read, hw.past, hw.backed, hw.loaded⟩
  refine wp_step hw.sound fun f _ r v hexec => ?_
  replace hexec : w.save h f = (r, v) := hexec
  unfold World.save at hexec
  by_cases hnormal : h.normal = true
  · rw [if_pos hnormal] at hexec
    cases f with
    | ok =>
      obtain ⟨rfl, rfl⟩ := Prod.mk.inj hexec
      exact hok _ (hstored.record (e := .saved h) trivial rfl) rfl rfl
    | fail =>
      obtain ⟨rfl, rfl⟩ := Prod.mk.inj hexec
      exact herror _ _ hw
    | late =>
    obtain ⟨rfl, rfl⟩ := Prod.mk.inj hexec
    exact herror _ _ hstored
  · rw [if_neg hnormal] at hexec
    obtain ⟨rfl, rfl⟩ := Prod.mk.inj hexec
    exact herror _ _ hw

theorem wp_failClosed (hw : Ticking policy t s w)
    (herror : ∀ e v, Ticking policy t s v → wp exec Any (Sound policy) (k (.error e)) Q v)
    (hok : Ticking policy t s (w.record .blocked) →
      wp exec Any (Sound policy) (k (.ok ())) Q (w.record .blocked)) :
    wp exec Any (Sound policy) (.call .failClosed k) Q w := by
  have hblocked : Ticking policy t s (w.record .blocked) := hw.record trivial rfl
  refine ⟨hw.sound, fun f _ => ?_⟩
  cases f with
  | ok => exact hok hblocked
  | fail => exact herror _ _ hw
  | late => exact herror _ _ hblocked

variable {c : Component}

/-- **A restart is sound** when its attempt is stored, the budget had room and the path is
blocked. -/
theorem Sound.restarted (hw : Sound policy w) (hread : lastRead w.log = some t) (hpast : t ≤ w.now)
    (hb : Backed policy t w.log h) (hstored : w.stored = h.recordRestart c t)
    (hroom : (within policy.restartWindow t (h.restartAttempts c)).length <
      policy.maxRestartsPerComponent)
    (hlast : ∀ last, (within policy.restartWindow t (h.restartAttempts c)).getLast? = some last →
      last + policy.restartCooldown ≤ t) (hsaved : .saved (h.recordRestart c t) ∈ recent w.log)
    (hblocked : (spec c).restartWithoutPathBlock = false → .blocked ∈ recent w.log) :
    Sound policy (w.record (.restarted c t w.now)) where
  monotone := hw.monotone
  backed := by
    show Backed _ _ _ w.stored
    rw [hstored]
    exact (hb.restarted c).later (le_trans hpast (now_record hw.monotone _))
  restarts d := by
    show Sparse _ _ _ (charged (if c = d then _ else _))
    by_cases hd : c = d
    · subst hd
      rw [if_pos rfl, charged, map_append]
      exact (hw.restarts c).concat ((hb.restarts c).count hroom)
        fun x hx => (hb.restarts c).apart policy.cooldown_le_window hlast hx
    · rw [if_neg hd]
      exact hw.restarts d
  reboots := hw.reboots
  justified := by
    refine justified_cons hw.justified ⟨hread, hpast, ⟨_, hsaved, ?_⟩, hblocked⟩
    show t ∈ update h.restartAttempts c _ c
    rw [update_self]
    exact mem_append_right _ (mem_singleton.mpr rfl)

theorem Sound.rebooted (hw : Sound policy w) (hread : lastRead w.log = some t) (hpast : t ≤ w.now)
    (hb : Backed policy t w.log h) (hstored : w.stored = h.recordReboot t)
    (hroom : (within day t h.rebootAttempts).length < policy.maxRebootsPer24h)
    (hsaved : .saved (h.recordReboot t) ∈ recent w.log) (hblocked : .blocked ∈ recent w.log) :
    Sound policy (w.record (.rebooted t w.now)) where
  monotone := hw.monotone
  backed := by
    show Backed _ _ _ w.stored
    rw [hstored]
    exact hb.rebooted.later (le_trans hpast (now_record hw.monotone _))
  restarts := hw.restarts
  reboots := by
    show Sparse _ _ _ (charged (Watchdog.reboots w.log ++ [_]))
    rw [charged, map_append]
    refine hw.reboots.concat (hb.reboots.count hroom) fun x hx => ?_
    rw [add_zero]
    obtain ⟨old, new, -, -, hnew, hcalls⟩ := hb.reboots
    by_cases hnear : t - day ≤ x
    · exact hnew x (hcalls.subset (mem_within.mpr ⟨hx, hnear⟩))
    · exact le_trans (le_of_lt (not_le.mp hnear)) (sub_le_self t (by decide))
  justified :=
    justified_cons hw.justified ⟨hread, hpast, ⟨_, hsaved,
      mem_append_right _ (mem_singleton.mpr rfl)⟩, hblocked⟩

theorem within_prune (h : DurableHistory) (policy : Policy) (t : Time) (c : Component) :
    within policy.restartWindow t ((h.prune t policy).restartAttempts c) =
      (h.prune t policy).restartAttempts c := within_within le_rfl _

theorem restartRefused_none {now : Time} (hnone : h.restartRefused c policy now = none) :
    (h.restartAttempts c).length < policy.maxRestartsPerComponent ∧
      ∀ last, (h.restartAttempts c).getLast? = some last → last + policy.restartCooldown ≤ now := by
  unfold DurableHistory.restartRefused at hnone
  split at hnone
  · cases hnone
  rename_i hroom
  refine ⟨not_le.mp hroom, fun last hlast => ?_⟩
  rw [hlast] at hnone
  dsimp only at hnone
  split at hnone
  · cases hnone
  · rename_i hcool
    exact not_lt.mp hcool

theorem keeps_answer {o : Op} {k : Ret o → Prog α} {memory : α → Supervisor}
    (hw : Ticking policy t s w) (hexec : ∀ f, (exec o f w).2 = w)
    (hk : ∀ r, Keeps policy t memory (k r) w) : Keeps policy t memory (.call o k) w := by
  refine ⟨hw.sound, fun f _ => ?_⟩
  rw [hexec f]
  exact hk _

/-- **The attempt is saved, and only then the restart is made**, if the budget has room. -/
theorem keeps_chargeRestart (h : Ticking policy t s w) (status : ComponentStatus)
    (hroom : (within policy.restartWindow t (s.durable.restartAttempts c)).length <
      policy.maxRestartsPerComponent)
    (hlast : ∀ last, (within policy.restartWindow t (s.durable.restartAttempts c)).getLast? =
      some last → last + policy.restartCooldown ≤ t)
    (hblocked : (spec c).restartWithoutPathBlock = false → .blocked ∈ recent w.log) :
    Keeps policy t (fun a : Evaluated => a.1) (chargeRestart c t status s) w := by
  have hrecorded : Ticking policy t (s.setDurable (s.durable.recordRestart c t)) w :=
    ⟨h.sound, h.read, h.past, h.backed.recordRestart c, h.loaded⟩
  refine wp_save hrecorded hrecorded.backed (fun e x hx => hx) fun x hx hstored hlog => ?_
  have hrecent : recent x.log = .saved (s.durable.recordRestart c t) :: recent w.log := by
    rw [hlog]
    rfl
  have hbacked : Backed policy t x.log s.durable := by
    rw [hlog]
    exact Event.Quiet.backed (e := .saved _) trivial h.backed
  have hsound := hx.sound.restarted hx.read hx.past hbacked hstored hroom hlast
    (by rw [hrecent]; exact mem_cons_self)
    (fun hspec => by rw [hrecent]; exact mem_cons_of_mem _ (hblocked hspec))
  have hticking : Ticking policy t (s.setDurable (s.durable.recordRestart c t))
      (x.record (.restarted c t x.now)) :=
    ⟨hsound, hx.read, le_trans hx.past (now_record hx.sound.monotone _), hbacked.restarted c,
      hx.loaded⟩
  refine ⟨hx.sound, fun f _ => ?_⟩
  cases f <;> exact hticking.setRuntime c _

/-- the restart of a component: the budget is looked up and the path is blocked first -/
theorem keeps_restartComponent (h : Ticking policy t s w) (c : Component) (status : ComponentStatus)
    (changed : Bool) :
    Keeps policy t (fun a : Evaluated => a.1) (restartComponent policy c t status changed s) w := by
  have hpruned := h.prune
  unfold restartComponent
  cases hrefused : (s.durable.restartAllowed c policy t).2 with
  | some reason =>
    simp only [hrefused]
    exact keeps_conclude hpruned _ _
  | none =>
  simp only [hrefused]
  obtain ⟨hroom, hlast⟩ := restartRefused_none hrefused
  rw [← within_prune] at hroom
  rw [← within_prune] at hlast
  by_cases hspec : (spec c).restartWithoutPathBlock = true
  · rw [if_pos hspec]
    exact keeps_chargeRestart hpruned _ hroom hlast
      fun hfalse => absurd (hspec.symm.trans hfalse) (by decide)
  rw [if_neg hspec]
  refine wp_failClosed hpruned (fun e v hv => hv) fun hv => ?_
  refine keeps_chargeRestart hv _ hroom hlast fun _ => ?_
  rw [recent_record rfl]
  exact mem_cons_self

theorem keeps_recover (h : Ticking policy t s w) (c : Component) (maintenance : Bool)
    (status : ComponentStatus) :
    Keeps policy t (fun a : Evaluated => a.1) (recover policy c maintenance t status s) w := by
  unfold recover
  have hmarked : Ticking policy t (if (s.durable.criticalSince c).isNone then
      s.setDurable (s.durable.markCritical c t) else s) w := by
    split
    · exact h.congr rfl rfl rfl
    · exact h
  dsimp only
  generalize (if (s.durable.criticalSince c).isNone then
    s.setDurable (s.durable.markCritical c t) else s) = s' at hmarked ⊢
  split
  · exact keeps_conclude hmarked _ _
  split
  · exact keeps_conclude hmarked _ _
  split
  · exact keeps_conclude hmarked _ _
  split
  · refine keeps_answer hmarked (fun f => by cases f <;> rfl) fun r => ?_
    cases r <;> exact keeps_conclude (hmarked.setRuntime c _) _ _
  split
  · exact keeps_conclude hmarked _ _
  · exact keeps_restartComponent hmarked c _ _

theorem keeps_recoverHealthy (h : Ticking policy t s w) (c : Component) (status : ComponentStatus) :
    Keeps policy t (fun a : Evaluated => a.1) (recoverHealthy policy c t status s) w := by
  unfold recoverHealthy
  dsimp only
  split <;> split <;>
    · refine keeps_conclude ?_ _ _
      exact h.congr rfl rfl rfl

theorem keeps_evaluateComponent (h : Ticking policy t s w) (observation : Observation)
    (maintenance : Bool) (c : Component) : Keeps policy t (fun a : Evaluated => a.1)
      (evaluateComponent policy observation maintenance t c s) w := by
  unfold evaluateComponent
  have hcleared : Ticking policy t (if (s.durable.criticalSince c).isSome then
      s.setDurable (s.durable.clearCritical c) else s) w := by
    split
    · exact h.congr rfl rfl rfl
    · exact h
  dsimp only
  split
  · exact hcleared.setRuntime c _
  split
  · exact keeps_recoverHealthy h c _
  split
  · exact keeps_conclude (hcleared.setRuntime c _) _ _
  split
  · exact keeps_conclude (h.setRuntime c _) _ _
  · exact keeps_recover (h.setRuntime c _) c maintenance _

theorem keeps_evaluateEach (h : Ticking policy t s w) (snapshot : ProbeSnapshot)
    (components : List Component) :
    Keeps policy t (fun a => a.1) (evaluateEach policy snapshot t components s) w := by
  induction components generalizing s w with
  | nil => exact h
  | cons c cs ih =>
    rw [evaluateEach]
    refine wp_bind.2 (wp_post ?_ (keeps_evaluateComponent h _ _ c))
    rintro ⟨s', status, changed⟩ v hv
    refine wp_bind.2 (wp_post ?_ (ih hv))
    rintro ⟨s'', statuses, more⟩ v' hv'
    exact hv'

/-- **The reboot of the host**: the attempt is saved, the path is blocked, and only then the host
is rebooted. -/
theorem keeps_rebootHost (h : Ticking policy t s w) (statuses : List ComponentStatus)
    (hroom : (within day t s.durable.rebootAttempts).length < policy.maxRebootsPer24h) :
    Keeps policy t (fun a : Rebooted => a.1) (rebootHost t statuses s) w := by
  have hrecorded : Ticking policy t (s.setDurable (s.durable.recordReboot t)) w :=
    ⟨h.sound, h.read, h.past, h.backed.recordReboot, h.loaded⟩
  refine wp_save hrecorded hrecorded.backed (fun e x hx => hx) fun x hx hstored hlog => ?_
  refine wp_failClosed hx (fun e v hv => hv) fun hv => ?_
  have hrecent : recent (x.record .blocked).log =
      .blocked :: .saved (s.durable.recordReboot t) :: recent w.log := by
    rw [recent_record rfl, hlog]
    rfl
  have hbacked : Backed policy t (x.record .blocked).log s.durable := by
    show Backed _ _ (.blocked :: x.log) _
    rw [hlog]
    exact Event.Quiet.backed (e := .blocked) trivial
      (Event.Quiet.backed (e := .saved _) trivial h.backed)
  have hsound := hv.sound.rebooted hv.read hv.past hbacked hstored hroom
    (by rw [hrecent]; exact mem_cons_of_mem _ mem_cons_self)
    (by rw [hrecent]; exact mem_cons_self)
  refine ⟨hv.sound, fun f _ => ?_⟩
  have hticking : Ticking policy t (s.setDurable (s.durable.recordReboot t))
      ((x.record .blocked).record (.rebooted t (x.record .blocked).now)) :=
    ⟨hsound, hv.read, le_trans hv.past (now_record hv.sound.monotone _), hbacked.rebooted,
      hv.loaded⟩
  cases f <;> exact hticking

theorem Ticking.clearPending (h : Ticking policy t s w) :
    Ticking policy t (clearPending s).1 w := by
  unfold Watchdog.clearPending
  split
  · exact h.congr rfl rfl rfl
  · exact h

theorem keeps_evaluateReboot (h : Ticking policy t s w) (critical : List Component)
    (maintenance : Bool) (statuses : List ComponentStatus) :
    Keeps policy t (fun a : Rebooted => a.1)
      (evaluateReboot policy critical maintenance t statuses s) w := by
  have hpruned := h.prune
  unfold evaluateReboot
  split
  · exact h.clearPending
  split
  · exact h.clearPending
  split
  · exact h
  cases hrefused : (s.durable.rebootAllowed policy t).2 with
  | some reason =>
    simp only [hrefused]
    exact hpruned
  | none =>
  simp only [hrefused]
  split
  · exact hpruned.congr rfl rfl rfl
  split
  · exact hpruned
  refine keeps_rebootHost hpruned statuses ?_
  show (within day t (within day t s.durable.rebootAttempts)).length < _
  rw [within_within le_rfl]
  unfold DurableHistory.rebootAllowed at hrefused
  dsimp only at hrefused
  split at hrefused
  · cases hrefused
  split at hrefused
  · cases hrefused
  · rename_i hroom
    exact not_le.mp hroom

/-! ## a tick -/

/-- between two ticks: the memory, if there is one, covers the calls -/
structure Between (policy : Policy) (s : Supervisor) (w : World) : Prop where
  sound : Sound policy w
  backed : s.loaded = true → Backed policy w.now w.log s.durable

theorem Ticking.between (h : Ticking policy t s w) :
    Between policy s w := ⟨h.sound, fun _ => h.backed.later h.past⟩

def Safe (policy : Policy) (p : Prog (Supervisor × List Fault)) (w : World) : Prop :=
  wp exec Any (Sound policy) p (fun a v => Between policy a.1 v) w

theorem safe_publish (h : Ticking policy t s w) (status : Status) (faults : List Fault) :
    Safe policy (publish status faults s) w := by
  refine ⟨h.sound, fun f _ => ?_⟩
  cases f with
  | ok => exact ⟨h.sound, h.between.backed⟩
  | fail => exact h.between
  | late => exact h.between

theorem safe_finish (h : Ticking policy t s w) (policyError : String) (snapshot : ProbeSnapshot)
    (statuses : List ComponentStatus) (changed : Bool) (faults : List Fault) :
    Safe policy (finish policyError snapshot t statuses changed faults s) w := by
  unfold finish
  split
  · exact wp_save h h.backed (fun e v hv => hv.between) fun v hv _ _ => safe_publish hv _ _
  · exact safe_publish h _ _

theorem safe_settle (h : Ticking policy t s w) (snapshot : ProbeSnapshot) (policyError : String)
    (faults : List Fault) (statuses : List ComponentStatus) (changed : Bool) :
    Safe policy (settle policy snapshot policyError faults t statuses changed s) w := by
  unfold settle
  have hwithdrawn : Ticking policy t
      (if snapshot.maintenance then clearPending s else (s, false)).1 w := by
    split
    · exact h.clearPending
    · exact h
  refine wp_bind.2 (wp_post ?_ (keeps_evaluateReboot hwithdrawn _ _ _))
  rintro ⟨s', statuses', changed', fault⟩ v hv
  exact safe_finish hv _ _ _ _ _

/-- what the start of a tick gives: a memory that covers the calls, or an error before there is
one -/
def Started (policy : Policy) (s : Supervisor) (r : Except Fault Supervisor) (w : World) : Prop :=
  Sound policy w ∧
    match r with
    | .ok s' => s'.loaded = true ∧ Backed policy w.now w.log s'.durable
    | .error _ => s.loaded = false

theorem load_state (w : World) (f : Fate) : (w.load f).2 = w := by
  cases f <;> rfl

theorem load_ok {f : Fate} (hload : (w.load f).1 = .ok h) : h = w.stored := by
  cases f with
  | ok =>
    replace hload : (if w.stored.normal then .ok w.stored else .error .history) =
      Except.ok (ε := Fault) h := hload
    split at hload
    · exact (Except.ok.inj hload).symm
    · cases hload
  | fail => cases hload
  | late => cases hload

theorem started_initializeMemory (h : Between policy s w) :
    wp exec Any (Sound policy) (initializeMemory s) (Started policy s) w := by
  unfold initializeMemory
  split
  · rename_i hloaded
    exact ⟨h.sound, hloaded, h.backed hloaded⟩
  rename_i hloaded
  have hnew : s.loaded = false := by simpa using hloaded
  refine ⟨h.sound, fun f _ => ?_⟩
  have hread : Sound policy (w.record (.read w.now)) := h.sound.record trivial
  refine wp_step hread fun f _ r v hexec => ?_
  replace hexec : (w.record (.read w.now)).load f = (r, v) := hexec
  have hv : v = w.record (.read w.now) := by
    rw [← load_state (w.record (.read w.now)) f, hexec]
  cases r with
  | error e => exact ⟨hv ▸ hread, hnew⟩
  | ok history =>
  have hstored := load_ok (congrArg Prod.fst hexec)
  rw [hv, hstored]
  exact ⟨hread, rfl, hread.backed⟩

/-- **A tick keeps the world sound, wherever it is cut off.** -/
theorem safe_tick (h : Between policy s w) : Safe policy (tick policy s) w := by
  have hs : Between policy { s with lastStatusWritten := false } w := ⟨h.sound, h.backed⟩
  refine wp_attempt (started_initializeMemory hs) ?_ ?_
  · rintro e v ⟨hv, hnew⟩
    exact ⟨hv, fun hloaded => absurd (hloaded.symm.trans hnew) (by decide)⟩
  rintro s' v ⟨hv, hloaded, hbacked⟩
  refine ⟨hv, fun f _ => ?_⟩
  have hticking : Ticking policy v.now (s'.setDurable (s'.durable.prune v.now policy))
      (v.record (.read v.now)) :=
    ⟨hv.record trivial, rfl, now_record hv.monotone _,
      Event.Quiet.backed (e := .read _) trivial hbacked.prune, hloaded⟩
  refine wp_step hticking.sound fun f _ r x hexec => ?_
  have hx : Ticking policy v.now (s'.setDurable (s'.durable.prune v.now policy)) x := by
    have hprobed : x = { v.record (.read v.now) with probed := v.probed + 1 } := by
      unfold exec at hexec
      cases f <;> exact (Prod.mk.inj hexec).2.symm
    rw [hprobed]
    exact ⟨⟨hticking.sound.monotone, hticking.sound.backed, hticking.sound.restarts,
      hticking.sound.reboots, hticking.sound.justified⟩, hticking.read, hticking.past,
      hticking.backed, hticking.loaded⟩
  refine wp_bind.2 (wp_post ?_ (keeps_evaluateEach hx _ _))
  rintro ⟨s'', statuses, changed⟩ y hy
  exact safe_settle hy _ _ _ _ _

/-! ## runs -/

theorem step_between (x : World × Supervisor) (turn : Turn) (h : Between policy x.2 x.1) :
    Between policy (step policy x turn).2 (step policy x turn).1 := by
  cases turn with
  | crash => exact ⟨h.sound, nofun⟩
  | tick fates =>
  obtain ⟨hdone, hcut⟩ := @wp_sound _ _ _ _ _ _ _ _ _ _ (safe_tick h) fates fun _ _ => trivial
  unfold step
  dsimp only
  cases hresult : (run exec (tick policy x.2) fates x.1).result with
  | some r => exact hdone r hresult
  | none => exact ⟨hcut hresult, nofun⟩

theorem run_between (turns : List Turn) (x : World × Supervisor) (h : Between policy x.2 x.1) :
    Between policy (turns.foldl (step policy) x).2 (turns.foldl (step policy) x).1 := by
  induction turns generalizing x with
  | nil => exact h
  | cons turn turns ih => exact ih _ (step_between x turn h)

/-- at most `limit` calls in any period of length `window` and none within `cooldown` of another,
by the readings; by the clock at the calls, shorter by the delay of the calls -/
structure Respects (limit : ℕ) (window cooldown : Time) (calls : List (Time × Time)) : Prop where
  period : ∀ s, (calls.filter fun a => s ≤ a.1 ∧ a.1 ≤ s + window).length ≤ limit
  apart : calls.Pairwise fun a b => a.1 + cooldown ≤ b.1
  delayed : ∀ delay, (∀ a ∈ calls, a.2 ≤ a.1 + delay) →
    (∀ s, (calls.filter fun a => s ≤ a.2 ∧ a.2 ≤ s + (window - delay)).length ≤ limit) ∧
      calls.Pairwise fun a b => a.2 + (cooldown - delay) ≤ b.2

theorem Sparse.respects {limit : ℕ} {window cooldown : Time} {calls : List (Time × Time)}
    (h : Sparse limit window cooldown (charged calls)) (hmade : ∀ a ∈ calls, a.1 ≤ a.2) :
    Respects limit window cooldown calls where
  period s := by
    have hperiod := h.period s
    rw [charged, filter_map, length_map] at hperiod
    exact hperiod
  apart := pairwise_map.mp h.apart
  delayed delay hdelay := h.delayed fun a ha => ⟨hmade a ha, hdelay a ha⟩

theorem Justified.tail (h : Justified (e :: log)) : Justified log :=
  fun newer x older heq => h (e :: newer) x older (by rw [heq]; rfl)

theorem restarts_made (h : Justified log) : ∀ a ∈ restarts c log, a.1 ≤ a.2 := by
  induction log with
  | nil => exact fun a ha => absurd ha not_mem_nil
  | cons e log ih =>
    intro a ha
    cases e with
    | restarted d reading time =>
      rw [restarts] at ha
      split at ha
      · rcases mem_append.mp ha with ha | ha
        · exact ih h.tail a ha
        · obtain rfl := mem_singleton.mp ha
          exact (h [] _ log rfl).2.1
      · exact ih h.tail a ha
    | read | saved | blocked | rebooted => exact ih h.tail a ha

theorem reboots_made (h : Justified log) : ∀ a ∈ reboots log, a.1 ≤ a.2 := by
  induction log with
  | nil => exact fun a ha => absurd ha not_mem_nil
  | cons e log ih =>
    intro a ha
    cases e with
    | rebooted reading time =>
      rcases mem_append.mp ha with ha | ha
      · exact ih h.tail a ha
      · obtain rfl := mem_singleton.mp ha
        exact (h [] _ log rfl).2.1
    | read | saved | blocked | restarted => exact ih h.tail a ha

/-- **The budgets of restarts and reboots hold in every run of ticks and crashes**, and every call
is made after its attempt was saved and the path was blocked. -/
theorem budgets_respected (policy : Policy) (w : World) (turns : List Turn)
    (hclock : Monotone w.clock) (hstart : w.log = []) :
    let log := (turns.foldl (step policy) (w, {})).1.log
    (∀ c, Respects policy.maxRestartsPerComponent policy.restartWindow policy.restartCooldown
      (restarts c log)) ∧
    Respects policy.maxRebootsPer24h day 0 (reboots log) ∧ Justified log := by
  have hw : Between policy {} w := by
    refine ⟨⟨hclock, ⟨fun c => ?_, ?_⟩, fun c => ?_, ?_, ?_⟩, nofun⟩
    · rw [hstart]
      exact covers_nil _
    · rw [hstart]
      exact covers_nil _
    · rw [hstart]
      exact sparse_nil
    · rw [hstart]
      exact sparse_nil
    rw [hstart]
    intro newer e older heq
    cases newer <;> cases heq
  have hsound := (run_between turns (w, {}) hw).sound
  exact ⟨fun c => Sparse.respects (hsound.restarts c) (restarts_made hsound.justified),
    Sparse.respects hsound.reboots (reboots_made hsound.justified), hsound.justified⟩

/-! ## samples -/

def samplePolicy : Policy where
  failureThreshold := 1
  reconcileEnabled := false
  restartCooldownSeconds := 5
  restartWindowSeconds := 60
  valid := by
    constructor <;> first | decide | (intro c; cases c <;> decide)

/-- the control plane fails whenever it is observed, and the clock moves on while the first tick
recovers it -/
def sampleWorld : World where
  clock := fun n => seconds (if n ≤ 3 then 0 else if n ≤ 5 then 100 else 101)
  probes := fun _ => .ok
    { components := fixedComponents.map fun c => { component := c, healthy := c ≠ .control } }

def sampleTicks : List Turn := [.tick (List.replicate 12 .ok), .tick (List.replicate 12 .ok)]

theorem sampleWorld_monotone : Monotone sampleWorld.clock := by
  intro a b hab
  refine Int.mul_le_mul_of_nonneg_right ?_ (by decide)
  split <;> split <;> (try split) <;> omega

theorem sample_restarts :
    restarts .control (sampleTicks.foldl (step samplePolicy) (sampleWorld, {})).1.log =
      [(0, seconds 100), (seconds 101, seconds 101)] := by
  decide +kernel

theorem budgets_respected_sample :
    (restarts .control (sampleTicks.foldl (step samplePolicy) (sampleWorld, {})).1.log).length = 2 ∧
    Respects samplePolicy.maxRestartsPerComponent samplePolicy.restartWindow
      samplePolicy.restartCooldown
      (restarts .control (sampleTicks.foldl (step samplePolicy) (sampleWorld, {})).1.log) := by
  refine ⟨?_, (budgets_respected samplePolicy sampleWorld sampleTicks sampleWorld_monotone rfl).1
    .control⟩
  rw [sample_restarts]
  rfl

/-- the recovery of the first tick takes a hundred seconds; the restart of the next tick comes a
second after that of the first, although the cooldown is five -/
theorem restarts_too_close :
    Monotone sampleWorld.clock ∧
    ¬ (restarts .control (sampleTicks.foldl (step samplePolicy) (sampleWorld, {})).1.log).Pairwise
      fun a b => a.2 + samplePolicy.restartCooldown ≤ b.2 := by
  refine ⟨sampleWorld_monotone, ?_⟩
  rw [sample_restarts]
  decide

/-! ## the first tick of a process that cannot read the policy -/

/-- the policy of a process that has not read one: `DefaultPolicy` -/
def retained : Policy where
  valid := by constructor <;> first | decide | (intro c; cases c <;> decide)

def seen (now : Time) : Except Fault ProbeSnapshot → ProbeSnapshot × String × List Fault
  | .ok snapshot => (snapshot, "POLICY_READ_FAILED", [])
  | .error e =>
    (missingProbeSnapshot now, mergeCode "POLICY_READ_FAILED" "LOCAL_PROBE_FAILED", [e])

def tickSeen (now : Time) (s : Supervisor) :
    ProbeSnapshot × String × List Fault → Prog (Supervisor × List Fault)
  | (snapshot, policyError, faults) =>
    (evaluateEach retained snapshot now fixedComponents s).bind fun (s, statuses, changed) =>
      settle retained snapshot policyError faults now statuses changed s

/-- the tick of a process that has loaded the history, and cannot read the policy -/
def tickUnread (s : Supervisor) : Prog (Supervisor × List Fault) :=
  .call .now fun (now : Time) =>
    let s := s.setDurable (s.durable.prune now retained)
    .call .snapshot fun answer => tickSeen now s (seen now answer)

def Answers (now : Time) (answer : Except Fault ProbeSnapshot) : (o : Op) → Ret o → Prop
  | .now, t => t = now
  | .snapshot, r => r = answer
  | _, _ => True

def Spares (policy : Policy) (stored : DurableHistory) (now : Time) : Op → Prop
  | .restart _ _ => False
  | .save h => ∀ c, ∀ t ∈ stored.restartAttempts c, now - policy.restartWindow ≤ t →
    t ∈ h.restartAttempts c
  | _ => True

def Covered (policy : Policy) (h : DurableHistory) (now : Time) : Prop :=
  ∀ c, ∀ t ∈ h.restartAttempts c, now - policy.restartWindow ≤ t → now - retained.restartWindow ≤ t

def clears (h : DurableHistory) (snapshot : ProbeSnapshot) (c : Component) : Bool :=
  let observation := snapshot.observation c
  (h.criticalSince c).isSome && (!observation.applicable ||
    !observation.healthy && observation.classification = some .external)

structure Spared (c : Component) (s s' : Supervisor) : Prop where
  attempts : s'.durable.restartAttempts = s.durable.restartAttempts
  pending : s'.durable.pendingRebootAt = s.durable.pendingRebootAt
  runtime : ∀ x ≠ c, s'.runtime x = s.runtime x
  critical : ∀ x ≠ c, s'.durable.criticalSince x = s.durable.criticalSince x

variable {answer : Except Fault ProbeSnapshot}

section
variable {snapshot : ProbeSnapshot} {now : Time} {c : Component} {s : Supervisor}

theorem spared_setRuntime (r : ComponentRuntime) : Spared c s (s.setRuntime c r) :=
  ⟨rfl, rfl, fun _ hx => update_of_ne hx .., fun _ _ => rfl⟩

theorem spared_cleared (b : Bool) (r : ComponentRuntime) : Spared c s
    ((if b then s.setDurable (s.durable.clearCritical c) else s).setRuntime c r) := by
  cases b with
  | false => exact spared_setRuntime r
  | true =>
    exact ⟨rfl, rfl, fun _ hx => update_of_ne hx .., fun _ hx => update_of_ne hx ..⟩

theorem evaluateComponent_fresh (hs : s.runtime c = {}) (maintenance : Bool) : ∃ s' status changed,
    evaluateComponent retained (snapshot.observation c) maintenance now c s =
      .done (s', status, changed) ∧ changed = clears s.durable snapshot c ∧ Spared c s s' ∧
        status.state ≠ .failed := by
  unfold evaluateComponent clears
  generalize snapshot.observation c = o
  rw [hs]
  split
  · next happ => exact ⟨_, _, _, rfl, by simp_all, spared_cleared _ _, nofun⟩
  next happ =>
  split
  · next hhealthy =>
    unfold recoverHealthy
    rw [hs]
    dsimp only
    split <;> exact ⟨_, _, _, rfl, by simp_all [retained], spared_setRuntime _, nofun⟩
  next hhealthy =>
  split
  · next hext => exact ⟨_, _, _, rfl, by simp_all, spared_cleared _ _, nofun⟩
  · next hext => exact ⟨_, _, _, rfl, by simp_all, spared_setRuntime _, nofun⟩

theorem evaluateEach_fresh {h : DurableHistory} {cs : List Component} (hcs : cs.Nodup)
    (hs : ∀ c ∈ cs, s.runtime c = {} ∧ s.durable.criticalSince c = h.criticalSince c) :
    ∃ s' statuses, evaluateEach retained snapshot now cs s =
        .done (s', statuses, cs.any (clears h snapshot)) ∧
      s'.durable.restartAttempts = s.durable.restartAttempts ∧
      s'.durable.pendingRebootAt = s.durable.pendingRebootAt ∧ ∀ x ∈ statuses, x.state ≠ .failed := by
  induction cs generalizing s with
  | nil => exact ⟨s, [], rfl, rfl, rfl, fun _ hx => absurd hx not_mem_nil⟩
  | cons c cs ih =>
    obtain ⟨hc, hcs⟩ := nodup_cons.1 hcs
    obtain ⟨hfresh, hcritical⟩ := hs c mem_cons_self
    obtain ⟨s₁, status, changed, heq, rfl, hspared, hstate⟩ :=
      @evaluateComponent_fresh snapshot now c s hfresh snapshot.maintenance
    obtain ⟨s₂, statuses, hrest, hattempts, hpending, hstates⟩ := ih hcs fun x hx => by
      have hne : x ≠ c := fun h => hc (h ▸ hx)
      rw [hspared.runtime x hne, hspared.critical x hne]
      exact hs x (mem_cons_of_mem _ hx)
    refine ⟨s₂, status :: statuses, ?_, hattempts.trans hspared.attempts,
      hpending.trans hspared.pending, forall_mem_cons.2 ⟨hstate, hstates⟩⟩
    rw [evaluateEach, heq]
    show (evaluateEach retained snapshot now cs s₁).bind _ = _
    rw [hrest, any_cons]
    show Proc.done (s₂, status :: statuses, clears s.durable snapshot c || _) = _
    rw [clears, hcritical, clears]

theorem settle_fresh {statuses : List ComponentStatus} (hstates : ∀ x ∈ statuses, x.state ≠ .failed)
    (policyError : String) (faults : List Fault) (changed : Bool) : ∃ s',
    settle retained snapshot policyError faults now statuses changed s =
      finish policyError snapshot now statuses (changed || s.durable.pendingRebootAt.isSome) faults
        s' ∧ s'.durable.restartAttempts = s.durable.restartAttempts := by
  have hnone : (statuses.filter fun x => x.state = .failed && (spec x.component).rebootEligible &&
      retained.recoveryMode x.component = .restart) = [] := by
    refine filter_eq_nil_iff.2 fun x hx => ?_
    simp [hstates x hx]
  unfold settle
  rw [hnone]
  unfold evaluateReboot clearPending
  cases hpending : s.durable.pendingRebootAt with
  | none => exact ⟨s, by cases snapshot.maintenance <;> simp [hpending], rfl⟩
  | some t =>
    refine ⟨s.setDurable { s.durable with pendingRebootAt := none }, ?_, rfl⟩
    cases snapshot.maintenance <;> simp [hpending, Supervisor.setDurable]

theorem all_finish {P : Op → Prop} {policyError : String}
    {statuses : List ComponentStatus} {changed : Bool} {faults : List Fault}
    (hwrite : ∀ status, P (.write status)) :
    (finish policyError snapshot now statuses changed faults s).All (Answers now answer) P ↔
      (changed = true → P (.save s.durable)) := by
  have hpublish : ∀ status, (publish status faults s).All (Answers now answer) P := fun status =>
    ⟨hwrite status, fun | .error _, _ => trivial | .ok _, _ => trivial⟩
  unfold finish
  cases changed with
  | false => exact ⟨nofun, fun _ => hpublish _⟩
  | true =>
    refine ⟨fun h _ => h.1, fun h => ⟨h rfl, ?_⟩⟩
    rintro (_ | _) _
    · trivial
    · exact hpublish _

theorem tickSeen_spares_iff {policy : Policy}
    (hs : s.runtime = fun _ => {}) (policyError : String) (faults : List Fault) :
    (tickSeen now (s.setDurable (s.durable.prune now retained)) (snapshot, policyError, faults)).All
        (Answers now answer) (Spares policy s.durable now) ↔
      Covered policy s.durable now ∨ s.durable.pendingRebootAt = none ∧
        ∀ c ∈ fixedComponents, clears s.durable snapshot c = false := by
  obtain ⟨s₁, statuses, heach, hattempts, hpending, hstates⟩ :=
    @evaluateEach_fresh snapshot now (s.setDurable (s.durable.prune now retained))
      s.durable fixedComponents (by decide) fun c _ => ⟨congrFun hs c, rfl⟩
  obtain ⟨s₂, hsettle, hkept⟩ := @settle_fresh snapshot now s₁ statuses hstates policyError faults
    (fixedComponents.any (clears s.durable snapshot))
  have hsaved : Spares policy s.durable now (.save s₂.durable) ↔ Covered policy s.durable now := by
    show (∀ c, ∀ t ∈ s.durable.restartAttempts c, _ → t ∈ s₂.durable.restartAttempts c) ↔ _
    rw [hkept, hattempts]
    refine forall_congr' fun c => forall₂_congr fun t ht => imp_congr_right fun _ => ?_
    show t ∈ DurableHistory.recentTimestamps _ _ ↔ _
    simp [DurableHistory.recentTimestamps, ht]
  rw [tickSeen, heach]
  show (settle retained snapshot policyError faults now statuses _ s₁).All _ _ ↔ _
  rw [hsettle, all_finish fun _ => trivial, hsaved, hpending, Bool.or_eq_true, imp_iff_not_or,
    or_comm]
  show _ ∨ ¬ (_ ∨ s.durable.pendingRebootAt.isSome = true) ↔ _
  simp only [not_or, any_eq_true, not_exists, not_and, Bool.not_eq_true,
    Option.isSome_eq_false_iff, Option.isNone_iff_eq_none, and_comm]

end

/-- **the first tick restarts nothing, and no attempt that the stored policy counts is lost, exactly
when the default policy counts these attempts too, or nothing else of the history changes** -/
theorem unread_spares_iff (policy : Policy) (now : Time) (answer : Except Fault ProbeSnapshot) :
    (initializeMemory {}).Ends fun loaded => ∀ s, loaded = .ok s →
      ((tickUnread s).All (Answers now answer) (Spares policy s.durable now) ↔
        Covered policy s.durable now ∨ s.durable.pendingRebootAt = none ∧
          ∀ c ∈ fixedComponents, clears s.durable (seen now answer).1 c = false) := by
  rintro started (_ | stored) s hs
  · cases hs
  · obtain rfl := Except.ok.inj hs
    rw [← tickSeen_spares_iff rfl (seen now answer).2.1 (seen now answer).2.2]
    exact ⟨fun h => (h.2 now rfl).2 answer rfl,
      fun h => ⟨trivial, fun | _, rfl => ⟨trivial, fun | _, rfl => h⟩⟩⟩

def sampleFresh : Supervisor where
  loaded := true
  startedAt := some 0
  durable := { restartAttempts := fun _ => [0], pendingRebootAt := some 0 }

def hourPolicy : Policy where
  restartWindowSeconds := 3600
  valid := by constructor <;> first | decide | (intro c; cases c <;> decide)

/-- the tick takes back the pending reboot, and a restart of sixteen minutes ago is forgotten -/
theorem unread_forgets : ¬ (tickUnread sampleFresh).All (Answers (seconds 960) (.ok {}))
    (Spares hourPolicy sampleFresh.durable (seconds 960)) := by
  intro h
  have h := (h.2 _ rfl).2 _ rfl
  rcases (tickSeen_spares_iff (s := sampleFresh) rfl _ _).1 h with h | h
  · exact absurd (h .control 0 (mem_singleton.2 rfl) (by decide)) (by decide)
  · exact Option.some_ne_none _ h.1

end GatewayVpn.Watchdog
