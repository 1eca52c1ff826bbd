import GatewayVpn.Durable.Interleave
import GatewayVpn.NetworkApply.View

/-!
# Network apply: the rollback timer against the engine

The rollback timer starts a process of its own, `gateway-vpn network-rollback`, which shares only
the status file, the row and the host with the engine.  Neither takes a lock.  Here one `Apply` or
`Confirm` runs at the same time as the timer's process, every operation is carried out, and a
schedule says whose step is next.

The two processes are first described by what they do to the three things they share (`Shared`):
`applyShared`, `confirmShared` and `timerShared` are the protocol.  The procedures of the engine
move in lockstep with it (`leads_apply`, `leads_confirm`, `follows_timer`), so a schedule ends badly
for them exactly when it does for the protocol, whose schedules are finitely many.
-/

namespace GatewayVpn.NetworkApply

open Durable

/-! ## the protocol -/

instance : Fintype TxState :=
  .ofList [.preparing, .armed, .applied, .confirming, .confirmed, .rolledBack, .failed]
    fun s => by cases s <;> decide

instance : Fintype Phase :=
  .ofList [.created, .snapshotReady, .armed, .applied, .confirming, .confirmed, .rolledBack, .failed]
    fun p => by cases p <;> decide

/-- what the two processes share: the row, the status file, and whether the last call of the
backend was a `Rollback` -/
structure Shared where
  row : TxState
  phase : Phase
  rolled : Bool

inductive Access where
  | state
  | phase
  | setPhase (p : Phase)
  | backend (call : BackendCall)
  | transition (expected : List TxState) (next : TxState)
  | other

@[reducible] def Access.Ret : Access → Type
  | .state => TxState
  | .phase => Phase
  | .transition _ _ => Bool
  | _ => Unit

abbrev SharedProc := Proc Access Access.Ret Unit

def access : (o : Access) → Shared → o.Ret × Shared
  | .state, a => (a.row, a)
  | .phase, a => (a.phase, a)
  | .setPhase p, a => ((), { a with phase := p })
  | .backend call, a => ((), { a with rolled := call = .rollback })
  | .transition expected next, a =>
    if expected.contains a.row then (true, { a with row := next }) else (false, a)
  | .other, a => ((), a)

/-- how the checks of a call go that do not depend on what the other process does -/
inductive Verdict where
  | invalid
  | unreadable
  /-- the deadline has passed when the clock is read, or the token is wrong -/
  | late
  /-- the confirmation came over a path that is not allowed -/
  | foreign
  | passes
  deriving DecidableEq

instance : Fintype Verdict :=
  .ofList [.invalid, .unreadable, .late, .foreign, .passes] fun v => by cases v <;> decide

def rollbackShared : SharedProc :=
  .call (.backend .rollback) fun _ =>
  .call (.setPhase .rolledBack) fun _ =>
  .call (.transition unfinishedStates .rolledBack) fun _ =>
  .call .other fun _ => .done ()

def applyArmedShared : SharedProc :=
  .call (.backend .apply) fun _ =>
  .call (.setPhase .applied) fun _ =>
  .call (.transition [.armed] .applied) fun ok => if ok then .done () else rollbackShared

def applyShared (v : Verdict) : SharedProc :=
  if v = .invalid then .done ()
  else .call .state fun s =>
  if s ≠ .armed then .done ()
  else .call .phase fun p =>
  if p ≠ .armed then .done ()
  else if v = .unreadable then rollbackShared
  else .call .other fun _ => if v = .late then rollbackShared else applyArmedShared

def confirmAcceptedShared : SharedProc :=
  .call (.setPhase .confirming) fun _ =>
  .call (.transition [.applied] .confirming) fun ok =>
  if !ok then .done ()
  else .call .other fun _ =>
  .call (.backend .commit) fun _ =>
  .call (.setPhase .confirmed) fun _ =>
  .call (.transition [.confirming] .confirmed) fun _ => .done ()

def confirmShared (v : Verdict) : SharedProc :=
  if v = .invalid then .done ()
  else .call .state fun s =>
  if s ≠ .applied then .done ()
  else if v = .unreadable then .done ()
  else .call .other fun _ =>
  if v = .late then .done ()
  else .call .phase fun p =>
  if p ≠ .applied then .done ()
  else if v = .foreign then .done ()
  else confirmAcceptedShared

/-- the phases of which the timer's process keeps its hands off -/
def Phase.respected (p : Phase) : Bool := p = .confirmed || p = .confirming || p = .rolledBack

def timerShared : SharedProc :=
  .call .phase fun _ =>
  .call .phase fun p =>
  if p.respected then .done ()
  else .call (.backend .rollback) fun _ =>
  .call (.setPhase .rolledBack) fun _ =>
  .call .state fun s =>
  if s.unfinished then .call (.transition [s] .rolledBack) fun _ => .done () else .done ()

/-- the host was put back last, and the status or the row does not say so -/
def Shared.forgotten (a : Shared) : Bool :=
  a.rolled && (a.phase = .applied || a.phase = .confirmed || a.row = .applied || a.row = .confirmed)

/-- where the two processes may start: nothing is forgotten, and a confirmed row has a status that
the timer respects -/
def Shared.settled (a : Shared) : Bool :=
  !a.forgotten && (a.row ≠ .confirmed || a.phase.respected)

/-- the orders of steps in which `Apply` forgets a rollback.  The steps of `Apply` are `Get`,
`Load`, the clock, `Backend.Apply`, `SetPhase` and `Transition`; those of the timer are `Load`,
`Load`, `Backend.Rollback`, `SetPhase`, `Get` and `Transition`.  The timer's `Rollback` comes after
`Backend.Apply`, and the row is written between the timer's last two steps, or both the status and
the row between its `SetPhase` and its `Get`. -/
def applyRaced : List Nat → Bool
  | [_, _, _, change, status, row] =>
    change ≤ 2 && (row = 5 || status = 4 && row = 4)
  | _ => false

/-- the orders of steps in which `Confirm` forgets a rollback.  The steps of `Confirm` are `Get`,
the clock, `Load`, `SetPhase`, `Transition`, `Disarm`, `Commit`, `SetPhase` and `Transition`.  The
timer has read the status for the second time when `CONFIRMING` is written, its `Rollback` comes
after `Commit`, and the row is confirmed before the timer's last step, or the status after the
timer's `SetPhase`. -/
def confirmRaced : List Nat → Bool
  | [_, _, _, intent, _, _, commit, status, row] =>
    intent = 2 && commit = 2 && (row ≤ 5 || 4 ≤ status)
  | _ => false

/-- **Every schedule of `Apply` and the timer.** -/
theorem apply_explored : ∀ (v : Verdict) (phase : Phase) (rolled : Bool),
    Shared.settled ⟨.armed, phase, rolled⟩ = true → v ≠ .foreign →
    explore access (fun n a => a.forgotten == (v = .passes && phase = .armed && applyRaced n)) 20
      (applyShared v) timerShared 0 [] ⟨.armed, phase, rolled⟩ = true := by
  decide +kernel

/-- **Every schedule of `Confirm` and the timer.** -/
theorem confirm_explored : ∀ (v : Verdict) (phase : Phase) (rolled : Bool),
    Shared.settled ⟨.applied, phase, rolled⟩ = true →
    explore access (fun n a => a.forgotten == (v = .passes && phase = .applied && confirmRaced n)) 20
      (confirmShared v) timerShared 0 [] ⟨.applied, phase, rolled⟩ = true := by
  decide +kernel

theorem timer_explored : ∀ (row : TxState) (phase : Phase) (rolled : Bool),
    Shared.settled ⟨row, phase, rolled⟩ = true →
    explore access (fun _ a => !a.forgotten) 20 (.done () : SharedProc) timerShared 0 []
      ⟨row, phase, rolled⟩ = true := by
  decide +kernel

variable {l : List Bool} {a' a : Shared}

theorem timer_forgets_nothing (ha : a.settled = true)
    (h : interleave access (.done () : SharedProc) timerShared l a = some a') :
    a'.forgotten = false := by
  have hchecked := explore_sound (timer_explored a.row a.phase a.rolled ha) h
  simpa using hchecked

theorem timer_keeps_row {s : TxState} (hs : s ≠ .rolledBack) :
    timerShared.All (fun _ _ => True) fun o =>
      ∀ a : Shared, a.row ≠ s → (access o a).2.row ≠ s := by
  have same : ∀ a : Shared, a.row ≠ s → a.row ≠ s := fun a h => h
  refine ⟨same, fun _ _ => ⟨same, fun p _ => ?_⟩⟩
  simp only
  split
  · trivial
  refine ⟨same, fun _ _ => ⟨same, fun _ _ => ⟨same, fun r _ => ?_⟩⟩⟩
  simp only
  split
  · refine ⟨fun a h => ?_, fun _ _ => trivial⟩
    simp only [access]
    split
    · exact hs.symm
    · exact h
  · trivial

theorem refused_forgets_nothing {s : TxState} (hs : s ≠ .rolledBack) {k : SharedProc}
    (ha : a.settled = true) (hrow : a.row ≠ s)
    (h : interleave access (.call .state fun r => if r ≠ s then .done () else k) timerShared l a =
      some a') : a'.forgotten = false := by
  have hread : ∀ b : Shared, b.row ≠ s → access .state b = (b.row, b) ∧
      (if b.row ≠ s then (.done () : SharedProc) else k) = .done () :=
    fun b hb => ⟨rfl, if_pos hb⟩
  obtain ⟨l', hl'⟩ := interleave_idle (I := fun b : Shared => b.row ≠ s) hread (timer_keeps_row hs)
    hrow h
  exact timer_forgets_nothing ha hl'

/-- **`Apply` against the timer**: which schedules forget a rollback. -/
theorem applyShared_forgotten {v : Verdict} (hv : v ≠ .foreign) (ha : a.settled = true)
    (h : interleave access (applyShared v) timerShared l a = some a') : a'.forgotten =
      (v = .passes && a.row = .armed && a.phase = .armed && applyRaced (turns l)) := by
  by_cases hrow : a.row = .armed
  · obtain ⟨row, phase, rolled⟩ := a
    obtain rfl : row = .armed := hrow
    have hchecked := explore_sound (apply_explored v phase rolled ha hv) h
    simpa [turns] using hchecked
  have hnone : a'.forgotten = false := by
    unfold applyShared at h
    split at h
    · exact timer_forgets_nothing ha h
    · exact refused_forgets_nothing (by decide) ha hrow h
  simp [hnone, hrow]

/-- **`Confirm` against the timer**: which schedules forget a rollback. -/
theorem confirmShared_forgotten {v : Verdict} (ha : a.settled = true)
    (h : interleave access (confirmShared v) timerShared l a = some a') : a'.forgotten =
      (v = .passes && a.row = .applied && a.phase = .applied && confirmRaced (turns l)) := by
  by_cases hrow : a.row = .applied
  · obtain ⟨row, phase, rolled⟩ := a
    obtain rfl : row = .applied := hrow
    have hchecked := explore_sound (confirm_explored v phase rolled ha) h
    simpa [turns] using hchecked
  have hnone : a'.forgotten = false := by
    unfold confirmShared at h
    split at h
    · exact timer_forgets_nothing ha h
    · exact refused_forgets_nothing (by decide) ha hrow h
  simp [hnone, hrow]

/-! ## the engine follows the protocol -/

def lastBackend : List Event → Option BackendCall
  | [] => none
  | .backend _ call _ :: _ => some call
  | _ :: rest => lastBackend rest

def carry (e : Engine) (o : Op) (w : World) : o.Ret × World := exec e o .ok w

/-- the world, seen by the two processes: the row `t` up to its state, the manifest and the status,
the snapshot, and, while `unread`, what the engine will read from the clock -/
structure Tracks (e : Engine) (t : Transaction) (manifest : Manifest) (directory : String)
    (now : Time) (unread : Bool) (w : World) (a : Shared) : Prop where
  row : ∃ code, w.row t.id = some { t with state := a.row, errorCode := code }
  load : w.load e t.id = .ok (manifest, a.phase)
  snapshot : w.snapshots directory = true
  rolled : a.rolled = decide (lastBackend (w.view t.id).events = some .rollback)
  clock : unread = true → w.clock w.ticks = now

variable {code : String} {α : Type} {k : Except ApplyError Unit → Prog α} {g : Bool}
  {k' : Unit → SharedProc}

section
variable {e : Engine} {t : Transaction} {manifest : Manifest} {directory : String} {now : Time}
  {unread : Bool} {w : World} {a : Shared}

theorem Tracks.get (h : Tracks e t manifest directory now unread w a) :
    ∃ code, carry e (.get t.id) w = (.ok { t with state := a.row, errorCode := code }, w) := by
  obtain ⟨code, hrow⟩ := h.row
  refine ⟨code, ?_⟩
  show (w.get t.id, w) = _
  unfold World.get
  rw [hrow]

theorem Tracks.loaded (h : Tracks e t manifest directory now unread w a) :
    carry e (.load t.id) w = (.ok (manifest, a.phase), w) := by
  show (w.load e t.id, w) = _
  rw [h.load]

theorem Tracks.read (h : Tracks e t manifest directory now true w a) :
    (carry e .now w).1 = now ∧ Tracks e t manifest directory now false (carry e .now w).2 a :=
  ⟨h.clock rfl, ⟨h.row, h.load, h.snapshot, h.rolled, nofun⟩⟩

section
variable (h : Tracks e t manifest directory now unread w a)
include h

theorem Tracks.note (ev : Event)
    (hev : ev.id = t.id) (hlast : ∀ l, lastBackend (ev :: l) = lastBackend l) :
    Tracks e t manifest directory now unread (w.note ev) a where
  row := h.row
  load := h.load
  snapshot := h.snapshot
  rolled := by
    have hv : ((w.note ev).view t.id).events = ev :: (w.view t.id).events := by
      rw [← hev, view_note_self]
      rfl
    rw [hv, hlast]
    exact h.rolled
  clock := h.clock

theorem Tracks.disarm : Tracks e t manifest directory now unread (carry e (.disarm t.id) w).2 a :=
  h.note (.timer t.id .disarm true) rfl fun _ => rfl

theorem Tracks.backend {call : BackendCall} (hcall : call ≠ .snapshot) :
    (carry e (.backend call manifest directory) w).1 = .ok () ∧
      Tracks e t manifest directory now unread (carry e (.backend call manifest directory) w).2
        { a with rolled := call = .rollback } := by
  have hid : manifest.id = t.id := load_id h.load
  have hx : carry e (.backend call manifest directory) w =
      (.ok (), w.note (.backend manifest.id call true)) := by
    have hb : w.backend call directory = (.ok (), w) := by
      cases call with
      | snapshot => exact absurd rfl hcall
      | commit => rfl
      | apply => simp [World.backend, h.snapshot]
      | rollback => simp [World.backend, h.snapshot]
    show noted (.backend manifest.id call) (w.backend call directory) = _
    rw [hb]
    rfl
  rw [hx]
  refine ⟨rfl, h.row, h.load, h.snapshot, ?_, h.clock⟩
  have hv : ((w.note (.backend manifest.id call true)).view t.id).events =
      .backend manifest.id call true :: (w.view t.id).events := by
    have hself := view_note_self w (.backend manifest.id call true)
    rw [show (Event.backend manifest.id call true).id = t.id from hid] at hself
    rw [hself]
    rfl
  show decide (call = .rollback) = decide (lastBackend _ = some .rollback)
  rw [hv]
  simp [lastBackend]

end

section
variable (hdir : e.directory t.id = .ok directory)
include hdir

theorem Tracks.setPhase (h : Tracks e t manifest directory now unread w a) (p : Phase) :
    (carry e (.setPhase t.id p) w).1 = .ok () ∧
      Tracks e t manifest directory now unread (carry e (.setPhase t.id p) w).2
        { a with phase := p } := by
  obtain ⟨⟨d, hd, hm, _⟩, hid, hv⟩ := load_ok h.load
  have hx : carry e (.setPhase t.id p) w =
      (.ok (), w.marked t.id d p) :=
    setPhase_eq p hdir hd
  rw [hx]
  refine ⟨rfl, h.row, ?_, h.snapshot, ?_, h.clock⟩
  · exact load_eq hdir (Function.update_self t.id _ _) hm rfl hid hv
  · rw [view_setPhase]
    exact h.rolled

theorem Tracks.transition (h : Tracks e t manifest directory now unread w a)
    {expected : List TxState} (next : TxState)
    (hlen : expected ≠ []) (hcode : code = "" ∨ safeErrorCode code = true) :
    (carry e (.transition t.id expected next code) w).1.isOk =
        (access (.transition expected next) a).1 ∧
      Tracks e t manifest directory now unread (carry e (.transition t.id expected next code) w).2
        (access (.transition expected next) a).2 := by
  obtain ⟨code0, hrow⟩ := h.row
  have hsafe := (directory_ok hdir).1
  cases hmem : expected.contains a.row with
  | true =>
    have hx : carry e (.transition t.id expected next code) w = _ :=
      transition_eq next hsafe hrow hmem hcode
    have ha : access (.transition expected next) a = (true, { a with row := next }) := by
      simp only [access, hmem, if_true]
    rw [hx, ha]
    refine ⟨rfl, ⟨code, ?_⟩, h.load, h.snapshot, ?_, h.clock⟩
    · exact (row_transition hrow).trans rfl
    · rw [view_modify_row next code hrow]
      exact h.rolled
  | false =>
  have hx : carry e (.transition t.id expected next code) w = (.error .state, w) :=
    transition_refused next hsafe hrow hlen hmem hcode
  have ha : access (.transition expected next) a = (false, a) := by
    simp only [access, hmem]
    rfl
  rw [hx, ha]
  exact ⟨rfl, h⟩

/-- a `Transition` whose answer decides how both go on -/
theorem leads_transition {expected : List TxState} (next : TxState) (hlen : expected ≠ [])
    (hcode : code = "" ∨ safeErrorCode code = true) {k' : Bool → SharedProc}
    (hok : Leads (carry e) access (Tracks e t manifest directory now) g (k (.ok ())) (k' true))
    (herr : ∀ err, Leads (carry e) access (Tracks e t manifest directory now) g (k (.error err))
      (k' false)) : Leads (carry e) access (Tracks e t manifest directory now) g
      (.call (.transition t.id expected next code) k) (.call (.transition expected next) k') := by
  intro w a h
  obtain ⟨hanswer, htracks⟩ := h.transition hdir next hlen hcode
  refine ⟨g, htracks, ?_⟩
  rw [← hanswer]
  cases (carry e (.transition t.id expected next code) w).1 with
  | error err => exact herr err
  | ok u => exact hok

theorem leads_setPhase (p : Phase)
    (hok : Leads (carry e) access (Tracks e t manifest directory now) g (k (.ok ())) (k' ())) :
    Leads (carry e) access (Tracks e t manifest directory now) g
      (.call (.setPhase t.id p) k) (.call (.setPhase p) k') := by
  intro w a h
  obtain ⟨hanswer, htracks⟩ := h.setPhase hdir p
  refine ⟨g, htracks, ?_⟩
  rw [hanswer]
  exact hok

end

theorem leads_backend {call : BackendCall} (hcall : call ≠ .snapshot)
    (hok : Leads (carry e) access (Tracks e t manifest directory now) g (k (.ok ())) (k' ())) :
    Leads (carry e) access (Tracks e t manifest directory now) g
      (.call (.backend call manifest directory) k) (.call (.backend call) k') := by
  intro w a h
  obtain ⟨hanswer, htracks⟩ := h.backend hcall
  refine ⟨g, htracks, ?_⟩
  rw [hanswer]
  exact hok

theorem leads_rollback (hdir : e.directory t.id = .ok directory) (hcode : safeErrorCode code = true)
    (g : Bool) : Leads (carry e) access (Tracks e t manifest directory now) g
      (Engine.rollback (α := Unit) t.id manifest directory code) rollbackShared := by
  refine leads_backend (by decide) (leads_setPhase hdir .rolledBack ?_)
  have last : Leads (carry e) access (Tracks e t manifest directory now) g
      (.call (.disarm t.id) fun _ => .done (.error (.text
        ("network apply " ++ t.id ++ " failed and was rolled back (" ++ code ++ ")"))) :
        Prog (Except ApplyError Unit))
      (.call .other fun _ => .done ()) := fun w a h => ⟨g, h.disarm, trivial⟩
  exact leads_transition hdir .rolledBack (by decide) (Or.inr hcode) last fun _ => last

theorem leads_applyArmed (hdir : e.directory t.id = .ok directory) {transaction : Transaction}
    (hid : transaction.id = t.id) (g : Bool) :
    Leads (carry e) access (Tracks e t manifest directory now) g
      (Engine.applyArmed t.id transaction manifest directory) applyArmedShared := by
  refine leads_backend (by decide) (leads_setPhase hdir .applied ?_)
  refine leads_transition hdir .applied (by decide) (Or.inl rfl) trivial fun _ => ?_
  rw [hid]
  exact leads_rollback hdir (by decide) g

theorem leads_get {k : Except ApplyError Transaction → Prog α} {k' : TxState → SharedProc}
    (hok : ∀ s code, Leads (carry e) access (Tracks e t manifest directory now) g
      (k (.ok { t with state := s, errorCode := code })) (k' s)) :
    Leads (carry e) access (Tracks e t manifest directory now) g (.call (.get t.id) k)
      (.call .state k') := by
  intro w a h
  obtain ⟨code, hx⟩ := h.get
  rw [hx]
  exact ⟨g, h, hok a.row code⟩

theorem leads_load {k : Except ApplyError (Manifest × Phase) → Prog α} {k' : Phase → SharedProc}
    (hok : ∀ p, Leads (carry e) access (Tracks e t manifest directory now) g (k (.ok (manifest, p)))
      (k' p)) : Leads (carry e) access (Tracks e t manifest directory now) g (.call (.load t.id) k)
      (.call .phase k') := by
  intro w a h
  rw [h.loaded]
  exact ⟨g, h, hok a.phase⟩

theorem leads_now {k : Time → Prog α}
    (hok : Leads (carry e) access (Tracks e t manifest directory now) false (k now) (k' ())) :
    Leads (carry e) access (Tracks e t manifest directory now) true (.call .now k)
      (.call .other k') := by
  intro w a h
  obtain ⟨hanswer, htracks⟩ := h.read
  refine ⟨false, htracks, ?_⟩
  rw [hanswer]
  exact hok

end

/-! ### the calls -/

namespace Engine

variable (e : Engine) (t : Transaction) (now : Time)

def applyVerdict : Verdict :=
  match e.validate, t.rollbackDeadline.parse with
  | .error _, _ => .invalid
  | .ok (), none => .unreadable
  | .ok (), some deadline => if now < deadline then .passes else .late

def confirmVerdict (manifest : Manifest) (evidence : ConfirmEvidence) : Verdict :=
  match e.validate, t.rollbackDeadline.parse with
  | .error _, _ => .invalid
  | .ok (), none => .unreadable
  | .ok (), some deadline =>
    if ¬ now < deadline then .late
    else if !e.tokenAccepted t evidence then .late
    else if !e.sourceAccepted manifest t evidence then .foreign
    else .passes

end Engine

section
variable {e : Engine} {t : Transaction} {manifest : Manifest} {directory : String} {now : Time}

section
variable (hdir : e.directory t.id = .ok directory)
include hdir

theorem leads_apply (hmatch : manifestMatchesTransaction e.lib manifest t directory = true) :
    Leads (carry e) access (Tracks e t manifest directory now) true (e.apply t.id)
      (applyShared (e.applyVerdict t now)) := by
  generalize hv : e.applyVerdict t now = v
  unfold Engine.applyVerdict at hv
  unfold Engine.apply
  cases he : e.validate with
  | error err =>
    simp only [he] at hv
    subst hv
    trivial
  | ok u =>
  have hvalid : v ≠ .invalid := by
    rw [← hv, he]
    cases t.rollbackDeadline.parse with
    | none => simp
    | some deadline => simp only; split <;> simp
  unfold applyShared
  rw [if_neg hvalid]
  refine leads_get fun s code => ?_
  by_cases hs : s = .armed
  · subst hs
    refine leads_load fun p => ?_
    rw [hdir]
    by_cases hp : p = .armed
    · subst hp
      have hmatch' : manifestMatchesTransaction e.lib manifest
          { t with state := .armed, errorCode := code } directory = true := hmatch
      simp only [hmatch']
      cases hd : t.rollbackDeadline.parse with
      | none =>
        simp only [he, hd] at hv
        subst hv
        exact leads_rollback hdir (by decide) true
      | some deadline =>
      by_cases hnow : now < deadline
      · simp only [he, hd, hnow, if_true] at hv
        subst hv
        refine leads_now ?_
        rw [if_neg (not_not.2 hnow)]
        exact leads_applyArmed hdir rfl false
      · simp only [he, hd, hnow, if_false] at hv
        subst hv
        refine leads_now ?_
        rw [if_pos hnow]
        exact leads_rollback hdir (by decide) false
    · simp only [ne_eq, hp, not_false_eq_true, decide_true, Bool.true_or, if_true]
      trivial
  · simp only [ne_eq, hs, not_false_eq_true, if_true]
    trivial

theorem leads_confirmAccepted {transaction : Transaction} (g : Bool) :
    Leads (carry e) access (Tracks e t manifest directory now) g
      (e.confirmAccepted t.id transaction manifest directory) confirmAcceptedShared := by
  refine leads_setPhase hdir .confirming ?_
  refine leads_transition hdir .confirming (by decide) (Or.inl rfl) ?_ fun _ => trivial
  refine fun w a h => ⟨g, h.disarm, ?_⟩
  refine leads_backend (by decide) (leads_setPhase hdir .confirmed ?_)
  exact leads_transition hdir .confirmed (by decide) (Or.inl rfl) trivial fun _ => trivial

theorem leads_confirm (hmatch : manifestMatchesTransaction e.lib manifest t directory = true)
    (evidence : ConfirmEvidence) :
    Leads (carry e) access (Tracks e t manifest directory now) true (e.confirm t.id evidence)
      (confirmShared (e.confirmVerdict t now manifest evidence)) := by
  generalize hv : e.confirmVerdict t now manifest evidence = v
  unfold Engine.confirmVerdict at hv
  unfold Engine.confirm
  cases he : e.validate with
  | error err =>
    simp only [he] at hv
    subst hv
    trivial
  | ok u =>
  have hvalid : v ≠ .invalid := by
    rw [← hv, he]
    cases t.rollbackDeadline.parse with
    | none => simp
    | some deadline =>
    simp only
    repeat' split
    all_goals simp
  unfold confirmShared
  rw [if_neg hvalid]
  refine leads_get fun s code => ?_
  by_cases hs : s = .applied
  · subst hs
    have htoken : e.tokenAccepted { t with state := .applied, errorCode := code } evidence =
        e.tokenAccepted t evidence := rfl
    have hmatch' : manifestMatchesTransaction e.lib manifest
        { t with state := .applied, errorCode := code } directory = true := hmatch
    simp only [htoken]
    cases hd : t.rollbackDeadline.parse with
    | none =>
      simp only [he, hd] at hv
      subst hv
      trivial
    | some deadline =>
    by_cases hnow : now < deadline
    swap
    · simp only [he, hd, hnow, not_false_eq_true, if_true] at hv
      subst hv
      refine leads_now ?_
      rw [if_pos hnow]
      trivial
    cases hto : e.tokenAccepted t evidence with
    | false =>
      simp [he, hd, hnow, hto] at hv
      subst hv
      refine leads_now ?_
      rw [if_neg (not_not.2 hnow)]
      trivial
    | true =>
    have hsource : e.sourceAccepted manifest { t with state := .applied, errorCode := code }
        evidence = e.sourceAccepted manifest t evidence := rfl
    simp only [he, hd, hnow, hto, not_true, Bool.not_true, Bool.false_eq_true, if_false] at hv
    have hread : v ≠ .unreadable ∧ v ≠ .late := by
      subst hv
      cases e.sourceAccepted manifest t evidence <;> decide
    simp only [ne_eq, not_true, if_false, hread.1]
    refine leads_now ?_
    rw [if_neg (not_not.2 hnow), if_neg hread.2]
    refine leads_load fun p => ?_
    rw [hdir]
    by_cases hp : p = .applied
    · subst hp
      simp only [hmatch', hsource]
      cases hso : e.sourceAccepted manifest t evidence with
      | false =>
        simp only [hso] at hv
        subst hv
        trivial
      | true =>
        simp only [hso] at hv
        subst hv
        exact leads_confirmAccepted hdir false
    · simp only [hp, not_false_eq_true, decide_true, Bool.true_or, if_true]
      trivial
  · simp only [ne_eq, hs, not_false_eq_true, if_true]
    trivial

/-- the timer's process keeps what the engine is going to read from the clock -/
theorem follows_timer :
    Follows (carry e) access (Tracks e t manifest directory now) (e.networkRollback true t.id)
      timerShared := by
  intro g w a h
  rw [h.loaded]
  refine ⟨h, ?_⟩
  intro g w a h
  rw [h.loaded]
  refine ⟨h, ?_⟩
  cases hres : a.phase.respected with
  | true =>
    have hyes : (a.phase = .confirmed || a.phase = .confirming || a.phase = .rolledBack) = true :=
      hres
    simp only [if_pos hyes, access, hres, if_true]
    trivial
  | false =>
  have hnot : ¬ (a.phase = .confirmed || a.phase = .confirming || a.phase = .rolledBack) = true :=
    Bool.eq_false_iff.1 hres
  simp only [if_neg hnot, hdir, access, hres, Bool.false_eq_true, if_false]
  intro g w a h
  obtain ⟨hanswer, h⟩ := h.backend (show BackendCall.rollback ≠ .snapshot by decide)
  refine ⟨h, ?_⟩
  rw [hanswer]
  intro g w a h
  obtain ⟨hanswer, h⟩ := h.setPhase hdir .rolledBack
  refine ⟨h, ?_⟩
  rw [hanswer]
  intro g w a h
  obtain ⟨code, hx⟩ := h.get
  rw [hx]
  refine ⟨h, ?_⟩
  cases hopen : a.row.unfinished with
  | false =>
    simp only [access, hopen, Bool.false_eq_true, if_false]
    trivial
  | true =>
  simp only [access, hopen, if_true]
  intro g w a' h
  have hcode : safeErrorCode "ROLLBACK_TIMER" = true := by decide
  have hlen : [a.row] ≠ [] := by simp
  refine ⟨(h.transition hdir .rolledBack hlen (Or.inr hcode)).2, ?_⟩
  cases (carry e (.transition t.id [a.row] .rolledBack "ROLLBACK_TIMER") w).1 <;> trivial

end

end

/-! ## the race -/

/-- the host was put back last, and the status or the row says `APPLIED` or `CONFIRMED` -/
def Forgotten (w : World) (id : String) : Prop :=
  lastBackend (w.view id).events = some .rollback ∧
    (w.phase id = some .applied ∨ w.phase id = some .confirmed ∨
      w.state id = some .applied ∨ w.state id = some .confirmed)

instance (w : World) (id : String) : Decidable (Forgotten w id) :=
  inferInstanceAs (Decidable (_ ∧ _))

inductive EngineCall where
  | apply
  | confirm (evidence : ConfirmEvidence)

def Engine.called (e : Engine) (id : String) : EngineCall → Prog (Except ApplyError Unit)
  | .apply => e.apply id
  | .confirm evidence => e.confirm id evidence

/-- the files of the transaction are there and match its row, no rollback is forgotten yet, and a
row in `CONFIRMED` has a status that the timer respects -/
structure Intact (e : Engine) (w : World) (t : Transaction) (manifest : Manifest)
    (directory : String) (phase : Phase) : Prop where
  row : w.row t.id = some t
  located : e.directory t.id = .ok directory
  load : w.load e t.id = .ok (manifest, phase)
  matched : manifestMatchesTransaction e.lib manifest t directory = true
  snapshot : w.snapshots directory = true
  fresh : ¬ Forgotten w t.id
  respected : t.state = .confirmed → phase.respected = true

/-- the call passes its checks, and the schedule is one of those in which it forgets a rollback -/
def raced (e : Engine) (w : World) (t : Transaction) (manifest : Manifest) (phase : Phase) :
    EngineCall → List Bool → Prop
  | .apply, l => e.applyVerdict t (w.clock w.ticks) = .passes ∧ t.state = .armed ∧
      phase = .armed ∧ applyRaced (turns l) = true
  | .confirm evidence, l =>
      e.confirmVerdict t (w.clock w.ticks) manifest evidence = .passes ∧ t.state = .applied ∧
        phase = .applied ∧ confirmRaced (turns l) = true

variable {w : World}

section
variable {e : Engine} {t : Transaction} {manifest : Manifest} {directory : String} {now : Time}

theorem Tracks.seen_forgotten {unread : Bool} (h : Tracks e t manifest directory now unread w a) :
    Forgotten w t.id ↔ a.forgotten = true := by
  obtain ⟨code, hrow⟩ := h.row
  have hstate : w.state t.id = some a.row := by rw [World.state, hrow]; rfl
  unfold Forgotten Shared.forgotten
  rw [h.rolled, phase_of_load h.load, hstate]
  simp [or_assoc]

theorem Intact.tracks {phase : Phase} (h : Intact e w t manifest directory phase) :
    Tracks e t manifest directory (w.clock w.ticks) true w
      ⟨t.state, phase, lastBackend (w.view t.id).events = some .rollback⟩ :=
  ⟨⟨t.errorCode, h.row⟩, h.load, h.snapshot, rfl, fun _ => rfl⟩

theorem Intact.settled {phase : Phase} (h : Intact e w t manifest directory phase) : Shared.settled
      ⟨t.state, phase, lastBackend (w.view t.id).events = some .rollback⟩ = true := by
  have hfresh := Bool.eq_false_iff.2 (mt h.tracks.seen_forgotten.2 h.fresh)
  have hres : t.state ≠ .confirmed ∨ phase.respected = true := by
    by_cases hs : t.state = .confirmed
    · exact Or.inr (h.respected hs)
    · exact Or.inl hs
  unfold Shared.settled
  rw [hfresh]
  simpa using hres

theorem applyVerdict_ne_foreign : e.applyVerdict t now ≠ .foreign := by
  unfold Engine.applyVerdict
  repeat' split
  all_goals simp

end

def stagedWorld : World := sampleRun [(.stage sampleCandidate, List.replicate 18 .ok)]

def stagedDirectory : String := sampleEngine.root ++ "/" ++ sampleID

def stagedSample : Manifest :=
  sampleEngine.dated
    { schemaVersion := manifestSchema, id := sampleID, operationKind := .ethernetUplink
      oldURL := sampleCandidate.managementURL, newURL := sampleCandidate.managementURL
      newDestinationIP := "10.0.0.1", ethernet := some sampleMutation } 0

def stagedRow : Transaction :=
  { sampleEngine.stageRecord sampleCandidate stagedSample sampleEvidence.token "delete"
      stagedDirectory with state := .armed, createdAt := 0 }

end GatewayVpn.NetworkApply
