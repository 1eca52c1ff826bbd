import GatewayVpn.NetworkApply.View

/-!
# Network apply: the row and the configuration of the host

What the row of a transaction says, against what the host runs.  A `Backend.Apply` that returns
nil puts the host on the new configuration and a `Backend.Rollback` that returns nil puts it back
on the old one; a call that returns an error leaves it anywhere (`Side.mixed`).

`Sketch` is the abstract picture of one transaction: the state of its row, the phase in its status
file, the side the host is on, and whether a `Rollback` was called for it since its status or its
row were last written.  `Outcome` says what each operation can do to the picture, and
`exec_outcome` that the operations of the engine do nothing else.
-/

namespace GatewayVpn.NetworkApply

open Durable Option World Engine

/-! ## the abstract picture of one transaction -/

inductive Side where
  | old
  | new
  | mixed
  deriving DecidableEq

/-- the configuration the host runs, from the events of one transaction, newest first -/
def host : List Event → Side
  | [] => .old
  | .backend _ .apply ok :: _ => if ok then .new else .mixed
  | .backend _ .rollback ok :: _ => if ok then .old else .mixed
  | _ :: rest => host rest

def unrecorded : List Event → Bool
  | [] => false
  | .backend _ .rollback _ :: _ => true
  | .status _ _ :: _ => false
  | .row _ _ :: _ => false
  | _ :: rest => unrecorded rest

structure Sketch where
  state : Option TxState
  phase : Option Phase
  host : Side
  unrecorded : Bool

namespace Sketch

def setPhase (sk : Sketch) (p : Phase) : Sketch :=
  { sk with phase := some p, unrecorded := false }
def setState (sk : Sketch) (s : TxState) : Sketch :=
  { sk with state := some s, unrecorded := false }
def rolled (sk : Sketch) (ok : Bool) : Sketch :=
  { sk with host := if ok then .old else .mixed, unrecorded := true }
def applied (sk : Sketch) (ok : Bool) : Sketch :=
  { sk with host := if ok then .new else .mixed }

def unfinished (sk : Sketch) : Bool := sk.state.any TxState.unfinished

/-- what is true of every transaction at every moment -/
structure Inv (sk : Sketch) : Prop where
  absent : sk.state = none → sk.phase = none
  confirmed : sk.state = some .confirmed → sk.host = .new
  rolledBack : sk.state = some .rolledBack → sk.host = .old
  confirmedPhase : sk.phase = some .confirmed → sk.unfinished = true → sk.host = .new
  rolledBackPhase : sk.phase = some .rolledBack → sk.unfinished = true → sk.host = .old
  confirmingPhase : sk.phase = some .confirming → sk.unfinished = true →
    sk.unrecorded = false → sk.host = .new
  appliedPhase : sk.phase = some .applied → sk.state = some .applied →
    sk.unrecorded = false → sk.host = .new

end Sketch

def View.sketch (v : View) : Sketch := ⟨v.state, v.phase, host v.events, NetworkApply.unrecorded v.events⟩

def World.sketch (w : World) (id : String) : Sketch := (w.view id).sketch

def Outcome : (o : Op) → Sketch → o.Ret → Sketch → Prop
  | .create _, sk, r, sk' =>
    ((∃ err, r = .error err) ∧ sk' = sk) ∨ (sk.state = none ∧ sk' = sk.setState .preparing)
  | .get _, sk, r, sk' => sk' = sk ∧ ∀ transaction, r = .ok transaction →
      sk.state = some transaction.state
  | .load _, sk, r, sk' => sk' = sk ∧ ∀ x, r = .ok x → sk.phase = some x.2
  | .transition _ expected next _, sk, r, sk' =>
    ((∃ err, r = .error err) ∧ sk' = sk) ∨
      ((∃ s ∈ expected, sk.state = some s) ∧ sk' = sk.setState next)
  | .setPhase _ p, sk, r, sk' => ((∃ err, r = .error err) ∧ sk' = sk) ∨ sk' = sk.setPhase p
  | .backend .rollback _ _, sk, r, sk' => sk' = sk.rolled r.isOk
  | .backend .apply _ _, sk, r, sk' => sk' = sk.applied r.isOk
  | _, sk, _, sk' => sk' = sk

variable {α : Type} {r : Except ApplyError α × World}

section
variable {e : Engine} {w : World} {id : String}

@[simp] theorem sketch_state (w : World) (id : String) : (w.sketch id).state = w.state id := rfl
@[simp] theorem sketch_phase (w : World) (id : String) : (w.sketch id).phase = w.phase id := rfl

theorem sketch_of_view {w' : World} (h : w'.view id = w.view id) : w'.sketch id = w.sketch id :=
  congrArg View.sketch h

variable {err : ApplyError}

/-- a call under a fate: it takes place, or it reports an error with or without its effect -/
theorem deliver_cases {P : Except ApplyError α → World → Prop}
    (f : Fate) (hok : P r.1 r.2) (hfail : P (.error err) w)
    (hlate : P (.error err) r.2) : P (f.deliver err r w).1 (f.deliver err r w).2 := by
  cases f with
  | ok => exact hok
  | fail => exact hfail
  | late => exact hlate

/-- an operation that refuses or moves the picture does so under every fate -/
theorem deliver_moves {c : Prop} {sk : Sketch}
    (f : Fate) (h : ((∃ err, r.1 = .error err) ∧ r.2.sketch id = w.sketch id) ∨
      (c ∧ r.2.sketch id = sk)) : ((∃ err', (f.deliver err r w).1 = .error err') ∧
        (f.deliver err r w).2.sketch id = w.sketch id) ∨
      (c ∧ (f.deliver err r w).2.sketch id = sk) := by
  cases f with
  | ok => exact h
  | fail => exact Or.inl ⟨⟨_, rfl⟩, rfl⟩
  | late => exact h.imp (fun h => ⟨⟨_, rfl⟩, h.2⟩) fun h => h

theorem create_outcome (record : Transaction) (hid : record.id = id) :
    ((∃ err, (w.create record).1 = .error err) ∧ (w.create record).2.sketch id = w.sketch id) ∨
      ((w.sketch id).state = none ∧
        (w.create record).2.sketch id = (w.sketch id).setState .preparing) := by
  unfold create
  simp only
  split
  · exact Or.inl ⟨⟨_, rfl⟩, rfl⟩
  next hchecks =>
  split
  · exact Or.inl ⟨⟨_, rfl⟩, rfl⟩
  split
  · exact Or.inl ⟨⟨_, rfl⟩, rfl⟩
  next hinsert =>
  have hnew : (withDefaults record).id = id := hid
  obtain ⟨hfind, hins⟩ := Table.find_insert hinsert id
  refine Or.inr ⟨?_, ?_⟩
  · show (w.table.find id).map _ = none
    rw [← hnew, hfind]
    rfl
  have hstate : (withDefaults record).state = .preparing := by
    simp only [Bool.or_eq_true, decide_eq_true_eq, not_or, not_not] at hchecks
    exact hchecks.1.1.1.2
  rw [if_pos hnew.symm] at hins
  simp only [sketch, view, row, View.sketch, View.state, View.phase, Sketch.setState, hnew,
    hstate, hins]
  simp [host, unrecorded, Event.id]

theorem transition_outcome (w : World) (id : String) (expected : List TxState) (next : TxState)
    (code : String) : ((∃ err, (w.transition id expected next code).1 = .error err) ∧
        (w.transition id expected next code).2.sketch id = w.sketch id) ∨
      ((∃ s ∈ expected, (w.sketch id).state = some s) ∧
        (w.transition id expected next code).2.sketch id = (w.sketch id).setState next) := by
  unfold World.transition
  split
  · exact Or.inl ⟨⟨_, rfl⟩, rfl⟩
  split
  · next hstate =>
    cases hr : w.row id with
    | none => simp [World.state, hr] at hstate
    | some r =>
    have hmem : r.state ∈ expected := by simpa [World.state, hr] using hstate
    refine Or.inr ⟨⟨r.state, hmem, congrArg (Option.map _) hr⟩, ?_⟩
    exact congrArg View.sketch (view_modify_row next code hr)
  · exact Or.inl ⟨⟨_, rfl⟩, rfl⟩

theorem setPhase_outcome (e : Engine) (w : World) (id : String) (p : Phase) :
    ((∃ err, (w.setPhase e id p).1 = .error err) ∧ (w.setPhase e id p).2.sketch id = w.sketch id) ∨
      (w.setPhase e id p).2.sketch id = (w.sketch id).setPhase p := by
  unfold setPhase
  split
  · exact Or.inl ⟨⟨_, rfl⟩, rfl⟩
  split
  · next d hd => exact Or.inr (congrArg View.sketch (view_setPhase d p))
  · exact Or.inl ⟨⟨_, rfl⟩, rfl⟩

theorem updateDeadline_sketch (deadline : Time) :
    (w.updateDeadline id deadline).2.sketch id = w.sketch id := by
  unfold updateDeadline
  split
  · rfl
  split
  · simp only [sketch, view, row, View.sketch, View.state, View.phase]
    rw [Table.find_update_self, map_map]
    rfl
  · rfl

theorem mkdir_sketch : (w.mkdir id).2.sketch id = w.sketch id := by
  unfold mkdir
  cases hd : w.dirs id with
  | some d => rfl
  | none =>
  simp [sketch, view, row, setDir, View.sketch, View.state, View.phase,
    hd]

theorem writeManifest_sketch (manifest : Manifest) :
    (w.writeManifest manifest).2.sketch manifest.id = w.sketch manifest.id := by
  unfold writeManifest
  cases hd : w.dirs manifest.id with
  | some d =>
    simp [sketch, view, row, setDir, View.sketch, View.state, View.phase,
      hd]
  | none => rfl

theorem noted_sketch {ev : Bool → Event}
    (hid : ∀ b, (ev b).id = id) (hhost : ∀ b l, host (ev b :: l) = host l)
    (hrec : ∀ b l, unrecorded (ev b :: l) = unrecorded l) :
    (noted ev r).2.sketch id = r.2.sketch id := by
  have h := view_note_self r.2 (ev r.1.isOk)
  rw [hid] at h
  show ((r.2.note (ev r.1.isOk)).view id).sketch = (r.2.view id).sketch
  rw [h]
  simp [View.sketch, hhost, hrec]

theorem backend_outcome (call : BackendCall) (manifest : Manifest) (directory : String) (f : Fate) :
    Outcome (.backend call manifest directory) (w.sketch manifest.id)
      (exec e (.backend call manifest directory) f w).1
      ((exec e (.backend call manifest directory) f w).2.sketch manifest.id) := by
  have hview : ∀ err, (f.deliver err (w.backend call directory) w).2.view manifest.id =
      w.view manifest.id := fun err => deliver_view (backend_view w call directory _)
  show Outcome (.backend call manifest directory) _ (f.deliver _ (w.backend call directory) w).1
    ((noted _ (f.deliver _ (w.backend call directory) w)).2.sketch manifest.id)
  generalize hr : f.deliver (.text "network backend failed") (w.backend call directory) w = r
  have hv : r.2.view manifest.id = w.view manifest.id := hr ▸ hview _
  have hnote := view_note_self r.2 (.backend manifest.id call r.1.isOk)
  have hsk : (noted (.backend manifest.id call) r).2.sketch manifest.id =
      ((w.view manifest.id).note (.backend manifest.id call r.1.isOk)).sketch := by
    rw [← hv]
    exact congrArg View.sketch hnote
  rw [hsk]
  cases call <;> rfl

/-- **The engine's operations refine the abstract ones.** -/
theorem exec_outcome (o : Op) (f : Fate) (ho : o.target = some id) :
    Outcome o (w.sketch id) (exec e o f w).1 ((exec e o f w).2.sketch id) := by
  have same : ∀ {id : String} {err : ApplyError} {r : Except ApplyError Unit × World},
      r.2.sketch id = w.sketch id → (f.deliver err r w).2.sketch id = w.sketch id :=
    Fate.deliver_keeps (I := fun v : World => v.sketch _ = w.sketch _) rfl
  cases o with
  | now => cases ho
  | newSecret n => cases ho
  | listUnfinished => cases ho
  | create record =>
    exact deliver_moves f (create_outcome record (Option.some.inj ho))
  | get a =>
    obtain rfl := Option.some.inj ho
    refine deliver_cases (P := fun r w' => Outcome (.get a) (w.sketch a) r (w'.sketch a)) f
      ⟨rfl, ?_⟩ ⟨rfl, nofun⟩ ⟨rfl, nofun⟩
    intro t ht
    unfold World.get at ht
    split at ht
    · next hr =>
      cases ht
      exact congrArg (Option.map _) hr
    · cases ht
  | load a =>
    obtain rfl := Option.some.inj ho
    refine deliver_cases (P := fun r w' => Outcome (.load a) (w.sketch a) r (w'.sketch a)) f
      ⟨rfl, fun x hx => phase_of_load hx⟩ ⟨rfl, fun t ht => by cases ht⟩
      ⟨rfl, fun t ht => by cases ht⟩
  | updateDeadline a deadline =>
    obtain rfl := Option.some.inj ho
    exact same (updateDeadline_sketch deadline)
  | transition a expected next code =>
    obtain rfl := Option.some.inj ho
    exact deliver_moves f (transition_outcome w a expected next code)
  | mkdir a =>
    obtain rfl := Option.some.inj ho
    exact same mkdir_sketch
  | writeManifest m =>
    obtain rfl := Option.some.inj ho
    exact same (writeManifest_sketch m)
  | syncDirectory a => exact congrArg View.sketch (deliver_view rfl)
  | setPhase a p =>
    obtain rfl := Option.some.inj ho
    exact (deliver_moves f ((setPhase_outcome e w a p).imp_right (⟨trivial, ·⟩))).imp_right
      (·.2)
  | backend call m directory =>
    obtain rfl := Option.some.inj ho
    exact backend_outcome call m directory f
  | arm a deadline =>
    obtain rfl := Option.some.inj ho
    refine (noted_sketch (fun _ => rfl) (fun _ _ => rfl) (fun _ _ => rfl)).trans ?_
    exact congrArg View.sketch (deliver_view rfl)
  | disarm a =>
  obtain rfl := Option.some.inj ho
  refine (noted_sketch (fun _ => rfl) (fun _ _ => rfl) (fun _ _ => rfl)).trans ?_
  exact congrArg View.sketch (deliver_view rfl)

end

/-! ## procedures that keep the invariant -/

/-- from every world in which the transaction looks like `sk`, the procedure keeps the invariant
of the transaction, wherever it is cut off -/
def Safe {α : Type} (e : Engine) (id : String) (p : Prog α) (sk : Sketch) : Prop :=
  ∀ w : World, w.sketch id = sk →
    wp (exec e) (fun _ => True) (fun w => (w.sketch id).Inv) p (fun _ w => (w.sketch id).Inv) w

variable {o : Op} {p : Phase} {expected : List TxState}

section
variable {e : Engine} {id : String} {α β : Type} {sk : Sketch}

theorem safe_done {a : α} (h : sk.Inv) : Safe e id (.done a) sk := by
  rintro w rfl
  exact h

theorem safe_call {k : o.Ret → Prog α} (ho : o.target = some id) (h : sk.Inv)
    (hk : ∀ r sk', Outcome o sk r sk' → o.answers r → Safe e id (k r) sk') :
    Safe e id (.call o k) sk := by
  rintro w rfl
  refine ⟨h, fun f _ => ?_⟩
  exact hk _ _ (exec_outcome o f ho) (exec_answers e o f w) _ rfl

theorem safe_call_none {k : o.Ret → Prog α} (ho : o.target = none) (h : sk.Inv)
    (hk : ∀ r, Safe e id (k r) sk) : Safe e id (.call o k) sk := by
  rintro w rfl
  refine ⟨h, fun f _ => hk _ _ ?_⟩
  refine sketch_of_view (view_frame e o f w ?_)
  rw [ho]
  simp

theorem safe_setPhase {k : Except ApplyError Unit → Prog α} (h : sk.Inv)
    (hok : Safe e id (k (.ok ())) (sk.setPhase p)) (hfail : ∀ err, Safe e id (k (.error err)) sk)
    (hlate : ∀ err, Safe e id (k (.error err)) (sk.setPhase p)) :
    Safe e id (.call (.setPhase id p) k) sk := by
  refine safe_call rfl h fun r sk' ho _ => ?_
  rcases ho with ⟨⟨err, rfl⟩, rfl⟩ | rfl
  · exact hfail err
  cases r with
  | error err => exact hlate err
  | ok u => exact hok

theorem safe_transition {next : TxState} {code : String}
    {k : Except ApplyError Unit → Prog α} (h : sk.Inv)
    (hok : Safe e id (k (.ok ())) (sk.setState next)) (hfail : ∀ err, Safe e id (k (.error err)) sk)
    (hlate : ∀ err, Safe e id (k (.error err)) (sk.setState next)) :
    Safe e id (.call (.transition id expected next code) k) sk := by
  refine safe_call rfl h fun r sk' ho _ => ?_
  rcases ho with ⟨⟨err, rfl⟩, rfl⟩ | ⟨-, rfl⟩
  · exact hfail err
  cases r with
  | error err => exact hlate err
  | ok u => exact hok

theorem safe_quiet {k : o.Ret → Prog α} (ho : o.target = some id)
    (hquiet : ∀ r sk', Outcome o sk r sk' → sk' = sk) (h : sk.Inv)
    (hk : ∀ r, o.answers r → Safe e id (k r) sk) : Safe e id (.call o k) sk :=
  safe_call ho h fun r sk' hr ha => by
    obtain rfl := hquiet r sk' hr
    exact hk r ha

end

theorem Safe.bind_done {e : Engine} {id : String} {β : Type} {sk : Sketch} {p : Prog α}
    {f : α → Prog β} (h : Safe e id p sk) (hf : ∀ a, ∃ b, f a = .done b) :
    Safe e id (p.bind f) sk := by
  intro w hw
  refine wp_bind.2 (wp_post (fun a w' h' => ?_) (h w hw))
  obtain ⟨b, hb⟩ := hf a
  rw [hb]
  exact h'

/-! ## the writes that keep the invariant -/

variable {s : TxState}

namespace Sketch

variable {sk : Sketch}

theorem Inv.setPhase_plain (h : sk.Inv) (hs : sk.state ≠ none)
    (hp : p = .created ∨ p = .snapshotReady ∨ p = .armed ∨ p = .failed) : (sk.setPhase p).Inv := by
  obtain ⟨st, ph, ho, un⟩ := sk
  obtain ⟨-, hc, hr, -⟩ := h
  rcases hp with rfl | rfl | rfl | rfl <;> constructor <;> simp_all [setPhase]

theorem inv_setPhase_applied (hs : sk.state = some .armed) : (sk.setPhase .applied).Inv := by
  constructor <;> simp_all [setPhase]

theorem Inv.setPhase_new (h : sk.Inv) (hs : sk.state ≠ none) (hh : sk.host = .new)
    (hp : p = .confirming ∨ p = .confirmed) : (sk.setPhase p).Inv := by
  obtain ⟨-, -, hr, -⟩ := h
  rcases hp with rfl | rfl <;> constructor <;> simp_all [setPhase]

theorem Inv.setPhase_old (h : sk.Inv) (hs : sk.state ≠ none) (hh : sk.host = .old) :
    (sk.setPhase .rolledBack).Inv := by
  obtain ⟨-, hc, -⟩ := h
  constructor <;> simp_all [setPhase]

theorem inv_setState_failed (sk : Sketch) : (sk.setState .failed).Inv := by
  constructor <;> simp [setState, unfinished, TxState.unfinished, unfinishedStates]

theorem inv_setState_confirmed (hh : sk.host = .new) : (sk.setState .confirmed).Inv := by
  constructor <;> simp [setState, unfinished, TxState.unfinished, unfinishedStates, hh]

theorem inv_setState_rolledBack (hh : sk.host = .old) : (sk.setState .rolledBack).Inv := by
  constructor <;> simp [setState, unfinished, TxState.unfinished, unfinishedStates, hh]

theorem inv_setState_open (hp : sk.phase = some p) (hplain : s = .armed ∧ p = .armed ∨
      sk.host = .new ∧ (s = .applied ∧ p = .applied ∨ s = .confirming ∧ p = .confirming)) :
    (sk.setState s).Inv := by
  rcases hplain with ⟨rfl, rfl⟩ | ⟨hh, ⟨rfl, rfl⟩ | ⟨rfl, rfl⟩⟩ <;> constructor <;>
    simp [setState, *]

/-- the host may be put back: the transaction is unfinished and neither confirmed nor rolled back
on disk -/
structure Undoable (sk : Sketch) : Prop where
  unfinished : sk.unfinished = true
  notConfirmed : sk.phase ≠ some .confirmed
  notRolledBack : sk.phase ≠ some .rolledBack

theorem Undoable.present (h : sk.Undoable) : sk.state ≠ none := by
  intro hs
  have := h.unfinished
  simp [Sketch.unfinished, hs] at this

theorem Undoable.inv_rolled (h : sk.Undoable) (ok : Bool) : (sk.rolled ok).Inv := by
  obtain ⟨hu, hc, hr⟩ := h
  constructor
  · intro hs
    exact absurd hs (Undoable.present ⟨hu, hc, hr⟩)
  · intro hs
    rw [Sketch.unfinished, show sk.state = some .confirmed from hs] at hu
    cases hu
  · intro hs
    rw [Sketch.unfinished, show sk.state = some .rolledBack from hs] at hu
    cases hu
  · exact fun hp => absurd hp hc
  · exact fun hp => absurd hp hr
  · exact nofun
  · exact nofun

end Sketch

/-! ## the procedures of the engine -/

variable {manifest : Manifest} {transaction item : Transaction}

section
variable {e : Engine} {id : String} {α : Type} {sk : Sketch}

/-- the three writes of a rollback, in the order of `rollback` and of `rollbackConfirmFailure` -/
theorem safe_afterRollback {code : String} {k : Prog α} (hsk : sk.Inv)
    (hp : (sk.setPhase p).Inv) (hs : ∀ sk' : Sketch, sk'.host = sk.host → (sk'.setState s).Inv)
    (hk : ∀ sk' : Sketch, sk'.Inv → Safe e id k sk') : Safe e id
      (.call (.setPhase id p) fun _ => .call (.transition id expected s code) fun _ => k) sk := by
  have write : ∀ sk' : Sketch, sk'.Inv → sk'.host = sk.host →
      Safe e id (.call (.transition id expected s code) fun _ => k) sk' := by
    intro sk' hI hh
    exact safe_transition hI (hk _ (hs sk' hh)) (fun _ => hk _ hI) fun _ => hk _ (hs sk' hh)
  exact safe_setPhase hsk (write _ hp rfl) (fun _ => write _ hsk rfl) fun _ => write _ hp rfl

/-- both outcomes of putting the host back, each followed by what it records -/
theorem safe_undo {directory failed code : String}
    {k : Except ApplyError Unit → Prog α} {undone broken : Prog α} (hm : manifest.id = id)
    (hsk : sk.Inv) (hu : sk.Undoable)
    (herror : ∀ err, k (.error err) = .call (.setPhase id .failed) fun _ =>
      .call (.transition id expected .failed failed) fun _ => broken)
    (hok : k (.ok ()) = .call (.setPhase id .rolledBack) fun _ =>
      .call (.transition id expected .rolledBack code) fun _ => undone)
    (hbroken : ∀ sk' : Sketch, sk'.Inv → Safe e id broken sk')
    (hundone : ∀ sk' : Sketch, sk'.Inv → Safe e id undone sk') :
    Safe e id (.call (.backend .rollback manifest directory) k) sk := by
  refine safe_call (congrArg some hm) hsk fun r sk' ho _ => ?_
  cases r with
  | error err =>
    obtain rfl : sk' = sk.rolled false := ho
    rw [herror]
    exact safe_afterRollback (hu.inv_rolled false)
      ((hu.inv_rolled false).setPhase_plain hu.present (by simp))
      (fun sk' _ => Sketch.inv_setState_failed sk') hbroken
  | ok u =>
  obtain rfl : sk' = sk.rolled true := ho
  rw [hok]
  exact safe_afterRollback (hu.inv_rolled true)
    ((hu.inv_rolled true).setPhase_old hu.present rfl)
    (fun sk' h => Sketch.inv_setState_rolledBack h) hundone

theorem safe_rollback (hm : manifest.id = id) (directory code : String) (hsk : sk.Inv)
    (hu : sk.Undoable) :
    Safe e id (Engine.rollback id manifest directory code : Prog (Except ApplyError α)) sk :=
  safe_undo hm hsk hu (fun _ => rfl) rfl (fun _ => safe_done) fun _ h =>
    safe_quiet rfl (fun _ _ h => h) h fun _ _ => safe_done h

theorem safe_rollbackConfirmFailure (ht : transaction.id = id) (hm : manifest.id = id)
    (code : String) (hsk : sk.Inv) (hu : sk.Undoable) :
    Safe e id (e.rollbackConfirmFailure transaction manifest code) sk := by
  subst ht
  unfold rollbackConfirmFailure
  split
  · exact safe_done hsk
  split
  · exact safe_done hsk
  · exact safe_undo hm hsk hu (fun _ => rfl) rfl (fun _ => safe_done) fun _ => safe_done

theorem Sketch.undoable_of (hs : sk.state = some s) (hu : s.unfinished = true)
    (hp : sk.phase = some p) (hc : p ≠ .confirmed) (hr : p ≠ .rolledBack) : sk.Undoable :=
  ⟨by rw [Sketch.unfinished, hs]; exact hu, by rw [hp]; exact fun h => hc (some.inj h),
    by rw [hp]; exact fun h => hr (some.inj h)⟩

theorem Sketch.inv_armed (hs : sk.state = some .armed) (hp : sk.phase = some .armed) : sk.Inv := by
  constructor <;> simp [hs, hp]

theorem safe_applyArmed (ht : transaction.id = id) (hm : manifest.id = id) (directory : String)
    (hs : sk.state = some .armed) (hp : sk.phase = some .armed) :
    Safe e id (Engine.applyArmed id transaction manifest directory) sk := by
  subst ht
  refine safe_call (congrArg some hm) (Sketch.inv_armed hs hp) fun r sk' ho _ => ?_
  have armed : ∀ ok, (sk.applied ok).Inv := fun ok => Sketch.inv_armed hs hp
  have undo : ∀ ok, (sk.applied ok).Undoable := fun ok =>
    Sketch.undoable_of hs rfl hp (by decide) (by decide)
  cases r with
  | error err =>
    obtain rfl : sk' = sk.applied false := ho
    exact safe_rollback hm directory _ (armed false) (undo false)
  | ok u =>
  obtain rfl : sk' = sk.applied true := ho
  have written : ((sk.applied true).setPhase .applied).Inv :=
    Sketch.inv_setPhase_applied hs
  have undoWritten : ((sk.applied true).setPhase .applied).Undoable :=
    Sketch.undoable_of hs rfl rfl (by decide) (by decide)
  have recorded : (((sk.applied true).setPhase .applied).setState .applied).Inv :=
    Sketch.inv_setState_open rfl (Or.inr ⟨rfl, Or.inl ⟨rfl, rfl⟩⟩)
  have back := fun code => safe_rollback (e := e) (α := Unit) hm directory code written undoWritten
  refine safe_setPhase (armed true) ?_
    (fun _ => safe_rollback hm directory _ (armed true) (undo true)) fun _ => back _
  refine safe_transition written (safe_done recorded) (fun _ => back _) fun _ => ?_
  exact safe_rollback hm directory _ recorded
    (Sketch.undoable_of rfl rfl rfl (by decide) (by decide))

theorem safe_apply (hsk : sk.Inv) : Safe e id (e.apply id) sk := by
  unfold apply
  split
  · exact safe_done hsk
  refine safe_call rfl hsk fun r sk' ho ha => ?_
  obtain ⟨rfl, hget⟩ := ho
  cases r with
  | error err => exact safe_done hsk
  | ok transaction =>
  obtain rfl : transaction.id = id := ha
  have hs := hget transaction rfl
  simp only
  split
  · exact safe_done hsk
  next harmed =>
  rw [not_not.1 harmed] at hs
  refine safe_call rfl hsk fun r sk' ho ha => ?_
  obtain ⟨rfl, hload⟩ := ho
  cases r with
  | error err => exact safe_done hsk
  | ok x =>
  obtain ⟨manifest, phase⟩ := x
  have hm : manifest.id = transaction.id := ha
  have hp := hload _ rfl
  simp only at hp ⊢
  split
  · exact safe_done hsk
  split
  · exact safe_done hsk
  next hchecks =>
  have harm : phase = .armed := by
    by_contra hne
    exact hchecks (by simp [hne])
  rw [harm] at hp
  have undo := fun directory code => safe_rollback (e := e) (α := Unit) hm directory code hsk
    (Sketch.undoable_of hs rfl hp (by decide) (by decide))
  split
  · exact undo _ _
  refine safe_call_none rfl hsk fun now => ?_
  split
  · exact undo _ _
  · exact safe_applyArmed rfl hm _ hs hp

theorem safe_confirmAccepted (ht : transaction.id = id) (hm : manifest.id = id) (directory : String)
    (hsk : sk.Inv) (hs : sk.state = some .applied) (hh : sk.host = .new) :
    Safe e id (e.confirmAccepted id transaction manifest directory) sk := by
  have present : sk.state ≠ none := by rw [hs]; simp
  have intent : (sk.setPhase .confirming).Inv := hsk.setPhase_new present hh (Or.inl rfl)
  have moved : ((sk.setPhase .confirming).setState .confirming).Inv :=
    Sketch.inv_setState_open rfl (Or.inr ⟨hh, Or.inr ⟨rfl, rfl⟩⟩)
  have undo := fun code => safe_rollbackConfirmFailure (e := e) ht hm code moved
    (Sketch.undoable_of rfl rfl rfl (by decide) (by decide))
  have done : (((sk.setPhase .confirming).setState .confirming).setPhase .confirmed).Inv :=
    moved.setPhase_new (by simp [Sketch.setState]) hh (Or.inr rfl)
  have confirmed := @Sketch.inv_setState_confirmed
    (((sk.setPhase .confirming).setState .confirming).setPhase .confirmed) hh
  refine safe_setPhase hsk ?_ (fun _ => safe_done hsk) fun _ => safe_done intent
  refine safe_transition intent ?_ (fun _ => safe_done intent) fun _ => safe_done moved
  refine safe_quiet rfl (fun _ _ h => h) moved (byAnswer (fun _ => undo _) fun _ _ => ?_)
  refine safe_quiet (congrArg some hm) (fun _ _ h => h) moved
    (byAnswer (fun _ => undo _) fun _ _ => ?_)
  refine safe_setPhase moved ?_ (fun _ => safe_done moved) fun _ => safe_done done
  exact safe_transition done (safe_done confirmed) (fun _ => safe_done done)
    fun _ => safe_done confirmed

theorem safe_confirm (evidence : ConfirmEvidence) (hsk : sk.Inv) (hu : sk.unrecorded = false) :
    Safe e id (e.confirm id evidence) sk := by
  unfold confirm
  split
  · exact safe_done hsk
  refine safe_call rfl hsk fun r sk' ho ha => ?_
  obtain ⟨rfl, hget⟩ := ho
  cases r with
  | error err => exact safe_done hsk
  | ok transaction =>
  have ht : transaction.id = id := ha
  have hs := hget transaction rfl
  simp only
  split
  · exact safe_done hsk
  next happlied =>
  rw [not_not.1 happlied] at hs
  split
  · exact safe_done hsk
  refine safe_call_none rfl hsk fun now => ?_
  split
  · exact safe_done hsk
  split
  · exact safe_done hsk
  refine safe_call rfl hsk fun r sk' ho ha => ?_
  obtain ⟨rfl, hload⟩ := ho
  cases r with
  | error err => exact safe_done hsk
  | ok x =>
  obtain ⟨manifest, phase⟩ := x
  have hm : manifest.id = id := ha
  have hp := hload _ rfl
  simp only at hp ⊢
  split
  · exact safe_done hsk
  split
  · exact safe_done hsk
  next hchecks =>
  have happ : phase = .applied := by
    by_contra hne
    exact hchecks (by simp [hne])
  rw [happ] at hp
  split
  · exact safe_done hsk
  · exact safe_confirmAccepted ht hm _ hsk hs (hsk.appliedPhase hp hs hu)

/-! ### recovery -/

variable {err : Option ApplyError} {failures : List ApplyError}

section
variable (hid : item.id = id)
include hid

theorem safe_recoverTransition {next : TxState} {code : String} (hsk : sk.Inv)
    (hnext : (sk.setState next).Inv) :
    Safe e id (Engine.recoverTransition item next code err failures) sk := by
  subst hid
  exact safe_transition hsk (safe_done hnext) (fun _ => safe_done hsk) fun _ => safe_done hnext

theorem safe_recoverRollback (hm : manifest.id = id) (directory : String)
    (hsk : sk.Inv) (hu : sk.Undoable) :
    Safe e id (Engine.recoverRollback item manifest directory err failures) sk := by
  subst hid
  refine safe_call (congrArg some hm) hsk fun r sk' ho _ => ?_
  cases r with
  | error failure =>
    obtain rfl : sk' = sk.rolled false := ho
    exact safe_done (hu.inv_rolled false)
  | ok u =>
  obtain rfl : sk' = sk.rolled true := ho
  have old := hu.inv_rolled true
  have written := old.setPhase_old hu.present rfl
  refine safe_quiet rfl (fun _ _ h => h) old fun _ _ => ?_
  refine safe_setPhase old ?_ (fun _ => safe_done old) fun _ => safe_done written
  exact safe_recoverTransition rfl written (Sketch.inv_setState_rolledBack rfl)

theorem safe_finishConfirming (hsk : sk.Inv) (hpresent : sk.state ≠ none) (hh : sk.host = .new) :
    Safe e id (Engine.finishConfirming item err) sk := by
  subst hid
  cases err with
  | some stale => exact safe_done hsk
  | none =>
  have written := hsk.setPhase_new hpresent hh (Or.inr rfl)
  have confirmed := @Sketch.inv_setState_confirmed (sk.setPhase .confirmed) hh
  refine safe_setPhase hsk ?_ (fun _ => safe_done hsk) fun _ => safe_done written
  exact safe_transition written (safe_done confirmed) (fun _ => safe_done written)
    fun _ => safe_done confirmed

/-- one turn of the loop of `Recover`: a status `CONFIRMING` is acted on only if no `Rollback` has
overtaken it -/
theorem safe_recoverItem (hsk : sk.Inv) (hs : sk.state = some item.state)
    (hopen : item.state.unfinished = true)
    (hu : sk.phase = some .confirming → sk.unrecorded = false) :
    Safe e id (e.recoverItem item err failures) sk := by
  have present : sk.state ≠ none := by rw [hs]; simp
  have unfinished : sk.unfinished = true := by rw [Sketch.unfinished, hs]; exact hopen
  refine safe_call (congrArg some hid) hsk fun r sk' ho ha => ?_
  obtain ⟨rfl, hload⟩ := ho
  cases r with
  | error loadErr => exact safe_done hsk
  | ok x =>
  obtain ⟨manifest, phase⟩ := x
  have hm : manifest.id = id := Eq.trans ha hid
  have hp := hload _ rfl
  simp only at hp ⊢
  split
  · exact safe_done hsk
  split
  · exact safe_done hsk
  unfold recoverSwitch
  split
  · exact safe_recoverTransition hid hsk
      (Sketch.inv_setState_confirmed (hsk.confirmedPhase hp unfinished))
  · exact safe_recoverTransition hid hsk
      (Sketch.inv_setState_rolledBack (hsk.rolledBackPhase hp unfinished))
  · have hh := hsk.confirmingPhase hp unfinished (hu hp)
    refine Safe.bind_done ?_ fun r => ?_
    · subst hid
      refine safe_quiet rfl (fun _ _ h => h) hsk
        (byAnswer (fun _ => safe_finishConfirming rfl hsk present hh) fun _ _ => ?_)
      exact safe_quiet (congrArg some hm) (fun _ _ h => h) hsk
        fun _ _ => safe_finishConfirming rfl hsk present hh
    cases r with
    | some failure => exact ⟨_, rfl⟩
    | none => exact ⟨_, rfl⟩
  · next hc hr _ =>
    refine safe_recoverRollback hid hm _ hsk ?_
    exact Sketch.undoable_of hs hopen hp hc hr

end

/-! ### staging -/

theorem safe_failBeforeArm (code : String) (hsk : sk.Inv) (hpresent : sk.state ≠ none) :
    Safe e id (Engine.failBeforeArm id code) sk := by
  have write : ∀ sk' : Sketch, sk'.Inv → sk'.state ≠ none →
      Safe e id (.call (.setPhase id .failed) fun _ => .done (.error (.text
        ("network apply " ++ id ++ " failed (" ++ code ++ ")"))) :
          Prog (Except ApplyError Prepared)) sk' := by
    intro sk' hI hn
    have failed := hI.setPhase_plain hn (p := .failed) (by simp)
    exact safe_setPhase hI (safe_done failed) (fun _ => safe_done hI) fun _ => safe_done failed
  have closed := write _ (Sketch.inv_setState_failed sk) (by simp [Sketch.setState])
  exact safe_transition hsk closed (fun _ => write _ hsk hpresent) fun _ => closed

/-- a transaction that is being staged: its row is `PREPARING` and its status, if there is one, is
one of the three that `Stage` writes -/
structure Sketch.Staged (sk : Sketch) : Prop where
  state : sk.state = some .preparing
  phase : ∀ p, sk.phase = some p → p = .created ∨ p = .snapshotReady ∨ p = .armed

theorem Sketch.Staged.present (h : sk.Staged) : sk.state ≠ none := by
  rw [h.state]
  simp

theorem Sketch.Staged.inv (h : sk.Staged) : sk.Inv where
  absent hs := absurd hs h.present
  confirmed hs := by rw [h.state] at hs; cases hs
  rolledBack hs := by rw [h.state] at hs; cases hs
  confirmedPhase hp := by simpa using h.phase _ hp
  rolledBackPhase hp := by simpa using h.phase _ hp
  confirmingPhase hp := by simpa using h.phase _ hp
  appliedPhase hp := by simpa using h.phase _ hp

theorem Sketch.Staged.setPhase (h : sk.Staged)
    (hp : p = .created ∨ p = .snapshotReady ∨ p = .armed) : (sk.setPhase p).Staged :=
  ⟨h.state, fun q hq => by obtain rfl := some.inj hq; exact hp⟩

theorem Sketch.Staged.undoable (h : sk.Staged) : sk.Undoable := by
  have hp := h.phase
  refine ⟨by rw [Sketch.unfinished, h.state]; rfl, fun hc => ?_, fun hc => ?_⟩
  · simpa using hp _ hc
  · simpa using hp _ hc

theorem safe_bind_staged {β : Type} {p : Prog α} {f : α → Prog β}
    (hp : p.All Op.answers fun o => o.target = some id ∧
      ∀ (sk : Sketch) r sk', Outcome o sk r sk' → sk.Staged → sk'.Staged)
    (hsk : sk.Staged) (hf : ∀ a sk', sk'.Staged → Safe e id (f a) sk') :
    Safe e id (p.bind f) sk := by
  rintro w rfl
  refine wp_bind.2 ?_
  refine wp_mono (fun _ h => Sketch.Staged.inv h) (fun a w' h' => hf a _ h' w' rfl)
    (wp_of_all (I := fun w => (w.sketch id).Staged) (exec_answers e) ?_ hp hsk)
  intro o f w' ho _ h
  exact ho.2 _ _ _ (exec_outcome o f ho.1) h

theorem safe_failStaged (code : String) (hsk : sk.Staged) :
    Safe e id (Engine.failBeforeArm id code) sk := safe_failBeforeArm code hsk.inv hsk.present

theorem safe_stageArm (hm : manifest.id = id) (confirmToken directory : String) (hsk : sk.Staged) :
    Safe e id (e.stageArm manifest confirmToken directory) sk := by
  subst hm
  refine safe_call_none rfl hsk.inv fun armTime => ?_
  have undo : ∀ (sk' : Sketch) code, sk'.Inv → sk'.Undoable → Safe e manifest.id
      (rollback manifest.id (e.dated manifest armTime) directory code :
        Prog (Except ApplyError Prepared)) sk' :=
    fun sk' code h hu =>
      safe_rollback (show (e.dated manifest armTime).id = _ from rfl) directory code h hu
  refine safe_bind_staged ((replaceManifest_ops _).mono fun o ho => ?_) hsk fun r sk hsk => ?_
  · rcases ho with rfl | rfl | rfl
    · exact ⟨rfl, fun sk r sk' h hs => h.1 ▸ hs⟩
    · exact ⟨rfl, fun sk r sk' h hs => Eq.mpr (congrArg _ h) hs⟩
    · exact ⟨rfl, fun sk r sk' h hs => Eq.mpr (congrArg _ h) hs⟩
  cases r with
  | error err => exact safe_failStaged _ hsk
  | ok u =>
  have ready := hsk.setPhase (p := .snapshotReady) (by simp)
  have armed := ready.setPhase (p := .armed) (by simp)
  have moved : (((sk.setPhase .snapshotReady).setPhase .armed).setState .armed).Inv :=
    Sketch.inv_setState_open rfl (Or.inl ⟨rfl, rfl⟩)
  refine safe_quiet rfl (fun _ _ h => h) hsk.inv (byAnswer (fun _ => safe_failStaged _ hsk) fun _ _ => ?_)
  refine safe_setPhase hsk.inv ?_ (fun _ => safe_failStaged _ hsk) fun _ => safe_failStaged _ ready
  refine safe_quiet rfl (fun _ _ h => h) ready.inv
    (byAnswer (fun _ => safe_failStaged _ ready) fun _ _ => ?_)
  refine safe_setPhase ready.inv ?_ (fun _ => undo _ _ ready.inv ready.undoable)
    fun _ => undo _ _ armed.inv armed.undoable
  refine safe_transition armed.inv (safe_done moved)
    (fun _ => undo _ _ armed.inv armed.undoable) fun _ => undo _ _ moved ?_
  exact Sketch.undoable_of rfl rfl rfl (by decide) (by decide)

theorem safe_stageFiles (hm : manifest.id = id) (confirmToken directory : String)
    (hsk : sk.Staged) : Safe e id (e.stageFiles manifest confirmToken directory) sk := by
  subst hm
  refine safe_bind_staged ((storeCreate_ops manifest).mono fun o ho => ?_) hsk fun r sk hsk => ?_
  · rcases ho with rfl | rfl | rfl | rfl
    · exact ⟨rfl, fun sk r sk' h hs => Eq.mpr (congrArg _ h) hs⟩
    · exact ⟨rfl, fun sk r sk' h hs => Eq.mpr (congrArg _ h) hs⟩
    · refine ⟨rfl, fun sk r sk' h hs => ?_⟩
      rcases h with ⟨-, rfl⟩ | rfl
      · exact hs
      · exact hs.setPhase (by simp)
    · exact ⟨rfl, fun sk r sk' h hs => Eq.mpr (congrArg _ h) hs⟩
  cases r with
  | error err => exact safe_failStaged _ hsk
  | ok created =>
  simp only
  split
  · exact safe_failStaged _ hsk
  exact safe_quiet rfl (fun _ _ h => h) hsk.inv
    (byAnswer (fun _ => safe_failStaged _ hsk) fun _ _ => safe_stageArm rfl confirmToken directory hsk)

theorem safe_stageCreate (candidate : Candidate) (hm : manifest.id = id) (confirmToken : String)
    (hsk : sk.Inv) : Safe e id (e.stageCreate candidate manifest confirmToken) sk := by
  unfold stageCreate
  split
  · exact safe_done hsk
  split
  · exact safe_done hsk
  refine safe_call (congrArg some hm) hsk fun r sk' ho _ => ?_
  rcases ho with ⟨⟨err, rfl⟩, rfl⟩ | ⟨hnone, rfl⟩
  · exact safe_done hsk
  have hstaged : (sk.setState .preparing).Staged := by
    refine ⟨rfl, fun p hp => ?_⟩
    have : sk.phase = some p := hp
    rw [hsk.absent hnone] at this
    cases this
  cases r with
  | error err => exact safe_done hstaged.inv
  | ok u => exact safe_stageFiles hm _ _ hstaged

end

/-! ## whole runs -/

def AllInv (w : World) : Prop := ∀ id, (w.sketch id).Inv

section
variable {e : Engine} {w : World} {α : Type}

/-- a procedure about one transaction that keeps its invariant keeps all of them, and leaves the
other transactions alone -/
theorem keepsAll {P : Op → Prop} {a : String} {p : Prog α} (hp : About P a p)
    (hs : Safe e a p (w.sketch a)) (hw : AllInv w) : wp (exec e) (fun _ => True) AllInv p
      (fun _ w' => AllInv w' ∧ ∀ id, id ≠ a → w'.view id = w.view id) w := by
  have each : ∀ id, wp (exec e) (fun _ => True) (fun w' => (w'.sketch id).Inv) p
      (fun _ w' => (w'.sketch id).Inv ∧ (id ≠ a → w'.view id = w.view id)) w := by
    intro id
    by_cases h : id = a
    · subst h
      exact wp_post (fun _ _ h => ⟨h, fun hne => absurd rfl hne⟩) (hs w rfl)
    refine wp_mono (fun w' hv => ?_) (fun _ w' hv => ⟨?_, fun _ => hv⟩) (hp.wp e h w)
    · rw [sketch_of_view hv]
      exact hw id
    · rw [sketch_of_view hv]
      exact hw id
  refine wp_post (fun _ w' h => ⟨fun id => (h id).1, fun id => (h id).2⟩)
    (wp_forall each)

theorem keepsAll_call_none {k : o.Ret → Prog α} (ho : o.target = none) (hw : AllInv w)
    (hk : ∀ r w', AllInv w' → wp (exec e) (fun _ => True) AllInv (k r) (fun _ => AllInv) w') :
    wp (exec e) (fun _ => True) AllInv (.call o k) (fun _ => AllInv) w := by
  refine ⟨hw, fun f _ => hk _ _ fun id => ?_⟩
  rw [sketch_of_view (view_frame e o f w (by rw [ho]; simp))]
  exact hw id

theorem keepsAll_stage (candidate : Candidate) (hw : AllInv w) :
    wp (exec e) (fun _ => True) AllInv (e.stage candidate) (fun _ => AllInv) w := by
  unfold stage
  split
  · exact hw
  split
  · exact hw
  refine keepsAll_call_none rfl hw fun r w hw => ?_
  cases r with
  | error err => exact hw
  | ok idBytes =>
  refine keepsAll_call_none rfl hw fun r w hw => ?_
  cases r with
  | error err => exact hw
  | ok tokenBytes =>
  refine keepsAll_call_none rfl hw fun now w hw => ?_
  exact wp_post (fun _ _ h => h.1)
    (keepsAll (about_stageCreate candidate _ _) (safe_stageCreate candidate rfl _ (hw _)) hw)

/-- what is known about the transactions that the loop of `Recover` has not come to yet -/
def Pending (w : World) (items : List Transaction) : Prop :=
  ∀ item ∈ items, w.state item.id = some item.state ∧ item.state.unfinished = true ∧
    (w.phase item.id = some .confirming → (w.sketch item.id).unrecorded = false)

theorem keepsAll_recoverLoop {items : List Transaction} (hnodup : (items.map (·.id)).Nodup)
    (hw : AllInv w) (hp : Pending w items) :
    wp (exec e) (fun _ => True) AllInv (e.recoverLoop items err failures) (fun _ => AllInv) w := by
  induction items generalizing err failures w with
  | nil => exact hw
  | cons item rest ih =>
    rw [List.map_cons, List.nodup_cons] at hnodup
    obtain ⟨hs, hopen, hu⟩ := hp item (by simp)
    refine wp_bind.2 (wp_post (fun r w' h => ?_)
      (keepsAll (about_recoverItem item err failures)
        (safe_recoverItem rfl (hw item.id) hs hopen hu) hw))
    refine ih hnodup.2 h.1 fun x hx => ?_
    have hne : x.id ≠ item.id := fun heq => hnodup.1 (heq ▸ List.mem_map_of_mem hx)
    have hv := h.2 x.id hne
    obtain ⟨hs, hopen, hu⟩ := hp x (by simp [hx])
    rw [← sketch_state, ← sketch_phase, sketch_of_view hv]
    exact ⟨hs, hopen, hu⟩

theorem keepsAll_recover (hw : AllInv w) (hp : Pending w w.table.unfinished) :
    wp (exec e) (fun _ => True) AllInv e.recover (fun _ => AllInv) w := by
  unfold recover
  split
  · exact hw
  refine ⟨hw, fun f _ => ?_⟩
  cases f with
  | ok =>
    refine keepsAll_recoverLoop (nodup_listUnfinished w) hw fun item hi => ?_
    exact hp item (mem_listUnfinished.1 hi)
  | fail => exact hw
  | late => exact hw

end

/-- nothing was ever staged -/
structure Fresh (w : World) : Prop where
  rows : w.table.rows = []
  dirs : ∀ id, w.dirs id = none
  log : w.log = []

theorem Fresh.allInv {w : World} (h : Fresh w) : AllInv w := by
  intro id
  have hstate : w.state id = none := by simp [state, row, Table.find, h.rows]
  have hphase : w.phase id = none := by simp [phase, h.dirs id]
  constructor <;> simp [hstate, hphase]

/-- no call acts on a status that a `Rollback` has overtaken: `Confirm` is not called for, and
`Recover` does not find in `CONFIRMING`, a transaction for which a `Rollback` was called since its
status file and its row were last written -/
def rollbackRecorded (w : World) : Call × List Fate → Prop
  | (.confirm id _, _) => (w.sketch id).unrecorded = false
  | (.recover, _) => ∀ item ∈ w.table.unfinished, w.phase item.id = some .confirming →
      (w.sketch item.id).unrecorded = false
  | _ => True

theorem after_allInv {e : Engine} {w : World} (t : Call × List Fate) (hw : AllInv w)
    (ht : rollbackRecorded w t) : AllInv (after (exec e) e.proc w t) := by
  obtain ⟨call, fates⟩ := t
  cases call with
  | stage candidate => exact wp_run_state (keepsAll_stage candidate hw) fun _ _ => trivial
  | apply id =>
    refine wp_run_state (wp_post (fun _ _ h => h.1)
      (keepsAll (about_apply id) (safe_apply (hw id)) hw)) fun _ _ => trivial
  | confirm id evidence =>
    refine wp_run_state (wp_post (fun _ _ h => h.1)
      (keepsAll (about_confirm id evidence) (safe_confirm evidence (hw id) ht) hw))
      fun _ _ => trivial
  | recover =>
  refine wp_run_state (keepsAll_recover hw fun item hi => ?_) fun _ _ => trivial
  obtain ⟨hmem, hopen⟩ := List.mem_filter.1 hi
  exact ⟨congrArg (Option.map _) (Table.mem_iff_find.mp hmem), hopen, ht item hi⟩

def RowAgrees (w : World) (id : String) : Prop :=
  (w.state id = some .confirmed → (w.sketch id).host = .new) ∧
    (w.state id = some .rolledBack → (w.sketch id).host = .old)

/-- **The row never lies about the host**, in any run of the engine's calls in which no call acts
on a status that a `Rollback` has overtaken; every call may be cut off anywhere and every step may
fail. -/
theorem row_agrees_with_host {e : Engine} {w : World} (hw : Fresh w)
    {turns : List (Call × List Fate)}
    (hturns : Meets (exec e) e.proc rollbackRecorded w turns) (id : String) :
    RowAgrees (runTurns (exec e) e.proc w turns) id := by
  have h : AllInv (runTurns (exec e) e.proc w turns) :=
    hturns.invariant (fun w t hw ht => after_allInv t hw ht) hw.allInv
  exact ⟨(h id).confirmed, (h id).rolledBack⟩

def confirmTurns : List (Call × List Fate) :=
  [(.stage sampleCandidate, List.replicate 18 .ok), (.apply sampleID, List.replicate 6 .ok),
    (.confirm sampleID sampleEvidence, List.replicate 9 .ok)]

theorem row_agrees_sample :
    (sampleRun confirmTurns).state sampleID = some .confirmed ∧
      RowAgrees (sampleRun confirmTurns) sampleID := by
  have hturns : Meets (exec sampleEngine) sampleEngine.proc rollbackRecorded sampleWorld
      confirmTurns := by
    refine ⟨trivial, trivial, ?_, trivial⟩
    unfold rollbackRecorded
    decide +kernel
  exact ⟨by decide +kernel, row_agrees_with_host ⟨rfl, fun _ => rfl, rfl⟩ hturns sampleID⟩

/-- the timer cannot be disarmed, so `Confirm` puts the host back and dies before it records that;
`Recover`, whose steps all succeed, finds `CONFIRMING` and finishes the confirmation -/
def overtakenTurns : List (Call × List Fate) :=
  [(.stage sampleCandidate, List.replicate 18 .ok), (.apply sampleID, List.replicate 6 .ok),
    (.confirm sampleID sampleEvidence, List.replicate 5 .ok ++ [.fail, .ok]),
    (.recover, List.replicate 6 .ok)]

theorem confirmed_after_rollback : ¬ RowAgrees (sampleRun overtakenTurns) sampleID := by
  unfold RowAgrees
  decide +kernel

end GatewayVpn.NetworkApply
