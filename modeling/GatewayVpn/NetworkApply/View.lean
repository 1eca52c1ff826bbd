import GatewayVpn.NetworkApply.Engine

/-!
# Network apply: one transaction at a time

Every operation of the engine is about at most one transaction.  `World.view w id` is all that
the world holds about the transaction `id`: its row, its directory and the part of the log that
is about it.  An operation about another transaction leaves the view alone (`view_frame`), so a
statement about one transaction is proved by looking at the operations about it only.
-/

namespace GatewayVpn.NetworkApply

open Durable List World Engine Table

/-! ## tables -/

variable {r : Transaction} {id' : String}

theorem unfinished_eq_nil {t : Transactions} :
    t.unfinished = [] ↔ ∀ id r, t.find id = some r → r.state.unfinished = false := by
  unfold Transactions.unfinished
  rw [filter_eq_nil_iff]
  refine ⟨fun h id r hr => ?_, fun h r hr => ?_⟩
  · simpa using h r (mem_of_find hr)
  · simpa using h r.id r (mem_iff_find.mp hr)

variable {w : World}

theorem mem_listUnfinished {lib : Lib} :
    r ∈ w.listUnfinished lib ↔ r ∈ w.table.unfinished := List.mem_insertionSort _

theorem nodup_listUnfinished {lib : Lib} (w : World) :
    ((w.listUnfinished lib).map (·.id)).Nodup := by
  have hperm := (perm_insertionSort
    (fun a b : Transaction => lib.createdBefore a.createdAt b.createdAt) w.table.unfinished).map
      (·.id)
  refine hperm.nodup_iff.2 ?_
  exact w.table.nodup.sublist (filter_sublist.map _)

/-! ## views -/

def Event.id : Event → String
  | .backend id _ _ => id
  | .timer id _ _ => id
  | .status id _ => id
  | .row id _ => id

structure View where
  row : Option Transaction
  dir : Option TxDir
  events : List Event

def World.view (w : World) (id : String) : View where
  row := w.row id
  dir := w.dirs id
  events := w.log.filter (·.id = id)

namespace View

def state (v : View) : Option TxState := v.row.map (·.state)
def phase (v : View) : Option Phase := v.dir.bind (·.status)

def note (v : View) (ev : Event) : View := { v with events := ev :: v.events }

def setPhase (v : View) (id : String) (d : TxDir) (p : Phase) : View :=
  { v with dir := some { d with status := some p } }.note (.status id p)

def setState (v : View) (r : Transaction) (s : TxState) (code : String) : View :=
  { v with row := some { r with state := s, errorCode := code } }.note (.row r.id s)

variable (v : View) (ev : Event) (id : String) (d : TxDir) (p : Phase) (r : Transaction)
  (s : TxState) (code : String)

@[simp] theorem note_row : (v.note ev).row = v.row := rfl
@[simp] theorem note_dir : (v.note ev).dir = v.dir := rfl
@[simp] theorem note_events : (v.note ev).events = ev :: v.events := rfl
@[simp] theorem note_state : (v.note ev).state = v.state := rfl
@[simp] theorem note_phase : (v.note ev).phase = v.phase := rfl
@[simp] theorem setPhase_row : (v.setPhase id d p).row = v.row := rfl
@[simp] theorem setPhase_dir : (v.setPhase id d p).dir = some { d with status := some p } := rfl
@[simp] theorem setPhase_state : (v.setPhase id d p).state = v.state := rfl
@[simp] theorem setPhase_phase : (v.setPhase id d p).phase = some p := rfl
@[simp] theorem setPhase_events : (v.setPhase id d p).events = .status id p :: v.events := rfl
@[simp] theorem setState_dir : (v.setState r s code).dir = v.dir := rfl
@[simp] theorem setState_state : (v.setState r s code).state = some s := rfl
@[simp] theorem setState_phase : (v.setState r s code).phase = v.phase := rfl
@[simp] theorem setState_events : (v.setState r s code).events = .row r.id s :: v.events := rfl

end View

@[simp] theorem view_state (w : World) (id : String) : (w.view id).state = w.state id := rfl
@[simp] theorem view_phase (w : World) (id : String) : (w.view id).phase = w.phase id := rfl
@[simp] theorem view_row (w : World) (id : String) : (w.view id).row = w.row id := rfl
@[simp] theorem view_dir (w : World) (id : String) : (w.view id).dir = w.dirs id := rfl

theorem view_note_self (w : World) (ev : Event) : (w.note ev).view ev.id = (w.view ev.id).note ev := by
  simp [view, note, View.note, row]

variable {id : String}

theorem view_note_ne (w : World) {ev : Event} (h : ev.id ≠ id) :
    (w.note ev).view id = w.view id := by
  simp [view, note, row, h]

theorem view_setDir_ne (w : World) (d : TxDir) (h : id' ≠ id) :
    (w.setDir id d).view id' = w.view id' := by
  simp [view, setDir, row, Function.update_of_ne h]

/-! ## operations about other transactions -/

def Op.target : Op → Option String
  | .now | .newSecret _ | .listUnfinished => none
  | .create record => some record.id
  | .get id => some id
  | .updateDeadline id _ => some id
  | .transition id _ _ _ => some id
  | .mkdir id => some id
  | .writeManifest manifest => some manifest.id
  | .syncDirectory id => some id
  | .load id => some id
  | .setPhase id _ => some id
  | .backend _ manifest _ => some manifest.id
  | .arm id _ => some id
  | .disarm id => some id

variable {α : Type}

theorem deliver_view {f : Fate} {err : ApplyError} {r : Except ApplyError α × World}
    (hr : r.2.view id = w.view id) : (f.deliver err r w).2.view id = w.view id :=
  Fate.deliver_keeps (I := fun v : World => v.view id = w.view id) rfl hr

theorem create_view_ne (w : World) (record : Transaction) (h : id ≠ record.id) :
    (w.create record).2.view id = w.view id := by
  unfold create
  simp only
  split
  · rfl
  split
  · rfl
  split
  · rfl
  next hinsert =>
  have hev : ¬ (Event.row (withDefaults record).id (withDefaults record).state).id = id :=
    fun e => h e.symm
  simp only [view, row]
  congr 1
  · exact (find_insert hinsert id).2.trans (if_neg h)
  · simp [hev]

theorem updateDeadline_view_ne (w : World) (deadline : Time) (h : id' ≠ id) :
    (w.updateDeadline id deadline).2.view id' = w.view id' := by
  unfold updateDeadline
  split
  · rfl
  split
  · simp only [view, row]
    rw [find_update_ne _ h]
  · rfl

theorem transition_view_ne (w : World) (expected : List TxState) (next : TxState) (code : String)
    (h : id' ≠ id) : (w.transition id expected next code).2.view id' = w.view id' := by
  unfold transition
  split
  · rfl
  split
  · simp only [view, row]
    rw [find_update_ne _ h]
    have : ¬ (Event.row id next).id = id' := fun e => h e.symm
    simp [this]
  · rfl

theorem mkdir_view_ne (w : World) (h : id' ≠ id) : (w.mkdir id).2.view id' = w.view id' := by
  unfold mkdir
  split
  · rfl
  · exact view_setDir_ne w _ h

variable {manifest : Manifest}

theorem writeManifest_view_ne (w : World) (h : id ≠ manifest.id) :
    (w.writeManifest manifest).2.view id = w.view id := by
  unfold writeManifest
  split
  · exact view_setDir_ne w _ h
  · rfl

theorem setPhase_view_ne (e : Engine) (w : World) (p : Phase) (h : id' ≠ id) :
    (w.setPhase e id p).2.view id' = w.view id' := by
  unfold setPhase
  split
  · rfl
  split
  · rw [view_note_ne _ (fun e => h e.symm), view_setDir_ne w _ h]
  · rfl

theorem backend_view (w : World) (call : BackendCall) (directory id : String) :
    (w.backend call directory).2.view id = w.view id := by
  unfold backend
  cases call with
  | snapshot => rfl
  | commit => rfl
  | apply => simp only; split <;> rfl
  | rollback => simp only; split <;> rfl

theorem noted_view_ne (ev : Bool → Event) (r : Except ApplyError α × World)
    (h : ∀ b, (ev b).id ≠ id) : (noted ev r).2.view id = r.2.view id :=
  view_note_ne r.2 (h _)

/-- **The frame of a transaction**: an operation about another one leaves its view alone. -/
theorem view_frame (e : Engine) (o : Op) (f : Fate) (w : World) (h : o.target ≠ some id) :
    (exec e o f w).2.view id = w.view id := by
  have other : ∀ {a : String}, Op.target o = some a → id ≠ a := fun ha e => h (e ▸ ha)
  cases o with
  | now => rfl
  | newSecret | get | listUnfinished | syncDirectory | load => exact deliver_view rfl
  | create record => exact deliver_view (create_view_ne w record (other rfl))
  | updateDeadline a deadline =>
    exact deliver_view (updateDeadline_view_ne w deadline (other rfl))
  | transition a expected next code =>
    exact deliver_view (transition_view_ne w expected next code (other rfl))
  | mkdir a => exact deliver_view (mkdir_view_ne w (other rfl))
  | writeManifest m => exact deliver_view (writeManifest_view_ne w (other rfl))
  | setPhase a p => exact deliver_view (setPhase_view_ne e w p (other rfl))
  | backend call m directory =>
    refine (noted_view_ne (.backend m.id call) _ fun _ => (other rfl).symm).trans ?_
    exact deliver_view (backend_view w call directory id)
  | arm a deadline =>
    refine (noted_view_ne (.timer a .arm) _ fun _ => (other rfl).symm).trans ?_
    exact deliver_view rfl
  | disarm a =>
  refine (noted_view_ne (.timer a .disarm) _ fun _ => (other rfl).symm).trans ?_
  exact deliver_view rfl

/-- what is known about every answer: a row and a manifest that were asked for by an id have it -/
def Op.answers : (o : Op) → o.Ret → Prop
  | .get id, .ok transaction => transaction.id = id
  | .load id, .ok (manifest, _) => manifest.id = id
  | _, _ => True

variable {phase : Phase} {e : Engine}

section
variable (h : w.load e id = .ok (manifest, phase))
include h

theorem load_ok : (∃ d, w.dirs id = some d ∧ d.manifest = some manifest ∧ d.status = some phase) ∧
      manifest.id = id ∧ validateManifest e.lib manifest = .ok () := by
  unfold World.load at h
  split at h
  · cases h
  split at h
  · cases h
  next m hm =>
  split at h
  · cases h
  next hid =>
  split at h
  · cases h
  next p hp =>
  cases h
  obtain ⟨d, hd, hdm⟩ := Option.bind_eq_some_iff.1 hm
  have hs : d.status = some phase := by simpa [World.phase, hd] using hp
  simp only [Bool.or_eq_true, decide_eq_true_eq, not_or, not_not,
    Bool.not_eq_true'] at hid
  refine ⟨⟨d, hd, hdm, hs⟩, hid.2, ?_⟩
  cases hv : validateManifest e.lib manifest with
  | ok u => rfl
  | error err =>
  rw [hv] at hid
  exact absurd rfl hid.1

theorem load_id : manifest.id = id := (load_ok h).2.1

theorem phase_of_load : w.phase id = some phase := by
  obtain ⟨⟨d, hd, _, hs⟩, _⟩ := load_ok h
  simp [World.phase, hd, hs]

end

theorem load_congr {w' : World} (h : w'.dirs id = w.dirs id) : w'.load e id = w.load e id := by
  unfold load phase
  rw [h]

theorem load_eq {directory : String} {d : TxDir} (hdir : e.directory id = .ok directory)
    (hd : w.dirs id = some d) (hm : d.manifest = some manifest) (hs : d.status = some phase)
    (hid : manifest.id = id) (hv : validateManifest e.lib manifest = .ok ()) :
    w.load e id = .ok (manifest, phase) := by
  unfold World.load World.phase
  simp [hdir, hd, hm, hs, hid, hv, Except.isOk, Except.toBool]

theorem exec_answers (e : Engine) (o : Op) (f : Fate) (w : World) : o.answers (exec e o f w).1 := by
  cases o with
  | get id =>
    cases f with
    | ok =>
      show Op.answers (.get id) (w.get id)
      unfold World.get
      cases h : w.row id with
      | none => trivial
      | some t => exact key_of_find h
    | fail => trivial
    | late => trivial
  | load id =>
    cases f with
    | ok =>
      show Op.answers (.load id) (w.load e id)
      cases h : w.load e id with
      | error err => trivial
      | ok r => exact load_id h
    | fail => trivial
    | late => trivial
  | _ => trivial

/-! ## procedures about one transaction -/

/-- the operations that keep the files of a transaction usable: they write no manifest, no
deadline and no snapshot, take a row out of `PREPARING` only to finish it, and open no finished
row again -/
def Op.Light : Op → Prop
  | .create _ | .updateDeadline _ _ | .mkdir _ | .writeManifest _ => False
  | .backend .snapshot _ _ => False
  | .transition _ expected next _ =>
    next.unfinished = false ∨ expected.all (fun s => s.unfinished && s ≠ .preparing) = true
  | _ => True

/-- every operation of the procedure is about the transaction `a` or about none, and satisfies
`P` -/
def About {α : Type} (P : Op → Prop) (a : String) (p : Prog α) : Prop :=
  p.All Op.answers fun o => (o.target = none ∨ o.target = some a) ∧ P o

variable {p : Prog α} {a : String} {P : Op → Prop}

theorem About.weaken (hp : About P a p) : About (fun _ => True) a p :=
  Proc.All.mono hp fun _ h => ⟨h.1, trivial⟩

variable {o : Op}

theorem target_ne (ho : o.target = none ∨ o.target = some a) (h : id ≠ a) : o.target ≠ some id := by
  intro hid
  rcases ho with ho | ho
  · rw [ho] at hid
    cases hid
  · rw [ho] at hid
    exact h (Option.some.inj hid).symm

theorem About.wp {A : Fate → Prop} (hp : About P a p) (e : Engine) (h : id ≠ a) (w : World) :
    wp (exec e) A (fun w' => w'.view id = w.view id) p (fun _ w' => w'.view id = w.view id) w :=
  wp_of_all (exec_answers e)
    (fun o f s ho _ hs => (view_frame e o f s (target_ne ho.1 h)).trans hs) hp rfl

theorem About.runWith_view (hp : About P a p) (e : Engine) (env : Op → Fate) (h : id ≠ a)
    (w : World) : (runWith (exec e) env p w).2.view id = w.view id :=
  wp_runWith (hp.wp (A := fun _ => True) e h w) (fun _ => trivial)

variable {item transaction : Transaction}

section
variable {e : Engine} {α β : Type} {P : Op → Prop} {a : String}

theorem about_done (x : α) : About P a (.done x : Prog α) := trivial

theorem about_call {k : o.Ret → Prog α} (ho : o.target = some a) (hP : P o)
    (hk : ∀ r, o.answers r → About P a (k r)) : About P a (.call o k) :=
  ⟨⟨Or.inr ho, hP⟩, hk⟩

theorem about_call_none {k : o.Ret → Prog α} (ho : o.target = none) (hP : P o)
    (hk : ∀ r, o.answers r → About P a (k r)) : About P a (.call o k) :=
  ⟨⟨Or.inl ho, hP⟩, hk⟩

theorem about_bind {p : Prog α} {f : α → Prog β} (hp : About P a p) (hf : ∀ x, About P a (f x)) :
    About P a (p.bind f) := Proc.All.bind hp hf

theorem about_rollback (hid : manifest.id = a) (directory code : String) :
    About Op.Light a (Engine.rollback a manifest directory code : Prog (Except ApplyError α)) := by
  refine about_call (congrArg some hid) trivial (byAnswer (fun _ => ?_) fun _ _ => ?_)
  · exact about_call rfl trivial fun _ _ => about_call rfl (Or.inl rfl) fun _ _ => about_done _
  · refine about_call rfl trivial fun _ _ => about_call rfl (Or.inl rfl) fun _ _ => ?_
    exact about_call rfl trivial fun _ _ => about_done _

variable {directory : String} {err : Option ApplyError} {failures : List ApplyError}

theorem about_finishConfirming : About Op.Light item.id (Engine.finishConfirming item err) := by
  cases err with
  | some stale => exact about_done _
  | none =>
  refine about_call rfl trivial (byAnswer (fun _ => about_done _) fun _ _ => ?_)
  exact about_call rfl (Or.inl rfl) (byAnswer (fun _ => about_done _) fun _ _ => about_done _)

theorem about_recoverConfirming (hid : manifest.id = item.id) :
    About Op.Light item.id (Engine.recoverConfirming item manifest directory err) := by
  refine about_call rfl trivial (byAnswer (fun _ => about_finishConfirming) fun _ _ => ?_)
  exact about_call (congrArg some hid) trivial fun _ _ => about_finishConfirming

theorem about_recoverTransition {next : TxState} {code : String} (hnext : next.unfinished = false) :
    About Op.Light item.id (Engine.recoverTransition item next code err failures) :=
  about_call rfl (Or.inl hnext) (byAnswer (fun _ => about_done _) fun _ _ => about_done _)

theorem about_recoverRollback (hid : manifest.id = item.id) :
    About Op.Light item.id (Engine.recoverRollback item manifest directory err failures) := by
  refine about_call (congrArg some hid) trivial (byAnswer (fun _ => about_done _) fun _ _ => ?_)
  refine about_call rfl trivial fun _ _ => about_call rfl trivial ?_
  exact byAnswer (fun _ => about_done _) fun _ _ => about_recoverTransition rfl

theorem about_recoverSwitch (hid : manifest.id = item.id) (phase : Phase) :
    About Op.Light item.id (Engine.recoverSwitch item manifest phase directory err failures) := by
  unfold recoverSwitch
  split
  · exact about_recoverTransition rfl
  · exact about_recoverTransition rfl
  · refine about_bind (about_recoverConfirming hid) fun r => ?_
    cases r <;> exact about_done _
  · exact about_recoverRollback hid

theorem about_recoverItem (item : Transaction) (err : Option ApplyError)
    (failures : List ApplyError) : About Op.Light item.id (e.recoverItem item err failures) := by
  refine about_call rfl trivial (byAnswer (fun _ => about_done _) fun ⟨manifest, phase⟩ hid => ?_)
  dsimp only
  split
  · exact about_done _
  split
  · exact about_done _
  · exact about_recoverSwitch hid phase

theorem about_applyArmed (hid : manifest.id = transaction.id) : About Op.Light transaction.id
      (Engine.applyArmed transaction.id transaction manifest directory) := by
  have back := fun code => about_rollback (α := Unit) hid directory code
  refine about_call (congrArg some hid) trivial (byAnswer (fun _ => back _) fun _ _ => ?_)
  refine about_call rfl trivial (byAnswer (fun _ => back _) fun _ _ => ?_)
  exact about_call rfl (Or.inr rfl) (byAnswer (fun _ => back _) fun _ _ => about_done _)

theorem about_apply (id : String) : About Op.Light id (e.apply id) := by
  unfold apply
  split
  · exact about_done _
  refine about_call rfl trivial (byAnswer (fun _ => about_done _) fun transaction hid => ?_)
  obtain rfl : transaction.id = id := hid
  dsimp only
  split
  · exact about_done _
  refine about_call rfl trivial (byAnswer (fun _ => about_done _) fun ⟨manifest, phase⟩ hid => ?_)
  dsimp only
  split
  · exact about_done _
  split
  · exact about_done _
  split
  · exact about_rollback hid _ _
  refine about_call_none rfl trivial fun now _ => ?_
  split
  · exact about_rollback hid _ _
  · exact about_applyArmed hid

theorem about_rollbackConfirmFailure (hid : manifest.id = transaction.id) (code : String) :
    About Op.Light transaction.id (e.rollbackConfirmFailure transaction manifest code) := by
  unfold rollbackConfirmFailure
  split
  · exact about_done _
  split
  · exact about_done _
  refine about_call (congrArg some hid) trivial (byAnswer (fun _ => ?_) fun _ _ => ?_) <;>
  exact about_call rfl trivial fun _ _ => about_call rfl (Or.inl rfl) fun _ _ => about_done _

theorem about_confirmAccepted (hid : manifest.id = transaction.id) : About Op.Light transaction.id
      (e.confirmAccepted transaction.id transaction manifest directory) := by
  have back := fun code => about_rollbackConfirmFailure (e := e) hid code
  refine about_call rfl trivial (byAnswer (fun _ => about_done _) fun _ _ => ?_)
  refine about_call rfl (Or.inr rfl) (byAnswer (fun _ => about_done _) fun _ _ => ?_)
  refine about_call rfl trivial (byAnswer (fun _ => back _) fun _ _ => ?_)
  refine about_call (congrArg some hid) trivial (byAnswer (fun _ => back _) fun _ _ => ?_)
  refine about_call rfl trivial (byAnswer (fun _ => about_done _) fun _ _ => ?_)
  exact about_call rfl (Or.inl rfl) fun _ _ => about_done _

theorem about_confirm (id : String) (evidence : ConfirmEvidence) :
    About Op.Light id (e.confirm id evidence) := by
  unfold confirm
  split
  · exact about_done _
  refine about_call rfl trivial (byAnswer (fun _ => about_done _) fun transaction hid => ?_)
  obtain rfl : transaction.id = id := hid
  dsimp only
  split
  · exact about_done _
  split
  · exact about_done _
  refine about_call_none rfl trivial fun now _ => ?_
  split
  · exact about_done _
  split
  · exact about_done _
  refine about_call rfl trivial (byAnswer (fun _ => about_done _) fun ⟨manifest, phase⟩ hid => ?_)
  dsimp only
  split
  · exact about_done _
  split
  · exact about_done _
  split
  · exact about_done _
  · exact about_confirmAccepted hid

theorem about_failBeforeArm (id code : String) : About Op.Light id (Engine.failBeforeArm id code) :=
  about_call rfl (Or.inl rfl) fun _ _ => about_call rfl trivial fun _ _ => about_done _

section
variable (manifest : Manifest)

theorem storeCreate_ops : (e.storeCreate manifest).All Op.answers fun o =>
      o = .mkdir manifest.id ∨ o = .writeManifest manifest ∨
        o = .setPhase manifest.id .created ∨ o = .syncDirectory manifest.id := by
  unfold storeCreate
  split
  · trivial
  split
  · trivial
  refine ⟨Or.inl rfl, byAnswer (fun _ => trivial) fun _ _ => ?_⟩
  refine ⟨Or.inr (Or.inl rfl), byAnswer (fun _ => trivial) fun _ _ => ?_⟩
  refine ⟨Or.inr (Or.inr (Or.inl rfl)), byAnswer (fun _ => trivial) fun _ _ => ?_⟩
  exact ⟨Or.inr (Or.inr (Or.inr rfl)), byAnswer (fun _ => trivial) fun _ _ => trivial⟩

theorem replaceManifest_ops : (e.replaceManifest manifest).All Op.answers fun o =>
      o = .load manifest.id ∨ o = .writeManifest manifest ∨ o = .syncDirectory manifest.id := by
  unfold replaceManifest
  split
  · trivial
  refine ⟨Or.inl rfl, byAnswer (fun _ => trivial) fun _ _ => ?_⟩
  dsimp only
  split
  · trivial
  refine ⟨Or.inr (Or.inl rfl), byAnswer (fun _ => trivial) fun _ _ => ?_⟩
  exact ⟨Or.inr (Or.inr rfl), fun _ _ => trivial⟩

theorem about_storeCreate : About (fun _ => True) manifest.id (e.storeCreate manifest) :=
  (storeCreate_ops manifest).mono fun o ho => by
    rcases ho with rfl | rfl | rfl | rfl <;> exact ⟨Or.inr rfl, trivial⟩

theorem about_replaceManifest : About (fun _ => True) manifest.id (e.replaceManifest manifest) :=
  (replaceManifest_ops manifest).mono fun o ho => by
    rcases ho with rfl | rfl | rfl <;> exact ⟨Or.inr rfl, trivial⟩

theorem about_stageArm (confirmToken directory : String) :
    About (fun _ => True) manifest.id (e.stageArm manifest confirmToken directory) := by
  have fails := fun code => (about_failBeforeArm manifest.id code).weaken
  refine about_call_none rfl trivial fun armTime _ => ?_
  refine about_bind (about_replaceManifest (e.dated manifest armTime)) fun r => ?_
  have back := fun code => (about_rollback (α := Prepared)
    (show (e.dated manifest armTime).id = manifest.id from rfl) directory code).weaken
  cases r with
  | error err => exact fails _
  | ok u =>
  refine about_call rfl trivial (byAnswer (fun _ => fails _) fun _ _ => ?_)
  refine about_call rfl trivial (byAnswer (fun _ => fails _) fun _ _ => ?_)
  refine about_call rfl trivial (byAnswer (fun _ => fails _) fun _ _ => ?_)
  refine about_call rfl trivial (byAnswer (fun _ => back _) fun _ _ => ?_)
  exact about_call rfl trivial (byAnswer (fun _ => back _) fun _ _ => about_done _)

theorem about_stageFiles (confirmToken directory : String) :
    About (fun _ => True) manifest.id (e.stageFiles manifest confirmToken directory) := by
  have fails := fun code => (about_failBeforeArm manifest.id code).weaken
  refine about_bind (about_storeCreate manifest) fun r => ?_
  cases r with
  | error err => exact fails _
  | ok created =>
  dsimp only
  split
  · exact fails _
  exact about_call rfl trivial
    (byAnswer (fun _ => fails _) fun _ _ => about_stageArm manifest confirmToken directory)

end

theorem about_stageCreate (candidate : Candidate) (manifest : Manifest) (confirmToken : String) :
    About (fun _ => True) manifest.id (e.stageCreate candidate manifest confirmToken) := by
  unfold stageCreate
  split
  · exact about_done _
  split
  · exact about_done _
  exact about_call rfl trivial
    (byAnswer (fun _ => about_done _) fun _ _ => about_stageFiles manifest _ _)

end

/-! ## operations about the transaction -/

variable {code : String}

section
variable {e : Engine} {w : World} {id : String}

theorem directory_ok {dir : String} (h : e.directory id = .ok dir) :
    safeID id = true ∧ trimSpace e.root ≠ "" ∧ dir = e.root ++ "/" ++ id := by
  unfold directory at h
  split at h
  · cases h
  next hs =>
  cases h
  simpa using hs

def World.marked (w : World) (id : String) (d : TxDir) (p : Phase) : World :=
  (w.setDir id { d with status := some p }).note (.status id p)

theorem Transaction.id_moved (s : TxState) (code : String) (r : Transaction) :
    Transaction.id { r with state := s, errorCode := code } = r.id := rfl

/-- the world after a `Transition` that was accepted -/
def World.moved (w : World) (id : String) (s : TxState) (code : String) : World :=
  { w with
    table := w.table.update id (fun r => { r with state := s, errorCode := code })
      (Transaction.id_moved s code)
    log := .row id s :: w.log }

theorem setPhase_eq {dir : String} {d : TxDir} (p : Phase) (hdir : e.directory id = .ok dir)
    (hd : w.dirs id = some d) : w.setPhase e id p = (.ok (), w.marked id d p) := by
  unfold setPhase
  rw [hdir, hd]
  rfl

theorem view_setPhase (d : TxDir) (p : Phase) :
    (w.marked id d p).view id = (w.view id).setPhase id d p := by
  have h := view_note_self (w.setDir id { d with status := some p }) (.status id p)
  rw [show (Event.status id p).id = id from rfl] at h
  rw [marked, h]
  simp [View.setPhase, view, setDir, row]

theorem view_modify_row (s : TxState) (code : String) (hr : w.row id = some r) :
    (w.moved id s code).view id = (w.view id).setState r s code := by
  have hid : r.id = id := key_of_find hr
  have hfind : w.table.find id = some r := hr
  simp only [view, row, moved, View.setState, View.note]
  rw [find_update_self, hfind, hid]
  simp [Event.id, hid]

theorem transition_eq {expected : List TxState} (s : TxState) (hsafe : safeID id = true)
    (hr : w.row id = some r) (hmem : expected.contains r.state = true)
    (hcode : code = "" ∨ safeErrorCode code = true) :
    w.transition id expected s code = (.ok (), w.moved id s code) := by
  have hlen : expected.length ≠ 0 := by
    intro h0
    rw [length_eq_zero_iff.1 h0] at hmem
    simp at hmem
  have hstate : (w.state id).any expected.contains = true := by
    unfold state
    rw [hr]
    exact hmem
  unfold transition
  rw [if_neg, if_pos hstate]
  · rfl
  rcases hcode with h | h <;> simp [hsafe, hlen, h]

theorem row_transition {next : TxState} (hr : w.row id = some r) :
    (w.moved id next code).row id = some { r with state := next, errorCode := code } := by
  rw [row, moved, find_update_self, show w.table.find id = some r from hr]
  rfl

theorem row_moved_ne {next : TxState} (h : id' ≠ id) :
    (w.moved id next code).row id' = w.row id' := by
  rw [row, moved, find_update_ne _ h]
  rfl

theorem transition_refused {expected : List TxState} (s : TxState) (hsafe : safeID id = true)
    (hr : w.row id = some r) (hlen : expected ≠ []) (hmem : expected.contains r.state = false)
    (hcode : code = "" ∨ safeErrorCode code = true) :
    w.transition id expected s code = (.error .state, w) := by
  have hstate : ¬ (w.state id).any expected.contains = true := by
    unfold state
    rw [hr]
    simpa using hmem
  unfold transition
  rw [if_neg, if_neg hstate]
  rcases hcode with h | h <;> simp [hsafe, hlen, h]

end

end GatewayVpn.NetworkApply
