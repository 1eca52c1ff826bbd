import GatewayVpn.NetworkApply.View

/-!
# Network apply: what recovery can finish

`Recover` finishes an unfinished row only when it finds the files of the transaction: a status and
a manifest that matches the row, and, for the phases it rolls back, the snapshot.  `Stage` writes
the row first and these files one after the other.
-/

namespace GatewayVpn.NetworkApply

open Durable Option Function World Engine Table

/-! ## complete files -/

/-- `Recover` can finish the row `t`: it can load a manifest that matches the row, and the
directory holds the snapshot -/
def Complete (e : Engine) (w : World) (t : Transaction) : Prop :=
  ∃ directory manifest phase, e.directory t.id = .ok directory ∧
    w.load e t.id = .ok (manifest, phase) ∧ e.recoverable t manifest directory = true ∧
    w.snapshots directory = true

/-- the row of `id` is finished or can be finished, and has no files before it exists -/
structure Ready (e : Engine) (w : World) (id : String) : Prop where
  complete : ∀ t, w.row id = some t → t.state.unfinished = true → Complete e w t
  noStray : w.row id = none → w.dirs id = none ∧ w.snapshots (e.root ++ "/" ++ id) = false

def Sound (e : Engine) (w : World) : Prop := ∀ id, Ready e w id

variable {t : Transaction}

section
variable {e : Engine} {w w' : World} {id : String}

theorem Complete.congr (h : Complete e w t) (hdirs : w'.dirs t.id = w.dirs t.id)
    (hsnap : w'.snapshots = w.snapshots) : Complete e w' t := by
  obtain ⟨directory, manifest, phase, hdir, hload, hrec, hs⟩ := h
  exact ⟨directory, manifest, phase, hdir, by rw [load_congr hdirs, hload], hrec, by rw [hsnap, hs]⟩

theorem Ready.congr (h : Ready e w id) (hrow : w'.row id = w.row id)
    (hdirs : w'.dirs id = w.dirs id) (hsnap : w'.snapshots = w.snapshots) : Ready e w' id := by
  refine ⟨fun t ht hopen => ?_, fun hnone => ?_⟩
  · rw [hrow] at ht
    obtain rfl : t.id = id := key_of_find ht
    exact (h.complete t ht hopen).congr hdirs hsnap
  · rw [hdirs, hsnap]
    exact h.noStray (hrow ▸ hnone)

theorem Ready.of_view (h : Ready e w id) (hv : w'.view id = w.view id)
    (hsnap : w'.snapshots = w.snapshots) : Ready e w' id :=
  h.congr (congrArg View.row hv) (congrArg View.dir hv) hsnap

theorem ready_of_row (ht : w.row id = some t) (h : t.state.unfinished = true → Complete e w t) :
    Ready e w id := by
  refine ⟨fun t' ht' hopen => ?_, fun hnone => ?_⟩
  · obtain rfl : t = t' := some.inj (ht.symm.trans ht')
    exact h hopen
  · rw [ht] at hnone
    cases hnone

end

/-! ## light operations -/

variable {err : ApplyError} {α : Type} {directory : String} {manifest : Manifest} {w' : World}
  {o : Op} {p : Prog α}

section
variable {e : Engine} {w : World} {id : String}

theorem ready_setPhase (p : Phase) (h : Ready e w id) : Ready e (w.setPhase e id p).2 id := by
  unfold setPhase
  split
  · exact h
  next directory hdirectory =>
  split
  · next d hd =>
    cases hr : w.row id with
    | none =>
      rw [(h.noStray hr).1] at hd
      cases hd
    | some t =>
    obtain rfl : t.id = id := key_of_find hr
    refine ready_of_row (t := t) hr fun hopen => ?_
    obtain ⟨dir, manifest, phase, hdir, hload, hrec, hs⟩ := h.complete t hr hopen
    obtain ⟨⟨d', hd', hm, hst⟩, hid, hv⟩ := load_ok hload
    obtain rfl : d = d' := some.inj (hd.symm.trans hd')
    refine ⟨dir, manifest, p, hdir, ?_, hrec, hs⟩
    exact load_eq hdir (update_self t.id _ _) hm rfl hid hv
  · exact h

theorem recoverable_of_not_preparing (h : e.recoverable t manifest directory = true)
    (ht : t.state ≠ .preparing) : manifestMatchesTransaction e.lib manifest t directory = true := by
  unfold recoverable at h
  simpa [ht] using h

theorem ready_transition {expected : List TxState} {next : TxState} (code : String)
    (hlight : next.unfinished = false ∨
      expected.all (fun s => s.unfinished && s ≠ .preparing) = true)
    (h : Ready e w id) : Ready e (w.transition id expected next code).2 id := by
  unfold transition
  split
  · exact h
  split
  · next hstate =>
    obtain ⟨s, hs, hmem⟩ := (any_eq_true _ _).1 hstate
    obtain ⟨r, hr, rfl⟩ := map_eq_some_iff.1 hs
    refine ready_of_row (row_transition hr) fun hnext => ?_
    obtain ⟨hopen, hprep⟩ : r.state.unfinished = true ∧ r.state ≠ .preparing := by
      have hall := hlight.resolve_left (by simpa using hnext)
      simpa using List.all_eq_true.1 hall _ (List.contains_iff_mem.1 hmem)
    obtain ⟨directory, manifest, phase, hdir, hload, hrec, hsnap⟩ := h.complete r hr hopen
    have hmatch := recoverable_of_not_preparing hrec hprep
    exact ⟨directory, manifest, phase, hdir, hload, Bool.or_eq_true_iff.2 (Or.inl hmatch), hsnap⟩
  · exact h

structure Alike (w w' : World) : Prop where
  table : w'.table = w.table
  dirs : w'.dirs = w.dirs
  snapshots : w'.snapshots = w.snapshots

theorem Ready.alike (h : Ready e w id) (hw : Alike w w') : Ready e w' id :=
  h.congr (congrArg (Table.find · id) hw.table) (congrFun hw.dirs id) hw.snapshots

def Op.Quiet : Op → Prop
  | .create _ | .updateDeadline _ _ | .mkdir _ | .writeManifest _ => False
  | .transition _ _ _ _ | .setPhase _ _ => False
  | .backend .snapshot _ _ => False
  | _ => True

theorem alike_of_quiet {f : Fate} {r : o.Ret} (hx : exec e o f w = (r, w')) (ho : o.Quiet) :
    Alike w w' := by
  obtain rfl : (exec e o f w).2 = w' := congrArg Prod.snd hx
  clear hx
  cases o with
  | create | updateDeadline | mkdir | writeManifest | transition | setPhase => exact ho.elim
  | now => exact ⟨rfl, rfl, rfl⟩
  | newSecret | get | listUnfinished | syncDirectory | load | arm | disarm =>
    cases f <;> exact ⟨rfl, rfl, rfl⟩
  | backend call manifest directory =>
  have hcall : Alike w (w.backend call directory).2 := by
    cases call with
    | snapshot => exact ho.elim
    | commit => exact ⟨rfl, rfl, rfl⟩
    | apply => simp only [backend]; split <;> exact ⟨rfl, rfl, rfl⟩
    | rollback => simp only [backend]; split <;> exact ⟨rfl, rfl, rfl⟩
  obtain ⟨h1, h2, h3⟩ : Alike w
      (f.deliver (.text "network backend failed") (w.backend call directory) w).2 :=
    Fate.deliver_keeps ⟨rfl, rfl, rfl⟩ hcall
  exact ⟨h1, h2, h3⟩

theorem Op.Light.cases (ho : o.Light) : o.Quiet ∨ (∃ id p, o = .setPhase id p) ∨
      ∃ id expected next code, o = .transition id expected next code := by
  cases o with
  | create | updateDeadline | mkdir | writeManifest => exact ho.elim
  | setPhase id p => exact Or.inr (Or.inl ⟨id, p, rfl⟩)
  | transition id expected next code => exact Or.inr (Or.inr ⟨id, expected, next, code, rfl⟩)
  | backend call => cases call <;> first | exact ho.elim | exact Or.inl trivial
  | now | newSecret | get | listUnfinished | syncDirectory | load | arm | disarm =>
  exact Or.inl trivial

theorem setPhase_snapshots (id : String) (p : Phase) :
    (w.setPhase e id p).2.snapshots = w.snapshots := by
  unfold setPhase
  split
  · rfl
  · split <;> rfl

theorem transition_snapshots (expected : List TxState) (next : TxState) (code : String) :
    (w.transition id expected next code).2.snapshots = w.snapshots := by
  unfold transition
  split
  · rfl
  · split <;> rfl

theorem snapshots_of_light (ho : o.Light) (f : Fate) :
    (exec e o f w).2.snapshots = w.snapshots := by
  rcases ho.cases with hq | ⟨a, p, rfl⟩ | ⟨a, expected, next, code, rfl⟩
  · exact (alike_of_quiet rfl hq).snapshots
  · exact Fate.deliver_keeps (I := fun w' : World => w'.snapshots = w.snapshots) rfl (setPhase_snapshots _ p)
  · exact Fate.deliver_keeps (I := fun w' : World => w'.snapshots = w.snapshots) rfl
      (transition_snapshots expected next code)

theorem ready_of_light (ho : o.Light) (f : Fate) (h : Ready e w id) :
    Ready e (exec e o f w).2 id := by
  by_cases htarget : o.target = some id
  · rcases ho.cases with hq | ⟨a, p, rfl⟩ | ⟨a, expected, next, code, rfl⟩
    · exact h.alike (alike_of_quiet rfl hq)
    · cases htarget
      exact Fate.deliver_keeps (I := (Ready e · id)) h (ready_setPhase p h)
    · cases htarget
      exact Fate.deliver_keeps (I := (Ready e · id)) h (ready_transition code ho h)
  · exact h.of_view (view_frame e o f w htarget) (snapshots_of_light ho f)

/-- **Light procedures keep the world sound**, whatever fails and wherever they are cut off. -/
theorem Sound.of_light (hp : p.All Op.answers Op.Light) (h : Sound e w) :
    wp (exec e) (fun _ => True) (Sound e) p (fun _ => Sound e) w :=
  wp_of_all (exec_answers e) (fun _ f _ ho _ hs id => ready_of_light ho f (hs id)) hp h

theorem About.light (hp : About Op.Light id p) :
    p.All Op.answers Op.Light := Proc.All.mono hp fun _ h => h.2

theorem light_recoverLoop (items : List Transaction) (err : Option ApplyError)
    (failures : List ApplyError) : (e.recoverLoop items err failures).All Op.answers Op.Light := by
  induction items generalizing err failures with
  | nil => trivial
  | cons item rest ih =>
    exact (about_recoverItem item err failures).light.bind fun r => ih r.1 r.2

theorem light_recover : e.recover.All Op.answers Op.Light := by
  unfold recover
  split
  · trivial
  refine ⟨trivial, fun r _ => ?_⟩
  cases r with
  | error err => trivial
  | ok items => exact light_recoverLoop items none []

end

/-! ## what recovery finishes

Every operation of the recovery is carried out; a `Load` and a `Rollback` still report what they
do not find. -/

def carriedOut : Op → Fate := fun _ => .ok

theorem runWith_of_exec {e : Engine} {w : World} {r : o.Ret} {k : o.Ret → Prog α}
    (h : exec e o .ok w = (r, w')) :
    runWith (exec e) carriedOut (.call o k) w = runWith (exec e) carriedOut (k r) w' := by
  show runWith _ _ (k (exec e o .ok w).1) (exec e o .ok w).2 = _
  rw [h]

/-- a row that was created, without the snapshot that its rollback would need -/
def Stuck (e : Engine) (w : World) (id : String) : Prop :=
  w.state id = some .preparing ∧ w.snapshots (e.root ++ "/" ++ id) = false ∧
    w.phase id ≠ some .confirming ∧ w.phase id ≠ some .confirmed ∧ w.phase id ≠ some .rolledBack

variable {code : String} {phase : Phase}

section
variable {e : Engine} {w w' : World} {item : Transaction} {id : String}

structure Recovered (e : Engine) (w w' : World) (item : Transaction) : Prop where
  complete : Complete e w item → ∃ t, w'.row item.id = some t ∧ t.state.unfinished = false
  stuck : Stuck e w item.id → w'.row item.id = some item

theorem Recovered.unchanged (hr : w.row item.id = some item) (h : ¬ Complete e w item)
    (hrow : w'.row item.id = w.row item.id) : Recovered e w w' item :=
  ⟨fun hc => absurd hc h, fun _ => hrow.trans hr⟩

theorem Recovered.finished {next : TxState} (hdone : next.unfinished = false)
    (hrow : w'.row item.id = some { item with state := next, errorCode := code })
    (h : ¬ Stuck e w item.id) : Recovered e w w' item :=
  ⟨fun _ => ⟨_, hrow, hdone⟩, fun hs => absurd hs h⟩

def Recovers (e : Engine) (w : World) (item : Transaction)
    (p : Prog (Option ApplyError × List ApplyError)) : Prop :=
  ∃ fs w', runWith (exec e) carriedOut p w = ((none, fs), w') ∧ Recovered e w w' item

theorem recoverTransition_run (next : TxState) (err : Option ApplyError)
    (failures : List ApplyError) (hsafe : safeID item.id = true) (hr : w.row item.id = some item)
    (hcode : code = "" ∨ safeErrorCode code = true) :
    ∃ w', runWith (exec e) carriedOut (Engine.recoverTransition item next code err failures) w =
        ((err, failures), w') ∧
      w'.row item.id = some { item with state := next, errorCode := code } := by
  have ht : exec e (.transition item.id [item.state] next code) .ok w = _ :=
    transition_eq next hsafe hr (by simp) hcode
  unfold recoverTransition
  exact ⟨_, runWith_of_exec ht, row_transition hr⟩

theorem exec_setPhase_of_load (h : w.load e id = .ok (manifest, phase)) (p : Phase) :
    ∃ w', exec e (.setPhase id p) .ok w = (.ok (), w') ∧ w'.table = w.table ∧
      w'.snapshots = w.snapshots := by
  obtain ⟨⟨d, hd, _, _⟩, _, _⟩ := load_ok h
  cases hdir : e.directory id with
  | error err =>
    unfold load at h
    rw [hdir] at h
    cases h
  | ok directory => exact ⟨_, setPhase_eq p hdir hd, rfl, rfl⟩

theorem recoverConfirming_run (directory : String) (hsafe : safeID item.id = true)
    (hr : w.row item.id = some item) (hload : w.load e item.id = .ok (manifest, phase)) :
    ∃ w', runWith (exec e) carriedOut (Engine.recoverConfirming item manifest directory none) w =
        (none, w') ∧ w'.row item.id = some { item with state := .confirmed, errorCode := "" } := by
  -- `Disarm` and `Commit` only leave a note in the log
  let w1 := w.note (.timer item.id .disarm true)
  let w2 := w1.note (.backend manifest.id .commit true)
  obtain ⟨w3, hS, htable, _⟩ := exec_setPhase_of_load (w := w2) hload .confirmed
  have hr3 : w3.row item.id = some item := (congrArg (Table.find · item.id) htable).trans hr
  have hT : exec e (.transition item.id [item.state] .confirmed "") .ok w3 = _ :=
    transition_eq .confirmed hsafe hr3 (by simp) (Or.inl rfl)
  refine ⟨_, ?_, row_transition hr3⟩
  show runWith (exec e) carriedOut (finishConfirming item none) w2 = _
  exact (runWith_of_exec hS).trans (runWith_of_exec hT)

theorem recoverRollback_run (directory : String) (failures : List ApplyError)
    (hsafe : safeID item.id = true) (hr : w.row item.id = some item)
    (hload : w.load e item.id = .ok (manifest, phase)) : ∃ fs w', runWith (exec e) carriedOut
        (Engine.recoverRollback item manifest directory none failures) w = ((none, fs), w') ∧
      w'.row item.id = some (if w.snapshots directory then
        { item with state := .rolledBack, errorCode := "REBOOT_RECOVERY" } else item) := by
  cases hs : w.snapshots directory with
  | false =>
    have hB : exec e (.backend .rollback manifest directory) .ok w = (.error
        (.text "network backend directories are unavailable"),
        w.note (.backend manifest.id .rollback false)) := by
      simp [exec, backend, noted, hs, Except.isOk, Except.toBool]
    exact ⟨_, _, runWith_of_exec hB, hr⟩
  | true =>
  let w1 := w.note (.backend manifest.id .rollback true)
  let w2 := w1.note (.timer item.id .disarm true)
  have hB : exec e (.backend .rollback manifest directory) .ok w = (.ok (), w1) := by
    simp [exec, backend, noted, hs, Except.isOk, Except.toBool, w1]
  obtain ⟨w3, hS, htable, _⟩ := exec_setPhase_of_load (w := w2) hload .rolledBack
  have hr3 : w3.row item.id = some item := (congrArg (Table.find · item.id) htable).trans hr
  obtain ⟨w', hT, hrow⟩ := recoverTransition_run (e := e) .rolledBack none failures hsafe
    hr3 (Or.inr (by decide : safeErrorCode "REBOOT_RECOVERY" = true))
  refine ⟨failures, w', ?_, hrow⟩
  have hD : exec e (.disarm item.id) .ok w1 = (.ok (), w2) := rfl
  exact (runWith_of_exec hB).trans ((runWith_of_exec hD).trans ((runWith_of_exec hS).trans hT))

theorem recoverSwitch_run (failures : List ApplyError) (hdir : e.directory item.id = .ok directory)
    (hr : w.row item.id = some item) (hload : w.load e item.id = .ok (manifest, phase)) :
    Recovers e w item (Engine.recoverSwitch item manifest phase directory none failures) := by
  obtain ⟨hsafe, -, heq⟩ := directory_ok hdir
  have hphase := phase_of_load hload
  have rolled : Recovers e w item
      (recoverRollback item manifest directory none failures) := by
    obtain ⟨fs, w', hrun, hrow⟩ := recoverRollback_run directory failures hsafe hr hload
    refine ⟨fs, w', hrun, ?_⟩
    cases hs : w.snapshots directory with
    | false =>
      rw [hs] at hrow
      refine Recovered.unchanged hr (fun hc => ?_) (hrow.trans hr.symm)
      obtain ⟨directory', _, _, hdir', _, _, hs'⟩ := hc
      cases hdir.symm.trans hdir'
      cases hs.symm.trans hs'
    | true =>
    rw [hs] at hrow
    refine Recovered.finished rfl hrow fun hstuck => ?_
    rw [heq, hstuck.2.1] at hs
    cases hs
  cases phase with
  | confirmed =>
    obtain ⟨w', hrun, hrow⟩ := recoverTransition_run (e := e) .confirmed none failures hsafe hr
      (Or.inl rfl)
    exact ⟨failures, w', hrun, Recovered.finished rfl hrow fun hstuck => hstuck.2.2.2.1 hphase⟩
  | rolledBack =>
    obtain ⟨w', hrun, hrow⟩ := recoverTransition_run (e := e) .rolledBack none failures hsafe hr
      (Or.inr (by decide : safeErrorCode "RECOVERED_ROLLBACK" = true))
    exact ⟨failures, w', hrun, Recovered.finished rfl hrow fun hstuck => hstuck.2.2.2.2 hphase⟩
  | confirming =>
    obtain ⟨w', hrun, hrow⟩ := recoverConfirming_run directory hsafe hr hload
    refine ⟨failures, w', ?_, Recovered.finished rfl hrow fun hstuck => hstuck.2.2.1 hphase⟩
    unfold recoverSwitch
    rw [runWith_bind, hrun]
    rfl
  | created => exact rolled
  | snapshotReady => exact rolled
  | armed => exact rolled
  | applied => exact rolled
  | failed => exact rolled

theorem recoverItem_run (failures : List ApplyError) (hr : w.row item.id = some item) :
    Recovers e w item (e.recoverItem item none failures) := by
  unfold Recovers recoverItem
  rw [runWith_call, show exec e (.load item.id) (carriedOut (.load item.id)) w =
    (w.load e item.id, w) from rfl]
  cases hload : w.load e item.id with
  | error err =>
    refine ⟨_, w, rfl, Recovered.unchanged hr (fun hc => ?_) rfl⟩
    obtain ⟨_, _, _, _, hload', _⟩ := hc
    cases hload.symm.trans hload'
  | ok x =>
  obtain ⟨manifest, phase⟩ := x
  simp only
  cases hdir : e.directory item.id with
  | error err =>
    refine ⟨_, w, rfl, Recovered.unchanged hr (fun hc => ?_) rfl⟩
    obtain ⟨_, _, _, hdir', _⟩ := hc
    cases hdir.symm.trans hdir'
  | ok directory =>
  simp only
  cases hrec : e.recoverable item manifest directory with
  | false =>
    refine ⟨_, w, rfl, Recovered.unchanged hr (fun hc => ?_) rfl⟩
    obtain ⟨directory', manifest', phase', hdir', hload', hrec', _⟩ := hc
    cases hdir.symm.trans hdir'
    cases hload.symm.trans hload'
    cases hrec.symm.trans hrec'
  | true => exact recoverSwitch_run failures hdir hr hload

theorem runWith_snapshots (hp : p.All Op.answers Op.Light) :
    (runWith (exec e) carriedOut p w).2.snapshots = w.snapshots := by
  have h : wp (exec e) (fun _ => True) (fun w' => w'.snapshots = w.snapshots) p
      (fun _ w' => w'.snapshots = w.snapshots) w :=
    wp_of_all (exec_answers e) (fun o f s ho _ hs => (snapshots_of_light ho f).trans hs) hp rfl
  exact wp_runWith h fun _ => trivial

theorem Recovered.congr {w₁ w₂ w₃ : World} (h : Recovered e w₁ w₂ item)
    (h₁ : w₁.view item.id = w.view item.id) (hsnap : w₁.snapshots = w.snapshots)
    (h₃ : w₃.view item.id = w₂.view item.id) : Recovered e w w₃ item := by
  have hrow : w₃.row item.id = w₂.row item.id := congrArg View.row h₃
  refine ⟨fun hc => ?_, fun hs => ?_⟩
  · rw [hrow]
    exact h.complete (hc.congr (congrArg View.dir h₁) hsnap)
  rw [hrow]
  refine h.stuck ?_
  unfold Stuck
  rw [← view_state w₁, ← view_phase w₁, h₁, hsnap]
  exact hs

/-- **The whole loop**: every row it was given is recovered, the others are left alone. -/
theorem recoverLoop_run (items : List Transaction) (failures : List ApplyError)
    (hnodup : (items.map (·.id)).Nodup) (hrows : ∀ item ∈ items, w.row item.id = some item) :
    (∀ item ∈ items,
        Recovered e w (runWith (exec e) carriedOut (e.recoverLoop items none failures) w).2 item) ∧
      ∀ id ∉ items.map (·.id),
        (runWith (exec e) carriedOut (e.recoverLoop items none failures) w).2.view id =
          w.view id := by
  induction items generalizing w failures with
  | nil => exact ⟨fun item hi => absurd hi List.not_mem_nil, fun id _ => rfl⟩
  | cons first rest ih =>
    obtain ⟨hfirst, hrest⟩ := List.nodup_cons.1 hnodup
    obtain ⟨fs, w1, hrun, hrec⟩ := recoverItem_run (e := e) failures (hrows first (by simp))
    -- the first turn is about the first row only
    have hframe : ∀ {id : String}, id ≠ first.id → w1.view id = w.view id := by
      intro id hid
      have h := (about_recoverItem (e := e) first none failures).runWith_view e carriedOut hid w
      rwa [hrun] at h
    have hsnap : w1.snapshots = w.snapshots := by
      have hlight := (about_recoverItem (e := e) first none failures).light
      have h := runWith_snapshots (e := e) (w := w) hlight
      rwa [hrun] at h
    have hne : ∀ item ∈ rest, item.id ≠ first.id := fun item hi hid =>
      hfirst (List.mem_map.2 ⟨item, hi, hid⟩)
    have hrows1 : ∀ item ∈ rest, w1.row item.id = some item := fun item hi =>
      (congrArg View.row (hframe (hne item hi))).trans (hrows item (List.mem_cons_of_mem _ hi))
    obtain ⟨hitems, hothers⟩ := ih fs hrest hrows1
    have hsplit : runWith (exec e) carriedOut (e.recoverLoop (first :: rest) none failures) w =
        runWith (exec e) carriedOut (e.recoverLoop rest none fs) w1 := by
      show runWith _ _ (Proc.bind _ _) _ = _
      rw [runWith_bind, hrun]
    rw [hsplit]
    refine ⟨fun item hi => ?_, fun id hid => ?_⟩
    · rcases List.mem_cons.1 hi with rfl | hi
      · exact hrec.congr rfl rfl (hothers _ hfirst)
      · exact (hitems item hi).congr (hframe (hne item hi)) hsnap rfl
    · rw [List.map_cons, List.mem_cons, not_or] at hid
      exact (hothers id hid.2).trans (hframe hid.1)

def recovered (e : Engine) (w : World) : World := (runWith (exec e) carriedOut e.recover w).2

theorem recovered_of_valid (he : e.validate = .ok ()) : recovered e w =
      (runWith (exec e) carriedOut (e.recoverLoop (w.listUnfinished e.lib) none []) w).2 := by
  unfold recovered recover
  rw [he]
  rfl

theorem recovered_of_invalid (he : e.validate = .error err) : recovered e w = w := by
  unfold recovered recover
  rw [he]
  rfl

theorem listUnfinished_row (hi : item ∈ w.listUnfinished e.lib) :
    w.row item.id = some item ∧ item.state.unfinished = true := by
  obtain ⟨hmem, hopen⟩ := List.mem_filter.1 (mem_listUnfinished.1 hi)
  exact ⟨mem_iff_find.mp hmem, hopen⟩

theorem recover_loop (e : Engine) (w : World) : (∀ item ∈ w.listUnfinished e.lib, Recovered e w
        (runWith (exec e) carriedOut (e.recoverLoop (w.listUnfinished e.lib) none []) w).2 item) ∧
      ∀ id ∉ (w.listUnfinished e.lib).map (·.id),
        (runWith (exec e) carriedOut (e.recoverLoop (w.listUnfinished e.lib) none []) w).2.view id =
          w.view id :=
  recoverLoop_run _ [] (nodup_listUnfinished w) fun _ hi => (listUnfinished_row hi).1

/-- **Recovery finishes every row of a sound world.** -/
theorem Sound.recovered_unfinished (he : e.validate = .ok ()) (h : Sound e w) :
    (recovered e w).table.unfinished = [] := by
  obtain ⟨hitems, hothers⟩ := recover_loop e w
  rw [← recovered_of_valid he] at hitems hothers
  refine unfinished_eq_nil.2 fun id r hr => ?_
  by_cases hid : id ∈ (w.listUnfinished e.lib).map (·.id)
  · obtain ⟨item, hi, rfl⟩ := List.mem_map.1 hid
    obtain ⟨hrow, hopen⟩ := listUnfinished_row hi
    obtain ⟨t, ht, hdone⟩ := (hitems item hi).complete ((h item.id).complete item hrow hopen)
    obtain rfl : t = r := some.inj (ht.symm.trans hr)
    exact hdone
  · -- the row was not given to the loop, so it was finished before
    have hrow : w.row id = some r := (congrArg View.row (hothers id hid)).symm.trans hr
    refine Bool.eq_false_iff.2 fun hopen => hid ?_
    refine List.mem_map.2 ⟨r, mem_listUnfinished.2 ?_, key_of_find hrow⟩
    exact List.mem_filter.2 ⟨mem_of_find hrow, hopen⟩

/-- **Recovery leaves a stuck row unfinished.** -/
theorem Stuck.recovered_unfinished (h : Stuck e w id) : (recovered e w).table.unfinished ≠ [] := by
  obtain ⟨t, hrow, hprep⟩ := map_eq_some_iff.1 h.1
  obtain rfl : t.id = id := key_of_find hrow
  have hopen : t.state.unfinished = true := by rw [hprep]; rfl
  have hkept : (recovered e w).row t.id = some t := by
    cases he : e.validate with
    | error err => rw [recovered_of_invalid he, hrow]
    | ok u =>
    rw [recovered_of_valid he]
    refine ((recover_loop e w).1 t (mem_listUnfinished.2 ?_)).stuck h
    exact List.mem_filter.2 ⟨mem_of_find hrow, hopen⟩
  intro hnil
  cases hopen.symm.trans (unfinished_eq_nil.1 hnil t.id t hkept)

end

/-! ## the row that staging creates -/

variable {candidate : Candidate}

def Manifest.Kind (manifest : Manifest) : Prop :=
  manifest.schemaVersion = 1 ∨
    manifest.schemaVersion = 2 ∧ manifest.operationKind = .ethernetUplink ∨
    manifest.schemaVersion = 3 ∧ manifest.operationKind = .topologyProfile

theorem buildManifest_kind {lib : Lib} (h : buildManifest lib candidate = .ok manifest) :
    manifest.interfaceName = candidate.interfaceName ∧ manifest.Kind := by
  unfold buildManifest at h
  split at h
  · unfold buildTopologyManifest at h
    split at h
    · cases h
    next hfields =>
    have hname : candidate.interfaceName = "" := by
      simp only [Bool.or_eq_true, decide_eq_true_eq, not_or, not_not] at hfields
      exact hfields.1.1.2
    simp only at h
    repeat' split at h
    all_goals cases h
    all_goals exact ⟨hname.symm, Or.inr (Or.inr ⟨rfl, rfl⟩)⟩
  · unfold buildEthernetManifest at h
    split at h
    · cases h
    next hfields =>
    have hname : candidate.interfaceName = "" := by
      simp only [Bool.or_eq_true, decide_eq_true_eq, not_or, not_not] at hfields
      exact hfields.1.1.1.1
    simp only at h
    repeat' split at h
    all_goals cases h
    all_goals exact ⟨hname.symm, Or.inr (Or.inl ⟨rfl, rfl⟩)⟩
  · split at h
    · cases h
    · cases h
      exact ⟨rfl, Or.inl rfl⟩

variable {record : Transaction} {json token : String}

section
variable {e : Engine} {w : World}

theorem create_ok (h : (w.create record).1 = .ok ()) :
    w.table.unfinished = [] ∧ w.row record.id = none ∧
      validTransactionOperation (withDefaults record) = true ∧ (w.create record).2.row record.id =
        some { withDefaults record with createdAt := w.clock w.ticks } ∧
      (w.create record).2.dirs = w.dirs ∧ (w.create record).2.snapshots = w.snapshots := by
  unfold create at h ⊢
  simp only at h ⊢
  split at h
  · cases h
  next hchecked =>
  split at h
  · cases h
  next hopen =>
  split at h
  · cases h
  next hinsert =>
  rw [if_neg hchecked, if_neg hopen]
  obtain ⟨hfind, hself⟩ := find_insert hinsert record.id
  refine ⟨?_, hfind, ?_, hself.trans (if_pos rfl), rfl, rfl⟩
  · simpa using hopen
  · simp only [Bool.or_eq_true, not_or, Bool.not_eq_true', Bool.not_eq_false] at hchecked
    exact hchecked.2

theorem manifestCandidateJSON_legacy {lib : Lib} (h : manifestCandidateJSON lib manifest = .ok json)
    (hs : manifest.schemaVersion = 1) : json = "\x7b\x7d" := by
  simp only [manifestCandidateJSON, hs, legacyManifestSchema, if_pos] at h
  exact (Except.ok.inj h).symm

/-- `Create` uses none of its defaults for the row of a manifest that was built -/
theorem withDefaults_stageRecord
    (hkind : manifest.Kind) (hjson : manifestCandidateJSON e.lib manifest = .ok json)
    (hvalid : validTransactionOperation
      (withDefaults (e.stageRecord candidate manifest token json directory)) = true) :
    withDefaults (e.stageRecord candidate manifest token json directory) =
      e.stageRecord candidate manifest token json directory := by
  have hempty : json ≠ "" := by
    rintro rfl
    rcases hkind with hs | ⟨hs, hk⟩ | ⟨hs, hk⟩
    · exact absurd (manifestCandidateJSON_legacy hjson hs) (by decide)
    all_goals
      simp [validTransactionOperation, withDefaults, stageRecord, effectiveOperationKind, hs,
        hk, legacyManifestSchema, manifestSchema, topologyManifestSchema] at hvalid
  rcases hkind with hs | ⟨hs, hk⟩ | ⟨hs, hk⟩
  · simp [withDefaults, stageRecord, effectiveOperationKind, hs, hempty, legacyManifestSchema]
  all_goals
    simp [withDefaults, stageRecord, effectiveOperationKind, hs, hk, hempty,
      legacyManifestSchema]

theorem core_of_stageRecord {created : Time}
    (hname : manifest.interfaceName = candidate.interfaceName)
    (hjson : manifestCandidateJSON e.lib manifest = .ok json) :
    manifestCoreMatchesTransaction e.lib manifest
      { e.stageRecord candidate manifest token json directory with createdAt := created }
      directory = true := by
  simp [manifestCoreMatchesTransaction, hjson, stageRecord, hname]

end

/-! ## staging before the snapshot is there -/

/-- the first step of `failBeforeArm`, which closes the row, is not carried out -/
def cleanupFails : List Fate → Bool
  | [] => true
  | f :: _ => f = .fail

/-- the fates of `n` steps up to the snapshot, and of the cleanup after them, strand the row; a
snapshot that reports an error after it was taken does not -/
def stranded : Nat → List Fate → Bool
  | 0, _ => false
  | _ + 1, [] => true
  | n + 1, .ok :: fs => stranded n fs
  | n + 1, f :: fs => if n = 0 ∧ f = .late then false else cleanupFails fs

/-- a world in which a row is stranded, or in which recovery can finish every row -/
def Settles (e : Engine) (w : World) : Bool → Prop
  | true => ∃ id, Stuck e w id
  | false => Sound e w

/-- the row was created and its snapshot is not there yet -/
structure Bare (e : Engine) (w : World) (id : String) : Prop where
  safe : safeID id = true
  state : w.state id = some .preparing
  snapshot : w.snapshots (e.root ++ "/" ++ id) = false
  phase : w.phase id = none ∨ w.phase id = some .created
  others : ∀ id', id' ≠ id → Ready e w id'

section
variable {e : Engine} {w w' : World} {id : String}

theorem Bare.stuck (h : Bare e w id) : Stuck e w id := by
  refine ⟨h.state, h.snapshot, ?_⟩
  rcases h.phase with hp | hp <;> rw [hp] <;> simp

theorem Bare.of_view (h : Bare e w id) (hother : ∀ id', id' ≠ id → w'.view id' = w.view id')
    (hrow : w'.row id = w.row id) (hsnap : w'.snapshots = w.snapshots)
    (hphase : w'.phase id = none ∨ w'.phase id = some .created) : Bare e w' id where
  safe := h.safe
  state := by rw [World.state, hrow]; exact h.state
  snapshot := by rw [hsnap]; exact h.snapshot
  phase := hphase
  others := fun id' hid => (h.others id' hid).of_view (hother id' hid) hsnap

theorem Bare.sound_failed (h : Bare e w id) (hcode : safeErrorCode code = true) :
    Sound e (w.transition id [.preparing] .failed code).2 := by
  obtain ⟨t, hrow, hprep⟩ := map_eq_some_iff.1 h.state
  rw [transition_eq .failed h.safe hrow (by rw [hprep]; rfl) (Or.inr hcode)]
  intro id'
  by_cases hid : id' = id
  · subst hid
    exact ready_of_row (row_transition hrow) nofun
  · exact (h.others id' hid).congr (row_moved_ne hid) rfl rfl

theorem stuck_setPhase_failed (h : Stuck e w id) : Stuck e (w.setPhase e id .failed).2 id := by
  unfold setPhase
  split
  · exact h
  split
  · have hphase : ∀ d : TxDir, (w.marked id d .failed).phase id = some .failed := fun d => by
      simp [phase, marked, note, setDir]
    refine ⟨h.1, h.2.1, ?_, ?_, ?_⟩ <;> erw [hphase] <;> simp
  · exact h

theorem light_failBeforeArm (id code : String) :
    (Engine.failBeforeArm id code).All Op.answers Op.Light := (about_failBeforeArm id code).light

theorem settles_cleanup (h : Bare e w id) (hcode : safeErrorCode code = true) (fs : List Fate) :
    Settles e (run (exec e) (Engine.failBeforeArm id code) fs w).state (cleanupFails fs) := by
  cases fs with
  | nil => exact ⟨id, h.stuck⟩
  | cons f fs =>
  cases f with
  | fail =>
    -- the row stays as it is, whatever becomes of the status
    cases fs with
    | nil => exact ⟨id, h.stuck⟩
    | cons g fs =>
    exact ⟨id, Fate.deliver_keeps (I := (Stuck e · id)) h.stuck (stuck_setPhase_failed h.stuck)⟩
  | ok | late =>
  have hlight := (light_failBeforeArm id code).2
  exact wp_run_state (Sound.of_light (hlight (.ok ()) trivial) (h.sound_failed hcode))
    fun _ _ => trivial

theorem settles_step {k : o.Ret → Prog (Except ApplyError Prepared)}
    {n : Nat} {r : o.Ret} (hcode : safeErrorCode code = true) (h : Bare e w id)
    (h' : Bare e w' id) (hx : exec e o .ok w = (r, w'))
    (hfail : k (exec e o .fail w).1 = Engine.failBeforeArm id code ∧ (exec e o .fail w).2 = w)
    (hlate : k (exec e o .late w).1 = Engine.failBeforeArm id code ∧
      (exec e o .late w).2 = (exec e o .ok w).2)
    (hok : ∀ fs, Settles e (run (exec e) (k r) fs w').state (stranded (n + 1) fs))
    (fs : List Fate) : Settles e (run (exec e) (.call o k) fs w).state (stranded (n + 2) fs) := by
  cases fs with
  | nil => exact ⟨id, h.stuck⟩
  | cons f fs =>
  rw [run_call_cons]
  cases f with
  | ok =>
    rw [hx]
    exact hok fs
  | fail =>
    rw [hfail.1, hfail.2]
    exact settles_cleanup h hcode fs
  | late =>
  rw [hlate.1, hlate.2, hx]
  exact settles_cleanup h' hcode fs

end

/-! ## staging after the snapshot was taken -/

/-- the files of a row in `PREPARING` are complete, up to the deadline -/
structure Staged (e : Engine) (w : World) (manifest : Manifest) (directory : String)
    (t : Transaction) : Prop where
  located : e.directory manifest.id = .ok directory
  row : w.row manifest.id = some t
  preparing : t.state = .preparing
  core : manifestCoreMatchesTransaction e.lib manifest t directory = true
  load : ∃ phase, w.load e manifest.id = .ok (manifest, phase)
  snapshot : w.snapshots directory = true
  others : ∀ id, id ≠ manifest.id → Ready e w id

section
variable {e : Engine} {w w' : World} {manifest : Manifest} {directory : String} {t : Transaction}

section
variable (h : Staged e w manifest directory t)
include h

theorem Staged.sound : Sound e w := by
  intro id
  by_cases hid : id = manifest.id
  · subst hid
    refine ready_of_row h.row fun _ => ?_
    obtain ⟨phase, hload⟩ := h.load
    have hid : t.id = manifest.id := key_of_find h.row
    refine ⟨directory, manifest, phase, hid ▸ h.located, hid ▸ hload, ?_, h.snapshot⟩
    simp [recoverable, h.preparing, h.core]
  · exact h.others id hid

theorem Staged.alike (hw : Alike w w') : Staged e w' manifest directory t where
  located := h.located
  row := (congrArg (Table.find · manifest.id) hw.table).trans h.row
  preparing := h.preparing
  core := h.core
  load := by
    rw [load_congr (congrFun hw.dirs manifest.id)]
    exact h.load
  snapshot := by rw [hw.snapshots]; exact h.snapshot
  others := fun id hid => (h.others id hid).alike hw

theorem Staged.setPhase {p : Phase} {f : Fate}
    {r : Except ApplyError Unit} (hx : exec e (.setPhase manifest.id p) f w = (r, w')) :
    Staged e w' manifest directory t := by
  obtain rfl : _ = w' := congrArg Prod.snd hx
  refine Fate.deliver_keeps (I := (Staged e · manifest directory t)) h ?_
  obtain ⟨phase, hload⟩ := h.load
  obtain ⟨⟨d, hd, hm, _⟩, hid, hv⟩ := load_ok hload
  have hsnap := setPhase_snapshots (e := e) (w := w) manifest.id p
  refine ⟨h.located, ?_, h.preparing, h.core, ⟨p, ?_⟩, hsnap ▸ h.snapshot, fun id hne => ?_⟩
  · rw [setPhase_eq p h.located hd]
    exact h.row
  · rw [setPhase_eq p h.located hd]
    exact load_eq h.located (update_self manifest.id _ _) hm rfl rfl hv
  · exact (h.others id hne).of_view (setPhase_view_ne e w p hne) hsnap

theorem Staged.writeManifest {next : Manifest}
    (hid : next.id = manifest.id) (hv : validateManifest e.lib next = .ok ())
    (hcore : manifestCoreMatchesTransaction e.lib next t directory = true) :
    Staged e (w.writeManifest next).2 next directory t := by
  obtain ⟨phase, hload⟩ := h.load
  obtain ⟨⟨d, hd, _, hs⟩, _, _⟩ := load_ok hload
  rw [← hid] at hd
  have hdir : e.directory next.id = .ok directory := hid ▸ h.located
  have hw : w.writeManifest next =
      (.ok (), w.setDir next.id { d with manifest := some next }) := by
    unfold World.writeManifest
    rw [hd]
  rw [hw]
  refine ⟨hdir, hid ▸ h.row, h.preparing, hcore, ⟨phase, ?_⟩, h.snapshot, fun id hne => ?_⟩
  · exact load_eq hdir (Function.update_self next.id _ _) rfl hs rfl hv
  · exact (h.others id (hid ▸ hne)).congr rfl (Function.update_of_ne hne _ _) rfl

theorem Staged.updateDeadline (deadline : Time) :
    ∃ t', Staged e (w.updateDeadline manifest.id deadline).2 manifest directory t' ∧
      ((w.updateDeadline manifest.id deadline).1 = .ok () →
        t'.rollbackDeadline = .format deadline) := by
  unfold World.updateDeadline
  split
  · exact ⟨t, h, fun hok => by cases hok⟩
  split
  · refine ⟨{ t with rollbackDeadline := .format deadline }, ⟨h.located, ?_, h.preparing,
      h.core, h.load, h.snapshot, fun id hne => ?_⟩, fun _ => rfl⟩
    · refine (find_update_self (by exact fun _ => rfl)).trans ?_
      rw [show w.table.find manifest.id = some t from h.row]
      rfl
    · exact (h.others id hne).congr (find_update_ne (by exact fun _ => rfl) hne) rfl rfl
  · exact ⟨t, h, fun hok => by cases hok⟩

theorem Staged.arm (hdue : manifest.rollbackDeadline = t.rollbackDeadline) {f : Fate}
    {r : Except ApplyError Unit}
    (hx : exec e (.transition manifest.id [.preparing] .armed "") f w = (r, w')) : Sound e w' := by
  obtain rfl : _ = w' := congrArg Prod.snd hx
  refine Fate.deliver_keeps (I := Sound e) h.sound ?_
  rw [transition_eq .armed (directory_ok h.located).1 h.row (by rw [h.preparing]; rfl)
    (Or.inl rfl)]
  intro id
  by_cases hid : id = manifest.id
  · subst hid
    obtain ⟨phase, hload⟩ := h.load
    have hid : t.id = manifest.id := key_of_find h.row
    refine ready_of_row (row_transition h.row) fun _ => ?_
    refine ⟨directory, manifest, phase, hid ▸ h.located, ?_, ?_, h.snapshot⟩
    · exact (load_congr rfl).trans (hid ▸ hload)
    · refine Bool.or_eq_true_iff.2 (Or.inl (Bool.and_eq_true_iff.2 ⟨h.core, ?_⟩))
      exact decide_eq_true hdue
  · exact (h.others id hid).congr (row_moved_ne hid) rfl rfl

theorem Staged.replaceManifest (now : Time) :
    wp (exec e) (fun _ => True) (Sound e) (e.replaceManifest (e.dated manifest now))
      (fun r w' => Sound e w' ∧ (r = .ok () → Staged e w' (e.dated manifest now) directory t)) w := by
  unfold Engine.replaceManifest
  split
  · exact ⟨h.sound, nofun⟩
  next hv =>
  refine wp_step h.sound fun f _ r w1 hx => ?_
  have h1 := h.alike (alike_of_quiet hx trivial)
  cases r with
  | error err => exact ⟨h1.sound, nofun⟩
  | ok x =>
  obtain ⟨previous, phase⟩ := x
  simp only
  split
  · exact ⟨h1.sound, nofun⟩
  have h2 : Staged e (w1.writeManifest (e.dated manifest now)).2 (e.dated manifest now)
      directory t := h1.writeManifest rfl hv h1.core
  refine wp_step h1.sound fun f _ r w2 hx => ?_
  cases r with
  | error err =>
    have hw2 : Sound e (exec e (.writeManifest (e.dated manifest now)) f w1).2 :=
      Fate.deliver_keeps (I := Sound e) h1.sound h2.sound
    rw [hx] at hw2
    exact ⟨hw2, nofun⟩
  | ok u =>
  cases f with
  | fail => cases hx
  | late => cases hx
  | ok =>
  obtain rfl : _ = w2 := congrArg Prod.snd hx
  refine wp_step h2.sound fun f _ r w3 hx => ?_
  have h3 := h2.alike (alike_of_quiet hx trivial)
  exact ⟨h3.sound, fun _ => h3⟩

/-- **Once the snapshot was taken, `Stage` leaves only rows that recovery can finish.** -/
theorem Staged.stageArm (token : String) :
    wp (exec e) (fun _ => True) (Sound e) (e.stageArm manifest token directory)
      (fun _ => Sound e) w := by
  have fails : ∀ {w : World} (code : String), Sound e w → wp (exec e) (fun _ => True) (Sound e)
      (Engine.failBeforeArm manifest.id code) (fun _ => Sound e) w :=
    fun code hw => hw.of_light (light_failBeforeArm manifest.id code)
  unfold Engine.stageArm
  refine wp_step h.sound fun f _ now w1 hx => ?_
  have h1 := h.alike (alike_of_quiet hx trivial)
  refine wp_bind.2 (wp_post ?_ (h1.replaceManifest now))
  rintro r w2 ⟨hs2, h2⟩
  cases r with
  | error err => exact fails _ hs2
  | ok u =>
  have h2 := h2 rfl
  refine wp_step hs2 fun f _ r w3 hx => ?_
  obtain ⟨t', h3, hdue⟩ : ∃ t', Staged e w3 (e.dated manifest now) directory t' ∧
      (r = .ok () → t'.rollbackDeadline = .format (now + e.rollbackAfter)) := by
    obtain ⟨t', hu, hdue⟩ := h2.updateDeadline (now + e.rollbackAfter)
    cases f with
    | ok =>
      have hx : w2.updateDeadline manifest.id (now + e.rollbackAfter) = (r, w3) := hx
      rw [show (e.dated manifest now).id = manifest.id from rfl, hx] at hu hdue
      exact ⟨t', hu, hdue⟩
    | fail =>
      cases hx
      exact ⟨t, h2, nofun⟩
    | late =>
    cases hx
    exact ⟨t', hu, nofun⟩
  cases r with
  | error err => exact fails _ h3.sound
  | ok u =>
  refine wp_step h3.sound fun f _ r w4 hx => ?_
  have h4 := h3.setPhase hx
  cases r with
  | error err => exact fails _ h4.sound
  | ok u =>
  refine wp_step h4.sound fun f _ r w5 hx => ?_
  have h5 := h4.alike (alike_of_quiet hx trivial)
  cases r with
  | error err => exact fails _ h5.sound
  | ok u =>
  refine wp_step h5.sound fun f _ r w6 hx => ?_
  have h6 := h5.setPhase hx
  have back := fun code => (about_rollback (α := Prepared)
    (show (e.dated manifest now).id = manifest.id from rfl) directory code).light
  cases r with
  | error err => exact h6.sound.of_light (back _)
  | ok u =>
  refine wp_step h6.sound fun f _ r w7 hx => ?_
  have hs7 := h6.arm (hdue rfl).symm hx
  cases r with
  | error err => exact hs7.of_light (back _)
  | ok u => exact hs7

end

/-! ## the whole of staging -/

theorem Ready.snapshot {id id' : String} (h : Ready e w id) (hdir : e.directory id' = .ok directory)
    (hne : id ≠ id') (ev : Event) :
    Ready e (({ w with snapshots := Function.update w.snapshots directory true } : World).note ev)
      id := by
  refine ⟨fun t ht hopen => ?_, fun hnone => ?_⟩
  · obtain ⟨dir, manifest, phase, hloc, hload, hrec, hsnap⟩ := h.complete t ht hopen
    refine ⟨dir, manifest, phase, hloc, (load_congr rfl).trans hload, hrec, ?_⟩
    show update w.snapshots directory true dir = true
    by_cases hd : dir = directory
    · rw [hd, update_self]
    · rw [update_of_ne hd, hsnap]
  obtain ⟨hd, hsnap⟩ := h.noStray hnone
  refine ⟨hd, ?_⟩
  show update w.snapshots directory true (e.root ++ "/" ++ id) = false
  have hother : e.root ++ "/" ++ id ≠ directory := by
    rw [(directory_ok hdir).2.2]
    intro heq
    exact hne (by simpa using heq)
  rw [update_of_ne hother, hsnap]

theorem settles_snapshot {k : Except ApplyError Unit → Prog (Except ApplyError Prepared)}
    (hok : k (.ok ()) = e.stageArm manifest token directory)
    (herr : ∀ err, k (.error err) = Engine.failBeforeArm manifest.id "SNAPSHOT_FAILED")
    (h : Bare e w manifest.id) (hdir : e.directory manifest.id = .ok directory)
    (hrow : w.row manifest.id = some t)
    (hcore : manifestCoreMatchesTransaction e.lib manifest t directory = true)
    (hload : w.load e manifest.id = .ok (manifest, .created)) (fs : List Fate) :
    Settles e (run (exec e) (.call (.backend .snapshot manifest directory) k) fs w).state
      (stranded 1 fs) := by
  have hprep : t.state = .preparing := by
    have hs := h.state
    rw [state, hrow] at hs
    exact some.inj hs
  let w1 : World := { w with snapshots := update w.snapshots directory true }
  have staged : ∀ ev, Staged e (w1.note ev) manifest directory t := fun ev =>
    { located := hdir
      row := hrow
      preparing := hprep
      core := hcore
      load := ⟨.created, (load_congr rfl).trans hload⟩
      snapshot := by simp [w1, note]
      others := fun id hne => (h.others id hne).snapshot hdir hne ev }
  cases fs with
  | nil => exact ⟨manifest.id, h.stuck⟩
  | cons f fs =>
  cases f with
  | ok =>
    show Sound e (run (exec e) (k (.ok ())) fs _).state
    rw [hok]
    exact wp_run_state ((staged _).stageArm token) fun _ _ => trivial
  | fail =>
    show Settles e (run (exec e) (k (.error _)) fs _).state (cleanupFails fs)
    rw [herr]
    have hb : Bare e (w.note (.backend manifest.id .snapshot false)) manifest.id :=
      ⟨h.safe, h.state, h.snapshot, h.phase, fun id hne => (h.others id hne).congr rfl rfl rfl⟩
    exact settles_cleanup hb (by decide) fs
  | late =>
  show Sound e (run (exec e) (k (.error _)) fs _).state
  rw [herr]
  exact wp_run_state ((staged _).sound.of_light (light_failBeforeArm _ _)) fun _ _ => trivial

theorem settles_stageFiles (h : Bare e w manifest.id) (hd : w.dirs manifest.id = none)
    (hdir : e.directory manifest.id = .ok directory) (hrow : w.row manifest.id = some t)
    (hcore : manifestCoreMatchesTransaction e.lib manifest t directory = true) (fs : List Fate) :
    Settles e (run (exec e) (e.stageFiles manifest token directory) fs w).state
      (if (validateManifest e.lib manifest).isOk then stranded 5 fs else cleanupFails fs) := by
  unfold stageFiles storeCreate
  cases hv : validateManifest e.lib manifest with
  | error err => exact settles_cleanup h (by decide) fs
  | ok u =>
  obtain ⟨-, hroot, heq⟩ := directory_ok hdir
  simp only [if_neg hroot]
  let w1 := w.setDir manifest.id {}
  let w2 := w1.setDir manifest.id { manifest := some manifest }
  let w3 := w2.marked manifest.id { manifest := some manifest } .created
  have bare : ∀ {w' : World}, (∀ id, id ≠ manifest.id → w'.view id = w.view id) →
      w'.row manifest.id = w.row manifest.id → w'.snapshots = w.snapshots →
      (w'.phase manifest.id = none ∨ w'.phase manifest.id = some .created) →
      Bare e w' manifest.id := fun ho hr hs hp => h.of_view ho hr hs hp
  have h1 : Bare e w1 manifest.id :=
    bare (fun id hne => view_setDir_ne w _ hne) rfl rfl
      (Or.inl (by simp [w1, phase, setDir]))
  have h2 : Bare e w2 manifest.id :=
    bare (fun id hne => (view_setDir_ne w1 _ hne).trans (view_setDir_ne w _ hne)) rfl rfl
      (Or.inl (by simp [w2, phase, setDir]))
  have h3 : Bare e w3 manifest.id := by
    refine bare (fun id hne => ?_) rfl rfl
      (Or.inr (by simp [w3, phase, marked, setDir, note]))
    show ((w2.setDir manifest.id _).note _).view id = _
    rw [view_note_ne _ (Ne.symm hne), view_setDir_ne w2 _ hne, view_setDir_ne w1 _ hne,
      view_setDir_ne w _ hne]
  have hx1 : exec e (.mkdir manifest.id) .ok w = (.ok (), w1) := by
    simp [exec, mkdir, hd, w1]
  have hx2 : exec e (.writeManifest manifest) .ok w1 = (.ok (), w2) := by
    simp [exec, writeManifest, w1, w2, setDir]
  have hd2 : w2.dirs manifest.id = some { manifest := some manifest } := by
    simp [w2, setDir]
  have hx3 : exec e (.setPhase manifest.id .created) .ok w2 = (.ok (), w3) :=
    setPhase_eq .created hdir hd2
  have hload : w3.load e manifest.id = .ok (manifest, .created) :=
    load_eq hdir (update_self manifest.id _ _) rfl rfl rfl hv
  have hcode : safeErrorCode "SNAPSHOT_DIRECTORY_FAILED" = true := by decide
  show Settles e _ (stranded 5 fs)
  refine settles_step hcode h h1 hx1 ⟨rfl, rfl⟩ ⟨rfl, rfl⟩ (fun fs => ?_) fs
  refine settles_step hcode h1 h2 hx2 ⟨rfl, rfl⟩ ⟨rfl, rfl⟩ (fun fs => ?_) fs
  refine settles_step hcode h2 h3 hx3 ⟨rfl, rfl⟩ ⟨rfl, rfl⟩ (fun fs => ?_) fs
  refine settles_step hcode h3 h3 rfl ⟨rfl, rfl⟩ ⟨rfl, rfl⟩ (fun fs => ?_) fs
  show Settles e (run (exec e) (if e.root ++ "/" ++ manifest.id ≠ directory then _ else _) fs
    w3).state _
  rw [if_neg (not_not.2 heq.symm)]
  exact settles_snapshot rfl (fun _ => rfl) h3 hdir hrow hcore hload fs

end

/-! ## calls that strand their row -/

namespace Engine

variable (e : Engine) (w : World)

def stagedManifest (draft : Manifest) : Manifest :=
  e.dated { draft with id := "apply-" ++ hexEncode ((List.range 16).map (w.entropy w.draws)) }
    (w.clock w.ticks)

def stagedToken : String := hexEncode ((List.range 32).map (w.entropy (w.draws + 1)))

def rowTaken (candidate : Candidate) (manifest : Manifest) (token : String) : Bool :=
  match manifestCandidateJSON e.lib manifest, e.directory manifest.id with
  | .ok json, .ok directory =>
    (w.create (e.stageRecord candidate manifest token json directory)).1.isOk
  | _, _ => false

/-- the fates of `Create` and of the steps after it strand the row -/
def createStrands (manifest : Manifest) : List Fate → Bool
  | [] => false
  | .fail :: _ => false
  | .late :: _ => true
  | .ok :: fs =>
    if (validateManifest e.lib manifest).isOk then stranded 5 fs else cleanupFails fs

end Engine

/-- the call creates a row and dies, or fails without being able to close the row, before the
directory, the manifest, the status and the snapshot are all there; the first three fates are those
of the two draws of random bytes and of the clock -/
def strands (e : Engine) (w : World) : Call × List Fate → Bool
  | (.stage candidate, .ok :: .ok :: _ :: fs) =>
    match e.validate, buildManifest e.lib candidate with
    | .ok (), .ok draft =>
      e.rowTaken w candidate (e.stagedManifest w draft) (Engine.stagedToken w) &&
        e.createStrands (e.stagedManifest w draft) fs
    | _, _ => false
  | _ => false

section
variable {e : Engine} {w : World}

theorem create_fst (h : w'.table = w.table) (record : Transaction) :
    (w'.create record).1 = (w.create record).1 := by
  unfold create
  rw [h]
  simp only
  split
  · rfl
  split
  · rfl
  -- whether the row can be inserted depends on its key alone
  by_cases hkey : (withDefaults record).id ∈ w.table.rows.map Transaction.id
  · simp only [Table.insert, dif_pos hkey]
  · simp only [Table.insert, dif_neg hkey]

theorem rowTaken_congr (h : w'.table = w.table) (candidate : Candidate) (manifest : Manifest)
    (token : String) :
    e.rowTaken w' candidate manifest token = e.rowTaken w candidate manifest token := by
  unfold rowTaken
  split
  · rw [create_fst h]
  · rfl

theorem create_error (h : (w.create record).1.isOk = false) : (w.create record).2 = w := by
  unfold create at h ⊢
  simp only at h ⊢
  split
  · rfl
  split
  · rfl
  next hchecked hopen =>
  rw [if_neg hchecked, if_neg hopen] at h
  split at h
  · rfl
  · cases h

theorem Sound.alike (h : Sound e w) (hw : Alike w w') : Sound e w' :=
  fun id => (h id).alike hw

theorem bare_of_create (hw : Sound e w) (hstate : record.state = .preparing)
    (hsafe : safeID record.id = true) (h : (w.create record).1 = .ok ()) :
    Bare e (w.create record).2 record.id ∧ (w.create record).2.dirs record.id = none := by
  obtain ⟨_, hnone, _, hrow, hdirs, hsnap⟩ := create_ok h
  obtain ⟨hd, hs⟩ := (hw record.id).noStray hnone
  have hdir : (w.create record).2.dirs record.id = none := by rw [hdirs, hd]
  refine ⟨⟨hsafe, ?_, ?_, Or.inl ?_, fun id hne => ?_⟩, hdir⟩
  · rw [state, hrow]
    exact congrArg some hstate
  · rw [hsnap, hs]
  · rw [phase, hdir]
    rfl
  · exact (hw id).of_view (create_view_ne w record hne) hsnap

theorem settles_stageCreate (hw : Sound e w)
    (hname : manifest.interfaceName = candidate.interfaceName) (hkind : manifest.Kind)
    (token : String) (fs : List Fate) :
    Settles e (run (exec e) (e.stageCreate candidate manifest token) fs w).state
      (e.rowTaken w candidate manifest token && e.createStrands manifest fs) := by
  unfold stageCreate rowTaken
  cases hjson : manifestCandidateJSON e.lib manifest with
  | error err => exact hw
  | ok json =>
  cases hdir : e.directory manifest.id with
  | error err => exact hw
  | ok directory =>
  simp only
  generalize hrec : e.stageRecord candidate manifest token json directory = record
  cases hok : (w.create record).1 with
  | error err =>
    have hsame : (w.create record).2 = w := create_error (by rw [hok]; rfl)
    show Sound e _
    cases fs with
    | nil => exact hw
    | cons f fs =>
    obtain ⟨failure, hx⟩ : ∃ failure, exec e (.create record) f w = (.error failure, w) := by
      cases f with
      | ok => exact ⟨err, Prod.ext hok hsame⟩
      | fail => exact ⟨_, rfl⟩
      | late => exact ⟨_, Prod.ext rfl hsame⟩
    rw [run_call_cons, hx]
    exact hw
  | ok u =>
  have hid : record.id = manifest.id := hrec ▸ rfl
  obtain ⟨hbare, hd⟩ := bare_of_create hw (hrec ▸ rfl) (hid ▸ (directory_ok hdir).1) hok
  obtain ⟨_, _, hvalid, hrow, _, _⟩ := create_ok hok
  rw [hid] at hbare hd hrow
  cases fs with
  | nil => exact hw
  | cons f fs =>
  cases f with
  | fail => exact hw
  | late => exact ⟨manifest.id, hbare.stuck⟩
  | ok =>
  rw [run_call_cons, show exec e (.create record) .ok w = (.ok (), (w.create record).2) from
    Prod.ext hok rfl]
  refine settles_stageFiles hbare hd hdir hrow ?_ fs
  subst hrec
  rw [withDefaults_stageRecord hkind hjson hvalid]
  exact core_of_stageRecord hname hjson

theorem strands_of_invalid (he : e.validate = .error err) (t : Call × List Fate) :
    strands e w t = false := by
  unfold strands
  split
  · rw [he]
  · rfl

/-- **`Stage`, finished or cut off anywhere**, strands its row or leaves the world sound. -/
theorem settles_stage (hw : Sound e w) (candidate : Candidate) (fates : List Fate) :
    Settles e (run (exec e) (e.stage candidate) fates w).state
      (strands e w (.stage candidate, fates)) := by
  have quiet : ∀ {w' : World}, w'.table = w.table → w'.dirs = w.dirs →
      w'.snapshots = w.snapshots → Sound e w' := fun h1 h2 h3 => hw.alike ⟨h1, h2, h3⟩
  unfold stage
  cases he : e.validate with
  | error err =>
    rw [strands_of_invalid he]
    exact hw
  | ok u =>
  cases hb : buildManifest e.lib candidate with
  | error err =>
    have hstrands : strands e w (.stage candidate, fates) = false := by
      unfold strands
      split
      · next heq =>
        cases heq
        rw [he, hb]
      · rfl
    rw [hstrands]
    exact hw
  | ok draft =>
  obtain ⟨hname, hkind⟩ := buildManifest_kind hb
  cases fates with
  | nil => exact hw
  | cons f fates =>
  cases f with
  | fail => exact hw
  | late => exact quiet rfl rfl rfl
  | ok =>
  cases fates with
  | nil => exact quiet rfl rfl rfl
  | cons f fates =>
  cases f with
  | fail => exact quiet rfl rfl rfl
  | late => exact quiet rfl rfl rfl
  | ok =>
  cases fates with
  | nil => exact quiet rfl rfl rfl
  | cons f fates =>
  -- the draws and the clock are read, the next step is `Create`
  let w' : World := { w with draws := w.draws + 1 + 1, ticks := w.ticks + 1 }
  have hw' : Sound e w' := quiet rfl rfl rfl
  have hstrands : strands e w (.stage candidate, .ok :: .ok :: f :: fates) =
      (e.rowTaken w' candidate (e.stagedManifest w draft) (stagedToken w) &&
        e.createStrands (e.stagedManifest w draft) fates) := by
    have htaken := rowTaken_congr (e := e) (show w'.table = w.table from rfl) candidate
      (e.stagedManifest w draft) (stagedToken w)
    simp only [strands, he, hb, htaken]
  rw [hstrands]
  have hname' : (e.stagedManifest w draft).interfaceName = candidate.interfaceName := hname
  exact settles_stageCreate hw' hname' hkind (stagedToken w) fates

/-- **One call, finished or cut off anywhere.** -/
theorem settles_after (hw : Sound e w) (t : Call × List Fate) :
    Settles e (after (exec e) e.proc w t) (strands e w t) := by
  obtain ⟨call, fates⟩ := t
  have light : ∀ {α : Type} {p : Prog α}, p.All Op.answers Op.Light →
      Sound e (run (exec e) p fates w).state :=
    fun hp => wp_run_state (hw.of_light hp) fun _ _ => trivial
  cases call with
  | stage candidate => exact settles_stage hw candidate fates
  | apply id => exact light (about_apply id).light
  | confirm id evidence => exact light (about_confirm id evidence).light
  | recover => exact light light_recover

end

/-! ## the next call of Stage -/

/-- nothing is unfinished, and no call of `Stage` is refused because something is -/
def Unblocked (e : Engine) (w : World) : Prop :=
  w.table.unfinished = [] ∧
    ∀ candidate fates, (run (exec e) (e.stage candidate) fates w).result ≠
      some (.error .inProgress)


section
variable {e : Engine} {w : World}

theorem buildManifest_ne_inProgress (lib : Lib) (candidate : Candidate) :
    buildManifest lib candidate ≠ .error .inProgress := by
  unfold buildManifest
  intro h
  split at h
  · unfold buildTopologyManifest at h
    simp only at h
    repeat' split at h
    all_goals cases h
  · unfold buildEthernetManifest at h
    simp only at h
    repeat' split at h
    all_goals cases h
  split at h
  · next err hv =>
    cases h
    unfold validateCandidate at hv
    repeat' split at hv
    all_goals cases hv
  · cases h

theorem rollback_ends (id : String) (manifest : Manifest) (directory code : String) :
    (Engine.rollback id manifest directory code : Prog (Except ApplyError α)).Ends
      (· ≠ .error .inProgress) :=
  eitherAnswer (fun _ => nofun) fun _ => nofun

theorem failBeforeArm_ends (id code : String) :
    (Engine.failBeforeArm id code).Ends (· ≠ .error .inProgress) := nofun

theorem stageArm_ends (manifest : Manifest) (token directory : String) :
    (e.stageArm manifest token directory).Ends (· ≠ .error .inProgress) := by
  intro now
  have fails := failBeforeArm_ends manifest.id
  have back := rollback_ends (α := Prepared) manifest.id (e.dated manifest now) directory
  refine (Proc.ends_true _).bind fun r _ => ?_
  cases r with
  | error err => exact fails _
  | ok u =>
  refine eitherAnswer (fun _ => fails _) fun _ => ?_
  refine eitherAnswer (fun _ => fails _) fun _ => ?_
  refine eitherAnswer (fun _ => fails _) fun _ => ?_
  refine eitherAnswer (fun _ => back _) fun _ => ?_
  exact eitherAnswer (fun _ => back _) fun _ => nofun

theorem stageFiles_ends (manifest : Manifest) (token directory : String) :
    (e.stageFiles manifest token directory).Ends (· ≠ .error .inProgress) := by
  have fails := failBeforeArm_ends manifest.id
  refine (Proc.ends_true _).bind fun r _ => ?_
  cases r with
  | error err => exact fails _
  | ok created =>
  dsimp only
  split
  · exact fails _
  · exact eitherAnswer (fun _ => fails _) fun _ => stageArm_ends _ _ _

theorem create_ne_inProgress (h : w.table.unfinished = []) (record : Transaction) :
    (w.create record).1 ≠ .error .inProgress := by
  unfold create
  intro hr
  simp only [h, List.length_nil, ne_eq, not_true_eq_false, if_false] at hr
  split at hr
  · cases hr
  · split at hr <;> cases hr

theorem validate_ne_inProgress : e.validate ≠ .error .inProgress := by
  unfold validate
  intro h
  repeat' split at h
  all_goals cases h

theorem directory_ne_inProgress (id : String) : e.directory id ≠ .error .inProgress := by
  unfold directory
  intro h
  split at h <;> cases h

theorem manifestCandidateJSON_ne_inProgress (lib : Lib) (manifest : Manifest) :
    manifestCandidateJSON lib manifest ≠ .error .inProgress := by
  unfold manifestCandidateJSON
  simp only
  intro h
  generalize (if manifest.schemaVersion = legacyManifestSchema then some "\x7b\x7d" else _) = p at h
  cases p <;> cases h

theorem stageCreate_ne_inProgress (h : w.table.unfinished = []) (candidate : Candidate)
    (manifest : Manifest) (token : String) :
    wp (exec e) (fun _ => True) (fun _ => True) (e.stageCreate candidate manifest token)
      (fun r _ => r ≠ .error .inProgress) w := by
  unfold stageCreate
  split
  · next err hjson =>
    intro hr
    cases hr
    exact manifestCandidateJSON_ne_inProgress _ _ hjson
  split
  · next err hdir =>
    intro hr
    cases hr
    exact directory_ne_inProgress _ hdir
  next directory _ =>
  refine wp_step trivial fun f _ r w' hx => ?_
  cases r with
  | error err =>
    intro hr
    cases hr
    cases f with
    | ok => exact create_ne_inProgress h _ (congrArg Prod.fst hx)
    | fail => cases hx
    | late => cases hx
  | ok u => exact wp_of_ends (stageFiles_ends manifest token directory) w'

/-- **`Stage` is not refused when nothing is unfinished.** -/
theorem stage_ne_inProgress (h : w.table.unfinished = []) (candidate : Candidate) :
    wp (exec e) (fun _ => True) (fun _ => True) (e.stage candidate)
      (fun r _ => r ≠ .error .inProgress) w := by
  unfold stage
  split
  · next err he =>
    intro hr
    cases hr
    exact validate_ne_inProgress he
  split
  · next err hb =>
    intro hr
    cases hr
    exact buildManifest_ne_inProgress _ _ hb
  refine wp_step trivial fun f _ r w1 hx => ?_
  have h1 := (alike_of_quiet hx trivial).table
  cases r with
  | error err => exact nofun
  | ok idBytes =>
  refine wp_step trivial fun f _ r w2 hx => ?_
  have h2 := (alike_of_quiet hx trivial).table
  cases r with
  | error err => exact nofun
  | ok tokenBytes =>
  refine wp_step trivial fun f _ now w3 hx => ?_
  have h3 := (alike_of_quiet hx trivial).table
  exact stageCreate_ne_inProgress (by rw [h3, h2, h1, h]) candidate _ _

/-- no row is unfinished, and that is all that the next `Stage` asks for -/
theorem unblocked_iff : Unblocked e w ↔ w.table.unfinished = [] := by
  refine ⟨fun h => h.1, fun h => ⟨h, fun candidate fates hr => ?_⟩⟩
  have htrue : ∀ f ∈ fates, (fun _ : Fate => True) f := fun _ _ => trivial
  exact (wp_sound (stage_ne_inProgress (e := e) h candidate) htrue).1 _ hr rfl

end

/-! ## crashes and the recovery after them -/

/-- no transaction was ever staged -/
structure Pristine (w : World) : Prop where
  rows : w.table.rows = []
  dirs : ∀ id, w.dirs id = none
  snapshots : ∀ directory, w.snapshots directory = false

section
variable {e : Engine} {w : World}

theorem Pristine.sound (h : Pristine w) : Sound e w := by
  intro id
  have hnone : w.row id = none := by simp [row, Table.find, h.rows]
  refine ⟨fun t ht => ?_, fun _ => ⟨h.dirs id, h.snapshots _⟩⟩
  rw [hnone] at ht
  cases ht

theorem after_of_invalid (he : e.validate = .error err) (t : Call × List Fate) :
    after (exec e) e.proc w t = w := by
  obtain ⟨call, fates⟩ := t
  unfold after
  cases call with
  | stage candidate => simp only [proc, stage, he]; rfl
  | apply id => simp only [proc, apply, he]; rfl
  | confirm id evidence => simp only [proc, confirm, he]; rfl
  | recover => simp only [proc, recover, he]; rfl

/-- from a sound world the recovery after one call leaves nothing unfinished, unless the call has
stranded its row -/
theorem Sound.unblocked_iff (he : e.validate = .ok ()) (hw : Sound e w) (t : Call × List Fate) :
    Unblocked e (recovered e (after (exec e) e.proc w t)) ↔ strands e w t = false := by
  rw [NetworkApply.unblocked_iff]
  have h := settles_after hw t
  cases hs : strands e w t with
  | false =>
    rw [hs] at h
    exact ⟨fun _ => rfl, fun _ => Sound.recovered_unfinished he h⟩
  | true =>
  rw [hs] at h
  obtain ⟨id, hstuck⟩ := h
  exact ⟨fun hnil => absurd hnil hstuck.recovered_unfinished, nofun⟩

end

def World.Open (w : World) (id : String) : Prop := (w.state id).any TxState.unfinished = true

def World.Single (w : World) : Prop := ∀ a b, w.Open a → w.Open b → a = b

section
variable {e : Engine} {w w' : World} {o : Op} {id : String} {α : Type}

theorem open_congr (h : w'.row id = w.row id) : w'.Open id ↔ w.Open id := by
  rw [World.Open, World.Open, state, state, h]

theorem open_of_light (ho : o.Light) (f : Fate) (h : (exec e o f w).2.Open id) : w.Open id := by
  by_cases htarget : o.target = some id
  · rcases ho.cases with hq | ⟨a, p, rfl⟩ | ⟨a, expected, next, code, rfl⟩
    · exact (open_congr (congrArg (Table.find · id) (alike_of_quiet rfl hq).table)).mp h
    · revert h
      refine Fate.deliver_keeps (I := fun w' : World => w'.Open id → w.Open id) (fun h => h) ?_
      unfold setPhase
      split
      · exact fun h => h
      · split <;> exact fun h => h
    · cases htarget
      revert h
      refine Fate.deliver_keeps (I := fun w' : World => w'.Open id → w.Open id) (fun h => h) ?_
      unfold transition
      split
      · exact fun h => h
      split
      · next hstate =>
        intro h
        obtain ⟨s, hs, hmem⟩ := (any_eq_true _ _).1 hstate
        obtain ⟨r, hr, rfl⟩ := map_eq_some_iff.1 hs
        have hnext : next.unfinished = true := by
          change (((w.moved id next code).row id).map _).any _ = true at h
          rwa [row_transition hr] at h
        have hall := ho.resolve_left (by simp [hnext])
        rw [World.Open, hs]
        exact (Bool.and_eq_true_iff.1 (List.all_eq_true.1 hall _ (List.contains_iff_mem.1 hmem))).1
      · exact fun h => h
  · exact (open_congr (congrArg View.row (view_frame e o f w htarget))).mp h

theorem World.Single.light (h : w.Single) (ho : o.Light) (f : Fate) : (exec e o f w).2.Single :=
  fun a b ha hb => h a b (open_of_light ho f ha) (open_of_light ho f hb)

theorem create_opens {record : Transaction} (hok : (w.create record).1 = .ok ())
    (hne : id ≠ record.id) : ¬ (w.create record).2.Open id := by
  intro hopen
  rw [open_congr (congrArg View.row (create_view_ne w record hne))] at hopen
  obtain ⟨s, hs, hunfinished⟩ := (any_eq_true _ _).1 hopen
  obtain ⟨r, hr, rfl⟩ := map_eq_some_iff.1 hs
  have hmem : r ∈ w.table.unfinished :=
    List.mem_filter.2 ⟨List.mem_of_find?_eq_some hr, hunfinished⟩
  rw [(create_ok hok).1] at hmem
  cases hmem

theorem single_stageCreate (h : w.Single) (candidate : Candidate) (manifest : Manifest)
    (token : String) : wp (exec e) (fun _ => True) World.Single
      (e.stageCreate candidate manifest token) (fun _ => World.Single) w := by
  unfold stageCreate
  split
  · exact h
  next json _ =>
  split
  · exact h
  next directory _ =>
  obtain ⟨r, w1, hcreate⟩ : ∃ r w1, w.create
      (e.stageRecord candidate manifest token json directory) = (r, w1) := ⟨_, _, rfl⟩
  have hw1 : (w.create (e.stageRecord candidate manifest token json directory)).2 = w1 := by
    rw [hcreate]
  refine wp_step h fun f _ r' w' hx => ?_
  change f.deliver _ (w.create _) w = _ at hx
  rw [hcreate] at hx
  cases r with
  | error err =>
    obtain rfl : w = w1 := (create_error (by rw [hcreate]; rfl)).symm.trans hw1
    cases f <;> cases hx <;> exact h
  | ok u =>
  -- the steps that follow are about the new row
  have hsingle : ∀ v : World, (∀ a : { a // a ≠ manifest.id }, v.view a = w1.view a) →
      v.Single := by
    intro v hview a b ha hb
    have honly : ∀ x, v.Open x → x = manifest.id := by
      intro x hx
      by_contra hne
      have hopen := (open_congr (congrArg View.row (hview ⟨x, hne⟩))).mp hx
      rw [← hw1] at hopen
      exact create_opens (by rw [hcreate]) hne hopen
    rw [honly a ha, honly b hb]
  cases f <;> cases hx
  · exact wp_mono hsingle (fun _ => hsingle)
      (wp_forall fun a => (about_stageFiles manifest token directory).wp e a.2 _)
  · exact h
  · exact hsingle _ fun _ => rfl

theorem single_stage (h : w.Single) (candidate : Candidate) : wp (exec e) (fun _ => True)
    World.Single (e.stage candidate) (fun _ => World.Single) w := by
  unfold stage
  split
  · exact h
  split
  · exact h
  refine ⟨h, fun f _ => ?_⟩
  have h := h.light (e := e) (o := .newSecret 16) trivial f
  dsimp only
  split
  · exact h
  refine ⟨h, fun f _ => ?_⟩
  have h := h.light (e := e) (o := .newSecret 32) trivial f
  dsimp only
  split
  · exact h
  exact ⟨h, fun f _ => single_stageCreate (h.light (o := .now) trivial f) candidate _ _⟩

theorem single_of_light {p : Prog α} (hp : p.All Op.answers Op.Light) (h : w.Single) :
    wp (exec e) (fun _ => True) World.Single p (fun _ => World.Single) w :=
  wp_of_all (exec_answers e) (fun _ f _ ho _ hs => World.Single.light hs ho f) hp h

/-- **At most one transaction is unfinished**, in every run of the engine's calls, each cut off
anywhere and with any step failing. -/
theorem one_unfinished (h : w.Single) (turns : List (Call × List Fate)) :
    (runTurns (exec e) e.proc w turns).Single := by
  induction turns generalizing w with
  | nil => exact h
  | cons t turns ih =>
    refine ih ?_
    obtain ⟨call, fates⟩ := t
    cases call with
    | stage candidate => exact wp_run_state (single_stage h candidate) fun _ _ => trivial
    | apply id => exact wp_run_state (single_of_light (about_apply id).light h) fun _ _ => trivial
    | confirm id evidence =>
      exact wp_run_state (single_of_light (about_confirm id evidence).light h) fun _ _ => trivial
    | recover => exact wp_run_state (single_of_light light_recover h) fun _ _ => trivial

end

theorem staged_twice_single : (sampleRun [(.stage sampleCandidate, List.replicate 4 .ok),
    (.stage sampleCandidate, List.replicate 18 .ok)]).Single :=
  one_unfinished (fun _ _ ha _ => by cases ha) _

end GatewayVpn.NetworkApply
