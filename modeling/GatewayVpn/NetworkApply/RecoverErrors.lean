import GatewayVpn.NetworkApply.View

/-!
# Network apply: what `Recover` does with the errors of `Disarm` and `Commit`

`Recover` finishes a transaction whose confirmation was recorded: it disarms the rollback timer,
commits the candidate, and writes `CONFIRMED` to the status file and to the row.  The errors of
the first two steps go into a variable that is declared inside the `if` and die with it, and the
variable that the last two steps look at belongs to the whole function: it keeps the error of an
earlier transaction for all the later ones.

`env` gives every call its fate, so that one run covers one combination of failures over the
whole list of unfinished transactions.
-/

namespace GatewayVpn.NetworkApply

open Durable List Option Engine

/-- a transaction is confirmed only after `Disarm` and `Commit` returned nil, and an error of
either is reported and leaves the transaction unfinished -/
def ErrorsReported (id : String) (failures : List ApplyError) (v : View) : Prop :=
  ((v.phase = some .confirmed ∨ v.state = some .confirmed) →
      Event.timer id .disarm true ∈ v.events ∧ Event.backend id .commit true ∈ v.events) ∧
    ((Event.timer id .disarm false ∈ v.events ∨ Event.backend id .commit false ∈ v.events) →
      failures ≠ [] ∧ v.phase = some .confirming ∧ v.state.any TxState.unfinished = true)

/-- one call of `Recover`, whose log starts empty -/
def Engine.recoverCall (e : Engine) (env : Op → Fate) (w : World) : List ApplyError × World :=
  runWith (exec e) env e.recover { w with log := [] }

def RecoverReports (e : Engine) (env : Op → Fate) (w : World) : Prop :=
  ∀ item ∈ w.table.unfinished, w.phase item.id = some .confirming →
    ErrorsReported item.id (e.recoverCall env w).1 ((e.recoverCall env w).2.view item.id)

/-- what one turn of the loop has read when it gets to its `switch` -/
def Engine.seen (e : Engine) (env : Op → Fate) (w : World) (item : Transaction) :
    Option (Manifest × Phase × String) :=
  match env (.load item.id), w.load e item.id, e.directory item.id with
  | .ok, .ok (manifest, phase), .ok directory =>
    if e.recoverable item manifest directory then some (manifest, phase, directory) else none
  | _, _, _ => none

/-- in the order of the list, and up to the first transaction whose `CONFIRMED` cannot be
recorded: `Disarm` and `Commit` succeed, or the status file is not written either -/
def Engine.errorsKept (e : Engine) (env : Op → Fate) (w : World) : List Transaction → Prop
  | [] => True
  | item :: rest =>
    match e.seen env w item with
    | some (manifest, .confirming, directory) =>
      if env (.disarm item.id) = .ok ∧ env (.backend .commit manifest directory) = .ok then
        env (.setPhase item.id .confirmed) = .ok →
          env (.transition item.id [item.state] .confirmed "") = .ok → errorsKept e env w rest
      else env (.setPhase item.id .confirmed) = .fail
    | _ => errorsKept e env w rest

/-! ## one turn of the loop -/

variable {manifest : Manifest} {directory id : String} {rest items : List Transaction}
  {err : Option ApplyError} {failures : List ApplyError}

section
variable {e : Engine} {env : Op → Fate} {w : World} {item : Transaction}

theorem exec_disarm (f : Fate) (id : String) : exec e (.disarm id) f w =
      (if f = .ok then .ok () else .error (.text "disarm rollback timer failed"),
        w.note (.timer id .disarm (decide (f = .ok)))) := by
  cases f <;> rfl

theorem exec_commit (f : Fate) (manifest : Manifest) (directory : String) :
    exec e (.backend .commit manifest directory) f w =
      (if f = .ok then .ok () else .error (.text "network backend failed"),
        w.note (.backend manifest.id .commit (decide (f = .ok)))) := by
  cases f <;> rfl

def confirmCalls (env : Op → Fate) (item : Transaction) (manifest : Manifest)
    (directory : String) : List Event :=
  if env (.disarm item.id) = .ok then
    [.backend item.id .commit (decide (env (.backend .commit manifest directory) = .ok)),
      .timer item.id .disarm true]
  else [.timer item.id .disarm false]

theorem runWith_recoverConfirming (hid : manifest.id = item.id) :
    runWith (exec e) env (Engine.recoverConfirming item manifest directory err) w =
      runWith (exec e) env (Engine.finishConfirming item err)
        { w with log := confirmCalls env item manifest directory ++ w.log } := by
  unfold recoverConfirming confirmCalls
  rw [runWith_call, exec_disarm]
  by_cases hd : env (.disarm item.id) = .ok
  · simp only [hd, if_true]
    rw [runWith_call, exec_commit, hid]
    rfl
  · simp only [hd, if_false]
    rfl

def itemRun (e : Engine) (env : Op → Fate) (w : World) (item : Transaction)
    (err : Option ApplyError) (failures : List ApplyError) :
    (Option ApplyError × List ApplyError) × World :=
  runWith (exec e) env (e.recoverItem item err failures) w

def loopRun (e : Engine) (env : Op → Fate) (w : World) (items : List Transaction)
    (err : Option ApplyError) (failures : List ApplyError) : List ApplyError × World :=
  runWith (exec e) env (e.recoverLoop items err failures) w

theorem recoverItem_of_seen {phase : Phase}
    (h : e.seen env w item = some (manifest, phase, directory)) :
    itemRun e env w item err failures = runWith (exec e) env
        (Engine.recoverSwitch item manifest phase directory err failures) w := by
  unfold seen at h
  split at h
  · next hf hl hdir =>
    split at h
    · next hr =>
      cases h
      unfold itemRun recoverItem
      simp [exec, hf, hl, hdir, hr]
    · cases h
  · cases h

theorem recoverItem_of_unseen (h : e.seen env w item = none) (err : Option ApplyError)
    (failures : List ApplyError) : ∃ failure, itemRun e env w item err failures =
      ((err, failures ++ [failure]), w) := by
  unfold itemRun recoverItem
  rw [runWith_call]
  cases hf : env (.load item.id) with
  | fail => exact ⟨_, by simp only [exec]; rfl⟩
  | late => exact ⟨_, by simp only [exec]; rfl⟩
  | ok =>
  simp only [exec, Fate.ok_deliver]
  cases hl : w.load e item.id with
  | error loadErr => exact ⟨_, rfl⟩
  | ok r =>
  obtain ⟨manifest, phase⟩ := r
  cases hdir : e.directory item.id with
  | error err => exact ⟨_, rfl⟩
  | ok directory =>
  have hr : e.recoverable item manifest directory = false := by
    simpa [seen, hf, hl, hdir] using h
  simp only [hr]
  exact ⟨_, rfl⟩

theorem phase_of_seen {phase : Phase} (h : e.seen env w item = some (manifest, phase, directory)) :
    w.phase item.id = some phase ∧ manifest.id = item.id ∧ e.directory item.id = .ok directory := by
  unfold seen at h
  split at h
  · next hf hl hdir =>
    split at h
    · cases h
      exact ⟨phase_of_load hl, load_id hl, hdir⟩
    · cases h
  · cases h

theorem ends_recoverSwitch (manifest : Manifest) (phase : Phase) (directory : String)
    (err : Option ApplyError) (failures : List ApplyError) :
    (Engine.recoverSwitch item manifest phase directory err failures).Ends fun r =>
      (phase ≠ .confirming → r.1 = err) ∧ ∃ l, r.2 = failures ++ l := by
  have write : ∀ next code,
      (recoverTransition item next code err failures).Ends fun r =>
        (phase ≠ .confirming → r.1 = err) ∧ ∃ l, r.2 = failures ++ l := by
    intro next code r
    cases r with
    | error failure => exact ⟨fun _ => rfl, _, rfl⟩
    | ok u => exact ⟨fun _ => rfl, [], (append_nil failures).symm⟩
  unfold recoverSwitch
  split
  · exact write _ _
  · exact write _ _
  · refine Proc.Ends.bind (Proc.ends_true _) fun r _ => ?_
    cases r with
    | some failure => exact ⟨fun h => absurd rfl h, _, rfl⟩
    | none => exact ⟨fun h => absurd rfl h, [], (append_nil failures).symm⟩
  intro r
  cases r with
  | error failure => exact ⟨fun _ => rfl, _, rfl⟩
  | ok u =>
  intro _ r
  cases r with
  | error failure => exact ⟨fun _ => rfl, _, rfl⟩
  | ok u => exact write _ _

def Event.isCall : Event → Bool
  | .backend _ _ _ | .timer _ _ _ => true
  | .status _ _ | .row _ _ => false

theorem finishConfirming_none (env : Op → Fate) {d : TxDir}
    (hdir : e.directory item.id = .ok directory) (hd : w.dirs item.id = some d)
    (hrow : w.row item.id = some item) :
    let r := runWith (exec e) env (Engine.finishConfirming item none) w
    (r.1 = none ↔ env (.setPhase item.id .confirmed) = .ok ∧
        env (.transition item.id [item.state] .confirmed "") = .ok) ∧
      (env (.setPhase item.id .confirmed) = .fail → r.2 = w) ∧
      (env (.setPhase item.id .confirmed) ≠ .fail → r.2.phase item.id = some .confirmed) ∧
      ∀ ev : Event, ev.isCall = true →
        (ev ∈ (r.2.view item.id).events ↔ ev ∈ (w.view item.id).events) := by
  intro r
  have hr : r = runWith (exec e) env (finishConfirming item none) w := rfl
  unfold finishConfirming at hr
  rw [runWith_call] at hr
  have written : (w.marked item.id d .confirmed).view item.id =
      (w.view item.id).setPhase item.id d .confirmed := view_setPhase d .confirmed
  -- from the status on, only the row and what is no call can change
  have after : ∀ {w' : World} {v : View}, v = (w.view item.id).setPhase item.id d .confirmed →
      w'.view item.id = v ∨ w'.view item.id = v.setState item .confirmed "" →
      w'.phase item.id = some .confirmed ∧ ∀ ev : Event, ev.isCall = true →
        (ev ∈ (w'.view item.id).events ↔ ev ∈ (w.view item.id).events) := by
    rintro w' v rfl (hv | hv) <;> rw [← view_phase, hv] <;>
      exact ⟨rfl, fun ev hev => by cases ev <;> simp_all [Event.isCall]⟩
  cases hS : env (.setPhase item.id .confirmed) with
  | fail =>
    simp only [exec, hS, Fate.fail_deliver] at hr
    rw [hr]
    simp
  | late =>
    simp only [exec, hS, Fate.late_deliver, setPhase_eq .confirmed hdir hd] at hr
    rw [hr]
    exact ⟨by simp, by simp, fun _ => (after rfl (.inl written)).1, (after rfl (.inl written)).2⟩
  | ok =>
  simp only [exec, hS, Fate.ok_deliver, setPhase_eq .confirmed hdir hd, runWith_call] at hr
  generalize w.marked item.id d .confirmed = w' at hr written
  have hrow' : w'.row item.id = some item := by rw [← view_row, written]; exact hrow
  have moved : ∀ f : Fate, f ≠ .fail →
      (f.deliver (.text "transition network apply")
        (w'.transition item.id [item.state] .confirmed "") w').2.view item.id =
        ((w.view item.id).setPhase item.id d .confirmed).setState item .confirmed "" := by
    intro f hf
    rw [transition_eq .confirmed (directory_ok hdir).1 hrow' (by simp) (Or.inl rfl),
      ← written, ← view_modify_row .confirmed "" hrow']
    cases f with
    | ok => rfl
    | fail => exact absurd rfl hf
    | late => rfl
  cases hT : env (.transition item.id [item.state] .confirmed "") with
  | fail =>
    simp only [hT, Fate.fail_deliver] at hr
    rw [hr]
    exact ⟨by simp, by simp, fun _ => (after rfl (.inl written)).1, (after rfl (.inl written)).2⟩
  | late =>
    simp only [hT, Fate.late_deliver] at hr
    have hv := after rfl (.inr (moved .late (by decide)))
    rw [hr]
    exact ⟨by simp, by simp, fun _ => hv.1, hv.2⟩
  | ok =>
  have hv := moved .ok (by decide)
  simp only [hT, Fate.ok_deliver] at hr hv
  rw [transition_eq .confirmed (directory_ok hdir).1 hrow' (by simp) (Or.inl rfl)] at hr hv
  have hv := after rfl (.inr hv)
  rw [hr]
  exact ⟨by simp, by simp, fun _ => hv.1, hv.2⟩

/-! ## the loop -/

theorem loop_cons : loopRun e env w (item :: rest) err failures =
      loopRun e env (itemRun e env w item err failures).2 rest
        (itemRun e env w item err failures).1.1 (itemRun e env w item err failures).1.2 := by
  unfold loopRun itemRun
  rw [recoverLoop, runWith_bind]

theorem itemRun_view (h : id ≠ item.id) :
    (itemRun e env w item err failures).2.view id = w.view id :=
  (about_recoverItem item err failures).runWith_view e env h w

theorem recoverItem_failures : ∃ l, (itemRun e env w item err failures).1.2 = failures ++ l := by
  cases h : e.seen env w item with
  | none =>
    obtain ⟨failure, hr⟩ := recoverItem_of_unseen h err failures
    exact ⟨[failure], by rw [hr]⟩
  | some x =>
  obtain ⟨manifest, phase, directory⟩ := x
  rw [recoverItem_of_seen h]
  exact ((ends_recoverSwitch manifest phase directory err failures).runWith (exec e) env w).2

theorem loop_failures (items : List Transaction) :
    ∃ l, (loopRun e env w items err failures).1 = failures ++ l := by
  induction items generalizing err failures w with
  | nil => exact ⟨[], (append_nil failures).symm⟩
  | cons item rest ih =>
    rw [loop_cons]
    obtain ⟨l, hl⟩ : ∃ l, (itemRun e env w item err failures).1.2 = failures ++ l :=
      recoverItem_failures
    obtain ⟨l', hl'⟩ := @ih (itemRun e env w item err failures).1.1
      (itemRun e env w item err failures).1.2 (itemRun e env w item err failures).2
    exact ⟨l ++ l', by rw [hl', hl, append_assoc]⟩

theorem loop_view (items : List Transaction) (h : id ∉ items.map (·.id)) :
    (loopRun e env w items err failures).2.view id = w.view id := by
  induction items generalizing err failures w with
  | nil => rfl
  | cons item rest ih =>
    simp only [map_cons, mem_cons, not_or] at h
    rw [loop_cons]
    refine (ih h.2).trans ?_
    exact itemRun_view h.1

/-- the list as `Recover` reads it, and a log that has nothing about it yet -/
structure LoopStart (w : World) (items : List Transaction) : Prop where
  nodup : (items.map (·.id)).Nodup
  row : ∀ item ∈ items, w.row item.id = some item
  unfinished : ∀ item ∈ items, item.state.unfinished = true
  quiet : ∀ item ∈ items, (w.view item.id).events = []

theorem LoopStart.notMem (h : LoopStart w (item :: rest)) : item.id ∉ rest.map (·.id) := by
  have := h.nodup
  rw [map_cons, nodup_cons] at this
  exact this.1

theorem LoopStart.ne (h : LoopStart w (item :: rest)) {x : Transaction} (hx : x ∈ rest) :
    x.id ≠ item.id := by
  intro heq
  exact h.notMem (heq ▸ mem_map_of_mem hx)

theorem LoopStart.tail (h : LoopStart w (item :: rest)) :
    LoopStart (itemRun e env w item err failures).2 rest := by
  have hview : ∀ x ∈ rest,
      (itemRun e env w item err failures).2.view x.id = w.view x.id :=
    fun x hx => itemRun_view (h.ne hx)
  refine ⟨?_, fun x hx => ?_, fun x hx => h.unfinished x (by simp [hx]), fun x hx => ?_⟩
  · have := h.nodup
    rw [map_cons, nodup_cons] at this
    exact this.2
  · rw [← view_row, hview x hx]
    exact h.row x (by simp [hx])
  · rw [hview x hx]
    exact h.quiet x (by simp [hx])

theorem errorsReported_of_open {v : View} {s : TxState}
    (hphase : v.phase = some .confirming) (hstate : v.state = some s) (hs : s.unfinished = true)
    (hf : (Event.timer id .disarm false ∈ v.events ∨
      Event.backend id .commit false ∈ v.events) → failures ≠ []) :
    ErrorsReported id failures v := by
  refine ⟨?_, fun hev => ⟨hf hev, hphase, by rw [hstate]; exact hs⟩⟩
  rintro (h | h)
  · rw [hphase] at h
    cases h
  rw [hstate] at h
  cases h
  exact absurd hs (by decide)

theorem view_confirmCalls (manifest : Manifest) (directory : String) :
    ({ w with log := confirmCalls env item manifest directory ++ w.log } : World).view item.id =
      { w.view item.id with
        events := confirmCalls env item manifest directory ++ (w.view item.id).events } := by
  unfold confirmCalls
  split <;> simp [World.view, World.row, Event.id]

def finishRun (e : Engine) (env : Op → Fate) (w : World) (item : Transaction)
    (manifest : Manifest) (directory : String) (err : Option ApplyError) :
    Option ApplyError × World :=
  runWith (exec e) env (Engine.finishConfirming item err)
    { w with log := confirmCalls env item manifest directory ++ w.log }

theorem recoverItem_confirming (h : e.seen env w item = some (manifest, .confirming, directory))
    (err : Option ApplyError) (failures : List ApplyError) :
    ∃ l, itemRun e env w item err failures =
        (((finishRun e env w item manifest directory err).1, failures ++ l),
          (finishRun e env w item manifest directory err).2) ∧
      ((finishRun e env w item manifest directory err).1 ≠ none → l ≠ []) := by
  obtain ⟨-, hid, -⟩ := phase_of_seen h
  rw [recoverItem_of_seen h]
  unfold recoverSwitch
  rw [runWith_bind, runWith_recoverConfirming hid]
  unfold finishRun
  generalize runWith (exec e) env (finishConfirming item err)
    { w with log := confirmCalls env item manifest directory ++ w.log } = r
  obtain ⟨err', w'⟩ := r
  cases err' with
  | none => exact ⟨[], by simp, by simp⟩
  | some failure => exact ⟨[_], rfl, by simp⟩

theorem finishRun_stale (manifest : Manifest) (directory : String) (stale : ApplyError) :
    finishRun e env w item manifest directory (some stale) =
      (some stale, { w with log := confirmCalls env item manifest directory ++ w.log }) := rfl

theorem recoverItem_stale (stale : ApplyError) (failures : List ApplyError) :
    (itemRun e env w item (some stale) failures).1.1 = some stale := by
  cases h : e.seen env w item with
  | none =>
    obtain ⟨failure, hr⟩ := recoverItem_of_unseen h (some stale) failures
    rw [hr]
  | some x =>
  obtain ⟨manifest, phase, directory⟩ := x
  by_cases hp : phase = .confirming
  · subst hp
    obtain ⟨l, hr, -⟩ := recoverItem_confirming h (some stale) failures
    rw [hr, finishRun_stale]
  rw [recoverItem_of_seen h]
  exact ((ends_recoverSwitch manifest phase directory (some stale) failures).runWith
    (exec e) env w).1 hp

theorem recoverItem_stale_view (hc : w.phase item.id = some .confirming) (stale : ApplyError)
    (failures : List ApplyError) :
    let v := (itemRun e env w item (some stale) failures).2.view item.id
    v.phase = some .confirming ∧ v.state = w.state item.id := by
  cases h : e.seen env w item with
  | none =>
    obtain ⟨failure, hr⟩ := recoverItem_of_unseen h (some stale) failures
    simp only [hr]
    exact ⟨hc, rfl⟩
  | some x =>
  obtain ⟨manifest, phase, directory⟩ := x
  obtain ⟨hp, -, -⟩ := phase_of_seen h
  obtain rfl : phase = .confirming := some.inj (hp.symm.trans hc)
  obtain ⟨l, hr, -⟩ := recoverItem_confirming h (some stale) failures
  simp only [hr, finishRun_stale]
  exact ⟨hc, rfl⟩

/-- once the error variable is set, nothing is confirmed any more -/
theorem loop_stale (h : LoopStart w items) (stale : ApplyError) (hf : failures ≠ []) :
    ∀ x ∈ items, w.phase x.id = some .confirming → ErrorsReported x.id
        (loopRun e env w items (some stale) failures).1
        ((loopRun e env w items (some stale) failures).2.view x.id) := by
  induction items generalizing failures w with
  | nil => simp
  | cons item rest ih =>
    rw [loop_cons, recoverItem_stale]
    obtain ⟨l, hl⟩ : ∃ l, (itemRun e env w item (some stale) failures).1.2 = failures ++ l :=
      recoverItem_failures
    have hf' : (itemRun e env w item (some stale) failures).1.2 ≠ [] := by
      rw [hl]
      exact fun h0 => hf (List.append_eq_nil_iff.1 h0).1
    intro x hx hc
    rcases List.mem_cons.1 hx with rfl | hx
    · have hstay : ((itemRun e env w x (some stale) failures).2.view x.id).phase =
          some .confirming ∧
          ((itemRun e env w x (some stale) failures).2.view x.id).state = w.state x.id :=
        recoverItem_stale_view hc stale failures
      obtain ⟨hphase, hstate⟩ := hstay
      rw [loop_view rest h.notMem]
      obtain ⟨l', hl'⟩ : ∃ l, (loopRun e env (itemRun e env w x (some stale) failures).2 rest
          (some stale) (itemRun e env w x (some stale) failures).1.2).1 =
            (itemRun e env w x (some stale) failures).1.2 ++ l :=
        loop_failures rest
      refine errorsReported_of_open hphase
        (hstate.trans (congrArg (Option.map _) (h.row x (by simp)))) (h.unfinished x (by simp))
        fun _ => ?_
      rw [hl']
      exact fun h0 => hf' (List.append_eq_nil_iff.1 h0).1
    · refine ih h.tail hf' x hx ?_
      rw [← view_phase, itemRun_view (h.ne hx)]
      exact hc

/-! ## when the errors are reported -/

theorem seen_congr {w' : World} (h : w'.dirs item.id = w.dirs item.id) :
    e.seen env w' item = e.seen env w item := by
  have hl : w'.load e item.id = w.load e item.id := by
    unfold World.load World.phase
    rw [h]
  unfold seen
  rw [hl]

theorem errorsKept_congr {w' : World} (h : ∀ x ∈ items, w'.dirs x.id = w.dirs x.id) :
    e.errorsKept env w' items ↔ e.errorsKept env w items := by
  induction items with
  | nil => rfl
  | cons item rest ih =>
    have ih' := ih fun x hx => h x (by simp [hx])
    unfold errorsKept
    rw [seen_congr (h item (by simp))]
    split
    · split
      · exact imp_congr_right fun _ => imp_congr_right fun _ => ih'
      · rfl
    · exact ih'

theorem mem_confirmCalls (env : Op → Fate) (item : Transaction) (manifest : Manifest)
    (directory : String) :
    ((Event.timer item.id .disarm true ∈ confirmCalls env item manifest directory ∧
        Event.backend item.id .commit true ∈ confirmCalls env item manifest directory) ↔
      env (.disarm item.id) = .ok ∧ env (.backend .commit manifest directory) = .ok) ∧
    ((Event.timer item.id .disarm false ∈ confirmCalls env item manifest directory ∨
        Event.backend item.id .commit false ∈ confirmCalls env item manifest directory) ↔
      ¬ (env (.disarm item.id) = .ok ∧ env (.backend .commit manifest directory) = .ok)) := by
  unfold confirmCalls
  split <;> simp_all

theorem finishRun_none (h : e.seen env w item = some (manifest, .confirming, directory))
    (hrow : w.row item.id = some item) (hquiet : (w.view item.id).events = []) :
    let r := finishRun e env w item manifest directory none
    let events := (r.2.view item.id).events
    (r.1 = none ↔ env (.setPhase item.id .confirmed) = .ok ∧
        env (.transition item.id [item.state] .confirmed "") = .ok) ∧
      (env (.setPhase item.id .confirmed) = .fail →
        r.2.phase item.id = some .confirming ∧ r.2.state item.id = some item.state) ∧
      (env (.setPhase item.id .confirmed) ≠ .fail → r.2.phase item.id = some .confirmed) ∧
      ((Event.timer item.id .disarm true ∈ events ∧ Event.backend item.id .commit true ∈ events) ↔
        env (.disarm item.id) = .ok ∧ env (.backend .commit manifest directory) = .ok) ∧
      ((Event.timer item.id .disarm false ∈ events ∨
          Event.backend item.id .commit false ∈ events) ↔
        ¬ (env (.disarm item.id) = .ok ∧ env (.backend .commit manifest directory) = .ok)) := by
  intro r events
  obtain ⟨hphase, -, hdir⟩ := phase_of_seen h
  obtain ⟨d, hd, -⟩ := Option.bind_eq_some_iff.1 (show (w.dirs item.id).bind _ = _ from hphase)
  obtain ⟨hnone, hfail, hwritten, hev⟩ := finishConfirming_none env hdir
    (show ({ w with log := confirmCalls env item manifest directory ++ w.log } : World).dirs
      item.id = some d from hd) hrow
  have hmem : ∀ ev : Event, ev.isCall = true →
      (ev ∈ events ↔ ev ∈ confirmCalls env item manifest directory) := by
    intro ev hcall
    refine (hev ev hcall).trans ?_
    rw [view_confirmCalls, hquiet, List.append_nil]
  obtain ⟨hboth, hone⟩ := mem_confirmCalls env item manifest directory
  refine ⟨hnone, fun hS => ?_, hwritten, ?_, ?_⟩
  · have hw : r.2 = _ := hfail hS
    rw [hw]
    exact ⟨hphase, congrArg (Option.map _) hrow⟩
  · rw [hmem _ rfl, hmem _ rfl]
    exact hboth
  · rw [hmem _ rfl, hmem _ rfl]
    exact hone

def LoopReports (w : World) (items : List Transaction) (r : List ApplyError × World) : Prop :=
  ∀ x ∈ items, w.phase x.id = some .confirming → ErrorsReported x.id r.1 (r.2.view x.id)

theorem loopReports_cons (h : LoopStart w (item :: rest)) (r : List ApplyError × World) :
    LoopReports w (item :: rest) r ↔
      (w.phase item.id = some .confirming → ErrorsReported item.id r.1 (r.2.view item.id)) ∧
        LoopReports (itemRun e env w item err failures).2 rest r := by
  unfold LoopReports
  rw [forall_mem_cons]
  refine and_congr_right fun _ => forall₂_congr fun x hx => ?_
  rw [← view_phase, ← view_phase, itemRun_view (h.ne hx)]

theorem loopReports_confirming (h : LoopStart w (item :: rest))
    (hseen : e.seen env w item = some (manifest, .confirming, directory))
    (failures : List ApplyError)
    (ih : ∀ failures, LoopReports (finishRun e env w item manifest directory none).2 rest
        (loopRun e env (finishRun e env w item manifest directory none).2 rest none failures) ↔
      e.errorsKept env w rest) :
    LoopReports w (item :: rest) (loopRun e env w (item :: rest) none failures) ↔
      e.errorsKept env w (item :: rest) := by
  have hopen := h.unfinished item (by simp)
  obtain ⟨l, hr, hl⟩ := recoverItem_confirming hseen none failures
  obtain ⟨hphase, -, -⟩ := phase_of_seen hseen
  obtain ⟨hnone, hfail, hwritten, hboth, hone⟩ :=
    finishRun_none hseen (h.row item (by simp)) (h.quiet item (by simp))
  have htail : LoopStart (itemRun e env w item none failures).2 rest := h.tail
  rw [loopReports_cons h, loop_cons, loop_view rest h.notMem]
  rw [hr] at htail ⊢
  simp only [errorsKept, hseen]
  generalize finishRun e env w item manifest directory none = r at *
  obtain ⟨err, w'⟩ := r
  have hrest : err ≠ none → LoopReports w' rest (loopRun e env w' rest err (failures ++ l)) := by
    intro herr
    obtain ⟨stale, rfl⟩ := ne_none_iff_exists'.1 herr
    refine loop_stale htail stale fun h0 => hl herr (append_eq_nil_iff.1 h0).2
  by_cases hDC : env (.disarm item.id) = .ok ∧ env (.backend .commit manifest directory) = .ok
  · rw [if_pos hDC]
    have hown : ErrorsReported item.id (loopRun e env w' rest err (failures ++ l)).1
        (w'.view item.id) :=
      ⟨fun _ => hboth.2 hDC, fun hev => absurd hDC (hone.1 hev)⟩
    by_cases herr : err = none
    · subst herr
      obtain ⟨hS, hT⟩ := hnone.1 rfl
      refine ⟨fun hk _ _ => (ih _).1 hk.2, fun hk => ⟨fun _ => hown, (ih _).2 (hk hS hT)⟩⟩
    · refine ⟨fun _ hS hT => absurd (hnone.2 ⟨hS, hT⟩) herr, fun _ => ⟨fun _ => hown, hrest herr⟩⟩
  rw [if_neg hDC]
  refine ⟨fun hk => ?_, fun hS => ?_⟩
  · by_contra hS
    exact hDC (hboth.1 ((hk.1 hphase).1 (Or.inl (hwritten hS))))
  have herr : err ≠ none := by
    intro h0
    rw [(hnone.1 h0).1] at hS
    cases hS
  obtain ⟨hphase', hstate'⟩ := hfail hS
  refine ⟨fun _ => errorsReported_of_open hphase' hstate' hopen fun _ => ?_, hrest herr⟩
  obtain ⟨l', hl'⟩ : ∃ m, (loopRun e env w' rest err (failures ++ l)).1 = failures ++ l ++ m :=
    loop_failures rest
  rw [hl']
  intro h0
  exact hl herr (append_eq_nil_iff.1 (append_eq_nil_iff.1 h0).1).2

/-- **The loop.**  From a start with no error pending, every confirmed transaction was disarmed and
committed and every failed call is reported, exactly under `errorsKept`. -/
theorem loopReports_iff (h : LoopStart w items) (failures : List ApplyError) :
    LoopReports w items (loopRun e env w items none failures) ↔ e.errorsKept env w items := by
  induction items generalizing failures w with
  | nil => simp [LoopReports, Engine.errorsKept]
  | cons item rest ih =>
    have htail : LoopStart (itemRun e env w item none failures).2 rest := h.tail
    have hkept : e.errorsKept env (itemRun e env w item none failures).2 rest ↔
        e.errorsKept env w rest :=
      errorsKept_congr fun x hx => by
        rw [← view_dir, itemRun_view (h.ne hx), view_dir]
    cases hseen : e.seen env w item with
    | none =>
      obtain ⟨failure, hr⟩ := recoverItem_of_unseen hseen none failures
      rw [loopReports_cons h, loop_cons, loop_view rest h.notMem]
      rw [hr] at htail hkept ⊢
      simp only [Engine.errorsKept, hseen, ih htail]
      refine and_iff_right fun hc => ?_
      refine errorsReported_of_open hc (congrArg (Option.map _) (h.row item (by simp)))
        (h.unfinished item (by simp)) fun hev => ?_
      rw [h.quiet item (by simp)] at hev
      simp at hev
    | some x =>
    obtain ⟨manifest, phase, directory⟩ := x
    by_cases hp : phase = .confirming
    · subst hp
      obtain ⟨l, hr, -⟩ := recoverItem_confirming hseen none failures
      rw [hr] at htail hkept
      exact loopReports_confirming h hseen failures fun failures' =>
        (ih htail failures').trans hkept
    have hphase : w.phase item.id = some phase := (phase_of_seen hseen).1
    have herr : (itemRun e env w item none failures).1.1 = none := by
      rw [recoverItem_of_seen hseen]
      exact ((ends_recoverSwitch manifest phase directory none failures).runWith
        (exec e) env w).1 hp
    rw [loopReports_cons h, loop_cons, herr, ih htail, hkept]
    have hkeep : e.errorsKept env w (item :: rest) = e.errorsKept env w rest := by
      simp only [Engine.errorsKept, hseen]
      cases phase with
      | confirming => exact absurd rfl hp
      | _ => rfl
    rw [hkeep]
    refine and_iff_right fun hc => ?_
    exact absurd (Option.some.inj (hphase.symm.trans hc)) hp

theorem loopStart_listUnfinished : LoopStart { w with log := [] } (w.listUnfinished e.lib) := by
  refine ⟨nodup_listUnfinished w, fun item hi => ?_, fun item hi => ?_, fun _ _ => rfl⟩
  · exact Table.mem_iff_find.mp (mem_of_mem_filter (mem_listUnfinished.1 hi))
  · exact (mem_filter.1 (mem_listUnfinished.1 hi)).2

end

theorem reports_of_unchanged {e : Engine} {env : Op → Fate} {w : World}
    (h : e.recoverCall env w = (failures, { w with log := [] })) :
    RecoverReports e env w := by
  intro item hi hc
  obtain ⟨hmem, hopen⟩ := List.mem_filter.1 hi
  rw [h]
  refine errorsReported_of_open hc (congrArg (Option.map _) (Table.mem_iff_find.mp hmem)) hopen
    fun hev => ?_
  simp [World.view] at hev

/-- **What `Recover` does with the errors of `Disarm` and `Commit`**, over every list of unfinished
transactions and every combination of failures. -/
theorem recoverReports_iff (e : Engine) (env : Op → Fate) (w : World) :
    RecoverReports e env w ↔
      (e.validate = .ok () → env .listUnfinished = .ok →
        e.errorsKept env w (w.listUnfinished e.lib)) := by
  cases hv : e.validate with
  | error err =>
    have hcall : e.recoverCall env w = ([err], { w with log := [] }) := by
      unfold recoverCall recover
      rw [hv]
      rfl
    exact iff_of_true (reports_of_unchanged hcall) nofun
  | ok u =>
  by_cases hlist : env .listUnfinished = .ok
  · have hloop : e.recoverCall env w =
        loopRun e env { w with log := [] } (w.listUnfinished e.lib) none [] := by
      unfold recoverCall recover
      rw [hv]
      simp only [runWith_call, exec, hlist, Fate.ok_deliver]
      rfl
    have hreports : RecoverReports e env w ↔ LoopReports { w with log := [] }
        (w.listUnfinished e.lib) (e.recoverCall env w) := by
      unfold RecoverReports LoopReports
      simp only [mem_listUnfinished]
      rfl
    rw [hreports, hloop, loopReports_iff loopStart_listUnfinished]
    have hkept : e.errorsKept env { w with log := [] } (w.listUnfinished e.lib) ↔
        e.errorsKept env w (w.listUnfinished e.lib) := errorsKept_congr fun _ _ => rfl
    rw [hkept]
    exact ⟨fun h _ _ => h, fun h => h rfl hlist⟩
  have hcall : ∃ err, e.recoverCall env w = ([err], { w with log := [] }) := by
    unfold recoverCall recover
    rw [hv]
    simp only [runWith_call, exec]
    cases h : env .listUnfinished with
    | ok => exact absurd h hlist
    | fail => exact ⟨_, rfl⟩
    | late => exact ⟨_, rfl⟩
  obtain ⟨err, hcall⟩ := hcall
  exact iff_of_true (reports_of_unchanged hcall) fun _ h => absurd h hlist

def sampleConfirming : World :=
  sampleRun
    [(.stage sampleCandidate, List.replicate 18 .ok), (.apply sampleID, List.replicate 6 .ok),
      (.confirm sampleID sampleEvidence, List.replicate 5 .ok)]

def commitFails : Op → Fate
  | .backend .commit _ _ => .fail
  | _ => .ok

/-- the failed commit is dropped: `Recover` returns nil and the transaction is `CONFIRMED` -/
theorem recover_drops_commit_error :
    ¬ RecoverReports sampleEngine commitFails sampleConfirming := by
  unfold RecoverReports ErrorsReported
  decide +kernel

end GatewayVpn.NetworkApply
