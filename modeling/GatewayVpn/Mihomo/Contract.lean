import GatewayVpn.Mihomo.Transaction
import GatewayVpn.Durable.Logic

/-!
# Mihomo: what the callers of the controller rely on

`Apply` and `Restore` under any fates of their calls, and `Apply` when no call fails.
-/

namespace GatewayVpn.Mihomo

open Durable Option

variable {A : Fate → Prop} {c : Controller} {g : String} {b : Bundle} {w v : World}

/-! ## frames -/

def Op.stores : Op → Bool
  | .writeCandidate _ _ => true
  | _ => false

def Op.steers : Op → Bool
  | .activate _ => true
  | .failClosed => true
  | _ => false

theorem mark_generations (w : World) (m : Marker) (content : Option String) :
    (w.mark m content).generations = w.generations := by
  cases m <;> rfl

theorem mark_running (w : World) (m : Marker) (content : Option String) :
    (w.mark m content).running = w.running := by
  cases m <;> rfl

theorem exec_generations {o : Op} (ho : o.stores = false) (f : Fate) (w : World) :
    (exec o f w).2.generations = w.generations := by
  cases o with
  | writeCandidate => cases ho
  | writeMarker m generation =>
    have hwrite : (writeMarker m generation w).2.generations = w.generations := by
      unfold writeMarker
      split
      · exact mark_generations w m _
      · rfl
    exact Fate.deliver_keeps (I := fun v : World => v.generations = w.generations) rfl hwrite
  | removeMarker m => cases f <;> first | rfl | exact mark_generations w m none
  | _ => cases f <;> rfl

theorem exec_running {o : Op} (ho : o.steers = false) (f : Fate) (w : World) :
    (exec o f w).2.running = w.running := by
  cases o with
  | activate => cases ho
  | failClosed => cases ho
  | writeCandidate generation b =>
    have hwrite : (writeCandidate generation b w).2.running = w.running := by
      rcases writeCandidate_cases generation b w with ⟨_, h⟩ | ⟨_, h⟩ <;> rw [h]
    exact Fate.deliver_keeps (I := fun v : World => v.running = w.running) rfl hwrite
  | writeMarker m generation =>
    have hwrite : (writeMarker m generation w).2.running = w.running := by
      unfold writeMarker
      split
      · exact mark_running w m _
      · rfl
    exact Fate.deliver_keeps (I := fun v : World => v.running = w.running) rfl hwrite
  | removeMarker m => cases f <;> first | rfl | exact mark_running w m none
  | _ => cases f <;> rfl

variable {f : Fate}

theorem running_kept {o : Op} {r : o.Ret} (h : exec o f w = (r, v))
    (ho : o.steers = false) : v.running = w.running := by
  have hsame := exec_running ho f w
  rwa [h] at hsame

abbrev Storeless {α : Type} (p : Action α) : Prop := p.All (fun _ _ => True) fun o => o.stores = false

theorem wp_storeless {α : Type} {p : Action α} (hp : Storeless p) (w : World) :
    wp exec A (fun v => v.generations = w.generations) p
      (fun _ v => v.generations = w.generations) w := by
  have hstep : ∀ (o : Op) (f : Fate) (s : World), o.stores = false → A f →
      s.generations = w.generations → (exec o f s).2.generations = w.generations :=
    fun o f s ho _ hs => (exec_generations ho f s).trans hs
  exact wp_of_all (fun _ _ _ => trivial) hstep hp rfl

/-! ## the rollback -/

theorem joinErrors_cause (cause : String) (errs : List (Option String)) :
    joinErrors (some cause :: errs) ≠ none := by
  simp [joinErrors]

theorem storeless_blockAndClear (result : ApplyResult) (blocked : String → Option String)
    (cleared : Option String → Option String) :
    Storeless (blockAndClear result blocked cleared) := by
  exact ⟨rfl, byAnswer (fun _ => trivial) fun _ _ => ⟨rfl, fun _ _ => trivial⟩⟩

section
variable (c : Controller)

section
variable (result : ApplyResult)

theorem storeless_failClosedRollback (cause err : String) :
    Storeless (failClosedRollback c result cause err) := by
  unfold failClosedRollback
  split
  · exact storeless_blockAndClear _ _ _
  · trivial

theorem storeless_rollback (cause : String) :
    Storeless (rollback c result cause) := by
  unfold rollback
  split
  · unfold rollbackToNone
    split
    · exact storeless_blockAndClear _ _ _
    · trivial
  refine ⟨rfl, byAnswer (fun _ => storeless_failClosedRollback _ _ _ _) fun _ _ => ?_⟩
  refine ⟨rfl, byAnswer (fun _ => storeless_failClosedRollback _ _ _ _) fun _ _ => ?_⟩
  refine ⟨rfl, byAnswer (fun _ => trivial) fun _ _ => ?_⟩
  exact ⟨rfl, byAnswer (fun _ => trivial) fun _ _ => trivial⟩

theorem blockAndClear_ends {blocked : String → Option String}
    {cleared : Option String → Option String} (hblocked : ∀ err, blocked err ≠ none)
    (hcleared : ∀ err, cleared err ≠ none) :
    (blockAndClear result blocked cleared).Ends fun reply => reply.err ≠ none := by
  exact eitherAnswer hblocked fun _ r => hcleared (fails r)

theorem failClosedRollback_ends (cause err : String) :
    (failClosedRollback c result cause err).Ends fun reply => reply.err ≠ none := by
  unfold failClosedRollback
  split
  · exact blockAndClear_ends _ (fun _ => joinErrors_cause _ _) fun _ => joinErrors_cause _ _
  · exact joinErrors_cause _ _

theorem rollback_ends (cause : String) :
    (rollback c result cause).Ends fun reply => reply.err ≠ none := by
  unfold rollback
  split
  · unfold rollbackToNone
    split
    · exact blockAndClear_ends _ (fun _ => joinErrors_cause _ _) fun _ => joinErrors_cause _ _
    · exact some_ne_none _
  refine eitherAnswer (fun _ => failClosedRollback_ends _ _ _ _) fun _ => ?_
  refine eitherAnswer (fun _ => failClosedRollback_ends _ _ _ _) fun _ => ?_
  refine eitherAnswer (fun _ => some_ne_none _) fun _ => ?_
  exact eitherAnswer (fun _ => some_ne_none _) fun _ => some_ne_none _

end

end

theorem reported {text : String} {P : Prop} : some text = none → P := fun h => by cases h

theorem wp_reports {p : Action Reply} {Q : Reply → World → Prop}
    (hp : p.Ends fun reply => reply.err ≠ none) (w : World) :
    wp exec A (fun _ => True) p (fun reply v => reply.err = none → Q reply v) w :=
  wp_post (fun _ _ herr hnone => absurd hnone herr) (wp_of_ends hp w)

/-! ## Apply -/

theorem storeless_activateCandidate (c : Controller) (result : ApplyResult) :
    Storeless (activateCandidate c result) := by
  refine ⟨rfl, byAnswer (fun _ => trivial) fun _ _ => ?_⟩
  refine ⟨rfl, byAnswer (fun _ => storeless_rollback _ _ _) fun _ _ => ?_⟩
  refine ⟨rfl, byAnswer (fun _ => storeless_rollback _ _ _) fun _ _ => ?_⟩
  refine ⟨rfl, byAnswer (fun _ => storeless_rollback _ _ _) fun _ _ => ?_⟩
  refine ⟨rfl, byAnswer (fun _ => storeless_rollback _ _ _) fun _ _ => ?_⟩
  exact ⟨rfl, byAnswer (fun _ => trivial) fun _ _ => trivial⟩

variable {result : ApplyResult}

theorem wp_recordGeneration (hrunning : w.running = some result.generation) :
    wp exec A (fun _ => True) (recordGeneration c result) (fun reply v => reply.err = none →
      reply.result = result ∧ v.running = some result.generation) w := by
  refine wp_step trivial fun f _ => eitherAnswer (fun _ v _ => wp_reports (rollback_ends _ _ _) v)
    fun _ v1 h1 => ?_
  refine wp_step trivial fun f _ => eitherAnswer (fun _ v _ => wp_reports (rollback_ends _ _ _) v)
    fun _ v2 h2 => ?_
  refine wp_step trivial fun f _ => eitherAnswer (fun _ _ _ => reported) fun _ v3 h3 => ?_
  refine fun _ => ⟨rfl, ?_⟩
  rw [running_kept h3 rfl, running_kept h2 rfl, running_kept h1 rfl, hrunning]

variable {u : Unit}

theorem exec_activate (h : exec (.activate g) f w = (.ok u, v)) : v.running = some g := by
  cases f with
  | ok =>
    have hv : v = { w with running := some g } := (congrArg Prod.snd h).symm
    rw [hv]
  | fail => cases h
  | late => cases h

theorem wp_activateCandidate :
    wp exec A (fun _ => True) (activateCandidate c result) (fun reply v => reply.err = none →
      reply.result = result ∧ v.running = some result.generation) w := by
  refine wp_step trivial fun f _ => eitherAnswer (fun _ _ _ => reported) fun _ v1 h1 => ?_
  refine wp_step trivial fun f _ => eitherAnswer (fun _ v _ => wp_reports (rollback_ends _ _ _) v)
    fun _ v2 h2 => ?_
  refine wp_step trivial fun f _ => eitherAnswer (fun _ v _ => wp_reports (rollback_ends _ _ _) v)
    fun _ v3 h3 => ?_
  exact wp_recordGeneration ((running_kept h3 rfl).trans (exec_activate h2))

/-- what an `Apply` leaves behind, whichever of its calls fail -/
structure Applied (w : World) (g : String) (b : Bundle) (reply : Reply) (v : World) : Prop where
  stored : v.generations = w.generations ∨
    w.has g = false ∧ v.generations = w.generations ++ [(g, b)]
  success : reply.err = none → w.has g = false ∧ v.generations = w.generations ++ [(g, b)] ∧
    v.running = some g ∧ reply.result.previousGeneration = w.lkg.getD ""

theorem Applied.refuse {reply : Reply} (herr : reply.err ≠ none)
    (hsame : v.generations = w.generations) : Applied w g b reply v :=
  ⟨Or.inl hsame, fun hnone => absurd hnone herr⟩

theorem Applied.fail {reply : Reply} (herr : reply.err ≠ none) (hnew : w.has g = false)
    (hstored : v.generations = w.generations ++ [(g, b)]) : Applied w g b reply v :=
  ⟨Or.inr ⟨hnew, hstored⟩, fun hnone => absurd hnone herr⟩

theorem exec_writeCandidate {r : Except String Unit}
    (h : exec (.writeCandidate g b) f w = (r, v)) : (v = w ∧ ∃ err, r = .error err) ∨
      w.has g = false ∧ v = { w with generations := w.generations ++ [(g, b)] } := by
  change f.deliver refused (writeCandidate g b w) w = (r, v) at h
  rcases writeCandidate_cases g b w with ⟨hnew, hwrite⟩ | ⟨err, hwrite⟩
  · rw [hwrite] at h
    cases f <;> cases h
    · exact Or.inr ⟨hnew, rfl⟩
    · exact Or.inl ⟨rfl, _, rfl⟩
    · exact Or.inr ⟨hnew, rfl⟩
  · rw [hwrite] at h
    cases f <;> cases h <;> exact Or.inl ⟨rfl, _, rfl⟩

theorem exec_readMarker {m : Marker} {content : Option String}
    (h : exec (.readMarker m) f w = (.ok content, v)) : v = w ∧ content = w.marker m := by
  cases f with
  | ok =>
    obtain ⟨hread, rfl⟩ := Prod.mk.inj h
    unfold readMarker at hread
    split at hread
    · next hm =>
      cases hread
      exact ⟨rfl, hm.symm⟩
    next hm =>
    split at hread
    · cases hread
      exact ⟨rfl, hm.symm⟩
    · cases hread
  | fail => cases h
  | late => cases h

/-- **`Apply`, whichever of its calls fail.** -/
theorem wp_apply (c : Controller) (g : String) (b : Bundle) (w : World) :
    wp exec A (fun _ => True) (apply c g b) (Applied w g b) w := by
  unfold apply
  split
  · exact Applied.refuse (some_ne_none _) rfl
  refine wp_step trivial fun f _ r v1 h1 => ?_
  obtain rfl : v1 = w := by
    have hstate := congrArg Prod.snd h1
    cases f <;> exact hstate.symm
  rcases r with err | _
  · exact Applied.refuse (some_ne_none _) rfl
  refine wp_step trivial fun f _ r v2 h2 => ?_
  rcases exec_writeCandidate h2 with ⟨rfl, err, rfl⟩ | ⟨hnew, rfl⟩
  · exact Applied.refuse (some_ne_none _) rfl
  rcases r with err | _
  · exact Applied.fail (some_ne_none _) hnew rfl
  refine wp_step trivial fun f _ r v3 h3 => ?_
  obtain rfl : v3 = _ := by
    have hstate := congrArg Prod.snd h3
    cases f <;> exact hstate.symm
  rcases r with err | _
  · exact Applied.fail (some_ne_none _) hnew rfl
  refine wp_step trivial fun f _ r v4 h4 => ?_
  have hstored : v4.generations = v1.generations ++ [(g, b)] := by
    have hsame := congrArg (fun p => p.2.generations) h4
    rw [exec_generations rfl] at hsame
    exact hsame.symm
  rcases r with err | previous
  · exact Applied.fail (some_ne_none _) hnew hstored
  obtain ⟨rfl, hprevious⟩ := exec_readMarker h4
  -- the pending marker, the activation and the records add nothing to the generations
  refine wp_mono (fun _ _ => trivial) ?_ (wp_and (wp_storeless (storeless_activateCandidate c
    { generation := g, previousGeneration := previous.getD "" }) _) wp_activateCandidate)
  rintro reply v ⟨hsame, hsuccess⟩
  refine ⟨Or.inr ⟨hnew, hsame⟩, fun hnone => ?_⟩
  obtain ⟨hresult, hrunning⟩ := hsuccess hnone
  refine ⟨hnew, hsame, hrunning, ?_⟩
  rw [hresult, hprevious]
  rfl

/-! ## Restore -/

/-- what a `Restore` leaves behind, whichever of its calls fail -/
structure Restored (w : World) (g : String) (reply : Reply) (v : World) : Prop where
  stored : v.generations = w.generations
  success : reply.err = none →
    (g = "" ∧ v.running = none) ∨ (g ≠ "" ∧ w.has g = true ∧ v.running = some g)

section
variable (c : Controller)

theorem storeless_restore (g : String) : Storeless (restore c g) := by
  unfold restore
  split
  · trivial
  split
  · trivial
  refine ⟨rfl, byAnswer (fun _ => trivial) fun _ _ => ?_⟩
  split
  · unfold restoreNone
    split
    · exact ⟨rfl, byAnswer (fun _ => trivial)
        fun _ _ => ⟨rfl, fun _ _ => ⟨rfl, fun _ _ => ⟨rfl, fun _ _ => trivial⟩⟩⟩⟩
    · trivial
  refine ⟨rfl, byAnswer (fun _ => trivial) fun _ _ => ?_⟩
  refine ⟨rfl, byAnswer (fun _ => trivial) fun _ _ => ?_⟩
  refine ⟨rfl, byAnswer (fun err => ?_) fun _ _ => ?_⟩
  · unfold blockRestored
    split
    · exact ⟨rfl, fun _ _ => trivial⟩
    · trivial
  refine ⟨rfl, byAnswer (fun _ => trivial) fun _ _ => ?_⟩
  refine ⟨rfl, byAnswer (fun _ => trivial) fun _ _ => ?_⟩
  exact ⟨rfl, fun _ _ => trivial⟩

theorem blockRestored_ends (err : String) :
    (blockRestored c err).Ends fun reply => reply.err ≠ none := by
  unfold blockRestored
  split
  · exact fun r => joinErrors_cause _ _
  · exact some_ne_none _

theorem exec_failClosed (h : exec .failClosed f w = (.ok u, v)) : v.running = none := by
  cases f with
  | ok =>
    have hv : v = { w with running := none } := (congrArg Prod.snd h).symm
    rw [hv]
  | fail => cases h
  | late => cases h

theorem wp_restoreNone (w : World) : wp exec A (fun _ => True) (restoreNone c)
      (fun reply v => reply.err = none → v.running = none) w := by
  unfold restoreNone
  split
  · refine wp_step trivial fun f _ => eitherAnswer (fun _ _ _ => reported) fun _ v1 h1 => ?_
    refine wp_step trivial fun f _ r v2 h2 => wp_step trivial fun f _ r v3 h3 =>
      wp_step trivial fun f _ r v4 h4 => ?_
    intro _
    rw [running_kept h4 rfl, running_kept h3 rfl, running_kept h2 rfl, exec_failClosed h1]
  · exact reported

theorem exec_statGeneration (h : exec (.statGeneration g) f w = (.ok u, v)) : w.has g = true := by
  cases f with
  | ok =>
    have hstat : statGeneration g w = .ok u := congrArg Prod.fst h
    unfold statGeneration at hstat
    split at hstat
    · next hhas => exact hhas
    · cases hstat
  | fail => cases h
  | late => cases h

theorem wp_restoreGeneration (g : String) (w : World) :
    wp exec A (fun _ => True) (restoreGeneration c g)
      (fun reply v => reply.err = none → w.has g = true ∧ v.running = some g) w := by
  refine wp_step trivial fun f _ => eitherAnswer (fun _ _ _ => reported) fun _ v1 h1 => ?_
  refine wp_step trivial fun f _ => eitherAnswer (fun _ _ _ => reported) fun _ v2 h2 => ?_
  refine wp_step trivial fun f _ => eitherAnswer (fun _ v _ => wp_reports (blockRestored_ends _ _) v)
    fun _ v3 h3 => ?_
  refine wp_step trivial fun f _ => eitherAnswer (fun _ _ _ => reported) fun _ v4 h4 => ?_
  refine wp_step trivial fun f _ => eitherAnswer (fun _ _ _ => reported) fun _ v5 h5 => ?_
  refine wp_step trivial fun f _ r v6 h6 => ?_
  refine fun _ => ⟨exec_statGeneration h1, ?_⟩
  rw [running_kept h6 rfl, running_kept h5 rfl, running_kept h4 rfl, running_kept h3 rfl,
    exec_activate h2]

/-- **`Restore`, whichever of its calls fail.** -/
theorem wp_restore (g : String) (w : World) :
    wp exec A (fun _ => True) (restore c g) (Restored w g) w := by
  have hrun : wp exec A (fun _ => True) (restore c g) (fun reply v => reply.err = none →
      (g = "" ∧ v.running = none) ∨ (g ≠ "" ∧ w.has g = true ∧ v.running = some g)) w := by
    unfold restore
    split
    · exact reported
    split
    · exact reported
    refine wp_step trivial fun f _ r v1 h1 => ?_
    obtain rfl : v1 = w := by
      have hstate := congrArg Prod.snd h1
      cases f <;> exact hstate.symm
    rcases r with err | _
    · exact reported
    change wp exec A _ (if g = "" then restoreNone c else restoreGeneration c g) _ v1
    split
    · next hempty =>
      exact wp_post (fun _ _ h hnone => Or.inl ⟨hempty, h hnone⟩)
        (wp_restoreNone c v1)
    next hgeneration =>
    exact wp_post (fun _ _ h hnone => Or.inr ⟨hgeneration, h hnone⟩)
      (wp_restoreGeneration c g v1)
  exact wp_mono (fun _ _ => trivial) (fun _ _ h => ⟨h.1, h.2⟩)
    (wp_and (wp_storeless (storeless_restore c g) w) hrun)

end

/-! ## Apply when no call fails -/

/-- what an `Apply` of which no call fails needs -/
structure Accepts (c : Controller) (g : String) (b : Bundle) (w : World) : Prop where
  complete : c.root ≠ "" ∧ c.hasValidator = true ∧ c.hasRuntime = true
  safe : safeGenerationID g = true
  main : b.main ≠ ""
  files : ∃ files, b.files = .ok files ∧ Separate files
  new : w.has g = false
  lkg : ∀ l, w.lkg = some l → safeGenerationID l = true

def World.applied (w : World) (g : String) (b : Bundle) : World :=
  { w with generations := w.generations ++ [(g, b)], active := some g, lkg := some g, pending := none
           running := some g, verified := (g, true) :: w.verified }

theorem writeCandidate_ok (hmain : b.main ≠ "") (hnew : w.has g = false)
    (hfiles : ∃ files, b.files = .ok files ∧ Separate files) :
    writeCandidate g b w = (.ok (), { w with generations := w.generations ++ [(g, b)] }) := by
  obtain ⟨files, hfiles, hseparate⟩ := hfiles
  unfold writeCandidate
  rw [if_neg hmain, if_neg (by simp [hnew]), hfiles]
  exact if_pos hseparate

theorem readMarker_accepts (h : Accepts c g b w) :
    readMarker .lkg { w with generations := w.generations ++ [(g, b)] } = .ok w.lkg := by
  unfold readMarker
  dsimp only [World.marker]
  cases hl : w.lkg with
  | none => rfl
  | some l => exact if_pos (h.lkg l hl)

theorem runWith_activateCandidate (hsafe : safeGenerationID result.generation = true) (w : World) :
    runWith exec (fun _ => .ok) (activateCandidate c result) w =
      (⟨result, none⟩, { w with active := some result.generation, lkg := some result.generation
                                pending := none, running := some result.generation
                                verified := (result.generation, true) :: w.verified }) := by
  have hwrite : ∀ (m : Marker) (v : World),
      writeMarker m result.generation v = (.ok (), v.mark m (some result.generation)) :=
    fun m v => if_pos hsafe
  simp only [activateCandidate, recordGeneration, runWith_call, runWith_done, exec, Fate.ok_deliver,
    hwrite, World.mark, if_true]

/-- **An `Apply` that is accepted and of which no call fails succeeds.** -/
theorem runWith_apply (h : Accepts c g b w) : runWith exec (fun _ => .ok) (apply c g b) w =
      (⟨{ generation := g, previousGeneration := w.lkg.getD "" }, none⟩, w.applied g b) := by
  obtain ⟨hroot, hvalidator, hruntime⟩ := h.complete
  unfold apply
  rw [if_neg (by simp [hroot, hvalidator, hruntime, h.safe])]
  simp only [runWith_call, exec, Fate.ok_deliver, writeCandidate_ok h.main h.new h.files,
    readMarker_accepts h]
  rw [runWith_activateCandidate h.safe]
  rfl

/-- **An `Apply` of which no call fails succeeds only when it is accepted.** -/
theorem accepts_of_applied (h : (runWith exec (fun _ => .ok) (apply c g b) w).1.err = none) :
    Accepts c g b w := by
  unfold apply at h
  split at h
  · cases h
  next hcomplete =>
  have hcomplete : ((c.root ≠ "" ∧ c.hasValidator = true) ∧ c.hasRuntime = true) ∧
      safeGenerationID g = true := by simpa using hcomplete
  simp only [runWith_call, exec, Fate.ok_deliver] at h
  rcases hwrite : writeCandidate g b w with ⟨err | _, v⟩
  · rw [hwrite] at h
    cases h
  -- the candidate is new and its files can be in one directory
  have hcandidate : b.main ≠ "" ∧ w.has g = false ∧
      (∃ files, b.files = .ok files ∧ Separate files) ∧ v.lkg = w.lkg := by
    unfold writeCandidate at hwrite
    split at hwrite
    · cases hwrite
    next hmain =>
    split at hwrite
    · cases hwrite
    next hnew =>
    split at hwrite
    · cases hwrite
    next files hfiles =>
    split at hwrite
    · next hseparate =>
      cases hwrite
      exact ⟨hmain, by simpa using hnew, ⟨files, hfiles, hseparate⟩, rfl⟩
    · cases hwrite
  obtain ⟨hmain, hnew, hfiles, hlkg⟩ := hcandidate
  refine ⟨⟨hcomplete.1.1.1, hcomplete.1.1.2, hcomplete.1.2⟩, hcomplete.2, hmain, hfiles, hnew, ?_⟩
  intro l hl
  rw [hwrite] at h
  by_contra hmarker
  have hread : readMarker .lkg v = .error "unsafe Mihomo generation marker content" := by
    unfold readMarker
    dsimp only [World.marker]
    rw [hlkg, hl]
    exact if_neg hmarker
  simp only [runWith_call, exec, Fate.ok_deliver, hread, runWith_done] at h
  cases h

/-! ## only stored generations -/

structure World.Stored (w : World) : Prop where
  running : ∀ g, w.running = some g → w.has g = true
  marked : ∀ m g, w.marker m = some g → w.has g = true

/-- the operations that activate and mark generations of `v` only, and write none -/
def Op.Within (v : World) : Op → Prop
  | .activate g | .writeMarker _ g => v.has g = true
  | .writeCandidate _ _ => False
  | _ => True

/-- what is known of the answers as long as the generations are those of `v` -/
def Op.tells (v : World) : (o : Op) → o.Ret → Prop
  | .readMarker _, .ok (some g) => v.has g = true
  | .statGeneration g, .ok _ => v.has g = true
  | _, _ => True

def Unmoved (v w : World) : Prop := w.generations = v.generations ∧ w.Stored

abbrev Confined {α : Type} (v : World) (p : Action α) : Prop := p.All (Op.tells v) (Op.Within v)

theorem has_congr (h : w.generations = v.generations) : w.has g = v.has g := by
  rw [World.has, World.has, h]

theorem stored_mark {m : Marker} {content : Option String} (h : w.Stored)
    (hcontent : ∀ g, content = some g → w.has g = true) : (w.mark m content).Stored := by
  refine ⟨?_, fun m' g hg => ?_⟩
  · cases m <;> exact h.running
  · cases m <;> cases m' <;> first
      | exact hcontent g hg
      | exact h.marked .active g hg
      | exact h.marked .lkg g hg
      | exact h.marked .pending g hg

theorem exec_tells (o : Op) (f : Fate) (w : World) (h : Unmoved v w) :
    o.tells v (exec o f w).1 := by
  cases o with
  | readMarker m =>
    obtain ⟨r, w', hx⟩ : ∃ r w', exec (.readMarker m) f w = (r, w') := ⟨_, _, rfl⟩
    rw [hx]
    match r with
    | .error _ | .ok none => trivial
    | .ok (some g) => exact (has_congr h.1).symm.trans (h.2.marked m g (exec_readMarker hx).2.symm)
  | statGeneration g =>
    obtain ⟨r, w', hx⟩ : ∃ r w', exec (.statGeneration g) f w = (r, w') := ⟨_, _, rfl⟩
    rw [hx]
    match r with
    | .error _ => trivial
    | .ok _ => exact (has_congr h.1).symm.trans (exec_statGeneration hx)
  | _ => trivial

theorem exec_unmoved (o : Op) (f : Fate) (w : World) (ho : o.Within v) (h : Unmoved v w) :
    Unmoved v (exec o f w).2 := by
  have hstores : o.stores = false := by
    cases o with
    | writeCandidate => exact ho.elim
    | _ => rfl
  refine ⟨(exec_generations hstores f w).trans h.1, ?_⟩
  have hstored := h.2
  cases o with
  | writeCandidate => exact ho.elim
  | writeMarker m g =>
    refine Fate.deliver_keeps (I := World.Stored) hstored ?_
    unfold writeMarker
    split
    · refine stored_mark hstored fun g' hg' => ?_
      obtain rfl := some.inj hg'
      exact (has_congr h.1).trans ho
    · exact hstored
  | removeMarker m =>
    exact Fate.deliver_keeps (I := World.Stored) hstored (stored_mark hstored nofun)
  | activate g =>
    cases f with
    | ok => exact ⟨fun g' hg' => some.inj hg' ▸ (has_congr h.1).trans ho, hstored.marked⟩
    | fail | late => exact ⟨nofun, hstored.marked⟩
  | failClosed =>
    exact Fate.deliver_keeps (I := World.Stored) hstored ⟨nofun, hstored.marked⟩
  | _ => cases f <;> exact ⟨hstored.running, hstored.marked⟩

variable {result : ApplyResult}

theorem confined_blockAndClear (blocked : String → Option String)
    (cleared : Option String → Option String) : Confined v (blockAndClear result blocked cleared) :=
  ⟨trivial, byAnswer (fun _ => trivial) fun _ _ => ⟨trivial, fun _ _ => trivial⟩⟩

theorem confined_ite {q : Bool} {p p' : Action Reply} (hp : Confined v p) (hp' : Confined v p') :
    Confined v (if q then p else p') := by
  split
  · exact hp
  · exact hp'

theorem confined_rollback (hprevious : result.previousGeneration = "" ∨
    v.has result.previousGeneration = true) (cause : String) :
    Confined v (rollback c result cause) := by
  have hclosed : ∀ err, Confined v (failClosedRollback c result cause err) :=
    fun err => confined_ite (confined_blockAndClear _ _) trivial
  unfold rollback
  split
  · exact confined_ite (confined_blockAndClear _ _) trivial
  next hne =>
  have hprevious := hprevious.resolve_left hne
  refine ⟨hprevious, byAnswer (fun _ => hclosed _) fun _ _ => ?_⟩
  refine ⟨trivial, byAnswer (fun _ => hclosed _) fun _ _ => ?_⟩
  refine ⟨hprevious, byAnswer (fun _ => trivial) fun _ _ => ?_⟩
  exact ⟨trivial, byAnswer (fun _ => trivial) fun _ _ => trivial⟩

theorem confined_activateCandidate (hnew : v.has result.generation = true)
    (hprevious : result.previousGeneration = "" ∨ v.has result.previousGeneration = true) :
    Confined v (activateCandidate c result) := by
  have hback := fun cause => confined_rollback (c := c) hprevious cause
  refine ⟨hnew, byAnswer (fun _ => trivial) fun _ _ => ?_⟩
  refine ⟨hnew, byAnswer (fun _ => hback _) fun _ _ => ?_⟩
  refine ⟨trivial, byAnswer (fun _ => hback _) fun _ _ => ?_⟩
  refine ⟨hnew, byAnswer (fun _ => hback _) fun _ _ => ?_⟩
  refine ⟨hnew, byAnswer (fun _ => hback _) fun _ _ => ?_⟩
  exact ⟨trivial, byAnswer (fun _ => trivial) fun _ _ => trivial⟩

theorem confined_restore (g : String) : Confined v (restore c g) := by
  unfold restore
  split
  · trivial
  split
  · trivial
  refine ⟨trivial, byAnswer (fun _ => trivial) fun _ _ => ?_⟩
  split
  · exact confined_ite ⟨trivial, byAnswer (fun _ => trivial)
      fun _ _ => ⟨trivial, fun _ _ => ⟨trivial, fun _ _ => ⟨trivial, fun _ _ => trivial⟩⟩⟩⟩ trivial
  refine ⟨trivial, byAnswer (fun _ => trivial) fun _ hg => ?_⟩
  refine ⟨hg, byAnswer (fun _ => trivial) fun _ _ => ?_⟩
  refine ⟨trivial, byAnswer (fun err => ?_) fun _ _ => ?_⟩
  · exact confined_ite ⟨trivial, fun _ _ => trivial⟩ trivial
  refine ⟨hg, byAnswer (fun _ => trivial) fun _ _ => ?_⟩
  refine ⟨hg, byAnswer (fun _ => trivial) fun _ _ => ?_⟩
  exact ⟨trivial, fun _ _ => trivial⟩

theorem confined_recoverLKG : Confined v (recoverLKG c) := by
  have hclosed : ∀ cause, Confined v (failClosedRecovery c cause) :=
    fun cause => confined_ite ⟨trivial, fun _ _ => trivial⟩ trivial
  unfold recoverLKG
  split
  · trivial
  refine ⟨trivial, byAnswer (fun _ => trivial) fun pending _ => ?_⟩
  cases pending with
  | none => trivial
  | some p =>
  have hnone : Confined v (recoverNone c) := confined_ite
    ⟨trivial, byAnswer (fun _ => trivial) fun _ _ => ⟨trivial, fun _ _ => trivial⟩⟩ trivial
  refine ⟨trivial, byAnswer (fun _ => hnone) fun lkg hlkg => ?_⟩
  cases lkg with
  | none => exact hnone
  | some g =>
    refine ⟨hlkg, byAnswer (fun _ => hclosed _) fun _ _ => ?_⟩
    refine ⟨trivial, byAnswer (fun _ => hclosed _) fun _ _ => ?_⟩
    exact ⟨hlkg, byAnswer (fun _ => trivial) fun _ _ => ⟨trivial, fun _ _ => trivial⟩⟩

def World.Extends (v w : World) : Prop := v.generations <+: w.generations ∧ w.Stored

theorem along_confined {env : Op → Fate} {p : Action Reply} (hp : Confined v p)
    (h : World.Extends w v) :
    along exec env (World.Extends w) p (fun _ => World.Extends w) v :=
  have hback : ∀ t, Unmoved v t → World.Extends w t := fun _ ht => ⟨ht.1 ▸ h.1, ht.2⟩
  along_mono hback (fun _ => hback) (along_of_all exec_tells exec_unmoved hp ⟨rfl, h.2⟩)

theorem along_apply_stored {env : Op → Fate} (h : w.Stored) :
    along exec env (World.Extends w) (apply c g b) (fun _ => World.Extends w) w := by
  have hw : World.Extends w w := ⟨List.prefix_rfl, h⟩
  unfold apply
  split
  · exact hw
  refine along_prepareRoot hw fun r => ?_
  cases r with
  | error err => exact hw
  | ok u =>
  refine along_writeCandidate hw (fun _ r => ?_) fun _ => hw
  -- the new directory is there before anything names it
  have hmore : ∀ g', w.has g' = true →
      ({ w with generations := w.generations ++ [(g, b)] } : World).has g' = true := by
    intro g' hg'
    unfold World.has at hg' ⊢
    rw [List.any_append, hg', Bool.true_or]
  have hv : World.Extends w { w with generations := w.generations ++ [(g, b)] } :=
    ⟨List.prefix_append _ _, fun g' hg' => hmore g' (h.running g' hg'),
      fun m g' hg' => hmore g' (h.marked m g' (by cases m <;> exact hg'))⟩
  cases r with
  | error err => exact hv
  | ok u =>
  refine along_confined ?_ hv
  refine ⟨trivial, byAnswer (fun _ => trivial) fun _ _ => ?_⟩
  refine ⟨trivial, byAnswer (fun _ => trivial) fun previous hprevious => ?_⟩
  refine confined_activateCandidate (by simp [World.has]) ?_
  cases previous with
  | none => exact .inl rfl
  | some g' => exact .inr hprevious

/-- **Only stored generations run and are marked**, after any calls of the controller, each cut off
anywhere and in any environment, and what a generation holds never changes. -/
theorem only_stored (c : Controller) {w : World} (h : w.Stored) (turns : List Turn) :
    (turns.foldl (after c) w).Stored ∧
      w.generations <+: (turns.foldl (after c) w).generations := by
  induction turns generalizing w with
  | nil => exact ⟨h, List.prefix_rfl⟩
  | cons t turns ih =>
    have hcall : along exec t.env (World.Extends w) (t.call.action c)
        (fun _ => World.Extends w) w := by
      have hw : World.Extends w w := ⟨List.prefix_rfl, h⟩
      cases t.call with
      | apply g b => exact along_apply_stored h
      | restore g => exact along_confined (confined_restore g) hw
      | recoverLKG => exact along_confined confined_recoverLKG hw
    have hafter : World.Extends w (after c w t) := by
      have hrun := along_runFor hcall t.cut
      unfold after Turn.outcome
      split
      · next reply w' heq =>
        rw [heq] at hrun
        have hend := hrun.1 reply rfl
        split
        · exact ⟨hend.1, hend.2.running, hend.2.marked⟩
        · exact hend
      · next w' heq =>
        rw [heq] at hrun
        exact hrun.2 rfl
    obtain ⟨hstored, hgrows⟩ := ih hafter.2
    exact ⟨hstored, hafter.1.trans hgrows⟩

theorem only_stored_cut : ([⟨.apply "g1" { main := "m" }, fun _ => .ok, 20⟩,
    ⟨.apply "g2" { main := "m" }, fun _ => .ok, 5⟩].foldl (after {}) {}).Stored := by
  refine (only_stored {} ⟨fun g hg => ?_, fun m g hg => ?_⟩ _).1
  · cases hg
  · cases m <;> cases hg

end GatewayVpn.Mihomo
