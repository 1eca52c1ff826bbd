import GatewayVpn.Candidate.Rules

/-!
# Candidate: the endpoints of a rejected version

`Promote` lets the firewall through to the endpoints of the candidate before it applies and probes
it.  A rejected candidate has to lose them again.

`Rollback` authorizes the versions of before.  `Promote` does not: when the candidate cannot be
applied, or none of its paths qualifies, it restores the generation and leaves the firewall open
(`rejected_candidate_open`).
-/

namespace GatewayVpn.Candidate

open Durable

/-! ## before the authorization -/

/-- what `Promote` has gathered from the tables -/
structure Prepared.From (rt : Runtime) (c : StagedCandidate) (inv : Inventory) (p : Prepared) :
    Prop where
  material : loadCandidate rt c inv = .ok p.material
  bundle : ∃ uplinks, readyUplinks inv = .ok uplinks ∧
    buildBundle rt uplinks (some p.material) inv = .ok p.bundle
  previous : endpointVersionIDs inv = .ok p.previous

theorem post_prepare (rt : Runtime) (c : StagedCandidate) (w : World) :
    Post (prepare rt c) (fun r v => Quiet w v ∧ ∀ p, r = .ok p → p.From rt c w.inventory) w := by
  have hfail : ∀ err v, Quiet w v → Post (stop err) (fun r v => Quiet w v ∧
      ∀ p : Prepared, r = .ok p → p.From rt c w.inventory) v :=
    fun err v hv => ⟨hv, nofun⟩
  unfold prepare
  split
  · exact hfail _ w (.refl w)
  refine post_call rfl fun r v1 h1 => ?_
  rcases r with err | _
  · exact hfail _ v1 h1
  refine post_query (fun err => hfail _ v1 h1) fun material hmaterial => ?_
  refine post_query (fun err => hfail _ v1 h1) fun uplinks huplinks => ?_
  refine post_query (fun err => hfail _ v1 h1) fun targets _ => ?_
  refine post_call rfl fun r v2 h2 => ?_
  rcases r with err | _
  · exact hfail _ v2 (h1.trans h2)
  have h := h1.trans h2
  refine post_query (fun err => hfail _ v2 h) fun bundle hbundle => ?_
  refine post_query (fun err => hfail _ v2 h) fun previous hprevious => ?_
  refine ⟨h, fun p hp => ?_⟩
  cases hp
  rw [h1.tables.loadCandidate] at hmaterial
  rw [h1.tables.readyUplinks] at huplinks
  rw [h.tables.buildBundle] at hbundle
  rw [h.tables.endpointVersionIDs] at hprevious
  exact ⟨hmaterial, ⟨uplinks, huplinks, hbundle⟩, hprevious⟩

/-! ## after the authorization -/

def Authorizes {α : Type} (versions : List String) (_ : α) (v : World) : Prop :=
  v.authorized = versions

section
variable {α : Type} {rt : Runtime} {w : World} {versions : List String}

theorem Quiet.authorizes {v : World} (h : Quiet w v) (hw : w.authorized = versions) :
    v.authorized = versions := h.authorized.trans hw

theorem post_stop_authorizes (err : Failure) (hw : w.authorized = versions) :
    Post (stop err : Action (Except Failure α)) (Authorizes versions) w := hw

theorem post_restoreAfter_authorizes (previous : String) (cause : Failure)
    (hw : w.authorized = versions) :
    Post (restoreAfter rt previous cause : Action (Except Failure α)) (Authorizes versions) w :=
  post_restoreAfter fun _ _ _ _ => hw

theorem post_qualifyCandidate_authorizes (p : Prepared) (previous : String)
    (hw : w.authorized = versions) :
    Post (qualifyCandidate rt p previous) (Authorizes versions) w := by
  refine post_attempt (post_silent (silent_qualifyPaths _ _ _ _)) ?_ ?_
  · exact fun err v hv => post_restoreAfter_authorizes _ _ (hv.authorizes hw)
  intro items v hv
  split
  · exact post_done (hv.authorizes hw)
  · exact post_restoreAfter_authorizes _ _ (hv.authorizes hw)

theorem post_opened_authorizes (p : Prepared) (generation : String) (hw : w.authorized = versions) :
    Post ((applyBundle rt generation p.bundle).attempt
      (fun err => stop (err.wrap "apply candidate shadow generation")) (qualifyCandidate rt p))
      (Authorizes versions) w :=
  post_applyBundle (fun _ _ _ _ => post_stop_authorizes _ hw)
    fun _ _ _ _ => post_qualifyCandidate_authorizes _ _ hw

end

variable {p : Prepared}

theorem candidate_temporary : p.material.versionID ∈ temporaryVersions p := by
  unfold temporaryVersions
  split
  · next hmem => simpa using hmem
  · rw [mem_sortStrings]
    simp

/-! ## the steps of a promotion -/

def Opens (rt : Runtime) (c : StagedCandidate) (fs : List Fate) (w : World) (p : Prepared)
    (v : World) (rest : List Fate) : Prop :=
  run exec (prepare rt c) fs w = ⟨some (.ok p), v, .ok :: rest⟩

def Endures (rt : Runtime) (p : Prepared) (v : World) (rest : List Fate) : Prop :=
  ∃ previous v₁ rest₁, run exec (applyBundle rt (rt.generationID "shadow" p.material.versionID)
      p.bundle) rest { v with authorized := temporaryVersions p } =
        ⟨some (.ok previous), v₁, rest₁⟩ ∧
    ∃ items v₂ rest₂, run exec (qualifyPaths rt p.material p.bundle p.targets p.material.shadows)
      rest₁ v₁ = ⟨some (.ok items), v₂, rest₂⟩ ∧ hasQualifiedPath items = true

theorem restoreAfter_ends {α : Type} (rt : Runtime) (previous : String) (cause : Failure) :
    (restoreAfter rt previous cause : Action (Except Failure α)).Ends fun r => ∃ err, r = .error err :=
  Proc.Ends.bind (Proc.ends_true _) fun _ _ => ⟨_, rfl⟩

theorem run_ends {α : Type} {p : Action α} {Q : α → Prop} (hp : p.Ends Q) {fs : List Fate}
    {w : World} {a : α} (h : (run exec p fs w).result = some a) : Q a :=
  Post.run (wp_of_ends hp w : Post p (fun a _ => Q a) w) h

theorem opened_ok_iff {rt : Runtime} {v : World} {rest : List Fate} {r : Except Failure Promotion}
    (hr : (run exec ((applyBundle rt (rt.generationID "shadow" p.material.versionID)
      p.bundle).attempt (fun err => stop (err.wrap "apply candidate shadow generation"))
      (qualifyCandidate rt p)) rest { v with authorized := temporaryVersions p }).result = some r) :
    (∃ promotion, r = .ok promotion) ↔ Endures rt p v rest := by
  rw [run_attempt] at hr
  unfold Endures
  rcases happly : run exec (applyBundle rt (rt.generationID "shadow" p.material.versionID) p.bundle)
    rest { v with authorized := temporaryVersions p } with ⟨reply, v1, rest1⟩
  rw [happly] at hr
  rcases reply with _ | err | previous
  · cases hr
  · cases hr
    simp
  dsimp only at hr
  rw [qualifyCandidate, run_attempt] at hr
  rcases hqualify : run exec (qualifyPaths rt p.material p.bundle p.targets p.material.shadows) rest1
    v1 with ⟨reply, v2, rest2⟩
  rw [hqualify] at hr
  rcases reply with _ | err | items
  · cases hr
  · obtain ⟨err, rfl⟩ := run_ends (restoreAfter_ends _ _ _) hr
    simp [hqualify]
  dsimp only at hr
  by_cases hqualified : hasQualifiedPath items = true
  · rw [if_pos hqualified] at hr
    cases hr
    simp [hqualify, hqualified]
  rw [if_neg hqualified] at hr
  obtain ⟨err, rfl⟩ := run_ends (restoreAfter_ends _ _ _) hr
  simp [hqualify, hqualified]

/-! ## a promotion and its ends -/

/-- `promotion`, with its flags -/
structure Session where
  promotion : Promotion
  committed : Bool := false
  rolledBack : Bool := false

def Session.commit (rt : Runtime) (s : Session) : Action (Except Failure Unit × Session) :=
  if s.committed then .done (.ok (), s)
  else if s.rolledBack then
    .done (.error (.text "candidate promotion was already rolled back"), s)
  else (Candidate.commit rt s.promotion).bind fun
    | .error err => .done (.error err, s)
    | .ok _ => .done (.ok (), { s with committed := true })

def Session.rollback (rt : Runtime) (s : Session) : Action (Except Failure Unit × Session) :=
  if s.rolledBack then .done (.ok (), s)
  else if s.committed then
    .done (.error (.text "committed candidate promotion cannot be rolled back"), s)
  else (Candidate.rollback rt s.promotion).bind fun r => .done (r, { s with rolledBack := true })

inductive Step where
  | change (inventory : Inventory)
  | commit (fs : List Fate)
  | rollback (fs : List Fate)

def resume (s : Session) (o : Outcome (Except Failure Unit × Session) World) : World × Session :=
  (o.state, match o.result with
    | some (_, s') => s'
    | none => s)

def Session.step (rt : Runtime) (ws : World × Session) : Step → World × Session
  | .change inventory => ({ ws.1 with inventory }, ws.2)
  | .commit fs => resume ws.2 (run exec (ws.2.commit rt) fs ws.1)
  | .rollback fs => resume ws.2 (run exec (ws.2.rollback rt) (.ok :: fs) ws.1)

structure Session.Closes (v : String) (ws : World × Session) : Prop where
  previous : v ∉ ws.2.promotion.previousEndpointVersions
  closed : ws.2.rolledBack = true → v ∉ ws.1.authorized

section
variable {rt : Runtime} {v : String} {w : World} {s : Session} {fs : List Fate}

theorem run_rollback (p : Promotion) (fs : List Fate) (w : World) :
    (run exec (Candidate.rollback rt p) (.ok :: fs) w).state.authorized =
      p.previousEndpointVersions := by
  have hrest : wp exec (fun _ => True) (fun v => v.authorized = p.previousEndpointVersions)
      ((controller (Mihomo.restore rt.controller p.previousGeneration)).bind fun restored =>
        .call (.invalidateVersionEvidence p.candidate.subscription.id p.candidate.versionID) fun
          invalidated => .done (joinSteps (.ok ()) restored.err invalidated))
      (fun _ v => v.authorized = p.previousEndpointVersions)
      { w with authorized := p.previousEndpointVersions } := by
    refine wp_bind.2 (controllerPart.wp_embed.2 ?_)
    refine wp_mono (fun _ _ => rfl) (fun reply m _ => ⟨rfl, fun f _ => ?_⟩)
      (Mihomo.wp_restore rt.controller p.previousGeneration w.mihomo)
    cases f <;> rfl
  exact wp_run_state hrest fun _ _ => trivial

theorem Session.Closes.returns (h : Session.Closes v (w, s)) {s' : Session}
    (hr : (run exec (s.rollback rt) (.ok :: fs) w).result = some (.ok (), s')) :
    v ∉ (run exec (s.rollback rt) (.ok :: fs) w).state.authorized := by
  unfold Session.rollback at hr ⊢
  split
  · next hback => exact h.closed hback
  next hback =>
  rw [if_neg hback] at hr
  split
  · next hcommitted =>
    rw [if_pos hcommitted] at hr
    cases hr
  have hclosed : v ∉ (run exec (Candidate.rollback rt s.promotion) (.ok :: fs) w).state.authorized := by
    rw [run_rollback]
    exact h.previous
  rw [run_bind]
  split <;> exact hclosed

theorem Session.Closes.rollback (h : Session.Closes v (w, s)) :
    Session.Closes v (resume s (run exec (s.rollback rt) (.ok :: fs) w)) := by
  unfold Session.rollback
  split
  · exact h
  next hback =>
  split
  · exact h
  rw [run_bind]
  split
  · refine ⟨h.previous, fun _ => ?_⟩
    show v ∉ (run exec (Candidate.rollback rt s.promotion) (.ok :: fs) w).state.authorized
    rw [run_rollback]
    exact h.previous
  · exact ⟨h.previous, fun hback' => absurd hback' hback⟩

theorem Session.Closes.commit (h : Session.Closes v (w, s)) :
    Session.Closes v (resume s (run exec (s.commit rt) fs w)) := by
  unfold Session.commit
  split
  · exact h
  split
  · exact h
  next hback =>
  rw [run_bind]
  split
  · next r _ =>
    rcases r with err | _ <;> exact ⟨h.previous, fun hback' => absurd hback' hback⟩
  · exact ⟨h.previous, fun hback' => absurd hback' hback⟩

theorem Session.Closes.step {ws : World × Session} (h : Session.Closes v ws) (step : Step) :
    Session.Closes v (Session.step rt ws step) := by
  cases step with
  | change inventory => exact ⟨h.previous, h.closed⟩
  | commit fs => exact h.commit
  | rollback fs => exact h.rollback

theorem Session.Closes.steps {ws : World × Session} (h : Session.Closes v ws) (steps : List Step) :
    Session.Closes v (steps.foldl (Session.step rt) ws) := by
  induction steps generalizing ws with
  | nil => exact h
  | cons step steps ih => exact ih (h.step step)

end

/-! ## the runs of Promote -/

/-- once the firewall lets the candidate through, it is applied and one of its paths qualifies; and
it was not let through before, when the firewall is not changed -/
structure Closing (rt : Runtime) (c : StagedCandidate) (fs : List Fate) (w : World) : Prop where
  endures : ∀ p v rest, Opens rt c fs w p v rest → Endures rt p v rest
  unopened : (∀ p v rest, ¬ Opens rt c fs w p v rest) → c.versionID ∉ w.authorized

section
variable {rt : Runtime} {c : StagedCandidate} {fs : List Fate} {w : World}
variable {r : Except Failure Promotion}

theorem qualifyCandidate_previous (p : Prepared) (previous : String) :
    (qualifyCandidate rt p previous).Ends fun r => ∀ promotion, r = .ok promotion →
      promotion.previousEndpointVersions = p.previous := by
  have hfail : ∀ (previous : String) (cause : Failure),
      (restoreAfter rt previous cause : Action (Except Failure Promotion)).Ends fun r =>
        ∀ promotion, r = .ok promotion → promotion.previousEndpointVersions = p.previous :=
    fun previous cause => Proc.Ends.bind (Proc.ends_true _) fun _ _ => nofun
  refine Proc.Ends.attempt (hfail previous) fun items => ?_
  split
  · intro promotion h
    cases h
    rfl
  · exact hfail _ _

theorem run_promote_opens {v : World} {rest : List Fate}
    (h : Opens rt c fs w p v rest) : run exec (promote rt c) fs w =
      run exec ((applyBundle rt (rt.generationID "shadow" p.material.versionID) p.bundle).attempt
        (fun err => stop (err.wrap "apply candidate shadow generation")) (qualifyCandidate rt p))
        rest { v with authorized := temporaryVersions p } := by
  rw [promote, run_attempt, h]
  rfl

theorem run_promote_unopened (hr : (run exec (promote rt c) fs w).result = some r)
    (hopen : ∀ p v rest, ¬ Opens rt c fs w p v rest) :
    (∃ err, r = .error err) ∧ (run exec (promote rt c) fs w).state.authorized = w.authorized := by
  rw [promote, run_attempt] at hr ⊢
  rcases hprepare : run exec (prepare rt c) fs w with ⟨reply, v, rest⟩
  rw [hprepare] at hr
  have hquiet : reply ≠ none → Quiet w v := by
    intro hreply
    obtain ⟨r0, hr0⟩ := Option.ne_none_iff_exists'.mp hreply
    have hresult : (run exec (prepare rt c) fs w).result = some r0 := by rw [hprepare, hr0]
    have hpost := (post_prepare rt c w).run hresult
    rw [hprepare] at hpost
    exact hpost.1
  rcases reply with _ | err | p
  · cases hr
  · cases hr
    exact ⟨⟨err, rfl⟩, (hquiet (by simp)).authorized⟩
  -- the authorization is the next call, and it did not succeed
  rcases rest with _ | ⟨f, rest⟩
  · cases hr
  cases f with
  | ok => exact absurd hprepare (hopen p v rest)
  | fail =>
    cases hr
    exact ⟨⟨_, rfl⟩, (hquiet (by simp)).authorized⟩
  | late =>
  cases hr
  exact ⟨⟨_, rfl⟩, (hquiet (by simp)).authorized⟩

theorem Opens.gathered {v : World} {rest : List Fate}
    (h : Opens rt c fs w p v rest) : p.From rt c w.inventory := by
  have hresult : (run exec (prepare rt c) fs w).result = some (.ok p) := by rw [h]
  exact ((post_prepare rt c w).run hresult).2 p rfl

theorem closed_iff_closing (hr : (run exec (promote rt c) fs w).result = some r) :
    ((∃ err, r = .error err) → c.versionID ∉ (run exec (promote rt c) fs w).state.authorized) ↔
      Closing rt c fs w := by
  by_cases hopen : ∃ p v rest, Opens rt c fs w p v rest
  · obtain ⟨p, v, rest, hopen⟩ := hopen
    have hrun := run_promote_opens hopen
    rw [hrun] at hr ⊢
    have hok := opened_ok_iff hr
    have hversion := (loadCandidate_ok hopen.gathered.material).1
    have hauthorized := (@post_opened_authorizes rt { v with authorized := temporaryVersions p } _ p
      (rt.generationID "shadow" p.material.versionID) rfl).run hr
    have hin : c.versionID ∈ temporaryVersions p := hversion ▸ candidate_temporary
    constructor
    · intro hclosed
      refine ⟨fun p' v' rest' hopen' => ?_, fun hnone => absurd hopen (hnone p v rest)⟩
      obtain ⟨rfl, rfl, rfl⟩ : p' = p ∧ v' = v ∧ rest' = rest := by
        have heq := hopen'.symm.trans hopen
        simpa using heq
      refine hok.mp ?_
      rcases r with err | promotion
      · refine absurd ?_ (hclosed ⟨err, rfl⟩)
        rw [show (run exec _ _ _).state.authorized = temporaryVersions p' from hauthorized]
        exact hin
      · exact ⟨promotion, rfl⟩
    · rintro ⟨hendures, _⟩ ⟨err, rfl⟩
      obtain ⟨promotion, hpromotion⟩ := hok.mpr (hendures p v rest hopen)
      cases hpromotion
  have hopen : ∀ p v rest, ¬ Opens rt c fs w p v rest :=
    fun p v rest h => hopen ⟨p, v, rest, h⟩
  obtain ⟨herr, hauthorized⟩ := run_promote_unopened hr hopen
  rw [hauthorized]
  exact ⟨fun hclosed => ⟨fun p v rest h => absurd h (hopen p v rest), fun _ => hclosed herr⟩,
    fun hclosing _ => hclosing.unopened hopen⟩

theorem promoted_closes {p : Promotion}
    (hr : (run exec (promote rt c) fs w).result = some (.ok p)) :
    Session.Closes c.versionID ((run exec (promote rt c) fs w).state, { promotion := p }) := by
  refine ⟨?_, nofun⟩
  by_cases hopen : ∃ p v rest, Opens rt c fs w p v rest
  · obtain ⟨p0, v, rest, hopen⟩ := hopen
    rw [run_promote_opens hopen] at hr
    have hends := run_ends (Proc.Ends.attempt (fun err => fun promotion h => by cases h)
      (qualifyCandidate_previous p0)) hr
    have hfrom := hopen.gathered
    show c.versionID ∉ p.previousEndpointVersions
    rw [hends p rfl]
    exact candidate_not_active hfrom.material hfrom.previous
  · obtain ⟨⟨err, herr⟩, _⟩ := run_promote_unopened hr fun p v rest h => hopen ⟨p, v, rest, h⟩
    cases herr

end

/-- **Which rejections close the endpoints**: `Promote` returns an error with the candidate closed
exactly when `Closing` holds, and a `Rollback` that returns without error has always closed it, after
any calls of `Commit` and `Rollback` and any changes of the tables. -/
theorem rejected_closed (rt : Runtime) (c : StagedCandidate) (fs : List Fate) (w : World)
    (r : Except Failure Promotion) (hr : (run exec (promote rt c) fs w).result = some r) :
    (((∃ err, r = .error err) → c.versionID ∉ (run exec (promote rt c) fs w).state.authorized) ↔
      Closing rt c fs w) ∧
    ∀ p, r = .ok p → ∀ (steps : List Step) (ws : World × Session),
      ws = steps.foldl (Session.step rt) ((run exec (promote rt c) fs w).state, { promotion := p }) →
      ∀ fs' s', (run exec (ws.2.rollback rt) (.ok :: fs') ws.1).result = some (.ok (), s') →
        c.versionID ∉ (run exec (ws.2.rollback rt) (.ok :: fs') ws.1).state.authorized := by
  refine ⟨closed_iff_closing hr, ?_⟩
  rintro p rfl steps ws rfl fs' s' hback
  exact ((promoted_closes hr).steps steps).returns hback

def samplePromoted : Outcome (Except Failure Promotion) World :=
  run exec (promote (sampleRuntime true) sampleCandidate) (List.replicate 40 .ok) sampleWorld

def sampleUncommitted (p : Promotion) : World × Session :=
  [Step.commit (List.replicate 40 .ok)].foldl (Session.step (sampleRuntime true))
    (samplePromoted.state, { promotion := p })

def sampleRolledBack (p : Promotion) : Outcome (Except Failure Unit × Session) World :=
  run exec ((sampleUncommitted p).2.rollback (sampleRuntime true)) (.ok :: List.replicate 20 .ok)
    (sampleUncommitted p).1

theorem rejected_closed_rollback :
    ∃ p s', samplePromoted.result = some (.ok p) ∧
      (sampleRolledBack p).result = some (.ok (), s') ∧
      "v3" ∉ (sampleRolledBack p).state.authorized := by
  have hends : (samplePromoted.result.any fun r => r.toOption.any fun p =>
      (sampleRolledBack p).result.any fun r => r.1.isOk) = true := by decide +kernel
  rcases hpromoted : samplePromoted.result with _ | _ | p <;> rw [hpromoted] at hends
  · cases hends
  · cases hends
  change (sampleRolledBack p).result.any _ = true at hends
  rcases hback : (sampleRolledBack p).result with _ | ⟨_ | _, s'⟩ <;> rw [hback] at hends
  · cases hends
  · cases hends
  exact ⟨p, s', rfl, hback, (rejected_closed _ _ _ _ _ hpromoted).2 p rfl _ _ rfl _ s' hback⟩

/-- the candidate is applied, none of its paths qualifies, and its endpoints stay open -/
theorem rejected_candidate_open :
    (run exec (promote (sampleRuntime false) sampleCandidate) (List.replicate 40 .ok)
      sampleWorld).result = some (.error (.text
        "candidate has no BYPASS_QUALIFIED path through any ready modem")) ∧
    sampleCandidate.versionID ∈ (run exec (promote (sampleRuntime false) sampleCandidate)
      (List.replicate 40 .ok) sampleWorld).state.authorized := by
  decide +kernel

end GatewayVpn.Candidate
