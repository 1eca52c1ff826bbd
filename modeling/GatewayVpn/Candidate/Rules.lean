import GatewayVpn.Candidate.Runtime
import GatewayVpn.Mihomo.Contract

/-!
# Candidate: rules for the runtime operations

An operation is a long chain of calls of which few change what Mihomo runs or what the firewall
lets through.
-/

namespace GatewayVpn.Candidate

open Durable

/-! ## quiet calls -/

structure Quiet (w v : World) : Prop where
  mihomo : v.mihomo = w.mihomo
  authorized : v.authorized = w.authorized
  tables : SameTables w.inventory v.inventory

theorem Quiet.refl (w : World) : Quiet w w := ⟨rfl, rfl, .refl _⟩

theorem Quiet.trans {u v w : World} (h : Quiet u v) (h' : Quiet v w) : Quiet u w :=
  ⟨h'.mihomo.trans h.mihomo, h'.authorized.trans h.authorized, h.tables.trans h'.tables⟩

def Op.quiet : Op → Bool
  | .authorize _ => false
  | .controller _ => false
  | _ => true

theorem exec_quiet {o : Op} (ho : o.quiet = true) (f : Fate) (w : World) :
    Quiet w (exec o f w).2 := by
  cases o with
  | authorize => cases ho
  | controller => cases ho
  | reconcileCells =>
    have htransact : Quiet w (w.transact (reconcileCells w.inventory)).2 := by
      cases h : reconcileCells w.inventory with
      | error err => exact .refl w
      | ok inv => exact ⟨rfl, rfl, (reconcileCells_ok h).1⟩
    exact Fate.deliver_keeps (.refl w) htransact
  | now => exact ⟨rfl, rfl, .refl _⟩
  | _ => cases f <;> exact ⟨rfl, rfl, .refl _⟩

/-! ## silent procedures -/

/-- a procedure that leaves Mihomo and the firewall alone -/
abbrev Silent {α : Type} (p : Action α) : Prop := p.All (fun _ _ => True) fun o => o.quiet = true

section
variable {α β : Type} {rt : Runtime}

theorem silent_stop (err : Failure) : Silent (stop err : Action (Except Failure α)) := trivial

theorem silent_query (f : Inventory → Except Failure α) : Silent (query f) := by
  refine ⟨rfl, fun r _ => ?_⟩
  rcases r with err | inv <;> trivial

theorem silent_evaluateTargetStates (targets : List Health.Target) :
    Silent (evaluateTargetStates targets) := by
  induction targets with
  | nil => trivial
  | cons t ts ih =>
    refine ⟨rfl, fun r _ => ?_⟩
    rcases r with err | _
    · exact ⟨rfl, fun _ _ => ih⟩
    · exact ih

theorem silent_evaluateProbeTargets : Silent evaluateProbeTargets :=
  (silent_query _).attempt (fun _ => ⟨rfl, fun _ _ => trivial⟩) silent_evaluateTargetStates

theorem silent_qualifyEach (material : Material) (targets : List Health.Target)
    (paths : List Mihomo.Path) : Silent (qualifyEach rt material targets paths) := by
  induction paths with
  | nil => trivial
  | cons path paths ih =>
    refine (silent_query _).attempt silent_stop fun (cell, probed) => ⟨rfl, fun r _ => ?_⟩
    rcases r with err | _
    · trivial
    split
    · trivial
    · exact ih.attempt silent_stop fun _ => trivial

theorem silent_qualifyPaths (material : Material) (bundle : Mihomo.Bundle)
    (targets : List Health.Target) (wanted : Mihomo.Path → Bool) :
    Silent (qualifyPaths rt material bundle targets wanted) := by
  unfold qualifyPaths
  dsimp only
  split
  · trivial
  · exact silent_qualifyEach _ _ _

theorem silent_selectCommitted (p : Promotion) (enabled : Bool) (bundle : Mihomo.Bundle)
    (items : List Qualification) : Silent (selectCommitted p enabled bundle items) := by
  induction items with
  | nil => trivial
  | cons q qs ih =>
    unfold selectCommitted
    split
    · exact ih
    split
    · trivial
    split
    · trivial
    refine ⟨rfl, fun r _ => ?_⟩
    rcases r with err | _
    · trivial
    · exact ih

theorem silent_storeCommitted (checkedAt expiresAt : Time) (items : List Qualification) :
    Silent (storeCommitted checkedAt expiresAt items) := by
  induction items with
  | nil => trivial
  | cons q qs ih =>
    refine ⟨rfl, fun r _ => ?_⟩
    rcases r with err | _
    · trivial
    · exact ih

theorem silent_commitApplied (p : Promotion) (enabled : Bool) (bundle : Mihomo.Bundle) :
    Silent (commitApplied rt p enabled bundle) := by
  refine (silent_query _).attempt silent_stop fun _ =>
    (silent_selectCommitted _ _ _ _).attempt silent_stop fun _ => ?_
  split
  · trivial
  · exact ⟨rfl, fun _ _ => (silent_storeCommitted _ _ _).attempt silent_stop fun _ =>
      silent_evaluateProbeTargets.bind fun _ => trivial⟩

theorem silent_selectRequalified (bundle : Mihomo.Bundle) (uplinkID : String) (m : Material)
    (result : Health.CellResult) : Silent (selectRequalified bundle uplinkID m result) := by
  unfold selectRequalified
  split
  · split
    · trivial
    split
    · trivial
    split
    · trivial
    refine ⟨rfl, fun r _ => ?_⟩
    rcases r with err | _ <;> trivial
  · trivial

theorem silent_requalifyOne (bundle : Mihomo.Bundle) (targets : List Health.Target)
    (uplinkID : String) (checkedAt : Time) (m : Material) :
    Silent (requalifyOne rt bundle targets uplinkID checkedAt m) := by
  refine (silent_qualifyPaths _ _ _ _).attempt silent_stop fun items => ?_
  split
  · refine ⟨rfl, fun r _ => ?_⟩
    rcases r with err | _
    · trivial
    · exact silent_selectRequalified _ _ _ _
  · trivial

theorem silent_requalifyEach (bundle : Mihomo.Bundle) (targets : List Health.Target)
    (uplinkID : String) (result : RequalificationResult) (materials : List Material) :
    Silent (requalifyEach rt bundle targets uplinkID result materials) := by
  induction materials generalizing result with
  | nil => trivial
  | cons m ms ih =>
    exact (silent_requalifyOne _ _ _ _ _).attempt silent_stop fun _ => ih _

theorem silent_storeOperation (op : Operation) (nodeID : String) (r : PathOperationResult) :
    Silent (storeOperation op nodeID r) := by
  unfold storeOperation
  dsimp only
  split
  · refine ⟨rfl, fun r _ => ?_⟩
    rcases r with err | _ <;> trivial
  split
  · refine ⟨rfl, fun r _ => ?_⟩
    rcases r with err | _ <;> trivial
  · trivial

theorem silent_publishOperation (op : Operation) (nodeID : String) (r : PathOperationResult) :
    Silent (publishOperation op nodeID r) := by
  refine (silent_storeOperation _ _ _).attempt silent_stop fun selected => ?_
  split
  · trivial
  split
  · trivial
  refine ⟨rfl, fun r _ => ?_⟩
  rcases r with err | _ <;> trivial

end

/-! ## assertions about the end -/

/-- whichever calls fail, the operation ends in a result and a world that satisfy `Q` -/
def Post {α : Type} (p : Action α) (Q : α → World → Prop) (w : World) : Prop :=
  wp exec (fun _ => True) (fun _ => True) p Q w

variable {g : String} {b : Mihomo.Bundle} {rt : Runtime}

section
variable {α β : Type} {Q : β → World → Prop} {w : World} {p : Action β}

theorem Post.run (h : Post p Q w) {fs : List Fate} {b : β}
    (hb : (run exec p fs w).result = some b) : Q b (run exec p fs w).state :=
  (wp_sound h fun _ _ => trivial).1 b hb

theorem Post.mono {R : β → World → Prop} (h : Post p Q w)
    (hQ : ∀ b v, Q b v → R b v) : Post p R w := wp_post hQ h

theorem post_done {b : β} (h : Q b w) : Post (.done b) Q w := h

theorem post_bind {p : Action α} {k : α → Action β} {R : α → World → Prop} (h : Post p R w)
    (hk : ∀ a v, R a v → Post (k a) Q v) : Post (p.bind k) Q w :=
  wp_bind.2 (wp_post hk h)

variable {stopped : Failure → Action β}

theorem post_attempt {p : Action (Except Failure α)}
    {k : α → Action β} {R : Except Failure α → World → Prop} (h : Post p R w)
    (hstopped : ∀ err v, R (.error err) v → Post (stopped err) Q v)
    (hk : ∀ a v, R (.ok a) v → Post (k a) Q v) : Post (p.attempt stopped k) Q w :=
  wp_attempt h hstopped hk

theorem post_silent (hp : Silent p) : Post p (fun _ => Quiet w) w := by
  have hstep : ∀ (o : Op) (f : Fate) (s : World), o.quiet = true → True → Quiet w s →
      Quiet w (exec o f s).2 := fun o f s ho _ hs => hs.trans (exec_quiet ho f s)
  exact wp_mono (fun _ _ => trivial) (fun _ _ h => h)
    (wp_of_all (fun _ _ _ => trivial) hstep hp (.refl w))

theorem post_call {o : Op} (ho : o.quiet = true) {k : o.Ret → Action β}
    (hk : ∀ r v, Quiet w v → Post (k r) Q v) : Post (.call o k) Q w :=
  ⟨trivial, fun f _ => hk _ _ (exec_quiet ho f w)⟩

variable {k : Except Failure Unit → Action β}

theorem post_syncRouting (h : ∀ r, Post (k r) Q w) : Post (.call .syncRouting k) Q w := by
  refine ⟨trivial, fun fate _ => ?_⟩
  cases fate <;> exact h _

theorem post_probe (h : ∀ r, Post (k r) Q w) : Post (.call .probe k) Q w := by
  refine ⟨trivial, fun fate _ => ?_⟩
  cases fate <;> exact h _

theorem post_now {k : Time → Action β}
    (h : Post (k (w.clock w.reads)) Q { w with reads := w.reads + 1 }) :
    Post (.call .now k) Q w := ⟨trivial, fun _ _ => h⟩

theorem post_query {f : Inventory → Except Failure α}
    {k : α → Action β} (hstopped : ∀ err, Post (stopped err) Q w)
    (hk : ∀ a, f w.inventory = .ok a → Post (k a) Q w) :
    Post ((query f).attempt stopped k) Q w := by
  refine ⟨trivial, fun fate _ => ?_⟩
  cases fate with
  | ok =>
    show wp exec _ _ ((Proc.done (f w.inventory) : Action (Except Failure α)).attempt stopped k) Q w
    cases h : f w.inventory with
    | error err => exact hstopped err
    | ok a => exact hk a h
  | fail => exact hstopped refused
  | late => exact hstopped refused

theorem post_authorize {versions : List String}
    (hok : Post (k (.ok ())) Q { w with authorized := versions })
    (herror : Post (k (.error refused)) Q w) : Post (.call (.authorize versions) k) Q w := by
  refine ⟨trivial, fun fate _ => ?_⟩
  cases fate with
  | ok => exact hok
  | fail => exact herror
  | late => exact herror

theorem post_reconcileCells (hok : ∀ inv, reconcileCells w.inventory = .ok inv →
      Post (k (.ok ())) Q { w with inventory := inv })
    (herror : ∀ err v, Quiet w v → Post (k (.error err)) Q v) : Post (.call .reconcileCells k) Q w := by
  refine ⟨trivial, fun fate _ => ?_⟩
  cases fate with
  | ok =>
    show wp exec _ _ (k (w.transact (reconcileCells w.inventory)).1) Q
      (w.transact (reconcileCells w.inventory)).2
    cases h : reconcileCells w.inventory with
    | error err => exact herror err w (.refl w)
    | ok inv => exact hok inv h
  | fail => exact herror _ w (.refl w)
  | late => exact herror _ _ (@exec_quiet .reconcileCells rfl .late w)

theorem post_controller {p : Mihomo.Action α} {R : α → Mihomo.World → Prop}
    (h : wp Mihomo.exec (fun _ => True) (fun _ => True) p R w.mihomo) :
    Post (controller p) (fun a v => ∃ m, R a m ∧ v = { w with mihomo := m }) w :=
  controllerPart.wp_embed.2 (wp_post (fun _ m hm => ⟨m, hm, rfl⟩) h)

theorem post_applyBundle {k : String → Action β}
    (hstopped : ∀ err m reply, Mihomo.Applied w.mihomo g b reply m →
      Post (stopped err) Q { w with mihomo := m })
    (hk : ∀ m, w.mihomo.has g = false → m.generations = w.mihomo.generations ++ [(g, b)] →
      m.running = some g → Post (k (w.mihomo.lkg.getD "")) Q { w with mihomo := m }) :
    Post ((applyBundle rt g b).attempt stopped k) Q w := by
  refine post_attempt (R := fun r v => ∃ m reply, Mihomo.Applied w.mihomo g b reply m ∧
    v = { w with mihomo := m } ∧ ((∃ err, r = .error err) ∨
      reply.err = none ∧ r = .ok reply.result.previousGeneration)) ?_ ?_ ?_
  · refine post_bind (post_controller (Mihomo.wp_apply rt.controller g b w.mihomo)) ?_
    rintro reply v ⟨m, happlied, rfl⟩
    split
    · exact post_done ⟨m, reply, happlied, rfl, Or.inl ⟨_, rfl⟩⟩
    · next hnone => exact post_done ⟨m, reply, happlied, rfl, Or.inr ⟨hnone, rfl⟩⟩
  · rintro err v ⟨m, reply, happlied, rfl, _⟩
    exact hstopped err m reply happlied
  · rintro previous v ⟨m, reply, happlied, rfl, ⟨err, herr⟩ | ⟨hnone, hprevious⟩⟩
    · cases herr
    obtain ⟨hnew, hgenerations, hrunning, hlkg⟩ := happlied.success hnone
    obtain rfl : previous = w.mihomo.lkg.getD "" := (Except.ok.inj hprevious).trans hlkg
    exact hk m hnew hgenerations hrunning

theorem post_restoreAfter {previous : String} {cause : Failure}
    {Q : Except Failure α → World → Prop}
    (h : ∀ err m reply, Mihomo.Restored w.mihomo previous reply m →
      Q (.error err) { w with mihomo := m }) : Post (restoreAfter rt previous cause) Q w := by
  refine post_bind (post_controller (Mihomo.wp_restore rt.controller previous w.mihomo)) ?_
  rintro reply v ⟨m, hrestored, rfl⟩
  exact post_done (h _ m reply hrestored)

end

/-! ## when no call fails -/

/-- the operation ends in a result and a world that satisfy `Q`, when none of its calls fails -/
def Smooth {α : Type} (p : Action α) (Q : α → World → Prop) (w : World) : Prop :=
  wp exec (fun f => f = .ok) (fun _ => True) p Q w

section
variable {α β : Type} {Q : β → World → Prop} {w : World}

theorem Smooth.runWith {p : Action β} (h : Smooth p Q w) :
    Q (runWith exec (fun _ => .ok) p w).1 (runWith exec (fun _ => .ok) p w).2 := wp_oks_iff.1 h

theorem Smooth.mono {p : Action β} {R : β → World → Prop} (h : Smooth p Q w)
    (hQ : ∀ b v, Q b v → R b v) : Smooth p R w := wp_post hQ h

variable {k : α → Action β} {R : α → World → Prop}

theorem smooth_bind {p : Action α} (h : Smooth p R w)
    (hk : ∀ a v, R a v → Smooth (k a) Q v) : Smooth (p.bind k) Q w :=
  wp_bind.2 (wp_post hk h)

variable {stopped : Failure → Action β}

theorem smooth_attempt {p : Action (Except Failure α)}
    (h : Smooth p (fun r v => ∃ a, r = .ok a ∧ R a v) w)
    (hk : ∀ a v, R a v → Smooth (k a) Q v) : Smooth (p.attempt stopped k) Q w := by
  refine wp_attempt h (fun err v herr => ?_) fun a v hok => ?_
  · obtain ⟨a, ha, _⟩ := herr
    cases ha
  obtain ⟨a', ha, hR⟩ := hok
  cases ha
  exact hk a v hR

theorem smooth_call {o : Op} {k : o.Ret → Action β}
    (h : Smooth (k (exec o .ok w).1) Q (exec o .ok w).2) : Smooth (.call o k) Q w := by
  refine ⟨trivial, fun f hf => ?_⟩
  rw [hf]
  exact h

variable {f : Inventory → Except Failure α}

theorem smooth_query {a : α} (hf : f w.inventory = .ok a) (h : Smooth (k a) Q w) :
    Smooth ((query f).attempt stopped k) Q w := by
  refine smooth_call ?_
  show Smooth ((Proc.done (f w.inventory) : Action (Except Failure α)).attempt stopped k) Q w
  rw [hf]
  exact h

theorem smooth_query_error {err : Failure} (hf : f w.inventory = .error err)
    (h : Smooth (stopped err) Q w) : Smooth ((query f).attempt stopped k) Q w := by
  refine smooth_call ?_
  show Smooth ((Proc.done (f w.inventory) : Action (Except Failure α)).attempt stopped k) Q w
  rw [hf]
  exact h

theorem smooth_reconcileCells {k : Except Failure Unit → Action β} {inv : Inventory}
    (hinv : reconcileCells w.inventory = .ok inv)
    (h : Smooth (k (.ok ())) Q { w with inventory := inv }) :
    Smooth (.call .reconcileCells k) Q w := by
  refine smooth_call ?_
  show Smooth (k (w.transact (reconcileCells w.inventory)).1) Q
    (w.transact (reconcileCells w.inventory)).2
  rw [hinv]
  exact h

theorem smooth_reconcileCells_error {k : Except Failure Unit → Action β} {err : Failure}
    (hinv : reconcileCells w.inventory = .error err) (h : Smooth (k (.error err)) Q w) :
    Smooth (.call .reconcileCells k) Q w := by
  refine smooth_call ?_
  show Smooth (k (w.transact (reconcileCells w.inventory)).1) Q
    (w.transact (reconcileCells w.inventory)).2
  rw [hinv]
  exact h

def applied (rt : Runtime) (g : String) (b : Mihomo.Bundle) (m : Mihomo.World) :
    Mihomo.Reply × Mihomo.World :=
  runWith Mihomo.exec (fun _ => .ok) (Mihomo.apply rt.controller g b) m

theorem smooth_applyBundle {k : String → Action β}
    (hsuccess : (applied rt g b w.mihomo).1.err = none)
    (h : Smooth (k (applied rt g b w.mihomo).1.result.previousGeneration) Q
      { w with mihomo := (applied rt g b w.mihomo).2 }) :
    Smooth ((applyBundle rt g b).attempt stopped k) Q w := by
  refine wp_bind.2 (wp_bind.2 (controllerPart.wp_embed.2 (wp_oks_iff.2 ?_)))
  erw [hsuccess]
  exact h

theorem smooth_applyBundle_error {k : String → Action β}
    {err : String} (herr : (applied rt g b w.mihomo).1.err = some err)
    (h : Smooth (stopped (.text err)) Q { w with mihomo := (applied rt g b w.mihomo).2 }) :
    Smooth ((applyBundle rt g b).attempt stopped k) Q w := by
  refine wp_bind.2 (wp_bind.2 (controllerPart.wp_embed.2 (wp_oks_iff.2 ?_)))
  erw [herr]
  exact h

end

/-! ## a qualification of which no call fails -/

def Qualifies (rt : Runtime) (m : Material) (targets : List Health.Target) (inv : Inventory)
    (path : Mihomo.Path) (q : Qualification) : Prop :=
  ∃ cell probed, qualificationPath m path inv = .ok (cell, probed) ∧
    Health.qualifyCell rt.qualifier rt.prober probed targets = .ok q.result ∧
    q.policyGeneration = cell.policyGeneration ∧ q.routeGeneration = cell.routeGeneration

theorem smooth_qualifyEach {m : Material} {targets : List Health.Target} {w : World}
    {paths : List Mihomo.Path}
    (h : ∀ path ∈ paths, ∃ q, Qualifies rt m targets w.inventory path q) :
    Smooth (qualifyEach rt m targets paths) (fun r v => ∃ items, r = .ok items ∧ v = w ∧
      List.Forall₂ (Qualifies rt m targets w.inventory) paths items) w := by
  induction paths with
  | nil => exact ⟨[], rfl, rfl, .nil⟩
  | cons path paths ih =>
    obtain ⟨q, cell, probed, hpath, hcell, hpolicy, hroute⟩ := h path List.mem_cons_self
    have ih := ih fun path' hpath' => h path' (List.mem_cons_of_mem _ hpath')
    refine smooth_query hpath (smooth_call ?_)
    rw [hcell]
    refine smooth_attempt ih fun rest v hrest => ?_
    exact ⟨_, rfl, hrest.1, .cons ⟨cell, probed, hpath, hcell, rfl, rfl⟩ hrest.2⟩

end GatewayVpn.Candidate
