import GatewayVpn.Mihomo.Transaction

/-!
# Mihomo: what the markers say after failures and crashes

After an `Apply` that reports a rollback the markers should name the generation that was last known
good before it, and an LKG marker without a pending one should name a generation that can be
trusted.
-/

namespace GatewayVpn.Mihomo

open Durable Option World

/-! ## the properties -/

/-- without a pending marker the LKG was verified last and never reported as rolled back -/
def Trustworthy (w : World) : Prop :=
  w.pending = none → ∀ g, w.lkg = some g → w.verifiedLast g = true ∧ g ∉ w.rejected

/-- a reported rollback leaves both markers at the LKG of before -/
def Restores (before : World) (outcome : Option Reply × World) : Prop :=
  ∀ reply, outcome.1 = some reply → reply.rejects = true →
    outcome.2.active = before.lkg ∧ outcome.2.lkg = before.lkg

/-! ## the condition -/

def Recorded (env : Op → Fate) (g : String) : Prop :=
  env (.activate g) = .ok ∧ env (.verify g) = .ok ∧ env (.writeMarker .active g) ≠ .fail

/-- the previous generation is activated, verified and recorded again, or nothing of it was lost -/
def Returns (env : Op → Fate) (w : World) (g p : String) : Prop :=
  (env (.activate p) = .ok ∧ env (.verify p) = .ok ∧ env (.writeMarker .active p) ≠ .fail) ∨
    (w.active = some p ∧ w.verifiedLast p = true ∧ ¬ Recorded env g ∧
      (env (.activate p) = .ok → env (.verify p) = .ok))

/-- an `Apply` whose LKG marker is not written under an error, which without an LKG writes both
markers or none, and which with one can return to it -/
structure SteadyApply (env : Op → Fate) (w : World) (g : String) : Prop where
  record : env (.writeMarker .lkg g) ≠ .late
  first : w.lkg = none → w.active = none ∧ env (.writeMarker .active g) ≠ .late ∧
    env (.writeMarker .lkg g) = .ok
  returns : ∀ p, w.lkg = some p → Returns env w g p

def Steady (w : World) (t : Turn) : Prop :=
  match t.call with
  | .apply g _ => SteadyApply t.env w g
  | .restore g =>
    g ∉ w.rejected ∧
    (w.pending = none → w.lkg = some g → t.env (.verify g) = .ok) ∧
    (g = "" → t.env (.removeMarker .lkg) ≠ .fail)
  | .recoverLKG => w.pending ≠ none → ∀ g, w.lkg = some g →
    t.env (.readMarker .lkg) = .ok ∨ w.verifiedLast g = true

/-! ## the invariant -/

structure Trusted (w : World) : Prop where
  verified : w.pending = none → ∀ g, w.lkg = some g → w.verifiedLast g = true
  unrejected : ∀ g, w.lkg = some g → g ∉ w.rejected
  stored : ∀ g, w.lkg = some g → w.has g = true
  safe : ∀ g, w.lkg = some g → safeGenerationID g = true
  known : ∀ g ∈ w.rejected, w.has g = true

theorem Trusted.trustworthy {w : World} (h : Trusted w) : Trustworthy w :=
  fun hp g hg => ⟨h.verified hp g hg, h.unrejected g hg⟩

structure SameLKG (w v : World) : Prop where
  lkg : v.lkg = w.lkg
  rejected : v.rejected = w.rejected
  stored : ∀ g, w.has g = true → v.has g = true

theorem Trusted.same {w v : World} (h : Trusted w) (hs : SameLKG w v)
    (hverified : v.pending = none → ∀ g, v.lkg = some g → v.verifiedLast g = true) : Trusted v := by
  refine ⟨hverified, fun g hg => ?_, fun g hg => ?_, fun g hg => ?_, fun g hg => ?_⟩
  · rw [hs.rejected]
    exact h.unrejected g (hs.lkg ▸ hg)
  · exact hs.stored g (h.stored g (hs.lkg ▸ hg))
  · exact h.safe g (hs.lkg ▸ hg)
  · exact hs.stored g (h.known g (hs.rejected ▸ hg))

theorem Trusted.pending {w v : World} (h : Trusted w) (hs : SameLKG w v) {g : String}
    (hp : v.pending = some g) : Trusted v :=
  h.same hs fun hnone => by rw [hp] at hnone; cases hnone

/-! ## the rollback -/

/-- what an `Apply` of `g` leaves: if it reports a rollback, both markers are at `l`, and `g` is a
stored generation that `l` does not name -/
structure Undone (l : Option String) (g : String) (reply : Reply) (u : World) : Prop where
  trusted : Trusted u
  generation : reply.result.rolledBack = true → reply.result.generation = g
  restores : reply.result.rolledBack = true → u.active = l ∧ u.lkg = l
  stored : reply.result.rolledBack = true → l ≠ some g ∧ u.has g = true

theorem Undone.plain {l : Option String} {g : String} {reply : Reply} {u : World} (h : Trusted u)
    (hreply : reply.result.rolledBack = false) : Undone l g reply u := by
  refine ⟨h, fun hr => ?_, fun hr => ?_, fun hr => ?_⟩ <;>
  · rw [hreply] at hr
    cases hr

section
variable {c : Controller} {env : Op → Fate} {v : World} {result : ApplyResult}
variable {l : Option String} {p : String} {cause rollbackErr : String}

theorem Trusted.run (h : Trusted v) (running : Option String) : Trusted { v with running } :=
  h.same ⟨rfl, rfl, fun _ h => h⟩ h.verified

theorem Trusted.activate (h : Trusted v) (content : Option String) :
    Trusted (v.mark .active content) :=
  h.same ⟨rfl, rfl, fun _ h => h⟩ h.verified

theorem Trusted.unpend (h : Trusted v) (hverified : ∀ g, v.lkg = some g → v.verifiedLast g = true) :
    Trusted (v.mark .pending none) :=
  h.same ⟨rfl, rfl, fun _ h => h⟩ fun _ => hverified

theorem Trusted.verify (h : Trusted v) (hpending : v.pending ≠ none) (g : String) (outcome : Bool) :
    Trusted { v with verified := (g, outcome) :: v.verified } :=
  h.same ⟨rfl, rfl, fun _ h => h⟩ fun hnone => absurd hnone hpending

theorem verifiedLast_cons (w : World) (g : String) :
    World.verifiedLast { w with verified := (g, true) :: w.verified } g = true := by
  simp [verifiedLast]

/-- the markers are already where they should be -/
theorem along_blockAndClear {blocked : String → Option String}
    {cleared : Option String → Option String} (h : Trusted v) (hactive : v.active = l)
    (hlkg : v.lkg = l) (hverified : ∀ g, v.lkg = some g → v.verifiedLast g = true)
    (hresult : result.rolledBack = false)
    (hhas : l ≠ some result.generation ∧ v.has result.generation = true) :
    along exec env Trusted (blockAndClear result blocked cleared)
      (Undone l result.generation) v := by
  refine along_failClosed h ?_ fun running => Undone.plain (h.run running) hresult
  refine along_removeMarker (h.run none) (fun _ => ?_) fun _ _ => ?_
  · exact ⟨(h.run none).unpend hverified, fun _ => rfl, fun _ => ⟨hactive, hlkg⟩, fun _ => hhas⟩
  · exact ⟨h.run none, fun _ => rfl, fun _ => ⟨hactive, hlkg⟩, fun _ => hhas⟩

theorem along_failClosedRollback (h : Trusted v) (hactive : v.active = l) (hlkg : v.lkg = l)
    (hverified : ∀ g, v.lkg = some g → v.verifiedLast g = true)
    (hresult : result.rolledBack = false)
    (hhas : l ≠ some result.generation ∧ v.has result.generation = true) :
    along exec env Trusted (failClosedRollback c result cause rollbackErr)
      (Undone l result.generation) v := by
  rw [failClosedRollback]
  split
  · exact along_blockAndClear h hactive hlkg hverified hresult hhas
  · exact Undone.plain h hresult

theorem along_rollbackToNone (h : Trusted v) (hactive : v.active = none) (hlkg : v.lkg = none)
    (hresult : result.rolledBack = false) (hhas : v.has result.generation = true) :
    along exec env Trusted (rollbackToNone c result cause) (Undone none result.generation) v := by
  rw [rollbackToNone]
  split
  · refine along_blockAndClear h hactive hlkg (fun g hg => ?_) hresult ⟨by simp, hhas⟩
    rw [hlkg] at hg
    cases hg
  · exact Undone.plain h hresult

/-- the previous generation is verified again: its marker is written, or it is already there -/
theorem along_rollbackTo (h : Trusted v) (hpending : v.pending ≠ none) (hlkg : v.lkg = some p)
    (hprevious : result.previousGeneration = p) (hsafe : safeGenerationID p = true)
    (hresult : result.rolledBack = false)
    (hhas : some p ≠ some result.generation ∧ v.has result.generation = true)
    (hreturns : (env (.activate p) = .ok ∧ env (.verify p) = .ok ∧
        env (.writeMarker .active p) ≠ .fail) ∨ (v.active = some p ∧ v.verifiedLast p = true ∧
        (env (.activate p) = .ok → env (.verify p) = .ok))) :
    along exec env Trusted (rollbackTo c result cause) (Undone (some p) result.generation) v := by
  subst hprevious
  have honly : ∀ g, v.lkg = some g → g = result.previousGeneration :=
    fun g hg => some.inj (hg.symm.trans hlkg)
  refine along_activate h (fun hact => ?_) fun hact => ?_
  · have hrun := h.run (some result.previousGeneration)
    refine along_verify hrun (fun hver => ?_) fun hver => ?_
    · -- from here on the LKG was verified last
      have htrusted := hrun.verify hpending result.previousGeneration true
      have hverified : ∀ g, v.lkg = some g → verifiedLast { v with
          running := some result.previousGeneration
          verified := (result.previousGeneration, true) :: v.verified } g = true :=
        fun g hg => honly g hg ▸ verifiedLast_cons _ _
      refine along_writeMarker hsafe htrusted (fun _ => ?_) (fun hw => ?_) fun _ => ?_
      · refine along_removeMarker (htrusted.activate _) (fun r => ?_) fun r _ => ?_
        · have hend := (htrusted.activate (some result.previousGeneration)).unpend hverified
          cases r <;> exact ⟨hend, fun _ => rfl, fun _ => ⟨rfl, hlkg⟩, fun _ => hhas⟩
        · have hend := htrusted.activate (some result.previousGeneration)
          cases r <;> exact ⟨hend, fun _ => rfl, fun _ => ⟨rfl, hlkg⟩, fun _ => hhas⟩
      · have hactive : v.active = some result.previousGeneration :=
          hreturns.elim (fun hr => absurd hw hr.2.2) (·.1)
        exact ⟨htrusted, fun _ => rfl, fun _ => ⟨hactive, hlkg⟩, fun _ => hhas⟩
      · exact ⟨htrusted.activate _, fun _ => rfl, fun _ => ⟨rfl, hlkg⟩, fun _ => hhas⟩
    · exact absurd (hreturns.elim (·.2.1) fun hr => hr.2.2 hact) hver
  · obtain ⟨hactive, hverified, _⟩ := hreturns.resolve_left fun hr => hact hr.1
    exact along_failClosedRollback (h.run none) hactive hlkg (fun g hg => honly g hg ▸ hverified)
      hresult hhas

end

/-! ## Apply -/

/-- `v` is a world in the middle of an `Apply` of the new generation `g` that started in `w`; only
its active marker may have changed -/
structure Trying (w : World) (g : String) (v : World) : Prop where
  new : w.has g = false
  same : SameLKG w v
  pending : v.pending = some g
  stored : v.has g = true
  verified : ∀ p, p ≠ g → v.verifiedLast p = w.verifiedLast p

section
variable {c : Controller} {env : Op → Fate} {w v : World} {result : ApplyResult} {g p : String}
variable {cause : String}

section
variable (ht : Trying w g v)
include ht

theorem Trying.trusted (h : Trusted w) : Trusted v := h.pending ht.same
    ht.pending

theorem Trying.ne (h : Trusted w) (hp : w.lkg = some p) : p ≠ g := by
  rintro rfl
  have hstored := h.stored p hp
  rw [ht.new] at hstored
  cases hstored

theorem Trying.run (running : Option String) : Trying w g { v with running } :=
  ⟨ht.new, ⟨ht.same.lkg, ht.same.rejected, ht.same.stored⟩, ht.pending, ht.stored, ht.verified⟩

theorem Trying.verify (outcome : Bool) :
    Trying w g { v with verified := (g, outcome) :: v.verified } := by
  refine ⟨ht.new, ⟨ht.same.lkg, ht.same.rejected, ht.same.stored⟩, ht.pending, ht.stored,
    fun p hp => ?_⟩
  rw [← ht.verified p hp]
  simp [verifiedLast, List.lookup_cons, beq_eq_false_iff_ne.mpr hp]

theorem Trying.activate (content : Option String) : Trying w g (v.mark .active content) :=
  ⟨ht.new, ⟨ht.same.lkg, ht.same.rejected, ht.same.stored⟩, ht.pending, ht.stored, ht.verified⟩

end

structure Attempt (w : World) (g : String) (result : ApplyResult) : Prop where
  generation : result.generation = g
  safe : safeGenerationID g = true
  previous : result.previousGeneration = w.lkg.getD ""
  previousSafe : ∀ p, w.lkg = some p → safeGenerationID p = true
  rolledBack : result.rolledBack = false

theorem safeGenerationID_ne (h : safeGenerationID p = true) : p ≠ "" := by
  rintro rfl
  simp [safeGenerationID, charset] at h

section
variable (h : Trusted w) (ht : Trying w g v) (ha : Attempt w g result)
include h ht ha

theorem along_rollback (hnone : w.lkg = none → v.active = none)
    (hreturns : ∀ p, w.lkg = some p → (env (.activate p) = .ok ∧ env (.verify p) = .ok ∧
        env (.writeMarker .active p) ≠ .fail) ∨ (v.active = some p ∧ w.verifiedLast p = true ∧
        (env (.activate p) = .ok → env (.verify p) = .ok))) :
    along exec env Trusted (rollback c result cause) (Undone w.lkg g) v := by
  have hhas : v.has result.generation = true := ha.generation ▸ ht.stored
  rw [rollback]
  cases hl : w.lkg with
  | none =>
    have hprevious : result.previousGeneration = "" := by
      rw [ha.previous, hl]
      rfl
    rw [if_pos hprevious, ← ha.generation]
    exact along_rollbackToNone (ht.trusted h) (hnone hl) (ht.same.lkg.trans hl) ha.rolledBack hhas
  | some p =>
  have hprevious : result.previousGeneration = p := by
    rw [ha.previous, hl]
    rfl
  have hsafe := ha.previousSafe p hl
  rw [if_neg (hprevious ▸ safeGenerationID_ne hsafe), ← ha.generation]
  refine along_rollbackTo (ht.trusted h) (by simp [ht.pending]) (ht.same.lkg.trans hl) hprevious
    hsafe ha.rolledBack ⟨fun heq => ht.ne h hl (by rw [some.inj heq, ha.generation]), hhas⟩ ?_
  rw [ht.verified p (ht.ne h hl)]
  exact hreturns p hl

theorem along_rollback_early (hst : SteadyApply env w g) (hactive : v.active = w.active) :
    along exec env Trusted (rollback c result cause) (Undone w.lkg g) v := by
  refine along_rollback h ht ha (fun hl => hactive.trans (hst.first hl).1) fun p hl => ?_
  exact (hst.returns p hl).imp id fun hr => ⟨hactive.trans hr.1, hr.2.1, hr.2.2.2⟩

theorem along_rollback_recorded (hst : SteadyApply env w g) (hrecorded : Recorded env g)
    (hsome : w.lkg ≠ none) :
    along exec env Trusted (rollback c result cause) (Undone w.lkg g) v := by
  refine along_rollback h ht ha (fun hl => absurd hl hsome) fun p hl => ?_
  exact Or.inl ((hst.returns p hl).resolve_right fun hr => hr.2.2.1 hrecorded)

end

theorem Trying.record (ht : Trying w g v) (h : Trusted w) (hsafe : safeGenerationID g = true)
    (hverified : v.verifiedLast g = true) : Trusted (v.mark .lkg (some g)) := by
  have hrejected : g ∉ v.rejected := by
    rw [ht.same.rejected]
    intro hg
    have hknown := h.known g hg
    rw [ht.new] at hknown
    cases hknown
  refine ⟨fun _ x hx => ?_, fun x hx => ?_, fun x hx => ?_, fun x hx => ?_, (ht.trusted h).known⟩
  · exact some.inj hx ▸ hverified
  · exact some.inj hx ▸ hrejected
  · exact some.inj hx ▸ ht.stored
  · exact some.inj hx ▸ hsafe

theorem along_recordGeneration (h : Trusted w) (ht : Trying w g v) (ha : Attempt w g result)
    (hst : SteadyApply env w g) (hactive : v.active = w.active)
    (hverified : v.verifiedLast g = true)
    (hverify : env (.activate g) = .ok ∧ env (.verify g) = .ok) :
    along exec env Trusted (recordGeneration c result) (Undone w.lkg g) v := by
  have hgeneration := ha.generation
  subst hgeneration
  have hsome : env (.writeMarker .active result.generation) = .late ∨
      env (.writeMarker .lkg result.generation) = .fail → w.lkg ≠ none := by
    rintro (hw | hw) hl
    · exact (hst.first hl).2.1 hw
    · rw [(hst.first hl).2.2] at hw
      cases hw
  refine along_writeMarker ha.safe (ht.trusted h) (fun hw => ?_) (fun hw => ?_) fun hw => ?_
  · have ht' := ht.activate (some result.generation)
    have hrecorded : Recorded env result.generation := ⟨hverify.1, hverify.2, by simp [hw]⟩
    refine along_writeMarker ha.safe (ht'.trusted h) (fun _ => ?_) (fun hl => ?_)
      fun hl => absurd hl hst.record
    · have hnew := ht'.record h ha.safe hverified
      refine along_removeMarker hnew (fun r => ?_) fun r _ => ?_
      · have hend := hnew.unpend fun x hx => some.inj hx ▸ hverified
        cases r <;> exact Undone.plain hend ha.rolledBack
      · cases r <;> exact Undone.plain hnew ha.rolledBack
    · exact along_rollback_recorded h ht' ha hst hrecorded (hsome (Or.inr hl))
  · exact along_rollback_early h ht ha hst hactive
  · exact along_rollback_recorded h (ht.activate _) ha hst ⟨hverify.1, hverify.2, by simp [hw]⟩
      (hsome (Or.inl hw))

theorem along_activateCandidate (h : Trusted w) (hv : SameLKG w v) (hnew : w.has g = false)
    (hstored : v.has g = true) (hverified : v.verified = w.verified)
    (hpending : v.pending = w.pending) (hactive : v.active = w.active) (ha : Attempt w g result)
    (hst : SteadyApply env w g) :
    along exec env Trusted (activateCandidate c result) (Undone w.lkg g) v := by
  have hgeneration := ha.generation
  subst hgeneration
  have hlast : ∀ p, v.verifiedLast p = w.verifiedLast p := fun p => by
    rw [verifiedLast, verifiedLast, hverified]
  have htrusted : Trusted v := h.same hv fun hp g hg => by
    rw [hlast]
    exact h.verified (hpending ▸ hp) g (hv.lkg ▸ hg)
  have ht : Trying w result.generation (v.mark .pending (some result.generation)) :=
    ⟨hnew, ⟨hv.lkg, hv.rejected, hv.stored⟩, rfl, hstored, fun p _ => hlast p⟩
  refine along_writeMarker ha.safe htrusted (fun _ => ?_)
    (fun _ => Undone.plain htrusted ha.rolledBack)
    fun _ => Undone.plain (ht.trusted h) ha.rolledBack
  refine along_activate (ht.trusted h) (fun hact => ?_) fun hact => ?_
  · refine along_verify ((ht.run _).trusted h) (fun hver => ?_) fun hver => ?_
    · exact along_recordGeneration h ((ht.run _).verify true) ha hst hactive (verifiedLast_cons _ _)
        ⟨hact, hver⟩
    · exact along_rollback_early h ((ht.run _).verify false) ha hst hactive
  · exact along_rollback_early h (ht.run none) ha hst hactive

theorem along_apply {bundle : Bundle} (h : Trusted w) (hst : SteadyApply env w g) :
    along exec env Trusted (apply c g bundle) (Undone w.lkg g) w := by
  rw [apply]
  split
  · exact Undone.plain h rfl
  next hguard =>
  have hsafe : safeGenerationID g = true := by
    by_contra hbad
    exact hguard (by simp [hbad])
  refine along_prepareRoot h fun r => ?_
  cases r with
  | error err => exact Undone.plain h rfl
  | ok _ =>
  refine along_writeCandidate h (fun hnew r => ?_) fun err => Undone.plain h rfl
  have hv : SameLKG w { w with generations := w.generations ++ [(g, bundle)] } :=
    ⟨rfl, rfl, fun x hx => by simp [has] at hx ⊢; exact Or.inl hx⟩
  have hstored : has { w with generations := w.generations ++ [(g, bundle)] } g = true := by
    simp [has]
  have htrusted := h.same hv h.verified
  cases r with
  | error err => exact Undone.plain htrusted rfl
  | ok _ =>
  refine along_validate htrusted fun r => ?_
  cases r with
  | error err => exact Undone.plain htrusted rfl
  | ok _ =>
  refine along_readMarker htrusted (fun hl => ?_) (fun p hl hp => ?_)
    fun err _ => Undone.plain htrusted rfl
  · have hl : w.lkg = none := hl
    refine along_activateCandidate h hv hnew hstored rfl rfl rfl ⟨rfl, hsafe, ?_, ?_, rfl⟩ hst
    · rw [hl]
    intro p hp
    rw [hl] at hp
    cases hp
  have hl : w.lkg = some p := hl
  refine along_activateCandidate h hv hnew hstored rfl rfl rfl ⟨rfl, hsafe, ?_, ?_, rfl⟩ hst
  · rw [hl]
  intro q hq
  rw [hl] at hq
  exact some.inj hq ▸ hp

end

/-! ## Restore and RecoverLKG -/

/-- a call that never reports a rollback -/
def Settles (reply : Reply) (u : World) : Prop := Trusted u ∧ reply.rejects = false

section
variable {c : Controller} {env : Op → Fate} {w : World} {g : String}

section
variable (h : Trusted w)
include h

theorem Trusted.settles {err : Option String} : Settles { err } w :=
  ⟨h, by simp [Reply.rejects]⟩

theorem Trusted.clear : Trusted (w.mark .lkg none) :=
  ⟨fun _ _ hg => (some_ne_none _ hg.symm).elim, fun _ hg => (some_ne_none _ hg.symm).elim,
    fun _ hg => (some_ne_none _ hg.symm).elim, fun _ hg => (some_ne_none _ hg.symm).elim, h.known⟩

theorem along_restoreNone (hlkg : env (.removeMarker .lkg) ≠ .fail) :
    along exec env Trusted (restoreNone c) Settles w := by
  rw [restoreNone]
  split
  · refine along_failClosed h ?_ fun running => (h.run running).settles
    -- the LKG is gone before the pending marker is
    have hrest : ∀ v (r1 : Except String Unit), Trusted v → along exec env Trusted
        (.call (.removeMarker .lkg) fun r2 => .call (.removeMarker .pending) fun r3 =>
          .done { err := joinErrors [fails r1, fails r2, fails r3] }) Settles v := by
      intro v r1 hv
      refine along_removeMarker hv (fun r2 => ?_) fun _ hf => absurd hf hlkg
      refine along_removeMarker hv.clear (fun r3 => ?_) fun r3 _ => hv.clear.settles
      exact (hv.clear.unpend fun _ hg => (some_ne_none _ hg.symm).elim).settles
    refine along_removeMarker (h.run none) (fun r1 => ?_) fun r1 _ => hrest _ r1 (h.run none)
    exact hrest _ r1 ((h.run none).activate none)
  · exact h.settles

theorem Trusted.reverify (outcome : Bool)
    (hlkg : w.pending = none → w.lkg = some g → outcome = true) :
    Trusted { w with verified := (g, outcome) :: w.verified } := by
  refine h.same ⟨rfl, rfl, fun _ h => h⟩ fun hp x hx => ?_
  by_cases hxg : x = g
  · subst hxg
    rw [hlkg hp hx]
    exact verifiedLast_cons w x
  · have hlast := h.verified hp x hx
    simpa [verifiedLast, List.lookup_cons, beq_eq_false_iff_ne.mpr hxg] using hlast

theorem along_restoreGeneration (hsafe : safeGenerationID g = true) (hrejected : g ∉ w.rejected)
    (hverify : w.pending = none → w.lkg = some g → env (.verify g) = .ok) :
    along exec env Trusted (restoreGeneration c g) Settles w := by
  refine along_statGeneration h (fun hstored => ?_) fun err => h.settles
  refine along_activate h (fun _ => ?_) fun _ => (h.run none).settles
  refine along_verify (h.run _) (fun _ => ?_) fun hver => ?_
  · have hv := (h.run (some g)).reverify (g := g) true fun _ _ => rfl
    have hnew : Trusted ((mark { w with
        running := some g
        verified := (g, true) :: w.verified } .active (some g)).mark .lkg (some g)) := by
      refine ⟨fun _ x hx => ?_, fun x hx => ?_, fun x hx => ?_, fun x hx => ?_, h.known⟩
      · exact some.inj hx ▸ verifiedLast_cons _ g
      · exact some.inj hx ▸ hrejected
      · exact some.inj hx ▸ hstored
      · exact some.inj hx ▸ hsafe
    refine along_writeMarker hsafe hv (fun _ => ?_) (fun _ => hv.settles)
      fun _ => (hv.activate _).settles
    refine along_writeMarker hsafe (hv.activate _) (fun _ => ?_) (fun _ => (hv.activate _).settles)
      fun _ => hnew.settles
    refine along_removeMarker hnew (fun _ => ?_) fun _ _ => hnew.settles
    exact (hnew.unpend fun x hx => some.inj hx ▸ verifiedLast_cons _ g).settles
  have hv := (h.run (some g)).reverify false fun hp hl => absurd (hverify hp hl) hver
  show along exec env Trusted (blockRestored c _) Settles _
  rw [blockRestored]
  split
  · exact along_failClosed hv (hv.run none).settles fun running => (hv.run running).settles
  · exact hv.settles

theorem along_restore (hrejected : g ∉ w.rejected)
    (hverify : w.pending = none → w.lkg = some g → env (.verify g) = .ok)
    (hlkg : g = "" → env (.removeMarker .lkg) ≠ .fail) :
    along exec env Trusted (restore c g) Settles w := by
  rw [restore]
  split
  · exact h.settles
  split
  · exact h.settles
  next hguard =>
  refine along_prepareRoot h fun r => ?_
  cases r with
  | error err => exact h.settles
  | ok _ =>
  dsimp only
  split
  · next hempty => exact along_restoreNone h (hlkg hempty)
  next hne =>
  refine along_restoreGeneration h ?_ hrejected hverify
  simpa [hne] using hguard

/-- a pending marker protects the LKG until it has been verified -/
theorem along_recoverGeneration (hpending : w.pending ≠ none) (hlkg : w.lkg = some g)
    (hsafe : safeGenerationID g = true) :
    along exec env Trusted (recoverGeneration c g) Settles w := by
  have hblock : ∀ {v : World} {cause : String}, Trusted v →
      along exec env Trusted (failClosedRecovery c cause) Settles v := by
    intro v cause hv
    rw [failClosedRecovery]
    split
    · exact along_failClosed hv (hv.run none).settles fun running => (hv.run running).settles
    · exact hv.settles
  refine along_activate h (fun _ => ?_) fun _ => hblock (h.run none)
  refine along_verify (h.run _) (fun _ => ?_) fun _ =>
    hblock ((h.run (some g)).verify hpending g false)
  have hv := (h.run (some g)).verify hpending g true
  refine along_writeMarker hsafe hv (fun _ => ?_) (fun _ => hv.settles) fun _ => (hv.activate _).settles
  refine along_removeMarker (hv.activate _) (fun _ => ?_) fun _ _ => (hv.activate _).settles
  refine ((hv.activate (some g)).unpend fun x hx => ?_).settles
  obtain rfl : g = x := some.inj (hlkg.symm.trans hx)
  exact verifiedLast_cons _ _

theorem along_recoverNone (hverified : ∀ g, w.lkg = some g → w.verifiedLast g = true) :
    along exec env Trusted (recoverNone c) Settles w := by
  rw [recoverNone]
  split
  · refine along_failClosed h ?_ fun running => (h.run running).settles
    refine along_removeMarker (h.run none) (fun _ => ?_) fun _ _ => (h.run none).settles
    exact ((h.run none).unpend hverified).settles
  · exact h.settles

/-- an LKG that cannot be read loses its pending marker, so it has to be verified already -/
theorem along_recoverLKG (hread : w.pending ≠ none → ∀ g, w.lkg = some g →
      env (.readMarker .lkg) = .ok ∨ w.verifiedLast g = true) :
    along exec env Trusted (recoverLKG c) Settles w := by
  rw [recoverLKG]
  split
  · exact h.settles
  refine along_readMarker h (fun _ => h.settles) (fun p hp _ => ?_) fun err _ => h.settles
  have hpending : w.pending ≠ none := by
    rw [show w.pending = some p from hp]
    simp
  refine along_readMarker h (fun hl => ?_) (fun g hl hsafe => ?_) fun err hfailed => ?_
  · refine along_recoverNone h fun g hg => ?_
    rw [show w.lkg = none from hl] at hg
    cases hg
  · exact along_recoverGeneration h hpending hl hsafe
  refine along_recoverNone h fun g hg => (hread hpending g hg).resolve_left fun hok => ?_
  obtain ⟨g', hg', hunsafe⟩ := hfailed hok
  exact hunsafe (h.safe g' hg')

end

end

/-! ## runs -/

section
variable {c : Controller} {w : World} {t : Turn}

/-- every call, finished or cut off, leaves a trusted world and restores what it rolls back -/
theorem along_turn (h : Trusted w) (hst : Steady w t) :
    along exec t.env Trusted (t.call.action c) (fun reply u => Trusted u ∧
      (reply.rejects = true → Undone w.lkg reply.result.generation reply u ∧
        reply.result.rolledBack = true)) w := by
  have hsettles : ∀ reply u, Settles reply u → Trusted u ∧ (reply.rejects = true →
      Undone w.lkg reply.result.generation reply u ∧ reply.result.rolledBack = true) := by
    intro reply u hend
    refine ⟨hend.1, fun hr => ?_⟩
    rw [hend.2] at hr
    cases hr
  obtain ⟨call, env, cut⟩ := t
  cases call with
  | apply g bundle =>
    refine along_mono (fun _ h => h) (fun reply u hend => ?_) (along_apply h hst)
    refine ⟨hend.trusted, fun hr => ?_⟩
    have hrolled : reply.result.rolledBack = true := (Bool.and_eq_true_iff.mp hr).2
    rw [hend.generation hrolled]
    exact ⟨hend, hrolled⟩
  | restore g =>
    exact along_mono (fun _ h => h) hsettles (along_restore h hst.1 hst.2.1 hst.2.2)
  | recoverLKG => exact along_mono (fun _ h => h) hsettles (along_recoverLKG h hst)

theorem Trusted.outcome (h : Trusted w) (hst : Steady w t) :
    Trusted (t.outcome c w).2 ∧ ∀ reply, (t.outcome c w).1 = some reply → reply.rejects = true →
      Undone w.lkg reply.result.generation reply (t.outcome c w).2 ∧
        reply.result.rolledBack = true := by
  obtain ⟨hdone, hcut⟩ := along_runFor (along_turn h hst) t.cut
  refine ⟨?_, fun reply hreply => (hdone reply hreply).2⟩
  cases hreply : (t.outcome c w).1 with
  | none => exact hcut hreply
  | some reply => exact (hdone reply hreply).1

theorem Trusted.restores (h : Trusted w) (hst : Steady w t) : Restores w (t.outcome c w) := by
  intro reply hreply hrejects
  obtain ⟨hundone, hrolled⟩ := (h.outcome hst).2 reply hreply hrejects
  exact hundone.restores hrolled

/-- **a steady turn keeps the invariant**: the LKG does not name the rejected generation -/
theorem Trusted.after (h : Trusted w) (hst : Steady w t) : Trusted (after c w t) := by
  obtain ⟨hout, hrun⟩ := h.outcome hst
  rw [Mihomo.after]
  cases houtcome : t.outcome c w with
  | mk reply u =>
  rw [houtcome] at hout hrun
  cases reply with
  | none => exact hout
  | some reply =>
  dsimp only
  split
  · next hrejects =>
    obtain ⟨hundone, hrolled⟩ := hrun reply rfl hrejects
    obtain ⟨hne, hstored⟩ := hundone.stored hrolled
    refine ⟨hout.verified, fun g hg => ?_, hout.stored, hout.safe, fun g hg => ?_⟩
    · have hlkg : w.lkg = some g := (hundone.restores hrolled).2.symm.trans hg
      rw [List.mem_cons, not_or]
      refine ⟨fun heq => hne ?_, hout.unrejected g hg⟩
      rw [hlkg, heq]
    · rcases List.mem_cons.mp hg with rfl | hg
      · exact hstored
      · exact hout.known g hg
  · exact hout

end

/-- **In every run of steady turns a reported rollback leaves both markers at the LKG of before, and
an LKG without a pending marker is trustworthy**, wherever the last turn is cut off. -/
theorem markers_kept (c : Controller) (generations : List (String × Bundle)) (turns : List Turn)
    (t : Turn) (hsteady : Throughout (after c) Steady { generations } (turns ++ [t])) :
    let w := turns.foldl (after c) { generations }
    Restores w (t.outcome c w) ∧ Trustworthy (t.outcome c w).2 ∧ Trustworthy (after c w t) := by
  obtain ⟨hturns, ht, _⟩ := Throughout.append.mp hsteady
  have hstart : Trusted { generations } :=
    ⟨fun _ _ hg => (some_ne_none _ hg.symm).elim,
      fun _ hg => (some_ne_none _ hg.symm).elim,
      fun _ hg => (some_ne_none _ hg.symm).elim, fun _ hg => (some_ne_none _ hg.symm).elim,
      fun _ hg => (List.not_mem_nil hg).elim⟩
  have hw := Throughout.invariant (fun _ _ h hst => Trusted.after h hst) hstart hturns
  exact ⟨hw.restores ht, (hw.outcome ht).1.trustworthy, (hw.after ht).trustworthy⟩

/-! ## two applications -/

def sampleBundle : Bundle := { main := "mode: rule" }

def applying (generation : String) (o : Op) (f : Fate) : Turn where
  call := .apply generation sampleBundle
  env := fun o' => if o' = o then f else .ok
  cut := 20

theorem markers_kept_verify_failed :
    let w := [applying "g1" .prepareRoot .ok].foldl (after {}) {}
    let t := applying "g2" (.verify "g2") .fail
    Steady w t ∧ (t.outcome {} w).1.any Reply.rejects = true ∧ Restores w (t.outcome {} w) ∧
      (t.outcome {} w).2.lkg = some "g1" ∧ Trustworthy (after {} w t) := by
  have hfirst : SteadyApply (applying "g1" .prepareRoot .ok).env {} "g1" :=
    ⟨by decide, fun _ => ⟨rfl, by decide, rfl⟩, nofun⟩
  have hlkg : ([applying "g1" .prepareRoot .ok].foldl (after {}) {}).lkg = some "g1" := by
    decide +kernel
  have hsecond : SteadyApply (applying "g2" (.verify "g2") .fail).env
      ([applying "g1" .prepareRoot .ok].foldl (after {}) {}) "g2" := by
    refine ⟨by decide, fun hl => ?_, fun p hp => Or.inl ?_⟩
    · rw [hlkg] at hl
      cases hl
    · obtain rfl := some.inj (hlkg.symm.trans hp)
      decide
  have h := markers_kept {} [] [applying "g1" .prepareRoot .ok] (applying "g2" (.verify "g2") .fail)
    ⟨hfirst, hsecond, trivial⟩
  exact ⟨hsecond, by decide +kernel, h.1, by decide +kernel, h.2.2⟩

/-- **The LKG marker of the second generation is renamed, but its write reports an error.**  `Apply`
reports a rollback; the LKG marker names the generation that was rejected, and nothing is pending. -/
theorem rejected_generation_trusted :
    let w := [applying "g1" .prepareRoot .ok].foldl (after {}) {}
    let t := applying "g2" (.writeMarker .lkg "g2") .late
    w.lkg = some "g1" ∧ ¬ Restores w (t.outcome {} w) ∧ ¬ Trustworthy (after {} w t) := by
  have hlkg : ([applying "g1" .prepareRoot .ok].foldl (after {}) {}).lkg = some "g1" := by
    decide +kernel
  refine ⟨hlkg, fun h => ?_, fun h => ?_⟩
  · have hout : ((applying "g2" (.writeMarker .lkg "g2") .late).outcome {}
        ([applying "g1" .prepareRoot .ok].foldl (after {}) {})).1 = some ⟨⟨"g2", "g1", true⟩,
          some "record Mihomo LKG generation: input/output error"⟩ := by decide +kernel
    have hkept := (h _ hout rfl).2
    revert hkept
    decide +kernel
  · exact absurd (h (by decide +kernel) "g2" (by decide +kernel)).2 (by decide +kernel)

end GatewayVpn.Mihomo
