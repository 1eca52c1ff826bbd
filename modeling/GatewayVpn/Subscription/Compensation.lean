import GatewayVpn.Subscription.Versions

/-!
# Subscription: taking an activation back

`AbortActivation` is meant to undo `Activate`.  It finds the previous version by the order of the
stored times, and it leaves the preferences as the activation wrote them.

The previous version is found by the texts of the times, so `Leads` compares texts: of two
activations within one second the text of the older one can be the greater.
-/

namespace GatewayVpn.Subscriptions

open Durable List Option Table Store
open Access (Fault SelectionOverride)

/-! ## histories -/

inductive Change where
  | stage (input : StageInput)
  | activate (versionID : String)
  | abort (versionID : String) (failure : Option String)

def Change.apply (lib : Library) (now : Time) : Change → Store → Except Fault Store
  | .stage input => Subscriptions.stage lib now input
  | .activate versionID => Subscriptions.activate now versionID
  | .abort versionID failure => abortActivation now versionID failure

/-- a call that fails is rolled back -/
def Change.after (lib : Library) (db : Store) (c : Time × Change) : Store :=
  match c.2.apply lib c.1 db with
  | .ok db' => db'
  | .error _ => db

def replay (lib : Library) (history : List (Time × Change)) (db : Store) : Store :=
  history.foldl (Change.after lib) db

def Forward (history : List (Time × Change)) : Prop := (history.map Prod.fst).Pairwise (· ≤ ·)

structure Fresh (db : Store) : Prop where
  versions : db.versions.rows = []
  preferences : db.preferences.rows = []
  subscriptions : ∀ id s, db.subscriptions.find id = some s →
    s.activeVersionID = none ∧ s.lastSuccessAt = none

/-! ## what a history leaves behind -/

structure SettledAt (db : Store) (subscriptionID : String) : Prop where
  pointed : ∀ id r, db.versions.find id = some r → r.subscriptionID = subscriptionID →
    r.state = .lkg → ∃ s, db.subscriptions.find subscriptionID = some s ∧
      s.activeVersionID = some r.id ∧ r.activatedAt.isSome
  points : ∀ s a, db.subscriptions.find subscriptionID = some s → s.activeVersionID = some a →
    ∃ r, db.versions.find a = some r ∧ r.subscriptionID = subscriptionID ∧ r.state = .lkg
  idle : ∀ s, db.subscriptions.find subscriptionID = some s → s.activeVersionID = none →
    ∀ id r, db.versions.find id = some r → r.subscriptionID = subscriptionID → r.state ≠ .retained
  retained : ∀ id r, db.versions.find id = some r → r.subscriptionID = subscriptionID →
    r.state = .retained → r.activatedAt.isSome

structure Settled (db : Store) : Prop where
  each : ∀ subscriptionID, SettledAt db subscriptionID
  owned : ∀ id r, db.versions.find id = some r →
    (db.subscriptions.find r.subscriptionID).isSome
  seen : ∀ key p, db.preferences.find key = some p →
    ∃ r, db.versions.find p.lastSeenVersionID = some r ∧ r.state ≠ .candidate

structure About (subscriptionID : String) (db db' : Store) : Prop where
  subscriptions : ∀ id, id ≠ subscriptionID → db'.subscriptions.find id = db.subscriptions.find id
  known : (db'.subscriptions.find subscriptionID).isSome
  versions : ∀ id r, r.subscriptionID ≠ subscriptionID →
    (db'.versions.find id = some r ↔ db.versions.find id = some r)
  activated : ∀ id r, db.versions.find id = some r → r.state ≠ .candidate →
    ∃ r', db'.versions.find id = some r' ∧ r'.state ≠ .candidate
  preferences : ∀ key p, db'.preferences.find key = some p →
    (∃ r, db'.versions.find p.lastSeenVersionID = some r ∧ r.state ≠ .candidate) ∨
      ∃ p₀, db.preferences.find key = some p₀ ∧ p.lastSeenVersionID = p₀.lastSeenVersionID

/-- **the frame rule**: the other subscriptions need no proof -/
theorem Settled.step {db db' : Store} {subscriptionID : String} (h : Settled db)
    (hstep : About subscriptionID db db') (hat : SettledAt db' subscriptionID) : Settled db' := by
  refine ⟨?_, ?_, ?_⟩
  · intro id
    by_cases hid : id = subscriptionID
    · exact hid ▸ hat
    have hversions : ∀ k r, r.subscriptionID = id →
        (db'.versions.find k = some r ↔ db.versions.find k = some r) :=
      fun k r hr => hstep.versions k r (hr ▸ hid)
    obtain ⟨hpointed, hpoints, hidle, hretained⟩ := h.each id
    rw [← hstep.subscriptions id hid] at hpointed hpoints hidle
    refine ⟨?_, ?_, ?_, ?_⟩
    · exact fun k r hr hsub => hpointed k r ((hversions k r hsub).mp hr) hsub
    · intro s a hs ha
      obtain ⟨r, hr, hsub, hlkg⟩ := hpoints s a hs ha
      exact ⟨r, (hversions a r hsub).mpr hr, hsub, hlkg⟩
    · exact fun s hs ha k r hr hsub => hidle s hs ha k r ((hversions k r hsub).mp hr) hsub
    · exact fun k r hr hsub => hretained k r ((hversions k r hsub).mp hr) hsub
  · intro id r hr
    by_cases hsub : r.subscriptionID = subscriptionID
    · rw [hsub]
      exact hstep.known
    · rw [hstep.subscriptions _ hsub]
      exact h.owned id r ((hstep.versions id r hsub).mp hr)
  intro key p hp
  rcases hstep.preferences key p hp with hseen | ⟨p0, hp0, hseen⟩
  · exact hseen
  obtain ⟨r, hr, hnot⟩ := h.seen key p0 hp0
  rw [hseen]
  exact hstep.activated _ r hr hnot

theorem Fresh.settled {db : Store} (h : Fresh db) : Settled db := by
  have hversions : ∀ {id r}, db.versions.find id ≠ some r := by
    intro id r hr
    rw [find, h.versions, find?_nil] at hr
    cases hr
  refine ⟨fun subscriptionID => ⟨?_, ?_, ?_, ?_⟩, ?_, ?_⟩
  · exact fun id r hr => absurd hr hversions
  · intro s a hs ha
    rw [(h.subscriptions _ s hs).1] at ha
    cases ha
  · exact fun s hs _ id r hr => absurd hr hversions
  · exact fun id r hr => absurd hr hversions
  · exact fun id r hr => absurd hr hversions
  intro key p hp
  rw [find, h.preferences, find?_nil] at hp
  cases hp

theorem Settled.unique {db : Store} (h : Settled db) {a b : Version}
    (ha : db.versions.find a.id = some a) (hb : db.versions.find b.id = some b)
    (hla : a.state = .lkg) (hlb : b.state = .lkg) (hsub : a.subscriptionID = b.subscriptionID) :
    a = b := by
  obtain ⟨s, hs, hsa, _⟩ := (h.each b.subscriptionID).pointed _ _ ha hsub hla
  obtain ⟨s', hs', hsb, _⟩ := (h.each b.subscriptionID).pointed _ _ hb rfl hlb
  obtain rfl : s = s' := some.inj (hs.symm.trans hs')
  have hid : a.id = b.id := some.inj (hsa.symm.trans hsb)
  rw [hid] at ha
  exact some.inj (ha.symm.trans hb)

/-! ## a candidate is staged, or fails -/

section
variable {lib : Library} {now : Time} {db db' : Store} {x : Version} {k : String}

/-- one version is replaced by one that is neither LKG nor retained; the one before was neither -/
theorem Settled.replace (h : Settled db)
    (hversions : ∀ id, db'.versions.find id = if id = k then some x else db.versions.find id)
    (hsubscriptions : db'.subscriptions = db.subscriptions)
    (hpreferences : db'.preferences = db.preferences) (hx : x.state ≠ .lkg ∧ x.state ≠ .retained)
    (hknown : (db.subscriptions.find x.subscriptionID).isSome)
    (hbefore : ∀ r, db.versions.find k = some r →
      r.subscriptionID = x.subscriptionID ∧ r.state = .candidate) : Settled db' := by
  have hcases : ∀ id r, db'.versions.find id = some r →
      (id = k ∧ r = x) ∨ (id ≠ k ∧ db.versions.find id = some r) := by
    intro id r hr
    rw [hversions] at hr
    split at hr
    · next hid => exact Or.inl ⟨hid, (some.inj hr).symm⟩
    · next hid => exact Or.inr ⟨hid, hr⟩
  have hkept : ∀ id r, db.versions.find id = some r →
      (r.subscriptionID ≠ x.subscriptionID ∨ r.state ≠ .candidate) →
      db'.versions.find id = some r := by
    intro id r hr hdiffers
    rw [hversions, if_neg, hr]
    rintro rfl
    obtain ⟨hsub, hstate⟩ := hbefore r hr
    exact hdiffers.elim (fun hne => hne hsub) (fun hne => hne hstate)
  refine @Settled.step _ _ x.subscriptionID h ⟨?_, ?_, ?_, ?_, ?_⟩ ⟨?_, ?_, ?_, ?_⟩
  · exact fun id _ => by rw [hsubscriptions]
  · rw [hsubscriptions]
    exact hknown
  · intro id r hsub
    refine ⟨fun hr => ?_, fun hr => hkept id r hr (Or.inl hsub)⟩
    rcases hcases id r hr with ⟨_, rfl⟩ | ⟨_, hr⟩
    · exact absurd rfl hsub
    · exact hr
  · exact fun id r hr hnot => ⟨r, hkept id r hr (Or.inr hnot), hnot⟩
  · intro key p hp
    rw [hpreferences] at hp
    exact Or.inr ⟨p, hp, rfl⟩
  · intro id r hr hsub hlkg
    rw [hsubscriptions]
    rcases hcases id r hr with ⟨_, rfl⟩ | ⟨_, hr⟩
    · exact absurd hlkg hx.1
    · exact (h.each _).pointed id r hr hsub hlkg
  · intro s a hs ha
    rw [hsubscriptions] at hs
    obtain ⟨r, hr, hsub, hlkg⟩ := (h.each _).points s a hs ha
    exact ⟨r, hkept a r hr (Or.inr (by rw [hlkg]; simp)), hsub, hlkg⟩
  · intro s hs ha id r hr hsub
    rw [hsubscriptions] at hs
    rcases hcases id r hr with ⟨_, rfl⟩ | ⟨_, hr⟩
    · exact hx.2
    · exact (h.each _).idle s hs ha id r hr hsub
  · intro id r hr hsub hret
    rcases hcases id r hr with ⟨_, rfl⟩ | ⟨_, hr⟩
    · exact absurd hret hx.2
    · exact (h.each _).retained id r hr hsub hret

theorem Settled.staged {input : StageInput} {nodes : List ImportedNode}
    {entries : List Classification} (h : Settled db)
    (hst : Staged lib now input db db' nodes entries) : Settled db' := by
  refine h.replace hst.versions hst.subscriptions hst.preferences ⟨by simp [StageInput.version],
    by simp [StageInput.version]⟩ (isSome_iff_ne_none.mpr hst.known) ?_
  intro r hr
  rw [hst.fresh] at hr
  cases hr

end

section
variable {db : Store} {v : Version} {message : String} {now : Time}

theorem find_failed (hv : db.versions.find v.id = some v) (id : String) :
    (db.failVersion v.id message).versions.find id =
      if id = v.id then some (v.failWith message) else db.versions.find id := by
  split
  · next hid => rw [hid, find_failVersion, hv, map_some, if_pos rfl]
  · next hid => exact find_update_ne (Version.failWith_id message) hid

theorem Settled.failed (h : Settled db) (hv : db.versions.find v.id = some v)
    (hstate : v.state = .candidate) : Settled (db.failVersion v.id message) := by
  refine h.replace (find_failed hv) rfl rfl ⟨by simp [Version.failWith], by simp [Version.failWith]⟩
    (h.owned v.id v hv) ?_
  intro r hr
  rw [hv] at hr
  obtain rfl := some.inj hr
  exact ⟨rfl, hstate⟩

end

/-! ## one activation -/

variable {r : Version}

section
variable {now : Time} {db : Store} {v : Version}

def Version.promoted (now : Time) (v : Version) : Version :=
  { v with state := .lkg, activatedAt := some now }

def Version.demoted (v r : Version) : Version :=
  if r.subscriptionID = v.subscriptionID && r.state = .lkg then { r with state := .retained } else r

@[simp] theorem Version.demoted_subscriptionID (v r : Version) :
    (v.demoted r).subscriptionID = r.subscriptionID := by
  unfold demoted
  split <;> rfl

@[simp] theorem Version.demoted_activatedAt (v r : Version) :
    (v.demoted r).activatedAt = r.activatedAt := by
  unfold demoted
  split <;> rfl

theorem Version.demoted_eq {v r : Version}
    (h : r.subscriptionID ≠ v.subscriptionID ∨ r.state ≠ .lkg) : v.demoted r = r := by
  unfold demoted
  rw [if_neg]
  rw [Bool.and_eq_true, decide_eq_true_eq, decide_eq_true_eq, not_and_or]
  exact h

theorem Version.demoted_ne_lkg {v r : Version} (hsub : r.subscriptionID = v.subscriptionID) :
    (v.demoted r).state ≠ .lkg := by
  by_cases hlkg : r.state = .lkg
  · simp [demoted, hsub, hlkg]
  · rw [demoted_eq (Or.inr hlkg)]
    exact hlkg

theorem Version.demoted_ne_candidate {v r : Version} (h : r.state ≠ .candidate) :
    (v.demoted r).state ≠ .candidate := by
  unfold demoted
  split
  · exact nofun
  · exact h

theorem find_activated (hv : db.versions.find v.id = some v) (id : String) :
    (db.activated now v).versions.find id =
      if id = v.id then some (v.promoted now) else (db.versions.find id).map v.demoted :=
  find_activated_version hv id

theorem activated_version (hv : db.versions.find v.id = some v) {id : String}
    (hr : (db.activated now v).versions.find id = some r) :
    r = v.promoted now ∨ (id ≠ v.id ∧ ∃ r₀, db.versions.find id = some r₀ ∧ r = v.demoted r₀) := by
  rw [find_activated hv] at hr
  split at hr
  · exact Or.inl (some.inj hr).symm
  next hid =>
  obtain ⟨r₀, hr0, hrr⟩ := map_eq_some_iff.mp hr
  exact Or.inr ⟨hid, r₀, hr0, hrr.symm⟩

theorem find_activated_own {s : Subscription}
    (hs : db.subscriptions.find v.subscriptionID = some s) :
    (db.activated now v).subscriptions.find v.subscriptionID = some (Store.pointed now v.id s) := by
  rw [find_activated_subscription, hs, map_some, if_pos (key_of_find hs)]

theorem activated_lastSeen {key : String × String} {p : Preference}
    (hp : (db.activated now v).preferences.find key = some p) : p.lastSeenVersionID = v.id ∨
      ∃ p₀, db.preferences.find key = some p₀ ∧ p.lastSeenVersionID = p₀.lastSeenVersionID := by
  obtain ⟨subscriptionID, fingerprint⟩ := key
  rw [find_activated_preference] at hp
  split at hp
  · split at hp
    · obtain ⟨p1, _, rfl⟩ := map_eq_some_iff.mp hp
      exact Or.inl rfl
    · obtain ⟨p₀, hp0, rfl⟩ := map_eq_some_iff.mp hp
      exact Or.inr ⟨p₀, hp0, rfl⟩
  · exact Or.inr ⟨p, hp, rfl⟩

theorem Settled.activated (h : Settled db) (hv : db.versions.find v.id = some v) :
    Settled (db.activated now v) := by
  obtain ⟨s, hs⟩ := isSome_iff_exists.mp (h.owned _ _ hv)
  have hself : (db.activated now v).versions.find v.id = some (v.promoted now) := by
    rw [find_activated hv, if_pos rfl]
  refine @Settled.step _ _ v.subscriptionID h ⟨?_, ?_, ?_, ?_, ?_⟩ ⟨?_, ?_, ?_, ?_⟩
  · exact fun id hid => find_update_ne (pointed_id now v.id) hid
  · rw [find_activated_own hs, isSome_some]
  · intro id r hsub
    constructor
    · intro hr
      rcases activated_version hv hr with rfl | ⟨_, r0, hr0, rfl⟩
      · exact absurd rfl hsub
      rw [Version.demoted_subscriptionID] at hsub
      rw [Version.demoted_eq (Or.inl hsub)]
      exact hr0
    · intro hr
      rw [find_activated hv, if_neg, hr, map_some, Version.demoted_eq (Or.inl hsub)]
      rintro rfl
      rw [hv] at hr
      exact hsub (congrArg Version.subscriptionID (some.inj hr).symm)
  · intro id r hr hnot
    by_cases hid : id = v.id
    · exact ⟨_, hid ▸ hself, fun hc => by cases hc⟩
    · refine ⟨v.demoted r, ?_, Version.demoted_ne_candidate hnot⟩
      rw [find_activated hv, if_neg hid, hr, map_some]
  · intro key p hp
    rcases activated_lastSeen hp with hseen | hseen
    · exact Or.inl ⟨_, hseen ▸ hself, fun hc => by cases hc⟩
    · exact Or.inr hseen
  · intro id r hr hsub hlkg
    rcases activated_version hv hr with rfl | ⟨_, r0, hr0, rfl⟩
    · exact ⟨_, find_activated_own hs, rfl, rfl⟩
    · rw [Version.demoted_subscriptionID] at hsub
      exact absurd hlkg (Version.demoted_ne_lkg hsub)
  · intro s' a hs' ha
    obtain rfl := some.inj ((find_activated_own hs).symm.trans hs')
    obtain rfl : v.id = a := some.inj ha
    exact ⟨_, hself, rfl, rfl⟩
  · intro s' hs' ha
    obtain rfl := some.inj ((find_activated_own hs).symm.trans hs')
    cases ha
  intro id r hr hsub hret
  rcases activated_version hv hr with rfl | ⟨_, r0, hr0, rfl⟩
  · cases hret
  rw [Version.demoted_subscriptionID] at hsub
  rw [Version.demoted_activatedAt]
  by_cases hlkg : r0.state = .lkg
  · obtain ⟨_, _, _, hsome⟩ := (h.each _).pointed _ _ hr0 hsub hlkg
    exact hsome
  · rw [Version.demoted_eq (Or.inr hlkg)] at hret
    exact (h.each _).retained _ _ hr0 hsub hret

end

/-! ## an activation that is taken back -/

variable {subscriptionID versionID : String}

section
variable {db : Store} {v : Version} {message : String} {now : Time}

theorem latestRetained_some {previous : Version}
    (h : db.latestRetained subscriptionID versionID = some previous) :
    db.versions.find previous.id = some previous ∧ previous.subscriptionID = subscriptionID ∧
      previous.state = .retained ∧ previous.id ≠ versionID ∧ previous.activatedAt.isSome := by
  obtain ⟨hmem, hrow⟩ := mem_filter.mp (mem_of_firstBy h)
  simp only [Bool.and_eq_true, decide_eq_true_eq] at hrow
  exact ⟨mem_iff_find.mp hmem, hrow.1.1.1, hrow.1.1.2, hrow.1.2, hrow.2⟩

theorem latestRetained_none (h : db.latestRetained subscriptionID versionID = none) {id : String}
    (hr : db.versions.find id = some r) (hsub : r.subscriptionID = subscriptionID)
    (hid : id ≠ versionID) (hsome : r.activatedAt.isSome) : r.state ≠ .retained := by
  intro hret
  have hrow : r ∈ db.versions.rows.filter fun r => r.subscriptionID = subscriptionID &&
      r.state = .retained && r.id ≠ versionID && r.activatedAt.isSome := by
    refine mem_filter.mpr ⟨mem_of_find hr, ?_⟩
    simp [hsub, hret, hsome, key_of_find hr, hid]
  have hfound := @firstBy_isSome _ later _ (ne_nil_of_mem hrow)
  rw [show firstBy later _ = none from h] at hfound
  cases hfound

/-- the version that returns when `v` is taken back -/
def Store.back (db : Store) (v : Version) (message : String) : Option Version :=
  (db.failVersion v.id message).latestRetained v.subscriptionID v.id

def Subscription.pointBack (now : Time) : Option Version → Subscription → Subscription
  | none => Store.cleared now
  | some previous => Store.returned now previous

theorem back_some {p : Version} (hv : db.versions.find v.id = some v)
    (h : db.back v message = some p) :
    db.versions.find p.id = some p ∧ p.subscriptionID = v.subscriptionID ∧ p.id ≠ v.id ∧
      p.activatedAt.isSome := by
  obtain ⟨hp, hsub, _, hne, hsome⟩ := latestRetained_some h
  rw [find_failed hv, if_neg hne] at hp
  exact ⟨hp, hsub, hne, hsome⟩

theorem find_takeBack (hv : db.versions.find v.id = some v) (id : String) :
    (db.takeBack now v message).versions.find id = if id = v.id then some (v.failWith message)
      else if (db.back v message).map Version.id = some id then
        (db.back v message).map Version.reinstated else db.versions.find id := by
  cases hback : db.back v message with
  | none =>
    rw [takeBack, show latestRetained _ _ _ = none from hback]
    exact find_failed hv id
  | some p =>
  obtain ⟨hp, _, hne, _⟩ := back_some hv hback
  rw [takeBack, show latestRetained _ _ _ = some p from hback]
  show ((db.failVersion v.id message).versions.update p.id Version.reinstated
    Version.reinstated_id).find id = _
  by_cases hid : id = p.id
  · simp [hid, hne, find_update_self, find_failed hv, hp]
  · rw [find_update_ne _ hid, find_failed hv]
    simp [Ne.symm hid]

theorem find_takeBack_own {s : Subscription}
    (hs : db.subscriptions.find v.subscriptionID = some s) :
    (db.takeBack now v message).subscriptions.find v.subscriptionID =
      some (s.pointBack now (db.back v message)) := by
  cases hback : db.back v message with
  | none =>
    rw [takeBack, show latestRetained _ _ _ = none from hback]
    show (db.subscriptions.update v.subscriptionID (cleared now)
      (cleared_id now)).find v.subscriptionID = _
    rw [find_update_self, hs]
    rfl
  | some p =>
  rw [takeBack, show latestRetained _ _ _ = some p from hback]
  show (db.subscriptions.update v.subscriptionID (returned now p)
    (returned_id now p)).find v.subscriptionID = _
  rw [find_update_self, hs]
  rfl

theorem pointBack_active (back : Option Version) (s : Subscription) :
    (s.pointBack now back).activeVersionID = back.map Version.id := by
  cases back <;> rfl

theorem pointBack_lastSuccess (back : Option Version) (s : Subscription) :
    (s.pointBack now back).lastSuccessAt = back.bind (·.activatedAt) := by
  cases back <;> rfl

theorem takeBack_other {id : String} (hid : id ≠ v.subscriptionID) :
    (db.takeBack now v message).subscriptions.find id = db.subscriptions.find id := by
  rw [takeBack]
  cases (db.failVersion v.id message).latestRetained v.subscriptionID v.id with
  | none => exact find_update_ne (cleared_id now) hid
  | some previous => exact find_update_ne (returned_id now previous) hid

section
variable (hv : db.versions.find v.id = some v) {id : String}
include hv id

theorem takeBack_version_cases (hr : (db.takeBack now v message).versions.find id = some r) :
    r = v.failWith message ∨ (∃ p, db.back v message = some p ∧ r = p.reinstated) ∨
      (id ≠ v.id ∧ db.versions.find id = some r) := by
  rw [find_takeBack hv] at hr
  split at hr
  · exact Or.inl (some.inj hr).symm
  next hid =>
  split at hr
  · obtain ⟨p, hp, hrp⟩ := map_eq_some_iff.mp hr
    exact Or.inr (Or.inl ⟨p, hp, hrp.symm⟩)
  · exact Or.inr (Or.inr ⟨hid, hr⟩)

theorem takeBack_isSome (hid : (db.versions.find id).isSome) :
    ((db.takeBack now v message).versions.find id).isSome := by
  rw [find_takeBack hv]
  split
  · rfl
  split
  · next hback =>
    obtain ⟨p, hp, _⟩ := map_eq_some_iff.mp hback
    rw [hp]
    rfl
  · exact hid

theorem takeBack_version (hsub : r.subscriptionID ≠ v.subscriptionID) :
    (db.takeBack now v message).versions.find id = some r ↔ db.versions.find id = some r := by
  constructor
  · intro hr
    rcases takeBack_version_cases hv hr with rfl | ⟨p, hp, rfl⟩ | ⟨_, hr⟩
    · exact absurd rfl hsub
    · exact absurd (back_some hv hp).2.1 hsub
    · exact hr
  intro hr
  have hne : ∀ {x : Version}, db.versions.find x.id = some x →
      x.subscriptionID = v.subscriptionID → id ≠ x.id := by
    rintro x hx hxsub rfl
    rw [hx] at hr
    exact hsub (some.inj hr ▸ hxsub)
  rw [find_takeBack hv, if_neg (hne hv rfl), if_neg, hr]
  intro hback
  obtain ⟨p, hp, rfl⟩ := map_eq_some_iff.mp hback
  obtain ⟨hfind, hpsub, _⟩ := back_some hv hp
  exact hne hfind hpsub rfl

end

theorem Settled.takenBack (h : Settled db) (hv : db.versions.find v.id = some v)
    (hlkg : v.state = .lkg) : Settled (db.takeBack now v message) := by
  obtain ⟨s, hs, -⟩ := (h.each _).pointed _ _ hv rfl hlkg
  refine @Settled.step _ _ v.subscriptionID h ⟨?_, ?_, ?_, ?_, ?_⟩ ⟨?_, ?_, ?_, ?_⟩
  · exact fun id hid => takeBack_other hid
  · rw [find_takeBack_own hs, isSome_some]
  · exact fun id r hsub => takeBack_version hv hsub
  · intro id r hr hnot
    rw [find_takeBack hv]
    split
    · exact ⟨_, rfl, by simp [Version.failWith]⟩
    split
    · next hback =>
      obtain ⟨p, hp, _⟩ := map_eq_some_iff.mp hback
      exact ⟨p.reinstated, by rw [hp]; rfl, by simp [Version.reinstated]⟩
    · exact ⟨r, hr, hnot⟩
  · rw [takeBack_preferences]
    exact fun key p hp => Or.inr ⟨p, hp, rfl⟩
  · intro id r hr hsub hstate
    rcases takeBack_version_cases hv hr with rfl | ⟨p, hp, rfl⟩ | ⟨hid, hr⟩
    · cases hstate
    · exact ⟨_, find_takeBack_own hs, by rw [pointBack_active, hp]; rfl, (back_some hv hp).2.2.2⟩
    · obtain rfl : id = r.id := (key_of_find hr).symm
      exact absurd (congrArg Version.id (h.unique hr hv hstate hlkg hsub)) hid
  · intro s' a hs' ha
    obtain rfl := some.inj ((find_takeBack_own hs).symm.trans hs')
    rw [pointBack_active] at ha
    obtain ⟨p, hp, rfl⟩ := map_eq_some_iff.mp ha
    obtain ⟨_, hsub, hne, _⟩ := back_some hv hp
    exact ⟨p.reinstated, by rw [find_takeBack hv, if_neg hne, if_pos ha, hp]; rfl, hsub, rfl⟩
  · intro s' hs' ha id r hr hsub hret
    obtain rfl := some.inj ((find_takeBack_own hs).symm.trans hs')
    rw [pointBack_active, map_eq_none_iff] at ha
    rcases takeBack_version_cases hv hr with rfl | ⟨p, hp, rfl⟩ | ⟨hid, hr⟩
    · cases hret
    · cases hret
    · refine latestRetained_none ha ?_ hsub hid ((h.each _).retained id r hr hsub hret) hret
      rw [find_failed hv, if_neg hid, hr]
  · intro id r hr hsub hret
    rcases takeBack_version_cases hv hr with rfl | ⟨p, hp, rfl⟩ | ⟨_, hr⟩
    · cases hret
    · cases hret
    · exact (h.each _).retained id r hr hsub hret

end

/-! ## every history -/

section
variable {lib : Library} {db : Store}

/-- what an accepted compensation does: nothing, a candidate fails, or the LKG is taken back -/
theorem abortActivation_ok {db' : Store} {now : Time} {versionID : String} {failure : Option String}
    (hok : abortActivation now versionID failure db = .ok db') : db' = db ∨
      (∃ v, db.versions.find v.id = some v ∧ v.state = .candidate ∧
        db' = db.failVersion v.id (abortMessage failure)) ∨
      ∃ v, db.versions.find v.id = some v ∧ v.state = .lkg ∧
        db' = db.takeBack now v (abortMessage failure) := by
  rw [abortActivation] at hok
  split at hok
  · cases hok
  next v hv =>
  obtain rfl : v.id = versionID := key_of_find hv
  split at hok
  · cases hok
    exact Or.inl rfl
  · cases hok
  · next hstate =>
    cases hok
    exact Or.inr (Or.inl ⟨v, hv, hstate, rfl⟩)
  next hstate =>
  cases hok
  exact Or.inr (Or.inr ⟨v, hv, hstate, rfl⟩)

theorem Settled.aborted {db' : Store} {now : Time} {versionID : String} {failure : Option String}
    (h : Settled db) (hok : abortActivation now versionID failure db = .ok db') : Settled db' := by
  rcases abortActivation_ok hok with rfl | ⟨v, hv, hstate, rfl⟩ | ⟨v, hv, hstate, rfl⟩
  · exact h
  · exact h.failed hv hstate
  · exact h.takenBack hv hstate

theorem Settled.after (h : Settled db) (c : Time × Change) : Settled (Change.after lib db c) := by
  rw [Change.after]
  split
  · next db' hok =>
    obtain ⟨now, change⟩ := c
    cases change with
    | stage input =>
      obtain ⟨nodes, entries, hst⟩ := stage_ok hok
      exact h.staged hst
    | activate versionID =>
      obtain ⟨v, hv, hstate, rfl⟩ := activate_ok hok
      obtain rfl : v.id = versionID := key_of_find hv
      exact h.activated hv
    | abort versionID failure => exact h.aborted hok
  · exact h

/-- **every history leaves the versions settled** -/
theorem replay_settled (h : Settled db) (history : List (Time × Change)) :
    Settled (replay lib history db) := by
  induction history generalizing db with
  | nil => exact h
  | cons c history ih => exact ih (h.after c)

end

/-! ## the time of the last success -/

def Timed (db : Store) : Prop :=
  ∀ id s, db.subscriptions.find id = some s →
    s.lastSuccessAt = s.activeVersionID.bind fun a => (db.versions.find a).bind (·.activatedAt)

section
variable {lib : Library} {db db' : Store} {now : Time} {v : Version} {message : String}

theorem Fresh.timed (h : Fresh db) : Timed db := by
  intro id s hs
  rw [(h.subscriptions id s hs).1, (h.subscriptions id s hs).2]
  rfl

theorem Timed.kept (ht : Timed db) (h : Settled db) {id : String} {s : Subscription}
    (hs : db.subscriptions.find id = some s)
    (hversions : ∀ a r, db.versions.find a = some r → r.subscriptionID = id → r.state = .lkg →
      (db'.versions.find a).bind (·.activatedAt) = r.activatedAt) :
    s.lastSuccessAt = s.activeVersionID.bind fun a => (db'.versions.find a).bind (·.activatedAt) := by
  rw [ht id s hs]
  cases hactive : s.activeVersionID with
  | none => rfl
  | some a =>
  obtain ⟨r, hr, hsub, hlkg⟩ := (h.each id).points s a hs hactive
  show (db.versions.find a).bind _ = (db'.versions.find a).bind _
  rw [hversions a r hr hsub hlkg, hr]
  rfl

theorem Timed.replace {k : String} {x : Version} (ht : Timed db) (h : Settled db)
    (hversions : ∀ id, db'.versions.find id = if id = k then some x else db.versions.find id)
    (hsubscriptions : db'.subscriptions = db.subscriptions)
    (hbefore : ∀ r, db.versions.find k = some r → r.state = .candidate) : Timed db' := by
  intro id s hs
  rw [hsubscriptions] at hs
  refine ht.kept h hs fun a r hr _ hlkg => ?_
  rw [hversions, if_neg, hr]
  · rfl
  rintro rfl
  rw [hbefore r hr] at hlkg
  cases hlkg

section
variable (ht : Timed db) (h : Settled db)
include ht h

theorem Timed.activated (hv : db.versions.find v.id = some v) : Timed (db.activated now v) := by
  intro id s hs
  by_cases hid : id = v.subscriptionID
  · obtain ⟨s0, hs0⟩ := isSome_iff_exists.mp (h.owned _ _ hv)
    rw [hid, find_activated_own hs0] at hs
    obtain rfl := some.inj hs
    show some now = ((db.activated now v).versions.find v.id).bind _
    rw [find_activated hv, if_pos rfl]
    rfl
  rw [show (db.activated now v).subscriptions.find id = _ from
    find_update_ne (pointed_id now v.id) hid] at hs
  refine ht.kept h hs fun a r hr hsub hlkg => ?_
  rw [find_activated hv, if_neg, hr]
  · exact Version.demoted_activatedAt v r
  rintro rfl
  rw [hv] at hr
  exact hid (hsub ▸ congrArg Version.subscriptionID (some.inj hr).symm)

theorem Timed.takenBack (hv : db.versions.find v.id = some v)
    (hlkg : v.state = .lkg) : Timed (db.takeBack now v message) := by
  intro id s hs
  by_cases hid : id = v.subscriptionID
  · subst hid
    obtain ⟨s0, hs0, -⟩ := (h.each _).pointed _ _ hv rfl hlkg
    obtain rfl := some.inj ((find_takeBack_own hs0).symm.trans hs)
    rw [pointBack_lastSuccess, pointBack_active]
    cases hback : db.back v message with
    | none => rfl
    | some p =>
    obtain ⟨_, _, hne, _⟩ := back_some hv hback
    rw [map_some, bind_some, bind_some, find_takeBack hv, if_neg hne, hback,
      map_some, if_pos rfl]
    rfl
  · rw [takeBack_other hid] at hs
    refine ht.kept h hs fun a r hr hsub _ => ?_
    rw [(takeBack_version hv (hsub ▸ hid)).mpr hr]
    rfl

theorem Timed.after (c : Time × Change) : Timed (Change.after lib db c) := by
  rw [Change.after]
  split
  · next db' hok =>
    obtain ⟨now, change⟩ := c
    cases change with
    | stage input =>
      obtain ⟨nodes, entries, hst⟩ := stage_ok hok
      refine ht.replace h hst.versions hst.subscriptions fun r hr => ?_
      rw [hst.fresh] at hr
      cases hr
    | activate versionID =>
      obtain ⟨v, hv, hstate, rfl⟩ := activate_ok hok
      obtain rfl : v.id = versionID := key_of_find hv
      exact ht.activated h hv
    | abort versionID failure =>
    rcases abortActivation_ok hok with rfl | ⟨v, hv, hstate, rfl⟩ | ⟨v, hv, hstate, rfl⟩
    · exact ht
    · refine ht.replace h (find_failed hv) rfl fun r hr => ?_
      rw [hv] at hr
      obtain rfl := some.inj hr
      exact hstate
    · exact ht.takenBack h hv hstate
  · exact ht

theorem replay_timed (history : List (Time × Change)) : Timed (replay lib history db) := by
  induction history generalizing db with
  | nil => exact ht
  | cons c history ih => exact ih (ht.after h c) (h.after c)

end

end

/-! ## the version that an aborted activation returns to -/

def Version.times (v : Version) : List Char ×ₗ List Char :=
  toLex (rfc3339Nano (v.activatedAt.getD 0), rfc3339Nano v.createdAt)

theorem later_iff (a b : Version) : later a b = true ↔ b.times < a.times := by
  simp only [later, Version.times, Prod.Lex.toLex_lt_toLex, Bool.or_eq_true, Bool.and_eq_true,
    decide_eq_true_eq, lexLess_iff]
  rw [@eq_comm _ (rfc3339Nano (a.activatedAt.getD 0))]

theorem later_trans (a b c : Version) (hab : later a b = true) (hbc : later b c = true) :
    later a c = true := by
  rw [later_iff] at *
  exact hbc.trans hab

theorem later_weak (a b c : Version) (hac : later a c = true) :
    later a b = true ∨ later b c = true := by
  rw [later_iff] at *
  rw [later_iff]
  exact (lt_or_ge b.times a.times).imp_right hac.trans_le

/-- `l` is what the query finds among `l` and the retained versions of its subscription: the rows
above it have earlier times, and none below it has later ones -/
def Store.Leads (db : Store) (l : Version) : Prop :=
  ∃ pre post, db.versions.rows = pre ++ l :: post ∧
    (∀ r ∈ pre, r.subscriptionID = l.subscriptionID → r.state = .retained → later l r = true) ∧
    ∀ r ∈ post, r.subscriptionID = l.subscriptionID → r.state = .retained → later r l = false

/-- the same with the position of `l`, which can be searched for -/
def Store.LeadsAt (db : Store) (l : Version) (i : Nat) : Prop :=
  db.versions.rows[i]? = some l ∧
    (∀ r ∈ db.versions.rows.take i, r.subscriptionID = l.subscriptionID → r.state = .retained →
      later l r = true) ∧
    ∀ r ∈ db.versions.rows.drop (i + 1), r.subscriptionID = l.subscriptionID →
      r.state = .retained → later r l = false

instance (db : Store) (l : Version) (i : Nat) : Decidable (db.LeadsAt l i) := by
  unfold Store.LeadsAt
  infer_instance

instance (db : Store) (l : Version) : Decidable (db.Leads l) :=
  decidable_of_iff (∃ i ∈ List.range db.versions.rows.length, db.LeadsAt l i) <| by
    constructor
    · rintro ⟨i, _, hl, hpre, hpost⟩
      obtain ⟨hi, hget⟩ := List.getElem?_eq_some_iff.mp hl
      refine ⟨_, _, ?_, hpre, hpost⟩
      rw [← hget, ← List.drop_eq_getElem_cons hi, List.take_append_drop]
    rintro ⟨pre, post, hsplit, hpre, hpost⟩
    refine ⟨pre.length, ?_, ?_, ?_, ?_⟩
    · rw [hsplit]
      simp
    · rw [hsplit]
      simp
    · rw [hsplit, List.take_left]
      exact hpre
    · rw [hsplit, ← List.drop_drop, List.drop_left]
      exact hpost

def competes (v r : Version) : Bool :=
  r.subscriptionID = v.subscriptionID && (r.state = .retained || r.state = .lkg) &&
    r.id ≠ v.id && r.activatedAt.isSome

def Version.retired (r : Version) : Version := { r with state := .retained }

section
variable {db : Store} {v l : Version} {message : String} {now : Time}

def failedRow (now : Time) (v : Version) (message : String) (r : Version) : Version :=
  let activated :=
    if decide ((v.demoted r).id = v.id) then (v.demoted r).promoted now else v.demoted r
  if decide (activated.id = v.id) then activated.failWith message else activated

theorem failedRow_other (hid : r.id ≠ v.id) : failedRow now v message r = v.demoted r := by
  have hdemoted : (v.demoted r).id ≠ v.id := by
    unfold Version.demoted
    split <;> exact hid
  simp only [failedRow, decide_eq_true_eq, if_neg hdemoted]

theorem failedRow_self (hid : r.id = v.id) : (failedRow now v message r).state = .failed := by
  have hdemoted : (v.demoted r).id = v.id := by
    unfold Version.demoted
    split <;> exact hid
  have hpromoted : ((v.demoted r).promoted now).id = v.id := hdemoted
  simp only [failedRow, decide_eq_true_eq, if_pos hdemoted, if_pos hpromoted]
  rfl

theorem latestRetained_activated :
    ((db.activated now v).failVersion v.id message).latestRetained v.subscriptionID v.id =
      (firstBy later (db.versions.rows.filter (competes v))).map Version.retired := by
  have hrows : ((db.activated now v).failVersion v.id message).versions.rows =
      db.versions.rows.map (failedRow now v message) := by
    show ((db.versions.rows.map _).map _).map _ = _
    rw [List.map_map, List.map_map]
    rfl
  have hselected : ∀ r, ((failedRow now v message r).subscriptionID = v.subscriptionID &&
      (failedRow now v message r).state = .retained && (failedRow now v message r).id ≠ v.id &&
      (failedRow now v message r).activatedAt.isSome) = competes v r := by
    intro r
    by_cases hid : r.id = v.id
    · simp [competes, failedRow_self hid, hid]
    rw [failedRow_other hid]
    by_cases hlkg : r.subscriptionID = v.subscriptionID ∧ r.state = .lkg
    · simp [competes, Version.demoted, hlkg.1, hlkg.2, hid]
    rw [Version.demoted_eq (not_and_or.mp hlkg), competes]
    by_cases hsub : r.subscriptionID = v.subscriptionID
    · simp [hsub, show r.state ≠ .lkg from fun h => hlkg ⟨hsub, h⟩]
    · simp [hsub]
  have hretired : ∀ r ∈ db.versions.rows.filter (competes v),
      failedRow now v message r = r.retired := by
    intro r hr
    obtain ⟨_, hcompetes⟩ := List.mem_filter.mp hr
    simp only [competes, Bool.and_eq_true, Bool.or_eq_true, decide_eq_true_eq] at hcompetes
    obtain ⟨⟨⟨hsub, hstate⟩, hid⟩, _⟩ := hcompetes
    rw [failedRow_other hid]
    rcases hstate with hret | hlkg
    · rw [Version.demoted_eq (Or.inr (by rw [hret]; simp)), Version.retired, ← hret]
    · simp [Version.demoted, Version.retired, hsub, hlkg]
  have hfilter : db.versions.rows.filter ((fun r : Version =>
      r.subscriptionID = v.subscriptionID && r.state = .retained && r.id ≠ v.id &&
        r.activatedAt.isSome) ∘ failedRow now v message) =
      db.versions.rows.filter (competes v) := List.filter_congr fun r _ => hselected r
  rw [Store.latestRetained, hrows, List.filter_map, hfilter, List.map_congr_left hretired]
  exact firstBy_map fun _ _ _ _ => rfl

theorem found_iff_leads (h : Settled db) (hv : db.versions.find v.id = some v)
    (hstate : v.state = .candidate) (hl : db.versions.find l.id = some l)
    (hlkg : l.state = .lkg) (hsub : l.subscriptionID = v.subscriptionID) :
    firstBy later (db.versions.rows.filter (competes v)) = some l ↔ db.Leads l := by
  obtain ⟨_, _, _, hsome⟩ := (h.each _).pointed _ _ hl hsub hlkg
  have hne : l.id ≠ v.id := by
    intro hid
    rw [hid, hv] at hl
    obtain rfl := some.inj hl
    rw [hlkg] at hstate
    cases hstate
  rw [firstBy_filter_iff later_trans later_weak, Store.Leads]
  have hcompetes : competes v l = true := by simp [competes, hsub, hlkg, hne, hsome]
  rw [and_iff_right hcompetes]
  refine exists₂_congr fun pre post => and_congr_right fun hsplit => ?_
  -- beside `l` the rows that compete are the retained ones
  have hrow : ∀ r ∈ pre ++ post, competes v r = true ↔
      r.subscriptionID = l.subscriptionID ∧ r.state = .retained := by
    intro r hr
    have hmem : r ∈ db.versions.rows := by
      rw [hsplit]
      simp only [mem_append, mem_cons] at hr ⊢
      exact hr.imp_right Or.inr
    have hfind := mem_iff_find.mp hmem
    have hrl : r ≠ l := by
      rintro rfl
      have hnodup := db.versions.nodup
      rw [hsplit, map_append, map_cons] at hnodup
      have hnot := (nodup_middle.mp hnodup)
      rw [nodup_cons] at hnot
      exact hnot.1 (by rw [← map_append]; exact mem_map_of_mem hr)
    constructor
    · intro hc
      simp only [competes, Bool.and_eq_true, Bool.or_eq_true, decide_eq_true_eq] at hc
      refine ⟨hc.1.1.1.trans hsub.symm, hc.1.1.2.resolve_right fun hr => hrl ?_⟩
      exact h.unique hfind hl hr hlkg (hc.1.1.1.trans hsub.symm)
    rintro ⟨hrsub, hret⟩
    have hrv : r.id ≠ v.id := by
      intro hid
      rw [hid, hv] at hfind
      obtain rfl := some.inj hfind
      rw [hstate] at hret
      cases hret
    have hrsome := (h.each _).retained _ _ hfind rfl hret
    simp [competes, hrsub.trans hsub, hret, hrv, hrsome]
  refine and_congr (forall₂_congr fun r hr => ?_) (forall₂_congr fun r hr => ?_)
  · rw [hrow r (by simp [hr]), and_imp]
  · rw [hrow r (by simp [hr]), and_imp]

end

/-! ## what is restored -/

def Store.IsLKG (db : Store) (id : String) : Prop :=
  ∃ r, db.versions.find id = some r ∧ r.state = .lkg

/-- an activation of `v` that was taken back has left no trace but the failed version -/
structure Restored (before after : Store) (v : Version) : Prop where
  activeVersion : (after.subscriptions.find v.subscriptionID).map (·.activeVersionID) =
    (before.subscriptions.find v.subscriptionID).map (·.activeVersionID)
  lastSuccess : (after.subscriptions.find v.subscriptionID).map (·.lastSuccessAt) =
    (before.subscriptions.find v.subscriptionID).map (·.lastSuccessAt)
  lastKnownGood : ∀ id, after.IsLKG id ↔ before.IsLKG id
  preferences : ∀ key p, before.preferences.find key = some p → ∃ q,
    after.preferences.find key = some q ∧ q.missingSince = p.missingSince ∧
      q.lastSeenVersionID = p.lastSeenVersionID
  failed : ∃ r, after.versions.find v.id = some r ∧ r.state = .failed

/-- the LKG is found again, and the preferences of the subscription are of fingerprints that `v`
does not have and that are missing already -/
structure Undoable (db : Store) (v : Version) : Prop where
  leads : ∀ l, db.versions.find l.id = some l → l.subscriptionID = v.subscriptionID →
    l.state = .lkg → db.Leads l
  preferences : ∀ key p, db.preferences.find key = some p → p.subscriptionID = v.subscriptionID →
    db.present v.id p.fingerprint = false ∧ p.missingSince.isSome

section
variable {db : Store} {v : Version} {message : String} {now now' : Time}

theorem preferences_kept_iff (h : Settled db) (hv : db.versions.find v.id = some v)
    (hstate : v.state = .candidate) : (∀ key p, db.preferences.find key = some p → ∃ q,
      (db.activated now v).preferences.find key = some q ∧ q.missingSince = p.missingSince ∧
        q.lastSeenVersionID = p.lastSeenVersionID) ↔
      ∀ key p, db.preferences.find key = some p → p.subscriptionID = v.subscriptionID →
        db.present v.id p.fingerprint = false ∧ p.missingSince.isSome := by
  refine forall₂_congr fun key p => forall_congr' fun hp => ?_
  obtain rfl : p.key = key := key_of_find hp
  have hfind := @find_activated_preference db now v p.subscriptionID p.fingerprint
  rw [show (p.subscriptionID, p.fingerprint) = p.key from rfl, hp] at hfind
  rw [hfind]
  by_cases hsub : p.subscriptionID = v.subscriptionID
  · rw [if_pos hsub]
    cases hpresent : db.present v.id p.fingerprint with
    | true =>
      have hseen : v.id ≠ p.lastSeenVersionID := by
        intro heq
        obtain ⟨r, hr, hnot⟩ := h.seen _ p hp
        rw [← heq, hv] at hr
        obtain rfl := some.inj hr
        exact hnot hstate
      simp [hsub, seen, hseen]
    | false =>
    cases hmissing : p.missingSince <;> simp [hsub, missed, hmissing]
  · rw [if_neg hsub]
    simp [hsub]

def Store.ForeignLKG (db : Store) (v : Version) (id : String) : Prop :=
  ∃ r, db.versions.find id = some r ∧ r.state = .lkg ∧ r.subscriptionID ≠ v.subscriptionID

theorem lkg_activated (hv : db.versions.find v.id = some v) {id : String} (hid : id ≠ v.id) :
    (db.activated now v).IsLKG id ↔ db.ForeignLKG v id := by
  rw [Store.IsLKG, find_activated hv, if_neg hid]
  constructor
  · rintro ⟨r, hr, hlkg⟩
    obtain ⟨r0, hr0, rfl⟩ := map_eq_some_iff.mp hr
    have hsub : r0.subscriptionID ≠ v.subscriptionID :=
      fun hsub => Version.demoted_ne_lkg hsub hlkg
    rw [Version.demoted_eq (Or.inl hsub)] at hlkg
    exact ⟨r0, hr0, hlkg, hsub⟩
  · rintro ⟨r, hr, hlkg, hsub⟩
    exact ⟨r, by rw [hr, map_some, Version.demoted_eq (Or.inl hsub)], hlkg⟩

theorem not_foreign (hv : db.versions.find v.id = some v) : ¬ db.ForeignLKG v v.id := by
  rintro ⟨r, hr, _, hsub⟩
  rw [hv] at hr
  exact hsub (congrArg Version.subscriptionID (some.inj hr).symm)

theorem lkg_before (id : String) :
    db.IsLKG id ↔ db.ForeignLKG v id ∨ ∃ l, db.versions.find id = some l ∧ l.state = .lkg ∧
      l.subscriptionID = v.subscriptionID := by
  constructor
  · rintro ⟨r, hr, hlkg⟩
    by_cases hsub : r.subscriptionID = v.subscriptionID
    · exact Or.inr ⟨r, hr, hlkg, hsub⟩
    · exact Or.inl ⟨r, hr, hlkg, hsub⟩
  · rintro (⟨r, hr, hlkg, _⟩ | ⟨l, hl, hlkg, _⟩)
    · exact ⟨r, hr, hlkg⟩
    · exact ⟨l, hl, hlkg⟩

def Store.undone (db : Store) (now now' : Time) (v : Version) (message : String) : Store :=
  (db.activated now v).takeBack now' (v.promoted now) message

theorem undone_preferences :
    (db.undone now now' v message).preferences = (db.activated now v).preferences :=
  takeBack_preferences

/-- what competes to return when the activation of `v` is taken back -/
def Store.rival (db : Store) (v : Version) : Option Version :=
  firstBy later (db.versions.rows.filter (competes v))

theorem rival_find {x : Version} (hx : db.rival v = some x) :
    db.versions.find x.id = some x ∧ competes v x = true :=
  (mem_filter.mp (mem_of_firstBy hx)).imp_left mem_iff_find.mp

theorem back_activated : (db.activated now v).back (v.promoted now) message =
    (db.rival v).map Version.retired := latestRetained_activated

theorem undone_own {s : Subscription} (hs : db.subscriptions.find v.subscriptionID = some s) :
    (db.undone now now' v message).subscriptions.find v.subscriptionID =
      some ((Store.pointed now v.id s).pointBack now' ((db.rival v).map Version.retired)) := by
  have hown : (db.activated now v).subscriptions.find (v.promoted now).subscriptionID =
      some (pointed now v.id s) := find_activated_own hs
  rw [← @back_activated db v message now]
  exact find_takeBack_own hown

theorem find_undone (hv : db.versions.find v.id = some v) (id : String) :
    (db.undone now now' v message).versions.find id =
      if id = v.id then some ((v.promoted now).failWith message)
      else if (db.rival v).map Version.id = some id then
        (db.rival v).map fun x => x.retired.reinstated
      else (db.activated now v).versions.find id := by
  have hself : (db.activated now v).versions.find (v.promoted now).id = some (v.promoted now) := by
    show (db.activated now v).versions.find v.id = _
    rw [find_activated hv, if_pos rfl]
  rw [Store.undone, find_takeBack hself, back_activated, Option.map_map, Option.map_map]
  rfl

section
variable {s : Subscription}

theorem lkg_iff_active (h : Settled db) (hs : db.subscriptions.find v.subscriptionID = some s)
    (id : String) :
    (∃ l, db.versions.find id = some l ∧ l.state = .lkg ∧ l.subscriptionID = v.subscriptionID) ↔
      s.activeVersionID = some id := by
  constructor
  · rintro ⟨l, hl, hlkg, hsub⟩
    obtain ⟨s', hs', hactive, _⟩ := (h.each _).pointed _ l hl hsub hlkg
    obtain rfl := some.inj (hs.symm.trans hs')
    rw [hactive, key_of_find hl]
  · intro hactive
    obtain ⟨l, hl, hsub, hlkg⟩ := (h.each _).points s id hs hactive
    exact ⟨l, hl, hlkg, hsub⟩

section
variable (h : Settled db) (hv : db.versions.find v.id = some v) (hstate : v.state = .candidate)
include h hv hstate

theorem rival_active_iff (hs : db.subscriptions.find v.subscriptionID = some s) :
    (db.rival v).map Version.id = s.activeVersionID ↔
      ∀ l, db.versions.find l.id = some l → l.subscriptionID = v.subscriptionID →
        l.state = .lkg → db.Leads l := by
  cases hactive : s.activeVersionID with
  | none =>
    refine iff_of_true ?_ ?_
    · rw [map_eq_none_iff]
      cases hx : db.rival v with
      | none => rfl
      | some x =>
      obtain ⟨hfind, hcompetes⟩ := rival_find hx
      simp only [competes, Bool.and_eq_true, Bool.or_eq_true, decide_eq_true_eq] at hcompetes
      rcases hcompetes.1.1.2 with hret | hlkg
      · exact absurd hret ((h.each _).idle s hs hactive _ x hfind hcompetes.1.1.1)
      have hpointed := (lkg_iff_active h hs _).mp ⟨x, hfind, hlkg, hcompetes.1.1.1⟩
      rw [hactive] at hpointed
      cases hpointed
    · intro l hl hsub hlkg
      have hpointed := (lkg_iff_active h hs _).mp ⟨l, hl, hlkg, hsub⟩
      rw [hactive] at hpointed
      cases hpointed
  | some a =>
  obtain ⟨l, hl, hsub, hlkg⟩ := (h.each _).points s a hs hactive
  obtain rfl : l.id = a := key_of_find hl
  have hfound : (db.rival v).map Version.id = some l.id ↔ db.rival v = some l := by
    refine ⟨fun hid => ?_, fun hx => by rw [hx]; rfl⟩
    obtain ⟨x, hx, hid⟩ := map_eq_some_iff.mp hid
    rw [hx, ← (rival_find hx).1, hid, hl]
  rw [hfound, show db.rival v = some l ↔ _ from found_iff_leads h hv hstate hl hlkg hsub]
  refine ⟨fun hleads l' hl' hsub' hlkg' => ?_, fun hleads => hleads l hl hsub hlkg⟩
  exact h.unique hl' hl hlkg' hlkg (hsub'.trans hsub.symm) ▸ hleads

theorem undone_active
    (hleads : ∀ l, db.versions.find l.id = some l → l.subscriptionID = v.subscriptionID →
      l.state = .lkg → db.Leads l) :
    ((db.undone now now' v message).subscriptions.find v.subscriptionID).map (·.activeVersionID) =
      (db.subscriptions.find v.subscriptionID).map (·.activeVersionID) := by
  obtain ⟨s, hs⟩ := Option.isSome_iff_exists.mp (h.owned _ _ hv)
  rw [undone_own hs, hs, Option.map_some, Option.map_some, pointBack_active, Option.map_map,
    ← (rival_active_iff h hv hstate hs).mpr hleads]
  rfl

theorem lkg_undone_iff (hs : db.subscriptions.find v.subscriptionID = some s)
    (hback : (db.rival v).map Version.id = s.activeVersionID) (id : String) :
    (db.undone now now' v message).IsLKG id ↔ db.IsLKG id := by
  rw [@lkg_before db v id, lkg_iff_active h hs, ← hback, Store.IsLKG, find_undone hv]
  by_cases hid : id = v.id
  · subst hid
    rw [if_pos rfl]
    refine iff_of_false ?_ (not_or.mpr ⟨not_foreign hv, ?_⟩)
    · rintro ⟨r, hr, hlkg⟩
      cases hr
      cases hlkg
    rw [hback, ← lkg_iff_active h hs]
    rintro ⟨l, hl, hlkg, _⟩
    obtain rfl := some.inj (hv.symm.trans hl)
    rw [hstate] at hlkg
    cases hlkg
  rw [if_neg hid]
  by_cases hx : (db.rival v).map Version.id = some id
  · rw [if_pos hx]
    obtain ⟨x, hrival, _⟩ := map_eq_some_iff.mp hx
    exact iff_of_true ⟨x.retired.reinstated, by rw [hrival]; rfl, rfl⟩ (Or.inr hx)
  · rw [if_neg hx, or_iff_left hx]
    exact lkg_activated hv hid

end

end

theorem restored_iff (h : Settled db) (ht : Timed db) (hv : db.versions.find v.id = some v)
    (hstate : v.state = .candidate) :
    Restored db (db.undone now now' v message) v ↔ Undoable db v := by
  obtain ⟨s, hs⟩ := Option.isSome_iff_exists.mp (h.owned _ _ hv)
  have hpreferences := @preferences_kept_iff db v now h hv hstate
  rw [← @undone_preferences db v message now now'] at hpreferences
  have hleads := rival_active_iff h hv hstate hs
  constructor
  · intro hrestored
    refine ⟨hleads.mp ?_, hpreferences.mp hrestored.preferences⟩
    have hpointer := hrestored.activeVersion
    rw [undone_own hs, hs, Option.map_some, Option.map_some, pointBack_active, Option.map_map]
      at hpointer
    exact Option.some.inj hpointer
  intro hundoable
  have hback := hleads.mpr hundoable.leads
  refine ⟨undone_active h hv hstate hundoable.leads, ?_, lkg_undone_iff h hv hstate hs hback,
    hpreferences.mpr hundoable.preferences, ⟨_, by rw [find_undone hv, if_pos rfl], rfl⟩⟩
  rw [undone_own hs, hs, Option.map_some, Option.map_some, pointBack_lastSuccess, ht _ s hs,
    ← hback]
  cases hx : db.rival v with
  | none => rfl
  | some x =>
  rw [Option.map_some, Option.map_some, Option.bind_some, Option.bind_some, (rival_find hx).1]
  rfl

end

/-! ## Activate followed by AbortActivation -/

/-- `Activate` and then `AbortActivation` -/
def undo (now now' : Time) (versionID : String) (failure : Option String) (db : Store) :
    Except Fault Store :=
  (activate now versionID db).bind (abortActivation now' versionID failure)

theorem undo_candidate {db : Store} {v : Version} {now now' : Time} {failure : Option String}
    (hv : db.versions.find v.id = some v) (hstate : v.state = .candidate) :
    undo now now' v.id failure db = .ok (db.undone now now' v (abortMessage failure)) := by
  have hself : (db.activated now v).versions.find v.id = some (v.promoted now) := by
    rw [find_activated hv, if_pos rfl]
  rw [undo, activate_candidate hv hstate, Except.bind, abortActivation, hself]
  rfl

/-- **after any history, an activation that is taken back restores the subscription, its LKG and its
preferences exactly when the LKG is found by its times and the activation touches none of the
preferences** -/
theorem undo_restores_iff (lib : Library) (start : Store) (hstart : Fresh start)
    (history : List (Time × Change)) (v : Version)
    (hv : (replay lib history start).versions.find v.id = some v) (hstate : v.state = .candidate)
    (now now' : Time) (failure : Option String) :
    ∃ after, undo now now' v.id failure (replay lib history start) = .ok after ∧
      (Restored (replay lib history start) after v ↔ Undoable (replay lib history start) v) :=
  ⟨_, undo_candidate hv hstate, restored_iff (replay_settled hstart.settled history)
    (replay_timed hstart.timed hstart.settled history) hv hstate⟩

/-! ## two histories -/

/-- names are compared as they are, and a regular expression matches itself -/
def plainLibrary : Library where
  normalizeNodeName := id
  compiles := fun _ => true
  compileError := fun _ => ""
  matchString := fun pattern name => pattern = name
  nodeDigest := fun versionID fingerprint => versionID ++ "/" ++ fingerprint

def neverRefreshed : Store := { subscriptions := ⟨[{ id := "s1" }], nodup_s1⟩ }

theorem neverRefreshed_fresh : Fresh neverRefreshed where
  versions := rfl
  preferences := rfl
  subscriptions := by
    intro id s hs
    obtain rfl : s = { id := "s1" } := by simpa [neverRefreshed] using mem_of_find hs
    exact ⟨rfl, rfl⟩

def oneNode (versionID fingerprint : String) : StageInput :=
  { versionID, subscriptionID := "s1", payload := ⟨"", [{ name := "node", fingerprint }]⟩,
    matchers := none, overrides := fun _ => none }

def firstRefresh : List (Time × Change) := [(0, .stage (oneNode "v1" "f1"))]

def firstCandidate : Version :=
  { id := "v1", subscriptionID := "s1", nodesTotal := 1, createdAt := 0 }

/-- the first activation of a subscription is taken back -/
theorem undo_restores_first :
    ∃ after, undo 1 2 "v1" none (replay plainLibrary firstRefresh neverRefreshed) = .ok after ∧
      Restored (replay plainLibrary firstRefresh neverRefreshed) after firstCandidate := by
  obtain ⟨after, hok, hiff⟩ := undo_restores_iff plainLibrary neverRefreshed neverRefreshed_fresh
    firstRefresh firstCandidate (by decide +kernel) rfl 1 2 none
  refine ⟨after, hok, hiff.mpr ⟨?_, ?_⟩⟩
  · intro l hl _ hlkg
    have hrows : (replay plainLibrary firstRefresh neverRefreshed).versions.rows =
        [firstCandidate] := by decide +kernel
    have hmem := mem_of_find hl
    rw [hrows, mem_singleton] at hmem
    rw [hmem] at hlkg
    cases hlkg
  intro key p hp
  have hrows : (replay plainLibrary firstRefresh neverRefreshed).preferences.rows = [] := by
    decide +kernel
  have hmem := mem_of_find hp
  rw [hrows] at hmem
  cases hmem

/-- two activations within one second, at `.1` and at `.12`, and a third candidate -/
def thirdRefresh : List (Time × Change) :=
  [(0, .stage (oneNode "v1" "f1")), (100 * millisecond, .activate "v1"),
   (110 * millisecond, .stage (oneNode "v2" "f1")), (120 * millisecond, .activate "v2"),
   (130 * millisecond, .stage (oneNode "v3" "f1"))]

def thirdCandidate : Version :=
  { id := "v3", subscriptionID := "s1", nodesTotal := 1, createdAt := 130 * millisecond }

/-- **the subscription pointed to `v2` and its node was last seen there; after the third activation
is taken back it points to `v1`, and the node was last seen in the version that failed** -/
theorem preference_rewritten :
    Fresh neverRefreshed ∧ Forward thirdRefresh ∧
      ∃ before after, before = replay plainLibrary thirdRefresh neverRefreshed ∧
        before.versions.find "v3" = some thirdCandidate ∧
        undo (140 * millisecond) (150 * millisecond) "v3" none before = .ok after ∧
        (before.subscriptions.find "s1").map (·.activeVersionID) = some (some "v2") ∧
        (after.subscriptions.find "s1").map (·.activeVersionID) = some (some "v1") ∧
        (before.preferences.find ("s1", "f1")).map (·.lastSeenVersionID) = some "v2" ∧
        (after.preferences.find ("s1", "f1")).map (·.lastSeenVersionID) = some "v3" ∧
        ¬ Restored before after thirdCandidate := by
  have hv : (replay plainLibrary thirdRefresh neverRefreshed).versions.find "v3" =
      some thirdCandidate := by decide +kernel
  have hbefore : ((replay plainLibrary thirdRefresh neverRefreshed).subscriptions.find "s1").map
      (·.activeVersionID) = some (some "v2") := by decide +kernel
  have hafter : (((replay plainLibrary thirdRefresh neverRefreshed).undone (140 * millisecond)
      (150 * millisecond) thirdCandidate (abortMessage none)).subscriptions.find "s1").map
      (·.activeVersionID) = some (some "v1") := by decide +kernel
  refine ⟨neverRefreshed_fresh, by unfold Forward; decide, _, _, rfl, hv,
    @undo_candidate _ thirdCandidate _ _ _ hv rfl, hbefore, hafter, by decide +kernel,
    by decide +kernel, ?_⟩
  intro hrestored
  have hsame := hrestored.activeVersion
  rw [show thirdCandidate.subscriptionID = "s1" from rfl, hbefore, hafter] at hsame
  revert hsame
  decide

/-- **Versions over whole histories.**  A version is the LKG exactly when its subscription points to
it; one that is retained was activated before, and stands beside an LKG; and every preference was
last seen in a version that was activated. -/
theorem lkg_over_histories (lib : Library) {db : Store} (hfresh : Fresh db)
    (history : List (Time × Change)) :
    let db' := replay lib history db
    (∀ v, db'.versions.find v.id = some v → (v.state = .lkg ↔
        (db'.subscriptions.find v.subscriptionID).bind (·.activeVersionID) = some v.id)) ∧
      (∀ v, db'.versions.find v.id = some v → v.state = .retained → v.activatedAt.isSome ∧
        ∃ r, db'.versions.find r.id = some r ∧ r.subscriptionID = v.subscriptionID ∧
          r.state = .lkg) ∧
      ∀ key p, db'.preferences.find key = some p →
        ∃ r, db'.versions.find p.lastSeenVersionID = some r ∧ r.state ≠ .candidate := by
  intro db'
  have h : Settled db' := replay_settled hfresh.settled history
  refine ⟨fun v hv => ?_, fun v hv hstate => ⟨(h.each _).retained _ v hv rfl hstate, ?_⟩, h.seen⟩
  · obtain ⟨s, hs⟩ := isSome_iff_exists.mp (h.owned _ v hv)
    rw [hs, Option.bind_some, ← lkg_iff_active h hs]
    refine ⟨fun hlkg => ⟨v, hv, hlkg, rfl⟩, ?_⟩
    rintro ⟨l, hl, hlkg, -⟩
    rwa [some.inj (hv.symm.trans hl)]
  · obtain ⟨s, hs⟩ := isSome_iff_exists.mp (h.owned _ v hv)
    cases ha : s.activeVersionID with
    | none => exact absurd hstate ((h.each _).idle s hs ha _ v hv rfl)
    | some a =>
      obtain ⟨r, hr, hsub, hlkg⟩ := (h.each _).points s a hs ha
      exact ⟨r, (key_of_find hr : r.id = a) ▸ hr, hsub, hlkg⟩

theorem lkg_after_two : (replay plainLibrary thirdRefresh neverRefreshed).versions.find "v3" =
      some thirdCandidate ∧
    ((replay plainLibrary thirdRefresh neverRefreshed).subscriptions.find "s1").bind
      (·.activeVersionID) ≠ some "v3" := by
  have hv : (replay plainLibrary thirdRefresh neverRefreshed).versions.find "v3" =
      some thirdCandidate := by decide +kernel
  refine ⟨hv, fun hactive => ?_⟩
  have h := (lkg_over_histories plainLibrary neverRefreshed_fresh thirdRefresh).1 thirdCandidate hv
  cases h.mpr hactive

end GatewayVpn.Subscriptions
