import GatewayVpn.Subscription.Choices
import GatewayVpn.Durable.Rely

/-!
# Subscription: a refresh beside the calls of the user

A refresh reads the matchers and the overrides, stages a version classified by them and activates it
some transactions later.  The calls of the user rewrite the nodes of the version that is active at
that moment.

The steps before the import (the fetch, and the comparison with the active version) end the refresh
or leave the tables as they are; the lease and the operation log are left out.
-/

namespace GatewayVpn.Subscriptions

open Durable List Option Table Store
open Access (Fault SelectionOverride)

/-! ## the refresh -/

inductive Outside where
  | newID
  | operationStep (code : String)
  | writeNormalizedPayload
  | promote
  | commit
  | rollback

inductive Write where
  | stage (input : StageInput)
  | activate (versionID : String)
  | markFailed (versionID code : String)
  | abort (versionID code : String)
  | finishSuccess (subscriptionID : String)

inductive RefreshOp where
  | listMatchers
  | activeOverrides (subscriptionID : String)
  | write (w : Write)
  | outside (step : Outside)

def RefreshOp.Ret : RefreshOp → Type
  | .listMatchers => Except Fault (Option (List Matcher))
  | .activeOverrides _ => Except Fault Overrides
  | .write _ => Except Fault Unit
  | .outside _ => Except Fault Unit

/-- the column that `FinishSuccess` writes beside the lease -/
def Subscription.succeeded (now : Time) (s : Subscription) : Subscription :=
  { s with lastSuccessAt := some now, updatedAt := now }

theorem Subscription.succeeded_id (now : Time) (s : Subscription) : (s.succeeded now).id = s.id :=
    rfl

def Write.apply (lib : Library) (now : Time) : Write → Store → Except Fault Store
  | .stage input, db => Subscriptions.stage lib now input db
  | .activate versionID, db => Subscriptions.activate now versionID db
  | .markFailed versionID code, db => Subscriptions.markFailed versionID (some code) db
  | .abort versionID code, db => abortActivation now versionID (some code) db
  | .finishSuccess subscriptionID, db => .ok { db with
      subscriptions := db.subscriptions.update subscriptionID (Subscription.succeeded now)
        (Subscription.succeeded_id now) }

def transact (result : Except Fault Store) (db : Store) : Except Fault Unit × Store :=
  match result with
  | .ok db' => (.ok (), db')
  | .error err => (.error err, db)

def unavailable : Fault := .text "database is unavailable"

def refreshExec (lib : Library) (now : Time) : (o : RefreshOp) → Fate → Store → o.Ret × Store
  | .listMatchers, f, db => f.deliver unavailable (.ok db.listMatchers, db) db
  | .activeOverrides subscriptionID, f, db =>
    f.deliver unavailable (.ok (db.activeOverrides subscriptionID), db) db
  | .write w, f, db => f.deliver unavailable (transact (w.apply lib now db) db) db
  | .outside _, f, db => f.deliver unavailable (.ok (), db) db

structure Job where
  subscriptionID : String
  versionID : String
  payload : Payload

abbrev Refresh := Proc RefreshOp RefreshOp.Ret (Except String Unit)

section
variable (job : Job)

def failCandidate (code : String) : Refresh :=
  .call (.write (.markFailed job.versionID code)) fun _ => .done (.error code)

def failed : Except Fault Unit → Bool
  | .error _ => true
  | .ok _ => false

/-- the cleanup after `Activate` or `Commit` reported an error -/
def compensate (code : String) : Refresh :=
  .call (.outside .rollback) fun rolledBack =>
  .call (.write (.abort job.versionID code)) fun aborted =>
  .done (.error (if failed rolledBack || failed aborted then "RUNTIME_ROLLBACK_FAILED" else code))

def finishRefresh : Refresh :=
  .call (.write (.finishSuccess job.subscriptionID)) fun
  | .error _ => .done (.error "finish successful subscription refresh")
  | .ok _ => .call (.outside (.operationStep "REFRESH_COMPLETE")) fun
  | .error _ => .done (.error "finish successful subscription operation failed")
  | .ok _ => .done (.ok ())

def activatePromoted : Refresh :=
  .call (.write (.activate job.versionID)) fun
  | .error _ => compensate job "LKG_ACTIVATE_FAILED"
  | .ok _ => .call (.outside .commit) fun
  | .error _ => compensate job "RUNTIME_COMMIT_FAILED"
  | .ok _ => finishRefresh job

def promoteStaged : Refresh :=
  .call (.outside (.operationStep "CANDIDATE_VALIDATED")) fun
  | .error _ => failCandidate job "OPERATION_STATUS_FAILED"
  | .ok _ => .call (.outside .writeNormalizedPayload) fun
  | .error _ => failCandidate job "PAYLOAD_STORE_FAILED"
  | .ok _ => .call (.outside (.operationStep "QUALIFICATION_STARTED")) fun
  | .error _ => failCandidate job "OPERATION_STATUS_FAILED"
  | .ok _ => .call (.outside .promote) fun
  | .error _ => failCandidate job "RUNTIME_REJECTED"
  | .ok _ => .call (.outside (.operationStep "ACTIVATION_STARTED")) fun
  | .error _ => .call (.outside .rollback) fun _ => failCandidate job "OPERATION_STATUS_FAILED"
  | .ok _ => activatePromoted job

def Job.input (matchers : Option (List Matcher)) (overrides : Overrides) : StageInput :=
  { versionID := job.versionID, subscriptionID := job.subscriptionID, payload := job.payload,
    matchers, overrides }

def stageImported (matchers : Option (List Matcher)) (overrides : Overrides) : Refresh :=
  .call (.outside .newID) fun
  | .error _ => .done (.error "IMPORT_FAILED")
  | .ok _ => .call (.write (.stage (job.input matchers overrides))) fun
  | .error _ => .done (.error "IMPORT_FAILED")
  | .ok _ => promoteStaged job

/-- `ExecutePrepared`, from the list of the matchers on -/
def executePrepared : Refresh :=
  .call .listMatchers fun
  | .error _ => .done (.error "IMPORT_FAILED")
  | .ok matchers => .call (.activeOverrides job.subscriptionID) fun
  | .error _ => .done (.error "IMPORT_FAILED")
  | .ok overrides => stageImported job matchers overrides

end

/-! ## the conditions -/

/-- what the state must be like when the refresh takes a step: there is a matcher to read, the
names of the document are different, and the LKG would be found again -/
def Admits (lib : Library) (_job : Job) : RefreshOp → Store → Prop
  | .listMatchers, db => db.matchers.rows ≠ []
  | .write (.stage input), _ => input.payload.Distinct lib
  | .write (.activate versionID), db => ∀ v ∈ db.versions.rows, v.id = versionID →
      ∀ l ∈ db.versions.rows, l.subscriptionID = v.subscriptionID → l.state = .lkg → db.Leads l
  | _, _ => True

def Elsewhere (job : Job) : Call → Store → Prop
  | .setOverride nodeID _, db => ∀ n ∈ db.nodes.rows, n.id = trimSpace nodeID →
      ∀ v ∈ db.versions.rows, v.id = n.versionID → v.subscriptionID ≠ job.subscriptionID
  | _, _ => False

/-- what such a call leaves as it was -/
structure Untouched (lib : Library) (job : Job) (db db' : Store) : Prop where
  sound : Sound lib db'
  versions : db'.versions = db.versions
  subscriptions : db'.subscriptions = db.subscriptions
  matchers : db'.matchers = db.matchers
  overrides : db'.activeOverrides job.subscriptionID = db.activeOverrides job.subscriptionID
  nodes : ∀ v, db.versions.find v.id = some v → v.subscriptionID = job.subscriptionID →
    db'.versionNodes v.id = db.versionNodes v.id

def Beside (lib : Library) (job : Job) (db db' : Store) : Prop :=
  Sound lib db → Untouched lib job db db'

section
variable {lib : Library} {job : Job} {db db' db'' : Store}

theorem Beside.refl (job : Job) (db : Store) : Beside lib job db db :=
  fun hs => ⟨hs, rfl, rfl, rfl, rfl, fun _ _ _ => rfl⟩

theorem Beside.trans (h : Beside lib job db db') (h' : Beside lib job db' db'') :
    Beside lib job db db'' := by
  intro hs
  have hfirst := h hs
  have hsecond := h' hfirst.sound
  refine ⟨hsecond.sound, hsecond.versions.trans hfirst.versions,
    hsecond.subscriptions.trans hfirst.subscriptions, hsecond.matchers.trans hfirst.matchers,
    hsecond.overrides.trans hfirst.overrides, fun v hv hsub => ?_⟩
  rw [hsecond.nodes v (by rw [hfirst.versions]; exact hv) hsub, hfirst.nodes v hv hsub]

/-- **a call elsewhere** leaves the subscription of the refresh alone -/
theorem Elsewhere.beside {c : Call} (hlib : lib.Trimmed) (now : Time) (h : Elsewhere job c db) :
    Beside lib job db (c.after lib now db) := by
  intro hs
  cases c with
  | setOverride nodeID override =>
    rw [Call.after]
    cases hok : Call.apply lib now (.setOverride nodeID override) db with
    | error err => exact Beside.refl job db hs
    | ok db' =>
    obtain ⟨n, s, choice, between, hchosen⟩ := setOverride_ok hs.filed hok
    obtain ⟨hversions, hsubscriptions, hmatchers, hnodes⟩ := hchosen.tables
    obtain ⟨r, hr, hrs, _⟩ := (hs.settled.each _).points s _ hchosen.subscription hchosen.active
    have hne : s.id ≠ job.subscriptionID := by
      rw [← hrs]
      exact h n (mem_of_find hchosen.node) (key_of_find hchosen.node) r
        (mem_of_find hr) (key_of_find hr)
    refine ⟨hchosen.sound hlib hs, hversions, hsubscriptions, hmatchers, ?_, ?_⟩
    · funext fingerprint
      rw [hchosen.overrides, if_neg fun hand => hne hand.1.symm]
    intro v hv hsub
    refine hnodes v.id fun hid => ?_
    rw [hid, hr] at hv
    obtain rfl := some.inj hv
    exact hne (hrs.symm.trans hsub)
  | _ => exact h.elim

theorem Untouched.agrees (h : Untouched lib job db db') (hs : Sound lib db) {v : Version}
    (hv : db.versions.find v.id = some v) (hsub : v.subscriptionID = job.subscriptionID)
    (hagrees : Agrees lib db job.subscriptionID v.id) : Agrees lib db' job.subscriptionID v.id :=
  hagrees.congr hs.filed h.sound.filed (h.nodes v hv hsub) h.matchers
    fun fingerprint => by rw [h.overrides]

end

/-! ## a version is staged -/

section
variable {lib : Library} {now : Time} {input : StageInput} {db db' : Store}
variable {nodes : List ImportedNode} {entries : List Classification}

section
variable (h : Staged lib now input db db' nodes entries)
include h

theorem Staged.other {versionID : String}
    (hne : versionID ≠ input.versionID) : db'.versionNodes versionID = db.versionNodes versionID := by
  have hnone : (entries.map (input.row lib)).filter (fun n => n.versionID = versionID) = [] := by
    rw [filter_eq_nil_iff]
    intro n hn
    obtain ⟨c, _, rfl⟩ := mem_map.mp hn
    simp [StageInput.row, hne.symm]
  rw [versionNodes, h.nodes, filter_append, hnone, append_nil, versionNodes]

theorem Staged.own (hfiled : Filed lib db) :
    db'.versionNodes input.versionID = entries.map (input.row lib) := by
  have hold : db.versionNodes input.versionID = [] := by
    rw [versionNodes, filter_eq_nil_iff]
    intro n hn hversion
    have howned := hfiled.owned n hn
    rw [of_decide_eq_true hversion, h.fresh] at howned
    cases howned
  have hall : (entries.map (input.row lib)).filter (fun n => n.versionID = input.versionID) =
      entries.map (input.row lib) := by
    rw [filter_eq_self]
    intro n hn
    obtain ⟨c, _, rfl⟩ := mem_map.mp hn
    simp [StageInput.row]
  rw [versionNodes, h.nodes, filter_append, hall]
  rw [versionNodes] at hold
  rw [hold, nil_append]

theorem Staged.filed (hfiled : Filed lib db) : Filed lib db' := by
  have hrow : ∀ n ∈ db'.nodes.rows, n ∈ db.nodes.rows ∨ ∃ c ∈ entries, input.row lib c = n := by
    intro n hn
    rw [h.nodes, List.mem_append, List.mem_map] at hn
    exact hn
  constructor
  · intro n hn
    rcases hrow n hn with hn | ⟨c, _, rfl⟩
    · exact hfiled.ids n hn
    · rfl
  intro n hn
  rw [h.versions]
  split
  · rfl
  next hne =>
  rcases hrow n hn with hn | ⟨c, _, rfl⟩
  · exact hfiled.owned n hn
  · exact absurd rfl hne

theorem Staged.sound (hs : Sound lib db) : Sound lib db' := by
  refine ⟨h.filed hs.filed, hs.settled.staged h, ?_⟩
  intro id s a hfind ha
  rw [h.subscriptions] at hfind
  obtain ⟨r, hr, _, _⟩ := (hs.settled.each id).points s a hfind ha
  refine (hs.agrees id s a hfind ha).congr hs.filed (h.filed hs.filed) (h.other ?_) h.matchers ?_
  · rintro rfl
    rw [h.fresh] at hr
    cases hr
  intro fingerprint
  rw [activeOverrides, h.preferences]
  rfl

/-- a document without a repeated name, classified by the stored matchers and preferences -/
theorem Staged.agrees (hfiled : Filed lib db)
    (hdistinct : input.payload.Distinct lib) (hmatchers : input.matchers = some db.loadMatchers)
    (hoverrides : input.overrides = db.activeOverrides input.subscriptionID) :
    Agrees lib db' input.subscriptionID input.versionID := by
  obtain ⟨compiled, hcompiled, hentries⟩ := classify_ok h.classified
  rw [hmatchers, Option.getD_some] at hcompiled
  have hprefs : db'.activeOverrides input.subscriptionID = input.overrides := by
    rw [hoverrides]
    unfold Store.activeOverrides
    rw [h.preferences]
  -- the stored rows are the nodes that were classified
  have hstored : ∀ c ∈ entries, (input.row lib c).imported = c.node := by
    intro c hc
    rw [hentries] at hc
    obtain ⟨node, hnode, rfl⟩ := List.mem_map.mp hc
    have hname := importNodes_stored h.imported hdistinct node hnode
    simp only [StageInput.row, StoredNode.imported, verdict_node]
    rw [hname]
    obtain ⟨externalName, matchName, normalizedName, fingerprint, proxyType⟩ := node
    obtain rfl : normalizedName = matchName := hname
    rfl
  have himported : (db'.versionNodes input.versionID).map StoredNode.imported = nodes := by
    rw [h.own hfiled, List.map_map]
    refine (List.map_congr_left hstored).trans ?_
    rw [hentries, List.map_map]
    refine (List.map_congr_left fun node _ => ?_).trans (List.map_id _)
    exact verdict_node
  refine (agrees_iff (h.filed hfiled)).mpr ⟨?_, compiled, ?_, ?_⟩
  · intro n hn
    rw [h.own hfiled] at hn
    obtain ⟨c, _, rfl⟩ := List.mem_map.mp hn
    rw [hprefs]
    rfl
  · rw [Store.loadMatchers, h.matchers]
    exact hcompiled
  intro n hn
  rw [judgement, himported, hprefs]
  rw [h.own hfiled] at hn
  obtain ⟨c, hc, rfl⟩ := List.mem_map.mp hn
  rw [hstored c hc]
  rw [hentries] at hc
  obtain ⟨node, _, rfl⟩ := List.mem_map.mp hc
  rw [verdict_node]
  exact ⟨rfl, rfl, rfl⟩

end

end

/-! ## a version takes over, or fails -/

section
variable {lib : Library} {now : Time} {db : Store} {v : Version} {message : String}

theorem activated_choice (hagrees : Agrees lib db v.subscriptionID v.id)
    (subscriptionID fingerprint : String) :
    ((db.activated now v).activeOverrides subscriptionID fingerprint).getD .auto =
      (db.activeOverrides subscriptionID fingerprint).getD .auto := by
  rw [Store.activeOverrides, Store.find_activated_preference]
  split
  · next hsub =>
    subst hsub
    split
    · next hpresent =>
      rw [Store.present_eq_isSome] at hpresent
      obtain ⟨n, hn⟩ := Option.isSome_iff_exists.mp hpresent
      have hmem : n ∈ db.versionNodes v.id := List.mem_of_find?_eq_some hn
      have hfp : n.fingerprint = fingerprint := by simpa using List.find?_some hn
      have hchoice := hagrees.choices n hmem
      rw [hfp] at hchoice
      rw [hn, Store.activeOverrides] at *
      cases hfind : db.preferences.find (v.subscriptionID, fingerprint) with
      | some p => rfl
      | none =>
      rw [hfind] at hchoice
      exact hchoice
    · rw [Store.activeOverrides, Option.map_map]
      rfl
  · rfl

theorem Sound.activated (hs : Sound lib db) (hv : db.versions.find v.id = some v)
    (hagrees : Agrees lib db v.subscriptionID v.id) : Sound lib (db.activated now v) := by
  have hfiled : Filed lib (db.activated now v) := by
    refine ⟨hs.filed.ids, fun n hn => ?_⟩
    rw [find_activated hv]
    split
    · rfl
    · rw [isSome_map]
      exact hs.filed.owned n hn
  have hkept : ∀ {id a}, Agrees lib db id a → Agrees lib (db.activated now v) id a :=
    fun h => h.congr hs.filed hfiled rfl rfl (activated_choice hagrees _)
  refine ⟨hfiled, hs.settled.activated hv, ?_⟩
  intro id s a hfind ha
  rw [find_activated_subscription] at hfind
  obtain ⟨s0, hs0, rfl⟩ := map_eq_some_iff.mp hfind
  have hid := key_of_find hs0
  split at ha
  · next hown =>
    obtain rfl : v.id = a := some.inj ha
    rw [← hid, hown]
    exact hkept hagrees
  · exact hkept (hs.agrees id s0 a hs0 ha)

/-- the versions and subscriptions change, but every active version was one that agreed -/
theorem Sound.moved {db' : Store} (hs : Sound lib db) (hnodes : db'.nodes = db.nodes)
    (hpreferences : db'.preferences = db.preferences) (hmatchers : db'.matchers = db.matchers)
    (hversions : ∀ id, (db.versions.find id).isSome → (db'.versions.find id).isSome)
    (hsettled : Settled db')
    (hactive : ∀ id s a, db'.subscriptions.find id = some s → s.activeVersionID = some a →
      Agrees lib db id a) : Sound lib db' := by
  have hfiled : Filed lib db' := by
    constructor
    · rw [hnodes]
      exact hs.filed.ids
    · rw [hnodes]
      exact fun n hn => hversions _ (hs.filed.owned n hn)
  refine ⟨hfiled, hsettled, fun id s a hfind ha => ?_⟩
  refine (hactive id s a hfind ha).congr hs.filed hfiled ?_ hmatchers fun fingerprint => ?_
  · rw [versionNodes, hnodes]
    rfl
  · rw [activeOverrides, hpreferences]
    rfl

theorem Sound.failed (hs : Sound lib db) (hv : db.versions.find v.id = some v)
    (hstate : v.state = .candidate) : Sound lib (db.failVersion v.id message) := by
  refine hs.moved rfl rfl rfl ?_ (hs.settled.failed hv hstate) hs.agrees
  intro id hid
  rw [find_failed hv]
  split
  · rfl
  · exact hid

end

/-! ## what the refresh relies on -/

structure Prepared (lib : Library) (job : Job) (db : Store) : Prop where
  sound : Sound lib db
  staged : ∃ v, db.versions.find v.id = some v ∧ v.id = job.versionID ∧
    v.subscriptionID = job.subscriptionID ∧ v.state = .candidate
  agrees : Agrees lib db job.subscriptionID job.versionID

/-- the version has been activated in the store `before`, whose LKG agrees and leads -/
structure Activation (lib : Library) (job : Job) (before : Store) (now : Time) (v : Version)
    (db : Store) : Prop where
  settled : Settled before
  version : before.versions.find v.id = some v
  candidate : v.state = .candidate
  id : v.id = job.versionID
  subscriptionID : v.subscriptionID = job.subscriptionID
  leads : ∀ l, before.versions.find l.id = some l → l.subscriptionID = v.subscriptionID →
    l.state = .lkg → before.Leads l
  versions : db.versions = (before.activated now v).versions
  subscriptions : db.subscriptions = (before.activated now v).subscriptions
  previous : ∀ s a, before.subscriptions.find v.subscriptionID = some s →
    s.activeVersionID = some a → ∃ l, db.versions.find l.id = some l ∧ l.id = a ∧
      l.subscriptionID = job.subscriptionID ∧ Agrees lib db job.subscriptionID a

/-- the version is active, and the one before it can take over again -/
structure Replaced (lib : Library) (job : Job) (db : Store) : Prop where
  sound : Sound lib db
  activation : ∃ before now v, Activation lib job before now v db

section
variable {lib : Library} {job : Job} {db db' : Store} {now : Time}

theorem Prepared.beside (h : Prepared lib job db) (hb : Beside lib job db db') :
    Prepared lib job db' := by
  have hun := hb h.sound
  obtain ⟨v, hv, hid, hsub, hstate⟩ := h.staged
  have hagrees := h.agrees
  rw [← hid] at hagrees
  refine ⟨hun.sound, ⟨v, by rw [hun.versions]; exact hv, hid, hsub, hstate⟩, ?_⟩
  rw [← hid]
  exact hun.agrees h.sound hv hsub hagrees

theorem Replaced.beside (h : Replaced lib job db) (hb : Beside lib job db db') :
    Replaced lib job db' := by
  have hun := hb h.sound
  obtain ⟨before, now, v, hact⟩ := h.activation
  refine ⟨hun.sound, before, now, v, hact.settled, hact.version, hact.candidate, hact.id,
    hact.subscriptionID, hact.leads, hun.versions.trans hact.versions,
    hun.subscriptions.trans hact.subscriptions, ?_⟩
  intro s a hs ha
  obtain ⟨l, hl, rfl, hsub, hagrees⟩ := hact.previous s a hs ha
  exact ⟨l, by rw [hun.versions]; exact hl, rfl, hsub, hun.agrees h.sound hl hsub hagrees⟩

theorem Prepared.activated (h : Prepared lib job db)
    (hadmits : Admits lib job (.write (.activate job.versionID)) db)
    (hok : activate now job.versionID db = .ok db') : Replaced lib job db' := by
  obtain ⟨v, hv, hid, hsub, hstate⟩ := h.staged
  have hagrees := h.agrees
  rw [← hid] at hok hagrees
  rw [← hsub] at hagrees
  obtain rfl := Except.ok.inj ((activate_candidate hv hstate).symm.trans hok)
  refine ⟨h.sound.activated hv hagrees, db, now, v, h.sound.settled, hv, hstate, hid, hsub,
    ?_, rfl, rfl, ?_⟩
  · exact fun l hl hlsub hlkg => hadmits v (mem_of_find hv) hid l (mem_of_find hl) hlsub
      hlkg
  intro s a hs ha
  obtain ⟨l, hl, hlsub, hlkg⟩ := (h.sound.settled.each _).points s a hs ha
  have hla : l.id = a := key_of_find hl
  have hne : a ≠ v.id := by
    rintro rfl
    rw [hv] at hl
    obtain rfl := some.inj hl
    rw [hstate] at hlkg
    cases hlkg
  have hdemoted : (v.demoted l).id = a := by
    rw [← hla, Version.demoted]
    split <;> rfl
  refine ⟨v.demoted l, ?_, hdemoted, ?_, ?_⟩
  · rw [hdemoted, find_activated hv, if_neg hne, hl, map_some]
  · rw [Version.demoted_subscriptionID, hlsub, hsub]
  · refine (hsub ▸ h.sound.agrees _ s a hs ha : Agrees lib db job.subscriptionID a).congr
      h.sound.filed (h.sound.activated hv hagrees).filed rfl rfl (activated_choice hagrees _)

theorem Prepared.aborted (h : Prepared lib job db) {code : String}
    (hok : abortActivation now job.versionID (some code) db = .ok db') : Sound lib db' := by
  obtain ⟨v, hv, hid, hsub, hstate⟩ := h.staged
  rw [← hid, abortActivation, hv] at hok
  dsimp only at hok
  rw [hstate] at hok
  cases hok
  exact h.sound.failed hv hstate

theorem Prepared.marked (h : Prepared lib job db) {code : String}
    (hok : markFailed job.versionID (some code) db = .ok db') : Sound lib db' := by
  obtain ⟨v, hv, hid, hsub, hstate⟩ := h.staged
  rw [← hid, markFailed, hv] at hok
  dsimp only at hok
  rw [if_pos hstate] at hok
  cases hok
  exact h.sound.failed hv hstate

theorem Replaced.aborted (h : Replaced lib job db) {code : String}
    (hok : abortActivation now job.versionID (some code) db = .ok db') : Sound lib db' := by
  obtain ⟨before, at', v, hact⟩ := h.activation
  have hfind : db.versions.find (v.promoted at').id = some (v.promoted at') := by
    show db.versions.find v.id = _
    rw [hact.versions, find_activated hact.version, if_pos rfl]
  rw [← hact.id, abortActivation, show db.versions.find v.id = _ from hfind] at hok
  cases hok
  refine h.sound.moved takeBack_nodes takeBack_preferences takeBack_matchers ?_
    (h.sound.settled.takenBack hfind rfl) ?_
  · exact fun id hid => takeBack_isSome hfind hid
  intro id s a hs ha
  by_cases hid : id = v.subscriptionID
  · subst hid
    -- the pointer is the one from before the activation
    have hpointer := @undone_active before v (abortMessage (some code)) at' now hact.settled
      hact.version hact.candidate hact.leads
    rw [undone, ← takeBack_subscriptions_congr hact.versions hact.subscriptions,
      hs, map_some, ha] at hpointer
    obtain ⟨s0, hs0, ha0⟩ := map_eq_some_iff.mp hpointer.symm
    obtain ⟨_, _, _, _, hagrees⟩ := hact.previous s0 a hs0 ha0
    rw [hact.subscriptionID]
    exact hagrees
  · rw [takeBack_other (show id ≠ (v.promoted at').subscriptionID from hid)] at hs
    exact h.sound.agrees id s a hs ha

theorem Sound.finished (hs : Sound lib db) {subscriptionID : String}
    (hok : Write.apply lib now (.finishSuccess subscriptionID) db = .ok db') : Sound lib db' := by
  cases hok
  have hactive : ∀ id s, (db.subscriptions.update subscriptionID (Subscription.succeeded now)
      (Subscription.succeeded_id now)).find id = some s →
      ∃ s0, db.subscriptions.find id = some s0 ∧ s0.activeVersionID = s.activeVersionID := by
    intro id s hfind
    rw [find_update] at hfind
    obtain ⟨s0, hs0, rfl⟩ := map_eq_some_iff.mp hfind
    refine ⟨s0, hs0, ?_⟩
    split <;> rfl
  have hkept : ∀ id s0, db.subscriptions.find id = some s0 →
      ∃ s, (db.subscriptions.update subscriptionID (Subscription.succeeded now)
        (Subscription.succeeded_id now)).find id = some s ∧
        s.activeVersionID = s0.activeVersionID := by
    intro id s0 hs0
    rw [find_update, hs0, map_some]
    refine ⟨_, rfl, ?_⟩
    split <;> rfl
  refine hs.moved rfl rfl rfl (fun _ h => h) ⟨fun id => ⟨?_, ?_, ?_, ?_⟩, ?_, hs.settled.seen⟩ ?_
  · intro k r hr hsub hlkg
    obtain ⟨s0, hs0, ha, hsome⟩ := (hs.settled.each id).pointed k r hr hsub hlkg
    obtain ⟨s, hs', ha'⟩ := hkept id s0 hs0
    exact ⟨s, hs', ha'.trans ha, hsome⟩
  · intro s a hs' ha
    obtain ⟨s0, hs0, ha0⟩ := hactive id s hs'
    exact (hs.settled.each id).points s0 a hs0 (ha0.trans ha)
  · intro s hs' ha
    obtain ⟨s0, hs0, ha0⟩ := hactive id s hs'
    exact (hs.settled.each id).idle s0 hs0 (ha0.trans ha)
  · exact (hs.settled.each id).retained
  · intro k r hr
    obtain ⟨s0, hs0⟩ := isSome_iff_exists.mp (hs.settled.owned k r hr)
    obtain ⟨s, hs', _⟩ := hkept _ s0 hs0
    exact isSome_iff_exists.mpr ⟨s, hs'⟩
  · intro id s a hs' ha
    obtain ⟨s0, hs0, ha0⟩ := hactive id s hs'
    exact hs.agrees id s0 a hs0 (ha0.trans ha)

end

/-! ## the refresh keeps its guarantee -/

section
variable {lib : Library} {job : Job} {db : Store} {P : Store → Prop}
variable {k : Except Fault Unit → Refresh}

/-- the refresh ends in a sound state, whatever is called beside it -/
abbrev Safe (lib : Library) (job : Job) (p : Refresh) (db : Store) : Prop :=
  Guards (refreshExec lib) (Admits lib) (Beside lib) job (fun _ => Sound lib) p db

/-- a fact that no call elsewhere destroys -/
def Stable (lib : Library) (job : Job) (P : Store → Prop) : Prop :=
  ∀ db db', Beside lib job db db' → P db → P db'

theorem safe_outside {step : Outside} (hstable : Stable lib job P) (hdb : P db)
    (herror : ∀ err db', P db' → Safe lib job (k (.error err)) db')
    (hok : ∀ db', P db' → Safe lib job (k (.ok ())) db') :
    Safe lib job (.call (.outside step) k) db := by
  intro db' hb _ now f
  have hdb' := hstable db db' hb hdb
  cases f with
  | ok => exact hok db' hdb'
  | fail => exact herror _ db' hdb'
  | late => exact herror _ db' hdb'

theorem safe_write {w : Write} (hstable : Stable lib job P) (hdb : P db)
    (herror : ∀ err db', P db' → Safe lib job (k (.error err)) db')
    (heffect : ∀ now db' db'', P db' → Admits lib job (.write w) db' →
      w.apply lib now db' = .ok db'' →
      Safe lib job (k (.ok ())) db'' ∧ ∀ err, Safe lib job (k (.error err)) db'') :
    Safe lib job (.call (.write w) k) db := by
  intro db' hb hadmits now f
  have hdb' := hstable db db' hb hdb
  show Safe lib job (k (f.deliver unavailable (transact (w.apply lib now db') db') db').1)
    (f.deliver unavailable (transact (w.apply lib now db') db') db').2
  cases hw : w.apply lib now db' with
  | error err =>
    cases f with
    | ok => exact herror err db' hdb'
    | fail => exact herror _ db' hdb'
    | late => exact herror _ db' hdb'
  | ok db'' =>
  obtain ⟨hnext, hlate⟩ := heffect now db' db'' hdb' hadmits hw
  cases f with
  | ok => exact hnext
  | fail => exact herror _ db' hdb'
  | late => exact hlate _

theorem Sound.stable : Stable lib job (Sound lib) := fun _ _ hb hs => (hb hs).sound

theorem Prepared.stable : Stable lib job (Prepared lib job) := fun _ _ hb h => h.beside hb

theorem Replaced.stable : Stable lib job (Replaced lib job) := fun _ _ hb h => h.beside hb

theorem safe_failCandidate (h : Prepared lib job db) (code : String) :
    Safe lib job (failCandidate job code) db :=
  safe_write Prepared.stable h (fun _ _ h => h.sound) fun _ _ _ h _ hok =>
    ⟨h.marked hok, fun _ => h.marked hok⟩

/-- the cleanup is right whether or not the activation took place -/
theorem safe_compensate (h : Prepared lib job db ∨ Replaced lib job db) (code : String) :
    Safe lib job (compensate job code) db := by
  have hstable : Stable lib job fun db => Prepared lib job db ∨ Replaced lib job db :=
    fun _ _ hb h => h.imp (·.beside hb) (·.beside hb)
  have habort : ∀ db rolledBack, (Prepared lib job db ∨ Replaced lib job db) →
      Safe lib job (.call (.write (.abort job.versionID code)) fun aborted => .done (.error
        (if failed rolledBack || failed aborted then "RUNTIME_ROLLBACK_FAILED" else code))) db := by
    intro db rolledBack h
    refine safe_write hstable h (fun _ _ h => h.elim (·.sound) (·.sound)) ?_
    intro now db' db'' h _ hok
    have hsound : Sound lib db'' := h.elim (·.aborted hok) (·.aborted hok)
    exact ⟨hsound, fun _ => hsound⟩
  exact safe_outside hstable h (fun err db' h => habort db' (.error err) h)
    fun db' h => habort db' (.ok ()) h

theorem safe_finishRefresh (h : Sound lib db) : Safe lib job (finishRefresh job) db := by
  refine safe_write Sound.stable h (fun _ _ h => h) fun now db' db'' h _ hok => ?_
  have hsound := h.finished hok
  exact ⟨safe_outside Sound.stable hsound (fun _ _ h => h) fun _ h => h, fun _ => hsound⟩

theorem safe_activatePromoted (h : Prepared lib job db) :
    Safe lib job (activatePromoted job) db := by
  refine safe_write Prepared.stable h (fun _ _ h => safe_compensate (Or.inl h) _) ?_
  intro now db' db'' h hadmits hok
  have hreplaced := h.activated hadmits hok
  refine ⟨?_, fun _ => safe_compensate (Or.inr hreplaced) _⟩
  exact safe_outside Replaced.stable hreplaced (fun _ _ h => safe_compensate (Or.inr h) _)
    fun _ h => safe_finishRefresh h.sound

theorem safe_promoteStaged (h : Prepared lib job db) : Safe lib job (promoteStaged job) db := by
  refine safe_outside Prepared.stable h (fun _ _ h => safe_failCandidate h _) fun _ h => ?_
  refine safe_outside Prepared.stable h (fun _ _ h => safe_failCandidate h _) fun _ h => ?_
  refine safe_outside Prepared.stable h (fun _ _ h => safe_failCandidate h _) fun _ h => ?_
  refine safe_outside Prepared.stable h (fun _ _ h => safe_failCandidate h _) fun _ h => ?_
  refine safe_outside Prepared.stable h (fun _ _ h => ?_) fun _ h => safe_activatePromoted h
  exact safe_outside Prepared.stable h (fun _ _ h => safe_failCandidate h _)
    fun _ h => safe_failCandidate h _

/-- from the reads on, what was read stays what is stored -/
theorem safe_stageImported {matchers : List Matcher} {overrides : Overrides} (h : Sound lib db)
    (hmatchers : db.loadMatchers = matchers)
    (hoverrides : db.activeOverrides job.subscriptionID = overrides) :
    Safe lib job (stageImported job (some matchers) overrides) db := by
  have hstable : Stable lib job fun db => Sound lib db ∧ db.loadMatchers = matchers ∧
      db.activeOverrides job.subscriptionID = overrides := by
    rintro db db' hb ⟨hs, hm, ho⟩
    have hun := hb hs
    exact ⟨hun.sound, by rw [loadMatchers, hun.matchers]; exact hm, hun.overrides.trans ho⟩
  refine safe_outside hstable ⟨h, hmatchers, hoverrides⟩ (fun _ _ h => h.1) fun _ h => ?_
  refine safe_write hstable h (fun _ _ h => h.1) fun now db' db'' h hdistinct hok => ?_
  obtain ⟨hs, hm, ho⟩ := h
  obtain ⟨nodes, entries, hst⟩ := stage_ok hok
  have hagrees := hst.agrees hs.filed hdistinct (congrArg some hm.symm) ho.symm
  have hfind : db''.versions.find job.versionID =
      some ((job.input (some matchers) overrides).version now entries) :=
    (hst.versions _).trans (if_pos rfl)
  have hprepared : Prepared lib job db'' :=
    ⟨hst.sound hs, ⟨(job.input (some matchers) overrides).version now entries, hfind, rfl, rfl, rfl⟩,
      hagrees⟩
  exact ⟨safe_promoteStaged hprepared, fun _ => hst.sound hs⟩

/-- **the refresh** ends in a sound state -/
theorem guards_refresh (h : Sound lib db) : Safe lib job (executePrepared job) db := by
  intro db' hb hadmits now f
  have hne : db'.matchers.rows ≠ [] := hadmits
  have hs := (hb h).sound
  have hlist : db'.listMatchers = some db'.loadMatchers := by
    rw [listMatchers, if_neg (by simpa using hne)]
  cases f with
  | fail => exact hs
  | late => exact hs
  | ok =>
  simp only [refreshExec, Fate.ok_deliver, hlist]
  intro db'' hb' _ now f
  have hun := hb' hs
  have hm : db''.loadMatchers = db'.loadMatchers := by
    rw [loadMatchers, hun.matchers]
    rfl
  cases f with
  | fail => exact hun.sound
  | late => exact hun.sound
  | ok => exact safe_stageImported hun.sound hm rfl

end

/-! ## every run -/

abbrev Gateway := Shared RefreshOp RefreshOp.Ret (Except String Unit) Store Job

def refreshTurns (lib : Library) (start : Store) (run : List (Time × Move Job Call)) : Gateway :=
  playAll (refreshExec lib) (fun now c => c.after lib now) executePrepared ⟨start, none⟩ run

/-- while a refresh is running the user decides about other subscriptions only, and its steps are
admitted -/
def Undisturbed (lib : Library) (start : Store) (run : List (Time × Move Job Call)) : Prop :=
  Admitted (refreshExec lib) (fun now c => c.after lib now) executePrepared (Admits lib) Elsewhere
    ⟨start, none⟩ run

def ChoicesKept (lib : Library) (db : Store) : Prop :=
  ∀ id s a, db.subscriptions.find id = some s → s.activeVersionID = some a → Agrees lib db id a

section
variable {lib : Library} {db : Store}

theorem Fresh.sound (h : Fresh db) (hnodes : db.nodes.rows = []) : Sound lib db := by
  refine ⟨⟨?_, ?_⟩, h.settled, ?_⟩
  · rw [hnodes]
    simp
  · rw [hnodes]
    simp
  intro id s a hs ha
  rw [(h.subscriptions id s hs).1] at ha
  cases ha

/-- **in every undisturbed run, whenever no refresh is running, the active versions show the choices
of the user** -/
theorem choices_kept (lib : Library) (hlib : lib.Trimmed) (start : Store) (hstart : Fresh start)
    (hnodes : start.nodes.rows = []) (run : List (Time × Move Job Call))
    (hrun : Undisturbed lib start run) (hidle : (refreshTurns lib start run).running = none) :
    ChoicesKept lib (refreshTurns lib start run).state := by
  have hsound : Sound lib (refreshTurns lib start run).state := by
    refine Admitted.idle (fun job db => Beside.refl job db) (fun _ _ _ _ h h' => h.trans h')
      (fun _ _ _ hb hs => (hb hs).sound) (fun _ _ hs => guards_refresh hs)
      (fun now c _ hs => hs.call hlib now c) (fun now _ _ _ h => h.beside hlib now) hrun ?_ hidle
    exact hstart.sound hnodes
  exact hsound.agrees

end

/-! ## two runs -/

instance (lib : Library) (job : Job) : (o : RefreshOp) → (db : Store) →
    Decidable (Admits lib job o db)
  | .listMatchers, db => inferInstanceAs (Decidable (db.matchers.rows ≠ []))
  | .write (.stage _), _ => inferInstanceAs (Decidable (List.Nodup _))
  | .write (.activate _), db => inferInstanceAs (Decidable (∀ v ∈ db.versions.rows, _))
  | .write (.markFailed _ _), _ => isTrue trivial
  | .write (.abort _ _), _ => isTrue trivial
  | .write (.finishSuccess _), _ => isTrue trivial
  | .activeOverrides _, _ => isTrue trivial
  | .outside _, _ => isTrue trivial

instance (job : Job) : (c : Call) → (db : Store) → Decidable (Elsewhere job c db)
  | .setOverride _ _, db => inferInstanceAs (Decidable (∀ n ∈ db.nodes.rows, _))
  | .createMatcher _ _ _, _ => isFalse id
  | .updateMatcher _ _ _ _, _ => isFalse id
  | .deleteMatcher _, _ => isFalse id
  | .reorderMatchers _, _ => isFalse id

/-- names are compared as they are; digests end in a full stop -/
def dottedLibrary : Library :=
  { plainLibrary with
    nodeDigest := fun versionID fingerprint => versionID ++ "/" ++ fingerprint ++ "." }

theorem dottedLibrary_trimmed : dottedLibrary.Trimmed := by
  intro versionID fingerprint
  have hlist : (stableNodeID dottedLibrary versionID fingerprint).toList =
      'n' :: ("ode:".toList ++ versionID.toList ++ "/".toList ++ fingerprint.toList) ++ ['.'] := by
    simp [stableNodeID, dottedLibrary]
  rw [trimSpace, hlist]
  conv_rhs => rw [← @String.ofList_toList (stableNodeID dottedLibrary versionID fingerprint), hlist]
  congr 1
  simp [isSpace]

def oneMatcher : Store :=
  { subscriptions := ⟨[{ id := "s1" }], nodup_s1⟩
    matchers := ⟨[{ id := "m1", pattern := "lte", priority := 10 }], by decide⟩ }

theorem oneMatcher_fresh : Fresh oneMatcher where
  versions := rfl
  preferences := rfl
  subscriptions := by
    intro id s hs
    obtain rfl : s = { id := "s1" } := by simpa [oneMatcher] using mem_of_find hs
    exact ⟨rfl, rfl⟩

def document (versionID : String) : Job :=
  { subscriptionID := "s1", versionID, payload := ⟨versionID, [{ name := "node", fingerprint := "f1" }]⟩ }

def exclude (versionID : String) : Move Job Call :=
  .aside (.setOverride ("node:" ++ versionID ++ "/f1.") "exclude")

def steps (n : Nat) : List (Move Job Call) := List.replicate n (.step .ok)

def clocked (moves : List (Move Job Call)) : List (Time × Move Job Call) :=
  moves.mapIdx fun i m => ((i + 1) * second, m)

/-- a refresh, a choice of the user, and a second refresh -/
def quietRun : List (Time × Move Job Call) :=
  clocked (.start (document "v1") .ok :: steps 12 ++
    exclude "v1" :: .start (document "v2") .ok :: steps 12)

theorem choices_kept_quiet :
    ((refreshTurns dottedLibrary oneMatcher quietRun).state.subscriptions.find "s1").map
        (·.activeVersionID) = some (some "v2") ∧
      (refreshTurns dottedLibrary oneMatcher quietRun).state.activeOverrides "s1" "f1" =
        some .exclude ∧
      ChoicesKept dottedLibrary (refreshTurns dottedLibrary oneMatcher quietRun).state := by
  refine ⟨by decide +kernel, by decide +kernel, ?_⟩
  refine choices_kept dottedLibrary dottedLibrary_trimmed oneMatcher oneMatcher_fresh rfl quietRun
    ?_ ?_
  · unfold Undisturbed
    decide +kernel
  · exact isNone_iff_eq_none.mp (by decide +kernel)

def disturbedRun : List (Time × Move Job Call) :=
  clocked (.start (document "v1") .ok :: steps 12 ++
    .start (document "v2") .ok :: steps 3 ++ exclude "v1" :: steps 9)

/-- **the node is excluded by its preference, and enabled in the active version** -/
theorem choice_lost :
    Fresh oneMatcher ∧ (refreshTurns dottedLibrary oneMatcher disturbedRun).running = none ∧
      ((refreshTurns dottedLibrary oneMatcher disturbedRun).state.subscriptions.find "s1").map
        (·.activeVersionID) = some (some "v2") ∧
      (refreshTurns dottedLibrary oneMatcher disturbedRun).state.activeOverrides "s1" "f1" =
        some .exclude ∧
      ((refreshTurns dottedLibrary oneMatcher disturbedRun).state.versionNodes "v2").map
        (fun n => (n.fingerprint, n.selectionOverride, n.enabled)) = [("f1", .auto, true)] ∧
      ¬ ChoicesKept dottedLibrary (refreshTurns dottedLibrary oneMatcher disturbedRun).state := by
  have hactive : ((refreshTurns dottedLibrary oneMatcher disturbedRun).state.subscriptions.find
      "s1").map (·.activeVersionID) = some (some "v2") := by decide +kernel
  have hchoice : (refreshTurns dottedLibrary oneMatcher disturbedRun).state.activeOverrides "s1" "f1" =
      some .exclude := by decide +kernel
  have hnodes : ((refreshTurns dottedLibrary oneMatcher disturbedRun).state.versionNodes "v2").map
      (fun n => (n.fingerprint, n.selectionOverride, n.enabled)) = [("f1", .auto, true)] := by
    decide +kernel
  refine ⟨oneMatcher_fresh, isNone_iff_eq_none.mp (by decide +kernel), hactive, hchoice, hnodes,
    fun hkept => ?_⟩
  obtain ⟨s, hs, ha⟩ := map_eq_some_iff.mp hactive
  obtain ⟨n, hn, hshown⟩ := mem_map.mp (hnodes ▸ mem_singleton_self _)
  obtain ⟨hfp, hauto, _⟩ : n.fingerprint = "f1" ∧ n.selectionOverride = .auto ∧ n.enabled = true := by
    simpa using hshown
  have hagrees := (hkept "s1" s "v2" hs ha).choices n hn
  rw [hfp, hchoice, hauto] at hagrees
  cases hagrees

end GatewayVpn.Subscriptions
