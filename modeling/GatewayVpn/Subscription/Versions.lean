import GatewayVpn.Subscription.Classify

/-!
# Subscription: versions and preferences

`VersionRepository` keeps the versions of a subscription, the nodes of each version and the
preferences of the user by fingerprint.  A version is staged as CANDIDATE, activated to LKG and
retained when the next one is activated; `AbortActivation` takes an activation back.

Each transaction is a function: an error leaves the tables as they were.  Times are instants and
are compared, as the queries do, by their RFC 3339 texts.  Names and labels of preferences, the
counters of refreshes and the fields that are only displayed are left out.
-/

namespace GatewayVpn.Subscriptions

open Durable List Option Table
open Access (Fault SelectionOverride)

/-! ## rows -/

inductive VersionState where
  | candidate
  | lkg
  | retained
  | failed
  deriving DecidableEq

def VersionState.toText : VersionState → String
  | .candidate => "CANDIDATE"
  | .lkg => "LKG"
  | .retained => "RETAINED"
  | .failed => "FAILED"

structure Version where
  id : String
  subscriptionID : String
  contentSHA256 : String := ""
  nodesTotal : Nat := 0
  state : VersionState := .candidate
  error : Option String := none
  createdAt : Time
  activatedAt : Option Time := none
  deriving DecidableEq

structure StoredNode where
  id : String
  versionID : String
  externalName : String
  normalizedName : String
  fingerprint : String
  proxyType : String := "vless"
  enabled : Bool := true
  selectionOverride : SelectionOverride := .auto
  candidateSource : CandidateSource := .unset
  matchedMatcherID : Option String := none

structure Preference where
  subscriptionID : String
  fingerprint : String
  selectionOverride : SelectionOverride := .auto
  lastSeenVersionID : String
  missingSince : Option Time := none
  createdAt : Time
  updatedAt : Time

def Preference.key (p : Preference) : String × String := (p.subscriptionID, p.fingerprint)

inductive Status where
  | unknown
  | healthy
  | other (text : String)
  deriving DecidableEq

structure Subscription where
  id : String
  enabled : Bool := true
  priority : Int := 1
  status : Status := .unknown
  activeVersionID : Option String := none
  lastRefreshAt : Option Time := none
  lastSuccessAt : Option Time := none
  updatedAt : Time := 0
  deriving DecidableEq

structure Store where
  subscriptions : Table Subscription.id := .empty
  versions : Table Version.id := .empty
  nodes : Table StoredNode.id := .empty
  preferences : Table Preference.key := .empty
  matchers : Table Matcher.id := .empty

theorem nodup_s1 : ([{ id := "s1" }].map Subscription.id).Nodup := by decide

def stableNodeID (lib : Library) (versionID fingerprint : String) : String :=
  "node:" ++ lib.nodeDigest versionID fingerprint

namespace Store

variable (db : Store)

def versionNodes (versionID : String) : List StoredNode :=
  db.nodes.rows.filter fun n => n.versionID = versionID

def present (versionID fingerprint : String) : Bool :=
  (db.versionNodes versionID).any fun n => n.fingerprint = fingerprint

def activeOverrides (subscriptionID : String) : Overrides :=
  fun fingerprint => (db.preferences.find (subscriptionID, fingerprint)).map (·.selectionOverride)

end Store

/-! ## Stage -/

def nullIfEmpty (value : String) : Option String := if value = "" then none else some value

structure StageInput where
  versionID : String
  subscriptionID : String
  payload : Payload
  /-- a nil slice is `none` -/
  matchers : Option (List Matcher)
  overrides : Overrides

def StageInput.row (lib : Library) (input : StageInput) (c : Classification) : StoredNode :=
  { id := stableNodeID lib input.versionID c.node.fingerprint, versionID := input.versionID,
    externalName := c.node.externalName, normalizedName := c.node.normalizedName,
    fingerprint := c.node.fingerprint, proxyType := c.node.proxyType, enabled := c.candidate,
    selectionOverride := (input.overrides c.node.fingerprint).getD .auto,
    candidateSource := c.candidateSource, matchedMatcherID := nullIfEmpty c.matchedMatcher }

/-- the two unique indexes on `nodes` -/
def nodeConflict (t : Table StoredNode.id) (row : StoredNode) : Bool :=
  t.rows.any fun r => r.versionID = row.versionID &&
    (r.fingerprint = row.fingerprint || r.normalizedName = row.normalizedName)

def constraintFailed : String := "constraint failed"

/-- the `INSERT`s of `Stage`, of which the first that violates a constraint fails them all -/
def insertNodes (lib : Library) (input : StageInput) :
    List Classification → Table StoredNode.id → Except Fault (Table StoredNode.id)
  | [], t => .ok t
  | c :: cs, t =>
    let refused : Fault :=
      .text ("insert subscription node " ++ quote c.node.externalName ++ ": " ++ constraintFailed)
    if nodeConflict t (input.row lib c) then .error refused
    else match t.insert (input.row lib c) with
    | none => .error refused
    | some t' => insertNodes lib input cs t'

def StageInput.version (now : Time) (input : StageInput) (entries : List Classification) : Version :=
  { id := input.versionID, subscriptionID := input.subscriptionID,
    contentSHA256 := input.payload.contentSHA256, nodesTotal := entries.length, createdAt := now }

def stage (lib : Library) (now : Time) (input : StageInput) (db : Store) : Except Fault Store :=
  if trimSpace input.versionID = "" || trimSpace input.subscriptionID = "" then
    .error (.text "version and subscription ids are required")
  else match importNodes lib input.payload with
  | .error err => .error err
  | .ok nodes =>
    match classify lib nodes (input.matchers.getD defaultMatchers) input.overrides with
    | .error err => .error err
    | .ok entries =>
      if (db.subscriptions.find input.subscriptionID).isNone then .error .notFound
      else match db.versions.insert (input.version now entries) with
      | none => .error (.text ("insert subscription version: " ++ constraintFailed))
      | some versions =>
        match insertNodes lib input entries db.nodes with
        | .error err => .error err
        | .ok nodes => .ok { db with versions, nodes }

/-! ## Activate -/

namespace Store

variable (db : Store)

section
variable (now : Time)

section
variable (v : Version)

/-- `UPDATE subscription_versions SET state=?` on the LKG of the subscription, then on the
candidate -/
def activatedVersions : Table Version.id :=
  (db.versions.updateWhere (fun r => r.subscriptionID = v.subscriptionID && r.state = .lkg)
      (fun r => { r with state := .retained }) (fun _ => rfl)).update v.id
    (fun r => { r with state := .lkg, activatedAt := some now }) (fun _ => rfl)

def newPreference (n : StoredNode) : Preference :=
  { subscriptionID := v.subscriptionID, fingerprint := n.fingerprint,
    selectionOverride := n.selectionOverride, lastSeenVersionID := v.id, createdAt := now,
    updatedAt := now }

def missed (p : Preference) : Preference :=
  { p with missingSince := p.missingSince.or (some now), updatedAt := now }

def seen (p : Preference) : Preference :=
  { p with lastSeenVersionID := v.id, missingSince := none, updatedAt := now }

theorem missed_key (p : Preference) : (missed now p).key = p.key := rfl

theorem seen_key (p : Preference) : (seen now v p).key = p.key := rfl

/-- the three statements on `subscription_node_preferences` -/
def activatedPreferences : Table Preference.key :=
  ((db.preferences.ensureAll ((db.versionNodes v.id).map (newPreference now v))).updateWhere
      (fun p => p.subscriptionID = v.subscriptionID && !db.present v.id p.fingerprint)
      (missed now) (missed_key now)).updateWhere
    (fun p => p.subscriptionID = v.subscriptionID && db.present v.id p.fingerprint)
    (seen now v) (seen_key now v)

def pointed (versionID : String) (s : Subscription) : Subscription :=
  { s with activeVersionID := some versionID, status := .healthy, lastRefreshAt := some now,
           lastSuccessAt := some now, updatedAt := now }

theorem pointed_id (versionID : String) (s : Subscription) :
    (pointed now versionID s).id = s.id := rfl

def activated : Store :=
  { db with
    versions := db.activatedVersions now v
    preferences := db.activatedPreferences now v
    subscriptions :=
      db.subscriptions.update v.subscriptionID (pointed now v.id) (pointed_id now v.id) }

end

end

end Store

def activate (now : Time) (versionID : String) (db : Store) : Except Fault Store :=
  match db.versions.find versionID with
  | none => .error .notFound
  | some v =>
    if v.state ≠ .candidate then
      .error (.text ("subscription version " ++ versionID ++ " is " ++ v.state.toText ++
        ", not CANDIDATE"))
    else .ok (db.activated now v)

/-! ## MarkFailed and AbortActivation -/

/-- at most `limit` bytes; a character that the limit would cut is dropped -/
def clip (limit : Nat) (s : String) : String := String.ofList (go limit s.toList)
where
  go : Nat → List Char → List Char
    | _, [] => []
    | limit, c :: cs => if c.utf8Size ≤ limit then c :: go (limit - c.utf8Size) cs else []

def Version.failWith (message : String) (r : Version) : Version :=
  { r with state := .failed, error := some message }

theorem Version.failWith_id (message : String) (r : Version) : (r.failWith message).id = r.id := rfl

def Version.reinstated (r : Version) : Version := { r with state := .lkg }

theorem Version.reinstated_id (r : Version) : r.reinstated.id = r.id := rfl

def markFailed (versionID : String) (failure : Option String) (db : Store) : Except Fault Store :=
  match db.versions.find versionID with
  | some v =>
    if v.state = .candidate then
      .ok { db with
        versions := db.versions.update versionID
          (Version.failWith (clip 2048 ((failure.map trimSpace).getD "unknown failure")))
          (Version.failWith_id _) }
    else .error .notFound
  | none => .error .notFound

/-- `a` comes before `b` in `ORDER BY activated_at DESC, created_at DESC` -/
def later (a b : Version) : Bool :=
  let activated (v : Version) : List Char := rfc3339Nano (v.activatedAt.getD 0)
  lexLess (activated b) (activated a) ||
    (activated a = activated b && lexLess (rfc3339Nano b.createdAt) (rfc3339Nano a.createdAt))

namespace Store

variable (db : Store)

/-- the query for the previous LKG; rows with equal times keep the order of the table -/
def latestRetained (subscriptionID versionID : String) : Option Version :=
  firstBy later (db.versions.rows.filter fun r => r.subscriptionID = subscriptionID &&
    r.state = .retained && r.id ≠ versionID && r.activatedAt.isSome)

def failVersion (versionID message : String) : Store :=
  { db with
    versions := db.versions.update versionID (Version.failWith message) (Version.failWith_id _) }

section
variable (now : Time)

def cleared (s : Subscription) : Subscription :=
  { s with activeVersionID := none, status := .unknown, lastSuccessAt := none, updatedAt := now }

def returned (previous : Version) (s : Subscription) : Subscription :=
  { s with activeVersionID := some previous.id, status := .healthy,
           lastSuccessAt := previous.activatedAt, updatedAt := now }

theorem cleared_id (s : Subscription) : (cleared now s).id = s.id := rfl

theorem returned_id (previous : Version) (s : Subscription) :
    (returned now previous s).id = s.id := rfl

/-- the first activation is taken back -/
def clearActive (subscriptionID : String) : Store :=
  { db with
    subscriptions := db.subscriptions.update subscriptionID (cleared now) (cleared_id now) }

def restoreActive (subscriptionID : String) (previous : Version) : Store :=
  { db with
    versions := db.versions.update previous.id Version.reinstated Version.reinstated_id
    subscriptions := db.subscriptions.update subscriptionID (returned now previous)
      (returned_id now previous) }

def takeBack (v : Version) (message : String) : Store :=
  let failed := db.failVersion v.id message
  match failed.latestRetained v.subscriptionID v.id with
  | none => failed.clearActive now v.subscriptionID
  | some previous => failed.restoreActive now v.subscriptionID previous

end

end Store

def abortMessage (failure : Option String) : String :=
  let text := trimSpace (failure.getD "")
  clip 2048 (if text = "" then "LKG_ACTIVATE_FAILED" else text)

def abortActivation (now : Time) (versionID : String) (failure : Option String) (db : Store) :
    Except Fault Store :=
  match db.versions.find versionID with
  | none => .error .notFound
  | some v =>
    match v.state with
    | .failed => .ok db
    | .retained => .error (.text ("subscription version " ++ versionID ++
        " cannot be aborted from state " ++ v.state.toText))
    | .candidate => .ok (db.failVersion versionID (abortMessage failure))
    | .lkg => .ok (db.takeBack now v (abortMessage failure))

/-! ## what an accepted call changes -/

section
variable {lib : Library} {now : Time} {input : StageInput} {db db' : Store}

theorem insertNodes_rows {entries : List Classification} {t t' : Table StoredNode.id}
    (h : insertNodes lib input entries t = .ok t') :
    t'.rows = t.rows ++ entries.map (input.row lib) := by
  induction entries generalizing t with
  | nil =>
    rw [insertNodes] at h
    cases h
    rw [List.map_nil, List.append_nil]
  | cons c cs ih =>
    rw [insertNodes] at h
    split at h
    · cases h
    split at h
    · cases h
    next t1 ht1 =>
    have hrows : t1.rows = t.rows ++ [input.row lib c] := by
      rw [Table.insert] at ht1
      split at ht1
      · cases ht1
      · cases ht1
        rfl
    rw [ih h, hrows, List.map_cons, List.append_assoc, List.singleton_append]

structure Staged (lib : Library) (now : Time) (input : StageInput) (db db' : Store)
    (nodes : List ImportedNode) (entries : List Classification) : Prop where
  imported : importNodes lib input.payload = .ok nodes
  classified : classify lib nodes (input.matchers.getD defaultMatchers) input.overrides = .ok entries
  known : db.subscriptions.find input.subscriptionID ≠ none
  fresh : db.versions.find input.versionID = none
  versions : ∀ id, db'.versions.find id =
    if id = input.versionID then some (input.version now entries) else db.versions.find id
  nodes : db'.nodes.rows = db.nodes.rows ++ entries.map (input.row lib)
  subscriptions : db'.subscriptions = db.subscriptions
  preferences : db'.preferences = db.preferences
  matchers : db'.matchers = db.matchers

theorem stage_ok (h : stage lib now input db = .ok db') :
    ∃ nodes entries, Staged lib now input db db' nodes entries := by
  rw [stage] at h
  split at h
  · cases h
  split at h
  · cases h
  next nodes hnodes =>
  split at h
  · cases h
  next entries hentries =>
  split at h
  · cases h
  next hknown =>
  split at h
  · cases h
  next versions hversions =>
  split at h
  · cases h
  next stored hstored =>
  cases h
  refine ⟨nodes, entries, hnodes, hentries, by simpa using hknown, ?_, ?_, ?_, rfl, rfl, rfl⟩
  · exact (find_insert hversions input.versionID).1
  · exact fun id => (find_insert hversions id).2
  · exact insertNodes_rows hstored

theorem activate_ok {versionID : String} (h : activate now versionID db = .ok db') :
    ∃ v, db.versions.find versionID = some v ∧ v.state = .candidate ∧ db' = db.activated now v := by
  rw [activate] at h
  split at h
  · cases h
  next v hv =>
  split at h
  · cases h
  next hstate =>
  cases h
  exact ⟨v, hv, not_not.mp hstate, rfl⟩

theorem activate_candidate {v : Version} (hv : db.versions.find v.id = some v)
    (hstate : v.state = .candidate) : activate now v.id db = .ok (db.activated now v) := by
  rw [activate, hv]
  dsimp only
  rw [if_neg (not_not.mpr hstate)]

end

/-! ## the tables after an activation -/

namespace Store

section
variable {db : Store} {now : Time} {v : Version}

theorem find_activated_version (hv : db.versions.find v.id = some v) (id : String) :
    (db.activated now v).versions.find id =
      if id = v.id then some { v with state := .lkg, activatedAt := some now }
      else (db.versions.find id).map fun r =>
        if r.subscriptionID = v.subscriptionID && r.state = .lkg then { r with state := .retained }
        else r := by
  show (db.activatedVersions now v).find id = _
  rw [activatedVersions]
  by_cases hid : id = v.id
  · subst hid
    rw [find_update_self, find_updateWhere, hv, if_pos rfl, map_some,
      map_some]
    split <;> rfl
  · rw [find_update_ne _ hid, find_updateWhere, if_neg hid]

def nodeOf (db : Store) (versionID fingerprint : String) : Option StoredNode :=
  (db.versionNodes versionID).find? fun n => n.fingerprint = fingerprint

theorem present_eq_isSome (versionID fingerprint : String) :
    db.present versionID fingerprint = (db.nodeOf versionID fingerprint).isSome := by
  rw [present, nodeOf, isSome_find?]

/-- **the preferences after an activation**: those of the subscription are seen or missed, a node
without one gets one, and all others stay -/
theorem find_activated_preference (subscriptionID fingerprint : String) :
    (db.activated now v).preferences.find (subscriptionID, fingerprint) =
      if subscriptionID = v.subscriptionID then if db.present v.id fingerprint then
          ((db.preferences.find (subscriptionID, fingerprint)).or
            ((db.nodeOf v.id fingerprint).map (newPreference now v))).map (seen now v)
        else (db.preferences.find (subscriptionID, fingerprint)).map (missed now)
      else db.preferences.find (subscriptionID, fingerprint) := by
  show (db.activatedPreferences now v).find _ = _
  rw [activatedPreferences, Table.find_updateWhere, Table.find_updateWhere, Table.find_ensureAll]
  -- the row that the first statement leaves, if there is one, has the key that is looked up
  have hnew : ((db.versionNodes v.id).map (newPreference now v)).find?
      (fun p => p.key = (subscriptionID, fingerprint)) =
      if subscriptionID = v.subscriptionID then (db.nodeOf v.id fingerprint).map (newPreference now v)
      else none := by
    rw [List.find?_map]
    split
    · next hs =>
      congr 1
      refine List.find?_congr ?_
      intro n _
      refine decide_eq_decide.mpr ?_
      simp [newPreference, Preference.key, hs]
    · next hs =>
      rw [Option.map_eq_none_iff, List.find?_eq_none]
      intro n _
      simp [newPreference, Preference.key, Ne.symm hs]
  have hkey : ∀ p, (db.preferences.find (subscriptionID, fingerprint)).or
      (((db.versionNodes v.id).map (newPreference now v)).find?
        fun p => p.key = (subscriptionID, fingerprint)) = some p →
      p.subscriptionID = subscriptionID ∧ p.fingerprint = fingerprint := by
    intro p hp
    have hpkey : p.key = (subscriptionID, fingerprint) := by
      rcases Option.or_eq_some_iff.mp hp with hfind | ⟨_, hfind⟩
      · exact Table.key_of_find hfind
      · simpa using List.find?_some hfind
    exact ⟨congrArg Prod.fst hpkey, congrArg Prod.snd hpkey⟩
  rw [hnew] at hkey ⊢
  by_cases hs : subscriptionID = v.subscriptionID
  · rw [if_pos hs] at hkey ⊢
    rw [if_pos hs]
    by_cases hpresent : db.present v.id fingerprint = true
    · rw [if_pos hpresent, Option.map_map]
      refine Option.map_congr fun p hp => ?_
      obtain ⟨hps, hpf⟩ := hkey p hp
      simp [hps, hpf, hs, hpresent]
    have habsent : db.present v.id fingerprint = false := by simpa using hpresent
    have hnone : db.nodeOf v.id fingerprint = none := by
      rw [present_eq_isSome] at habsent
      simpa using habsent
    rw [hnone, Option.map_none, Option.or_none] at hkey ⊢
    rw [if_neg hpresent, Option.map_map]
    refine Option.map_congr fun p hp => ?_
    obtain ⟨hps, hpf⟩ := hkey p hp
    simp [hps, hpf, hs, habsent, missed]
  rw [if_neg hs, Option.or_none] at hkey ⊢
  rw [if_neg hs, Option.map_map]
  cases hfind : db.preferences.find (subscriptionID, fingerprint) with
  | none => rfl
  | some p =>
  obtain ⟨hps, _⟩ := hkey p hfind
  simp [hps, hs]

theorem find_activated_subscription (id : String) :
    (db.activated now v).subscriptions.find id = (db.subscriptions.find id).map fun s =>
      if s.id = v.subscriptionID then pointed now v.id s else s :=
  find_update (pointed_id now v.id)

end

/-! ## the tables after an aborted activation -/

section
variable {db : Store} {now : Time} {v : Version} {message : String}

theorem find_failVersion (id : String) :
    (db.failVersion v.id message).versions.find id = (db.versions.find id).map fun r =>
      if r.id = v.id then r.failWith message else r :=
  find_update (Version.failWith_id message)

theorem takeBack_subscriptions_congr {db' : Store} (hversions : db'.versions = db.versions)
    (hsubscriptions : db'.subscriptions = db.subscriptions) :
    (db'.takeBack now v message).subscriptions = (db.takeBack now v message).subscriptions := by
  have hquery : (db'.failVersion v.id message).latestRetained v.subscriptionID v.id =
      (db.failVersion v.id message).latestRetained v.subscriptionID v.id := by
    simp only [latestRetained, failVersion, hversions]
  unfold takeBack
  dsimp only
  rw [hquery]
  cases (db.failVersion v.id message).latestRetained v.subscriptionID v.id with
  | none => simp only [clearActive, failVersion, hsubscriptions]
  | some previous => simp only [restoreActive, failVersion, hsubscriptions]

@[simp] theorem takeBack_preferences :
    (db.takeBack now v message).preferences = db.preferences := by
  unfold takeBack
  dsimp only
  split <;> rfl

@[simp] theorem takeBack_nodes : (db.takeBack now v message).nodes = db.nodes := by
  unfold takeBack
  dsimp only
  split <;> rfl

@[simp] theorem takeBack_matchers : (db.takeBack now v message).matchers = db.matchers := by
  unfold takeBack
  dsimp only
  split <;> rfl

end

end Store

end GatewayVpn.Subscriptions
