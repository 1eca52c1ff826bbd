import GatewayVpn.Subscription.Compensation

/-!
# Subscription: the choices of the user

`SetOverride` and the calls of the matcher repository change a choice of the user and classify the
nodes of active versions again, each in one transaction.

The events that the calls append, and the invalidation of stored paths, are left out: they do not
touch the tables here.
-/

namespace GatewayVpn.Subscriptions

open Durable List Option Table Store
open Access (Fault SelectionOverride)

/-! ## stored nodes and matchers -/

/-- an error of an inner call, with the context that `fmt.Errorf` puts before it -/
def within (context : String) : Fault → Fault
  | .text message => .text (context ++ ": " ++ message)
  | err => err

/-- `a` comes before `b` in `ORDER BY enabled DESC, priority, id`, or they are the same -/
def matcherOrder (a b : Matcher) : Bool :=
  (a.enabled && !b.enabled) || (a.enabled = b.enabled && (a.priority < b.priority ||
    (a.priority = b.priority && !lexLess b.id.toList a.id.toList)))

/-- `a` comes before `b` in `ORDER BY normalized_name, id`, or they are the same -/
def nodeOrder (a b : StoredNode) : Bool :=
  lexLess a.normalizedName.toList b.normalizedName.toList ||
    (a.normalizedName = b.normalizedName && !lexLess b.id.toList a.id.toList)

namespace Store

variable (db : Store)

def loadMatchers : List Matcher := db.matchers.rows.insertionSort fun a b => matcherOrder a b = true

/-- `MatcherRepository.List`: without a row the slice is nil -/
def listMatchers : Option (List Matcher) :=
  if db.matchers.rows.isEmpty then none else some db.loadMatchers

end Store

/-- the node that `loadVersionNodesTx` makes of a row: it is matched by its stored name -/
def StoredNode.imported (n : StoredNode) : ImportedNode :=
  { externalName := n.externalName, matchName := n.normalizedName,
    normalizedName := n.normalizedName, fingerprint := n.fingerprint, proxyType := n.proxyType }

section
variable (replacement : Option (String × SelectionOverride))

def chosen (n : StoredNode) : SelectionOverride :=
  match replacement with
  | some (id, choice) => if n.id = id then choice else n.selectionOverride
  | none => n.selectionOverride

def foundOverrideNode (rows : List StoredNode) : Bool :=
  match replacement with
  | some (id, _) => rows.any fun n => n.id = id
  | none => true

end

def loadVersionNodes (versionID : String) (replacement : Option (String × SelectionOverride))
    (db : Store) : Except Fault (List ImportedNode × Overrides) :=
  let rows := (db.versionNodes versionID).insertionSort fun a b => nodeOrder a b = true
  if foundOverrideNode replacement rows then
    .ok (rows.map StoredNode.imported, fun fingerprint =>
      (rows.reverse.find? fun n => n.fingerprint = fingerprint).map (chosen replacement))
  else .error .notFound

/-- a row that shows the classification `c` -/
def StoredNode.classified (overrides : Overrides) (c : Classification) (n : StoredNode) :
    StoredNode :=
  { n with
    enabled := c.candidate
    selectionOverride := (overrides c.node.fingerprint).getD .auto
    candidateSource := c.candidateSource
    matchedMatcherID := nullIfEmpty c.matchedMatcher }

theorem StoredNode.classified_id (overrides : Overrides) (c : Classification) (n : StoredNode) :
    (n.classified overrides c).id = n.id := rfl

/-- the `UPDATE`s of `reclassifyVersionNodesTx`, each of which must find its row -/
def writeClassified (lib : Library) (versionID : String) (overrides : Overrides) :
    List Classification → Table StoredNode.id → Except Fault (Table StoredNode.id)
  | [], t => .ok t
  | c :: cs, t =>
    let id := stableNodeID lib versionID c.node.fingerprint
    match t.find id with
    | some n =>
      if n.versionID = versionID then
        writeClassified lib versionID overrides cs
          (t.update id (StoredNode.classified overrides c) (StoredNode.classified_id overrides c))
      else .error (.text "node classification update count mismatch")
    | none => .error (.text "node classification update count mismatch")

def reclassifyVersionNodes (lib : Library) (versionID : String) (matchers : List Matcher)
    (replacement : Option (String × SelectionOverride)) (db : Store) : Except Fault Store :=
  match loadVersionNodes versionID replacement db with
  | .error err => .error err
  | .ok (nodes, overrides) =>
    match classify lib nodes matchers overrides with
    | .error err => .error err
    | .ok entries =>
      match writeClassified lib versionID overrides entries db.nodes with
      | .error err => .error err
      | .ok nodes => .ok { db with nodes }

def reclassifyEach (lib : Library) (matchers : List Matcher) :
    List String → Store → Except Fault Store
  | [], db => .ok db
  | versionID :: versionIDs, db =>
    match reclassifyVersionNodes lib versionID matchers none db with
    | .error err => .error err
    | .ok db' => reclassifyEach lib matchers versionIDs db'

def reclassifyAllActiveNodes (lib : Library) (db : Store) : Except Fault Store :=
  match compileMatchers lib db.loadMatchers with
  | .error err => .error err
  | .ok _ => reclassifyEach lib db.loadMatchers
      (db.subscriptions.rows.filterMap Subscription.activeVersionID) db

/-! ## SetOverride -/

def parseOverride (text : String) : Option SelectionOverride :=
  if text = "auto" then some .auto
  else if text = "include" then some .include
  else if text = "exclude" then some .exclude
  else none

def Store.activeNode (db : Store) (id : String) : Option (StoredNode × Subscription) :=
  match db.nodes.find id with
  | none => none
  | some n => (db.subscriptions.rows.find? fun s => s.activeVersionID = some n.versionID).map (n, ·)

/-- the `DO UPDATE` of the upsert -/
def Preference.choose (now : Time) (n : StoredNode) (choice : SelectionOverride) (p : Preference) :
    Preference :=
  { p with
    selectionOverride := choice
    lastSeenVersionID := n.versionID
    missingSince := none
    updatedAt := now }

theorem Preference.choose_key (now : Time) (n : StoredNode) (choice : SelectionOverride)
    (p : Preference) : (p.choose now n choice).key = p.key := rfl

def newChoice (now : Time) (n : StoredNode) (s : Subscription) (choice : SelectionOverride) :
    Preference :=
  { subscriptionID := s.id, fingerprint := n.fingerprint, selectionOverride := choice,
    lastSeenVersionID := n.versionID, createdAt := now, updatedAt := now }

def Store.withChoice (db : Store) (now : Time) (n : StoredNode) (s : Subscription)
    (choice : SelectionOverride) : Store :=
  { db with
    preferences := (db.preferences.ensure (newChoice now n s choice)).update (s.id, n.fingerprint)
      (Preference.choose now n choice) (Preference.choose_key now n choice) }

/-- `SetOverride`: the row is looked up by the trimmed id and replaced by the id as it was given -/
def setOverride (lib : Library) (now : Time) (nodeID override : String) (db : Store) :
    Except Fault Store :=
  match parseOverride (trimSpace override) with
  | none => .error (.text "node selection override must be auto, include, or exclude")
  | some choice =>
    match db.activeNode (trimSpace nodeID) with
    | none => .error .notFound
    | some (n, s) =>
      match reclassifyVersionNodes lib n.versionID db.loadMatchers (some (nodeID, choice)) db with
      | .error err => .error err
      | .ok db' => .ok (db'.withChoice now n s choice)

/-! ## the matcher repository -/

/-- `COALESCE(MAX(priority), 0) + 10` over the enabled matchers -/
def Store.nextPriority (db : Store) : Int :=
  ((db.matchers.rows.filter (·.enabled)).map (·.priority)).max?.getD 0 + 10

section
variable (lib : Library)

/-- every change of the matchers ends with a classification of the active versions -/
def withMatchers (context : String) (matchers : Table Matcher.id) (db : Store) :
    Except Fault Store :=
  match reclassifyAllActiveNodes lib { db with matchers } with
  | .error err => .error (within ("reclassify active nodes after matcher " ++ context) err)
  | .ok db' => .ok db'

def createMatcher (id pattern : String) (matchType : MatcherType) (db : Store) :
    Except Fault Store :=
  let matcher : Matcher := { id := trimSpace id, pattern := trimSpace pattern, matchType }
  match compileMatchers lib [matcher] with
  | .error err => .error err
  | .ok _ =>
    match db.matchers.insert { matcher with priority := db.nextPriority } with
    | none => .error (.text ("insert matcher: " ++ constraintFailed))
    | some matchers => withMatchers lib "create" matchers db

def Matcher.become (pattern : String) (matchType : MatcherType) (enabled : Bool) (priority : Int)
    (m : Matcher) : Matcher :=
  { m with pattern, matchType, enabled, priority }

theorem Matcher.become_id (pattern : String) (matchType : MatcherType) (enabled : Bool)
    (priority : Int) (m : Matcher) : (m.become pattern matchType enabled priority).id = m.id := rfl

def updateMatcher (id pattern : String) (matchType : MatcherType) (enabled : Bool)
    (db : Store) : Except Fault Store :=
  match compileMatchers lib [{ id, pattern := trimSpace pattern, matchType, enabled }] with
  | .error err => .error err
  | .ok _ =>
    match db.matchers.find id with
    | none => .error .notFound
    | some m =>
      let priority := if enabled && !m.enabled then db.nextPriority else m.priority
      withMatchers lib "update" (db.matchers.update id
        (Matcher.become (trimSpace pattern) matchType enabled priority)
        (Matcher.become_id _ _ _ _)) db

def deleteMatcher (id : String) (db : Store) : Except Fault Store :=
  match db.matchers.find id with
  | none => .error .notFound
  | some _ => withMatchers lib "delete" (db.matchers.delete fun m => m.id = id) db

def priorityMismatch : Fault := .text "priority list does not match enabled records"

section
variable (ids : List String)

def enabledSet (db : Store) : Bool :=
  let enabled := db.matchers.rows.filter (·.enabled)
  !ids.contains "" && decide ids.Nodup && enabled.all (fun m => ids.contains m.id) &&
    enabled.length = ids.length

def Matcher.placed (m : Matcher) : Matcher :=
  { m with priority := (ids.idxOf m.id + 1) * 10 }

theorem Matcher.placed_id (m : Matcher) : (m.placed ids).id = m.id := rfl

/-- `MatcherRepository.ReorderEnabled`: every enabled matcher is listed, so none keeps its temporary
priority -/
def reorderMatchers (db : Store) : Except Fault Store :=
  if enabledSet ids db then
    withMatchers lib "reorder" (db.matchers.updateWhere (·.enabled) (Matcher.placed ids)
      (Matcher.placed_id ids)) db
  else .error priorityMismatch

end

end

/-! ## calls of the user -/

inductive Call where
  | setOverride (nodeID override : String)
  | createMatcher (id pattern : String) (matchType : MatcherType)
  | updateMatcher (id pattern : String) (matchType : MatcherType) (enabled : Bool)
  | deleteMatcher (id : String)
  | reorderMatchers (ids : List String)

def Call.apply (lib : Library) (now : Time) : Call → Store → Except Fault Store
  | .setOverride nodeID override => Subscriptions.setOverride lib now nodeID override
  | .createMatcher id pattern matchType => Subscriptions.createMatcher lib id pattern matchType
  | .updateMatcher id pattern matchType enabled =>
    Subscriptions.updateMatcher lib id pattern matchType enabled
  | .deleteMatcher id => Subscriptions.deleteMatcher lib id
  | .reorderMatchers ids => Subscriptions.reorderMatchers lib ids

/-- a call that fails is rolled back -/
def Call.after (lib : Library) (now : Time) (c : Call) (db : Store) : Store :=
  match c.apply lib now db with
  | .ok db' => db'
  | .error _ => db

/-! ## the nodes of a version -/

structure Filed (lib : Library) (db : Store) : Prop where
  ids : ∀ n ∈ db.nodes.rows, n.id = stableNodeID lib n.versionID n.fingerprint
  owned : ∀ n ∈ db.nodes.rows, (db.versions.find n.versionID).isSome

section
variable {lib : Library} {db db' : Store} {versionID : String} {n m : StoredNode}

theorem mem_versionNodes :
    n ∈ db.versionNodes versionID ↔ n ∈ db.nodes.rows ∧ n.versionID = versionID := by
  rw [versionNodes, mem_filter, decide_eq_true_eq]

theorem Filed.unique (h : Filed lib db) (hn : n ∈ db.versionNodes versionID)
    (hm : m ∈ db.versionNodes versionID) (hfp : n.fingerprint = m.fingerprint) : n = m := by
  obtain ⟨hn, hnv⟩ := mem_versionNodes.mp hn
  obtain ⟨hm, hmv⟩ := mem_versionNodes.mp hm
  refine inj_on_of_nodup_map db.nodes.nodup hn hm ?_
  rw [h.ids n hn, h.ids m hm, hnv, hmv, hfp]

theorem versionNodes_map {f : StoredNode → StoredNode} (hf : ∀ n, (f n).versionID = n.versionID)
    (hrows : db'.nodes.rows = db.nodes.rows.map f) :
    db'.versionNodes versionID = (db.versionNodes versionID).map f := by
  rw [Store.versionNodes, hrows, List.filter_map, Store.versionNodes]
  congr 1
  refine List.filter_congr fun n _ => ?_
  show decide ((f n).versionID = versionID) = _
  rw [hf]

end

/-! ## what a classification of stored nodes changes -/

variable {cs : List Classification} {n : StoredNode}

section
variable {lib : Library} {versionID : String} {overrides : Overrides}

def reclassifyRow (lib : Library) (versionID : String) (overrides : Overrides)
    (cs : List Classification) (n : StoredNode) : StoredNode :=
  cs.foldl (fun n c => if n.id = stableNodeID lib versionID c.node.fingerprint then
    n.classified overrides c else n) n

theorem writeClassified_rows {t t' : Table StoredNode.id}
    (h : writeClassified lib versionID overrides cs t = .ok t') :
    t'.rows = t.rows.map (reclassifyRow lib versionID overrides cs) := by
  induction cs generalizing t with
  | nil =>
    rw [writeClassified] at h
    cases h
    exact (List.map_id _).symm
  | cons c cs ih =>
    rw [writeClassified] at h
    split at h
    · split at h
      · rw [ih h]
        show (t.rows.map _).map _ = _
        rw [List.map_map]
        refine List.map_congr_left fun n _ => ?_
        simp [reclassifyRow]
      · cases h
    · cases h

theorem reclassifyRow_untouched
    (h : ∀ c ∈ cs, n.id ≠ stableNodeID lib versionID c.node.fingerprint) :
    reclassifyRow lib versionID overrides cs n = n := by
  induction cs with
  | nil => rfl
  | cons c cs ih =>
    rw [reclassifyRow, foldl_cons, if_neg (h c (by simp))]
    exact ih fun c hc => h c (by simp [hc])

theorem reclassifyRow_again {c : Classification}
    (h : ∀ d ∈ cs, n.id = stableNodeID lib versionID d.node.fingerprint → d = c) :
    reclassifyRow lib versionID overrides cs (n.classified overrides c) =
      n.classified overrides c := by
  induction cs with
  | nil => rfl
  | cons d cs ih =>
    have hrest := ih fun e he => h e (by simp [he])
    rw [reclassifyRow, foldl_cons]
    split
    · next hid =>
      rw [h d (by simp) hid]
      exact hrest
    · exact hrest

theorem reclassifyRow_shown {c : Classification} (hc : c ∈ cs)
    (hid : n.id = stableNodeID lib versionID c.node.fingerprint)
    (h : ∀ d ∈ cs, n.id = stableNodeID lib versionID d.node.fingerprint → d = c) :
    reclassifyRow lib versionID overrides cs n = n.classified overrides c := by
  induction cs with
  | nil => cases hc
  | cons d cs ih =>
    rw [reclassifyRow, foldl_cons]
    by_cases hd : n.id = stableNodeID lib versionID d.node.fingerprint
    · rw [if_pos hd, h d (by simp) hd]
      exact reclassifyRow_again fun e he => h e (by simp [he])
    rw [if_neg hd]
    refine ih ?_ fun e he => h e (by simp [he])
    rcases mem_cons.mp hc with rfl | hc
    · exact absurd hid hd
    · exact hc

end

/-! ## nodes that show their classification -/

def StoredNode.Shows (n : StoredNode) (c : Classification) : Prop :=
  n.enabled = c.candidate ∧ n.candidateSource = c.candidateSource ∧
    n.matchedMatcherID = nullIfEmpty c.matchedMatcher

def judgement (lib : Library) (compiled : List Matcher) (overrides : Overrides)
    (nodes : List StoredNode) (n : StoredNode) : Classification :=
  verdict lib compiled overrides
    (hasAutomaticMatch lib compiled overrides (nodes.map StoredNode.imported)) n.imported

def Judged (lib : Library) (compiled : List Matcher) (overrides : Overrides)
    (nodes : List StoredNode) : Prop :=
  ∀ n ∈ nodes, n.Shows (judgement lib compiled overrides nodes n)

structure Reclassified (lib : Library) (versionID : String) (matchers compiled : List Matcher)
    (replacement : Option (String × SelectionOverride)) (overrides : Overrides)
    (db db' : Store) : Prop where
  compiles : compileMatchers lib matchers = .ok compiled
  choices : ∀ n ∈ db.versionNodes versionID,
    overrides n.fingerprint = some (chosen replacement n)
  found : ∀ id choice, replacement = some (id, choice) → ∃ n ∈ db.versionNodes versionID, n.id = id
  rows : db'.nodes.rows = db.nodes.rows.map fun n =>
    if n.versionID = versionID then
      n.classified overrides (judgement lib compiled overrides (db.versionNodes versionID) n)
    else n
  subscriptions : db'.subscriptions = db.subscriptions
  versions : db'.versions = db.versions
  preferences : db'.preferences = db.preferences
  matchers : db'.matchers = db.matchers

section
variable {lib : Library} {versionID : String} {matchers compiled : List Matcher}
variable {replacement : Option (String × SelectionOverride)} {overrides : Overrides}
variable {db db' : Store}

theorem loadVersionNodes_ok (h : Filed lib db) {nodes : List ImportedNode}
    (hload : loadVersionNodes versionID replacement db = .ok (nodes, overrides)) :
    nodes.Perm ((db.versionNodes versionID).map StoredNode.imported) ∧
      (∀ n ∈ db.versionNodes versionID, overrides n.fingerprint = some (chosen replacement n)) ∧
      ∀ id choice, replacement = some (id, choice) →
        ∃ n ∈ db.versionNodes versionID, n.id = id := by
  unfold loadVersionNodes at hload
  dsimp only at hload
  split at hload
  · next hfound =>
    cases hload
    have hperm := (db.versionNodes versionID).perm_insertionSort fun a b => nodeOrder a b = true
    refine ⟨hperm.map _, ?_, ?_⟩
    · intro n hn
      show Option.map _ (List.find? _ _) = _
      cases hfind : List.find? (fun m : StoredNode => m.fingerprint = n.fingerprint)
          ((db.versionNodes versionID).insertionSort fun a b => nodeOrder a b = true).reverse with
      | none =>
        rw [List.find?_eq_none] at hfind
        exact absurd (hfind n (by simpa using hn)) (by simp)
      | some m =>
        have hm : m ∈ db.versionNodes versionID := by
          simpa using List.mem_of_find?_eq_some hfind
        have hfp : m.fingerprint = n.fingerprint := by simpa using List.find?_some hfind
        rw [h.unique hm hn hfp, Option.map_some]
    · rintro id choice rfl
      obtain ⟨n, hn, hid⟩ := List.any_eq_true.mp hfound
      exact ⟨n, by simpa using hn, of_decide_eq_true hid⟩
  · cases hload

/-- **a classification of stored nodes** rewrites the rows of the version and no others -/
theorem reclassify_ok (h : Filed lib db)
    (hok : reclassifyVersionNodes lib versionID matchers replacement db = .ok db') :
    ∃ compiled overrides,
      Reclassified lib versionID matchers compiled replacement overrides db db' := by
  rw [reclassifyVersionNodes] at hok
  split at hok
  · cases hok
  next nodes overrides hload =>
  split at hok
  · cases hok
  next entries hentries =>
  split at hok
  · cases hok
  next stored hstored =>
  cases hok
  obtain ⟨hperm, hoverrides, hfound⟩ := loadVersionNodes_ok h hload
  obtain ⟨compiled, hcompiled, rfl⟩ := classify_ok hentries
  refine ⟨compiled, overrides, hcompiled, hoverrides, hfound, ?_, rfl, rfl, rfl, rfl⟩
  rw [writeClassified_rows hstored]
  refine map_congr_left fun n hn => ?_
  -- an entry of the list is the classification of a row of the version
  have hentry : ∀ c ∈ nodes.map (verdict lib compiled overrides
      (hasAutomaticMatch lib compiled overrides nodes)),
      n.id = stableNodeID lib versionID c.node.fingerprint →
      n.versionID = versionID ∧ c = judgement lib compiled overrides (db.versionNodes versionID) n := by
    intro c hc hid
    obtain ⟨node, hnode, rfl⟩ := mem_map.mp hc
    obtain ⟨m, hm, rfl⟩ := mem_map.mp (hperm.mem_iff.mp hnode)
    obtain ⟨hmem, hversion⟩ := mem_versionNodes.mp hm
    rw [verdict_node] at hid
    have hsame : n = m := by
      refine inj_on_of_nodup_map db.nodes.nodup hn hmem ?_
      rw [hid, h.ids m hmem, hversion]
      rfl
    subst hsame
    exact ⟨hversion, by rw [judgement, hasAutomaticMatch_perm hperm]⟩
  by_cases hversion : n.versionID = versionID
  · rw [if_pos hversion]
    refine reclassifyRow_shown ?_ ?_ fun d hd hid => (hentry d hd hid).2
    · rw [judgement, ← hasAutomaticMatch_perm hperm]
      refine mem_map_of_mem (hperm.mem_iff.mpr (mem_map_of_mem ?_))
      exact mem_versionNodes.mpr ⟨hn, hversion⟩
    · rw [judgement, verdict_node, h.ids n hn, hversion]
      rfl
  · rw [if_neg hversion]
    exact reclassifyRow_untouched fun c hc hid => hversion (hentry c hc hid).1

section
variable (h : Reclassified lib versionID matchers compiled replacement overrides db db')
include h

theorem Reclassified.own :
    db'.versionNodes versionID = (db.versionNodes versionID).map fun n =>
      n.classified overrides (judgement lib compiled overrides (db.versionNodes versionID) n) := by
  rw [versionNodes_map ?_ h.rows]
  · refine map_congr_left fun n hn => ?_
    rw [if_pos (mem_versionNodes.mp hn).2]
  · intro n
    split <;> rfl

theorem Reclassified.other {other : String} (hne : other ≠ versionID) :
    db'.versionNodes other = db.versionNodes other := by
  rw [versionNodes_map ?_ h.rows]
  · refine (List.map_congr_left fun n hn => ?_).trans (List.map_id _)
    rw [if_neg]
    · rfl
    · rw [(mem_versionNodes.mp hn).2]
      exact hne
  · intro n
    split <;> rfl

theorem Reclassified.filed (hfiled : Filed lib db) : Filed lib db' := by
  constructor
  · intro n hn
    rw [h.rows] at hn
    obtain ⟨m, hm, rfl⟩ := mem_map.mp hn
    split
    · exact hfiled.ids m hm
    · exact hfiled.ids m hm
  intro n hn
  rw [h.versions]
  rw [h.rows] at hn
  obtain ⟨m, hm, rfl⟩ := mem_map.mp hn
  split
  · exact hfiled.owned m hm
  · exact hfiled.owned m hm

theorem Reclassified.chosen (hn : n ∈ db'.versionNodes versionID) :
    ∃ m ∈ db.versionNodes versionID, n.fingerprint = m.fingerprint ∧
      n.selectionOverride = Subscriptions.chosen replacement m ∧
      overrides n.fingerprint = some n.selectionOverride := by
  rw [h.own] at hn
  obtain ⟨m, hm, rfl⟩ := mem_map.mp hn
  have hchoice : (m.classified overrides (judgement lib compiled overrides
      (db.versionNodes versionID) m)).selectionOverride = Subscriptions.chosen replacement m := by
    show getD (overrides (judgement lib compiled overrides _ m).node.fingerprint) _ = _
    rw [judgement, verdict_node, show m.imported.fingerprint = m.fingerprint from rfl,
      h.choices m hm, getD_some]
  exact ⟨m, hm, rfl, hchoice, by rw [hchoice]; exact h.choices m hm⟩

theorem Reclassified.judged : Judged lib compiled overrides (db'.versionNodes versionID) := by
  have himported : (db'.versionNodes versionID).map StoredNode.imported =
      (db.versionNodes versionID).map StoredNode.imported := by
    rw [h.own, List.map_map]
    rfl
  intro n hn
  rw [judgement, himported]
  rw [h.own] at hn
  obtain ⟨m, _, rfl⟩ := List.mem_map.mp hn
  exact ⟨rfl, rfl, rfl⟩

end

theorem Judged.congr {nodes : List StoredNode} {overrides' : Overrides}
    (h : Judged lib compiled overrides nodes)
    (hsame : ∀ n ∈ nodes, (overrides n.fingerprint).getD .auto =
      (overrides' n.fingerprint).getD .auto) : Judged lib compiled overrides' nodes := by
  intro n hn
  have hauto : hasAutomaticMatch lib compiled overrides (nodes.map StoredNode.imported) =
      hasAutomaticMatch lib compiled overrides' (nodes.map StoredNode.imported) := by
    refine hasAutomaticMatch_congr fun node hnode => ?_
    obtain ⟨m, hm, rfl⟩ := mem_map.mp hnode
    exact hsame m hm
  have hnode : classifyNode lib compiled overrides n.imported =
      classifyNode lib compiled overrides' n.imported := classifyNode_congr (hsame n hn)
  have hshows := h n hn
  rw [judgement, verdict, hauto, hnode] at hshows
  exact hshows

end

/-! ## versions that agree with the choices -/

/-- the nodes of the version show the preferences of the subscription, and what `Classify` gives for
the version under these and the current matchers -/
structure Agrees (lib : Library) (db : Store) (subscriptionID versionID : String) : Prop where
  choices : ∀ n ∈ db.versionNodes versionID,
    n.selectionOverride = (db.activeOverrides subscriptionID n.fingerprint).getD .auto
  classified : ∃ entries, classify lib ((db.versionNodes versionID).map StoredNode.imported)
      db.loadMatchers (db.activeOverrides subscriptionID) = .ok entries ∧
    ∀ n ∈ db.versionNodes versionID,
      ∃ c ∈ entries, c.node.fingerprint = n.fingerprint ∧ n.Shows c

section
variable {lib : Library} {db db' : Store} {subscriptionID versionID : String}

theorem agrees_iff (h : Filed lib db) : Agrees lib db subscriptionID versionID ↔
      (∀ n ∈ db.versionNodes versionID,
        n.selectionOverride = (db.activeOverrides subscriptionID n.fingerprint).getD .auto) ∧
      ∃ compiled, compileMatchers lib db.loadMatchers = .ok compiled ∧
        Judged lib compiled (db.activeOverrides subscriptionID) (db.versionNodes versionID) := by
  constructor
  · rintro ⟨hchoices, entries, hentries, hshown⟩
    obtain ⟨compiled, hcompiled, rfl⟩ := classify_ok hentries
    refine ⟨hchoices, compiled, hcompiled, fun n hn => ?_⟩
    obtain ⟨c, hc, hfp, hshows⟩ := hshown n hn
    rw [List.map_map] at hc
    obtain ⟨m, hm, rfl⟩ := List.mem_map.mp hc
    rw [Function.comp_apply, verdict_node] at hfp
    obtain rfl := h.unique hm hn hfp
    exact hshows
  · rintro ⟨hchoices, compiled, hcompiled, hjudged⟩
    refine ⟨hchoices, _, classify_compiled hcompiled, fun n hn => ⟨_, ?_, ?_, hjudged n hn⟩⟩
    · exact List.mem_map_of_mem (List.mem_map_of_mem hn)
    · rw [judgement, verdict_node]
      rfl

theorem Agrees.congr (h : Agrees lib db subscriptionID versionID) (hfiled : Filed lib db)
    (hfiled' : Filed lib db') (hnodes : db'.versionNodes versionID = db.versionNodes versionID)
    (hmatchers : db'.matchers = db.matchers)
    (hoverrides : ∀ fingerprint, (db'.activeOverrides subscriptionID fingerprint).getD .auto =
      (db.activeOverrides subscriptionID fingerprint).getD .auto) :
    Agrees lib db' subscriptionID versionID := by
  obtain ⟨hchoices, compiled, hcompiled, hjudged⟩ := (agrees_iff hfiled).mp h
  refine (agrees_iff hfiled').mpr ⟨?_, compiled, ?_, ?_⟩
  · intro n hn
    rw [hnodes] at hn
    rw [hoverrides]
    exact hchoices n hn
  · rw [loadMatchers, hmatchers]
    exact hcompiled
  · rw [hnodes]
    exact hjudged.congr fun n _ => (hoverrides n.fingerprint).symm

theorem Judged.agrees {compiled : List Matcher} {overrides : Overrides} (hfiled : Filed lib db)
    (hcompiled : compileMatchers lib db.loadMatchers = .ok compiled)
    (h : Judged lib compiled overrides (db.versionNodes versionID))
    (hshown : ∀ n ∈ db.versionNodes versionID, overrides n.fingerprint = some n.selectionOverride)
    (hchoices : ∀ n ∈ db.versionNodes versionID,
      n.selectionOverride = (db.activeOverrides subscriptionID n.fingerprint).getD .auto) :
    Agrees lib db subscriptionID versionID := by
  refine (agrees_iff hfiled).mpr ⟨hchoices, compiled, hcompiled, h.congr fun n hn => ?_⟩
  rw [hshown n hn, getD_some, hchoices n hn]

end

/-- the state between two transactions -/
structure Sound (lib : Library) (db : Store) : Prop where
  filed : Filed lib db
  settled : Settled db
  agrees : ∀ id s a, db.subscriptions.find id = some s → s.activeVersionID = some a →
    Agrees lib db id a

/-! ## a choice for one node -/

variable {s : Subscription} {now : Time}

section
variable {lib : Library} {db db' : Store}

theorem Settled.congr (h : Settled db) (hversions : db'.versions = db.versions)
    (hsubscriptions : db'.subscriptions = db.subscriptions)
    (hseen : ∀ key p, db'.preferences.find key = some p →
      ∃ r, db.versions.find p.lastSeenVersionID = some r ∧ r.state ≠ .candidate) : Settled db' := by
  refine ⟨fun id => ?_, ?_, ?_⟩
  · obtain ⟨hpointed, hpoints, hidle, hretained⟩ := h.each id
    rw [← hversions] at hpointed hpoints hidle hretained
    rw [← hsubscriptions] at hpointed hpoints hidle
    exact ⟨hpointed, hpoints, hidle, hretained⟩
  · rw [hversions, hsubscriptions]
    exact h.owned
  · rw [hversions]
    exact hseen

theorem Settled.active_unique (h : Settled db) {id id' a : String} {s' : Subscription}
    (hs : db.subscriptions.find id = some s) (hs' : db.subscriptions.find id' = some s')
    (ha : s.activeVersionID = some a) (ha' : s'.activeVersionID = some a) : id = id' := by
  obtain ⟨r, hr, hsub, _⟩ := (h.each id).points s a hs ha
  obtain ⟨r', hr', hsub', _⟩ := (h.each id').points s' a hs' ha'
  obtain rfl := some.inj (hr.symm.trans hr')
  exact hsub.symm.trans hsub'

theorem find_withChoice {choice : SelectionOverride} (key : String × String) :
    (db.withChoice now n s choice).preferences.find key = if key = (s.id, n.fingerprint) then
        some (((db.preferences.find key).getD (newChoice now n s choice)).choose now n choice)
      else db.preferences.find key := by
  show ((db.preferences.ensure (newChoice now n s choice)).update _ _
    (Preference.choose_key now n choice)).find key = _
  split
  · next hkey =>
    rw [hkey, find_update_self,
      show (s.id, n.fingerprint) = (newChoice now n s choice).key from rfl, find_ensure_self,
      map_some]
  · next hkey =>
    rw [find_update_ne _ hkey,
      find_ensure_ne (show key ≠ (newChoice now n s choice).key from hkey)]

theorem activeOverrides_withChoice {choice : SelectionOverride}
    (subscriptionID fingerprint : String) :
    (db.withChoice now n s choice).activeOverrides subscriptionID fingerprint =
      if subscriptionID = s.id ∧ fingerprint = n.fingerprint then some choice
      else db.activeOverrides subscriptionID fingerprint := by
  rw [activeOverrides, find_withChoice]
  by_cases hkey : subscriptionID = s.id ∧ fingerprint = n.fingerprint
  · rw [if_pos hkey, if_pos (Prod.mk.injEq .. ▸ hkey)]
    rfl
  · rw [if_neg hkey, if_neg (Prod.mk.injEq .. ▸ hkey)]
    rfl

/-- an accepted override: the node is active, and its version is classified with the new choice -/
structure Chosen (lib : Library) (now : Time) (n : StoredNode) (s : Subscription)
    (choice : SelectionOverride) (nodeID : String) (db between db' : Store) : Prop where
  node : db.nodes.find (trimSpace nodeID) = some n
  subscription : db.subscriptions.find s.id = some s
  active : s.activeVersionID = some n.versionID
  classified : ∃ compiled overrides, Reclassified lib n.versionID db.loadMatchers compiled
    (some (nodeID, choice)) overrides db between
  result : db' = between.withChoice now n s choice

theorem setOverride_ok {nodeID override : String} (h : Filed lib db)
    (hok : setOverride lib now nodeID override db = .ok db') :
    ∃ n s choice between, Chosen lib now n s choice nodeID db between db' := by
  rw [setOverride] at hok
  split at hok
  · cases hok
  next choice _ =>
  split at hok
  · cases hok
  next n s hactive =>
  split at hok
  · cases hok
  next between hbetween =>
  cases hok
  rw [activeNode] at hactive
  split at hactive
  · cases hactive
  next m hm =>
  obtain ⟨s', hs', hpair⟩ := map_eq_some_iff.mp hactive
  cases hpair
  refine ⟨n, s, choice, between, hm, ?_, ?_, reclassify_ok h hbetween, rfl⟩
  · exact mem_iff_find.mp (mem_of_find?_eq_some hs')
  · simpa using find?_some hs'

def Library.Trimmed (lib : Library) : Prop :=
  ∀ versionID fingerprint, trimSpace (stableNodeID lib versionID fingerprint) =
    stableNodeID lib versionID fingerprint

section
variable {now : Time} {n : StoredNode} {s : Subscription} {choice : SelectionOverride}
variable {nodeID : String} {between : Store}

section
variable (h : Chosen lib now n s choice nodeID db between db')
include h

theorem Chosen.id (hlib : lib.Trimmed) (hfiled : Filed lib db) : n.id = nodeID := by
  obtain ⟨compiled, overrides, hre⟩ := h.classified
  obtain ⟨m, hm, hid⟩ := hre.found nodeID choice rfl
  have htrim : trimSpace nodeID = nodeID := by
    rw [← hid, hfiled.ids m (mem_versionNodes.mp hm).1]
    exact hlib _ _
  rw [← htrim]
  exact key_of_find h.node

theorem Chosen.filed (hfiled : Filed lib db) : Filed lib db' := by
  obtain ⟨compiled, overrides, hre⟩ := h.classified
  rw [h.result]
  exact ⟨(hre.filed hfiled).ids, (hre.filed hfiled).owned⟩

theorem Chosen.tables : db'.versions = db.versions ∧ db'.subscriptions = db.subscriptions ∧
      db'.matchers = db.matchers ∧
      ∀ other, other ≠ n.versionID → db'.versionNodes other = db.versionNodes other := by
  obtain ⟨compiled, overrides, hre⟩ := h.classified
  rw [h.result]
  exact ⟨hre.versions, hre.subscriptions, hre.matchers, fun other hother => hre.other hother⟩

theorem Chosen.preferences (key : String × String) :
    db'.preferences.find key = if key = (s.id, n.fingerprint) then
        some (((db.preferences.find key).getD (newChoice now n s choice)).choose now n choice)
      else db.preferences.find key := by
  obtain ⟨compiled, overrides, hre⟩ := h.classified
  rw [h.result, find_withChoice, hre.preferences]

end

theorem Chosen.overrides (h : Chosen lib now n s choice nodeID db between db')
    (subscriptionID fingerprint : String) : db'.activeOverrides subscriptionID fingerprint =
      if subscriptionID = s.id ∧ fingerprint = n.fingerprint then some choice
      else db.activeOverrides subscriptionID fingerprint := by
  obtain ⟨compiled, overrides, hre⟩ := h.classified
  rw [h.result, activeOverrides_withChoice, activeOverrides, hre.preferences]
  rfl

section
variable (h : Chosen lib now n s choice nodeID db between db')
include h

theorem Chosen.settled (hs : Settled db) : Settled db' := by
  obtain ⟨hversions, hsubscriptions, _⟩ := h.tables
  refine hs.congr hversions hsubscriptions fun key p hp => ?_
  rw [h.preferences] at hp
  split at hp
  · obtain rfl := some.inj hp
    obtain ⟨r, hr, _, hlkg⟩ := (hs.each _).points s _ h.subscription h.active
    exact ⟨r, hr, by rw [hlkg]; simp⟩
  · exact hs.seen key p hp

theorem Chosen.agrees (hlib : lib.Trimmed)
    (hfiled : Filed lib db) (hagrees : Agrees lib db s.id n.versionID) :
    Agrees lib db' s.id n.versionID := by
  obtain ⟨compiled, overrides, hre⟩ := h.classified
  have hnodes : db'.versionNodes n.versionID = between.versionNodes n.versionID := by
    rw [h.result]
    rfl
  have hn : n ∈ db.versionNodes n.versionID :=
    mem_versionNodes.mpr ⟨mem_of_find h.node, rfl⟩
  have hmatchers : db'.loadMatchers = db.loadMatchers := by
    rw [loadMatchers, h.tables.2.2.1]
    rfl
  have hjudged := hre.judged
  rw [← hnodes] at hjudged
  refine hjudged.agrees (h.filed hfiled) (hmatchers ▸ hre.compiles) ?_ ?_
  · intro x hx
    rw [hnodes] at hx
    obtain ⟨_, _, _, _, hshown⟩ := hre.chosen hx
    exact hshown
  intro x hx
  rw [hnodes] at hx
  obtain ⟨m, hm, hfp, hchosen, _⟩ := hre.chosen hx
  rw [hchosen, hfp, h.overrides, Subscriptions.chosen]
  by_cases hid : m.id = nodeID
  · have hmn : m = n := inj_on_of_nodup_map db.nodes.nodup (mem_versionNodes.mp hm).1
      (mem_versionNodes.mp hn).1 (hid.trans (h.id hlib hfiled).symm)
    rw [if_pos hid, if_pos ⟨rfl, by rw [hmn]⟩, getD_some]
  have hother : m.fingerprint ≠ n.fingerprint := by
    intro heq
    rw [hfiled.unique hm hn heq] at hid
    exact hid (h.id hlib hfiled)
  rw [if_neg hid, if_neg fun hand => hother hand.2]
  exact hagrees.choices m hm

theorem Chosen.sound (hlib : lib.Trimmed) (hs : Sound lib db) : Sound lib db' := by
  obtain ⟨hversions, hsubscriptions, hmatchers, hnodes⟩ := h.tables
  refine ⟨h.filed hs.filed, h.settled hs.settled, ?_⟩
  intro id s' a hs' ha
  rw [hsubscriptions] at hs'
  by_cases hid : id = s.id
  · subst hid
    obtain rfl := some.inj (h.subscription.symm.trans hs')
    obtain rfl : n.versionID = a := some.inj (h.active.symm.trans ha)
    exact h.agrees hlib hs.filed (hs.agrees _ s _ hs' ha)
  · refine (hs.agrees id s' a hs' ha).congr hs.filed (h.filed hs.filed) (hnodes a ?_) hmatchers ?_
    · rintro rfl
      exact hid (hs.settled.active_unique hs' h.subscription ha h.active)
    · intro fingerprint
      rw [h.overrides, if_neg fun hand => hid hand.1]

end

end

end

/-! ## a change of the matchers -/

section
variable {lib : Library} {matchers compiled : List Matcher} {db db' : Store}

/-- the active versions have been classified again with the overrides that their rows show -/
structure ReclassifiedEach (lib : Library) (compiled : List Matcher) (versionIDs : List String)
    (db db' : Store) : Prop where
  filed : Filed lib db'
  subscriptions : db'.subscriptions = db.subscriptions
  versions : db'.versions = db.versions
  preferences : db'.preferences = db.preferences
  matchers : db'.matchers = db.matchers
  other : ∀ id, id ∉ versionIDs → db'.versionNodes id = db.versionNodes id
  choices : ∀ id, ∀ n ∈ db'.versionNodes id, ∃ m ∈ db.versionNodes id,
    n.fingerprint = m.fingerprint ∧ n.selectionOverride = m.selectionOverride
  judged : ∀ id ∈ versionIDs, ∃ overrides : Overrides,
    (∀ n ∈ db'.versionNodes id, overrides n.fingerprint = some n.selectionOverride) ∧
      Judged lib compiled overrides (db'.versionNodes id)

theorem reclassifyEach_ok {versionIDs : List String} (h : Filed lib db)
    (hcompiled : compileMatchers lib matchers = .ok compiled)
    (hok : reclassifyEach lib matchers versionIDs db = .ok db') :
    ReclassifiedEach lib compiled versionIDs db db' := by
  induction versionIDs generalizing db with
  | nil =>
    cases hok
    exact ⟨h, rfl, rfl, rfl, rfl, fun _ _ => rfl, fun _ n hn => ⟨n, hn, rfl, rfl⟩, by simp⟩
  | cons versionID versionIDs ih =>
    rw [reclassifyEach] at hok
    split at hok
    · cases hok
    next between hbetween =>
    obtain ⟨compiled', overrides, hre⟩ := reclassify_ok h hbetween
    obtain rfl : compiled' = compiled := Except.ok.inj (hre.compiles.symm.trans hcompiled)
    have hrest := ih (hre.filed h) hok
    refine ⟨hrest.filed, hrest.subscriptions.trans hre.subscriptions,
      hrest.versions.trans hre.versions, hrest.preferences.trans hre.preferences,
      hrest.matchers.trans hre.matchers, ?_, ?_, ?_⟩
    · intro id hid
      rw [mem_cons, not_or] at hid
      rw [hrest.other id hid.2, hre.other hid.1]
    · intro id n hn
      obtain ⟨m, hm, hfp, hchoice⟩ := hrest.choices id n hn
      by_cases hid : id = versionID
      · subst hid
        obtain ⟨k, hk, hfp', hchoice', _⟩ := hre.chosen hm
        exact ⟨k, hk, hfp.trans hfp', hchoice.trans hchoice'⟩
      · rw [hre.other hid] at hm
        exact ⟨m, hm, hfp, hchoice⟩
    intro id hid
    by_cases hlater : id ∈ versionIDs
    · exact hrest.judged id hlater
    obtain rfl := (mem_cons.mp hid).resolve_right hlater
    rw [hrest.other id hlater]
    refine ⟨overrides, fun n hn => ?_, hre.judged⟩
    obtain ⟨_, _, _, _, hshown⟩ := hre.chosen hn
    exact hshown

theorem withMatchers_sound {context : String} {changed : Table Matcher.id} (hs : Sound lib db)
    (hok : withMatchers lib context changed db = .ok db') : Sound lib db' := by
  rw [withMatchers] at hok
  split at hok
  · cases hok
  next db1 hall =>
  cases hok
  rw [reclassifyAllActiveNodes] at hall
  split at hall
  · cases hall
  next compiled hcompiled =>
  have hfiled : Filed lib { db with matchers := changed } := ⟨hs.filed.ids, hs.filed.owned⟩
  have hre := reclassifyEach_ok hfiled hcompiled hall
  refine ⟨hre.filed, hs.settled.congr hre.versions hre.subscriptions ?_, ?_⟩
  · rw [hre.preferences]
    exact hs.settled.seen
  intro id s a hfind ha
  rw [hre.subscriptions] at hfind
  have hactive : a ∈ db.subscriptions.rows.filterMap Subscription.activeVersionID :=
    mem_filterMap.mpr ⟨s, mem_of_find hfind, ha⟩
  obtain ⟨overrides, hshown, hjudged⟩ := hre.judged a hactive
  refine hjudged.agrees hre.filed ?_ hshown fun n hn => ?_
  · rw [loadMatchers, hre.matchers]
    exact hcompiled
  obtain ⟨m, hm, hfp, hchoice⟩ := hre.choices a n hn
  rw [hchoice, hfp, activeOverrides, hre.preferences]
  exact (hs.agrees id s a hfind ha).choices m hm

/-- **no call of the user leaves an active version that does not agree** -/
theorem Sound.call (hs : Sound lib db) (hlib : lib.Trimmed) (now : Time) (c : Call) :
    Sound lib (c.after lib now db) := by
  rw [Call.after]
  split
  · next db1 hok =>
    cases c with
    | setOverride nodeID override =>
      obtain ⟨n, s, choice, between, hchosen⟩ := setOverride_ok hs.filed hok
      exact hchosen.sound hlib hs
    | createMatcher id pattern matchType =>
      simp only [Call.apply, createMatcher] at hok
      split at hok
      · cases hok
      split at hok
      · cases hok
      exact withMatchers_sound hs hok
    | updateMatcher id pattern matchType enabled =>
      simp only [Call.apply, updateMatcher] at hok
      split at hok
      · cases hok
      split at hok
      · cases hok
      exact withMatchers_sound hs hok
    | deleteMatcher id =>
      simp only [Call.apply, deleteMatcher] at hok
      split at hok
      · cases hok
      exact withMatchers_sound hs hok
    | reorderMatchers ids =>
    simp only [Call.apply, reorderMatchers] at hok
    split at hok
    · exact withMatchers_sound hs hok
    · cases hok
  · exact hs

end

end GatewayVpn.Subscriptions
