import GatewayVpn.Subscription.RefreshRace
import GatewayVpn.Subscription.Verdicts

/-!
# Subscription: stored names

`finalizeNodes` keeps the name of a node the first time it comes and puts the start of its
fingerprint behind it every other time.  The names it makes are stored under a unique index, and a
later classification matches the stored names.
-/

namespace GatewayVpn.Subscriptions

open Durable List
open Access (SelectionOverride)

/-! ## names that are made different -/

def firsts : List String → List ImportedNode → List ImportedNode
  | _, [] => []
  | names, n :: ns =>
    if names.contains n.normalizedName then firsts (n.normalizedName :: names) ns
    else n :: firsts (n.normalizedName :: names) ns

def repeats : List String → List ImportedNode → List ImportedNode
  | _, [] => []
  | names, n :: ns =>
    if names.contains n.normalizedName then n :: repeats (n.normalizedName :: names) ns
    else repeats (n.normalizedName :: names) ns

/-- no name with the start of a fingerprint behind it is a name of the list, and none is made
twice -/
structure FreshNames (nodes : List ImportedNode) : Prop where
  unused : ∀ n ∈ repeats [] nodes, n.disambiguate.normalizedName ∉ nodes.map (·.normalizedName)
  apart : ((repeats [] nodes).map (·.disambiguate.normalizedName)).Nodup

section
variable {nodes stored : List ImportedNode} {names : List String} {seen : List (String × String)}

theorem mem_firsts {name : String} : name ∈ (firsts names nodes).map (·.normalizedName) ↔
      name ∈ nodes.map (·.normalizedName) ∧ name ∉ names := by
  induction nodes generalizing names with
  | nil => simp [firsts]
  | cons n ns ih =>
    rw [firsts]
    split
    · next hold =>
      rw [ih, map_cons, mem_cons, mem_cons]
      have hmem : n.normalizedName ∈ names := by simpa using hold
      grind
    · next hnew =>
      rw [map_cons, mem_cons, ih, map_cons, mem_cons, mem_cons]
      have hmem : n.normalizedName ∉ names := by simpa using hnew
      grind

theorem nodup_firsts : ((firsts names nodes).map (·.normalizedName)).Nodup := by
  induction nodes generalizing names with
  | nil => exact nodup_nil
  | cons n ns ih =>
    rw [firsts]
    split
    · exact ih
    · rw [map_cons, nodup_cons, mem_firsts]
      exact ⟨fun h => h.2 (by simp), ih⟩

theorem stored_perm (h : finalizeFrom seen names nodes = .ok stored) :
    stored.Perm (firsts names nodes ++ (repeats names nodes).map ImportedNode.disambiguate) := by
  induction nodes generalizing seen names stored with
  | nil =>
    cases h
    exact List.Perm.refl _
  | cons n ns ih =>
    rw [finalizeFrom] at h
    split at h
    · cases h
    split at h
    · cases h
    next rest hrest =>
    cases h
    rw [firsts, repeats]
    split
    · rw [map_cons]
      exact ((ih hrest).cons _).trans perm_middle.symm
    · exact (ih hrest).cons n

theorem finalizeNodes_finalize (h : finalizeNodes nodes = .ok stored) :
    finalizeFrom [] [] nodes = .ok stored := by
  rw [finalizeNodes] at h
  split at h
  · cases h
  split at h
  · cases h
  · exact h

theorem nodup_stored_iff (h : finalizeNodes nodes = .ok stored) :
    (stored.map (·.normalizedName)).Nodup ↔ FreshNames nodes := by
  rw [((stored_perm (finalizeNodes_finalize h)).map _).nodup_iff, map_append, map_map,
    nodup_append]
  constructor
  · rintro ⟨-, hapart, hdisjoint⟩
    refine ⟨fun n hn hmem => ?_, hapart⟩
    exact hdisjoint _ (mem_firsts.2 ⟨hmem, not_mem_nil⟩) _ (mem_map_of_mem hn) rfl
  · intro hfresh
    refine ⟨nodup_firsts, hfresh.apart, ?_⟩
    rintro a ha b hb rfl
    obtain ⟨n, hn, rfl⟩ := mem_map.1 hb
    exact hfresh.unused n hn (mem_firsts.1 ha).1

end

/-! ## the unique index over the names of a version -/

/-- the row violates the unique index over `(version_id, normalized_name)` -/
def nameTaken (t : Table StoredNode.id) (row : StoredNode) : Bool :=
  t.rows.any fun r => r.versionID = row.versionID && r.normalizedName = row.normalizedName

/-- no `INSERT` of the entries, into a table without a node of the version, violates the index -/
def NamesAccepted (lib : Library) (input : StageInput) (entries : List Classification) : Prop :=
  ∀ t : Table StoredNode.id, (∀ r ∈ t.rows, r.versionID ≠ input.versionID) →
    ∀ before c after t', entries = before ++ c :: after → insertNodes lib input before t = .ok t' →
      nameTaken t' (input.row lib c) = false

theorem namesAccepted_of_nodup {lib : Library} {input : StageInput} {entries : List Classification}
    (h : (entries.map (·.node.normalizedName)).Nodup) : NamesAccepted lib input entries := by
  rintro t hfresh before c after t' rfl hinsert
  rw [map_append, map_cons, nodup_append] at h
  rw [nameTaken, insertNodes_rows hinsert, any_eq_false]
  intro r hr
  rcases mem_append.1 hr with hr | hr
  · simp [hfresh r hr, StageInput.row]
  · obtain ⟨d, hd, rfl⟩ := mem_map.1 hr
    have hne := h.2.2 _ (mem_map_of_mem hd) _ mem_cons_self
    simp [StageInput.row, hne]

/-- **Stored names are pairwise different**, and `Stage` does not fail on the index over them,
exactly when no made name is a name of the list and none is made twice. -/
theorem stored_names_distinct_iff {nodes stored : List ImportedNode}
    (h : finalizeNodes nodes = .ok stored) :
    ((stored.map (·.normalizedName)).Nodup ∧
        ∀ lib input entries, entries.map (·.node) = stored → NamesAccepted lib input entries) ↔
      FreshNames nodes := by
  rw [← nodup_stored_iff h]
  refine ⟨fun hboth => hboth.1, fun hnodup => ⟨hnodup, fun lib input entries hentries => ?_⟩⟩
  apply namesAccepted_of_nodup
  rw [← hentries, map_map] at hnodup
  exact hnodup

/-- two proxies called `n`, and how they are stored -/
def twins : List ImportedNode := [named "n" "11111111", named "n" "22222222"]
def storedTwins : List ImportedNode :=
  [named "n" "11111111", ⟨"n", "n", "n [22222222]", "22222222", "ss"⟩]

theorem twins_stored_distinct :
    finalizeNodes twins = .ok storedTwins ∧ (storedTwins.map (·.normalizedName)).Nodup ∧
      ∀ lib input entries, entries.map (·.node) = storedTwins → NamesAccepted lib input entries := by
  have h : finalizeNodes twins = .ok storedTwins := by decide +kernel
  exact ⟨h, (stored_names_distinct_iff h).2 ⟨by decide +kernel, by decide +kernel⟩⟩

/-- a third proxy is called as the second one is stored -/
theorem stored_names_collide :
    ((twins ++ [named "n [22222222]" "33333333"]).map (·.fingerprint)).Nodup ∧
      ∃ stored, finalizeNodes (twins ++ [named "n [22222222]" "33333333"]) = .ok stored ∧
        ¬ (stored.map (·.normalizedName)).Nodup :=
  ⟨by decide +kernel, storedTwins ++ [named "n [22222222]" "33333333"], by decide +kernel,
    by decide +kernel⟩

/-! ## the classification of what was stored -/

/-- the node as `loadVersionNodesTx` reads it back -/
def ImportedNode.reread (n : ImportedNode) : ImportedNode := { n with matchName := n.normalizedName }

section
variable {lib : Library} {now : Time} {input : StageInput} {db db' : Store}
variable {nodes : List ImportedNode} {entries : List Classification}

theorem writeClassified_total {versionID : String} {overrides : Overrides}
    {cs : List Classification} {t : Table StoredNode.id}
    (h : ∀ c ∈ cs, ∃ n, t.find (stableNodeID lib versionID c.node.fingerprint) = some n ∧
      n.versionID = versionID) : ∃ t', writeClassified lib versionID overrides cs t = .ok t' := by
  induction cs generalizing t with
  | nil => exact ⟨t, rfl⟩
  | cons c cs ih =>
    obtain ⟨n, hfind, hversion⟩ := h c (by simp)
    rw [writeClassified]
    simp only [hfind, hversion, if_true]
    refine ih fun d hd => ?_
    obtain ⟨m, hm, hmversion⟩ := h d (by simp [hd])
    rw [Table.find_update, hm]
    refine ⟨_, rfl, ?_⟩
    dsimp only
    split <;> exact hmversion

/-- a classification of stored nodes does not fail, once the matchers are accepted -/
theorem reclassify_total (versionID : String) {matchers compiled : List Matcher}
    (hfiled : Filed lib db) (hcompiled : compileMatchers lib matchers = .ok compiled) :
    ∃ db', reclassifyVersionNodes lib versionID matchers none db = .ok db' := by
  obtain ⟨nodes, overrides, hload⟩ : ∃ nodes overrides,
      loadVersionNodes versionID none db = .ok (nodes, overrides) := ⟨_, _, rfl⟩
  obtain ⟨hperm, -, -⟩ := loadVersionNodes_ok hfiled hload
  obtain ⟨t, ht⟩ : ∃ t, writeClassified lib versionID overrides
      (nodes.map (verdict lib compiled overrides
        (hasAutomaticMatch lib compiled overrides nodes))) db.nodes = .ok t := by
    refine writeClassified_total fun c hc => ?_
    obtain ⟨node, hnode, rfl⟩ := mem_map.1 hc
    obtain ⟨n, hn, rfl⟩ := mem_map.1 (hperm.mem_iff.1 hnode)
    obtain ⟨hmem, hversion⟩ := mem_versionNodes.1 hn
    refine ⟨n, ?_, hversion⟩
    rw [verdict_node, show n.imported.fingerprint = n.fingerprint from rfl, ← hversion,
      ← hfiled.ids n hmem]
    exact Table.mem_iff_find.1 hmem
  rw [reclassifyVersionNodes, hload]
  dsimp only
  rw [classify_compiled hcompiled]
  dsimp only
  rw [ht]
  exact ⟨_, rfl⟩

/-- two entries that are stored alike -/
def SameEntry (c c' : Classification) : Prop :=
  c'.candidate = c.candidate ∧ c'.candidateSource = c.candidateSource ∧
    nullIfEmpty c'.matchedMatcher = nullIfEmpty c.matchedMatcher

/-- the entries of all nodes are alike exactly when the nodes that are matched by their names are
decided alike -/
theorem outcomes_same_iff {automatic automatic' : Bool} {choice : ImportedNode → SelectionOverride}
    {hit hit' : ImportedNode → Option String}
    (hauto : automatic = true ↔ ∃ n ∈ nodes, choice n = .auto ∧ hit n ≠ none)
    (hauto' : automatic' = true ↔ ∃ n ∈ nodes, choice n = .auto ∧ hit' n ≠ none)
    (hid : ∀ n id, hit n = some id → id ≠ "") (hid' : ∀ n id, hit' n = some id → id ≠ "") :
    (∀ n ∈ nodes, SameEntry (outcome automatic n (choice n) (hit n))
      (outcome automatic' n.reread (choice n) (hit' n))) ↔
      ∀ n ∈ nodes, choice n = .auto → hit' n = hit n := by
  constructor
  · intro hsame n hn hchoice
    obtain ⟨-, hsource, hmatched⟩ := hsame n hn
    rw [hchoice] at hsource hmatched
    cases h : hit n with
    | some id =>
      have htrue : automatic = true := hauto.2 ⟨n, hn, hchoice, by simp [h]⟩
      cases h' : hit' n with
      | none => cases automatic' <;> simp [h, h', outcome, htrue] at hsource
      | some id' => simpa [h, h', outcome, nullIfEmpty, hid n id h, hid' n id' h'] using hmatched
    | none =>
      cases h' : hit' n with
      | none => rfl
      | some id' =>
        have htrue : automatic' = true := hauto'.2 ⟨n, hn, hchoice, by simp [h']⟩
        cases automatic <;> simp [h, h', outcome, htrue] at hsource
  · intro hhit n hn
    have hflags : automatic' = automatic := by
      rw [Bool.eq_iff_iff, hauto, hauto']
      refine exists_congr fun n => and_congr_right fun hn => and_congr_right fun hchoice => ?_
      rw [hhit n hn hchoice]
    rw [hflags]
    cases hchoice : choice n with
    | exclude => exact ⟨rfl, rfl, rfl⟩
    | «include» => exact ⟨rfl, rfl, rfl⟩
    | auto =>
      rw [hhit n hn hchoice]
      cases hit n <;> exact ⟨rfl, rfl, rfl⟩

/-- **A version that was just staged is left alone by a classification of its stored nodes** exactly
when the matchers decide the stored names as they decide the names of the document. -/
theorem reclassify_same_iff (hfiled : Filed lib db) (hstage : stage lib now input db = .ok db')
    (himport : importNodes lib input.payload = .ok nodes) :
    (∃ db'', reclassifyVersionNodes lib input.versionID (input.matchers.getD defaultMatchers) none db'
        = .ok db'' ∧ db''.nodes.rows = db'.nodes.rows) ↔
      ∀ n ∈ nodes, input.overrides.of n = .auto →
        firstHitID lib (input.matchers.getD defaultMatchers) n.reread =
          firstHitID lib (input.matchers.getD defaultMatchers) n := by
  generalize hmatchers : input.matchers.getD defaultMatchers = matchers
  obtain ⟨nodes', entries, hstaged⟩ := stage_ok hstage
  obtain rfl : nodes = nodes' := Except.ok.inj (himport.symm.trans hstaged.imported)
  have hclassified := hstaged.classified
  rw [hmatchers] at hclassified
  obtain ⟨compiled, hcompiled, rfl⟩ := classify_ok hclassified
  have hfiled' := hstaged.filed hfiled
  obtain ⟨db'', hdb''⟩ := reclassify_total input.versionID hfiled' hcompiled
  obtain ⟨compiled', overrides, hre⟩ := reclassify_ok hfiled' hdb''
  obtain rfl : compiled = compiled' := Except.ok.inj (hcompiled.symm.trans hre.compiles)
  -- the rows of the version, and the choices that are read back from them
  generalize hflag : hasAutomaticMatch lib compiled input.overrides nodes = automatic at *
  let row := fun n => input.row lib (verdict lib compiled input.overrides automatic n)
  have hrows : db'.versionNodes input.versionID = nodes.map row := by
    rw [hstaged.own hfiled, map_map]
    rfl
  have himported : ∀ n, (row n).imported = n.reread := fun n => by
    simp [row, StageInput.row, StoredNode.imported, ImportedNode.reread]
  have hchoice : ∀ n ∈ nodes, overrides.of n.reread = input.overrides.of n := fun n hn => by
    have hread := hre.choices (row n) (hrows ▸ mem_map_of_mem hn)
    rw [Overrides.of, ← himported]
    show (overrides (row n).fingerprint).getD _ = _
    rw [hread]
    simp [row, StageInput.row, chosen, Overrides.of]
  have hnonempty : ∀ n id, firstHitID lib matchers n = some id → id ≠ "" := by
    intro n id hid
    obtain ⟨m, hm, rfl⟩ := Option.map_eq_some_iff.1 hid
    have hvalid := (compileMatchers_iff.1 hcompiled).1 m (least_of_firstHit hm).mem
    simp only [Matcher.valid, Bool.and_eq_true, decide_eq_true_eq] at hvalid
    exact hvalid.1.1.1
  generalize hflag' : hasAutomaticMatch lib compiled overrides (nodes.map ImportedNode.reread) =
    automatic'
  have hjudged : ∀ n ∈ nodes, judgement lib compiled overrides (db'.versionNodes input.versionID)
      (row n) = outcome automatic' n.reread (input.overrides.of n) (firstHitID lib matchers n.reread) := by
    intro n hn
    have hnodes : (nodes.map row).map StoredNode.imported = nodes.map ImportedNode.reread := by
      rw [map_map]
      exact map_congr_left fun n _ => himported n
    rw [judgement, hrows, hnodes, hflag', himported, verdict_eq hcompiled, hchoice n hn]
  have hauto : automatic = true ↔ ∃ n ∈ nodes, input.overrides.of n = .auto ∧
      firstHitID lib matchers n ≠ none := hflag ▸ hasAutomaticMatch_iff hcompiled
  have hauto' : automatic' = true ↔ ∃ n ∈ nodes, input.overrides.of n = .auto ∧
      firstHitID lib matchers n.reread ≠ none := by
    rw [← hflag', hasAutomaticMatch_iff hcompiled]
    simp only [mem_map, exists_exists_and_eq_and]
    refine exists_congr fun n => and_congr_right fun hn => ?_
    rw [hchoice n hn]
  rw [← outcomes_same_iff hauto hauto' hnonempty fun n => hnonempty n.reread]
  -- a row is left alone exactly when its two entries are stored alike
  let same := fun n =>
    SameEntry (outcome automatic n (input.overrides.of n) (firstHitID lib matchers n))
      (outcome automatic' n.reread (input.overrides.of n) (firstHitID lib matchers n.reread))
  have hrow : ∀ n ∈ nodes, (row n).classified overrides (judgement lib compiled overrides
      (db'.versionNodes input.versionID) (row n)) = row n ↔ same n := by
    intro n hn
    have hkept : (overrides n.reread.fingerprint).getD .auto =
      (input.overrides n.fingerprint).getD .auto := hchoice n hn
    have hnode := (outcome_fields automatic' n.reread (input.overrides.of n)
      (firstHitID lib matchers n.reread)).1
    dsimp only [same]
    rw [hjudged n hn, ← verdict_eq hcompiled]
    simp only [row, StageInput.row, StoredNode.classified, StoredNode.mk.injEq, verdict_node, hnode,
      hkept, SameEntry, true_and]
  have hsame : db''.nodes.rows = db'.nodes.rows ↔ ∀ n ∈ nodes, same n := by
    rw [hre.rows]
    constructor
    · intro heq n hn
      have hmem : row n ∈ db'.versionNodes input.versionID := hrows ▸ mem_map_of_mem hn
      have hfix := map_inj_left.1 (heq.trans (map_id _).symm) _ (mem_versionNodes.1 hmem).1
      rw [if_pos (mem_versionNodes.1 hmem).2] at hfix
      exact (hrow n hn).1 hfix
    · intro hsame
      refine (map_congr_left fun r hr => ?_).trans (map_id _)
      split
      · next hversion =>
        have hmem : r ∈ nodes.map row := hrows ▸ mem_versionNodes.2 ⟨hr, hversion⟩
        obtain ⟨n, hn, rfl⟩ := mem_map.1 hmem
        exact (hrow n hn).2 (hsame n hn)
      · rfl
  refine Iff.trans ?_ hsame
  constructor
  · rintro ⟨d, hd, hkept⟩
    obtain rfl : db'' = d := Except.ok.inj (hdb''.symm.trans hd)
    exact hkept
  · exact fun hkept => ⟨db'', hdb'', hkept⟩

end

/-- a matcher `lte$`, in a library whose expressions are matched at the end of a name -/
def endMatcher : Matcher := { id := "m1", pattern := "lte", matchType := .regex, priority := 10 }

def emptyStore : Store := { subscriptions := ⟨[{ id := "s1" }], nodup_s1⟩ }

def lteInput (proxies : List Proxy) : StageInput where
  versionID := "v1"
  subscriptionID := "s1"
  payload := { contentSHA256 := "", proxies }
  matchers := some [endMatcher]
  overrides _ := none

theorem reclassify_same_single : ∃ db' db'',
    stage suffixLibrary 0 (lteInput [⟨"n lte", "11111111", "ss"⟩]) emptyStore = .ok db' ∧
      reclassifyVersionNodes suffixLibrary "v1" [endMatcher] none db' = .ok db'' ∧
      db''.nodes.rows = db'.nodes.rows := by
  obtain ⟨db', hstage⟩ : ∃ db', stage suffixLibrary 0
      (lteInput [⟨"n lte", "11111111", "ss"⟩]) emptyStore = .ok db' := ⟨_, rfl⟩
  have himport : importNodes suffixLibrary (lteInput [⟨"n lte", "11111111", "ss"⟩]).payload =
      .ok [named "n lte" "11111111"] := by decide +kernel
  have hfiled : Filed suffixLibrary emptyStore :=
    ⟨fun n hn => absurd hn not_mem_nil, fun n hn => absurd hn not_mem_nil⟩
  obtain ⟨db'', hre, hrows⟩ := (reclassify_same_iff hfiled hstage himport).2 (by decide +kernel)
  exact ⟨db', db'', hstage, hre, hrows⟩

/-- two proxies called `n lte` are both candidates when they are imported; the second is stored as
`n lte [22222222]`, which the matcher does not match any more -/
theorem reclassify_disables_twin :
    ((stage suffixLibrary 0 (lteInput [⟨"n lte", "11111111", "ss"⟩, ⟨"n lte", "22222222", "ss"⟩])
      emptyStore).toOption.bind fun db' =>
        (reclassifyVersionNodes suffixLibrary "v1" [endMatcher] none db').toOption.map fun db'' =>
          (db'.nodes.rows.map (·.enabled), db''.nodes.rows.map (·.enabled))) =
      some ([true, true], [true, false]) := by
  decide +kernel

end GatewayVpn.Subscriptions
