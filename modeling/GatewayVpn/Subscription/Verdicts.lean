import GatewayVpn.Subscription.Classify

/-!
# Subscription: which nodes are candidates

`CompileMatchers` sorts the matchers and prepares each of them, `Classify` asks them one after the
other and remembers whether any node was matched.  Neither loop leaves a trace in the result: what
becomes of a node depends on the set of the matchers and on the set of the nodes.
-/

namespace GatewayVpn.Subscriptions

open List

open Access (SelectionOverride)

/-! ## compiled matchers -/

namespace Matcher

variable (lib : Library) (m : Matcher)

/-- the matcher with its pattern as `Classify` uses it -/
def prepared : Matcher :=
  match m.matchType with
  | .substring => { m with pattern := lib.normalizeNodeName m.pattern }
  | _ => m

/-- what `CompileMatchers` asks of one matcher -/
def valid : Bool :=
  m.id ≠ "" && m.pattern ≠ "" && byteLength m.pattern ≤ 256 && match m.matchType with
    | .substring => true
    | .regex => lib.compiles m.pattern
    | .other _ => false

def enabledRegex : Bool := m.enabled && m.matchType = .regex

/-- the matcher is enabled and matches the name -/
def hits (name : String) : Bool := (m.prepared lib).accepts lib name

@[simp] theorem prepared_id : (m.prepared lib).id = m.id := by
  unfold prepared
  split <;> rfl

theorem enabled_of_hits {name : String} (h : m.hits lib name = true) : m.enabled = true := by
  have henabled : (m.prepared lib).enabled = m.enabled := by
    unfold prepared
    split <;> rfl
  rw [hits, accepts, Bool.and_eq_true, henabled] at h
  exact h.1

end Matcher

section
variable {lib : Library} {matchers compiled : List Matcher}

/-- one turn of the loop of `CompileMatchers` that was not refused -/
theorem cons_ok {r s : Except Access.Fault (List Matcher)} {m : Matcher} {P Q : Prop}
    {ms : List Matcher} (hs : s = r.map (m :: ·)) (hr : ∀ rest, r = .ok rest ↔ P ∧ Q ∧ rest = ms) :
    s = .ok compiled ↔ P ∧ Q ∧ compiled = m :: ms := by
  subst hs
  cases r with
  | error err =>
    constructor
    · intro h
      cases h
    · intro h
      cases (hr ms).2 ⟨h.1, h.2.1, rfl⟩
  | ok rest =>
    obtain ⟨hP, hQ, rfl⟩ := (hr rest).1 rfl
    simp [Except.map, hP, hQ, eq_comm]

theorem compileFrom_iff {ms : List Matcher} {index regexCount : Nat} (hcount : regexCount ≤ 32) :
    compileFrom lib index regexCount ms = .ok compiled ↔
      (∀ m ∈ ms, m.valid lib = true) ∧ regexCount + ms.countP Matcher.enabledRegex ≤ 32 ∧
        compiled = ms.map (Matcher.prepared lib) := by
  induction ms generalizing index regexCount compiled with
  | nil =>
    rw [compileFrom, Except.ok.injEq, eq_comm]
    simpa using fun _ => hcount
  | cons m ms ih =>
    rw [compileFrom, forall_mem_cons, countP_cons, map_cons]
    split
    · next hbad =>
      have hinvalid : m.valid lib = false := by
        simp only [Bool.or_eq_true, decide_eq_true_eq] at hbad
        rcases hbad with (hbad | hbad) | hbad <;> simp [Matcher.valid, hbad]
      simp [hinvalid]
    next hgood =>
    simp only [Bool.or_eq_true, decide_eq_true_eq, not_or, not_lt] at hgood
    cases htype : m.matchType with
    | substring =>
      have hvalid : m.valid lib = true := by simp [Matcher.valid, htype, hgood]
      have hplain : m.enabledRegex = false := by simp [Matcher.enabledRegex, htype]
      have hprepared : m.prepared lib = { m with pattern := lib.normalizeNodeName m.pattern } := by
        rw [Matcher.prepared, htype]
      simp only [hvalid, hplain, true_and, Bool.false_eq_true, if_false, add_zero]
      rw [← htype, ← hprepared]
      refine cons_ok (r := compileFrom lib (index + 1) regexCount ms) ?_ fun rest => ih hcount
      cases compileFrom lib (index + 1) regexCount ms <;> rfl
    | regex =>
      have hprepared : m.prepared lib = m := by simp [Matcher.prepared, htype]
      have hregex : m.enabledRegex = m.enabled := by simp [Matcher.enabledRegex, htype]
      rw [hprepared, hregex]
      dsimp only
      split
      · next hmany =>
        simp only [Bool.and_eq_true, decide_eq_true_eq] at hmany
        simp only [hmany.1, if_true, reduceCtorEq, false_iff]
        omega
      next hfew =>
      split
      · next hbad => simp_all [Matcher.valid]
      next hcompiles =>
      have hvalid : m.valid lib = true := by simp_all [Matcher.valid]
      simp only [hvalid, true_and]
      generalize hnext : (if m.enabled then regexCount + 1 else regexCount) = next
      refine cons_ok (r := compileFrom lib (index + 1) next ms) ?_ fun rest => ?_
      · cases compileFrom lib (index + 1) next ms <;> rfl
      have hnext' : next ≤ 32 := by
        split at hnext <;> grind
      rw [ih hnext', ← hnext]
      cases m.enabled <;> simp [add_comm, add_left_comm]
    | other text =>
      have hinvalid : m.valid lib = false := by simp [Matcher.valid, htype]
      simp [hinvalid]

/-- **What `CompileMatchers` accepts, and what it returns.** -/
theorem compileMatchers_iff : compileMatchers lib matchers = .ok compiled ↔
      (∀ m ∈ matchers, m.valid lib = true) ∧ matchers.countP Matcher.enabledRegex ≤ 32 ∧
        compiled = (matchers.insertionSort fun a b => a.priority ≤ b.priority).map
          (Matcher.prepared lib) := by
  have hperm := matchers.perm_insertionSort fun a b => a.priority ≤ b.priority
  rw [compileMatchers, compileFrom_iff (Nat.zero_le _), zero_add, hperm.countP_eq]
  simp only [mem_insertionSort]

end

/-! ## the first hit of a sorted list -/

structure Least (p : Matcher → Bool) (l : List Matcher) (m : Matcher) : Prop where
  mem : m ∈ l
  hit : p m = true
  least : ∀ m' ∈ l, p m' = true → m.priority ≤ m'.priority

section
variable {p : Matcher → Bool} {l : List Matcher} {m : Matcher}

section
variable (hsorted : l.Pairwise fun a b => a.priority ≤ b.priority)
include hsorted

theorem least_of_find? (h : l.find? p = some m) : Least p l m := by
  obtain ⟨hit, before, after, rfl, hbefore⟩ := find?_eq_some_iff_append.1 h
  refine ⟨by simp, hit, fun m' hm' hit' => ?_⟩
  rcases mem_append.1 hm' with hm' | hm'
  · exact absurd hit' (by simpa using hbefore m' hm')
  rcases mem_cons.1 hm' with rfl | hm'
  · exact le_rfl
  · have htail := (pairwise_append.1 hsorted).2.1
    exact (pairwise_cons.1 htail).1 m' hm'

theorem find?_sorted (h : Least p l m)
    (hinj : ∀ m' ∈ l, p m' = true → m'.priority = m.priority → m' = m) : l.find? p = some m := by
  cases hfind : l.find? p with
  | none => exact absurd h.hit (find?_eq_none.1 hfind m h.mem)
  | some m' =>
    have h' := least_of_find? hsorted hfind
    have hle := h'.least m h.mem h.hit
    have hge := h.least m' h'.mem h'.hit
    rw [hinj m' h'.mem h'.hit (le_antisymm hle hge)]

end

theorem Least.perm {l' : List Matcher} (h : Least p l m) (hperm : l'.Perm l) : Least p l' m :=
  ⟨hperm.mem_iff.2 h.mem, h.hit, fun m' hm' => h.least m' (hperm.mem_iff.1 hm')⟩

end

def DistinctPriorities (matchers : List Matcher) : Prop :=
  ((matchers.filter Matcher.enabled).map Matcher.priority).Nodup

def firstHit (lib : Library) (matchers : List Matcher) (name : String) : Option Matcher :=
  (matchers.insertionSort fun a b => a.priority ≤ b.priority).find? (·.hits lib name)

section
variable {lib : Library} {matchers matchers' compiled : List Matcher} {name : String}

theorem sorted_matchers (matchers : List Matcher) :
    (matchers.insertionSort fun a b => a.priority ≤ b.priority).Pairwise
      fun a b => a.priority ≤ b.priority := by
  have : Std.Total fun a b : Matcher => a.priority ≤ b.priority := ⟨fun a b => le_total _ _⟩
  have : IsTrans Matcher fun a b => a.priority ≤ b.priority := ⟨fun _ _ _ => le_trans⟩
  exact pairwise_insertionSort _ _

theorem least_of_firstHit {m : Matcher} (h : firstHit lib matchers name = some m) :
    Least (·.hits lib name) matchers m :=
  (least_of_find? (sorted_matchers matchers) h).perm (perm_insertionSort _ _).symm

theorem firstHit_of_least (hdistinct : DistinctPriorities matchers) {m : Matcher}
    (h : Least (·.hits lib name) matchers m) : firstHit lib matchers name = some m := by
  refine find?_sorted (sorted_matchers matchers) (h.perm (perm_insertionSort _ _)) ?_
  intro m' hm' hit hpriority
  have henabled := mem_filter.2 ⟨mem_insertionSort _ |>.1 hm', m'.enabled_of_hits lib hit⟩
  have henabled' := mem_filter.2 ⟨h.mem, m.enabled_of_hits lib h.hit⟩
  exact inj_on_of_nodup_map hdistinct henabled henabled' hpriority

theorem firstHit_eq_none : firstHit lib matchers name = none ↔
    ∀ m ∈ matchers, m.hits lib name = false := by
  simp [firstHit, find?_eq_none]

theorem firstHit_perm (hdistinct : DistinctPriorities matchers) (hperm : matchers'.Perm matchers)
    (name : String) : firstHit lib matchers' name = firstHit lib matchers name := by
  have hdistinct' : DistinctPriorities matchers' :=
    ((hperm.filter _).map _).nodup_iff.2 hdistinct
  cases h : firstHit lib matchers name with
  | none =>
    rw [firstHit_eq_none] at h ⊢
    exact fun m hm => h m (hperm.mem_iff.1 hm)
  | some m => exact firstHit_of_least hdistinct' ((least_of_firstHit h).perm hperm)

theorem find?_compiled (h : compileMatchers lib matchers = .ok compiled) (name : String) :
    (compiled.find? fun m => m.accepts lib name) =
      (firstHit lib matchers name).map (Matcher.prepared lib) := by
  obtain ⟨-, -, rfl⟩ := compileMatchers_iff.1 h
  rw [find?_map]
  rfl

end

/-! ## the classification of one node -/

def Overrides.of (overrides : Overrides) (n : ImportedNode) : SelectionOverride :=
  (overrides n.fingerprint).getD .auto

/-- the entry of a node, from the choice of the user, the matcher that decides its name, and whether
any node was matched by its name -/
def outcome (automatic : Bool) (n : ImportedNode) : SelectionOverride → Option String → Classification
  | .exclude, _ => { node := n, candidateSource := .manualExclude }
  | .include, _ => { node := n, candidate := true, candidateSource := .manualInclude }
  | .auto, some id =>
    { node := n, candidate := true, matchedMatcher := id,
      candidateSource := if automatic then .nameMatch else .noNameMatchFallbackAll }
  | .auto, none =>
    { node := n, candidate := !automatic,
      candidateSource := if automatic then .nameFiltered else .noNameMatchFallbackAll }

def firstHitID (lib : Library) (matchers : List Matcher) (n : ImportedNode) : Option String :=
  (firstHit lib matchers n.matchName).map Matcher.id

section
variable {lib : Library} {matchers compiled : List Matcher} {overrides : Overrides}
variable {nodes : List ImportedNode} {n : ImportedNode} {automatic : Bool}

section
variable (h : compileMatchers lib matchers = .ok compiled)
include h

theorem verdict_eq : verdict lib compiled overrides automatic n =
      outcome automatic n (overrides.of n) (firstHitID lib matchers n) := by
  rw [verdict, classifyNode, find?_compiled h, firstHitID, Overrides.of]
  cases (overrides n.fingerprint).getD .auto with
  | exclude => cases automatic <;> rfl
  | «include» => cases automatic <;> rfl
  | auto =>
    cases firstHit lib matchers n.matchName with
    | none => cases automatic <;> rfl
    | some m =>
      simp only [Option.map_some, Matcher.prepared_id]
      cases automatic <;> rfl

theorem hasAutomaticMatch_iff : hasAutomaticMatch lib compiled overrides nodes = true ↔
      ∃ n ∈ nodes, overrides.of n = .auto ∧ firstHitID lib matchers n ≠ none := by
  rw [hasAutomaticMatch, any_eq_true]
  refine exists_congr fun n => and_congr_right fun _ => ?_
  rw [classifyNode, find?_compiled h, firstHitID, Overrides.of]
  cases (overrides n.fingerprint).getD .auto with
  | exclude => simp
  | «include» => simp
  | auto => cases firstHit lib matchers n.matchName <;> simp

end

theorem outcome_fields (automatic : Bool) (n : ImportedNode) (choice : SelectionOverride)
    (hit : Option String) : (outcome automatic n choice hit).node = n ∧
      ((outcome automatic n choice hit).candidate = true ↔ choice = .include ∨
        (choice ≠ .exclude ∧ hit ≠ none) ∨ choice ≠ .exclude ∧ automatic = false) ∧
      (outcome automatic n choice hit).matchedMatcher = if choice = .auto then hit.getD "" else "" := by
  cases choice with
  | exclude => simp [outcome]
  | «include» => simp [outcome]
  | auto => cases hit <;> simp [outcome]

theorem firstHitID_eq_none : firstHitID lib matchers n = none ↔
    ∀ m ∈ matchers, m.hits lib n.matchName = false := by
  rw [firstHitID, Option.map_eq_none_iff, firstHit_eq_none]

/-- **The classification**, whatever the order of the nodes and of the matchers: which nodes are
candidates, and which matcher is recorded. -/
theorem classify_characterised (haccepted : compileMatchers lib matchers = .ok compiled)
    (hdistinct : DistinctPriorities matchers) (nodes : List ImportedNode) (overrides : Overrides) :
    ∃ entry : ImportedNode → Classification,
      (∀ nodes' matchers', nodes'.Perm nodes → matchers'.Perm matchers →
        classify lib nodes' matchers' overrides = .ok (nodes'.map entry)) ∧
      ∀ n, (entry n).node = n ∧
        ((entry n).candidate = true ↔
          overrides.of n = .include ∨
          (overrides.of n ≠ .exclude ∧ ∃ m ∈ matchers, m.hits lib n.matchName = true) ∨
          (overrides.of n ≠ .exclude ∧ ∀ n' ∈ nodes, overrides.of n' = .auto →
            ∀ m ∈ matchers, m.hits lib n'.matchName = false)) ∧
        (∀ m, Least (·.hits lib n.matchName) matchers m → overrides.of n = .auto →
          (entry n).matchedMatcher = m.id) ∧
        ((entry n).matchedMatcher ≠ "" → overrides.of n = .auto ∧
          ∃ m, Least (·.hits lib n.matchName) matchers m ∧ (entry n).matchedMatcher = m.id) := by
  refine ⟨fun n => outcome (hasAutomaticMatch lib compiled overrides nodes) n (overrides.of n)
    (firstHitID lib matchers n), fun nodes' matchers' hnodes hmatchers => ?_, fun n => ?_⟩
  · -- the permuted matchers are accepted too, and decide every name in the same way
    obtain ⟨hvalid, hcount, -⟩ := compileMatchers_iff.1 haccepted
    obtain ⟨compiled', haccepted'⟩ : ∃ compiled', compileMatchers lib matchers' = .ok compiled' :=
      ⟨_, compileMatchers_iff.2 ⟨fun m hm => hvalid m (hmatchers.mem_iff.1 hm),
        hmatchers.countP_eq _ ▸ hcount, rfl⟩⟩
    have hhit : ∀ n, firstHitID lib matchers' n = firstHitID lib matchers n := fun n => by
      rw [firstHitID, firstHitID, firstHit_perm hdistinct hmatchers]
    have hauto : hasAutomaticMatch lib compiled' overrides nodes' =
        hasAutomaticMatch lib compiled overrides nodes := by
      rw [hasAutomaticMatch_perm hnodes, Bool.eq_iff_iff, hasAutomaticMatch_iff haccepted',
        hasAutomaticMatch_iff haccepted]
      simp only [hhit]
    rw [classify_compiled haccepted']
    refine congrArg Except.ok (map_congr_left fun n _ => ?_)
    rw [verdict_eq haccepted', hhit, hauto]
  obtain ⟨hnode, hcandidate, hmatched⟩ := outcome_fields
    (hasAutomaticMatch lib compiled overrides nodes) n (overrides.of n) (firstHitID lib matchers n)
  refine ⟨hnode, ?_, fun m hm hchoice => ?_, fun hrecorded => ?_⟩
  · rw [hcandidate, ← Bool.not_eq_true, hasAutomaticMatch_iff haccepted, ne_eq (firstHitID _ _ _),
      firstHitID_eq_none]
    have hquiet : (¬ ∃ n ∈ nodes, overrides.of n = .auto ∧ firstHitID lib matchers n ≠ none) ↔
        ∀ n' ∈ nodes, overrides.of n' = .auto → ∀ m ∈ matchers, m.hits lib n'.matchName = false := by
      simp [firstHitID_eq_none]
    rw [hquiet]
    simp
  · rw [hmatched, if_pos hchoice, firstHitID, firstHit_of_least hdistinct hm]
    rfl
  · rw [hmatched] at hrecorded ⊢
    split at hrecorded
    · next hchoice =>
      cases hhit : firstHit lib matchers n.matchName with
      | none => simp [firstHitID, hhit] at hrecorded
      | some m => exact ⟨hchoice, m, least_of_firstHit hhit, by simp [hchoice, firstHitID, hhit]⟩
    · exact absurd rfl hrecorded

end

def suffixLibrary : Library where
  normalizeNodeName name := name
  compiles _ := true
  compileError _ := ""
  matchString pattern name := pattern.toList <:+ name.toList
  nodeDigest versionID fingerprint := versionID ++ "/" ++ fingerprint

def named (name fingerprint : String) : ImportedNode := ⟨name, name, name, fingerprint, "ss"⟩

def lteMatcher : Matcher := { id := "m1", pattern := "lte", priority := 10 }

theorem classify_characterised_lte :
    ∃ entry : ImportedNode → Classification, classify suffixLibrary
        [named "n" "f1", named "lte" "f2"] [lteMatcher] (fun _ => none) =
          .ok [entry (named "n" "f1"), entry (named "lte" "f2")] ∧
      (entry (named "lte" "f2")).matchedMatcher = "m1" := by
  have haccepted : compileMatchers suffixLibrary [lteMatcher] = .ok [lteMatcher] :=
    compileMatchers_iff.2 ⟨by decide, by decide, rfl⟩
  obtain ⟨entry, hall, heach⟩ := classify_characterised haccepted (nodup_singleton 10)
    [named "n" "f1", named "lte" "f2"] (fun _ => none)
  refine ⟨entry, hall _ _ (List.Perm.refl _) (List.Perm.refl _), ?_⟩
  refine (heach _).2.2.1 lteMatcher ⟨by simp, by decide, ?_⟩ rfl
  simp

end GatewayVpn.Subscriptions
