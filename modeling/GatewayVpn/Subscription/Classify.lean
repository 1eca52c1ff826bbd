import GatewayVpn.Access.Evidence

/-!
# Subscription: imported nodes and their classification

A subscription document is a list of proxies.  `finalizeNodes` gives every proxy a stored name of
its own, and `Classify` decides from the names, the matchers and the choices of the user which of
them may carry traffic.

The parsers of the document formats and the configuration of a proxy are left out: a document is
the list of its sanitized proxies and the digest of its bytes.
-/

namespace GatewayVpn.Subscriptions

open List

open Access (Fault SelectionOverride)

/-! ## nodes -/

/-- the functions of other libraries: case folding after NFKC, `regexp` and SHA-256 -/
structure Library where
  normalizeNodeName : String → String
  /-- `regexp.Compile("(?i)" + pattern)` accepts the pattern -/
  compiles : String → Bool
  compileError : String → String
  matchString : String → String → Bool
  nodeDigest : String → String → String

structure ImportedNode where
  externalName : String
  matchName : String
  normalizedName : String
  fingerprint : String
  proxyType : String := "vless"
  deriving DecidableEq

/-- a proxy as `sanitizeProxy` leaves it -/
structure Proxy where
  name : String
  fingerprint : String
  proxyType : String := "vless"

def Proxy.node (lib : Library) (p : Proxy) : ImportedNode :=
  { externalName := p.name, matchName := lib.normalizeNodeName p.name,
    normalizedName := lib.normalizeNodeName p.name, fingerprint := p.fingerprint,
    proxyType := p.proxyType }

structure Payload where
  contentSHA256 : String
  proxies : List Proxy

def maxNodes : Nat := 5000

def ImportedNode.disambiguate (n : ImportedNode) : ImportedNode :=
  { n with normalizedName :=
      n.normalizedName ++ " [" ++ String.ofList (n.fingerprint.toList.take 8) ++ "]" }

/-- the loop of `finalizeNodes`: the fingerprints seen with their names, and the names seen -/
def finalizeFrom (fingerprints : List (String × String)) (names : List String) :
    List ImportedNode → Except Fault (List ImportedNode)
  | [] => .ok []
  | n :: ns =>
    match fingerprints.lookup n.fingerprint with
    | some previous => .error (.text ("duplicate node fingerprint for " ++ quote previous ++
        " and " ++ quote n.externalName))
    | none =>
      match finalizeFrom ((n.fingerprint, n.externalName) :: fingerprints)
          (n.normalizedName :: names) ns with
      | .error err => .error err
      | .ok rest => .ok ((if names.contains n.normalizedName then n.disambiguate else n) :: rest)

def finalizeNodes (nodes : List ImportedNode) : Except Fault (List ImportedNode) :=
  if nodes.isEmpty then .error (.text "subscription contains no nodes")
  else if nodes.length > maxNodes then
    .error (.text ("subscription contains " ++ toString nodes.length ++ " nodes; maximum is " ++
      toString maxNodes))
  else finalizeFrom [] [] nodes

/-- `Import`, from the sanitized proxies on -/
def importNodes (lib : Library) (payload : Payload) : Except Fault (List ImportedNode) :=
  finalizeNodes (payload.proxies.map (Proxy.node lib))

/-! ## matchers -/

inductive MatcherType where
  | substring
  | regex
  | other (text : String)
  deriving DecidableEq

structure Matcher where
  id : String
  pattern : String
  matchType : MatcherType := .substring
  priority : Int := 0
  enabled : Bool := true

/-- the loop of `CompileMatchers`, at the position `index` and after `regexCount` enabled regular
expressions -/
def compileFrom (lib : Library) : Nat → Nat → List Matcher → Except Fault (List Matcher)
  | _, _, [] => .ok []
  | index, regexCount, m :: ms =>
    if m.id = "" || m.pattern = "" || byteLength m.pattern > 256 then
      .error (.text ("matcher " ++ toString index ++ " has invalid id or pattern"))
    else match m.matchType with
    | .substring =>
      match compileFrom lib (index + 1) regexCount ms with
      | .error err => .error err
      | .ok rest => .ok ({ m with pattern := lib.normalizeNodeName m.pattern } :: rest)
    | .regex =>
      if m.enabled && regexCount + 1 > 32 then
        .error (.text "more than 32 enabled regex matchers are not allowed")
      else if !lib.compiles m.pattern then
        .error (.text ("compile matcher " ++ m.id ++ ": " ++ lib.compileError m.pattern))
      else
        match compileFrom lib (index + 1) (if m.enabled then regexCount + 1 else regexCount) ms with
        | .error err => .error err
        | .ok rest => .ok (m :: rest)
    | .other text =>
      .error (.text ("matcher " ++ m.id ++ " has unsupported type " ++ quote text))

/-- `CompileMatchers`: the matchers by priority, with their patterns prepared -/
def compileMatchers (lib : Library) (matchers : List Matcher) : Except Fault (List Matcher) :=
  compileFrom lib 0 0 (matchers.insertionSort fun a b => a.priority ≤ b.priority)

/-- `matcher` accepts the name, once it is compiled -/
def Matcher.accepts (lib : Library) (m : Matcher) (name : String) : Bool :=
  m.enabled && match m.matchType with
    | .substring => decide (m.pattern.toList <:+: name.toList)
    | .regex => lib.matchString m.pattern name
    | .other _ => false

def defaultPatterns : List String :=
  ["обход", "lte", "white list", "whitelist", "белый список", "белые списки"]

def defaultMatchers : List Matcher :=
  defaultPatterns.mapIdx fun index pattern =>
    { id := "default-" ++ toString (index + 1), pattern, priority := (index + 1) * 10 }

/-! ## classification -/

inductive CandidateSource where
  | unset
  | manualExclude
  | manualInclude
  | nameMatch
  | nameFiltered
  | noNameMatchFallbackAll
  deriving DecidableEq

structure Classification where
  node : ImportedNode
  candidate : Bool := false
  candidateSource : CandidateSource := .unset
  matchedMatcher : String := ""

abbrev Overrides := String → Option SelectionOverride

/-- the first pass of `Classify` over one node -/
def classifyNode (lib : Library) (compiled : List Matcher) (overrides : Overrides)
    (node : ImportedNode) : Classification :=
  match (overrides node.fingerprint).getD .auto with
  | .exclude => { node, candidateSource := .manualExclude }
  | .include => { node, candidate := true, candidateSource := .manualInclude }
  | .auto =>
    match compiled.find? fun m => m.accepts lib node.matchName with
    | some m => { node, candidate := true, candidateSource := .nameMatch, matchedMatcher := m.id }
    | none => { node }

/-- the second pass of `Classify` over one node -/
def settleNode (hasAutomaticMatch : Bool) (c : Classification) : Classification :=
  if hasAutomaticMatch then
    if c.candidateSource = .unset then { c with candidateSource := .nameFiltered } else c
  else if c.candidateSource = .manualExclude || c.candidateSource = .manualInclude then c
  else { c with candidate := true, candidateSource := .noNameMatchFallbackAll }

def classify (lib : Library) (nodes : List ImportedNode) (matchers : List Matcher)
    (overrides : Overrides) : Except Fault (List Classification) :=
  match compileMatchers lib matchers with
  | .error err => .error err
  | .ok compiled =>
    let entries := nodes.map (classifyNode lib compiled overrides)
    .ok (entries.map (settleNode (entries.any fun c => c.candidateSource = .nameMatch)))

/-! ## what an accepted document gives -/

section
variable {lib : Library} {nodes stored : List ImportedNode} {seen : List (String × String)}
variable {names : List String} (h : finalizeFrom seen names nodes = .ok stored)
include h

theorem finalizeFrom_distinct (hnodup : (nodes.map ImportedNode.normalizedName).Nodup)
    (hnew : ∀ n ∈ nodes, n.normalizedName ∉ names) : stored = nodes := by
  induction nodes generalizing seen names stored with
  | nil =>
    rw [finalizeFrom] at h
    cases h
    rfl
  | cons n ns ih =>
    rw [map_cons, nodup_cons] at hnodup
    rw [finalizeFrom] at h
    split at h
    · cases h
    split at h
    · cases h
    next rest hrest =>
    cases h
    have hkept : ∀ m ∈ ns, m.normalizedName ∉ n.normalizedName :: names := by
      intro m hm hmem
      rcases mem_cons.mp hmem with heq | hmem
      · exact hnodup.1 (mem_map.mpr ⟨m, hm, heq⟩)
      · exact hnew m (by simp [hm]) hmem
    rw [if_neg (by simpa using hnew n (by simp)), ih hrest hnodup.2 hkept]

end

section
variable {lib : Library} {payload : Payload} {stored : List ImportedNode}
variable (h : importNodes lib payload = .ok stored)
include h

theorem importNodes_finalize : payload.proxies ≠ [] ∧
      finalizeFrom [] [] (payload.proxies.map (Proxy.node lib)) = .ok stored := by
  rw [importNodes, finalizeNodes] at h
  split at h
  · cases h
  next hne =>
  split at h
  · cases h
  · exact ⟨by simpa using hne, h⟩

def Payload.Distinct (lib : Library) (payload : Payload) : Prop :=
  (payload.proxies.map fun p => lib.normalizeNodeName p.name).Nodup

theorem importNodes_stored
    (hdistinct : payload.Distinct lib) : ∀ n ∈ stored, n.normalizedName = n.matchName := by
  obtain ⟨_, hfinal⟩ := importNodes_finalize h
  have hnames : ((payload.proxies.map (Proxy.node lib)).map ImportedNode.normalizedName).Nodup := by
    rw [map_map]
    exact hdistinct
  rw [finalizeFrom_distinct hfinal hnames (by simp)]
  intro n hn
  obtain ⟨p, _, rfl⟩ := mem_map.mp hn
  rfl

end

/-! ## what a classification says -/

def hasAutomaticMatch (lib : Library) (compiled : List Matcher) (overrides : Overrides)
    (nodes : List ImportedNode) : Bool :=
  nodes.any fun n => (classifyNode lib compiled overrides n).candidateSource = .nameMatch

/-- the entry of one node, once it is known whether any node is matched by its name -/
def verdict (lib : Library) (compiled : List Matcher) (overrides : Overrides) (automatic : Bool)
    (node : ImportedNode) : Classification :=
  settleNode automatic (classifyNode lib compiled overrides node)

section
variable {lib : Library} {compiled matchers : List Matcher} {overrides overrides' : Overrides}
variable {nodes : List ImportedNode} {n : ImportedNode} {automatic : Bool}

theorem classify_ok {entries : List Classification}
    (h : classify lib nodes matchers overrides = .ok entries) :
    ∃ compiled, compileMatchers lib matchers = .ok compiled ∧
      entries = nodes.map (verdict lib compiled overrides
        (hasAutomaticMatch lib compiled overrides nodes)) := by
  rw [classify] at h
  split at h
  · cases h
  next compiled hcompiled =>
  refine ⟨compiled, hcompiled, ?_⟩
  cases h
  rw [map_map, any_map]
  rfl

theorem classify_compiled (h : compileMatchers lib matchers = .ok compiled) :
    classify lib nodes matchers overrides = .ok (nodes.map (verdict lib compiled overrides
      (hasAutomaticMatch lib compiled overrides nodes))) := by
  rw [classify, h]
  dsimp only
  rw [map_map, any_map]
  rfl

@[simp] theorem classifyNode_node : (classifyNode lib compiled overrides n).node = n := by
  unfold classifyNode
  split
  · rfl
  · rfl
  · split <;> rfl

@[simp] theorem settleNode_node (c : Classification) : (settleNode automatic c).node = c.node := by
  unfold settleNode
  split <;> split <;> rfl

@[simp] theorem verdict_node : (verdict lib compiled overrides automatic n).node = n := by
  rw [verdict, settleNode_node, classifyNode_node]

theorem classifyNode_congr
    (h : (overrides n.fingerprint).getD .auto = (overrides' n.fingerprint).getD .auto) :
    classifyNode lib compiled overrides n = classifyNode lib compiled overrides' n := by
  rw [classifyNode, classifyNode, h]

theorem hasAutomaticMatch_congr
    (h : ∀ n ∈ nodes, (overrides n.fingerprint).getD .auto = (overrides' n.fingerprint).getD .auto) :
    hasAutomaticMatch lib compiled overrides nodes =
      hasAutomaticMatch lib compiled overrides' nodes := by
  rw [hasAutomaticMatch, hasAutomaticMatch, Bool.eq_iff_iff, any_eq_true, any_eq_true]
  exact exists_congr fun n => and_congr_right fun hn => by rw [classifyNode_congr (h n hn)]

theorem hasAutomaticMatch_perm {nodes' : List ImportedNode} (h : nodes.Perm nodes') :
    hasAutomaticMatch lib compiled overrides nodes =
      hasAutomaticMatch lib compiled overrides nodes' := by
  rw [hasAutomaticMatch, hasAutomaticMatch, Bool.eq_iff_iff, any_eq_true, any_eq_true]
  exact exists_congr fun n => and_congr_left fun _ => h.mem_iff

end

end GatewayVpn.Subscriptions
