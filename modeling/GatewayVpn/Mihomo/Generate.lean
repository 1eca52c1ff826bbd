import GatewayVpn.Subscription.Classify

/-!
# Mihomo: the generated configuration

`Generate` turns the ready uplinks and the subscriptions into one main configuration and one
provider file for each pair of them.

The encoders, the digests and the parser of addresses are those of other libraries (`Generator`).
The fields of the main configuration that depend on the input only are left to its encoder.
A subscription and a path also record which version their nodes come from; no function reads it.
-/

namespace GatewayVpn.Mihomo

open List

open Subscriptions (ImportedNode)

/-! ## relative paths -/

def cleanStep (done : List (List Char)) (segment : List Char) : List (List Char) :=
  if segment = [] || segment = ['.'] then done
  else if segment = ['.', '.'] then
    match done with
    | last :: earlier => if last = ['.', '.'] then segment :: done else earlier
    | [] => [segment]
  else segment :: done

/-- `Clean` on the segments of a relative path, in reverse -/
def cleanSegments (segments : List (List Char)) : List (List Char) := segments.foldl cleanStep []

def safeRelativePath (value : String) : Except String (List (List Char)) :=
  if value = "" || value.toList.contains '\\' || value.toList.head? = some '/' then
    .error "provider path must be a non-empty slash-separated relative path"
  else
    let clean := (cleanSegments (value.toList.splitOn '/')).reverse
    if clean = [] || clean.head? = some ['.', '.'] then
      .error "provider path escapes candidate directory"
    else .ok clean

def joinPath (directory name : String) : String :=
  String.ofList (['/'].intercalate
    (cleanSegments (directory.toList.splitOn '/' ++ [name.toList])).reverse)

/-! ## what is generated from -/

structure Uplink where
  id : String
  priority : Int := 1
  interfaceName : String := "eth0"
  fwmark : Nat := 1
  enabled : Bool := true
  online : Bool := true
  deriving DecidableEq

structure Subscription where
  id : String
  runtimeKey : String := ""
  priority : Int := 1
  enabled : Bool := true
  qualificationOnly : Bool := false
  nodes : List ImportedNode := []
  version : String := ""

def Subscription.key (s : Subscription) : String := if s.runtimeKey = "" then s.id else s.runtimeKey

structure Input where
  externalController : String := "127.0.0.1:9090"
  probeListener : String := "127.0.0.1:7890"
  apiSecret : String := "secret"
  tunName : String := "mihomo0"
  tunStack : String := "mixed"
  lanInterface : String := "lan0"
  providerDirectory : String := "providers"
  bootstrapDNS : List String := ["1.1.1.1"]
  uplinks : List Uplink := []
  subscriptions : List Subscription := []

structure Path where
  uplinkID : String
  subscriptionID : String
  runtimeKey : String
  providerName : String
  providerFile : String
  groupName : String
  probeGroupName : String
  nodePrefix : String
  qualificationOnly : Bool
  version : String
  deriving DecidableEq

structure Bundle where
  main : String
  providers : List (String × String) := []
  paths : List Path := []
  deriving DecidableEq

def Bundle.files (b : Bundle) : Except String (List (List (List Char))) :=
  match b.providers.mapM fun p => safeRelativePath p.1 with
  | .error err => .error err
  | .ok paths => .ok (["config.yaml".toList] :: paths)

/-- the files can be in one directory: none of them is another one or lies below it -/
def Separate (files : List (List (List Char))) : Prop :=
  files.Pairwise fun a b => ¬ a <+: b ∧ ¬ b <+: a

instance (files : List (List (List Char))) : Decidable (Separate files) :=
  inferInstanceAs (Decidable (files.Pairwise _))

structure Generator where
  loopbackPort : String → Bool
  /-- both are numeric addresses with a port, and equal -/
  sameAddrPort : String → String → Bool
  /-- six bytes of the digest, in hexadecimal -/
  shortID : String → String
  encodeProvider : List ImportedNode → String
  encodeMain : Input → List Path → String
  shortID_hex : ∀ value, (shortID value).toList.all isLowerHex = true
  encodeMain_ne : ∀ input paths, encodeMain input paths ≠ ""

/-! ## validateInput -/

def interfaceChar (c : Char) : Bool :=
  isLower c || isUpper c || isDigit c || c = '_' || c = '-' || c = '.' || c = ':'

def validInterfaceName (value : String) : Bool := charset 15 interfaceChar value

def validateUplinks : List String → List Uplink → Except String Unit
  | _, [] => .ok ()
  | seen, u :: us =>
    if u.id = "" || !validInterfaceName u.interfaceName || u.fwmark = 0 then
      .error "Mihomo uplink id, interface, and fwmark are required"
    else if seen.contains u.id then .error ("duplicate Mihomo uplink id " ++ quote u.id)
    else validateUplinks (u.id :: seen) us

def validateSubscriptions : List String → List String → List Subscription → Except String Unit
  | _, _, [] => .ok ()
  | keys, active, s :: ss =>
    if s.id = "" then .error "Mihomo subscription id is required"
    else if keys.contains s.key then
      .error ("duplicate Mihomo subscription runtime key " ++ quote s.key)
    else if s.qualificationOnly then validateSubscriptions (s.key :: keys) active ss
    else if active.contains s.id then
      .error ("duplicate active Mihomo subscription id " ++ quote s.id)
    else validateSubscriptions (s.key :: keys) (s.id :: active) ss

def escapingDirectory (directory : String) : Bool :=
  directory = "" || directory.toList.head? = some '/' || ['.', '.'] <:+: directory.toList

def validateInput (lib : Generator) (input : Input) : Except String Unit :=
  if input.externalController = "" || input.apiSecret = "" then
    .error "Mihomo controller address and secret are required"
  else if !lib.loopbackPort input.probeListener then
    .error "Mihomo probe listener must be a numeric loopback address with a port"
  else if lib.sameAddrPort input.externalController input.probeListener then
    .error "Mihomo controller and probe listener must use different addresses"
  else if !validInterfaceName input.tunName || !validInterfaceName input.lanInterface then
    .error "Mihomo TUN and LAN interface names must be valid"
  else if !(["mixed", "system", "gvisor"].contains input.tunStack) then
    .error "Mihomo TUN stack must be mixed, system, or gvisor"
  else if escapingDirectory input.providerDirectory then
    .error "Mihomo provider directory must be a safe relative path below HomeDir"
  else if input.bootstrapDNS.isEmpty then .error "at least one bootstrap DNS server is required"
  else match validateUplinks [] input.uplinks with
  | .error err => .error err
  | .ok () => validateSubscriptions [] [] input.subscriptions

/-! ## Generate -/

def maxGeneratedProxies : Nat := 20000

def generatedPath (lib : Generator) (input : Input) (u : Uplink) (s : Subscription) : Path :=
  let pair := lib.shortID u.id ++ "-" ++ lib.shortID s.key
  { uplinkID := u.id, subscriptionID := s.id, runtimeKey := s.key,
    providerName := "provider-" ++ pair
    providerFile := joinPath input.providerDirectory ("provider-" ++ pair ++ ".yaml")
    groupName := "path-" ++ pair, probeGroupName := "probe-path-" ++ pair
    nodePrefix := lib.shortID u.id ++ "/" ++ lib.shortID s.key ++ "/"
    qualificationOnly := s.qualificationOnly, version := s.version }

/-- `sort.SliceStable` by priority, and only the uplinks that are used -/
def Input.usedUplinks (input : Input) : List Uplink :=
  (input.uplinks.insertionSort fun a b => a.priority ≤ b.priority).filter fun u =>
    u.enabled && u.online

def Input.usedSubscriptions (input : Input) : List Subscription :=
  (input.subscriptions.insertionSort fun a b => a.priority ≤ b.priority).filter fun s =>
    s.enabled && !s.nodes.isEmpty

def Input.pairs (input : Input) : List (Uplink × Subscription) :=
  input.usedUplinks.flatMap fun u => input.usedSubscriptions.map fun s => (u, s)

def setProvider (providers : List (String × String)) (file content : String) :
    List (String × String) :=
  (file, content) :: providers.filter fun p => p.1 ≠ file

def generatedProviders (lib : Generator) (input : Input) : List (String × String) :=
  input.pairs.foldl (fun providers pair =>
    setProvider providers (generatedPath lib input pair.1 pair.2).providerFile
      (lib.encodeProvider pair.2.nodes)) []

def generatedPaths (lib : Generator) (input : Input) : List Path :=
  input.pairs.map fun pair => generatedPath lib input pair.1 pair.2

def generate (lib : Generator) (input : Input) : Except String Bundle :=
  match validateInput lib input with
  | .error err => .error err
  | .ok () =>
    if (input.pairs.map fun pair => pair.2.nodes.length).sum > maxGeneratedProxies then
      .error ("generated proxy count exceeds hard limit " ++ toString maxGeneratedProxies)
    else if input.pairs.isEmpty then
      .error "no enabled ready uplink/subscription path can be generated"
    else .ok {
      main := lib.encodeMain input (generatedPaths lib input)
      providers := generatedProviders lib input
      paths := generatedPaths lib input }

/-! ## the paths of a bundle -/

section
variable {lib : Generator} {input : Input} {b : Bundle}

theorem generate_ok (h : generate lib input = .ok b) :
    validateInput lib input = .ok () ∧ input.pairs ≠ [] ∧ b.main ≠ "" ∧
      b.providers = generatedProviders lib input ∧ b.paths = generatedPaths lib input := by
  rw [generate] at h
  split at h
  · cases h
  next hvalid =>
  split at h
  · cases h
  split at h
  · cases h
  next hpairs =>
  cases h
  exact ⟨hvalid, by simpa using hpairs, lib.encodeMain_ne _ _, rfl, rfl⟩

theorem mem_pairs {u : Uplink} {s : Subscription} :
    (u, s) ∈ input.pairs ↔ (u ∈ input.uplinks ∧ u.enabled = true ∧ u.online = true) ∧
      s ∈ input.subscriptions ∧ s.enabled = true ∧ s.nodes ≠ [] := by
  simp only [Input.pairs, Input.usedUplinks, Input.usedSubscriptions, mem_flatMap,
    mem_map, mem_filter, mem_insertionSort, Bool.and_eq_true,
    Bool.not_eq_true', isEmpty_eq_false_iff, Prod.mk.injEq]
  constructor
  · rintro ⟨u', ⟨hu, hused⟩, s', ⟨hs, hprovides⟩, rfl, rfl⟩
    exact ⟨⟨hu, hused⟩, hs, hprovides⟩
  · rintro ⟨⟨hu, hused⟩, hs, hprovides⟩
    exact ⟨u, ⟨hu, hused⟩, s, ⟨hs, hprovides⟩, rfl, rfl⟩

/-- **a bundle has one path for each used uplink and each subscription with nodes** -/
theorem mem_paths (h : generate lib input = .ok b) {p : Path} :
    p ∈ b.paths ↔ ∃ u s, (u, s) ∈ input.pairs ∧ p = generatedPath lib input u s := by
  rw [(generate_ok h).2.2.2.2, generatedPaths, mem_map]
  constructor
  · rintro ⟨⟨u, s⟩, hmem, rfl⟩
    exact ⟨u, s, hmem, rfl⟩
  · rintro ⟨u, s, hmem, rfl⟩
    exact ⟨(u, s), hmem, rfl⟩

end

/-! ## what the checks leave -/

section
variable {lib : Generator} {input : Input}

theorem validateInput_ok (h : validateInput lib input = .ok ()) :
    escapingDirectory input.providerDirectory = false ∧ validateUplinks [] input.uplinks = .ok () ∧
      validateSubscriptions [] [] input.subscriptions = .ok () := by
  rw [validateInput] at h
  iterate 5
    split at h
    · cases h
  split at h
  · cases h
  next hdirectory =>
  split at h
  · cases h
  split at h
  · cases h
  next huplinks => exact ⟨by simpa using hdirectory, huplinks, h⟩

theorem validateUplinks_ok {us : List Uplink} {seen : List String}
    (h : validateUplinks seen us = .ok ()) :
    (us.map (·.id)).Nodup ∧ ∀ u ∈ us, u.id ∉ seen ∧ u.id ≠ "" := by
  induction us generalizing seen with
  | nil => simp
  | cons u us ih =>
    rw [validateUplinks] at h
    split at h
    · cases h
    next hfields =>
    split at h
    · cases h
    next hseen =>
    obtain ⟨hnodup, hall⟩ := ih h
    have hid : u.id ≠ "" := by
      intro hid
      exact hfields (by simp [hid])
    refine ⟨nodup_cons.mpr ⟨fun hmem => ?_, hnodup⟩, fun v hv => ?_⟩
    · obtain ⟨v, hv, heq⟩ := mem_map.mp hmem
      exact (hall v hv).1 (heq ▸ mem_cons_self)
    rcases mem_cons.mp hv with rfl | hv
    · exact ⟨by simpa using hseen, hid⟩
    · exact ⟨fun hmem => (hall v hv).1 (mem_cons_of_mem _ hmem), (hall v hv).2⟩

theorem validateSubscriptions_ok {ss : List Subscription} {keys active : List String}
    (h : validateSubscriptions keys active ss = .ok ()) :
    (ss.map Subscription.key).Nodup ∧ ∀ s ∈ ss, s.key ∉ keys ∧ s.id ≠ "" := by
  induction ss generalizing keys active with
  | nil => simp
  | cons s ss ih =>
    rw [validateSubscriptions] at h
    split at h
    · cases h
    next hid =>
    split at h
    · cases h
    next hseen =>
    -- the two branches that go on differ in the active subscriptions only
    have hrest : ∃ active', validateSubscriptions (s.key :: keys) active' ss = .ok () := by
      split at h
      · exact ⟨_, h⟩
      split at h
      · cases h
      · exact ⟨_, h⟩
    obtain ⟨active', hrest⟩ := hrest
    obtain ⟨hnodup, hall⟩ := ih hrest
    refine ⟨nodup_cons.mpr ⟨fun hmem => ?_, hnodup⟩, fun v hv => ?_⟩
    · obtain ⟨v, hv, heq⟩ := mem_map.mp hmem
      exact (hall v hv).1 (heq ▸ mem_cons_self)
    rcases mem_cons.mp hv with rfl | hv
    · exact ⟨by simpa using hseen, hid⟩
    · exact ⟨fun hmem => (hall v hv).1 (mem_cons_of_mem _ hmem), (hall v hv).2⟩

end

end GatewayVpn.Mihomo
