import GatewayVpn.Text

/-!
# Network apply: manifests and transactions

The durable description of one network change, as `internal/networkapply` builds, validates and
compares it.  A `Candidate` is what an administrator asks for; `buildManifest` checks it and turns
it into a `Manifest`, which is kept on disk; a `Transaction` is the matching row of the database.

What the package imports (address and URL parsing, JSON, SHA-256, two checks of other packages)
is a record `Lib` of functions about which nothing is assumed.
-/

namespace GatewayVpn.NetworkApply

/-! ## errors -/

inductive ApplyError where
  | inProgress
  | state
  | expired
  | confirmToken
  | confirmSource
  | notFound
  | text (s : String)
  | wrap (message : String) (inner : ApplyError)
  deriving DecidableEq

/-! ## the two enumerations of a transaction -/

inductive Phase where
  | created
  | snapshotReady
  | armed
  | applied
  | confirming
  | confirmed
  | rolledBack
  | failed
  deriving DecidableEq

inductive TxState where
  | preparing
  | armed
  | applied
  | confirming
  | confirmed
  | rolledBack
  | failed
  deriving DecidableEq

def unfinishedStates : List TxState := [.preparing, .armed, .applied, .confirming]

def TxState.unfinished (s : TxState) : Bool := unfinishedStates.contains s

inductive OperationKind where
  | unset
  | lanAddress
  | ethernetUplink
  | topologyProfile
  deriving DecidableEq

def legacyManifestSchema : Nat := 1
def manifestSchema : Nat := 2
def topologyManifestSchema : Nat := 3

/-! ## mutations, candidates, manifests -/

inductive EthernetOperation where
  | create
  | replaceInterface
  | updateAddress
  | delete
  | unsupported (s : String)
  deriving DecidableEq

structure EthernetMutation where
  operation : EthernetOperation
  uplinkID : String
  expectedDesiredGeneration : Int
  targetInterfaceID : String
  name : String
  addressMode : String
  ipv4CIDR : String
  gateway : String
  dns : List String
  mtu : Int
  deriving DecidableEq

inductive TopologyProfile where
  | ethernetHiLink
  | ethernetEthernet
  | oneArmWireGuard
  | mixed
  | unsupported (s : String)
  deriving DecidableEq

structure TopologyListenInterface where
  networkInterfaceID : String
  exposureMode : String
  priority : Int
  deriving DecidableEq

structure TopologyEthernetUplink where
  id : String
  name : String
  networkInterfaceID : String
  addressMode : String
  ipv4CIDR : String
  gateway : String
  dns : List String
  mtu : Int
  deriving DecidableEq

structure TopologyMutation where
  expectedDesiredGeneration : Int
  profile : TopologyProfile
  lanInterfaceIDs : List String
  managementInterfaceIDs : List String
  wgEndpointInterfaceIDs : List String
  sharedOneArmInterfaceID : String
  lanInterfaceName : String
  lanAddress : String
  dhcpDNSEnabled : Bool
  ingressEnabled : Bool
  ingressTopologyMode : String
  ingressListenInterfaces : List TopologyListenInterface
  acknowledgedPrerequisites : List String
  ethernetUplinks : List TopologyEthernetUplink
  deriving DecidableEq

structure Candidate where
  interfaceName : String := ""
  oldLANCIDR : String := ""
  newLANCIDR : String := ""
  oldURL : String := ""
  newURL : String := ""
  ethernet : Option EthernetMutation := none
  topology : Option TopologyMutation := none
  managementURL : String := ""
  managementDestinationIP : String := ""
  requireWireGuardConfirmation : Bool := false
  allowLocalConsoleConfirmation : Bool := false

structure Manifest where
  schemaVersion : Nat
  id : String := ""
  operationKind : OperationKind := .unset
  interfaceName : String := ""
  oldLANCIDR : String := ""
  newLANCIDR : String := ""
  oldURL : String
  newURL : String
  newDestinationIP : String
  ethernet : Option EthernetMutation := none
  topology : Option TopologyMutation := none
  requireWireGuardConfirmation : Bool := false
  allowLocalConsoleConfirmation : Bool := false
  rollbackDeadline : Stamp := .malformed ""
  createdAt : Stamp := .malformed ""
  deriving DecidableEq

/-- a row of `network_apply_transactions` -/
structure Transaction where
  id : String
  state : TxState
  confirmTokenSHA256 : String
  manifestSchema : Nat
  operationKind : OperationKind
  candidateJSON : String
  interfaceName : String
  oldLANCIDR : String
  newLANCIDR : String
  oldURL : String
  newURL : String
  newDestinationIP : String
  rollbackDeadline : Stamp
  transactionDir : String
  errorCode : String := ""
  createdAt : Time := 0
  deriving DecidableEq

/-! ## addresses and the imported functions -/

/-- `netip.Addr` -/
structure Addr where
  is4 : Bool
  value : Nat
  zone : String
  deriving DecidableEq

/-- an IPv4-mapped IPv6 address as the IPv4 address it stands for -/
def Addr.unmap (a : Addr) : Addr :=
  if !a.is4 && a.value / 2 ^ 32 = 0xffff then ⟨true, a.value % 2 ^ 32, ""⟩ else a

def Addr.isUnspecified (a : Addr) : Bool := a.value = 0 && a.zone = ""

/-- `netip.Prefix`, as it comes out of a successful parse -/
structure Prefix where
  addr : Addr
  bits : Nat
  deriving DecidableEq

def Prefix.width (p : Prefix) : Nat := if p.addr.is4 then 32 else 128

def Prefix.maskedTo (p : Prefix) (bits : Nat) : Prefix :=
  let size := 2 ^ (p.width - bits)
  ⟨{ p.addr with value := p.addr.value / size * size }, bits⟩

def Prefix.masked (p : Prefix) : Prefix := p.maskedTo p.bits

def Prefix.overlaps (p q : Prefix) : Bool :=
  p.addr.is4 = q.addr.is4 &&
    p.maskedTo (min p.bits q.bits) = q.maskedTo (min p.bits q.bits)

/-- the parts of a parsed URL that the validators read -/
structure URL where
  scheme : String
  host : String
  hasUser : Bool
  path : String
  rawQuery : String
  fragment : String
  hostname : String
  port : String

/-- everything the package takes from other packages -/
structure Lib where
  parseAddr : String → Option Addr
  addrString : Addr → String
  parsePrefix : String → Option Prefix
  prefixString : Prefix → String
  parseURL : String → Option URL
  marshalEthernet : EthernetMutation → Option String
  marshalTopology : TopologyMutation → Option String
  sha256 : String → List UInt8
  validGatewayLAN : String → Bool
  isUsableIPv4Host : Prefix → Addr → Bool
  validateEthernetInput : TopologyEthernetUplink → Option String
  createdBefore : Time → Time → Bool

/-! ## identifier checks -/

def safeID (value : String) : Bool :=
  charset 96 (fun c => isLower c || isDigit c || c = '-') value

def safeErrorCode (value : String) : Bool :=
  charset 64 (fun c => isUpper c || isDigit c || c = '_') value

def safeObjectID (value : String) : Bool :=
  charset 128 (fun c => isLower c || isUpper c || isDigit c || "-_:.".toList.contains c)
    (trimSpace value)

def validInterfaceName (value : String) : Bool :=
  charset 15 (fun c => isLower c || isUpper c || isDigit c || "_.:-".toList.contains c) value

def trimBrackets (s : String) : String :=
  let bracket := fun c : Char => c = '[' || c = ']'
  String.ofList (((s.toList.dropWhile bracket).reverse.dropWhile bracket).reverse)

section
variable (lib : Lib)

/-! ## candidates -/

def validPrivateIPv4LAN (p : Prefix) : Bool := lib.validGatewayLAN (lib.prefixString p)

def validateManagementURL (value : String) (expected : Addr) : Except ApplyError Unit :=
  let origin : ApplyError :=
    .text "URL must be an HTTPS origin without credentials, path, query, or fragment"
  let lanHost : ApplyError := .text "URL host must equal the LAN address and include the API port"
  match lib.parseURL value with
  | none => .error origin
  | some parsed =>
    if parsed.scheme ≠ "https" || parsed.host = "" || parsed.hasUser || parsed.path ≠ "" ||
        parsed.rawQuery ≠ "" || parsed.fragment ≠ "" then .error origin
    else match lib.parseAddr (trimBrackets parsed.hostname) with
      | none => .error lanHost
      | some host =>
        if host.unmap ≠ expected.unmap || parsed.port = "" then .error lanHost else .ok ()

def validateCandidate (candidate : Candidate) : Except ApplyError (Prefix × Prefix) :=
  if !validInterfaceName candidate.interfaceName then
    .error (.text "network candidate interface is invalid")
  else match lib.parsePrefix candidate.oldLANCIDR with
  | none => .error (.text "old LAN CIDR is invalid")
  | some oldPrefix =>
  match lib.parsePrefix candidate.newLANCIDR with
  | none => .error (.text "new LAN CIDR is invalid")
  | some newPrefix =>
  if !validPrivateIPv4LAN lib oldPrefix || !validPrivateIPv4LAN lib newPrefix ||
      oldPrefix.masked = newPrefix.masked || oldPrefix.masked.overlaps newPrefix.masked then
    .error (.text
      "old and new LAN subnets must be distinct non-overlapping private IPv4 networks")
  else match validateManagementURL lib candidate.oldURL oldPrefix.addr with
  | .error e => .error (.wrap "old management URL: " e)
  | .ok () =>
  match validateManagementURL lib candidate.newURL newPrefix.addr with
  | .error e => .error (.wrap "new management URL: " e)
  | .ok () => .ok (oldPrefix, newPrefix)

def validateDNS : List String → List String → Except ApplyError Unit
  | [], _ => .ok ()
  | raw :: rest, seen =>
    match lib.parseAddr raw with
    | none => .error (.text "Ethernet DNS contains an invalid IPv4 address")
    | some address =>
      if !address.is4 || address.isUnspecified then
        .error (.text "Ethernet DNS contains an invalid IPv4 address")
      else if seen.contains (lib.addrString address) then
        .error (.text "Ethernet DNS contains a duplicate address")
      else validateDNS rest (lib.addrString address :: seen)

def validateEthernetAddress (candidate : EthernetMutation) : Except ApplyError Unit := do
  if candidate.mtu ≠ 0 && (candidate.mtu < 576 || candidate.mtu > 9216) then
    throw (.text "Ethernet MTU must be between 576 and 9216")
  let network := lib.parsePrefix candidate.ipv4CIDR
  if candidate.ipv4CIDR ≠ "" && !network.any (fun p => lib.isUsableIPv4Host p p.addr) then
    throw (.text "Ethernet IPv4 CIDR is invalid")
  let gateway := lib.parseAddr candidate.gateway
  if candidate.gateway ≠ "" && !gateway.any (fun g => g.is4 && !g.isUnspecified) then
    throw (.text "Ethernet gateway is invalid")
  match candidate.addressMode with
  | "DHCP" =>
    if candidate.ipv4CIDR ≠ "" || candidate.gateway ≠ "" then
      throw (.text "DHCP cannot contain a static address or gateway")
  | "STATIC" =>
    match network, gateway with
    | some p, some g =>
      if candidate.ipv4CIDR = "" || candidate.gateway = "" || !lib.isUsableIPv4Host p g ||
          p.addr = g then
        throw (.text
          "static mode requires an address and a different gateway in the same subnet")
    | _, _ =>
      throw (.text "static mode requires an address and a different gateway in the same subnet")
  | _ => throw (.text "Ethernet address mode must be DHCP or STATIC")
  if candidate.dns.length > 8 then
    throw (.text "at most eight Ethernet DNS addresses are allowed")
  validateDNS lib candidate.dns []

def validateEthernetMutation (candidate : EthernetMutation) : Except ApplyError Unit :=
  if !safeObjectID candidate.uplinkID || !safeObjectID candidate.targetInterfaceID then
    .error (.text "safe uplink and target interface IDs are required")
  else match candidate.operation with
  | .create =>
    if candidate.expectedDesiredGeneration ≠ 0 || trimSpace candidate.name = "" ||
        (trimSpace candidate.name).toList.length > 128 then
      .error (.text "create requires a name and generation zero")
    else validateEthernetAddress lib candidate
  | .replaceInterface | .updateAddress =>
    if candidate.expectedDesiredGeneration < 1 || candidate.name ≠ "" then
      .error (.text "existing uplink mutation requires its expected generation")
    else validateEthernetAddress lib candidate
  | .delete =>
    if candidate.expectedDesiredGeneration < 1 || candidate.name ≠ "" then
      .error (.text "delete requires the expected uplink generation")
    else if candidate.addressMode ≠ "" || candidate.ipv4CIDR ≠ "" || candidate.gateway ≠ "" ||
        candidate.dns ≠ [] || candidate.mtu ≠ 0 then
      .error (.text "delete cannot contain Ethernet address configuration")
    else .ok ()
  | .unsupported _ => .error (.text "unsupported Ethernet operation")

/-! ## topology candidates -/

def validateTopologyIDsFrom : List String → List String → Except ApplyError (List String)
  | [], result => .ok result
  | raw :: rest, result =>
    if !safeObjectID (trimSpace raw) then .error (.text "interface id is invalid")
    else if result.contains (trimSpace raw) then .error (.text "interface id is duplicated")
    else validateTopologyIDsFrom rest (trimSpace raw :: result)

def validateTopologyIDs (values : List String) (limit : Nat) : Except ApplyError (List String) :=
  if values.length > limit then .error (.text "too many interface assignments")
  else validateTopologyIDsFrom values []

def validateUplinks : List TopologyEthernetUplink → List String → List String →
    Except ApplyError Unit
  | [], _, _ => .ok ()
  | item :: rest, seenIDs, seenInterfaces =>
    if !safeObjectID item.id then .error (.text "topology Ethernet uplink id is invalid")
    else if seenIDs.contains item.id then
      .error (.text "topology Ethernet uplink id is duplicated")
    else if !safeObjectID item.networkInterfaceID then
      .error (.text "topology Ethernet uplink interface id is invalid")
    else if seenInterfaces.contains item.networkInterfaceID then
      .error (.text "topology Ethernet uplink interface is duplicated")
    else match lib.validateEthernetInput item with
      | some e => .error (.wrap ("topology Ethernet uplink " ++ item.id ++ ": ") (.text e))
      | none => validateUplinks rest (item.id :: seenIDs) (item.networkInterfaceID :: seenInterfaces)

def validateListeners (lan endpoints : List String) (shared : String) :
    List TopologyListenInterface → Int → List String → Except ApplyError Unit
  | [], _, _ => .ok ()
  | item :: rest, index, listeners =>
    let id := trimSpace item.networkInterfaceID
    if !safeObjectID id || item.priority ≠ index + 1 ||
        (item.exposureMode ≠ "LOCAL" && item.exposureMode ≠ "PUBLIC") then
      .error (.text "WireGuard ingress listener list is invalid")
    else if listeners.contains id then .error (.text "WireGuard ingress listener is duplicated")
    else if !lan.contains id && !endpoints.contains id && id ≠ shared &&
        id ≠ "netif:managed:lan" then
      .error (.text "WireGuard ingress listener has no candidate LAN/WG endpoint role")
    else if item.exposureMode = "PUBLIC" && !endpoints.contains id && id ≠ shared then
      .error (.text "public WireGuard ingress listener requires WG_ENDPOINT or SHARED_ONE_ARM")
    else validateListeners lan endpoints shared rest (index + 1) (id :: listeners)

def allowedPrerequisites : List String :=
  ["MOVE_LAN_CABLES", "CONFIGURE_KEENETIC_WAN_DHCP", "CONFIGURE_KEENETIC_WIREGUARD",
    "VERIFY_UPSTREAM_RETURN_PATH", "ACCEPT_TEMPORARY_DISCONNECT"]

def validatePrerequisites : List String → List String → Except ApplyError Unit
  | [], _ => .ok ()
  | value :: rest, seen =>
    if !allowedPrerequisites.contains value then
      .error (.text "unknown topology prerequisite acknowledgement")
    else if seen.contains value then
      .error (.text "topology prerequisite acknowledgement is duplicated")
    else validatePrerequisites rest (value :: seen)

def topologyManagedLANName : String := "gateway-vpn-lan"

def validateProfileRoles (candidate : TopologyMutation) (lan management : List String)
    (shared : String) : Except ApplyError Unit :=
  if candidate.profile = .oneArmWireGuard then
    if candidate.lanInterfaceName ≠ "wg-ingress" || shared = "" || lan.length ≠ 0 ||
        management.length ≠ 1 || !candidate.ingressEnabled ||
        candidate.ingressTopologyMode ≠ "ONE_ARM" || candidate.dhcpDNSEnabled then
      .error (.text <| "one-arm profile requires exactly one shared management/uplink interface, "
        ++ "enabled ONE_ARM ingress and no LAN DHCP/DNS")
    else .ok ()
  else if candidate.profile = .mixed && shared ≠ "" && lan.length = 0 then
    if candidate.lanInterfaceName ≠ "wg-ingress" || !candidate.ingressEnabled ||
        candidate.ingressTopologyMode ≠ "ONE_ARM" || candidate.dhcpDNSEnabled then
      .error (.text
        "shared-only mixed profile requires enabled ONE_ARM ingress and no LAN DHCP/DNS")
    else .ok ()
  else if candidate.lanInterfaceName ≠ topologyManagedLANName || lan.length = 0 ||
      !candidate.dhcpDNSEnabled then
    .error (.text "Ethernet LAN profiles require at least one LAN member and LAN DHCP/DNS")
  else if candidate.ingressTopologyMode = "ONE_ARM" then
    .error (.text "ONE_ARM ingress is reserved for the one-arm topology profile")
  else if shared ≠ "" && candidate.profile ≠ .mixed then
    .error (.text "shared one-arm role is allowed only in ONE_ARM or MIXED profile")
  else .ok ()

def TopologyProfile.supported : TopologyProfile → Bool
  | .unsupported _ => false
  | _ => true

/-- name the list of interfaces that a failed check was about -/
def labelled {α : Type} (message : String) : Except ApplyError α → Except ApplyError α
  | .ok a => .ok a
  | .error e => .error (.wrap message e)

def validateTopologyMutation (candidate : TopologyMutation) : Except ApplyError Unit := do
  if candidate.expectedDesiredGeneration < 1 || !validInterfaceName candidate.lanInterfaceName ||
      !lib.validGatewayLAN candidate.lanAddress then
    throw (.text "topology generation, LAN interface and private LAN address are required")
  if !candidate.profile.supported then throw (.text "unsupported topology profile")
  let lan ← labelled "LAN interfaces: " (validateTopologyIDs candidate.lanInterfaceIDs 16)
  let management ←
    labelled "management interfaces: " (validateTopologyIDs candidate.managementInterfaceIDs 16)
  let endpoints ← labelled "WireGuard endpoint interfaces: "
    (validateTopologyIDs candidate.wgEndpointInterfaceIDs 16)
  let shared := trimSpace candidate.sharedOneArmInterfaceID
  if shared ≠ "" && !safeObjectID shared then
    throw (.text "shared one-arm interface id is invalid")
  if management.any (fun id => !lan.contains id && id ≠ shared) then
    throw (.text
      "management interface must also be a LAN member or the shared one-arm interface")
  if management.length = 0 then
    throw (.text "at least one local management interface is required")
  if shared ≠ "" && lan.contains shared then
    throw (.text "shared one-arm interface cannot also be a plaintext LAN member")
  if candidate.ethernetUplinks.length > 16 then
    throw (.text "too many topology Ethernet uplinks")
  validateUplinks lib candidate.ethernetUplinks [] []
  if candidate.profile = .ethernetHiLink && candidate.ethernetUplinks.length ≠ 0 then
    throw (.text "HiLink topology cannot carry Ethernet uplink intent")
  if candidate.profile = .oneArmWireGuard && candidate.ethernetUplinks.length > 0 &&
      candidate.ethernetUplinks.map (·.networkInterfaceID) ≠ [shared] then
    throw (.text
      "one-arm topology Ethernet intent must contain one uplink on the shared interface")
  validateProfileRoles candidate lan management shared
  if candidate.ingressTopologyMode ≠ "ROUTED" && candidate.ingressTopologyMode ≠ "ONE_ARM" then
    throw (.text "WireGuard ingress topology mode is invalid")
  if candidate.ingressListenInterfaces.length > 16 then
    throw (.text "too many WireGuard ingress listeners")
  validateListeners lan endpoints shared candidate.ingressListenInterfaces 0 []
  if candidate.ingressEnabled && candidate.ingressListenInterfaces.length = 0 ||
      !candidate.ingressEnabled && candidate.ingressListenInterfaces.length ≠ 0 then
    throw (.text "WireGuard ingress listeners do not match enabled state")
  if candidate.acknowledgedPrerequisites.length > 8 then
    throw (.text "too many topology prerequisite acknowledgements")
  validatePrerequisites candidate.acknowledgedPrerequisites []

/-! ## manifests -/

def buildTopologyManifest (candidate : Candidate) (mutation : TopologyMutation) :
    Except ApplyError Manifest :=
  if candidate.ethernet.isSome || candidate.interfaceName ≠ "" || candidate.oldLANCIDR ≠ "" ||
      candidate.newLANCIDR ≠ "" then
    .error (.text "topology candidate cannot contain LAN or Ethernet mutation fields")
  else match validateTopologyMutation lib mutation with
  | .error e => .error (.wrap "invalid topology profile candidate: " e)
  | .ok () =>
  let oldURL := if candidate.oldURL = "" then candidate.managementURL else candidate.oldURL
  let newURL := if candidate.newURL = "" then candidate.managementURL else candidate.newURL
  match lib.parseAddr candidate.managementDestinationIP with
  | none => .error (.text "topology confirmation destination must be an IPv4 address")
  | some destination =>
  if !destination.is4 then
    .error (.text "topology confirmation destination must be an IPv4 address")
  else match validateManagementURL lib newURL destination with
  | .error e => .error (.wrap "topology management URL: " e)
  | .ok () =>
  match lib.parseURL oldURL with
  | none => .error (.text "topology old management URL is invalid")
  | some parsedOld =>
  match lib.parseAddr (trimBrackets parsedOld.hostname) with
  | none => .error (.text "topology old management URL is invalid")
  | some oldDestination =>
  match validateManagementURL lib oldURL oldDestination with
  | .error _ => .error (.text "topology old management URL is invalid")
  | .ok () =>
    .ok { schemaVersion := topologyManifestSchema, operationKind := .topologyProfile
          oldURL := oldURL, newURL := newURL
          newDestinationIP := lib.addrString destination, topology := some mutation
          requireWireGuardConfirmation := candidate.requireWireGuardConfirmation
          allowLocalConsoleConfirmation := candidate.allowLocalConsoleConfirmation }

def buildEthernetManifest (candidate : Candidate) (ethernet : EthernetMutation) :
    Except ApplyError Manifest :=
  if candidate.interfaceName ≠ "" || candidate.oldLANCIDR ≠ "" || candidate.newLANCIDR ≠ "" ||
      candidate.oldURL ≠ "" || candidate.newURL ≠ "" then
    .error (.text "Ethernet candidate cannot contain LAN mutation fields")
  else
  let mutation := { ethernet with
    uplinkID := trimSpace ethernet.uplinkID
    targetInterfaceID := trimSpace ethernet.targetInterfaceID
    name := trimSpace ethernet.name }
  match validateEthernetMutation lib mutation with
  | .error e => .error (.wrap "invalid Ethernet network candidate: " e)
  | .ok () =>
  match lib.parseAddr candidate.managementDestinationIP with
  | none => .error (.text "current management destination must be an IPv4 address")
  | some destination =>
  if !destination.is4 then
    .error (.text "current management destination must be an IPv4 address")
  else match validateManagementURL lib candidate.managementURL destination with
  | .error e => .error (.wrap "current management URL: " e)
  | .ok () =>
    .ok { schemaVersion := manifestSchema, operationKind := .ethernetUplink
          oldURL := candidate.managementURL, newURL := candidate.managementURL
          newDestinationIP := lib.addrString destination, ethernet := some mutation }

def buildManifest (candidate : Candidate) : Except ApplyError Manifest :=
  match candidate.topology, candidate.ethernet with
  | some mutation, _ => buildTopologyManifest lib candidate mutation
  | none, some ethernet => buildEthernetManifest lib candidate ethernet
  | none, none =>
    match validateCandidate lib candidate with
    | .error e => .error e
    | .ok (oldPrefix, newPrefix) =>
      .ok { schemaVersion := legacyManifestSchema
            interfaceName := candidate.interfaceName
            oldLANCIDR := lib.prefixString oldPrefix, newLANCIDR := lib.prefixString newPrefix
            oldURL := candidate.oldURL, newURL := candidate.newURL
            newDestinationIP := lib.addrString newPrefix.addr }

section
variable (manifest : Manifest)

def effectiveOperationKind : OperationKind :=
  if manifest.schemaVersion = legacyManifestSchema then .lanAddress else manifest.operationKind

def manifestCandidateJSON : Except ApplyError String :=
  let payload :=
    if manifest.schemaVersion = legacyManifestSchema then some "\x7b\x7d"
    else if manifest.schemaVersion = topologyManifestSchema then
      match manifest.topology with
      | some mutation => lib.marshalTopology mutation
      | none => some "null"
    else match manifest.ethernet with
      | some mutation => lib.marshalEthernet mutation
      | none => some "null"
  match payload with
  | some json => .ok json
  | none => .error (.text "encode network apply candidate failed")

def validateLegacyManifest : Except ApplyError Unit :=
  if (manifest.operationKind ≠ .unset && manifest.operationKind ≠ .lanAddress) ||
      manifest.ethernet.isSome || manifest.topology.isSome ||
      manifest.requireWireGuardConfirmation || manifest.allowLocalConsoleConfirmation then
    .error (.text "legacy LAN transaction manifest contains a foreign operation")
  else match validateCandidate lib
      { interfaceName := manifest.interfaceName
        oldLANCIDR := manifest.oldLANCIDR, newLANCIDR := manifest.newLANCIDR
        oldURL := manifest.oldURL, newURL := manifest.newURL } with
  | .error _ => .error (.text "network transaction LAN candidate is invalid")
  | .ok (_, newPrefix) =>
    if manifest.newDestinationIP ≠ lib.addrString newPrefix.addr then
      .error (.text "network transaction LAN candidate is invalid")
    else .ok ()

def validateTopologyManifest : Except ApplyError Unit :=
  match manifest.topology with
  | none => .error (.text "network transaction topology operation is invalid")
  | some mutation =>
  if manifest.operationKind ≠ .topologyProfile || manifest.interfaceName ≠ "" ||
      manifest.oldLANCIDR ≠ "" || manifest.newLANCIDR ≠ "" || manifest.ethernet.isSome then
    .error (.text "network transaction topology operation is invalid")
  else match validateTopologyMutation lib mutation with
  | .error e => .error (.wrap "network transaction topology candidate is invalid: " e)
  | .ok () =>
  match lib.parseAddr manifest.newDestinationIP with
  | none => .error (.text "network transaction confirmation destination is invalid")
  | some destination =>
  if !destination.is4 then
    .error (.text "network transaction confirmation destination is invalid")
  else match validateManagementURL lib manifest.newURL destination with
  | .error _ => .error (.text "topology transaction new management URL is invalid")
  | .ok () =>
  if manifest.allowLocalConsoleConfirmation && manifest.oldURL = manifest.newURL then
    .error (.text
      "local-console confirmation is reserved for a changed topology management origin")
  else match lib.parseURL manifest.oldURL with
  | none => .error (.text "topology transaction old management URL is invalid")
  | some parsedOld =>
  match lib.parseAddr (trimBrackets parsedOld.hostname) with
  | none => .error (.text "topology transaction old management URL is invalid")
  | some oldDestination =>
  match validateManagementURL lib manifest.oldURL oldDestination with
  | .error _ => .error (.text "topology transaction old management URL is invalid")
  | .ok () => .ok ()

def validateEthernetManifest : Except ApplyError Unit :=
  match manifest.ethernet with
  | none => .error (.text "network transaction manifest operation is invalid")
  | some mutation =>
  if manifest.schemaVersion ≠ manifestSchema || manifest.operationKind ≠ .ethernetUplink ||
      manifest.interfaceName ≠ "" || manifest.oldLANCIDR ≠ "" || manifest.newLANCIDR ≠ "" ||
      manifest.topology.isSome || manifest.requireWireGuardConfirmation ||
      manifest.allowLocalConsoleConfirmation then
    .error (.text "network transaction manifest operation is invalid")
  else match validateEthernetMutation lib mutation with
  | .error e => .error (.wrap "network transaction Ethernet candidate is invalid: " e)
  | .ok () =>
  match lib.parseAddr manifest.newDestinationIP with
  | none => .error (.text "network transaction confirmation destination is invalid")
  | some destination =>
  if !destination.is4 then
    .error (.text "network transaction confirmation destination is invalid")
  else match validateManagementURL lib manifest.oldURL destination with
  | .error _ => .error (.text "network transaction old management URL is invalid")
  | .ok () =>
  match validateManagementURL lib manifest.newURL destination with
  | .error _ => .error (.text "Ethernet transaction management URL must remain unchanged")
  | .ok () =>
    if manifest.newURL ≠ manifest.oldURL then
      .error (.text "Ethernet transaction management URL must remain unchanged")
    else .ok ()

def validateManifest : Except ApplyError Unit :=
  if !safeID manifest.id || manifest.oldURL = "" || manifest.newURL = "" ||
      manifest.newDestinationIP = "" then
    .error (.text "complete network transaction manifest is required")
  else match manifest.rollbackDeadline.parse with
  | none => .error (.text "network transaction rollback deadline is invalid")
  | some deadline =>
  match manifest.createdAt.parse with
  | none =>
    .error (.text
      "network transaction deadline must be after creation and at most 90 seconds")
  | some created =>
  if ¬ created < deadline || deadline - created > 90 * second then
    .error (.text
      "network transaction deadline must be after creation and at most 90 seconds")
  else if manifest.schemaVersion = legacyManifestSchema then validateLegacyManifest lib manifest
  else if manifest.schemaVersion = topologyManifestSchema then
    validateTopologyManifest lib manifest
  else validateEthernetManifest lib manifest

end

def sameManifestCore (left right : Manifest) : Bool :=
  { left with rollbackDeadline := .malformed "", createdAt := .malformed "" } =
    { right with rollbackDeadline := .malformed "", createdAt := .malformed "" }

/-! ## manifests against rows -/

def manifestCoreMatchesTransaction (manifest : Manifest) (transaction : Transaction)
    (directory : String) : Bool :=
  match manifestCandidateJSON lib manifest with
  | .error _ => false
  | .ok candidateJSON =>
    manifest.id = transaction.id && manifest.schemaVersion = transaction.manifestSchema &&
      effectiveOperationKind manifest = transaction.operationKind &&
      candidateJSON = transaction.candidateJSON &&
      manifest.interfaceName = transaction.interfaceName &&
      manifest.oldLANCIDR = transaction.oldLANCIDR &&
      manifest.newLANCIDR = transaction.newLANCIDR &&
      manifest.oldURL = transaction.oldURL && manifest.newURL = transaction.newURL &&
      manifest.newDestinationIP = transaction.newDestinationIP &&
      transaction.transactionDir = directory

def manifestMatchesTransaction (manifest : Manifest) (transaction : Transaction)
    (directory : String) : Bool :=
  manifestCoreMatchesTransaction lib manifest transaction directory &&
    manifest.rollbackDeadline = transaction.rollbackDeadline

end

def validTransactionOperation (transaction : Transaction) : Bool :=
  let mutationOnly :=
    transaction.interfaceName = "" && transaction.oldLANCIDR = "" &&
      transaction.newLANCIDR = "" && transaction.candidateJSON ≠ "" &&
      transaction.candidateJSON ≠ "\x7b\x7d"
  if transaction.manifestSchema = legacyManifestSchema &&
      transaction.operationKind = .lanAddress then
    transaction.candidateJSON = "\x7b\x7d" && validInterfaceName transaction.interfaceName &&
      transaction.oldLANCIDR ≠ "" && transaction.newLANCIDR ≠ ""
  else if transaction.manifestSchema = manifestSchema &&
      transaction.operationKind = .ethernetUplink then mutationOnly
  else if transaction.manifestSchema = topologyManifestSchema &&
      transaction.operationKind = .topologyProfile then mutationOnly
  else false

end GatewayVpn.NetworkApply
