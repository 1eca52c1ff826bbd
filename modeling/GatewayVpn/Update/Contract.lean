import GatewayVpn.Numeral

/-!
# Update: the release contract

What a release says about itself, which policy it is held against, and the order of versions.
-/

namespace GatewayVpn.Update

/-! ## errors -/

inductive UpdateError where
  | text (message : String)
  | wrapped (message : String) (cause : UpdateError)
  | updateStabilizing
  | stabilityWindowActive
  | noFinalizationPending
  | updateInProgress
  | updatePending
  deriving DecidableEq

/-! ## identifiers -/

section
variable (s : String)

def digestPattern : Bool := fixed (List.replicate 64 isLowerHex) s.toList

def updateIDPattern : Bool :=
  fixed (literally "update-" ++ List.replicate 8 isDigit ++ literally "T" ++
    List.replicate 6 isDigit ++ literally "Z-" ++ List.replicate 24 isLowerHex) s.toList

def restorePointIDPattern : Bool :=
  fixed (literally "point-" ++ List.replicate 8 isDigit ++ literally "T" ++
    List.replicate 6 isDigit ++ literally "Z-" ++ List.replicate 24 isLowerHex) s.toList

def snapshotIDPattern : Bool :=
  fixed (List.replicate 8 isDigit ++ literally "T" ++ List.replicate 6 isDigit ++
    literally "." ++ List.replicate 9 isDigit ++ literally "Z-" ++
    List.replicate 24 isLowerHex) s.toList

def buildCommitPattern : Bool :=
  fixed (List.replicate 40 isLowerHex) s.toList || fixed (List.replicate 64 isLowerHex) s.toList

def errorCodePattern : Bool :=
  s.toList.all (fun c => isUpper c || isDigit c || c = '_') && s.toList.length ≤ 64

/-- `0|[1-9][0-9]*` -/
def numericIdentifier (s : List Char) : Bool :=
  s = ['0'] || (s.head?.any (fun c => isDigit c && c ≠ '0') && s.all isDigit)

def identifierChar (c : Char) : Bool := isDigit c || isLower c || isUpper c || c = '-'

/-- `[0-9A-Za-z-]+` -/
def identifier (s : List Char) : Bool := s ≠ [] && s.all identifierChar

/-- `0|[1-9][0-9]*|[0-9]*[A-Za-z-][0-9A-Za-z-]*` -/
def prereleaseIdentifier (s : List Char) : Bool :=
  numericIdentifier s || (s.all identifierChar && s.any fun c => !isDigit c)

/-- a version whose pre-release identifiers satisfy `pre` -/
def semanticVersionText (pre : List Char → Bool) (s : List Char) : Bool :=
  let main := cut '+' s
  let core := cut '-' main.1
  (fields '.' core.1).length = 3 && (fields '.' core.1).all numericIdentifier &&
    core.2.all (fun p => (fields '.' p).all pre) &&
    main.2.all (fun b => (fields '.' b).all identifier)

def versionPattern : Bool := semanticVersionText prereleaseIdentifier s.toList

def mihomoVersionPattern : Bool :=
  semanticVersionText identifier
    (match s.toList with
      | 'v' :: rest => rest
      | text => text)

end

/-! ## the order of versions -/

structure SemanticVersion where
  major : Nat
  minor : Nat
  patch : Nat
  pre : List Char
  deriving DecidableEq

/-- `strconv.ParseUint(_, 10, 64)` -/
def parseUint (s : List Char) : Option Nat :=
  if s = [] || !s.all isDigit then none
  else if decimal s < 2 ^ 64 then some (decimal s)
  else none

def rangeError (s : List Char) : UpdateError :=
  .text ("strconv.ParseUint: parsing " ++ quote (String.ofList s) ++ ": value out of range")

def parseVersion (value : String) : Except UpdateError SemanticVersion :=
  if !versionPattern value then .error (.text "invalid semantic version")
  else
    let core := cut '-' (cut '+' value.toList).1
    match fields '.' core.1 with
    | [x, y, z] =>
      match parseUint x, parseUint y, parseUint z with
      | some major, some minor, some patch => .ok ⟨major, minor, patch, core.2.getD []⟩
      | none, _, _ => .error (rangeError x)
      | some _, none, _ => .error (rangeError y)
      | some _, some _, none => .error (rangeError z)
    | _ => .error (.text "invalid semantic version")

/-- the `switch` of `comparePrerelease` on two different identifiers -/
def compareIdentifiers (a b : List Char) : Ordering :=
  match parseUint a, parseUint b with
  | some an, some bn => if an < bn then .lt else .gt
  | some _, none => .lt
  | none, some _ => .gt
  | none, none => if lexLess a b then .lt else .gt

/-- the loop of `comparePrerelease`; two equal lists are never compared -/
def comparePrerelease : List (List Char) → List (List Char) → Ordering
  | [], [] => .gt
  | [], _ :: _ => .lt
  | _ :: _, [] => .gt
  | a :: as, b :: bs => if a = b then comparePrerelease as bs else compareIdentifiers a b

def SemanticVersion.compare (a b : SemanticVersion) : Ordering :=
  if a.major < b.major then .lt
  else if a.major > b.major then .gt
  else if a.minor < b.minor then .lt
  else if a.minor > b.minor then .gt
  else if a.patch < b.patch then .lt
  else if a.patch > b.patch then .gt
  else if a.pre = b.pre then .eq
  else if a.pre = [] then .gt
  else if b.pre = [] then .lt
  else comparePrerelease (fields '.' a.pre) (fields '.' b.pre)

def compareVersions (left right : String) : Except UpdateError Ordering :=
  match parseVersion left with
  | .error err => .error err
  | .ok a =>
  match parseVersion right with
  | .error err => .error err
  | .ok b => .ok (a.compare b)

/-! ## releases and policies -/

def gatewayAPIContract : String := "gateway-vpn-api-v1"
def mihomoAPIContract : String := "mihomo-local-v1"
structure Release where
  formatVersion : Int := 2
  gatewayVersion : String
  mihomoVersion : String
  os : String := "linux"
  arch : String := "amd64"
  mihomoSHA256 : String
  databaseSchemaMinimum : Int
  databaseSchemaMaximum : Int
  configSchemaGeneration : Int
  hostContractSHA256 : String
  gatewayAPIContract : String := Update.gatewayAPIContract
  mihomoAPIContract : String := Update.mihomoAPIContract
  buildCommit : String
  buildDate : Stamp

structure VerificationPolicy where
  publicKey : List UInt8
  expectedOS : String := ""
  expectedArch : String := ""
  currentGatewayVersion : String := ""
  currentSchemaVersion : Int := 0
  initialInstall : Bool := false
  configGeneration : Int := 0
  currentHostContractSHA256 : String := ""
  gatewayAPIContract : String := ""
  mihomoAPIContract : String := ""
  allowSameVersion : Bool := false

def validateRelease (release : Release) : Except UpdateError Unit :=
  if release.formatVersion ≠ 2 || !versionPattern release.gatewayVersion ||
      !mihomoVersionPattern release.mihomoVersion || release.os ≠ "linux" ||
      release.arch ≠ "amd64" || !digestPattern release.mihomoSHA256 ||
      release.databaseSchemaMinimum < 1 ||
      release.databaseSchemaMaximum < release.databaseSchemaMinimum ||
      release.configSchemaGeneration < 1 || !digestPattern release.hostContractSHA256 ||
      release.gatewayAPIContract ≠ gatewayAPIContract ||
      release.mihomoAPIContract ≠ mihomoAPIContract || !buildCommitPattern release.buildCommit ||
      release.buildDate.parse.all (· = zeroTime) then
    .error (.text "release metadata contract is invalid")
  else .ok ()

def validateCompatibility (release : Release) (policy : VerificationPolicy) :
    Except UpdateError Unit :=
  match validateRelease release with
  | .error err => .error err
  | .ok () =>
  let expectedOS := if policy.expectedOS = "" then "linux" else policy.expectedOS
  let expectedArch := if policy.expectedArch = "" then "amd64" else policy.expectedArch
  if release.os ≠ expectedOS || release.arch ≠ expectedArch then
    .error (.text ("release platform " ++ release.os ++ "/" ++ release.arch ++
      " is incompatible with " ++ expectedOS ++ "/" ++ expectedArch))
  else if policy.initialInstall &&
      (policy.currentGatewayVersion ≠ "" || policy.currentSchemaVersion ≠ 0) then
    .error (.text "initial-install verification cannot claim an installed version or schema")
  else if !policy.initialInstall &&
      (policy.currentSchemaVersion < release.databaseSchemaMinimum ||
        policy.currentSchemaVersion > release.databaseSchemaMaximum) then
    .error (.text "current database schema is outside the candidate compatibility range")
  else if policy.configGeneration > 0 &&
      release.configSchemaGeneration ≠ policy.configGeneration then
    .error (.text "candidate config schema generation is incompatible")
  else if policy.currentHostContractSHA256 ≠ "" &&
      release.hostContractSHA256 ≠ policy.currentHostContractSHA256 then
    .error (.text "candidate host lifecycle contract requires a signed installer upgrade")
  else if policy.gatewayAPIContract ≠ "" &&
      release.gatewayAPIContract ≠ policy.gatewayAPIContract then
    .error (.text "candidate Gateway API contract is incompatible")
  else if policy.mihomoAPIContract ≠ "" &&
      release.mihomoAPIContract ≠ policy.mihomoAPIContract then
    .error (.text "candidate Mihomo API contract is incompatible")
  else if policy.currentGatewayVersion = "" then .ok ()
  else match compareVersions release.gatewayVersion policy.currentGatewayVersion with
    | .error _ => .error (.text "current or candidate Gateway version is invalid")
    | .ok comparison =>
      if comparison = .lt || (comparison = .eq && !policy.allowSameVersion) then
        .error (.text "release is not a forward Gateway VPN update")
      else .ok ()

/-! ## where an update comes from -/

structure Source where
  kind : String
  channel : String := ""
  reference : String

def sourceUpload : String := "WEBUI_UPLOAD"
def sourceGitHubChannel : String := "GITHUB_CHANNEL"
def sourceMihomoGitHub : String := "MIHOMO_GITHUB_CHANNEL"
def sourceAutomaticGitHub : String := "AUTOMATIC_GITHUB_CHANNEL"
def sourceExactHTTPS : String := "EXACT_HTTPS"

def validSource (source : Source) : Bool :=
  let channelled := source.kind = sourceGitHubChannel || source.kind = sourceMihomoGitHub ||
    source.kind = sourceAutomaticGitHub
  (source.kind = sourceUpload || source.kind = sourceExactHTTPS || channelled) &&
    (if channelled then source.channel = "stable" || source.channel = "testing"
      else source.channel = "") &&
    (let reference := trimSpace source.reference
     reference ≠ "" && byteLength reference ≤ 256 &&
      !reference.toList.any (fun c => c = '\r' || c = '\n' || c = '\t' || c = '?' || c = '@') &&
      reference = source.reference)

def validSourceFields (kind channel reference : String) : Bool :=
  (kind = "" && channel = "" && reference = "") || validSource ⟨kind, channel, reference⟩

end GatewayVpn.Update
