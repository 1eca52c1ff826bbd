import GatewayVpn.Durable.Logic
import GatewayVpn.Access.Transition
import GatewayVpn.Access.Freshness

/-!
# Access: the reconciler

`Reconciler.Reconcile` compares what the gateway should do with what the data plane does, and
activates a path or blocks.  `ActivateExact` activates the path that an operator asked for.  Both
are procedures over the calls they make on the observer, the inventory, the repositories and the
actuator.

Other components write the evidence and the settings at any time, so every call reads the `Input`
of its own moment; the runtime row and the memory of the selection are written by the reconciler
alone.  The `World` keeps a list of the calls of the actuator and of `State.Block`, newest first,
each with its moment.

The required dependencies are the machine itself, so the check that they are not nil is left out.
-/

namespace GatewayVpn.Access

open Durable

/-! ## the world -/

structure Observed where
  firewallReady : Bool := true
  mihomoReady : Bool := true
  tunReady : Bool := true
  methodKind : MethodKind := .other ""
  activePathID : String := ""
  activeDirectPathID : String := ""
  activeNodeID : String := ""

/-- what a call finds outside the reconciler -/
structure Input where
  now : Time
  observed : Observed
  database : Database
  policy : Policy
  /-- `temporary_direct_only` -/
  directOnly : Bool := false

inductive Call where
  | actuatorBlock (reason : String) (ok : Bool)
  | stateBlock (gatewayState : GatewayState) (reason : String) (ok : Bool)
  | activate (candidate : ActivationCandidate) (ok : Bool)
  deriving DecidableEq

structure World where
  runtime : Snapshot
  selection : SelectionRuntime := {}
  startupRecovery : Bool := false
  calls : List (Nat × Call) := []
  inputs : Nat → Input
  ticks : Nat := 0

namespace World

section
variable (w : World)

def input : Input := w.inputs w.ticks

def note (call : Call) : World := { w with calls := (w.ticks, call) :: w.calls }

def tick : World := { w with ticks := w.ticks + 1 }

def wait (n : Nat) : World := { w with ticks := w.ticks + n }

def commit (r : Committed) : Committed × World :=
  (r, { w with runtime := r.row w.runtime })

def remember (r : Except Fault SelectionRuntime) : Except Fault Unit × World :=
  match r with
  | .error err => (.error err, w)
  | .ok selection => (.ok (), { w with selection })

end

end World

/-! ## the calls -/

def Request.finish (db : Database) (now : Time) (current : Snapshot) : Request → Committed
  | .node pathID nodeID policyGeneration routeGeneration =>
    finishNodeActivation db now current pathID nodeID policyGeneration routeGeneration
  | .direct pathID policyGeneration routeGeneration =>
    finishDirectActivation db now current pathID policyGeneration routeGeneration

inductive Op where
  | observe
  | stateGet
  | hasRequiredTargets
  | hasReadyUplinks
  | getPolicy
  | getSelectionRuntime
  | candidates (directOnly : Bool)
  | now
  | trackPending (candidateKey : String)
  | clearPending
  | markSwitched (reason : String)
  | beginActivation (request : Request)
  | finishActivation (request : Request)
  | finishPolicyVerification (generation : Int)
  | recoverTargetDegraded (pathID nodeID : String) (policyGeneration routeGeneration : Int)
  | freshNodeCandidate (pathID nodeID : String)
  | targetDegradedCandidate (pathID nodeID : String)
  | bestFreshCandidate
  | appendEvent
  | actuatorBlock (reason : String)
  | actuatorActivate (candidate : ActivationCandidate)
  | stateBlock (gatewayState : GatewayState) (reason : String)
  | startupRecovery
  | clearStartupRecovery

@[reducible] def Op.Ret : Op → Type
  | .observe => Except Fault Observed
  | .stateGet => Except Fault Snapshot
  | .hasRequiredTargets => Except Fault Bool
  | .hasReadyUplinks => Except Fault Bool
  | .getPolicy => Except Fault Policy
  | .getSelectionRuntime => Except Fault (SelectionRuntime × Bool)
  | .candidates _ => Except Fault (List Candidate)
  | .now => Time
  | .beginActivation _ => Committed
  | .finishActivation _ => Committed
  | .finishPolicyVerification _ => Committed
  | .recoverTargetDegraded _ _ _ _ => Committed
  | .freshNodeCandidate _ _ => Except Fault ActivationCandidate
  | .targetDegradedCandidate _ _ => Except Fault ActivationCandidate
  | .bestFreshCandidate => Except Fault ActivationCandidate
  | .stateBlock _ _ => Committed
  | .startupRecovery => Bool
  | .clearStartupRecovery => Unit
  | _ => Except Fault Unit

abbrev Prog (α : Type) := Proc Op Op.Ret α

def noted {α : Type} (call : Bool → Call) (r : Except Fault α × World) : Except Fault α × World :=
  (r.1, r.2.note (call r.1.isOk))

def effect : (o : Op) → Fate → World → o.Ret × World
  | .observe, f, w => f.deliver (.text "observe data plane") (.ok w.input.observed, w) w
  | .stateGet, f, w => f.deliver (.text "scan runtime state") (.ok w.runtime, w) w
  | .hasRequiredTargets, f, w =>
    f.deliver (.text "count required bypass targets") (.ok (hasRequiredTargets w.input.database), w)
      w
  | .hasReadyUplinks, f, w =>
    f.deliver (.text "count ready uplinks") (.ok (hasReadyUplinks w.input.database), w) w
  | .getPolicy, f, w => f.deliver (.text "read access policy") (.ok w.input.policy, w) w
  | .getSelectionRuntime, f, w =>
    f.deliver (.text "read access selection runtime") (.ok (w.selection, w.input.directOnly), w) w
  | .candidates directOnly, f, w =>
    f.deliver (.text "list access candidates")
      (candidates w.input.database w.input.now directOnly, w) w
  | .now, _, w => (w.input.now, w)
  | .trackPending candidateKey, f, w =>
    f.deliver (.text "track pending access candidate")
      (w.remember (trackPendingCandidate w.input.now w.selection candidateKey)) w
  | .clearPending, f, w =>
    f.deliver (.text "clear pending access candidate")
      (w.remember (.ok (clearPendingCandidate w.selection))) w
  | .markSwitched reason, f, w =>
    f.deliver (.text "record access switch")
      (w.remember (markSwitched w.input.now w.selection reason)) w
  | .beginActivation request, f, w =>
    f.deliver (.text "record activation intent")
      (w.commit (request.begin w.input.database w.input.now w.runtime)) w
  | .finishActivation request, f, w =>
    f.deliver (.text "record active path")
      (w.commit (request.finish w.input.database w.input.now w.runtime)) w
  | .finishPolicyVerification generation, f, w =>
    f.deliver (.text "finish policy verification")
      (w.commit (finishPolicyVerification w.input.database w.input.now w.runtime generation)) w
  | .recoverTargetDegraded pathID nodeID policyGeneration routeGeneration, f, w =>
    f.deliver (.text "recover target-degraded runtime")
      (w.commit (recoverTargetDegraded w.input.database w.input.now w.runtime pathID nodeID
        policyGeneration routeGeneration)) w
  | .freshNodeCandidate pathID nodeID, f, w =>
    f.deliver (.text "read fresh exact node candidate")
      (freshNodeCandidate w.input.database (textAfter w.input.now) pathID nodeID, w) w
  | .targetDegradedCandidate pathID nodeID, f, w =>
    f.deliver (.text "read target-degraded exact candidate")
      (targetDegradedCandidate w.input.database (textAfter w.input.now) pathID nodeID, w) w
  | .bestFreshCandidate, f, w =>
    f.deliver (.text "read fresh path candidate")
      (bestFreshCandidate w.input.database (textAfter w.input.now), w) w
  | .appendEvent, f, w => f.deliver (.text "insert event") (.ok (), w) w
  | .actuatorBlock reason, f, w =>
    noted (.actuatorBlock reason) (f.deliver (.text "block data plane") (.ok (), w) w)
  | .actuatorActivate candidate, f, w =>
    noted (.activate candidate) (f.deliver (.text "activate data plane") (.ok (), w) w)
  | .stateBlock gatewayState reason, f, w =>
    noted (.stateBlock gatewayState reason)
      (f.deliver (.text "record blocked runtime state")
        (w.commit (block w.input.now w.runtime gatewayState reason)) w)
  | .startupRecovery, _, w => (w.startupRecovery, w)
  | .clearStartupRecovery, _, w => ((), { w with startupRecovery := false })

/-- every call happens at a moment of its own -/
def exec (o : Op) (f : Fate) (w : World) : o.Ret × World :=
  ((effect o f w).1, (effect o f w).2.tick)

/-! ## the two ways in which a round ends -/

structure Result where
  action : String := ""
  candidate : ActivationCandidate := {}

structure Reply where
  result : Result
  err : Option Fault := none

def errorOf {α : Type} : Except Fault α → Option Fault
  | .error err => some err
  | .ok _ => none

def joinErrors : List (Option Fault) → Option Fault
  | [] => none
  | none :: rest => joinErrors rest
  | some err :: rest =>
    match joinErrors rest with
    | none => some err
    | some errs => some (.joined err errs)

def blockWith (gatewayState : GatewayState) (reason : String) (cause : Option Fault) : Prog Reply :=
  .call .clearStartupRecovery fun _ =>
  .call (.actuatorBlock reason) fun actuator =>
  .call (.stateBlock gatewayState reason) fun stored =>
  .done ⟨{ action := "PATH_BLOCKED" }, joinErrors [cause, errorOf actuator, errorOf stored]⟩

def ActivationCandidate.request (candidate : ActivationCandidate) : Request :=
  if candidate.methodKind = .direct then
    .direct candidate.pathID candidate.policyGeneration candidate.routeGeneration
  else .node candidate.pathID candidate.nodeID candidate.policyGeneration
    candidate.routeGeneration

def activate (candidate : ActivationCandidate) : Prog Reply :=
  .call (.beginActivation candidate.request) fun
  | .error err => blockWith .blocked "ACTIVATION_INTENT_REJECTED" (some err)
  | .ok (intent, _) =>
  let started := { candidate with configGeneration := intent.configGeneration }
  .call (.actuatorActivate started) fun
  | .error err => blockWith .blocked "PATH_ACTIVATION_FAILED" (some err)
  | .ok () =>
  .call (.finishActivation started.request) fun
  | .error err => blockWith .blocked "ACTIVATION_COMMIT_REJECTED" (some err)
  | .ok _ => .done ⟨{ action := "PATH_ACTIVATED", candidate := started }, none⟩

/-! ## what is compared -/

def activeCandidateKey (snapshot : Snapshot) : String :=
  match snapshot.activeMethodKind with
  | .direct => snapshot.activeDirectPathID
  | .subscription =>
    if snapshot.activePathID ≠ "" && snapshot.activeNodeID ≠ "" then
      snapshot.activePathID ++ ":" ++ snapshot.activeNodeID
    else ""
  | .other _ => ""

section
variable (observed : Observed)

def observedRuntimeMatches (snapshot : Snapshot) : Bool :=
  if snapshot.pathState ≠ .active || observed.methodKind ≠ snapshot.activeMethodKind then false
  else match snapshot.activeMethodKind with
  | .direct => observed.activeDirectPathID = snapshot.activeDirectPathID
  | .subscription =>
    observed.activePathID = snapshot.activePathID && observed.activeNodeID = snapshot.activeNodeID
  | .other _ => false

def observedCandidateMatches (snapshot : Snapshot) (candidate : Candidate) : Bool :=
  observedRuntimeMatches observed snapshot && candidate.key = activeCandidateKey snapshot

def candidateFromAccess (candidate : Candidate) : ActivationCandidate :=
  { key := candidate.key, methodID := candidate.methodID, methodKind := candidate.methodKind,
    qualityClass := candidate.quality, pathID := candidate.pathID, uplinkID := candidate.uplinkID,
    subscriptionID := candidate.subscriptionID, nodeID := candidate.nodeID,
    policyGeneration := candidate.policyGeneration, routeGeneration := candidate.routeGeneration }

def carried (items : List Candidate) : List Candidate :=
  items.filter fun item =>
    !(item.methodKind = .subscription && (!observed.mihomoReady || !observed.tunReady))

def currentHealthy (desired : Snapshot) (items : List Candidate) : Bool :=
  items.foldl (fun healthy item =>
    if item.key = activeCandidateKey desired then observedCandidateMatches observed desired item
    else healthy) false

def hardFailure (desired : Snapshot) : Bool :=
  activeCandidateKey desired ≠ "" && (desired.pathState = .verifying ||
    desired.pathState = .active && !observedRuntimeMatches observed desired)

end

/-! ## both access repositories are set -/

def switchTo (startup : Bool) (winner : Candidate) (reason : String) : Prog Reply :=
  (activate { candidateFromAccess winner with startupRecovery := startup }).bind fun reply =>
  match reply.err with
  | some _ => .call .clearStartupRecovery fun _ => .done reply
  | none =>
    .call (.markSwitched (if startup then "STARTUP_MINIMAL_RECOVERY" else reason)) fun
    | .error err => blockWith .blocked "ACCESS_SWITCH_RECORD_FAILED" (some err)
    | .ok () =>
      let action := if startup then "STARTUP_MINIMAL_PATH_RESTORED" else "ACCESS_METHOD_ACTIVATED"
      .call .clearStartupRecovery fun _ => .done ⟨{ reply.result with action }, none⟩

def settle (desired : Snapshot) (healthy startup : Bool) (winner : Candidate)
    (transition : TransitionDecision) : Prog Reply :=
  if winner.key = activeCandidateKey desired && healthy then
    .done ⟨{ action := "NO_CHANGE", candidate := candidateFromAccess winner }, none⟩
  else if !transition.allow then
    .done ⟨{ action := transition.reason, candidate := candidateFromAccess winner }, none⟩
  else switchTo startup winner transition.reason

/-- the end of a unified round: the transition has been decided -/
def carryOut (desired : Snapshot) (healthy startup : Bool) (winner : Candidate)
    (transition : TransitionDecision) : Prog Reply :=
  if transition.trackPending then
    .call (.trackPending winner.key) fun
    | .error err => blockWith .blocked "ACCESS_PENDING_STATE_FAILED" (some err)
    | .ok () =>
      .done ⟨{ action := transition.reason, candidate := candidateFromAccess winner }, none⟩
  else if transition.clearPending then
    .call .clearPending fun
    | .error err => blockWith .blocked "ACCESS_PENDING_CLEAR_FAILED" (some err)
    | .ok () => settle desired healthy startup winner transition
  else settle desired healthy startup winner transition

section
variable (observed : Observed)

section
variable (desired : Snapshot)

def transitionInput (filtered : List Candidate)
    (winner : Candidate) (policy : Policy) (runtime : SelectionRuntime) (now : Time) :
    TransitionInput :=
  { currentKey := activeCandidateKey desired, proposedKey := winner.key,
    currentHealthy := currentHealthy observed desired filtered,
    hardFailure := hardFailure observed desired, policy, runtime, now }

def dropStartup (drop : Bool) (next : Prog Reply) : Prog Reply :=
  if drop then .call .clearStartupRecovery fun _ => next else next

def choose (policy : Policy)
    (runtime : SelectionRuntime) (items : List Candidate) : Prog Reply :=
  .call .startupRecovery fun flag =>
  let startup := flag && desired.pathState = .verifying && activeCandidateKey desired ≠ ""
  dropStartup (flag && !startup) <|
  let filtered := carried observed items
  match rank filtered (activeCandidateKey desired) with
  | .error .noCandidate =>
    .call .clearStartupRecovery fun _ =>
    blockWith .noWorkingSubscription "NO_FRESH_ACCESS_METHOD" none
  | .error err => blockWith .blocked "ACCESS_RANKING_FAILED" (some err)
  | .ok decision =>
  let winner := decision.candidate
  let replaced := startup && winner.key ≠ activeCandidateKey desired
  dropStartup replaced <|
  .call .now fun now =>
  match evaluateTransition (transitionInput observed desired filtered winner policy runtime now) with
  | .error err => blockWith .blocked "ACCESS_TRANSITION_FAILED" (some err)
  | .ok transition =>
    carryOut desired (currentHealthy observed desired filtered) (startup && !replaced) winner
      transition

/-- the end of a round in which a new policy is verified, when the tuple is not yet confirmed -/
def replacePolicy (expired : Bool) (eligible : List Candidate) (currentKey : String) : Prog Reply :=
  match rank eligible currentKey with
  | .ok decision =>
    (activate (candidateFromAccess decision.candidate)).bind fun reply =>
      match reply.err with
      | some _ => .done reply
      | none =>
        .call (.markSwitched "POLICY_REPLACEMENT") fun
        | .error err => blockWith .blocked "ACCESS_SWITCH_RECORD_FAILED" (some err)
        | .ok () => .done ⟨{ reply.result with action := "ACCESS_METHOD_ACTIVATED" }, none⟩
  | .error .noCandidate =>
    if !expired then .done ⟨{ action := "POLICY_VERIFICATION_PENDING" }, none⟩
    else blockWith .noWorkingSubscription "POLICY_GRACE_EXPIRED" none
  | .error err => blockWith .blocked "ACCESS_RANKING_FAILED" (some err)

def reconcileUnifiedPolicyTransition (hasTargets : Bool) : Prog Reply :=
  match desired.policyTransitionDeadline.parse with
  | none => blockWith .blocked "POLICY_DEADLINE_INVALID" (some (.text "parsing time"))
  | some deadline =>
  .call .now fun now =>
  let expired : Bool := deadline ≤ now
  if !observedRuntimeMatches observed desired then
    blockWith .blocked "POLICY_ACTIVE_TUPLE_LOST" none
  else if !hasTargets then
    if !expired then .done ⟨{ action := "POLICY_VERIFICATION_PENDING" }, none⟩
    else blockWith .noBypassTargets "NO_BYPASS_TARGETS_AFTER_POLICY_GRACE" none
  else .call .getSelectionRuntime fun
  | .error err => blockWith .blocked "ACCESS_SELECTION_RUNTIME_UNAVAILABLE" (some err)
  | .ok (_, directOnly) =>
  .call (.candidates directOnly) fun
  | .error err => blockWith .blocked "ACCESS_CANDIDATE_INVENTORY_FAILED" (some err)
  | .ok items =>
  let eligible := carried observed items
  -- the loop stops at the first candidate that is the active tuple under the new policy
  match eligible.find? fun item => item.key = activeCandidateKey desired &&
      item.methodKind = .subscription &&
      item.policyGeneration = desired.policyTransitionGeneration with
  | some item =>
    .call (.finishPolicyVerification desired.policyTransitionGeneration) fun
    | .error err => blockWith .blocked "POLICY_VERIFICATION_COMMIT_FAILED" (some err)
    | .ok _ => .done ⟨{ action := "POLICY_VERIFIED", candidate := candidateFromAccess item }, none⟩
  | none => replacePolicy expired eligible (activeCandidateKey desired)

def reconcileUnified (hasTargets : Bool) : Prog Reply :=
  if desired.policyTransitionActive then
    .call .clearStartupRecovery fun _ =>
    reconcileUnifiedPolicyTransition observed desired hasTargets
  else if !hasTargets then blockWith .noBypassTargets "NO_BYPASS_TARGETS" none
  else .call .getPolicy fun
  | .error err => blockWith .blocked "ACCESS_POLICY_UNAVAILABLE" (some err)
  | .ok policy =>
  .call .getSelectionRuntime fun
  | .error err => blockWith .blocked "ACCESS_SELECTION_RUNTIME_UNAVAILABLE" (some err)
  | .ok (runtime, directOnly) =>
  .call (.candidates directOnly) fun
  | .error err => blockWith .blocked "ACCESS_CANDIDATE_INVENTORY_FAILED" (some err)
  | .ok items => choose observed desired policy runtime items

end

end

/-! ## neither access repository is set -/

def replaceLegacyPolicy (expired : Bool) : Prog Reply :=
  .call .bestFreshCandidate fun
  | .ok candidate => activate candidate
  | .error .notFound =>
    if !expired then .done ⟨{ action := "POLICY_VERIFICATION_PENDING" }, none⟩
    else blockWith .noWorkingSubscription "POLICY_GRACE_EXPIRED" none
  | .error err => blockWith .blocked "PATH_INVENTORY_FAILED" (some err)

section
variable (observed : Observed)

section
variable (desired : Snapshot)

def reconcilePolicyTransition (hasTargets : Bool) : Prog Reply :=
  match desired.policyTransitionDeadline.parse with
  | none => blockWith .blocked "POLICY_DEADLINE_INVALID" (some (.text "parsing time"))
  | some deadline =>
  .call .now fun now =>
  let expired : Bool := deadline ≤ now
  if observed.activePathID ≠ desired.activePathID || observed.activeNodeID ≠ desired.activeNodeID
  then blockWith .blocked "POLICY_ACTIVE_TUPLE_LOST" none
  else if !hasTargets then
    if !expired then .done ⟨{ action := "POLICY_VERIFICATION_PENDING" }, none⟩
    else blockWith .noBypassTargets "NO_BYPASS_TARGETS_AFTER_POLICY_GRACE" none
  else .call (.freshNodeCandidate desired.activePathID desired.activeNodeID) fun
  | .ok active =>
    if active.policyGeneration = desired.policyTransitionGeneration then
      .call (.finishPolicyVerification desired.policyTransitionGeneration) fun
      | .error .policyGraceExpired =>
        blockWith .noWorkingSubscription "POLICY_GRACE_EXPIRED" none
      | .error err => blockWith .blocked "POLICY_VERIFICATION_COMMIT_FAILED" (some err)
      | .ok _ =>
        let candidate := { active with configGeneration := desired.configGeneration }
        .done ⟨{ action := "POLICY_VERIFIED", candidate }, none⟩
    else replaceLegacyPolicy expired
  | .error .notFound => replaceLegacyPolicy expired
  | .error err => blockWith .blocked "ACTIVE_POLICY_INVENTORY_FAILED" (some err)

def activateBest : Prog Reply :=
  .call .bestFreshCandidate fun
  | .ok candidate => activate candidate
  | .error .notFound => blockWith .noWorkingSubscription "NO_FRESH_QUALIFIED_PATH" none
  | .error err => blockWith .blocked "PATH_INVENTORY_FAILED" (some err)

def searchLegacy : Prog Reply :=
  if desired.pathState = .verifying && desired.activePathID ≠ "" then
    .call (.freshNodeCandidate desired.activePathID desired.activeNodeID) fun
    | .ok candidate => if candidate.pathID = "" then activateBest else activate candidate
    | .error _ => activateBest
  else activateBest

def keepLegacy : Prog Reply :=
  if desired.pathState = .active && desired.activePathID ≠ "" &&
      observed.activePathID = desired.activePathID &&
      observed.activeNodeID = desired.activeNodeID then
    .call (.freshNodeCandidate desired.activePathID desired.activeNodeID) fun
    | .ok candidate => .done ⟨{ action := "NO_CHANGE", candidate }, none⟩
    | .error .notFound => searchLegacy desired
    | .error err => blockWith .blocked "ACTIVE_PATH_VALIDATION_FAILED" (some err)
  else searchLegacy desired

def degradedLegacy : Prog Reply :=
  if desired.gatewayState = .degradedTarget && desired.pathState = .active &&
      desired.activePathID ≠ "" && desired.activeNodeID ≠ "" &&
      observed.activePathID = desired.activePathID &&
      observed.activeNodeID = desired.activeNodeID then
    .call (.freshNodeCandidate desired.activePathID desired.activeNodeID) fun
    | .ok fresh =>
      .call (.recoverTargetDegraded fresh.pathID fresh.nodeID fresh.policyGeneration
        fresh.routeGeneration) fun
      | .error err => blockWith .blocked "TARGET_DEGRADED_RECOVERY_FAILED" (some err)
      | .ok _ => .done ⟨{ action := "TARGET_DEGRADED_RECOVERED", candidate := fresh }, none⟩
    | .error .notFound =>
      .call (.targetDegradedCandidate desired.activePathID desired.activeNodeID) fun
      | .ok degraded =>
        .done ⟨{ action := "NO_CHANGE_DEGRADED_TARGET", candidate := degraded }, none⟩
      | .error .notFound => keepLegacy observed desired
      | .error err => blockWith .blocked "TARGET_DEGRADED_VALIDATION_FAILED" (some err)
    | .error err => blockWith .blocked "TARGET_DEGRADED_VALIDATION_FAILED" (some err)
  else keepLegacy observed desired

def reconcileLegacy (hasTargets : Bool) : Prog Reply :=
  if !observed.mihomoReady || !observed.tunReady then
    blockWith .blocked "MIHOMO_OR_TUN_NOT_READY" none
  else if desired.policyTransitionActive then
    reconcilePolicyTransition observed desired hasTargets
  else if !hasTargets then blockWith .noBypassTargets "NO_BYPASS_TARGETS" none
  else degradedLegacy observed desired

end

end

/-! ## the entry points -/

structure Reconciler where
  accessPaths : Bool
  accessPolicy : Bool

def unified : Reconciler := ⟨true, true⟩

def Reconciler.reconcile (r : Reconciler) : Prog Reply :=
  .call .observe fun
  | .error err => blockWith .blocked "OBSERVATION_FAILED" (some err)
  | .ok observed =>
  if !observed.firewallReady then blockWith .blocked "FIREWALL_NOT_READY" none
  else .call .stateGet fun
  | .error err => blockWith .blocked "RUNTIME_STATE_UNAVAILABLE" (some err)
  | .ok desired =>
  .call .hasRequiredTargets fun
  | .error err => blockWith .blocked "TARGET_INVENTORY_FAILED" (some err)
  | .ok hasTargets =>
  .call .hasReadyUplinks fun
  | .error err => blockWith .blocked "UPLINK_INVENTORY_FAILED" (some err)
  | .ok hasUplinks =>
  if !hasUplinks then blockWith .allUplinksOffline "ALL_UPLINKS_OFFLINE" none
  else if r.accessPaths || r.accessPolicy then
    if !r.accessPaths || !r.accessPolicy then
      blockWith .blocked "UNIFIED_POLICY_UNAVAILABLE"
        (some (.text "both unified access repositories are required"))
    else reconcileUnified observed desired hasTargets
  else reconcileLegacy observed desired hasTargets

def activateExact (pathID nodeID : String) : Prog Reply :=
  let refuse (err : Fault) : Prog Reply := .done ⟨{}, some err⟩
  if trimSpace pathID = "" || trimSpace nodeID = "" then
    refuse (.text "path and node ids are required for manual activation")
  else .call .hasRequiredTargets fun
  | .error err => refuse (.within "read target inventory before manual activation" err)
  | .ok hasTargets =>
  if !hasTargets then
    refuse (.text "manual activation requires at least one enabled required target")
  else .call (.freshNodeCandidate pathID nodeID) fun
  | .error err => refuse err
  | .ok candidate =>
  .call .observe fun
  | .error err => refuse (.within "observe data plane before manual activation" err)
  | .ok observed =>
  if !observed.firewallReady || !observed.mihomoReady || !observed.tunReady then
    refuse (.text "manual activation is unavailable until firewall, Mihomo, and TUN are ready")
  else .call .stateGet fun
  | .error err => refuse (.within "read runtime before manual activation" err)
  | .ok desired =>
  if desired.pathState = .active && desired.activePathID = pathID &&
      desired.activeNodeID = nodeID && observed.activePathID = pathID &&
      observed.activeNodeID = nodeID then
    .done ⟨{ action := "NO_CHANGE", candidate }, none⟩
  else .call .appendEvent fun
  | .error err => refuse (.within "audit manual activation request" err)
  | .ok () => activate candidate

end GatewayVpn.Access
