import GatewayVpn.Calendar
import GatewayVpn.Durable.Cut

/-!
# The recovery of physical modems

The package `modemrecovery`: a policy, a runtime row and the attempts of each HiLink uplink, and the
controller that observes failures, climbs a ladder of recovery actions and records every attempt.

Each database call of the controller is one transaction.  It has a fate: it takes place, it fails
without an effect, or it reports an error after it was committed; a cancelled context makes every
later call of the request fail.  A process that dies between two calls leaves what the same request
leaves when its next call fails, so the fates cover the crashes too.

Times are instants; the columns hold their RFC 3339 text, which is read back as the same instant.
A reading of the clock that goes only into `updated_at` is left out, as is that column, and so are
the free texts that nothing reads (`last_outcome_code`).
-/

namespace GatewayVpn.ModemRecovery

open Durable

/-! ## failures, actions, attempts -/

inductive Failure where
  | deviceAbsent
  | carrierDown
  | dhcpLeaseMissing
  | managementUnreachable
  deriving DecidableEq

def Failure.code : Failure → String
  | .deviceAbsent => "DEVICE_ABSENT"
  | .carrierDown => "CARRIER_DOWN"
  | .dhcpLeaseMissing => "DHCP_LEASE_MISSING"
  | .managementUnreachable => "HILINK_MANAGEMENT_UNREACHABLE"

/-- `validFailure`: the failure that a text names -/
def validFailure (value : String) : Option Failure :=
  [Failure.deviceAbsent, .carrierDown, .dhcpLeaseMissing, .managementUnreachable].find?
    (·.code = value)

inductive Action where
  | dhcpRenew
  | hiLinkAPIReconnect
  | mobileSessionRestart
  | usbDriverRebind
  | usbDeviceReset
  | usbPortPowerCycle
  deriving DecidableEq

inductive RequestedBy where
  | system
  | user
  deriving DecidableEq

inductive Status where
  | running
  | succeeded
  | failed
  | deviceRemoved
  | suppressed
  deriving DecidableEq

inductive Error where
  | noPhysicalFailure
  | actionUnsupported
  | deviceRemoved
  | staleGeneration
  | budgetExhausted
  | notFound
  | database
  | text (message : String)
  deriving DecidableEq

def validID (value : String) : Bool :=
  charset 128 (fun c => isLower c || isUpper c || isDigit c || c ∈ "_.:-".toList) (trimSpace value)

def validCode (value : String) : Bool :=
  charset 128 (fun c => isUpper c || isDigit c || c = '_') value

/-! ## the policy -/

/-- the columns of `modem_recovery_policy` that an update sets -/
structure Settings where
  enabled : Bool := true
  dhcpRetryAfterSeconds : Int := 30
  apiRetryAfterSeconds : Int := 60
  mobileSessionRestartAfterSeconds : Int := 120
  usbRebindAfterSeconds : Int := 300
  usbResetAfterSeconds : Int := 600
  usbResetCooldownSeconds : Int := 900
  maxUSBResetsPerWindow : Int := 3
  usbResetWindowSeconds : Int := 3600
  allowHubPortPowerCycle : Bool := false
  deriving DecidableEq

def Settings.Checked (s : Settings) : Prop :=
  (5 ≤ s.dhcpRetryAfterSeconds ∧ s.dhcpRetryAfterSeconds ≤ 3600) ∧
  (5 ≤ s.apiRetryAfterSeconds ∧ s.apiRetryAfterSeconds ≤ 3600) ∧
  (10 ≤ s.mobileSessionRestartAfterSeconds ∧ s.mobileSessionRestartAfterSeconds ≤ 7200) ∧
  (30 ≤ s.usbRebindAfterSeconds ∧ s.usbRebindAfterSeconds ≤ 86400) ∧
  (60 ≤ s.usbResetAfterSeconds ∧ s.usbResetAfterSeconds ≤ 86400) ∧
  (60 ≤ s.usbResetCooldownSeconds ∧ s.usbResetCooldownSeconds ≤ 86400) ∧
  (0 ≤ s.maxUSBResetsPerWindow ∧ s.maxUSBResetsPerWindow ≤ 20) ∧
  (300 ≤ s.usbResetWindowSeconds ∧ s.usbResetWindowSeconds ≤ 86400)

instance (s : Settings) : Decidable s.Checked := inferInstanceAs (Decidable (_ ∧ _))

/-- a row of `modem_recovery_policy` -/
structure Policy extends Settings where
  generation : Int
  checked : toSettings.Checked
  positive : 0 < generation

def validatePolicyUpdate (input : Settings) : Except Error Unit :=
  if ¬ input.Checked then
    .error (.text "modem recovery policy value is outside the supported range")
  else if input.dhcpRetryAfterSeconds > input.usbRebindAfterSeconds ∨
      input.apiRetryAfterSeconds > input.mobileSessionRestartAfterSeconds ∨
      input.mobileSessionRestartAfterSeconds > input.usbRebindAfterSeconds ∨
      input.usbRebindAfterSeconds > input.usbResetAfterSeconds then
    .error (.text
      "modem recovery ladder delays must progress from safe retries to USB reset")
  else .ok ()

/-- the policy that the trigger on `hilink_modems` inserts -/
def Policy.default : Policy :=
  { generation := 1, checked := by decide, positive := by decide }

/-! ## the tables -/

/-- the `state` column; the reason of an observed failure is encoded in it -/
inductive State where
  | idle
  | observing (failure : Failure)
  | running
  deriving DecidableEq

/-- `reasonFromState` -/
def State.failureReason : State → Option Failure
  | .observing failure => some failure
  | _ => none

/-- a row of `modem_recovery_runtime` -/
structure Runtime where
  policyGeneration : Int := 1
  state : State := .idle
  failureStartedAt : Option Time := none
  cooldownUntil : Option Time := none
  budgetWindowStartedAt : Option Time := none
  usbResetsInWindow : Int := 0
  activeAttemptID : Option String := none
  deriving DecidableEq

/-- a row of `modem_recovery_attempts` -/
structure Attempt where
  id : String
  uplinkID : String
  policyGeneration : Int
  action : Action
  requestedBy : RequestedBy
  status : Status
  reasonCode : String
  failureReason : Failure
  startedAt : Time
  finishedAt : Option Time := none
  deriving DecidableEq

inductive Event where
  | started (uplinkID attemptID : String) (time : Time)
  | finished (uplinkID attemptID : String) (time cooldown : Time)
  | healthy (uplinkID : String) (time : Time)
  | policyUpdated (uplinkID : String) (time : Time)
  deriving DecidableEq

structure World where
  policies : String → Option Policy
  runtimes : String → Option Runtime
  attempts : List Attempt := []
  events : List Event := []
  clock : Nat → Time
  reads : Nat := 0
  random : Nat → List UInt8
  draws : Nat := 0

namespace World

variable (w : World)

def now : Time := w.clock w.reads

def tick : World := { w with reads := w.reads + 1 }

def setRuntime (uplinkID : String) (r : Runtime) : World :=
  { w with runtimes := Function.update w.runtimes uplinkID (some r) }

def record (e : Event) : World := { w with events := e :: w.events }

end World

structure Snapshot where
  policy : Policy
  runtime : Runtime
  attempts : List Attempt

def recent (a b : Attempt) : Bool :=
  let started (x : Attempt) : List Char := rfc3339Nano x.startedAt
  lexLess (started b) (started a) ||
    (started a = started b && !lexLess a.id.toList b.id.toList)

/-- `Snapshot`, with a limit between 1 and 100 -/
def snapshot (uplinkID : String) (limit : Nat) (w : World) : Except Error Snapshot :=
  match w.policies uplinkID, w.runtimes uplinkID with
  | some policy, some runtime =>
    .ok { policy, runtime,
          attempts := ((w.attempts.filter (·.uplinkID = uplinkID)).insertionSort
            (fun a b => recent a b = true)).take limit }
  | _, _ => .error .notFound

/-! ## the repository -/

/-- a transaction under a fate: an error of its own, or of the database, leaves the tables alone -/
def transact {α : Type} (f : Fate) (t : World → Except Error (α × World)) (w : World) :
    Except Error α × World :=
  f.deliver .database
    (match t w with
      | .ok (a, v) => (.ok a, v)
      | .error e => (.error e, w)) w

section
variable (uplinkID : String)

def observeHealthy (w : World) : Except Error (Unit × World) :=
  if !validID uplinkID then
    .error (.text "valid modem recovery repository and uplink id are required")
  else
    match w.runtimes uplinkID with
    | none => .error .notFound
    | some runtime =>
      if runtime.activeAttemptID.isSome then .error .notFound
      else
        let row := { runtime with state := .idle, failureStartedAt := none, cooldownUntil := none }
        .ok ((), ((w.setRuntime uplinkID row).record (.healthy uplinkID w.now)).tick)

def Runtime.observed (r : Runtime) (generation : Int) (failure : Failure) (now : Time) : Runtime :=
  { r with
    policyGeneration := generation
    state := .observing failure
    failureStartedAt :=
      if r.state.failureReason = some failure then some (r.failureStartedAt.getD now) else some now }

def prepareFailure (reason : Failure) (w : World) : Except Error (Snapshot × World) :=
  if !validID uplinkID then
    .error (.text "valid physical modem failure and uplink id are required")
  else
    match w.policies uplinkID, w.runtimes uplinkID with
    | some policy, some runtime =>
      if runtime.activeAttemptID.isSome then .ok ({ policy, runtime, attempts := [] }, w)
      else
        let v := (w.setRuntime uplinkID (runtime.observed policy.generation reason w.now)).tick
        (snapshot uplinkID 100 v).map (·, v)
    | _, _ => .error .notFound

def setWaiting (uplinkID reasonCode : String) (next : Option Time) (w : World) :
    Except Error (Unit × World) :=
  if !validID uplinkID || !validCode reasonCode then
    .error (.text "invalid modem recovery waiting state")
  else
    match w.runtimes uplinkID with
    | none => .ok ((), w)
    | some runtime =>
      if runtime.activeAttemptID.isSome then .ok ((), w)
      else .ok ((), w.setRuntime uplinkID { runtime with cooldownUntil := next })

def seconds (value : Int) : Time := value * second

def chargeReset (policy : Policy) (runtime : Runtime) (now : Time) :
    Except Error (Option Time × Int) :=
  let fresh := match runtime.budgetWindowStartedAt with
    | none => true
    | some start => seconds policy.usbResetWindowSeconds ≤ now - start
  let start := if fresh then some now else runtime.budgetWindowStartedAt
  let count := if fresh then 0 else runtime.usbResetsInWindow
  if policy.maxUSBResetsPerWindow = 0 ∨ policy.maxUSBResetsPerWindow ≤ count then
    .error .budgetExhausted
  else .ok (start, count + 1)

def newAttemptID (w : World) : String :=
  "modem-recovery-" ++ hexEncode ((w.random w.draws).take 16)

def openAttempt (action : Action) (requestedBy : RequestedBy)
    (reason : Failure) (policy : Policy) (runtime : Runtime) (budget : Option Time × Int)
    (w : World) : Attempt × World :=
  let attempt : Attempt :=
    { id := newAttemptID w, uplinkID, policyGeneration := policy.generation, action, requestedBy,
      status := .running, reasonCode := reason.code, failureReason := reason, startedAt := w.now }
  let row := { runtime with
    state := .running, activeAttemptID := some attempt.id, budgetWindowStartedAt := budget.1,
    usbResetsInWindow := budget.2 }
  let v : World := { (w.setRuntime uplinkID row) with
    attempts := w.attempts ++ [attempt], draws := w.draws + 1 }
  (attempt, (v.record (.started uplinkID attempt.id w.now)).tick)

def beginAttempt (action : Action) (requestedBy : RequestedBy)
    (reason : Failure) (w : World) : Except Error (Attempt × World) :=
  if !validID uplinkID then .error (.text "invalid modem recovery attempt")
  else
    match w.policies uplinkID, w.runtimes uplinkID with
    | some policy, some runtime =>
      if runtime.activeAttemptID.isSome then
        .error (.text "another modem recovery attempt is active")
      else if runtime.policyGeneration ≠ policy.generation then .error .staleGeneration
      else if !policy.enabled then .error .actionUnsupported
      else if runtime.cooldownUntil.any (w.now < ·) then .error .budgetExhausted
      else
        let budget :=
          if action = .usbDeviceReset then chargeReset policy runtime w.now
          else .ok (runtime.budgetWindowStartedAt, runtime.usbResetsInWindow)
        match budget with
        | .error e => .error e
        | .ok charged =>
          -- the primary key of the table
          if w.attempts.any (·.id = newAttemptID w) then .error .database
          else .ok (openAttempt uplinkID action requestedBy reason policy runtime charged w)
    | _, _ => .error .notFound

def Attempt.ended (a : Attempt) (status : Status) (reasonCode : String) (now : Time) : Attempt :=
  { a with status, reasonCode, finishedAt := some now }

def closeAttempt (attempt : Attempt) (status : Status) (reasonCode : String) (cooldown : Time)
    (runtime : Runtime) (w : World) : World :=
  let row := { runtime with
    state := .observing attempt.failureReason, activeAttemptID := none,
    cooldownUntil := if 0 < cooldown then some (w.now + cooldown) else none }
  let v : World := { (w.setRuntime attempt.uplinkID row) with
    attempts := w.attempts.map fun a =>
      if a.id = attempt.id ∧ a.status = .running then a.ended status reasonCode w.now else a }
  (v.record (.finished attempt.uplinkID attempt.id w.now cooldown)).tick

def finishAttempt (attempt : Attempt) (status : Status) (reasonCode : String) (cooldown : Time)
    (w : World) : Except Error (Unit × World) :=
  if attempt.id = "" || !validID attempt.uplinkID || status = .running || !validCode reasonCode then
    .error (.text "invalid modem recovery completion")
  else
    match w.runtimes attempt.uplinkID with
    | none => .error .notFound
    | some runtime =>
      if runtime.activeAttemptID ≠ some attempt.id ∨
          runtime.policyGeneration ≠ attempt.policyGeneration then .error .staleGeneration
      else if w.attempts.any (fun a => a.id = attempt.id && a.status = .running) then
        .ok ((), closeAttempt attempt status reasonCode cooldown runtime w)
      else .error .staleGeneration

def closeInterrupted (w : World) : World :=
  let v : World := { w with
    attempts := w.attempts.map fun a =>
      if a.status = .running then a.ended .failed "PROCESS_RESTARTED" w.now else a
    runtimes := fun u => (w.runtimes u).map fun r =>
      if r.activeAttemptID.isSome then { r with state := .idle, activeAttemptID := none } else r
    events := (w.attempts.filter (·.status = .running)).reverse.map
      (fun a => .finished a.uplinkID a.id w.now 0) ++ w.events }
  v.tick

def recoverInterrupted (w : World) : Except Error (Nat × World) :=
  .ok ((w.attempts.filter (·.status = .running)).length, closeInterrupted w)

def updatePolicy (input : Settings) (w : World) : Except Error (Policy × World) :=
  if !validID uplinkID then
    .error (.text "valid modem recovery repository and uplink id are required")
  else
    match validatePolicyUpdate input with
    | .error e => .error e
    | .ok _ =>
      match w.policies uplinkID, w.runtimes uplinkID with
      | some policy, some runtime =>
        if runtime.activeAttemptID.isSome then
          .error (.text "modem recovery policy cannot change during an active attempt")
        else if checked : input.Checked then
          let updated : Policy :=
            { toSettings := input, generation := policy.generation + 1, checked,
              positive := by have := policy.positive; omega }
          let row := { runtime with
            policyGeneration := updated.generation, state := .idle, failureStartedAt := none }
          let v : World := { (w.setRuntime uplinkID row) with
            policies := Function.update w.policies uplinkID (some updated) }
          .ok (updated, (v.record (.policyUpdated uplinkID w.now)).tick)
        else .error .database
      | _, _ => .error .notFound

end

/-! ## the ladder -/

structure RecoveryStage where
  action : Action
  after : Time

def stagesForFailure (policy : Policy) : Failure → List RecoveryStage
  | .dhcpLeaseMissing =>
    [⟨.dhcpRenew, seconds policy.dhcpRetryAfterSeconds⟩,
     ⟨.usbDriverRebind, seconds policy.usbRebindAfterSeconds⟩,
     ⟨.usbDeviceReset, seconds policy.usbResetAfterSeconds⟩]
  | .managementUnreachable =>
    [⟨.hiLinkAPIReconnect, seconds policy.apiRetryAfterSeconds⟩,
     ⟨.mobileSessionRestart, seconds policy.mobileSessionRestartAfterSeconds⟩,
     ⟨.usbDriverRebind, seconds policy.usbRebindAfterSeconds⟩,
     ⟨.usbDeviceReset, seconds policy.usbResetAfterSeconds⟩]
  | .carrierDown =>
    [⟨.usbDriverRebind, seconds policy.usbRebindAfterSeconds⟩,
     ⟨.usbDeviceReset, seconds policy.usbResetAfterSeconds⟩]
  | .deviceAbsent =>
    if policy.allowHubPortPowerCycle then
      [⟨.usbPortPowerCycle, seconds policy.usbResetAfterSeconds⟩]
    else []

/-- `actionDecision`: the action that is due, or what is waited for -/
inductive Decision where
  | act (action : Action)
  | wait (state reasonCode : String) (next : Option Time)
  deriving DecidableEq

/-- the loop over the stages; `next` is the earliest time at which one falls due -/
def climb (attempted : Action → Bool) (manual : Bool) (started now : Time) :
    List RecoveryStage → Option Time → Action ⊕ Option Time
  | [], next => .inr next
  | stage :: stages, next =>
    if attempted stage.action then climb attempted manual started now stages next
    else
      let due :=
        if manual && (stage.action = .dhcpRenew || stage.action = .hiLinkAPIReconnect) then 0
        else stage.after
      if due ≤ now - started then .inl stage.action
      else
        let candidate := started + due
        let earliest := match next with
          | none => candidate
          | some t => if candidate < t then candidate else t
        climb attempted manual started now stages (some earliest)

def chooseAction (s : Snapshot) (reason : Failure) (now : Time) (manual : Bool) : Decision :=
  let started := s.runtime.failureStartedAt.getD now
  let attempted (action : Action) : Bool :=
    s.attempts.any fun a => started ≤ a.startedAt && a.action = action
  match climb attempted manual started now (stagesForFailure s.policy reason) none with
  | .inl action => .act action
  | .inr (some next) => .wait "OBSERVING" "FAILURE_HYSTERESIS" (some next)
  | .inr none =>
    if reason = .deviceAbsent && !s.policy.allowHubPortPowerCycle then
      .wait "WAITING_FOR_DEVICE" "DEVICE_ABSENT_NO_SAFE_ACTION" none
    else .wait "SUPPRESSED" "RECOVERY_LADDER_EXHAUSTED" none

def actionCooldown (policy : Policy) : Action → Time
  | .usbDeviceReset | .usbPortPowerCycle => seconds policy.usbResetCooldownSeconds
  | .usbDriverRebind => seconds 60
  | .mobileSessionRestart | .hiLinkAPIReconnect => seconds policy.apiRetryAfterSeconds
  | .dhcpRenew => seconds policy.dhcpRetryAfterSeconds

/-! ## the controller -/

structure Result where
  uplinkID : String := ""
  state : String := ""
  action : Option Action := none
  attemptID : String := ""
  status : Option Status := none
  reasonCode : String := ""
  nextCheckAt : Option Time := none
  deriving DecidableEq

inductive Executed where
  | done
  | failed (e : Error)
  deriving DecidableEq

def Executed.outcome : Executed → Status × String
  | .done => (.succeeded, "ACTION_COMPLETED")
  | .failed .deviceRemoved => (.deviceRemoved, "DEVICE_REMOVED_DURING_RECOVERY")
  | .failed .actionUnsupported => (.suppressed, "HARDWARE_ACTION_NOT_AVAILABLE")
  | .failed .staleGeneration => (.failed, "STALE_POLICY_GENERATION")
  | .failed _ => (.failed, "ACTION_FAILED")

/-- the fates of the calls that the handling of one failure can make -/
structure Faults where
  prepare : Fate := .ok
  waiting : Fate := .ok
  start : Fate := .ok
  execute : Executed := .done
  finish : Fate := .ok
  deriving DecidableEq

section
variable (c : Faults)

def execute (policy : Policy) (now : Time) (attempt : Attempt) (w : World) :
    (Result × Option Error) × World :=
  let outcome := c.execute.outcome
  let cooldown := actionCooldown policy attempt.action
  match transact c.finish (finishAttempt attempt outcome.1 outcome.2 cooldown) w with
  | (.error e, w) => (({}, some e), w)
  | (.ok _, w) =>
    (({ uplinkID := attempt.uplinkID, state := "ATTEMPT_FINISHED", action := some attempt.action,
        attemptID := attempt.id, status := some outcome.1, reasonCode := outcome.2,
        nextCheckAt := if 0 < cooldown then some (now + cooldown) else none }, none), w)

def enact (uplinkID : String) (reason : Failure) (requestedBy : RequestedBy)
    (policy : Policy) (now : Time) (w : World) : Decision → (Result × Option Error) × World
  | .wait state reasonCode next =>
    match transact c.waiting (setWaiting uplinkID reasonCode next) w with
    | (.error e, w) => (({}, some e), w)
    | (.ok _, w) => (({ uplinkID, state, reasonCode, nextCheckAt := next }, none), w)
  | .act action =>
    match transact c.start (beginAttempt uplinkID action requestedBy reason) w with
    | (.ok attempt, w) => execute c policy now attempt w
    | (.error .budgetExhausted, w) =>
      -- the refused attempt has read the clock
      let (_, w) := transact c.waiting
        (setWaiting uplinkID "RECOVERY_BUDGET_EXHAUSTED" none) w.tick
      (({ uplinkID, state := "SUPPRESSED", action := some action,
          reasonCode := "RECOVERY_BUDGET_EXHAUSTED" }, none), w)
    | (.error e, w) => (({}, some e), w)

def handlePrepared (uplinkID : String) (reason : Failure) (requestedBy : RequestedBy)
    (manual : Bool) (s : Snapshot) (w : World) : (Result × Option Error) × World :=
  if !s.policy.enabled then
    let (_, w) := transact c.waiting (setWaiting uplinkID "AUTOMATIC_RECOVERY_DISABLED" none) w
    (({ uplinkID, state := "SUPPRESSED", reasonCode := "AUTOMATIC_RECOVERY_DISABLED" }, none), w)
  else
    let now := w.now
    if s.runtime.cooldownUntil.any (now < ·) && !manual then
      (({ uplinkID, state := "COOLDOWN", reasonCode := "RECOVERY_COOLDOWN",
          nextCheckAt := s.runtime.cooldownUntil }, some .budgetExhausted), w.tick)
    else
      enact c uplinkID reason requestedBy s.policy now w.tick (chooseAction s reason now manual)

def handleLocked (uplinkID failureReason : String) (requestedBy : RequestedBy)
    (manual : Bool) (w : World) : (Result × Option Error) × World :=
  match validFailure failureReason with
  | none =>
    (({}, some (.text "valid physical modem failure and uplink id are required")), w)
  | some reason =>
    match transact c.prepare (prepareFailure uplinkID reason) w with
    | (.error e, w) => (({}, some e), w)
    | (.ok s, w) =>
      match s.runtime.activeAttemptID with
      | some id =>
        (({ uplinkID, state := "ALREADY_RUNNING", attemptID := id,
            reasonCode := "ATTEMPT_ALREADY_RUNNING" }, none), w)
      | none => handlePrepared c uplinkID reason requestedBy manual s w

inductive Report where
  | markHealthy (uplinkID : String) (e : Error)
  | both (uplinkID : String)
  | recover (uplinkID : String) (e : Error)
  deriving DecidableEq

def observeEach : List (String × Fate) → List String → World → (List String × List Report) × World
  | [], seen, w => ((seen, []), w)
  | (uplinkID, fate) :: rest, seen, w =>
    if uplinkID ∈ seen then observeEach rest seen w
    else
      let (answer, v) := transact fate (observeHealthy uplinkID) w
      let ((after, reports), u) := observeEach rest (uplinkID :: seen) v
      match answer with
      | .error e => ((after, .markHealthy uplinkID e :: reports), u)
      | .ok _ => ((after, reports), u)

structure Observed where
  uplinkID : String
  reason : String
  faults : Faults := {}
  deriving DecidableEq

def Observed.handle (o : Observed) (w : World) : (Result × Option Error) × World :=
  handleLocked o.faults o.uplinkID o.reason .system false w

def handleEach : List Observed → List String → World → List Report × World
  | [], _, w => ([], w)
  | o :: rest, seen, w =>
    if o.uplinkID ∈ seen then
      let (reports, v) := handleEach rest seen w
      (.both o.uplinkID :: reports, v)
    else
      let (answer, v) := o.handle w
      let (reports, u) := handleEach rest (o.uplinkID :: seen) v
      match answer.2 with
      | some e =>
        if e = .budgetExhausted then (reports, u) else (.recover o.uplinkID e :: reports, u)
      | none => (reports, u)

structure Batch where
  healthy : List (String × Fate) := []
  failures : List Observed := []
  deriving DecidableEq

def observe (b : Batch) (w : World) : List Report × World :=
  let ((seen, first), v) := observeEach b.healthy [] w
  let (second, u) := handleEach b.failures seen v
  (first ++ second, u)

def request (uplinkID failureReason : String) (w : World) : (Result × Option Error) × World :=
  if failureReason = "" then
    (({ uplinkID, state := "NO_PHYSICAL_FAILURE", reasonCode := "NO_PHYSICAL_FAILURE" },
      some .noPhysicalFailure), w)
  else handleLocked c uplinkID failureReason .user true w

end

inductive Call where
  | observe (batch : Batch)
  | request (faults : Faults) (uplinkID failureReason : String)
  | recoverInterrupted (fate : Fate)
  | updatePolicy (fate : Fate) (uplinkID : String) (input : Settings)

def step (w : World) : Call → World
  | .observe batch => (observe batch w).2
  | .request faults uplinkID failureReason => (request faults uplinkID failureReason w).2
  | .recoverInterrupted fate => (transact fate recoverInterrupted w).2
  | .updatePolicy fate uplinkID input => (transact fate (updatePolicy uplinkID input) w).2

end GatewayVpn.ModemRecovery
