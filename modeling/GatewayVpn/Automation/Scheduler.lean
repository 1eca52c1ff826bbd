import GatewayVpn.Durable.Cut
import GatewayVpn.Calendar
import GatewayVpn.Update.Journal

/-!
# Automatic updates: the scheduler

`Scheduler.RunOnce` is one cycle of the unattended update: it takes the lease of the scheduler row,
follows the policy, compares the row with the engine's journal and the pending update, and then
checks for a release, stages one, or hands the staged one to the engine.  Everything it knows from
earlier cycles is in that row.

The calls on the database can fail before or after they took effect; the calls on the other
components answer what the input says.  A cycle that loses its lease gets errors from then on, so
the renewal in the background needs no model of its own.  A stored time is the instant it denotes,
with `none` for the empty text; the time of the policy is only ever copied and compared, and stays a
text.  `ApplyPendingUpdate` takes no argument: the id in the log is the one of the row that was
written just before.
-/

namespace GatewayVpn.Automation

open Durable
open Update (TransactionState updateIDPattern versionPattern errorCodePattern digestPattern)

/-! ## the row -/

inductive Phase where
  | idle
  | disabled
  | checking
  | candidate
  | downloading
  | staged
  | waitingWindow
  | applyIntent
  | applyDispatched
  | succeeded
  | failed
  | suppressed
  | manualPending
  | manualAttention
  | outcomeUnknown
  deriving DecidableEq

inductive Channel where
  | stable
  | testing
  deriving DecidableEq

structure Status where
  phase : Phase := .idle
  policyUpdatedAt : String := ""
  channel : Channel := .stable
  jitterOffsetMinutes : Nat := 0
  nextCheckAt : Option Time := none
  nextApplyAt : Option Time := none
  lastAttemptAt : Option Time := none
  lastCompletedAt : Option Time := none
  lastResultCode : String := ""
  lastErrorCode : String := ""
  consecutiveFailures : Nat := 0
  candidateVersion : String := ""
  candidateReference : String := ""
  candidatePublishedAt : Option Time := none
  stagedUpdateID : String := ""
  stagedVersion : String := ""
  stagedAt : Option Time := none
  applyDeadlineAt : Option Time := none
  applyIntentAt : Option Time := none
  applyObservedAt : Option Time := none
  updatedAt : Time
  leaseOwner : String := ""
  leaseExpiresAt : Option Time := none

def maximumJitterMinutes : Nat := 6 * 60

namespace Status

def validCandidate (s : Status) : Bool :=
  decide ((s.candidateVersion = "") = (s.candidateReference = "")) &&
    byteLength s.candidateReference ≤ 256 &&
    trimSpace s.candidateReference = s.candidateReference &&
    !s.candidateReference.toList.any (fun c => c = '?' || c = '@' || c = '\r' || c = '\n' ||
      c = '\t') &&
    (s.candidateVersion = "" || versionPattern s.candidateVersion)

def validStaging (s : Status) : Bool :=
  decide ((s.stagedUpdateID = "") = (s.stagedVersion = "")) &&
    (s.stagedUpdateID = "" || updateIDPattern s.stagedUpdateID) &&
    (s.stagedVersion = "" || versionPattern s.stagedVersion) &&
    decide ((s.stagedUpdateID = "") = (s.stagedAt = none)) &&
    decide ((s.stagedUpdateID = "") = (s.applyDeadlineAt = none)) &&
    (match s.stagedAt, s.applyDeadlineAt with
      | some staged, some deadline => staged < deadline
      | _, _ => true) &&
    (s.stagedUpdateID ≠ "" || (s.applyIntentAt = none && s.applyObservedAt = none))

def valid (s : Status) : Bool :=
  s.jitterOffsetMinutes ≤ maximumJitterMinutes && s.consecutiveFailures ≤ 100 &&
    errorCodePattern s.lastResultCode && errorCodePattern s.lastErrorCode &&
    decide ((s.leaseOwner = "") = (s.leaseExpiresAt = none)) && byteLength s.leaseOwner ≤ 64 &&
    s.validCandidate && s.validStaging

/-- the `CHECK`s of the table that `validate` does not make -/
def fitsTable (s : Status) : Bool :=
  s.candidateVersion.length ≤ 128 && s.stagedVersion.length ≤ 128

end Status

def initialStatus (now : Time) : Status := { updatedAt := now }

/-! ## what the other components answer -/

structure Policy where
  channel : Channel := .stable
  automaticCheckEnabled : Bool := false
  automaticDownloadEnabled : Bool := false
  automaticApplyEnabled : Bool := false
  checkIntervalHours : Nat := 24
  jitterMinutes : Nat := 30
  maintenanceWindowEnabled : Bool := false
  maintenanceStartMinuteUTC : Nat := 180
  maintenanceDurationMinutes : Nat := 120
  maximumApplyDelayHours : Nat := 72
  updatedAt : String := ""

/-- `AutomationPolicy.Validate`, without the retention of restore points -/
def Policy.valid (p : Policy) : Bool :=
  !(p.automaticApplyEnabled &&
      (!p.automaticDownloadEnabled || !p.automaticCheckEnabled || !p.maintenanceWindowEnabled)) &&
    !(p.automaticDownloadEnabled && !p.automaticCheckEnabled) &&
    1 ≤ p.checkIntervalHours && p.checkIntervalHours ≤ 24 * 7 &&
    p.jitterMinutes ≤ maximumJitterMinutes && p.jitterMinutes < p.checkIntervalHours * 60 &&
    p.maintenanceStartMinuteUTC < 24 * 60 &&
    15 ≤ p.maintenanceDurationMinutes && p.maintenanceDurationMinutes ≤ 12 * 60 &&
    1 ≤ p.maximumApplyDelayHours && p.maximumApplyDelayHours ≤ 30 * 24

/-- what the engine's journal says about the newest transaction -/
structure RootStatus where
  updateID : String
  state : TransactionState
  deriving DecidableEq

inductive SourceKind where
  | automaticGitHub
  | other (text : String)
  deriving DecidableEq

/-- the pending update of the stager; `createdAt` is `none` when its text is not a time -/
structure Operation where
  updateID : String
  gatewayVersion : String
  createdAt : Option Time
  sourceKind : SourceKind := .automaticGitHub
  sourceChannel : Option Channel := some .stable
  sourceReference : String := ""

structure Maintenance where
  active : Bool := false
  reasonCode : String := ""

structure Available where
  available : Bool := false
  channel : Option Channel := none
  candidateVersion : String := ""
  releaseTag : String := ""
  artifactBytes : Int := 0
  artifactSHA256 : String := ""
  publishedAt : Option Time := none
  sourceReference : String := ""

inductive StageError where
  | updatePending
  | other (text : String)

/-- what the calls of one cycle find, with the position of the call where one is made twice -/
structure Input where
  clock : Nat → Time
  policy : Nat → Except String Policy
  updateStatus : Except String (Option RootStatus) := .ok none
  stager : Except String (Option Operation) := .ok none
  maintenance : Nat → Except String Maintenance := fun _ => .ok {}
  readiness : Except String String := .ok ""
  blockPath : Except String Unit := .ok ()
  stateBlock : Except String Unit := .ok ()
  dispatch : Except String Unit := .ok ()
  check : Except String Available := .ok {}
  stage : Except StageError Operation := .error (.other "")

/-! ## times -/

def minute : Time := 60 * second
def hour : Time := 60 * minute
def day : Time := 24 * hour

def leaseDuration : Time := 90 * second
def maintenanceRetry : Time := 5 * minute
def applyRetry : Time := 15 * minute

def deadlineDue (deadline : Option Time) (now : Time) : Bool :=
  match deadline with
  | none => true
  | some d => d ≤ now

def nextRegularCheck (policy : Policy) (jitterMinutes : Nat) (now : Time) : Option Time :=
  some (now + (policy.checkIntervalHours * hour + jitterMinutes * minute))

/-- `delay *= 2` as long as there are failures left and the limit is not reached -/
def backoffLoop : Nat → Time → Time
  | 0, delay => delay
  | n + 1, delay => if delay < 6 * hour then backoffLoop n (2 * delay) else delay

def failureBackoff (failures : Nat) : Time :=
  min (backoffLoop (max failures 1 - 1) (5 * minute)) (6 * hour)

def today (now : Time) : Time := now / day * day

def insideMaintenanceWindow (policy : Policy) (now : Time) : Bool :=
  policy.maintenanceWindowEnabled &&
    [today now - day, today now].any fun d =>
      let start := d + policy.maintenanceStartMinuteUTC * minute
      start ≤ now && now < start + policy.maintenanceDurationMinutes * minute

def nextMaintenanceStart (policy : Policy) (now : Time) : Time :=
  let start := today now + policy.maintenanceStartMinuteUTC * minute
  if now < start then start else start + day

/-! ## the world -/

inductive Call where
  /-- `UpdateStatus` answered with a transaction -/
  | reported (root : RootStatus)
  /-- `APPLY_INTENT` was written for an update -/
  | intended (updateID : String)
  /-- `ApplyPendingUpdate` was called for an update -/
  | dispatched (updateID : String)
  /-- `Remote.Check` was called -/
  | checked (channel : Channel)
  deriving DecidableEq

structure World where
  row : Status
  input : Input
  /-- the number of calls that the cycle has made -/
  position : Nat := 0
  calls : List Call := []

namespace World

def tick (w : World) : World := { w with position := w.position + 1 }

def note (w : World) (call : Call) : World := { w with calls := call :: w.calls }

end World

inductive Op where
  | now
  | acquire (owner : String) (now : Time)
  | release (owner : String) (now : Time)
  | getPolicy
  | getStatus
  | updateOwned (owner : String) (mutate : Status → Option Status)
  | updateStatus
  | stagerStatus
  | maintenanceStatus
  | readiness (now : Time)
  | blockPath
  | stateBlock (reason : String)
  | applyPendingUpdate (updateID : String)
  | check (channel : Channel)
  | stageAutomaticChannel (channel : Channel)
  | event (type : String)

def Op.Ret : Op → Type
  | .now => Time
  | .acquire _ _ => Except String Bool
  | .release _ _ => Except String Unit
  | .getPolicy => Except String Policy
  | .getStatus => Except String Status
  | .updateOwned _ _ => Except String Status
  | .updateStatus => Except String (Option RootStatus)
  | .stagerStatus => Except String (Option Operation)
  | .maintenanceStatus => Except String Maintenance
  | .readiness _ => Except String String
  | .blockPath => Except String Unit
  | .stateBlock _ => Except String Unit
  | .applyPendingUpdate _ => Except String Unit
  | .check _ => Except String Available
  | .stageAutomaticChannel _ => Except StageError Operation
  | .event _ => Unit

section
variable (w : World)

def readStatus : Except String Status :=
  if w.row.valid then .ok w.row else .error "software update scheduler row is invalid"

def readPolicy : Except String Policy :=
  match w.input.policy w.position with
  | .error e => .error e
  | .ok policy =>
    if policy.valid then .ok policy else .error "software update policy is invalid"

def validOwner (owner : String) : Bool :=
  byteLength owner = 32 && owner.toList.all isLowerHex

/-- `lease_expires_at<=?`, which compares the two texts -/
def leaseExpired (expires now : Time) : Bool := !decide (rfc3339Nano now < rfc3339Nano expires)

/-- `Repository.Acquire`: the lease is free, ours, or has expired -/
def acquireEffect (owner : String) (now : Time) : Except String Bool × World :=
  if !validOwner owner then
    (.error "software update scheduler lease request is invalid", w)
  else if w.row.leaseOwner = "" || w.row.leaseOwner = owner || w.row.leaseExpiresAt.any (leaseExpired · now) then
    let w := { w with row := { w.row with
      leaseOwner := owner, leaseExpiresAt := some (now + leaseDuration), updatedAt := now } }
    ((readStatus w).map fun _ => true, w)
  else (.ok false, w)

def releaseEffect (owner : String) (now : Time) : Except String Unit × World :=
  if !validOwner owner then
    (.error "software update scheduler lease release is invalid", w)
  else if w.row.leaseOwner = owner then
    (.ok (), { w with row := { w.row with
      leaseOwner := "", leaseExpiresAt := none, updatedAt := now } })
  else (.error "software update scheduler lease was lost", w)

/-- the row is written; a write that enters `APPLY_INTENT` is noted -/
def World.store (status : Status) : World :=
  if status.phase = .applyIntent ∧ w.row.phase ≠ .applyIntent then
    { w with row := status }.note (.intended status.stagedUpdateID)
  else { w with row := status }

def updateEffect (owner : String) (mutate : Status → Option Status) :
    Except String Status × World :=
  if !validOwner owner then
    (.error "owned software update scheduler mutation is invalid", w)
  else match readStatus w with
  | .error e => (.error e, w)
  | .ok status =>
    if status.leaseOwner ≠ owner then (.error "software update scheduler lease is not owned", w)
    else match mutate status with
    | none => (.error "software update scheduler mutation failed", w)
    | some status =>
      if !status.valid then (.error "software update scheduler row is invalid", w)
      else if !status.fitsTable then (.error "write software update scheduler state", w)
      else (.ok status, w.store status)

def noteReport : World :=
  match w.input.updateStatus with
  | .ok (some root) => w.note (.reported root)
  | _ => w

end

/-- a call on the database with a fate, a call on another component with its answer -/
def effect : (o : Op) → Fate → World → o.Ret × World
  | .now, _, w => (w.input.clock w.position, w)
  | .acquire owner now, f, w => f.deliver "acquire software update scheduler lease"
      (acquireEffect w owner now) w
  | .release owner now, f, w => f.deliver "release software update scheduler lease"
      (releaseEffect w owner now) w
  | .getPolicy, f, w => f.deliver "read software update policy" (readPolicy w, w) w
  | .getStatus, f, w => f.deliver "read software update scheduler state" (readStatus w, w) w
  | .updateOwned owner mutate, f, w => f.deliver "write software update scheduler state"
      (updateEffect w owner mutate) w
  | .updateStatus, _, w => (w.input.updateStatus, noteReport w)
  | .stagerStatus, _, w => (w.input.stager, w)
  | .maintenanceStatus, _, w => (w.input.maintenance w.position, w)
  | .readiness _, _, w => (w.input.readiness, w)
  | .blockPath, _, w => (w.input.blockPath, w)
  | .stateBlock _, _, w => (w.input.stateBlock, w)
  | .applyPendingUpdate updateID, _, w => (w.input.dispatch, w.note (.dispatched updateID))
  | .check channel, _, w => (w.input.check, w.note (.checked channel))
  | .stageAutomaticChannel _, _, w => (w.input.stage, w)
  | .event _, _, w => ((), w)

def exec (o : Op) (f : Fate) (w : World) : o.Ret × World :=
  ((effect o f w).1, (effect o f w).2.tick)

/-! ## the writes -/

section
variable (now : Time)

def Status.suppress (code : String) (retry : Time) (s : Status) : Status :=
  { s with
    phase := .suppressed
    lastResultCode := "AUTOMATION_SUPPRESSED"
    lastErrorCode := code
    nextApplyAt := if s.stagedUpdateID ≠ "" then some (now + retry) else s.nextApplyAt
    nextCheckAt := if s.stagedUpdateID ≠ "" then s.nextCheckAt else some (now + retry)
    updatedAt := now }

def countFailure (failures : Nat) : Nat := if failures < 100 then failures + 1 else failures

def Status.fail (code : String) (retryCheck : Bool) (s : Status) : Status :=
  { s with
    phase := .failed
    lastCompletedAt := some now
    lastResultCode := "AUTOMATION_FAILED"
    lastErrorCode := code
    consecutiveFailures := countFailure s.consecutiveFailures
    nextCheckAt := if retryCheck then
      some (now + failureBackoff (countFailure s.consecutiveFailures)) else s.nextCheckAt
    updatedAt := now }

def Status.applyDeferred (code : String) (s : Status) : Status :=
  { s with
    phase := .staged
    lastCompletedAt := some now
    lastResultCode := "AUTO_APPLY_DEFERRED"
    lastErrorCode := code
    nextApplyAt := some (now + applyRetry)
    consecutiveFailures := countFailure s.consecutiveFailures
    updatedAt := now }

def Status.outcomeUnknown (code : String) (s : Status) : Status :=
  { s with
    phase := .outcomeUnknown
    lastCompletedAt := some now
    lastResultCode := "OUTCOME_UNKNOWN"
    lastErrorCode := code
    nextApplyAt := none
    updatedAt := now }

def Status.clearStaged (s : Status) : Status :=
  { s with
    stagedUpdateID := "", stagedVersion := "", stagedAt := none, applyDeadlineAt := none,
    applyIntentAt := none, applyObservedAt := none, nextApplyAt := none }

def Status.clearCandidate (s : Status) : Status :=
  { s with candidateVersion := "", candidateReference := "", candidatePublishedAt := none }

def Status.finish (policy : Policy) (now : Time) (resultCode errorCode : String) (s : Status) :
    Status :=
  { s.clearStaged.clearCandidate with
    phase := if errorCode = "" then .succeeded else .failed
    consecutiveFailures := if errorCode = "" then 0 else countFailure s.consecutiveFailures
    lastCompletedAt := some now
    lastResultCode := resultCode
    lastErrorCode := errorCode
    nextCheckAt := nextRegularCheck policy s.jitterOffsetMinutes now
    updatedAt := now }

/-- `setStagingEvidence`, with the id and the version; an operation without a time is refused -/
def Status.stage (operation : Operation) (policy : Policy) (s : Status) : Option Status :=
  if operation.updateID = "" || operation.gatewayVersion = "" then none
  else match operation.createdAt with
  | none => none
  | some created =>
    if created = zeroTime then none
    else some { s with
      stagedUpdateID := operation.updateID
      stagedVersion := operation.gatewayVersion
      stagedAt := some created
      applyDeadlineAt := some (created + policy.maximumApplyDelayHours * hour) }

def Status.startCheck (s : Status) : Status :=
  { s with
    phase := .checking
    lastAttemptAt := some now
    lastResultCode := "CHECK_STARTED"
    lastErrorCode := ""
    updatedAt := now }

end

def deterministicJitter (digest : String → Channel → Nat) (policy : Policy) : Nat :=
  if policy.jitterMinutes = 0 then 0
  else digest policy.updatedAt policy.channel % (policy.jitterMinutes + 1)

def Status.followPolicy (digest : String → Channel → Nat) (policy : Policy) (now : Time)
    (s : Status) : Status :=
  let s := { s.clearCandidate with
    policyUpdatedAt := policy.updatedAt
    channel := policy.channel
    jitterOffsetMinutes := deterministicJitter digest policy
    consecutiveFailures := 0
    lastErrorCode := ""
    lastResultCode := "POLICY_CHANGED"
    nextApplyAt := none
    updatedAt := now }
  if s.stagedUpdateID ≠ "" then
    match s.stagedAt with
    | some staged =>
      { s with applyDeadlineAt := some (staged + policy.maximumApplyDelayHours * hour) }
    | none => s
  else if policy.automaticCheckEnabled then
    { s with
      applyIntentAt := none, applyObservedAt := none, phase := .idle
      nextCheckAt := nextRegularCheck policy s.jitterOffsetMinutes now }
  else
    { s with
      applyIntentAt := none, applyObservedAt := none, phase := .disabled, nextCheckAt := none }

/-! ## the cycle -/

abbrev Prog := Proc Op Op.Ret

structure Scheduler where
  owner : String
  digest : String → Channel → Nat

def update {β : Type} (sch : Scheduler) (mutate : Status → Option Status)
    (k : Status → Prog (Except String β)) : Prog (Except String β) :=
  .call (.updateOwned sch.owner mutate) fun
    | .error e => .done (.error e)
    | .ok status => k status

section
variable (sch : Scheduler)

def write (mutate : Status → Status) : Prog (Except String Unit) :=
  update sch (fun s => some (mutate s)) fun _ => .done (.ok ())

section
variable (policy : Policy)

def syncPolicy (now : Time) : Prog (Except String Status) :=
  .call .getStatus fun
    | .error e => .done (.error e)
    | .ok current =>
      if current.policyUpdatedAt = policy.updatedAt ∧ current.channel = policy.channel then
        .done (.ok current)
      else update sch (fun s => some (s.followPolicy sch.digest policy now)) fun s => .done (.ok s)

/-- the row after a reconciliation and whether the cycle stops there -/
def stopWith (mutate : Status → Option Status) : Prog (Except String (Status × Bool)) :=
  update sch mutate fun s => .done (.ok (s, true))

/-- the staged update has come to its end; the event is sent whether or not the row was written -/
def finishWith (mutate : Status → Status) (type : String) : Prog (Except String (Status × Bool)) :=
  .call (.updateOwned sch.owner fun s => some (mutate s)) fun (answer : Except String Status) =>
  .call (.event type) fun _ => .done (answer.map fun s => (s, true))

def reconcileRoot (now : Time) (state : TransactionState) : Prog (Except String (Status × Bool)) :=
  match state with
  | .finalized =>
    finishWith sch (Status.finish policy now "AUTO_UPDATE_FINALIZED" "")
      "AUTOMATIC_UPDATE_FINALIZED"
  | .rolledBack =>
    finishWith sch (Status.finish policy now "AUTO_UPDATE_ROLLED_BACK" "AUTO_UPDATE_ROLLED_BACK")
      "AUTOMATIC_UPDATE_ROLLED_BACK"
  | .rollbackFailed =>
    stopWith sch fun s => some (s.finish policy now "AUTO_UPDATE_ROLLBACK_FAILED"
      "AUTO_UPDATE_ROLLBACK_FAILED")
  | _ =>
    stopWith sch fun s => some { s with
      phase := .applyDispatched
      applyObservedAt := some now
      lastResultCode := "ROOT_UPDATE_ACTIVE"
      lastErrorCode := ""
      updatedAt := now }

def Phase.handedOver : Phase → Bool
  | .applyIntent | .applyDispatched | .outcomeUnknown => true
  | _ => false

section
variable (status : Status)

def reconcilePending (now : Time)
    (operation : Operation) : Prog (Except String (Status × Bool)) :=
  if operation.sourceKind ≠ .automaticGitHub then
    stopWith sch fun s => some { s.clearStaged with
      phase := .manualPending
      lastResultCode := "MANUAL_UPDATE_PENDING"
      lastErrorCode := ""
      updatedAt := now }
  else if status.stagedUpdateID = operation.updateID ∧ status.phase.handedOver then
    stopWith sch fun s => some (s.outcomeUnknown now "AUTO_APPLY_OUTCOME_UNKNOWN")
  else if status.stagedUpdateID = operation.updateID ∧ status.phase = .manualAttention then
    .done (.ok (status, true))
  else if operation.sourceChannel ≠ some policy.channel ∨ !policy.automaticDownloadEnabled then
    stopWith sch fun s => (s.stage operation policy).map fun s => { s with
      phase := .manualPending
      nextApplyAt := none
      lastResultCode := "AUTO_STAGE_POLICY_MISMATCH"
      lastErrorCode := "AUTO_STAGE_POLICY_MISMATCH"
      updatedAt := now }
  else if status.stagedUpdateID ≠ "" ∧ status.stagedUpdateID ≠ operation.updateID then
    stopWith sch fun s => some (s.outcomeUnknown now "AUTO_STAGE_ID_MISMATCH")
  else
    update sch (fun s => (s.stage operation policy).map fun s => { s with
      phase := .staged
      candidateVersion := operation.gatewayVersion
      candidateReference := operation.sourceReference
      applyIntentAt := none
      applyObservedAt := none
      lastResultCode := "AUTO_UPDATE_STAGED"
      lastErrorCode := ""
      updatedAt := now }) fun s => .done (.ok (s, false))

def reconcileIdle (now : Time) : Prog (Except String (Status × Bool)) :=
  if status.phase = .applyIntent ∨ status.phase = .applyDispatched then
    stopWith sch fun s => some (s.outcomeUnknown now "AUTO_APPLY_OUTCOME_UNKNOWN")
  else if status.stagedUpdateID ≠ "" then
    stopWith sch fun s => some (s.fail now "AUTO_STAGE_MISSING" true)
  else .done (.ok (status, false))

def reconcile (now : Time) : Prog (Except String (Status × Bool)) :=
  .call .updateStatus fun
    | .error _ =>
      stopWith sch fun s => some (s.suppress now "UPDATE_STATUS_UNAVAILABLE" maintenanceRetry)
    | .ok root =>
      .call .stagerStatus fun
        | .error _ => stopWith sch fun s => some (s.fail now "STAGED_UPDATE_STATUS_INVALID" true)
        | .ok pending =>
          match root.filter (fun r => status.stagedUpdateID ≠ "" &&
              r.updateID = status.stagedUpdateID) with
          | some r => reconcileRoot sch policy now r.state
          | none =>
            match pending with
            | some operation => reconcilePending sch policy status now operation
            | none => reconcileIdle sch status now

def maintenance (now : Time) (k : Prog (Except String Unit)) : Prog (Except String Unit) :=
  .call .maintenanceStatus fun
    | .error _ => write sch (Status.suppress now "MAINTENANCE_STATUS_UNAVAILABLE" maintenanceRetry)
    | .ok m =>
      if m.active then
        write sch (Status.suppress now
          (if !errorCodePattern m.reasonCode || m.reasonCode = "" then "MAINTENANCE_ACTIVE"
            else m.reasonCode) maintenanceRetry)
      else k

/-- the intent is written before the request is sent -/
def dispatch (now : Time) : Prog (Except String Unit) :=
  update sch (fun s => some { s with
      phase := .applyIntent
      applyIntentAt := some now
      applyObservedAt := none
      nextApplyAt := none
      lastAttemptAt := some now
      lastResultCode := "APPLY_INTENT_DURABLE"
      lastErrorCode := ""
      updatedAt := now }) fun status =>
    .call (.event "AUTOMATIC_SIGNED_UPDATE_APPLY_REQUESTED") fun _ =>
    .call (.applyPendingUpdate status.stagedUpdateID) fun answer =>
    .call .now fun (dispatchedAt : Time) =>
    match answer with
    | .error _ => write sch (Status.outcomeUnknown dispatchedAt "AUTO_APPLY_DISPATCH_UNKNOWN")
    | .ok _ => write sch fun s => { s with
        phase := .applyDispatched
        applyObservedAt := some dispatchedAt
        lastCompletedAt := some dispatchedAt
        lastResultCode := "APPLY_DISPATCHED"
        lastErrorCode := ""
        updatedAt := dispatchedAt }

def prepareApply (now : Time) : Prog (Except String Unit) :=
  .call (.readiness now) fun
    | .error _ => write sch (Status.applyDeferred now "AUTO_READINESS_UNAVAILABLE")
    | .ok reason =>
      if reason ≠ "" then write sch (Status.applyDeferred now reason)
      else .call .blockPath fun
        | .error _ => write sch (Status.applyDeferred now "AUTO_PATH_BLOCK_FAILED")
        | .ok _ => .call (.stateBlock "AUTOMATIC_SIGNED_UPDATE_APPLY_REQUESTED") fun
          | .error _ => write sch (Status.applyDeferred now "AUTO_STATE_BLOCK_FAILED")
          | .ok _ => dispatch sch now

def maybeApply (now : Time) : Prog (Except String Unit) :=
  if !policy.automaticApplyEnabled then
    write sch fun s => { s with phase := .staged, nextApplyAt := none, updatedAt := now }
  else if deadlineDue status.applyDeadlineAt now then
    update sch (fun s => some { s with
        phase := .manualAttention
        nextApplyAt := none
        lastCompletedAt := some now
        lastResultCode := "MANUAL_ATTENTION_REQUIRED"
        lastErrorCode := "AUTO_APPLY_DEADLINE_EXPIRED"
        updatedAt := now }) fun _ =>
      .call (.event "AUTOMATIC_UPDATE_APPLY_DEADLINE_EXPIRED") fun _ => .done (.ok ())
  else if !insideMaintenanceWindow policy now then
    write sch fun s => { s with
      phase := .waitingWindow
      nextApplyAt := some (nextMaintenanceStart policy now)
      lastResultCode := "WAITING_MAINTENANCE_WINDOW"
      lastErrorCode := ""
      updatedAt := now }
  else .call .getPolicy fun
    | .error e => .done (.error e)
    | .ok latest =>
      if latest.updatedAt ≠ policy.updatedAt ∨ latest.channel ≠ policy.channel ∨
          !latest.automaticApplyEnabled then .done (.ok ())
      else maintenance sch now (prepareApply sch now)

def maximumArchiveBytes : Int := 768 * 2 ^ 20

def validAvailableCandidate (available : Available) (channel : Channel) : Bool :=
  available.available && available.channel = some channel &&
    versionPattern available.candidateVersion &&
    available.releaseTag = "v" ++ available.candidateVersion && 0 < available.artifactBytes &&
    available.artifactBytes ≤ maximumArchiveBytes &&
    digestPattern available.artifactSHA256 && available.publishedAt.isSome &&
    { updatedAt := 0, candidateVersion := available.candidateVersion,
      candidateReference := available.sourceReference : Status }.validCandidate

def adoptStaged (operation : Operation) (completed : Time) : Prog (Except String Unit) :=
  if operation.sourceKind ≠ .automaticGitHub ∨ operation.sourceChannel ≠ some policy.channel then
    write sch (Status.outcomeUnknown completed "AUTO_STAGE_OWNERSHIP_INVALID")
  else
    update sch (fun s => (s.stage operation policy).map fun s => { s with
        phase := .staged
        candidateVersion := operation.gatewayVersion
        candidateReference := operation.sourceReference
        lastCompletedAt := some completed
        lastResultCode := "AUTO_UPDATE_STAGED"
        lastErrorCode := ""
        consecutiveFailures := 0
        updatedAt := completed }) fun status =>
      .call (.event "AUTOMATIC_SIGNED_UPDATE_STAGED") fun _ =>
      maybeApply sch policy status completed

def stageAnswered (completed : Time)
    (answer : Except StageError Operation) : Prog (Except String Unit) :=
  match answer with
  | .error .updatePending =>
    write sch (Status.suppress completed "UPDATE_PENDING_RACE" maintenanceRetry)
  | .error (.other _) => write sch (Status.fail completed "UPDATE_DOWNLOAD_FAILED" true)
  | .ok operation => adoptStaged sch policy operation completed

def stageCandidate (completed : Time) : Prog (Except String Unit) :=
  maintenance sch completed <|
    update sch (fun s => some { s with
        phase := .downloading
        lastAttemptAt := some completed
        lastResultCode := "DOWNLOAD_STARTED"
        updatedAt := completed }) fun _ =>
      .call (.stageAutomaticChannel policy.channel) fun answer =>
      .call .now fun (completed : Time) =>
      stageAnswered sch policy completed answer

def checkAnswered (completed : Time)
    (answer : Except String Available) : Prog (Except String Unit) :=
  match answer with
  | .error _ => write sch (Status.fail completed "UPDATE_CHECK_FAILED" true)
  | .ok available =>
    if !available.available then
      write sch fun s => { s.clearCandidate with
        phase := .idle
        lastCompletedAt := some completed
        lastResultCode := "UP_TO_DATE"
        lastErrorCode := ""
        consecutiveFailures := 0
        nextCheckAt := nextRegularCheck policy s.jitterOffsetMinutes completed
        updatedAt := completed }
    else if !validAvailableCandidate available policy.channel then
      write sch (Status.fail completed "UPDATE_CANDIDATE_INVALID" true)
    else
      update sch (fun s => some { s with
          phase := .candidate
          candidateVersion := available.candidateVersion
          candidateReference := available.sourceReference
          candidatePublishedAt := available.publishedAt
          lastCompletedAt := some completed
          lastResultCode := "UPDATE_AVAILABLE"
          lastErrorCode := ""
          consecutiveFailures := 0
          nextCheckAt := nextRegularCheck policy s.jitterOffsetMinutes completed
          updatedAt := completed }) fun _ =>
        .call (.event "AUTOMATIC_UPDATE_CANDIDATE_DISCOVERED") fun _ =>
        if !policy.automaticDownloadEnabled then .done (.ok ())
        else stageCandidate sch policy completed

def checkAndMaybeStage (now : Time) : Prog (Except String Unit) :=
  maintenance sch now <|
    update sch (fun s => some (s.startCheck now)) fun _ =>
      .call (.check policy.channel) fun answer =>
      .call .now fun (completed : Time) =>
      checkAnswered sch policy completed answer

def proceed (now : Time) : Prog (Except String Unit) :=
  if !policy.automaticCheckEnabled then
    write sch fun s =>
      if s.stagedUpdateID = "" then
        { s with phase := .disabled, nextCheckAt := none, nextApplyAt := none, updatedAt := now }
      else { s with updatedAt := now }
  else if status.stagedUpdateID ≠ "" then
    if policy.automaticApplyEnabled && deadlineDue status.applyDeadlineAt now then
      maybeApply sch policy status now
    else if status.nextApplyAt ≠ none ∧ !deadlineDue status.nextApplyAt now then .done (.ok ())
    else maybeApply sch policy status now
  else if !deadlineDue status.nextCheckAt now then .done (.ok ())
  else checkAndMaybeStage sch policy now

end

end

def leased (now : Time) : Prog (Except String Unit) :=
  .call .getPolicy fun
    | .error e => .done (.error e)
    | .ok policy =>
      (syncPolicy sch policy now).attempt (fun e => .done (.error e)) fun status =>
      (reconcile sch policy status now).attempt (fun e => .done (.error e)) fun r =>
      if r.2 then .done (.ok ()) else proceed sch policy r.1 now

def leaseBusy : String := "software update scheduler is already running"

/-- the answer to the request for the lease; a lease that was taken is given back at the end -/
def acquired (now : Time) (answer : Except String Bool) : Prog (Except String Unit) :=
  match answer with
  | .error e => .done (.error e)
  | .ok false => .done (.error leaseBusy)
  | .ok true =>
    (leased sch now).bind fun result =>
      .call .now fun (released : Time) =>
      .call (.release sch.owner released) fun _ => .done result

def runOnce : Prog (Except String Unit) :=
  if !validOwner sch.owner then
    .done (.error "software update scheduler is not safely configured")
  else .call .now fun (now : Time) =>
  .call (.acquire sch.owner now) fun answer => acquired sch now answer

end

/-! ## runs -/

/-- one cycle: who runs it, what it finds, and how far it gets -/
structure Turn where
  scheduler : Scheduler
  input : Input
  fates : List Fate

def World.enter (w : World) (input : Input) : World := { w with input, position := 0 }

def cycle (w : World) (t : Turn) : World :=
  (run exec (runOnce t.scheduler) t.fates (w.enter t.input)).state

/-! ## a gateway with unattended updates -/

def sampleScheduler : Scheduler where
  owner := "0123456789abcdef0123456789abcdef"
  digest _ _ := 0

def samplePolicy : Policy where
  automaticCheckEnabled := true
  automaticDownloadEnabled := true
  automaticApplyEnabled := true
  maintenanceWindowEnabled := true
  maintenanceStartMinuteUTC := 0
  maintenanceDurationMinutes := 720
  updatedAt := "2026-01-01T00:00:00Z"

def sampleUpdateID : String := "update-20260101T000000Z-0123456789abcdef01234567"

def sampleOperation : Operation where
  updateID := sampleUpdateID
  gatewayVersion := "1.2.3"
  createdAt := some (1000 * day)
  sourceReference := "v1.2.3"

def sampleInput (h : Nat) : Input where
  clock n := 1000 * day + h * hour + n
  policy _ := .ok samplePolicy
  stager := .ok (some sampleOperation)

def fullTurn (input : Input) : Turn := ⟨sampleScheduler, input, List.replicate 60 .ok⟩

def sampleWorld : World where
  row := initialStatus (1000 * day)
  input := sampleInput 0

end GatewayVpn.Automation
