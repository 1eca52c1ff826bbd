import GatewayVpn.Durable.Logic
import GatewayVpn.Durable.Table
import GatewayVpn.NetworkApply.Manifest

/-!
# Network apply: the engine

`Engine.Stage`, `Apply`, `Confirm`, `Recover` and the out-of-process `RollbackFromDisk`, as
procedures over the operations they make on the database, on the transaction directory, on the
host (through `SnapshotBackend`) and on the rollback timer.

A `World` holds what survives the process: the table of transactions, the transaction
directories, the files of the snapshots.  It also keeps a log of what the operations did, newest
first, from which the configuration the host runs can be read off.

Writing a status file is one operation: `atomicWrite` renames a finished file over the old one,
and the directory sync after it can still report an error (fate `late`).  A database statement is
one operation: it takes place as a whole or not at all.
-/

namespace GatewayVpn.NetworkApply

open Durable

/-! ## the world -/

inductive BackendCall where
  | snapshot
  | apply
  | commit
  | rollback
  deriving DecidableEq

inductive TimerCall where
  | arm
  | disarm
  deriving DecidableEq

/-- what happened outside the process: calls of the backend and of the timer with whether they
returned nil, and writes of a status file or of a row -/
inductive Event where
  | backend (id : String) (call : BackendCall) (ok : Bool)
  | timer (id : String) (call : TimerCall) (ok : Bool)
  | status (id : String) (phase : Phase)
  | row (id : String) (state : TxState)
  deriving DecidableEq

abbrev Transactions := Durable.Table Transaction.id

def Transactions.unfinished (t : Transactions) : List Transaction :=
  t.rows.filter (·.state.unfinished)

/-- a transaction directory: the readable `manifest.json` and `status.json` in it -/
structure TxDir where
  manifest : Option Manifest := none
  status : Option Phase := none

structure World where
  table : Transactions
  dirs : String → Option TxDir
  /-- the directories that hold the files of a completed `Backend.Snapshot` -/
  snapshots : String → Bool
  log : List Event
  clock : Nat → Time
  ticks : Nat
  entropy : Nat → Nat → UInt8
  draws : Nat

namespace World

def row (w : World) (id : String) : Option Transaction := w.table.find id
def state (w : World) (id : String) : Option TxState := (w.row id).map (·.state)
def phase (w : World) (id : String) : Option Phase := (w.dirs id).bind (·.status)

def note (w : World) (ev : Event) : World := { w with log := ev :: w.log }

def setDir (w : World) (id : String) (d : TxDir) : World :=
  { w with dirs := Function.update w.dirs id (some d) }

end World

/-! ## the operations -/

structure Engine where
  lib : Lib
  root : String
  rollbackAfter : Time

inductive Op where
  | now
  | newSecret (length : Nat)
  | create (record : Transaction)
  | get (id : String)
  | updateDeadline (id : String) (deadline : Time)
  | transition (id : String) (expected : List TxState) (next : TxState) (errorCode : String)
  | listUnfinished
  | mkdir (id : String)
  | writeManifest (manifest : Manifest)
  | syncDirectory (id : String)
  | load (id : String)
  | setPhase (id : String) (phase : Phase)
  | backend (call : BackendCall) (manifest : Manifest) (directory : String)
  | arm (id : String) (deadline : Time)
  | disarm (id : String)

@[reducible] def Op.Ret : Op → Type
  | .now => Time
  | .newSecret _ => Except ApplyError (List UInt8)
  | .get _ => Except ApplyError Transaction
  | .listUnfinished => Except ApplyError (List Transaction)
  | .load _ => Except ApplyError (Manifest × Phase)
  | _ => Except ApplyError Unit

abbrev Prog (α : Type) := Proc Op Op.Ret α

/-- `DiskStore.Directory` -/
def Engine.directory (e : Engine) (id : String) : Except ApplyError String :=
  if !safeID id || trimSpace e.root = "" then
    .error (.text "safe network transaction id and root are required")
  else .ok (e.root ++ "/" ++ id)

/-! ## the repository -/

def withDefaults (record : Transaction) : Transaction :=
  { record with
    manifestSchema :=
      if record.manifestSchema = 0 then legacyManifestSchema else record.manifestSchema
    operationKind := if record.operationKind = .unset then .lanAddress else record.operationKind
    candidateJSON := if record.candidateJSON = "" then "\x7b\x7d" else record.candidateJSON }

def World.create (w : World) (record : Transaction) : Except ApplyError Unit × World :=
  let transaction := withDefaults record
  if !safeID transaction.id || transaction.state ≠ .preparing ||
      transaction.confirmTokenSHA256 = "" || transaction.transactionDir = "" ||
      !validTransactionOperation transaction then
    (.error (.text "complete preparing network transaction is required"), w)
  else if w.table.unfinished.length ≠ 0 then (.error .inProgress, w)
  else match w.table.insert { transaction with createdAt := w.clock w.ticks } with
  | none => (.error (.text "insert network apply"), w)
  | some table =>
    (.ok (),
      { w with
        table := table
        ticks := w.ticks + 1
        log := .row transaction.id transaction.state :: w.log })

def World.get (w : World) (id : String) : Except ApplyError Transaction :=
  match w.row id with
  | some transaction => .ok transaction
  | none => .error .notFound

def World.updateDeadline (w : World) (id : String) (deadline : Time) :
    Except ApplyError Unit × World :=
  if !safeID id || deadline = zeroTime then
    (.error (.text "safe network apply id and deadline are required"), w)
  else if w.state id = some .preparing then
    (.ok (),
      { w with
        table := w.table.update id (fun r => { r with rollbackDeadline := .format deadline })
          fun _ => rfl })
  else (.error .state, w)

def World.transition (w : World) (id : String) (expected : List TxState) (next : TxState)
    (errorCode : String) : Except ApplyError Unit × World :=
  if !safeID id || expected.length = 0 || (errorCode ≠ "" && !safeErrorCode errorCode) then
    (.error (.text "valid network apply transition is required"), w)
  else if (w.state id).any expected.contains then
    (.ok (),
      { w with
        table := w.table.update id (fun r => { r with state := next, errorCode := errorCode })
          fun _ => rfl
        log := .row id next :: w.log })
  else (.error .state, w)

def World.listUnfinished (lib : Lib) (w : World) : List Transaction :=
  w.table.unfinished.insertionSort fun a b => lib.createdBefore a.createdAt b.createdAt

/-! ## the disk store -/

def World.mkdir (w : World) (id : String) : Except ApplyError Unit × World :=
  match w.dirs id with
  | some _ => (.error (.text "network transaction directory already exists"), w)
  | none => (.ok (), w.setDir id {})

def World.writeManifest (w : World) (manifest : Manifest) : Except ApplyError Unit × World :=
  match w.dirs manifest.id with
  | some d => (.ok (), w.setDir manifest.id { d with manifest := some manifest })
  | none => (.error (.text "write network transaction manifest"), w)

def World.load (e : Engine) (w : World) (id : String) : Except ApplyError (Manifest × Phase) :=
  match e.directory id with
  | .error err => .error err
  | .ok _ =>
  match (w.dirs id).bind (·.manifest) with
  | none => .error (.text "read network transaction manifest")
  | some manifest =>
  if !(validateManifest e.lib manifest).isOk || manifest.id ≠ id then
    .error (.text "network transaction manifest is invalid")
  else match w.phase id with
  | none => .error (.text "read network transaction status")
  | some phase => .ok (manifest, phase)

def World.setPhase (e : Engine) (w : World) (id : String) (phase : Phase) :
    Except ApplyError Unit × World :=
  match e.directory id with
  | .error err => (.error err, w)
  | .ok _ =>
  match w.dirs id with
  | some d => (.ok (), (w.setDir id { d with status := some phase }).note (.status id phase))
  | none => (.error (.text "write network transaction status"), w)

/-! ## the host -/

/-- the backend finds the files of the snapshot in the transaction directory: it puts them there
in `Snapshot` and needs them in `Apply` and `Rollback` -/
def World.backend (w : World) (call : BackendCall) (directory : String) :
    Except ApplyError Unit × World :=
  match call with
  | .snapshot => (.ok (), { w with snapshots := Function.update w.snapshots directory true })
  | .commit => (.ok (), w)
  | .apply | .rollback =>
    if w.snapshots directory then (.ok (), w)
    else (.error (.text "network backend directories are unavailable"), w)

def noted {α : Type} (ev : Bool → Event) (r : Except ApplyError α × World) :
    Except ApplyError α × World :=
  (r.1, r.2.note (ev r.1.isOk))

def exec (e : Engine) : (o : Op) → Fate → World → o.Ret × World
  | .now, _, w => (w.clock w.ticks, { w with ticks := w.ticks + 1 })
  | .newSecret length, f, w =>
    f.deliver (.text "read random bytes")
      (.ok ((List.range length).map (w.entropy w.draws)), { w with draws := w.draws + 1 }) w
  | .create record, f, w => f.deliver (.text "create network apply") (w.create record) w
  | .get id, f, w => f.deliver (.text "get network apply transaction") (w.get id, w) w
  | .updateDeadline id deadline, f, w =>
    f.deliver (.text "update network apply deadline") (w.updateDeadline id deadline) w
  | .transition id expected next code, f, w =>
    f.deliver (.text "transition network apply") (w.transition id expected next code) w
  | .listUnfinished, f, w =>
    f.deliver (.text "list unfinished network applies") (.ok (w.listUnfinished e.lib), w) w
  | .mkdir id, f, w => f.deliver (.text "create network transaction directory") (w.mkdir id) w
  | .writeManifest manifest, f, w =>
    f.deliver (.text "write network transaction manifest") (w.writeManifest manifest) w
  | .syncDirectory _, f, w =>
    f.deliver (.text "sync network transaction directory") (.ok (), w) w
  | .load id, f, w => f.deliver (.text "read network transaction") (w.load e id, w) w
  | .setPhase id phase, f, w =>
    f.deliver (.text "write network transaction status") (w.setPhase e id phase) w
  | .backend call manifest directory, f, w =>
    noted (.backend manifest.id call)
      (f.deliver (.text "network backend failed") (w.backend call directory) w)
  | .arm id _, f, w =>
    noted (.timer id .arm) (f.deliver (.text "arm rollback timer failed") (.ok (), w) w)
  | .disarm id, f, w =>
    noted (.timer id .disarm) (f.deliver (.text "disarm rollback timer failed") (.ok (), w) w)

/-! ## the engine -/

structure Prepared where
  applyID : String
  confirmToken : String
  oldURL : String
  newURL : String
  rollbackDeadline : Time

structure ConfirmEvidence where
  token : String
  localDestinationIP : String := ""
  viaWireGuard : Bool := false
  viaLocalConsole : Bool := false

namespace Engine

variable (e : Engine)

def validate : Except ApplyError Unit :=
  if e.root = "" then .error (.text "network apply engine dependencies are incomplete")
  else if e.rollbackAfter < 30 * second || e.rollbackAfter > 90 * second then
    .error (.text "network rollback timeout must be between 30 and 90 seconds")
  else .ok ()

section
variable (manifest : Manifest)

def storeCreate : Prog (Except ApplyError String) :=
  match validateManifest e.lib manifest with
  | .error err => .done (.error err)
  | .ok () =>
  if trimSpace e.root = "" then .done (.error (.text "network transaction root is required"))
  else .call (.mkdir manifest.id) fun
  | .error err => .done (.error err)
  | .ok () =>
  .call (.writeManifest manifest) fun
  | .error err => .done (.error err)
  | .ok () =>
  .call (.setPhase manifest.id .created) fun
  | .error err => .done (.error err)
  | .ok () =>
  .call (.syncDirectory manifest.id) fun
  | .error err => .done (.error err)
  | .ok () => .done (.ok (e.root ++ "/" ++ manifest.id))

def replaceManifest : Prog (Except ApplyError Unit) :=
  match validateManifest e.lib manifest with
  | .error err => .done (.error err)
  | .ok () =>
  .call (.load manifest.id) fun
  | .error err => .done (.error err)
  | .ok (previous, phase) =>
  if phase ≠ .created || !sameManifestCore previous manifest then
    .done (.error (.text "network transaction manifest replacement is not allowed"))
  else .call (.writeManifest manifest) fun
  | .error err => .done (.error err)
  | .ok () => .call (.syncDirectory manifest.id) .done

/-- `Engine.rollback`: the status and the row are written after the host was put back, and the
errors of these writes are dropped -/
def rollback {α : Type} (id : String) (manifest : Manifest) (directory code : String) :
    Prog (Except ApplyError α) :=
  .call (.backend .rollback manifest directory) fun
  | .error _ =>
    .call (.setPhase id .failed) fun _ =>
    .call (.transition id unfinishedStates .failed "ROLLBACK_FAILED") fun _ =>
    .done (.error (.text ("network apply " ++ id ++ " failed and rollback failed")))
  | .ok () =>
    .call (.setPhase id .rolledBack) fun _ =>
    .call (.transition id unfinishedStates .rolledBack code) fun _ =>
    .call (.disarm id) fun _ =>
    .done (.error (.text
      ("network apply " ++ id ++ " failed and was rolled back (" ++ code ++ ")")))

def failBeforeArm (id code : String) : Prog (Except ApplyError Prepared) :=
  .call (.transition id [.preparing] .failed code) fun _ =>
  .call (.setPhase id .failed) fun _ =>
  .done (.error (.text ("network apply " ++ id ++ " failed (" ++ code ++ ")")))

def dated (now : Time) : Manifest :=
  { manifest with
    rollbackDeadline := .format (now + e.rollbackAfter)
    createdAt := .format now }

/-- the end of `Stage`: the deadline is taken again, then the timer is armed -/
def stageArm (staged : Manifest) (confirmToken directory : String) :
    Prog (Except ApplyError Prepared) :=
  let id := staged.id
  .call .now fun armTime =>
  let deadline := armTime + e.rollbackAfter
  let manifest := e.dated staged armTime
  (e.replaceManifest manifest).bind fun
  | .error _ => failBeforeArm id "ROLLBACK_DEADLINE_STORE_FAILED"
  | .ok () =>
  .call (.updateDeadline id deadline) fun
  | .error _ => failBeforeArm id "ROLLBACK_DEADLINE_DB_FAILED"
  | .ok () =>
  .call (.setPhase id .snapshotReady) fun
  | .error _ => failBeforeArm id "SNAPSHOT_STATUS_FAILED"
  | .ok () =>
  .call (.arm id deadline) fun
  | .error _ => failBeforeArm id "ROLLBACK_TIMER_ARM_FAILED"
  | .ok () =>
  .call (.setPhase id .armed) fun
  | .error _ => rollback id manifest directory "ARMED_STATUS_FAILED"
  | .ok () =>
  .call (.transition id [.preparing] .armed "") fun
  | .error _ => rollback id manifest directory "ARMED_DB_FAILED"
  | .ok () =>
  .done (.ok ⟨id, confirmToken, manifest.oldURL, manifest.newURL, deadline⟩)

/-- the part of `Stage` after the row was created -/
def stageFiles (confirmToken directory : String) : Prog (Except ApplyError Prepared) :=
  (e.storeCreate manifest).bind fun
  | .error _ => failBeforeArm manifest.id "SNAPSHOT_DIRECTORY_FAILED"
  | .ok createdDirectory =>
  if createdDirectory ≠ directory then
    failBeforeArm manifest.id "SNAPSHOT_DIRECTORY_MISMATCH"
  else .call (.backend .snapshot manifest directory) fun
  | .error _ => failBeforeArm manifest.id "SNAPSHOT_FAILED"
  | .ok () => e.stageArm manifest confirmToken directory

def stageRecord (candidate : Candidate) (manifest : Manifest)
    (confirmToken candidateJSON directory : String) : Transaction where
  id := manifest.id
  state := .preparing
  confirmTokenSHA256 := hexEncode (e.lib.sha256 confirmToken)
  manifestSchema := manifest.schemaVersion
  operationKind := effectiveOperationKind manifest
  candidateJSON := candidateJSON
  interfaceName := candidate.interfaceName
  oldLANCIDR := manifest.oldLANCIDR
  newLANCIDR := manifest.newLANCIDR
  oldURL := manifest.oldURL
  newURL := manifest.newURL
  newDestinationIP := manifest.newDestinationIP
  rollbackDeadline := manifest.rollbackDeadline
  transactionDir := directory

/-- the part of `Stage` after the identifier, the token and the time were taken -/
def stageCreate (candidate : Candidate) (manifest : Manifest) (confirmToken : String) :
    Prog (Except ApplyError Prepared) :=
  match manifestCandidateJSON e.lib manifest with
  | .error err => .done (.error err)
  | .ok candidateJSON =>
  match e.directory manifest.id with
  | .error err => .done (.error err)
  | .ok directory =>
  .call (.create (e.stageRecord candidate manifest confirmToken candidateJSON directory)) fun
  | .error err => .done (.error err)
  | .ok () => e.stageFiles manifest confirmToken directory

def stage (candidate : Candidate) : Prog (Except ApplyError Prepared) :=
  match e.validate with
  | .error err => .done (.error err)
  | .ok () =>
  match buildManifest e.lib candidate with
  | .error err => .done (.error err)
  | .ok draft =>
  .call (.newSecret 16) fun
  | .error _ => .done (.error (.text "allocate network apply id failed"))
  | .ok idBytes =>
  .call (.newSecret 32) fun
  | .error _ =>
    .done (.error (.text "allocate network apply confirmation token failed"))
  | .ok tokenBytes =>
  .call .now fun now =>
  e.stageCreate candidate (e.dated { draft with id := "apply-" ++ hexEncode idBytes } now)
    (hexEncode tokenBytes)

/-- the part of `Apply` after every check has passed -/
def applyArmed (id : String) (transaction : Transaction) (manifest : Manifest)
    (directory : String) : Prog (Except ApplyError Unit) :=
  .call (.backend .apply manifest directory) fun
  | .error _ => rollback transaction.id manifest directory "CANDIDATE_APPLY_FAILED"
  | .ok () =>
  .call (.setPhase id .applied) fun
  | .error _ => rollback transaction.id manifest directory "APPLIED_STATUS_FAILED"
  | .ok () =>
  .call (.transition id [.armed] .applied "") fun
  | .error _ => rollback transaction.id manifest directory "APPLIED_DB_FAILED"
  | .ok () => .done (.ok ())

def apply (id : String) : Prog (Except ApplyError Unit) :=
  match e.validate with
  | .error err => .done (.error err)
  | .ok () =>
  .call (.get id) fun
  | .error err => .done (.error err)
  | .ok transaction =>
  if transaction.state ≠ .armed then .done (.error .state)
  else .call (.load id) fun
  | .error _ => .done (.error (.text "armed network apply durable state is unavailable"))
  | .ok (manifest, phase) =>
  match e.directory id with
  | .error _ => .done (.error (.text "armed network apply durable state is unavailable"))
  | .ok directory =>
  if phase ≠ .armed || !manifestMatchesTransaction e.lib manifest transaction directory then
    .done (.error (.text "armed network apply durable state is unavailable"))
  else match transaction.rollbackDeadline.parse with
  | none => rollback transaction.id manifest directory "APPLY_DEADLINE_EXPIRED"
  | some deadline =>
  .call .now fun now =>
  if ¬ now < deadline then
    rollback transaction.id manifest directory "APPLY_DEADLINE_EXPIRED"
  else applyArmed id transaction manifest directory

def tokenAccepted (transaction : Transaction) (evidence : ConfirmEvidence) : Bool :=
  hexDecode transaction.confirmTokenSHA256 = some (e.lib.sha256 evidence.token)

/-- `10.80.0.0/24` contains the address -/
def inManagementWireGuard (a : Addr) : Bool :=
  a.is4 && a.value / 256 = (10 * 256 + 80) * 256

/-- the request reached the gateway through a path that the manifest allows -/
def sourceAccepted (transaction : Transaction) (evidence : ConfirmEvidence) : Bool :=
  let destination := e.lib.parseAddr evidence.localDestinationIP
  let newDestination :=
    destination.any fun a => e.lib.addrString a.unmap = transaction.newDestinationIP
  !(evidence.viaWireGuard && evidence.viaLocalConsole) &&
    !(evidence.viaLocalConsole && !manifest.allowLocalConsoleConfirmation) &&
    !(manifest.requireWireGuardConfirmation && !evidence.viaWireGuard &&
      !evidence.viaLocalConsole) &&
    (!evidence.viaWireGuard || destination.any inManagementWireGuard || newDestination) &&
    (evidence.viaWireGuard || evidence.viaLocalConsole || newDestination)

end

def rollbackConfirmFailure (transaction : Transaction) (manifest : Manifest) (code : String) :
    Prog (Except ApplyError Unit) :=
  match e.directory transaction.id with
  | .error _ => .done (.error (.text "network apply confirmation durable state mismatch"))
  | .ok directory =>
  if !manifestMatchesTransaction e.lib manifest transaction directory then
    .done (.error (.text "network apply confirmation durable state mismatch"))
  else .call (.backend .rollback manifest directory) fun
  | .error _ =>
    .call (.setPhase transaction.id .failed) fun _ =>
    .call (.transition transaction.id [.confirming] .failed "ROLLBACK_FAILED") fun _ =>
    .done (.error (.text "network apply confirmation failed and rollback failed"))
  | .ok () =>
    .call (.setPhase transaction.id .rolledBack) fun _ =>
    .call (.transition transaction.id [.confirming] .rolledBack code) fun _ =>
    .done (.error (.text
      ("network apply confirmation failed and was rolled back (" ++ code ++ ")")))

/-- the part of `Confirm` after every check has passed -/
def confirmAccepted (id : String) (transaction : Transaction) (manifest : Manifest)
    (directory : String) : Prog (Except ApplyError Unit) :=
  .call (.setPhase id .confirming) fun
  | .error err => .done (.error (.wrap "record network apply confirmation intent: " err))
  | .ok () =>
  .call (.transition id [.applied] .confirming "") fun
  | .error err => .done (.error err)
  | .ok () =>
  .call (.disarm id) fun
  | .error _ => e.rollbackConfirmFailure transaction manifest "ROLLBACK_TIMER_DISARM_FAILED"
  | .ok () =>
  .call (.backend .commit manifest directory) fun
  | .error _ => e.rollbackConfirmFailure transaction manifest "CANDIDATE_COMMIT_FAILED"
  | .ok () =>
  .call (.setPhase id .confirmed) fun
  | .error err => .done (.error (.wrap "record confirmed network apply durable state: " err))
  | .ok () => .call (.transition id [.confirming] .confirmed "") .done

def confirm (id : String) (evidence : ConfirmEvidence) : Prog (Except ApplyError Unit) :=
  match e.validate with
  | .error err => .done (.error err)
  | .ok () =>
  .call (.get id) fun
  | .error err => .done (.error err)
  | .ok transaction =>
  if transaction.state ≠ .applied then .done (.error .state)
  else match transaction.rollbackDeadline.parse with
  | none => .done (.error .expired)
  | some deadline =>
  .call .now fun now =>
  if ¬ now < deadline then .done (.error .expired)
  else if !e.tokenAccepted transaction evidence then .done (.error .confirmToken)
  else .call (.load id) fun
  | .error _ => .done (.error (.text "network apply durable state is unavailable"))
  | .ok (manifest, phase) =>
  match e.directory id with
  | .error _ => .done (.error (.text "network apply durable state is unavailable"))
  | .ok directory =>
  if phase ≠ .applied || !manifestMatchesTransaction e.lib manifest transaction directory then
    .done (.error (.text "network apply durable state is unavailable"))
  else if !e.sourceAccepted manifest transaction evidence then .done (.error .confirmSource)
  else e.confirmAccepted id transaction manifest directory

/-! ### recovery -/

section
variable (item : Transaction)

/-- the last two steps of the confirming branch, which test and set the `err` of the function -/
def finishConfirming (err : Option ApplyError) : Prog (Option ApplyError) :=
  match err with
  | some stale => .done (some stale)
  | none =>
    .call (.setPhase item.id .confirmed) fun
    | .error failed => .done (some failed)
    | .ok () =>
      .call (.transition item.id [item.state] .confirmed "") fun
      | .error failed => .done (some failed)
      | .ok () => .done none

section
variable (manifest : Manifest)

/-- the confirming branch: its first `if` declares a variable `err` of its own, so that what
`Disarm` and `Commit` report is dropped at its end -/
def recoverConfirming (directory : String)
    (err : Option ApplyError) : Prog (Option ApplyError) :=
  .call (.disarm item.id) fun
  | .error _ => finishConfirming item err
  | .ok () =>
    .call (.backend .commit manifest directory) fun _ => finishConfirming item err

def recoverTransition (next : TxState) (code : String)
    (err : Option ApplyError) (failures : List ApplyError) :
    Prog (Option ApplyError × List ApplyError) :=
  .call (.transition item.id [item.state] next code) fun
  | .error failure => .done (err, failures ++ [failure])
  | .ok () => .done (err, failures)

/-- the default branch of the loop: put the host back -/
def recoverRollback (directory : String)
    (err : Option ApplyError) (failures : List ApplyError) :
    Prog (Option ApplyError × List ApplyError) :=
  .call (.backend .rollback manifest directory) fun
  | .error failure =>
    .done (err,
      failures ++ [.wrap ("rollback unfinished network apply " ++ item.id ++ ": ") failure])
  | .ok () =>
  .call (.disarm item.id) fun _ =>
  .call (.setPhase item.id .rolledBack) fun
  | .error failure => .done (err, failures ++ [failure])
  | .ok () => recoverTransition item .rolledBack "REBOOT_RECOVERY" err failures

/-- the `switch` of the loop: the error variable of the function and the failures so far -/
def recoverSwitch (phase : Phase)
    (directory : String) (err : Option ApplyError) (failures : List ApplyError) :
    Prog (Option ApplyError × List ApplyError) :=
  match phase with
  | .confirmed => recoverTransition item .confirmed "" err failures
  | .rolledBack => recoverTransition item .rolledBack "RECOVERED_ROLLBACK" err failures
  | .confirming =>
    (recoverConfirming item manifest directory err).bind fun
    | some failure =>
      .done (some failure,
        failures ++ [.wrap ("finish confirmed network apply " ++ item.id ++ ": ") failure])
    | none => .done (none, failures)
  | _ => recoverRollback item manifest directory err failures

/-- disk and database describe the same change, up to the deadline of a transaction that was not
armed yet -/
def recoverable (directory : String) : Bool :=
  manifestMatchesTransaction e.lib manifest item directory ||
    (item.state = .preparing && manifestCoreMatchesTransaction e.lib manifest item directory)

end

def recoverItem (err : Option ApplyError) (failures : List ApplyError) :
    Prog (Option ApplyError × List ApplyError) :=
  let failed (failure : ApplyError) : Option ApplyError × List ApplyError :=
    (err, failures ++ [.wrap ("recover network apply " ++ item.id ++ ": ") failure])
  .call (.load item.id) fun
  | .error loadErr => .done (failed loadErr)
  | .ok (manifest, phase) =>
  match e.directory item.id with
  | .error _ => .done (failed (.text "durable manifest and database transaction differ"))
  | .ok directory =>
  if !e.recoverable item manifest directory then
    .done (failed (.text "durable manifest and database transaction differ"))
  else recoverSwitch item manifest phase directory err failures

end

def recoverLoop : List Transaction → Option ApplyError → List ApplyError → Prog (List ApplyError)
  | [], _, failures => .done failures
  | item :: rest, err, failures =>
    (e.recoverItem item err failures).bind fun r => recoverLoop rest r.1 r.2

/-- the errors that `Recover` joins; the empty list is nil -/
def recover : Prog (List ApplyError) :=
  match e.validate with
  | .error err => .done [err]
  | .ok () =>
  .call .listUnfinished fun
  | .error err => .done [err]
  | .ok items => e.recoverLoop items none []

/-! ### the rollback timer -/

/-- `RollbackFromDisk`: whether the host was put back -/
def rollbackFromDisk (id : String) : Prog (Except ApplyError Bool) :=
  .call (.load id) fun
  | .error err => .done (.error err)
  | .ok (manifest, phase) =>
  if phase = .confirmed || phase = .confirming || phase = .rolledBack then .done (.ok false)
  else match e.directory id with
  | .error err => .done (.error err)
  | .ok directory =>
  .call (.backend .rollback manifest directory) fun
  | .error err => .call (.setPhase id .failed) fun _ => .done (.error err)
  | .ok () =>
  .call (.setPhase id .rolledBack) fun
  | .error err => .done (.error err)
  | .ok () => .done (.ok true)

/-- `gateway-vpn network-rollback`, with its exit code; `opened` says whether the engine's
database could be opened -/
def networkRollback (opened : Bool) (id : String) : Prog Nat :=
  .call (.load id) fun
  | .error _ => .done 1
  | .ok (manifest, _) =>
  if !opened && manifest.schemaVersion ≠ legacyManifestSchema then .done 1
  else (e.rollbackFromDisk id).bind fun
  | .error _ => .done 1
  | .ok false => .done 0
  | .ok true =>
  if !opened then .done 0
  else .call (.get id) fun
  | .error _ => .done 1
  | .ok transaction =>
  if transaction.state.unfinished then
    .call (.transition transaction.id [transaction.state] .rolledBack "ROLLBACK_TIMER") fun
    | .error _ => .done 1
    | .ok () => .done 0
  else .done 0

end Engine

/-! ## the calls of the engine -/

inductive Call where
  | stage (candidate : Candidate)
  | apply (id : String)
  | confirm (id : String) (evidence : ConfirmEvidence)
  | recover

def Call.Result : Call → Type
  | .stage _ => Except ApplyError Prepared
  | .apply _ => Except ApplyError Unit
  | .confirm _ _ => Except ApplyError Unit
  | .recover => List ApplyError

def Engine.proc (e : Engine) : (c : Call) → Prog c.Result
  | .stage candidate => e.stage candidate
  | .apply id => e.apply id
  | .confirm id evidence => e.confirm id evidence
  | .recover => e.recover

/-! ## a small installation

One Ethernet uplink is to be deleted; the gateway answers on one address only. -/

def sampleLib : Lib where
  parseAddr := fun _ => some ⟨true, 10 * 256 ^ 3 + 1, ""⟩
  addrString := fun _ => "10.0.0.1"
  parsePrefix := fun _ => none
  prefixString := fun _ => ""
  parseURL := fun _ => some
    { scheme := "https", host := "10.0.0.1:8443", hasUser := false, path := "", rawQuery := ""
      fragment := "", hostname := "10.0.0.1", port := "8443" }
  marshalEthernet := fun _ => some "delete"
  marshalTopology := fun _ => none
  sha256 := fun s => [UInt8.ofNat s.toList.length]
  validGatewayLAN := fun _ => false
  isUsableIPv4Host := fun _ _ => false
  validateEthernetInput := fun _ => none
  createdBefore := fun a b => a ≤ b

def sampleEngine : Engine := ⟨sampleLib, "/var/lib/gateway-vpn/transactions", 60 * second⟩

def sampleMutation : EthernetMutation where
  operation := .delete
  uplinkID := "uplink-2"
  expectedDesiredGeneration := 1
  targetInterfaceID := "netif:eth1"
  name := ""
  addressMode := ""
  ipv4CIDR := ""
  gateway := ""
  dns := []
  mtu := 0

def sampleCandidate : Candidate :=
  { ethernet := some sampleMutation
    managementURL := "https://10.0.0.1:8443", managementDestinationIP := "10.0.0.1" }

/-- no transaction yet, a clock that stands still, and random bytes that are all zero -/
def sampleWorld : World where
  table := ⟨[], List.nodup_nil⟩
  dirs := fun _ => none
  snapshots := fun _ => false
  log := []
  clock := fun _ => 0
  ticks := 0
  entropy := fun _ _ => 0
  draws := 0

def sampleID : String := "apply-00000000000000000000000000000000"

def sampleEvidence : ConfirmEvidence :=
  { token := "0000000000000000000000000000000000000000000000000000000000000000"
    localDestinationIP := "10.0.0.1" }

def sampleRun (turns : List (Call × List Fate)) : World :=
  runTurns (exec sampleEngine) sampleEngine.proc sampleWorld turns

end GatewayVpn.NetworkApply
