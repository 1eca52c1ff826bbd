import GatewayVpn.Calendar
import GatewayVpn.Durable.Proc

/-!
# Applying a staged restore

`Apply` replaces ten places of the file system by verified candidates: it quarantines each one as a
rollback copy, renames the candidate into its place, and keeps a journal that says how far it got.
A later run reads the journal and rolls back or finishes.  Every file operation is a call of its
own; a tree is removed entry by entry, and every other change of a name is one atomic call.

The contents of files and trees are an arbitrary type with the functions of `Library`.
-/

namespace GatewayVpn.Restore

open Durable

/-! ## places -/

inductive Item where
  | config
  | database
  | secrets
  | subscriptions
  | tls
  | mihomoGenerations
  | mihomoState
  | mihomoActive
  | databaseWAL
  | databaseSHM
  deriving DecidableEq

inductive ItemKind where
  | file
  | directory
  | active
  | remove

def Item.kind : Item → ItemKind
  | .config | .database => .file
  | .secrets | .subscriptions | .tls | .mihomoGenerations | .mihomoState => .directory
  | .mihomoActive => .active
  | .databaseWAL | .databaseSHM => .remove

def Item.install : Item → Bool
  | .mihomoActive | .databaseWAL | .databaseSHM => false
  | _ => true

def restoreItems : List Item :=
  [.config, .database, .secrets, .subscriptions, .tls, .mihomoGenerations, .mihomoState,
    .mihomoActive, .databaseWAL, .databaseSHM]

inductive Slot where
  | destination
  | candidate
  | rollback
  deriving DecidableEq

inductive FileType where
  | symlink
  | regular
  | directory
  | other
  deriving DecidableEq

/-- what is known about the contents of files and trees -/
structure Library (D : Type) where
  type : D → FileType
  /-- how many entries a directory has below it -/
  entries : D → Nat
  safe : D → Bool
  source : Item → D
  validConfig : D → Bool
  /-- the migrated database with its sessions revoked and blocked, the schema version and the number
  of sessions, if all checks pass; it depends on the time and on the snapshot taken before -/
  prepare : D → Int → Nat → Option (D × Int × Int)
  /-- the activated database is blocked, has no open session and names the restore once -/
  failClosed : D → Bool
  schemaVersion : D → Int
  /-- the live database after it was blocked and the restore was announced in it -/
  announce : D → D
  /-- what an open database leaves beside its file -/
  sidecar : D

/-- a file or a tree, and how many of its entries have been removed -/
structure Tree (D : Type) where
  data : D
  missing : Nat
  deriving DecidableEq

structure Place (D : Type) where
  destination : Option (Tree D)
  candidate : Option (Tree D)
  rollback : Option (Tree D)

namespace Place

variable {D : Type}

def get (p : Place D) : Slot → Option (Tree D)
  | .destination => p.destination
  | .candidate => p.candidate
  | .rollback => p.rollback

def set (p : Place D) (s : Slot) (t : Option (Tree D)) : Place D :=
  match s with
  | .destination => { p with destination := t }
  | .candidate => { p with candidate := t }
  | .rollback => { p with rollback := t }

end Place

/-! ## records -/

inductive Fault where
  | notPending
  | notAuthorized
  | text (message : String)
  | system
  deriving DecidableEq

/-- the joined error of `Apply`: whether `ErrRestoreSafelyRolledBack` is one of its parts, and the
others -/
structure Failure where
  safelyRolledBack : Bool
  causes : List Fault
  deriving DecidableEq

inductive JournalState where
  | prepared
  | applying
  | committed
  | rolledBack
  deriving DecidableEq

structure SwapItem where
  item : Item
  originalExists : Bool

structure Result where
  restoreID : String
  snapshotID : String
  preRestoreSnapshot : Nat
  schemaVersion : Int
  sessionsRevoked : Int
  appliedAt : Option Int
  reconcileRequired : Bool
  deriving DecidableEq

structure Journal where
  formatVersion : Nat
  restoreID : String
  state : JournalState
  appliedItems : Nat
  applyAuthorization : String
  rollbackErrorCode : String
  items : List SwapItem
  result : Result

inductive OperationState where
  | staged
  | applyRequested
  | applied
  deriving DecidableEq

structure Operation where
  restoreID : String
  snapshotID : String
  state : OperationState
  applyAuthorization : String
  applyErrorCode : String
  appliedAt : Option Int

def restoreIDPattern (s : String) : Bool :=
  fixed (literally "restore-" ++ List.replicate 32 isLowerHex) s.toList

def validDigest (s : String) : Bool := byteLength s = 64 && (hexDecode s).isSome

def validRestoreErrorCode (s : String) : Bool :=
  !(s = "" || byteLength s > 128) && s.toList.all fun c => c = '_' || isUpper c || isDigit c

def validRestoreOperation (o : Operation) : Bool :=
  restoreIDPattern o.restoreID && o.snapshotID ≠ "" &&
    match o.state with
    | .staged => o.applyAuthorization = "" && o.appliedAt = none &&
        (o.applyErrorCode = "" || validRestoreErrorCode o.applyErrorCode)
    | .applyRequested => validDigest o.applyAuthorization && o.applyErrorCode = "" &&
        o.appliedAt = none
    | .applied => o.applyAuthorization = "" && o.applyErrorCode = "" &&
        (o.appliedAt.bind parseTime).isSome

def sameRestoreIdentity (a b : Operation) : Bool :=
  a.restoreID = b.restoreID && a.snapshotID = b.snapshotID

def restoreApplyJournalVersion : Nat := 1

def validateApplyJournal (j : Journal) (restoreID : String) (expected : List Item) : Option Fault :=
  if j.formatVersion ≠ restoreApplyJournalVersion || j.restoreID ≠ restoreID ||
      !restoreIDPattern restoreID || j.appliedItems > expected.length ||
      j.items.length ≠ expected.length then
    some (.text "restore transaction journal contract is invalid")
  else if j.items.map SwapItem.item ≠ expected then
    some (.text "restore transaction journal contains an unexpected path")
  else if j.state = .committed &&
      (j.result.restoreID ≠ restoreID || j.result.appliedAt = none || !j.result.reconcileRequired) then
    some (.text "committed restore journal result is invalid")
  else if j.state = .committed && (j.result.appliedAt.bind parseTime).isNone then
    some (.text "committed restore journal timestamp is invalid")
  else if j.applyAuthorization ≠ "" && !validDigest j.applyAuthorization then
    some (.text "restore transaction journal authorization is invalid")
  else if j.state = .rolledBack && !validRestoreErrorCode j.rollbackErrorCode then
    some (.text "restore rollback journal code is invalid")
  else if j.state ≠ .rolledBack && j.rollbackErrorCode ≠ "" then
    some (.text "restore transaction journal has an unexpected rollback code")
  else none

/-! ## the world -/

/-- what the destinations and the candidates were when the journal was first written -/
structure Book (D : Type) where
  original : Item → Option (Tree D)
  verified : Item → Option (Tree D)

structure World (D : Type) where
  files : Item → Place D
  journal : Option Journal
  marker : Option Operation
  record : Option Operation
  lastRestore : Option Operation
  snapshots : Nat
  clock : Nat → Int
  reads : Nat
  book : Book D

namespace World

variable {D : Type}

section
variable (w : World D)

def now : Int := w.clock w.reads

def setPlace (i : Item) (p : Place D) : World D :=
  { w with files := Function.update w.files i p }

def get (i : Item) (s : Slot) : Option (Tree D) := (w.files i).get s

def put (i : Item) (s : Slot) (t : Option (Tree D)) : World D :=
  w.setPlace i ((w.files i).set s t)

def opened : Book D where
  original i := (w.files i).destination
  verified i := if i.install then (w.files i).candidate else none

end

end World

/-! ## calls -/

/-- a check of `verifyActivated` -/
inductive Check where
  | loadConfig
  | openDatabase
  | inspectDatabase
  | checkpoint
  | closeDatabase
  | removeWAL
  | removeSHM
  | syncDatabase
  | verifyDatabase (schemaVersion : Int)
  | inspectActive

inductive Op where
  | validate
  | readPending
  | verifyTree
  | writeMarker (o : Operation)
  | writeRecord (o : Operation)
  | writeLastRestore (o : Operation)
  | removeMarker
  | syncMarker
  | removeDirectory
  | now
  | lstatJournal
  | readJournal
  | writeJournal (j : Journal) (replace : Bool)
  | removeJournal
  | createSnapshot
  | checkDestination (i : Item)
  | createCandidate (i : Item)
  | fillCandidate (i : Item)
  | loadCandidateConfig
  | prepareDatabase (preRestoreSnapshot : Nat)
  | lstat (i : Item) (s : Slot)
  | managedExists (i : Item) (s : Slot)
  | walk (i : Item) (s : Slot)
  | removeEntry (i : Item) (s : Slot)
  | rename (i : Item) (source target : Slot)
  | syncParent (i : Item)
  | check (c : Check)

abbrev Op.Ret : Op → Type
  | .readPending => Except Fault (Option Operation)
  | .now => Int
  | .lstatJournal => Except Fault Bool
  | .readJournal => Except Fault Journal
  | .createSnapshot => Except Fault Nat
  | .checkDestination _ => Except Fault Bool
  | .prepareDatabase _ => Except Fault (Int × Int)
  | .lstat _ _ => Except Fault (Option FileType)
  | .managedExists _ _ => Bool
  | .walk _ _ => Except Fault Nat
  | _ => Except Fault Unit

section
variable {D : Type} (lib : Library D)

section
variable (w : World D)

def readPending : Except Fault (Option Operation) :=
  match w.marker with
  | none => .ok none
  | some m =>
    if validRestoreOperation m then
      match w.record with
      | none => .error (.text "pending restore operation record is missing or changed")
      | some r =>
        if validRestoreOperation r && sameRestoreIdentity m r then .ok (some r)
        else .error (.text "pending restore operation record is missing or changed")
    else .error (.text "pending restore marker is invalid")

def World.writeJournal (j : Journal) (replace : Bool) : Except Fault Unit × World D :=
  if replace then (.ok (), { w with journal := some j })
  else
    match w.journal with
    | some _ => (.error (.text "recovery record already exists"), w)
    | none => (.ok (), { w with journal := some j, book := w.opened })

/-- the live database is blocked and announces the restore before its snapshot is taken -/
def World.createSnapshot : Except Fault Nat × World D :=
  match w.get .database .destination with
  | none => (.error .system, w)
  | some t =>
    let v := w.put .database .destination (some ⟨lib.announce t.data, t.missing⟩)
    (.ok w.snapshots, { v with snapshots := w.snapshots + 1 })

section
variable (i : Item)

/-- `validateRestoreDestination` -/
def checkDestination (w : World D) : Except Fault Bool :=
  match w.get i .destination with
  | none => .ok false
  | some t =>
    match i.kind, lib.type t.data with
    | .file, .regular => .ok true
    | .file, _ => .error (.text "restore file destination has the wrong type")
    | .directory, .directory => .ok true
    | .directory, _ => .error (.text "restore directory destination has the wrong type")
    | .remove, .regular | .remove, .directory => .ok true
    | .remove, _ => .error (.text "restore removal destination has an unsafe type")
    | .active, .other => .error (.text "Mihomo active destination has an unsafe type")
    | .active, _ => .ok true

def World.createCandidate : Except Fault Unit × World D :=
  match w.get i .candidate with
  | some _ => (.error (.text "restore candidate already exists"), w)
  | none => (.ok (), w.put i .candidate (some ⟨lib.source i, lib.entries (lib.source i) + 1⟩))

def World.fillCandidate : Except Fault Unit × World D :=
  (.ok (), w.put i .candidate (some ⟨lib.source i, 0⟩))

def inspect (t : Option (Tree D)) (accepts : D → Bool) (absent refused : Fault) :
    Except Fault Unit :=
  match t with
  | none => .error absent
  | some t => if accepts t.data then .ok () else .error refused

def loadCandidateConfig : Except Fault Unit :=
  inspect (w.get .config .candidate) lib.validConfig
    (.text "prepared restore configuration failed fixed-path validation")
    (.text "prepared restore configuration failed fixed-path validation")

def World.prepareDatabase (pre : Nat) : Except Fault (Int × Int) × World D :=
  match w.get .database .candidate with
  | none => (.error .system, w)
  | some t =>
    match lib.prepare t.data w.now pre with
    | none => (.error (.text "prepared restored database failed standalone verification"), w)
    | some (data, version, revoked) =>
      let v := w.put .database .candidate (some ⟨data, 0⟩)
      (.ok (version, revoked), { v with reads := w.reads + 1 })

/-- the names that a walk over a tree finds, its root included -/
def Tree.walk (t : Tree D) : Except Fault Nat :=
  if lib.safe t.data then .ok (lib.entries t.data - t.missing + 1)
  else .error (.text "managed restore tree contains an unsafe entry")

def Tree.shrink (t : Tree D) : Option (Tree D) :=
  if lib.type t.data = .directory ∧ t.missing < lib.entries t.data then
    some { t with missing := t.missing + 1 }
  else none

def World.removeEntry (s : Slot) : Except Fault Unit × World D :=
  match w.get i s with
  | none => (.error .system, w)
  | some t => (.ok (), w.put i s (t.shrink lib))

/-- `rename` refuses to replace anything by or with a directory -/
def World.rename (source target : Slot) : Except Fault Unit × World D :=
  match w.get i source, w.get i target with
  | none, _ => (.error .system, w)
  | some t, none => (.ok (), (w.put i source none).put i target (some t))
  | some t, some u =>
    if lib.type t.data = .directory ∨ lib.type u.data = .directory then (.error .system, w)
    else (.ok (), (w.put i source none).put i target (some t))

def World.openSidecars : World D :=
  (w.put .databaseWAL .destination (some ⟨lib.sidecar, 0⟩)).put .databaseSHM .destination
    (some ⟨lib.sidecar, 0⟩)

def World.removeSidecar : Except Fault Unit × World D :=
  match w.get i .destination with
  | none => (.ok (), w)
  | some t =>
    if lib.type t.data = .regular then (.ok (), w.put i .destination none)
    else (.error (.text "SQLite backup sidecar is unsafe"), w)

end

def World.check : Check → Except Fault Unit × World D
  | .loadConfig =>
    (inspect (w.get .config .destination) lib.validConfig
      (.text "activated restore configuration failed verification")
      (.text "activated restore configuration failed verification"), w)
  | .openDatabase =>
    match w.get .database .destination with
    | none => (.error .system, w)
    | some _ => (.ok (), w.openSidecars lib)
  | .inspectDatabase =>
    (inspect (w.get .database .destination) lib.failClosed .system
      (.text "activated restored database is not fail-closed or session-revoked"), w)
  | .checkpoint => (.ok (), w)
  | .closeDatabase => (.ok (), w)
  | .removeWAL => w.removeSidecar lib .databaseWAL
  | .removeSHM => w.removeSidecar lib .databaseSHM
  | .syncDatabase => (.ok (), w)
  | .verifyDatabase version =>
    (inspect (w.get .database .destination) (fun d => lib.schemaVersion d = version) .system
      (.text "activated restored database failed final standalone verification"), w)
  | .inspectActive =>
    (match w.get .mihomoActive .destination with
      | none => .ok ()
      | some _ => .error (.text "stale Mihomo active generation remained after restore"), w)

end

def managedExists (i : Item) (s : Slot) (w : World D) : Bool :=
  match w.get i s with
  | none => false
  | some t => lib.type t.data ≠ .other

def exec : (o : Op) → Fate → World D → o.Ret × World D
  | .validate, f, w => f.deliver .system (.ok (), w) w
  | .readPending, f, w => f.deliver .system (readPending w, w) w
  | .verifyTree, f, w => f.deliver .system (.ok (), w) w
  | .writeMarker o, f, w => f.deliver .system (.ok (), { w with marker := some o }) w
  | .writeRecord o, f, w => f.deliver .system (.ok (), { w with record := some o }) w
  | .writeLastRestore o, f, w => f.deliver .system (.ok (), { w with lastRestore := some o }) w
  | .removeMarker, f, w => f.deliver .system (.ok (), { w with marker := none }) w
  | .syncMarker, f, w => f.deliver .system (.ok (), w) w
  | .removeDirectory, f, w => f.deliver .system (.ok (), { w with record := none }) w
  | .now, _, w => (w.now, { w with reads := w.reads + 1 })
  | .lstatJournal, f, w => f.deliver .system (.ok w.journal.isSome, w) w
  | .readJournal, f, w =>
    f.deliver .system (w.journal.elim (.error .system) .ok, w) w
  | .writeJournal j replace, f, w => f.deliver .system (w.writeJournal j replace) w
  | .removeJournal, f, w => f.deliver .system (.ok (), { w with journal := none }) w
  | .createSnapshot, f, w => f.deliver .system (w.createSnapshot lib) w
  | .checkDestination i, f, w => f.deliver .system (checkDestination lib i w, w) w
  | .createCandidate i, f, w => f.deliver .system (w.createCandidate lib i) w
  | .fillCandidate i, f, w => f.deliver .system (w.fillCandidate lib i) w
  | .loadCandidateConfig, f, w => f.deliver .system (loadCandidateConfig lib w, w) w
  | .prepareDatabase pre, f, w => f.deliver .system (w.prepareDatabase lib pre) w
  | .lstat i s, f, w =>
    f.deliver .system (.ok ((w.get i s).map fun t => lib.type t.data), w) w
  -- a file that cannot be inspected counts as absent
  | .managedExists i s, f, w => (f = .ok && managedExists lib i s w, w)
  | .walk i s, f, w =>
    f.deliver .system ((w.get i s).elim (.error .system) (Tree.walk lib), w) w
  | .removeEntry i s, f, w => f.deliver .system (w.removeEntry lib i s) w
  | .rename i source target, f, w => f.deliver .system (w.rename lib i source target) w
  | .syncParent _, f, w => f.deliver .system (.ok (), w) w
  | .check c, f, w => f.deliver .system (w.check lib c) w

end

/-! ## procedures -/

abbrev Act (α : Type) := Proc Op Op.Ret α

abbrev Try (α : Type) := Act (Except (List Fault) α)

def lift (o : Op) (h : o.Ret = Except Fault Unit) : Try Unit :=
  .call o fun r =>
    match cast h r with
    | .error e => .done (.error [e])
    | .ok () => .done (.ok ())

abbrev Final := Act (Except Failure Result)

def fails (es : List Fault) : Final := .done (.error ⟨false, es⟩)

def errorsOf {α : Type} : Except (List Fault) α → List Fault
  | .error es => es
  | .ok _ => []

/-! ### the pending operation -/

def verifyPending : Try Operation :=
  .call .readPending fun
  | .error e => .done (.error [e])
  | .ok none => .done (.error [.notPending])
  | .ok (some o) =>
    if o.state ≠ .applyRequested then .done (.error [.notAuthorized])
    else (lift .verifyTree rfl).attempt (fun es => .done (.error es)) fun _ => .done (.ok o)

def markApplyFailure (restoreID code : String) : Try Unit :=
  if restoreIDPattern restoreID && validRestoreErrorCode code then
    .call .readPending fun
    | .error e => .done (.error [e])
    | .ok none => .done (.error [.notPending])
    | .ok (some o) =>
      if o.restoreID ≠ restoreID || o.state ≠ .applyRequested then .done (.error [.notPending])
      else
        let o : Operation := { o with state := .staged, applyAuthorization := "", applyErrorCode := code }
        (lift (.writeRecord o) rfl).attempt (fun es => .done (.error es)) fun _ =>
          lift (.writeMarker o) rfl
  else .done (.error [.text "valid restore id and apply failure code are required"])

def complete (restoreID : String) (appliedAt : Option Int) : Try Unit :=
  .call .readPending fun
  | .error e => .done (.error [e])
  | .ok none => .done (.error [.notPending])
  | .ok (some o) =>
    if o.restoreID ≠ restoreID || o.state ≠ .applyRequested then .done (.error [.notPending])
    else if (appliedAt.bind parseTime).isNone then
      .done (.error [.text "valid restore completion timestamp is required"])
    else
      let o : Operation :=
        { o with state := .applied, applyAuthorization := "", appliedAt := appliedAt, applyErrorCode := "" }
      (lift (.writeLastRestore o) rfl).attempt (fun es => .done (.error es)) fun _ =>
      (lift .removeMarker rfl).attempt (fun es => .done (.error es)) fun _ =>
      (lift .syncMarker rfl).attempt (fun es => .done (.error es)) fun _ =>
      lift .removeDirectory rfl

/-- `AuthorizeApply` with the authorization that was generated; an operator calls it between two runs -/
def authorizeApply (restoreID authorization : String) : Try Unit :=
  .call .readPending fun
  | .error e => .done (.error [e])
  | .ok none => .done (.error [.notPending])
  | .ok (some o) =>
    if o.restoreID ≠ restoreID || o.state = .applied then .done (.error [.notPending])
    else
      let o : Operation :=
        { o with
          state := .applyRequested
          applyAuthorization := if o.state = .staged then authorization else o.applyAuthorization
          applyErrorCode := ""
          appliedAt := none }
      (lift (.writeMarker o) rfl).attempt (fun es => .done (.error es)) fun _ =>
        lift (.writeRecord o) rfl

/-! ### removing -/

def removeEntries (i : Item) (s : Slot) : Nat → Try Unit
  | 0 => .done (.ok ())
  | n + 1 => (lift (.removeEntry i s) rfl).attempt (fun es => .done (.error es)) fun _ =>
    removeEntries i s n

def removeManaged (i : Item) (s : Slot) : Try Unit :=
  .call (.lstat i s) fun
  | .error _ => .done (.error [.text "managed restore path is unsafe"])
  | .ok none => .done (.ok ())
  | .ok (some .other) => .done (.error [.text "managed restore path is unsafe"])
  | .ok (some .directory) => .call (.walk i s) fun
    | .error e => .done (.error [e])
    | .ok n => removeEntries i s n
  | .ok (some _) => lift (.removeEntry i s) rfl

/-- candidates and rollback copies; every path is tried -/
def cleanupCandidates : List Item → Act (List Fault)
  | [] => .done []
  | i :: rest =>
    (if i.install then removeManaged i .candidate else .done (.ok ())).bind fun r =>
    (removeManaged i .rollback).bind fun r' =>
    (cleanupCandidates rest).bind fun es => .done (errorsOf r ++ errorsOf r' ++ es)

/-! ### preparing -/

def checkDestinations : List Item → Try (List SwapItem)
  | [] => .done (.ok [])
  | i :: rest => .call (.checkDestination i) fun
    | .error e => .done (.error [e])
    | .ok found => (checkDestinations rest).attempt (fun es => .done (.error es)) fun items =>
      .done (.ok (⟨i, found⟩ :: items))

def copyCandidate (i : Item) : Try Unit :=
  (lift (.createCandidate i) rfl).attempt (fun es => .done (.error es)) fun _ =>
    lift (.fillCandidate i) rfl

def copyCandidates : List Item → Try Unit
  | [] => .done (.ok ())
  | i :: rest => (copyCandidate i).attempt (fun es => .done (.error es)) fun _ => copyCandidates rest

/-- the schema version of the prepared database and the number of revoked sessions -/
def makeCandidates (pre : Nat) : Try (Int × Int) :=
  (copyCandidate .config).attempt (fun es => .done (.error es)) fun _ =>
  (lift .loadCandidateConfig rfl).attempt (fun es => .done (.error es)) fun _ =>
  (copyCandidate .database).attempt (fun es => .done (.error es)) fun _ =>
  .call (.prepareDatabase pre) fun
  | .error e => .done (.error [e])
  | .ok r =>
    (copyCandidates [.secrets, .subscriptions, .tls, .mihomoGenerations, .mihomoState]).attempt
      (fun es => .done (.error es)) fun _ => .done (.ok r)

def prepareCandidates (pre : Nat) : Try (List SwapItem × Int × Int) :=
  (cleanupCandidates restoreItems).bind fun es =>
  if es ≠ [] then .done (.error es)
  else
    (checkDestinations restoreItems).attempt (fun es => .done (.error es)) fun items =>
    (makeCandidates pre).attempt (fun es => .done (.error es)) fun r => .done (.ok (items, r))

/-! ### activating -/

def activateCandidate (i : Item) : Try Unit :=
  if i.install then
    (lift (.rename i .candidate .destination) rfl).attempt (fun es => .done (.error es)) fun _ =>
      lift (.syncParent i) rfl
  else .done (.ok ())

def activateItem (it : SwapItem) : Try Unit :=
  .call (.lstat it.item .rollback) fun
  | .error e => .done (.error [e])
  | .ok (some _) => .done (.error [.text "restore rollback destination already exists"])
  | .ok none =>
    if it.originalExists then
      .call (.lstat it.item .destination) fun
      | .ok (some _) =>
        (lift (.rename it.item .destination .rollback) rfl).attempt (fun es => .done (.error es))
          fun _ => (lift (.syncParent it.item) rfl).attempt (fun es => .done (.error es)) fun _ =>
            activateCandidate it.item
      | _ => .done (.error [.text "restore destination disappeared before activation"])
    else activateCandidate it.item

def checks : List Check → Try Unit
  | [] => .done (.ok ())
  | c :: rest => (lift (.check c) rfl).attempt (fun es => .done (.error es)) fun _ => checks rest

def activationChecks (schemaVersion : Int) : List Check :=
  [.loadConfig, .openDatabase, .inspectDatabase, .checkpoint, .closeDatabase, .removeWAL,
    .removeSHM, .syncDatabase, .verifyDatabase schemaVersion, .inspectActive]

def verifyActivated (result : Result) : Try Unit := checks (activationChecks result.schemaVersion)

def writeJournal (j : Journal) (replace : Bool) : Try Unit :=
  match validateApplyJournal j j.restoreID (j.items.map SwapItem.item) with
  | some e => .done (.error [e])
  | none => lift (.writeJournal j replace) rfl

def removeJournal (restoreID : String) : Try Unit :=
  if restoreIDPattern restoreID then lift .removeJournal rfl
  else .done (.error [.text "refuse to remove unmanaged restore transaction journal"])

/-! ### rolling back -/

def candidateExists (i : Item) : Act Bool :=
  if i.install then .call (.managedExists i .candidate) .done else .done false

def finishRollback (i : Item) (candidate : Bool) (failures : List Fault) : Act (List Fault) :=
  (if candidate then removeManaged i .candidate else .done (.ok ())).bind fun r =>
  (lift (.syncParent i) rfl).bind fun r' => .done (failures ++ errorsOf r ++ errorsOf r')

def restoreCopy (i : Item) (candidate : Bool) : Act (List Fault) :=
  (removeManaged i .destination).attempt .done fun _ =>
  (lift (.rename i .rollback .destination) rfl).attempt .done fun _ =>
  finishRollback i candidate []

/-- without a rollback copy: what was not there originally, and is no longer a candidate, goes -/
def dropActivated (it : SwapItem) (candidate : Bool) : Act (List Fault) :=
  if !it.originalExists && (!it.item.install || !candidate) then
    (removeManaged it.item .destination).bind fun r =>
    finishRollback it.item candidate (errorsOf r)
  else finishRollback it.item candidate []

def rollbackItem (it : SwapItem) : Act (List Fault) :=
  .call (.managedExists it.item .rollback) fun (rollback : Bool) =>
  (candidateExists it.item).bind fun candidate =>
  if rollback then restoreCopy it.item candidate else dropActivated it candidate

def rollbackEach : List SwapItem → Act (List Fault)
  | [] => .done []
  | it :: rest => (rollbackItem it).bind fun es =>
    (rollbackEach rest).bind fun fs => .done (es ++ fs)

/-- from the last item to the first; every item is tried -/
def rollbackItems (items : List SwapItem) : Act (List Fault) := rollbackEach items.reverse

def finalizeRolledBack (restoreID code : String) (cause : List Fault) : Final :=
  if validRestoreErrorCode code then
    (markApplyFailure restoreID code).attempt (fun es => .done (.error ⟨true, cause ++ es⟩)) fun _ =>
    (removeJournal restoreID).bind fun r => .done (.error ⟨true, cause ++ errorsOf r⟩)
  else fails (cause ++ [.text "restore rollback record has an invalid error code"])

def rollbackFailure (restoreID : String) (j : Journal) (cause : List Fault) : Final :=
  (rollbackItems j.items).bind fun failures =>
  if failures ≠ [] then fails (cause ++ failures)
  else
    let j : Journal :=
      { j with state := .rolledBack, rollbackErrorCode := "RESTORE_APPLY_FAILED_ROLLED_BACK" }
    (writeJournal j true).attempt
      (fun es => fails (cause ++
        .text "restore rollback completed but its durable record failed" :: es))
      fun _ => finalizeRolledBack restoreID j.rollbackErrorCode cause

/-! ### committing -/

def removeCopies : List SwapItem → Try Unit
  | [] => .done (.ok ())
  | it :: rest =>
    (removeManaged it.item .rollback).attempt (fun es => .done (.error es)) fun _ =>
    (if it.item.install then removeManaged it.item .candidate else .done (.ok ())).attempt
      (fun es => .done (.error es)) fun _ => removeCopies rest

def finalizeCommitted (items : List SwapItem) (result : Result) : Final :=
  (removeCopies items).attempt fails fun _ =>
  (complete result.restoreID result.appliedAt).attempt fails fun _ =>
  (removeJournal result.restoreID).attempt fails fun _ =>
  .done (.ok result)

/-! ### apply -/

def activateEach (restoreID : String) (j : Journal) : List SwapItem → (Journal → Final) → Final
  | [], k => k j
  | it :: rest, k =>
    (activateItem it).attempt (rollbackFailure restoreID j) fun _ =>
    (writeJournal { j with appliedItems := j.appliedItems + 1 } true).attempt
      (rollbackFailure restoreID { j with appliedItems := j.appliedItems + 1 }) fun _ =>
    activateEach restoreID { j with appliedItems := j.appliedItems + 1 } rest k

def commit (restoreID : String) (j : Journal) : Final :=
  (verifyActivated j.result).attempt (rollbackFailure restoreID j) fun _ =>
  .call .now fun (now : Int) =>
    let result := { j.result with appliedAt := some now }
    let j := { j with state := .committed, result := result }
    (writeJournal j true).attempt (rollbackFailure restoreID j) fun _ =>
    finalizeCommitted j.items result

def startApplying (restoreID : String) (j : Journal) : Final :=
  (writeJournal j true).attempt (rollbackFailure restoreID j) fun _ =>
  activateEach restoreID j j.items (commit restoreID)

def abandon (restoreID code : String) (cleanup : Bool) (es : List Fault) : Final :=
  (if cleanup then cleanupCandidates restoreItems else .done []).bind fun _ =>
  (markApplyFailure restoreID code).bind fun _ => fails es

section
variable (o : Operation)

def newJournal (items : List SwapItem) (result : Result) : Journal where
  formatVersion := restoreApplyJournalVersion
  restoreID := o.restoreID
  state := .prepared
  appliedItems := 0
  applyAuthorization := o.applyAuthorization
  rollbackErrorCode := ""
  items := items
  result := result

def applyFresh : Final :=
  .call .createSnapshot fun
  | .error e => abandon o.restoreID "PRE_RESTORE_SNAPSHOT_FAILED" false [e]
  | .ok pre =>
    (prepareCandidates pre).attempt
      (abandon o.restoreID "RESTORE_CANDIDATE_PREPARATION_FAILED" true)
      fun (items, version, revoked) =>
        let result : Result := ⟨o.restoreID, o.snapshotID, pre, version, revoked, none, true⟩
        let j := newJournal o items result
        (writeJournal j false).attempt
          (abandon o.restoreID "RESTORE_JOURNAL_CREATE_FAILED" true)
          fun _ => startApplying o.restoreID { j with state := .applying }

def rollbackInterrupted (j : Journal) : Final :=
  (rollbackItems j.items).bind fun failures =>
  if failures ≠ [] then
    fails (.text "interrupted restore transaction is unsafe" :: failures)
  else
    let j : Journal :=
      { j with
        state := .rolledBack
        applyAuthorization := o.applyAuthorization
        rollbackErrorCode := "RESTORE_INTERRUPTED_ROLLED_BACK" }
    (writeJournal j true).attempt
      (fun es => fails
        (.text "interrupted restore was rolled back but the durable rollback record failed" :: es))
      fun _ => finalizeRolledBack o.restoreID j.rollbackErrorCode []

/-- the journal was written for another authorization than the operation has now -/
def Journal.foreign (j : Journal) (o : Operation) : Bool :=
  j.applyAuthorization ≠ "" && j.applyAuthorization ≠ o.applyAuthorization

def resumeWith (j : Journal) : Final :=
  match j.state with
  | .rolledBack =>
    if j.foreign o then
      (removeJournal o.restoreID).attempt fails fun _ => applyFresh o
    else finalizeRolledBack o.restoreID j.rollbackErrorCode []
  | .committed =>
    if j.foreign o then
      fails [.text "interrupted restore journal belongs to a different apply authorization"]
    else
      (verifyActivated j.result).attempt (rollbackFailure o.restoreID j) fun _ =>
        finalizeCommitted j.items j.result
  | _ =>
    if j.foreign o then
      fails [.text "interrupted restore journal belongs to a different apply authorization"]
    else rollbackInterrupted o j

def resumeInterrupted : Final :=
  .call .readJournal fun
  | .error e => fails [.text "interrupted restore journal cannot be read safely", e]
  | .ok j =>
    match validateApplyJournal j o.restoreID restoreItems with
    | some e => fails [.text "interrupted restore journal cannot be trusted", e]
    | none => resumeWith o j

end

def apply : Final :=
  (lift .validate rfl).attempt fails fun _ =>
  verifyPending.attempt fails fun o =>
  .call .lstatJournal fun
  | .error _ => fails [.text "inspect restore transaction journal failed"]
  | .ok true => resumeInterrupted o
  | .ok false => applyFresh o

end GatewayVpn.Restore
