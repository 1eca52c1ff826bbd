import GatewayVpn.Durable.Part
import GatewayVpn.Durable.Table
import GatewayVpn.Update.Contract

/-!
# Update: the transaction journal

The journal of an update transaction is written twice: to `journal.json` in the directory of the
transaction, and then to `active.json` in the root.  `LoadActive` prefers the first copy as long
as it is unfinished, and falls back on the second.
-/

namespace GatewayVpn.Update

open Durable List Option Table

/-! ## the record -/

inductive TransactionKind where
  | unset
  | signedUpdate
  | restorePointRollback
  | unknown (s : String)
  deriving DecidableEq

inductive TransactionState where
  | prepared
  | quiesced
  | restorePointReady
  | candidateReady
  | databaseSwitchPending
  | databaseSwitched
  | releaseSwitchPending
  | switched
  | healthChecking
  | stabilizing
  | rollingBack
  | rolledBack
  | rollbackFailed
  | finalized
  | unknown (s : String)
  deriving DecidableEq

def validTransactionState : TransactionState → Bool
  | .unknown _ => false
  | _ => true

def stateMayHaveSwitchedDatabase : TransactionState → Bool
  | .databaseSwitchPending | .databaseSwitched | .releaseSwitchPending | .switched
  | .healthChecking | .stabilizing | .finalized => true
  | _ => false

def terminalState : TransactionState → Bool
  | .rolledBack | .finalized => true
  | _ => false

def journalFormatVersion : Int := 3

structure Journal where
  formatVersion : Int := journalFormatVersion
  operationKind : TransactionKind := .unset
  updateID : String
  state : TransactionState
  startedAt : Stamp
  updatedAt : Stamp
  oldVersion : String
  newVersion : String
  oldCurrentTarget : String
  newCurrentTarget : String
  preUpdateSnapshotID : String := ""
  restorePointID : String := ""
  targetRestorePointID : String := ""
  oldSchemaVersion : Int := 0
  newSchemaVersion : Int := 0
  candidateDBSHA256 : String := ""
  databaseReplacementStarted : Bool := false
  mihomoWasActive : Bool := false
  dnsMasqWasActive : Bool := false
  stabilityDeadline : Stamp := .malformed ""
  errorCode : String := ""
  sourceKind : String := ""
  sourceChannel : String := ""
  sourceReference : String := ""

def Journal.transactionKind (j : Journal) : TransactionKind :=
  if j.operationKind = .unset then .signedUpdate else j.operationKind

def Journal.inProgress (j : Journal) : Bool := !terminalState j.state

/-! ## the contract -/

def notBefore (first second : Stamp) : Bool :=
  match first.parse, second.parse with
  | some s, some t => s ≤ t
  | _, _ => false

section
variable (j : Journal)

def validHeader : Bool :=
  1 ≤ j.formatVersion && j.formatVersion ≤ journalFormatVersion && updateIDPattern j.updateID &&
    validTransactionState j.state && !(j.formatVersion = 1 && j.state = .restorePointReady) &&
    notBefore j.startedAt j.updatedAt && versionPattern j.oldVersion &&
    versionPattern j.newVersion &&
    !(j.transactionKind = .signedUpdate && j.oldVersion = j.newVersion) &&
    j.oldCurrentTarget = "releases/v" ++ j.oldVersion &&
    j.newCurrentTarget = "releases/v" ++ j.newVersion && errorCodePattern j.errorCode

def validReferences : Bool :=
  (j.transactionKind = .signedUpdate || j.transactionKind = .restorePointRollback) &&
    (j.preUpdateSnapshotID = "" || snapshotIDPattern j.preUpdateSnapshotID) &&
    (j.restorePointID = "" || restorePointIDPattern j.restorePointID) &&
    (if j.transactionKind = .restorePointRollback then
        restorePointIDPattern j.targetRestorePointID && j.sourceKind = "" &&
          j.sourceChannel = "" && j.sourceReference = ""
      else j.targetRestorePointID = "") &&
    validSourceFields j.sourceKind j.sourceChannel j.sourceReference

/-- the journal of a transaction whose database is prepared or may be in place -/
def hasCandidate : Bool :=
  j.state = .candidateReady || stateMayHaveSwitchedDatabase j.state || j.databaseReplacementStarted

def validDatabases : Bool :=
  0 ≤ j.oldSchemaVersion && 0 ≤ j.newSchemaVersion &&
    (j.candidateDBSHA256 = "" || digestPattern j.candidateDBSHA256) &&
    !(2 ≤ j.formatVersion && (j.state = .restorePointReady || j.preUpdateSnapshotID ≠ "") &&
      j.restorePointID = "") &&
    !(j.state = .restorePointReady && (j.preUpdateSnapshotID = "" || j.oldSchemaVersion < 1)) &&
    !(hasCandidate j && (j.preUpdateSnapshotID = "" || j.oldSchemaVersion < 1 ||
      j.newSchemaVersion < 1 || !digestPattern j.candidateDBSHA256 ||
      (j.transactionKind = .signedUpdate && j.newSchemaVersion < j.oldSchemaVersion)))

def validDeadline : Bool :=
  if j.state = .stabilizing || j.state = .finalized then
    match j.stabilityDeadline.parse, j.updatedAt.parse with
    | some deadline, some updated => !(deadline < updated && j.state = .stabilizing)
    | _, _ => false
  else
    j.stabilityDeadline = .malformed "" || j.state = .rollingBack || j.state = .rolledBack ||
      j.state = .rollbackFailed

def validJournal : Bool :=
  validHeader j && validReferences j && validDatabases j && validDeadline j

end

/-! ## the files -/

structure TransactionDirectory where
  id : String
  journal : Option Journal := none
  temporary : Option Journal := none

/-- the root of the store: its directories, `active.json`, and the file that is about to become it.
A file holds the encoding of a journal, which has its own checksum; a root that does not exist yet
reads like an empty one -/
structure JournalFiles where
  directories : Table TransactionDirectory.id := .empty
  active : Option Journal := none
  activeTemporary : Option Journal := none

inductive Copy where
  | transaction (id : String)
  | active
  deriving DecidableEq

inductive StoreOp where
  | secureRoot
  | secureDirectory (id : String)
  | removeTemporary (c : Copy)
  | writeTemporary (c : Copy) (j : Journal)
  | replace (c : Copy)
  | sync (c : Copy)
  | syncRoot

def systemError : UpdateError := .text "input/output error"

def StoreOp.error : StoreOp → UpdateError
  | .secureRoot | .secureDirectory _ => .wrapped "create secure update directory" systemError
  | .writeTemporary _ _ => .text "write signed release metadata failed"
  | _ => systemError

variable {w : JournalFiles} {c : Copy}

namespace JournalFiles

section
variable (w : JournalFiles)

def setTemporary (c : Copy) (content : Option Journal) : JournalFiles :=
  match c with
  | .active => { w with activeTemporary := content }
  | .transaction id =>
    { w with
      directories := w.directories.update id (fun d => { d with temporary := content })
        (fun _ => rfl) }

def temporary : Copy → Option Journal
  | .active => w.activeTemporary
  | .transaction id => (w.directories.find id).bind TransactionDirectory.temporary

def setCopy (c : Copy) (content : Journal) : JournalFiles :=
  match c with
  | .active => { w with active := some content }
  | .transaction id =>
    { w with
      directories := w.directories.update id (fun d => { d with journal := some content })
        (fun _ => rfl) }

def hasParent : Copy → Bool
  | .active => true
  | .transaction id => (w.directories.find id).isSome

/-- what is found under the name of a copy: nothing where its directory does not exist -/
def view : Copy → Option (Option Journal)
  | .active => some w.active
  | .transaction id => (w.directories.find id).map TransactionDirectory.journal

theorem view_setTemporary (c c' : Copy) (content : Option Journal) :
    (w.setTemporary c content).view c' = w.view c' := by
  cases c with
  | active => cases c' <;> rfl
  | transaction id =>
  cases c' with
  | active => rfl
  | transaction id' =>
  simp only [setTemporary, view]
  rw [Table.find_update, Option.map_map]
  congr 1
  funext d
  show TransactionDirectory.journal (if d.id = id then _ else d) = _
  split <;> rfl

end

theorem view_setCopy_ne {c' : Copy} (j : Journal) (hne : c' ≠ c) :
    (w.setCopy c j).view c' = w.view c' := by
  cases c with
  | active =>
    cases c' with
    | active => exact absurd rfl hne
    | transaction id' => rfl
  | transaction id =>
  cases c' with
  | active => rfl
  | transaction id' =>
  have hid : id' ≠ id := fun h => hne (by rw [h])
  simp only [setCopy, view]
  rw [find_update_ne _ hid]

theorem view_setCopy_self (j : Journal) (hc : w.hasParent c) :
    (w.setCopy c j).view c = some (some j) := by
  cases c with
  | active => rfl
  | transaction id =>
  obtain ⟨d, hd⟩ := isSome_iff_exists.mp hc
  simp only [setCopy, view]
  rw [find_update_self, hd]
  rfl

theorem hasParent_iff : w.hasParent c = true ↔ w.view c ≠ none := by
  cases c with
  | active => exact ⟨nofun, fun _ => rfl⟩
  | transaction id =>
  show (w.directories.find id).isSome = true ↔ (w.directories.find id).map _ ≠ none
  cases w.directories.find id with
  | none => exact ⟨nofun, fun h => absurd rfl h⟩
  | some d => exact ⟨nofun, fun _ => rfl⟩

end JournalFiles

def StoreOp.effect (w : JournalFiles) : StoreOp → Except UpdateError Unit × JournalFiles
  | .secureRoot => (.ok (), w)
  | .secureDirectory id =>
    (.ok (), { w with directories := w.directories.ensure { id := id } })
  | .removeTemporary c => (.ok (), w.setTemporary c none)
  | .writeTemporary c j =>
    if !w.hasParent c || (w.temporary c).isSome then
      (.error (.wrapped "create" (.text "file exists")), w)
    else (.ok (), w.setTemporary c (some j))
  | .replace c =>
    match w.temporary c with
    | none => (.error systemError, w)
    | some j => (.ok (), (w.setCopy c j).setTemporary c none)
  | .sync _ | .syncRoot => (.ok (), w)

def storeExec (o : StoreOp) (f : Fate) (w : JournalFiles) : Except UpdateError Unit × JournalFiles :=
  f.deliver o.error (o.effect w) w

abbrev StoreProg := Proc StoreOp (fun _ => Except UpdateError Unit)

/-! ## `Save` -/

/-- go on when a step succeeds, and report its error -/
def andThen (o : StoreOp) (p : StoreProg (Except UpdateError Unit)) :
    StoreProg (Except UpdateError Unit) :=
  .call o fun
  | .error err => .done (.error err)
  | .ok () => p

def writeAtomic (c : Copy) (j : Journal) : StoreProg (Except UpdateError Unit) :=
  andThen (.removeTemporary c) <|
  andThen (.writeTemporary c j) <|
  .call (.replace c) fun
  | .error err => .call (.removeTemporary c) fun _ => .done (.error err)
  | .ok () => andThen (.sync c) (.done (.ok ()))

def save (j : Journal) : StoreProg (Except UpdateError Unit) :=
  if !validJournal j then .done (.error (.text "update journal root or contract is invalid"))
  else
    andThen .secureRoot <|
    andThen (.secureDirectory j.updateID) <|
    (writeAtomic (.transaction j.updateID) j).attempt (fun err => .done (.error err)) fun _ =>
    (writeAtomic .active j).attempt (fun err => .done (.error err)) fun _ =>
    andThen .syncRoot (.done (.ok ()))

/-! ## `LoadActive` -/

def maximumJournalBytes : Nat := 64 * 2 ^ 10

structure JournalCodec where
  bytes : Journal → Nat

section
variable (codec : JournalCodec)

def readJournal (content : Option Journal) : Except UpdateError Journal :=
  match content with
  | none => .error (.text "update journal is unavailable or unsafe")
  | some j =>
    if codec.bytes j > maximumJournalBytes then
      .error (.text "update journal is unavailable or unsafe")
    else if !validJournal j then .error (.text "update journal contract is invalid")
    else .ok j

/-- the directories in the order of `os.ReadDir` -/
def JournalFiles.entries (w : JournalFiles) : List TransactionDirectory :=
  w.directories.rows.insertionSort fun a b => !lexLess b.id.toList a.id.toList

/-- the loop of `findRecoverable`: the unfinished journals, or the first error -/
def recoverable : List TransactionDirectory → Except UpdateError (List Journal)
  | [] => .ok []
  | d :: rest =>
    if !updateIDPattern d.id then recoverable rest
    else match readJournal codec d.journal with
    | .error err => .error err
    | .ok j =>
      match recoverable rest with
      | .error err => .error err
      | .ok found => .ok (if j.inProgress then j :: found else found)

def findRecoverable (w : JournalFiles) : Except UpdateError (Option Journal) :=
  match recoverable codec w.entries with
  | .error err => .error err
  | .ok [] => .ok none
  | .ok [j] => .ok (some j)
  | .ok _ =>
    .error (.text "multiple unfinished update journals require manual forensic recovery")

def loadActive (w : JournalFiles) : Except UpdateError (Option Journal) :=
  match findRecoverable codec w with
  | .error err => .error err
  | .ok (some j) => .ok (some j)
  | .ok none =>
    match w.active with
    | none => .ok none
    | some content =>
      match readJournal codec (some content) with
      | .error err => .error err
      | .ok j => .ok (some j)

end

/-! ## what `LoadActive` returns -/

variable {j : Journal}

section
variable {codec : JournalCodec}

structure Decodes (codec : JournalCodec) (j : Journal) : Prop where
  bounded : codec.bytes j ≤ maximumJournalBytes
  valid : validJournal j = true

theorem readJournal_ok {content : Option Journal} :
    readJournal codec content = .ok j ↔ content = some j ∧ Decodes codec j := by
  unfold readJournal
  constructor
  · intro h
    split at h
    · cases h
    split at h
    · cases h
    split at h
    · cases h
    rename_i hsize hvalid
    cases h
    exact ⟨rfl, by simpa using hsize, by simpa using hvalid⟩
  · rintro ⟨rfl, hsize, hvalid⟩
    dsimp only
    rw [if_neg (by simpa using hsize), hvalid]
    rfl

namespace JournalFiles

def look (w : JournalFiles) (id : String) : Option (Option Journal) := w.view (.transaction id)

/-- every journal of a transaction can be read back -/
def Legible (codec : JournalCodec) (w : JournalFiles) : Prop :=
  ∀ id content, updateIDPattern id = true → w.look id = some content →
    ∃ j, content = some j ∧ Decodes codec j

structure Pending (w : JournalFiles) (id : String) (j : Journal) : Prop where
  pattern : updateIDPattern id = true
  stored : w.look id = some (some j)
  unfinished : j.inProgress = true

theorem look_iff {id : String} {content : Option Journal} :
    w.look id = some content ↔ ∃ d ∈ w.entries, d.id = id ∧ d.journal = content := by
  have hmem : ∀ d, d ∈ w.entries ↔ d ∈ w.directories.rows := fun d => mem_insertionSort _
  constructor
  · intro h
    obtain ⟨d, hd, hcontent⟩ := map_eq_some_iff.mp h
    exact ⟨d, (hmem d).mpr (mem_of_find hd), key_of_find hd, hcontent⟩
  · rintro ⟨d, hd, rfl, rfl⟩
    exact map_eq_some_iff.mpr ⟨d, mem_iff_find.mp ((hmem d).mp hd), rfl⟩

theorem entries_nodup (w : JournalFiles) : (w.entries.map TransactionDirectory.id).Nodup :=
  ((perm_insertionSort _ _).map _).nodup_iff.mpr w.directories.nodup

end JournalFiles

def unfinishedJournal (d : TransactionDirectory) : Option Journal :=
  if updateIDPattern d.id then d.journal.filter Journal.inProgress else none

theorem unfinishedJournal_iff {d : TransactionDirectory} : unfinishedJournal d = some j ↔
      updateIDPattern d.id = true ∧ d.journal = some j ∧ j.inProgress = true := by
  rw [unfinishedJournal]
  split
  · next h => rw [filter_eq_some_iff, and_iff_right h]
  · next h => exact ⟨fun h' => (by cases h'), fun h' => absurd h'.1 h⟩

theorem recoverable_ok {entries : List TransactionDirectory} {found : List Journal} :
    recoverable codec entries = .ok found ↔
      (∀ d ∈ entries, updateIDPattern d.id = true → ∃ j, d.journal = some j ∧ Decodes codec j) ∧
        found = entries.filterMap unfinishedJournal := by
  induction entries generalizing found with
  | nil =>
    rw [recoverable, Except.ok.injEq]
    exact ⟨fun h => ⟨fun d hd => (by cases hd), h.symm⟩, fun h => h.2.symm⟩
  | cons d rest ih =>
    rw [recoverable, forall_mem_cons]
    by_cases hid : updateIDPattern d.id = true
    · rw [hid, if_neg (by decide)]
      cases hread : readJournal codec d.journal with
      | error err =>
        refine ⟨nofun, fun h => ?_⟩
        obtain ⟨j, hj⟩ := h.1.1 rfl
        rw [readJournal_ok.mpr hj] at hread
        cases hread
      | ok j =>
      have hread := readJournal_ok.mp hread
      dsimp only
      cases hrest : recoverable codec rest with
      | error err =>
        refine ⟨fun h => (by cases h), fun h => ?_⟩
        rw [ih.mpr ⟨h.1.2, rfl⟩] at hrest
        cases hrest
      | ok tail =>
      obtain ⟨hall, rfl⟩ := ih.mp hrest
      have hhead : (d :: rest).filterMap unfinishedJournal =
          if j.inProgress = true then j :: rest.filterMap unfinishedJournal
          else rest.filterMap unfinishedJournal := by
        split
        · next hj => exact filterMap_cons_some (unfinishedJournal_iff.mpr ⟨hid, hread.1, hj⟩)
        next hj =>
        refine filterMap_cons_none (eq_none_iff_forall_ne_some.mpr fun j' hj' => ?_)
        obtain ⟨_, hj', hprogress⟩ := unfinishedJournal_iff.mp hj'
        rw [hread.1, some.injEq] at hj'
        exact hj (hj' ▸ hprogress)
      rw [hhead, Except.ok.injEq]
      exact ⟨fun h => ⟨⟨fun _ => ⟨j, hread⟩, hall⟩, h.symm⟩, fun h => h.2.symm⟩
    · have hhead : unfinishedJournal d = none := if_neg hid
      rw [if_pos (by simpa using hid), filterMap_cons_none hhead, ih]
      exact ⟨fun h => ⟨⟨fun h' => absurd h' hid, h.1⟩, h.2⟩, fun h => ⟨h.1.2, h.2⟩⟩

namespace JournalFiles

variable {w : JournalFiles}

theorem legible_iff : w.Legible codec ↔ ∀ d ∈ w.entries, updateIDPattern d.id = true →
    ∃ j, d.journal = some j ∧ Decodes codec j := by
  constructor
  · intro h d hd hid
    exact h d.id d.journal hid (look_iff.mpr ⟨d, hd, rfl, rfl⟩)
  intro h id content hid hlook
  obtain ⟨d, hd, rfl, rfl⟩ := look_iff.mp hlook
  exact h d hd hid

theorem pending_iff {id : String} :
    w.Pending id j ↔ ∃ d ∈ w.entries, d.id = id ∧ unfinishedJournal d = some j := by
  constructor
  · rintro ⟨hid, hlook, hj⟩
    obtain ⟨d, hd, rfl, hjournal⟩ := look_iff.mp hlook
    exact ⟨d, hd, rfl, unfinishedJournal_iff.mpr ⟨hid, hjournal, hj⟩⟩
  rintro ⟨d, hd, rfl, hj⟩
  obtain ⟨hid, hjournal, hj⟩ := unfinishedJournal_iff.mp hj
  exact ⟨hid, look_iff.mpr ⟨d, hd, rfl, hjournal⟩, hj⟩

def Idle (w : JournalFiles) : Prop := ∀ id j, ¬ w.Pending id j

structure Sole (w : JournalFiles) (j : Journal) : Prop where
  pending : ∃ id, w.Pending id j ∧ ∀ id' j', w.Pending id' j' → id' = id

theorem found_nil_iff : w.entries.filterMap unfinishedJournal = [] ↔ w.Idle := by
  rw [filterMap_eq_nil_iff]
  constructor
  · intro h id j hj
    obtain ⟨d, hd, _, hj⟩ := pending_iff.mp hj
    rw [h d hd] at hj
    cases hj
  · intro h d hd
    refine eq_none_iff_forall_ne_some.mpr fun j hj => h d.id j ?_
    exact pending_iff.mpr ⟨d, hd, rfl, hj⟩

theorem found_singleton_iff : w.entries.filterMap unfinishedJournal = [j] ↔ w.Sole j := by
  constructor
  · intro h
    obtain ⟨l1, d, l2, hl, hnone, hd, hrest⟩ := filterMap_eq_cons_iff.mp h
    have hmem : d ∈ w.entries := by
      rw [hl]
      exact mem_append_right _ mem_cons_self
    refine ⟨d.id, pending_iff.mpr ⟨d, hmem, rfl, hd⟩, ?_⟩
    intro id' j' hj'
    obtain ⟨d', hd', rfl, hunfinished⟩ := pending_iff.mp hj'
    rw [hl, mem_append, mem_cons] at hd'
    rcases hd' with hd' | rfl | hd'
    · rw [hnone d' hd'] at hunfinished
      cases hunfinished
    · rfl
    · rw [filterMap_eq_nil_iff.mp hrest d' hd'] at hunfinished
      cases hunfinished
  rintro ⟨id, hpending, hsole⟩
  obtain ⟨d, hd, rfl, hj⟩ := pending_iff.mp hpending
  obtain ⟨l1, l2, hl⟩ := append_of_mem hd
  -- the other directories have other names, so they have nothing unfinished
  have hnodup := w.entries_nodup
  rw [hl, map_append, map_cons, nodup_append, nodup_cons] at hnodup
  have hother : ∀ d' ∈ w.entries, d'.id ≠ d.id → unfinishedJournal d' = none := by
    intro d' hd' hne
    refine eq_none_iff_forall_ne_some.mpr fun j' hj' => hne ?_
    exact hsole d'.id j' (pending_iff.mpr ⟨d', hd', rfl, hj'⟩)
  rw [hl] at hother ⊢
  refine filterMap_eq_cons_iff.mpr ⟨l1, d, l2, rfl, ?_, hj, ?_⟩
  · intro d' hd'
    refine hother d' (mem_append_left _ hd') ?_
    exact hnodup.2.2 d'.id (mem_map_of_mem hd') d.id mem_cons_self
  refine filterMap_eq_nil_iff.mpr fun d' hd' => ?_
  refine hother d' (mem_append_right _ (mem_cons_of_mem _ hd')) fun hid => ?_
  exact hnodup.2.1.1 (hid ▸ mem_map_of_mem hd')

end JournalFiles

variable {w : JournalFiles}

theorem findRecoverable_none_iff :
    findRecoverable codec w = .ok none ↔ w.Legible codec ∧ w.Idle := by
  rw [JournalFiles.legible_iff, ← JournalFiles.found_nil_iff]
  unfold findRecoverable
  constructor
  · intro h
    split at h
    · cases h
    · next hfound => exact ⟨(recoverable_ok.mp hfound).1, (recoverable_ok.mp hfound).2.symm⟩
    · cases h
    · cases h
  · rintro ⟨hlegible, hnil⟩
    rw [recoverable_ok.mpr ⟨hlegible, hnil.symm⟩]

theorem findRecoverable_some_iff :
    findRecoverable codec w = .ok (some j) ↔ w.Legible codec ∧ w.Sole j := by
  rw [JournalFiles.legible_iff, ← JournalFiles.found_singleton_iff]
  unfold findRecoverable
  constructor
  · intro h
    split at h
    · cases h
    · cases h
    · next hfound =>
      cases h
      exact ⟨(recoverable_ok.mp hfound).1, (recoverable_ok.mp hfound).2.symm⟩
    · cases h
  · rintro ⟨hlegible, hone⟩
    rw [recoverable_ok.mpr ⟨hlegible, hone.symm⟩]

/-- **what `LoadActive` returns** -/
theorem loadActive_some_iff : loadActive codec w = .ok (some j) ↔ w.Legible codec ∧
      (w.Sole j ∨ (w.Idle ∧ w.active = some j ∧ Decodes codec j)) := by
  unfold loadActive
  constructor
  · intro h
    split at h
    · cases h
    · next hfound =>
      cases h
      obtain ⟨hlegible, hsole⟩ := findRecoverable_some_iff.mp hfound
      exact ⟨hlegible, .inl hsole⟩
    next hfound =>
    obtain ⟨hlegible, hidle⟩ := findRecoverable_none_iff.mp hfound
    split at h
    · cases h
    next hactive =>
    split at h
    · cases h
    next hread =>
    cases h
    obtain ⟨hsame, hreadable⟩ := readJournal_ok.mp hread
    exact ⟨hlegible, .inr ⟨hidle, hactive.trans hsame, hreadable⟩⟩
  · rintro ⟨hlegible, hsole | ⟨hidle, hactive, hreadable⟩⟩
    · rw [findRecoverable_some_iff.mpr ⟨hlegible, hsole⟩]
    rw [findRecoverable_none_iff.mpr ⟨hlegible, hidle⟩, hactive]
    dsimp only
    rw [readJournal_ok.mpr ⟨rfl, hreadable⟩]

theorem loadActive_legible {r : Option Journal} (h : loadActive codec w = .ok r) :
    w.Legible codec := by
  unfold loadActive at h
  split at h
  · cases h
  · next hfound => exact (findRecoverable_some_iff.mp hfound).1
  · next hfound => exact (findRecoverable_none_iff.mp hfound).1

end

/-! ## what `Save` leaves -/

namespace JournalFiles

theorem hasParent_setTemporary (w : JournalFiles) (c : Copy) (content : Option Journal) :
    (w.setTemporary c content).hasParent c = w.hasParent c := by
  rw [Bool.eq_iff_iff, hasParent_iff, hasParent_iff, view_setTemporary]

theorem temporary_setTemporary (content : Option Journal) (hc : w.hasParent c) :
    (w.setTemporary c content).temporary c = content := by
  cases c with
  | active => rfl
  | transaction id =>
  obtain ⟨d, hd⟩ := isSome_iff_exists.mp hc
  simp only [setTemporary, temporary]
  rw [find_update_self, hd]
  rfl

theorem view_secureDirectory (w : JournalFiles) (id : String) (c : Copy) :
    ((StoreOp.secureDirectory id).effect w).2.view c =
      if c = .transaction id then some ((w.view c).getD none) else w.view c := by
  cases c with
  | active => rw [if_neg (by simp)]; rfl
  | transaction id' =>
  show ((w.directories.ensure { id := id }).find id').map _ = _
  by_cases h : id' = id
  · subst h
    rw [if_pos rfl, find_ensure_self w.directories { id := id' }, view]
    cases w.directories.find id' <;> rfl
  · rw [if_neg (by simpa using h), find_ensure_ne h]
    rfl

end JournalFiles

section
variable {A : Fate → Prop} {C : JournalFiles → Prop} {w : JournalFiles} {j : Journal}

theorem wp_andThen {Q : Except UpdateError Unit → JournalFiles → Prop} {o : StoreOp}
    {p : StoreProg (Except UpdateError Unit)} {r : Except UpdateError Unit} {u : JournalFiles}
    (heffect : o.effect w = (r, u)) (hC : C w) (hfail : ∀ err, Q (.error err) w)
    (hlate : ∀ err, Q (.error err) u) (hok : wp storeExec A C p Q u) :
    wp storeExec A C (andThen o p) Q w := by
  refine ⟨hC, fun f _ => ?_⟩
  rw [storeExec, heffect]
  cases f with
  | fail => exact hfail _
  | late => exact hlate _
  | ok =>
  cases r with
  | error err => exact hlate err
  | ok _ => exact hok

structure Wrote (c : Copy) (j : Journal) (w w' : JournalFiles) : Prop where
  other : ∀ c', c' ≠ c → w'.view c' = w.view c'
  copy : w'.view c = w.view c ∨ w'.view c = some (some j)

theorem Wrote.of_view {w' : JournalFiles} (h : ∀ c', w'.view c' = w.view c') : Wrote c j w w' :=
  ⟨fun c' _ => h c', .inl (h c)⟩

theorem wp_writeAtomic (hc : w.hasParent c) : wp storeExec A (Wrote c j w) (writeAtomic c j)
      (fun r w' => Wrote c j w w' ∧ (r = .ok () → w'.view c = some (some j))) w := by
  have hview : ∀ content c', (w.setTemporary c content).view c' = w.view c' :=
    fun content c' => w.view_setTemporary c c' content
  -- the file to be renamed is the one that was just written
  let written := (w.setTemporary c none).setTemporary c (some j)
  have hwritten : ∀ c', written.view c' = w.view c' := by
    intro c'
    rw [JournalFiles.view_setTemporary, hview]
  have hparent : written.hasParent c = true := by
    rw [JournalFiles.hasParent_setTemporary, JournalFiles.hasParent_setTemporary, hc]
  have htemporary : written.temporary c = some j :=
    JournalFiles.temporary_setTemporary _ (by rw [JournalFiles.hasParent_setTemporary, hc])
  have hwrite : (StoreOp.writeTemporary c j).effect (w.setTemporary c none) =
      (.ok (), written) := by
    rw [StoreOp.effect, JournalFiles.hasParent_setTemporary, hc,
      JournalFiles.temporary_setTemporary _ hc]
    rfl
  let renamed := (written.setCopy c j).setTemporary c none
  have hreplace : (StoreOp.replace c).effect written = (.ok (), renamed) := by
    rw [StoreOp.effect, htemporary]
  have hself : renamed.view c = some (some j) := by
    rw [JournalFiles.view_setTemporary, JournalFiles.view_setCopy_self j hparent]
  have hrenamed : Wrote c j w renamed := by
    refine ⟨fun c' hne => ?_, .inr hself⟩
    rw [JournalFiles.view_setTemporary, JournalFiles.view_setCopy_ne j hne, hwritten]
  have hclean : ∀ u, Wrote c j w u → Wrote c j w (u.setTemporary c none) := by
    intro u hu
    refine ⟨fun c' hne => ?_, ?_⟩
    · rw [JournalFiles.view_setTemporary, hu.other c' hne]
    · rw [JournalFiles.view_setTemporary]
      exact hu.copy
  have hstop : ∀ err u, Wrote c j w u → Wrote c j w u ∧
      ((Except.error err : Except UpdateError Unit) = .ok () → u.view c = some (some j)) :=
    fun err u hu => ⟨hu, nofun⟩
  -- a rename that reports an error is followed by the removal of the temporary file
  have herror : ∀ (err : UpdateError) u, Wrote c j w u → wp storeExec A (Wrote c j w)
      (.call (.removeTemporary c) fun _ => .done (Except.error err))
      (fun r w' => Wrote c j w w' ∧ (r = .ok () → w'.view c = some (some j))) u := by
    intro err u hu
    refine ⟨hu, fun f _ => ?_⟩
    cases f with
    | ok => exact hstop err _ (hclean u hu)
    | fail => exact hstop err _ hu
    | late => exact hstop err _ (hclean u hu)
  have hstart : Wrote c j w w := .of_view fun _ => rfl
  have hremoved : Wrote c j w (w.setTemporary c none) := .of_view (hview none)
  have hready : Wrote c j w written := .of_view hwritten
  refine wp_andThen rfl hstart (fun err => hstop err _ hstart) (fun err => hstop err _ hremoved) ?_
  refine wp_andThen hwrite hremoved (fun err => hstop err _ hremoved)
    (fun err => hstop err _ hready) ⟨hready, fun f _ => ?_⟩
  rw [storeExec, hreplace]
  cases f with
  | fail => exact herror _ _ hready
  | late => exact herror _ _ hrenamed
  | ok =>
  exact wp_andThen rfl hrenamed (fun err => hstop err _ hrenamed)
    (fun err => hstop err _ hrenamed) ⟨hrenamed, fun _ => hself⟩

/-- how far `Save` has come, as the two copies show it -/
inductive SaveStage (j : Journal) (w w' : JournalFiles) : Prop
  | untouched (copy : w'.look j.updateID = w.look j.updateID) (active : w'.active = w.active)
  | directory (before : w.look j.updateID = none) (copy : w'.look j.updateID = some none)
      (active : w'.active = w.active)
  | first (copy : w'.look j.updateID = some (some j)) (active : w'.active = w.active)
  | both (copy : w'.look j.updateID = some (some j)) (active : w'.active = some j)

/-- what `Save` of a journal can leave behind -/
structure Saving (j : Journal) (w w' : JournalFiles) : Prop where
  other : ∀ id, id ≠ j.updateID → w'.look id = w.look id
  stage : SaveStage j w w'

theorem Saving.refl (j : Journal) (w : JournalFiles) : Saving j w w :=
  ⟨fun _ _ => rfl, .untouched rfl rfl⟩

/-- **what `Save` leaves behind, wherever it fails or is cut off** -/
theorem save_files (j : Journal) (w : JournalFiles) : wp storeExec A (Saving j w) (save j)
      (fun r w' => Saving j w w' ∧ (r = .ok () → validJournal j = true ∧
        w'.look j.updateID = some (some j) ∧ w'.active = some j)) w := by
  have hstop : ∀ err u, Saving j w u → Saving j w u ∧
      ((Except.error err : Except UpdateError Unit) = .ok () → validJournal j = true ∧
        u.look j.updateID = some (some j) ∧ u.active = some j) :=
    fun err u hu => ⟨hu, nofun⟩
  have hstart : Saving j w w := .refl j w
  rw [save]
  split
  · exact hstop _ _ hstart
  next hvalid =>
  rw [Bool.not_eq_true, Bool.not_eq_false'] at hvalid
  refine wp_andThen rfl hstart (fun err => hstop err _ hstart) (fun err => hstop err _ hstart) ?_
  -- the directory of the transaction
  obtain ⟨u, hu⟩ : ∃ u, (StoreOp.secureDirectory j.updateID).effect w = (.ok (), u) := ⟨_, rfl⟩
  have huview : ∀ c, u.view c =
      if c = .transaction j.updateID then some ((w.view c).getD none) else w.view c := by
    intro c
    rw [← JournalFiles.view_secureDirectory, hu]
  have hother : ∀ id, id ≠ j.updateID → u.look id = w.look id := by
    intro id hne
    rw [JournalFiles.look, huview, if_neg (by simpa using hne)]
    rfl
  have hactive : u.active = w.active := by
    have h := huview .active
    rw [if_neg (by simp)] at h
    exact some.inj h
  have hlook : u.look j.updateID = some ((w.look j.updateID).getD none) := by
    rw [JournalFiles.look, huview, if_pos rfl]
    rfl
  have hmade : Saving j w u := by
    refine ⟨hother, ?_⟩
    cases h : w.look j.updateID with
    | none => exact .directory h (by rw [hlook, h]; rfl) hactive
    | some content => exact .untouched (by rw [hlook, h]; rfl) hactive
  have hparent : u.hasParent (.transaction j.updateID) = true := by
    rw [JournalFiles.hasParent_iff]
    show u.look j.updateID ≠ none
    rw [hlook]
    exact nofun
  refine wp_andThen hu hstart (fun err => hstop err _ hstart)
    (fun err => hstop err _ hmade) ?_
  -- the first copy
  have hfirst : ∀ v, Wrote (.transaction j.updateID) j u v → Saving j w v := by
    intro v hv
    have hvactive : v.active = w.active := by
      have h := hv.other .active (by simp)
      exact (some.inj h).trans hactive
    refine ⟨fun id hne => (hv.other _ (by simpa using hne)).trans (hother id hne), ?_⟩
    rcases hv.copy with hsame | hwritten
    · cases hmade.stage with
      | untouched hcopy _ => exact .untouched (hsame.trans hcopy) hvactive
      | directory hbefore hcopy _ => exact .directory hbefore (hsame.trans hcopy) hvactive
      | first hcopy _ => exact .first (hsame.trans hcopy) hvactive
      | both hcopy _ => exact .first (hsame.trans hcopy) hvactive
    · exact .first hwritten hvactive
  refine wp_attempt (wp_mono hfirst (fun r v h => h) (wp_writeAtomic hparent)) ?_ ?_
  · exact fun err v h => hstop err v (hfirst v h.1)
  intro _ v ⟨hv, hdone⟩
  have hvcopy : v.look j.updateID = some (some j) := hdone rfl
  have hvsave := hfirst v hv
  -- the second copy
  have hsecond : ∀ x, Wrote .active j v x → Saving j w x := by
    intro x hx
    have hcopy : x.look j.updateID = some (some j) := (hx.other _ (by simp)).trans hvcopy
    refine ⟨fun id hne => (hx.other _ (by simp)).trans (hvsave.other id hne), ?_⟩
    rcases hx.copy with hsame | hwritten
    · have hvactive : v.active = u.active := some.inj (hv.other .active (by simp))
      exact .first hcopy ((some.inj hsame).trans (hvactive.trans hactive))
    · exact .both hcopy (some.inj hwritten)
  refine wp_attempt (wp_mono hsecond (fun r x h => h) (wp_writeAtomic rfl)) ?_ ?_
  · exact fun err x h => hstop err x (hsecond x h.1)
  intro _ x ⟨hx, hdone⟩
  have hxsave := hsecond x hx
  refine wp_andThen rfl hxsave (fun err => hstop err _ hxsave) (fun err => hstop err _ hxsave) ?_
  exact ⟨hxsave, fun _ => ⟨hvalid, (hx.other _ (by simp)).trans hvcopy, some.inj (hdone rfl)⟩⟩

end

/-! ## the journal over whole runs -/

section
variable {codec : JournalCodec} {P : Journal → Prop} {w u : JournalFiles} {j : Journal}

/-- both copies of a transaction can be read and satisfy `P`, and no other one is unfinished -/
structure JournalFiles.Keeps (codec : JournalCodec) (id : String) (P : Journal → Prop)
    (w : JournalFiles) : Prop where
  pattern : updateIDPattern id = true
  legible : w.Legible codec
  sole : ∀ id' j, w.Pending id' j → id' = id
  copy : ∃ j, w.look id = some (some j) ∧ P j
  active : ∃ j, w.active = some j ∧ P j ∧ Decodes codec j

theorem JournalFiles.Keeps.loads {id : String} (h : w.Keeps codec id P) :
    ∃ j, loadActive codec w = .ok (some j) ∧ P j := by
  obtain ⟨j, hcopy, hj⟩ := h.copy
  obtain ⟨a, hactive, ha, hread⟩ := h.active
  by_cases hprogress : j.inProgress = true
  · have hsole : w.Sole j := ⟨id, ⟨h.pattern, hcopy, hprogress⟩, h.sole⟩
    exact ⟨j, loadActive_some_iff.mpr ⟨h.legible, .inl hsole⟩, hj⟩
  -- the transaction is finished in its own copy, so the other one is read
  refine ⟨a, loadActive_some_iff.mpr ⟨h.legible, .inr ⟨fun id' j' hp => ?_, hactive, hread⟩⟩, ha⟩
  obtain rfl := h.sole id' j' hp
  obtain rfl : j = j' := by simpa [hcopy] using hp.stored
  exact hprogress hp.unfinished

theorem Decodes.pattern (h : Decodes codec j) : updateIDPattern j.updateID = true := by
  have hvalid := h.valid
  simp only [validJournal, validHeader, Bool.and_eq_true] at hvalid
  tauto

section
variable (h : Saving j w u)
include h

theorem Saving.legible (hw : w.Legible codec) (hj : Decodes codec j)
    (hcopy : u.look j.updateID ≠ some none) : u.Legible codec := by
  intro id content hid hlook
  by_cases hne : id = j.updateID
  · subst hne
    cases h.stage with
    | untouched hsame => exact hw _ content hid (hsame.symm.trans hlook)
    | directory _ hnone => exact absurd hnone hcopy
    | first hwritten | both hwritten => exact ⟨j, by simpa [hlook] using hwritten, hj⟩
  · exact hw id content hid ((h.other id hne).symm.trans hlook)

theorem Saving.sole (hw : ∀ id a, w.Pending id a → id = j.updateID) {id : String} {a : Journal}
    (hp : u.Pending id a) : id = j.updateID := by
  by_contra hne
  exact hne (hw id a ⟨hp.pattern, (h.other id hne).symm.trans hp.stored, hp.unfinished⟩)

theorem Saving.keeps (hw : w.Keeps codec j.updateID P) (hj : Decodes codec j) (hP : P j) :
    u.Keeps codec j.updateID P := by
  obtain ⟨a, hcopy, ha⟩ := hw.copy
  have hcopy' : ∃ j', u.look j.updateID = some (some j') ∧ P j' := by
    cases h.stage with
    | untouched hsame => exact ⟨a, hsame.trans hcopy, ha⟩
    | directory hbefore => cases hbefore.symm.trans hcopy
    | first hwritten | both hwritten => exact ⟨j, hwritten, hP⟩
  have hnone : u.look j.updateID ≠ some none := by
    obtain ⟨j', hlook, -⟩ := hcopy'
    simp [hlook]
  refine ⟨hw.pattern, h.legible hw.legible hj hnone, fun _ _ => h.sole hw.sole, hcopy', ?_⟩
  cases h.stage with
  | untouched _ hactive | directory _ _ hactive | first _ hactive =>
    rw [hactive]
    exact hw.active
  | both _ hactive => exact ⟨j, hactive, hP, hj⟩

end

theorem save_run (j : Journal) (w : JournalFiles) (fs : List Fate) :
    Saving j w (run storeExec (save j) fs w).state ∧
      ((run storeExec (save j) fs w).result = some (.ok ()) →
        (run storeExec (save j) fs w).state.look j.updateID = some (some j) ∧
          (run storeExec (save j) fs w).state.active = some j) := by
  have h := @wp_sound _ _ _ _ _ (fun _ => True) _ _ _ _ (save_files j w) fs fun _ _ => trivial
  cases hresult : (run storeExec (save j) fs w).result with
  | none => exact ⟨h.2 hresult, nofun⟩
  | some r =>
    obtain ⟨hsaving, hdone⟩ := h.1 r hresult
    exact ⟨hsaving, fun hok => (hdone (some.inj hok)).2⟩

theorem keeps_saved {t : Journal × List Fate} (hw : w.Legible codec)
    (hsole : ∀ id a, w.Pending id a → id = t.1.updateID) (hj : Decodes codec t.1)
    (hok : (run storeExec (save t.1) t.2 w).result = some (.ok ())) (hP : P t.1) :
    (after storeExec save w t).Keeps codec t.1.updateID P := by
  obtain ⟨hsaving, hdone⟩ := save_run t.1 w t.2
  obtain ⟨hcopy, hactive⟩ := hdone hok
  exact ⟨hj.pattern, hsaving.legible hw hj (by simp [hcopy]), fun _ _ => hsaving.sole hsole,
    ⟨t.1, hcopy, hP⟩, ⟨t.1, hactive, hP, hj⟩⟩

/-- **The journal is not lost.**  After the first save of a transaction, and any saves after it,
each with failing calls and cut off anywhere, `LoadActive` finds one of the journals saved so far,
and after a save that reports no error the last one. -/
theorem saves_recoverable {t : Journal × List Fate} (ts : List (Journal × List Fate))
    (hw : w.Legible codec) (hidle : w.Idle) (hj : Decodes codec t.1)
    (hok : (run storeExec (save t.1) t.2 w).result = some (.ok ()))
    (hts : ∀ t' ∈ ts, t'.1.updateID = t.1.updateID ∧ Decodes codec t'.1) :
    let v := runTurns storeExec save w (t :: ts)
    (∃ j ∈ t.1 :: ts.map Prod.fst, loadActive codec v = .ok (some j)) ∧
      ∀ t', t'.1.updateID = t.1.updateID → Decodes codec t'.1 →
        (run storeExec (save t'.1) t'.2 v).result = some (.ok ()) →
          loadActive codec (after storeExec save v t') = .ok (some t'.1) := by
  have hfirst := keeps_saved hw (fun id a hp => absurd hp (hidle id a)) hj hok
    (mem_cons_self (a := t.1) (l := ts.map Prod.fst))
  have hrun : ∀ (us : List (Journal × List Fate)) w, us ⊆ ts →
      JournalFiles.Keeps codec t.1.updateID (· ∈ t.1 :: ts.map Prod.fst) w →
      (runTurns storeExec save w us).Keeps codec t.1.updateID (· ∈ t.1 :: ts.map Prod.fst) := by
    intro us
    induction us with
    | nil => exact fun w _ h => h
    | cons t' us ih =>
      intro w hsub h
      obtain ⟨hid, hread⟩ := hts t' (hsub mem_cons_self)
      rw [← hid] at h ⊢
      have hmem := mem_cons_of_mem t.1 (mem_map_of_mem (f := Prod.fst) (hsub mem_cons_self))
      have hnext := (save_run t'.1 w t'.2).1.keeps h hread hmem
      rw [hid] at hnext ⊢
      exact ih _ (fun x hx => hsub (mem_cons_of_mem _ hx)) hnext
  have hv := hrun ts _ (Subset.refl _) hfirst
  refine ⟨?_, fun t' hid hread hok' => ?_⟩
  · obtain ⟨j, hload, hj⟩ := hv.loads
    exact ⟨j, hj, hload⟩
  · rw [← hid] at hv
    obtain ⟨j, hload, rfl⟩ := (keeps_saved (P := (· = t'.1)) hv.legible hv.sole hread hok' rfl).loads
    exact hload

def sampleJournal (state : TransactionState) : Journal where
  updateID := "update-20260101T000000Z-000000000000000000000000"
  state := state
  startedAt := .format 0
  updatedAt := .format 0
  oldVersion := "1.0.0"
  newVersion := "1.1.0"
  oldCurrentTarget := "releases/v1.0.0"
  newCurrentTarget := "releases/v1.1.0"

theorem second_save_recoverable : ∃ j ∈ [sampleJournal .prepared, sampleJournal .quiesced],
    loadActive ⟨fun _ => 0⟩ (runTurns storeExec save {}
      [(sampleJournal .prepared, replicate 11 .ok), (sampleJournal .quiesced, [.ok, .ok, .ok])]) =
        .ok (some j) := by
  have hfirst : Decodes ⟨fun _ => 0⟩ (sampleJournal .prepared) := ⟨by decide, by decide +kernel⟩
  have hsecond : Decodes ⟨fun _ => 0⟩ (sampleJournal .quiesced) := ⟨by decide, by decide +kernel⟩
  refine (saves_recoverable (t := (_, replicate 11 .ok)) (w := {})
    [(sampleJournal .quiesced, [.ok, .ok, .ok])] (fun _ _ _ hlook => ?_) (fun id j hp => ?_) hfirst
    (by decide +kernel) ?_).1
  · cases hlook
  · cases hp.stored
  · simpa using ⟨rfl, hsecond⟩

/-- **The first save of a transaction.**  What it leaves is read as before or as the new journal,
unless it was cut off when the directory was there and the journal was not: then `LoadActive`
fails. -/
theorem first_save_cut (hw : w.Legible codec) (hidle : w.Idle) (hj : Decodes codec j)
    (hnew : w.look j.updateID = none) (fs : List Fate) :
    let u := (run storeExec (save j) fs w).state
    (u.look j.updateID = some none ∧ ∀ r, loadActive codec u ≠ .ok r) ∨
      loadActive codec u = loadActive codec w ∨ loadActive codec u = .ok (some j) := by
  intro u
  have h : Saving j w u := (save_run j w fs).1
  by_cases hnone : u.look j.updateID = some none
  · refine .inl ⟨hnone, fun r hr => ?_⟩
    obtain ⟨j', hj', -⟩ := loadActive_legible hr _ _ hj.pattern hnone
    cases hj'
  have hlegible := h.legible hw hj hnone
  have hsole : ∀ id a, u.Pending id a → id = j.updateID :=
    fun _ _ => h.sole fun id a hp => absurd hp (hidle id a)
  have hsame : u.Idle → u.active = w.active → loadActive codec u = loadActive codec w := by
    intro hi hactive
    unfold loadActive
    rw [findRecoverable_none_iff.mpr ⟨hw, hidle⟩, findRecoverable_none_iff.mpr ⟨hlegible, hi⟩,
      hactive]
  have hwritten : u.look j.updateID = some (some j) → u.Sole j ∨ u.Idle := by
    intro hcopy
    by_cases hprogress : j.inProgress = true
    · exact .inl ⟨_, ⟨hj.pattern, hcopy, hprogress⟩, hsole⟩
    refine .inr fun id a hp => hprogress ?_
    obtain rfl := hsole id a hp
    obtain rfl : j = a := by simpa [hcopy] using hp.stored
    exact hp.unfinished
  refine .inr ?_
  cases h.stage with
  | untouched hcopy hactive =>
    refine .inl (hsame (fun id a hp => ?_) hactive)
    obtain rfl := hsole id a hp
    cases (hcopy.trans hnew).symm.trans hp.stored
  | directory _ hcopy => exact absurd hcopy hnone
  | first hcopy hactive =>
    rcases hwritten hcopy with hs | hi
    · exact .inr (loadActive_some_iff.mpr ⟨hlegible, .inl hs⟩)
    · exact .inl (hsame hi hactive)
  | both hcopy hactive =>
    refine .inr (loadActive_some_iff.mpr ⟨hlegible, ?_⟩)
    exact (hwritten hcopy).imp_right fun hi => ⟨hi, hactive, hj⟩

def stuckFiles : JournalFiles :=
  (run storeExec (save (sampleJournal .prepared)) [.ok, .ok] {}).state

theorem first_save_stuck : (loadActive ⟨fun _ => 0⟩ stuckFiles).toOption = none := by
  cases hload : loadActive ⟨fun _ => 0⟩ stuckFiles with
  | error err => rfl
  | ok r =>
  refine absurd hload (((first_save_cut (w := {}) (fun _ _ _ hlook => ?_) (fun id j hp => ?_)
    ⟨by decide, by decide +kernel⟩ rfl _).resolve_right ?_).2 r)
  · cases hlook
  · cases hp.stored
  · rintro (h | h) <;> cases h

end

end GatewayVpn.Update
