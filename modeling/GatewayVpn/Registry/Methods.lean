import GatewayVpn.Text
import GatewayVpn.Durable.Index

/-!
# Subscriptions and access methods

`subscription.Repository` and `accesspolicy.Repository` write the same pair of tables.  A
subscription has one access method; direct access is a method of its own.  Each table orders its
enabled rows by a priority that is unique among them, and the operations allocate, keep and permute
these priorities, each in its own way.

An operation is one transaction, so a failure leaves the database as it was.  The events that the
operations append and the path rows that they reset are not read by them and are left out.
-/

namespace GatewayVpn.Registry

open Durable

/-! ## the tables -/

inductive Status where
  | unknown
  | disabled

structure Subscription where
  rowid : Int
  id : String
  displayNumber : Int
  name : String
  sourceType : String
  sourceSecretRef : String
  enabled : Bool := true
  priority : Int
  autoRefresh : Bool := true
  refreshIntervalSeconds : Int
  fallbackWhenNamedCandidatesFail : Bool := false
  status : Status := .unknown
  createdAt : Time
  updatedAt : Time

inductive SubscriptionEntry where
  | rowid (n : Int)
  | displayNumber (n : Int)
  | priority (p : Int)
  deriving DecidableEq

/-- `subscriptions`, with the index `subscriptions_priority_enabled` -/
def subscriptions : Schema Subscription String SubscriptionEntry where
  key := Subscription.id
  entries := fun s =>
    .rowid s.rowid :: .displayNumber s.displayNumber ::
      if s.enabled then [.priority s.priority] else []
  check := fun _ => true

inductive MethodKind where
  | direct
  | subscription
  deriving DecidableEq

structure Method where
  id : String
  kind : MethodKind
  subscriptionID : Option String := none
  enabled : Bool := true
  priority : Int
  immutable : Bool := false
  createdAt : Time
  updatedAt : Time

inductive MethodEntry where
  | subscription (id : String)
  | direct
  | priority (p : Int)
  deriving DecidableEq

/-- `access_methods`, with the index `access_methods_enabled_priority` -/
def accessMethods : Schema Method String MethodEntry where
  key := Method.id
  entries := fun m =>
    (m.subscriptionID.map MethodEntry.subscription).toList ++
      ((if m.kind = .direct then [.direct] else []) ++
        if m.enabled then [.priority m.priority] else [])
  check := fun m =>
    0 < m.priority &&
      ((m.kind = .direct && m.subscriptionID.isNone && m.immutable) ||
        (m.kind = .subscription && m.subscriptionID.isSome && !m.immutable))

structure Database where
  subscriptions : Relation subscriptions
  methods : Relation accessMethods
  /-- the counter `next_subscription_display_number` of `settings` -/
  nextDisplayNumber : Int
  /-- `ranking_generation` of `access_policy` -/
  rankingGeneration : Int
  /-- `active_subscription_id` of `runtime_state`, with the empty text for `NULL` -/
  activeSubscriptionID : String

inductive Fault where
  | notFound
  | prioritySetMismatch
  | text (message : String)
  | subscriptions (v : Violation SubscriptionEntry)
  | methods (v : Violation MethodEntry)
  deriving DecidableEq

def directMethodID : String := "access:direct"

def directMethod (now : Time) : Method :=
  { id := directMethodID, kind := .direct, priority := 10, immutable := true, createdAt := now,
    updatedAt := now }

def fresh (now : Time) : Database where
  subscriptions := Relation.empty
  methods :=
    { rows := [directMethod now]
      nodup := List.nodup_singleton _
      unique := by simp
      checked := by simp [accessMethods, directMethod] }
  nextDisplayNumber := 1
  rankingGeneration := 1
  activeSubscriptionID := ""

/-! ## priorities -/

def ceiling (priorities : List Int) : Int := priorities.max?.getD 0

namespace Database

section
variable (db : Database)

def enabledSubscriptions : List Subscription :=
  db.subscriptions.rows.filter Subscription.enabled

def enabledMethods : List Method := db.methods.rows.filter Method.enabled

def nextPriority : Int :=
  ceiling (db.enabledSubscriptions.map Subscription.priority) + 10

def nextMethodPriority : Int :=
  ceiling (db.enabledMethods.map Method.priority) + 10

def methodOf (subscriptionID : String) : Option Method :=
  db.methods.rows.find? fun m => m.subscriptionID = some subscriptionID

end

end Database

/-! ## `subscription.Repository` -/

structure CreateInput where
  id : String
  name : String
  sourceType : String
  sourceSecretRef : String
  refreshInterval : Int

def validateCreateInput (input : CreateInput) : Except Fault Unit :=
  if trimSpace input.id = "" then .error (.text "subscription id is required")
  else if trimSpace input.name = "" || byteLength (trimSpace input.name) > 128 then
    .error (.text "subscription name is required")
  else if input.sourceType ≠ "url" && input.sourceType ≠ "upload" then
    .error (.text "subscription source type must be url or upload")
  else if trimSpace input.sourceSecretRef = "" then
    .error (.text "subscription source secret reference is required")
  else if input.refreshInterval < 60 * second || input.refreshInterval > 30 * 24 * 3600 * second then
    .error (.text "subscription refresh interval must be 1 minute..30 days")
  else .ok ()

/-- `store.AllocateCounter` for `next_subscription_display_number` -/
def allocateDisplayNumber (db : Database) : Except Fault (Int × Database) :=
  if db.nextDisplayNumber < 1 then
    .error (.text "invalid counter next_subscription_display_number value")
  else .ok (db.nextDisplayNumber, { db with nextDisplayNumber := db.nextDisplayNumber + 1 })

def Database.get (db : Database) (id : String) : Except Fault Subscription :=
  match db.subscriptions.find id with
  | none => .error .notFound
  | some row => .ok row

section
variable (now : Time)

def createdSubscription (input : CreateInput) (displayNumber : Int) (db : Database) :
    Subscription :=
  { rowid := ceiling (db.subscriptions.rows.map Subscription.rowid) + 1
    id := input.id
    displayNumber
    name := trimSpace input.name
    sourceType := input.sourceType
    sourceSecretRef := input.sourceSecretRef
    priority := db.nextPriority
    refreshIntervalSeconds := input.refreshInterval / second
    createdAt := now
    updatedAt := now }

def createdMethod (input : CreateInput) (db : Database) : Method :=
  { id := "access:subscription:" ++ input.id, kind := .subscription,
    subscriptionID := some input.id, priority := db.nextMethodPriority, createdAt := now,
    updatedAt := now }

/-- the row that was created is read again after the commit -/
def create (input : CreateInput) (db : Database) :
    Except Fault (Database × Except Fault Subscription) := do
  validateCreateInput input
  let (displayNumber, db) ← allocateDisplayNumber db
  let rows ← (db.subscriptions.insert (createdSubscription now input displayNumber db)).mapError
    Fault.subscriptions
  let methods ← (db.methods.insert (createdMethod now input db)).mapError Fault.methods
  let db := { db with
    subscriptions := rows, methods, rankingGeneration := db.rankingGeneration + 1 }
  return (db, db.get input.id)

def switchedStatus (enabled : Bool) : Status := if enabled then .unknown else .disabled

def setEnabled (id : String) (enabled : Bool) (db : Database) : Except Fault Database :=
  match db.subscriptions.find id with
  | none => .error .notFound
  | some row =>
    if enabled = row.enabled then .ok db
    else do
      let priority := if enabled then db.nextPriority else row.priority
      let rows ← (db.subscriptions.updateWhere (fun s => s.id = id)
        (fun s => { s with enabled, priority, status := switchedStatus enabled, updatedAt := now })
        fun _ => rfl).mapError Fault.subscriptions
      match db.methodOf id with
      | none => .error (.text "subscription access method is missing")
      | some method => do
        let methodPriority := if enabled then db.nextMethodPriority else method.priority
        let methods ← (db.methods.updateWhere (fun m => m.subscriptionID = some id)
          (fun m => { m with enabled, priority := methodPriority, updatedAt := now })
          fun _ => rfl).mapError Fault.methods
        return { db with
          subscriptions := rows, methods, rankingGeneration := db.rankingGeneration + 1 }

/-- `validateEnabledSet` and `validateEnabledMethods`: the order names each enabled row once -/
def validateOrder (blank : String → Bool) (enabledIDs orderedIDs : List String) :
    Except Fault Unit :=
  if orderedIDs.any blank || !decide orderedIDs.Nodup || !enabledIDs.all orderedIDs.contains ||
      enabledIDs.length ≠ orderedIDs.length then
    .error .prioritySetMismatch
  else .ok ()

def numbered (priority : Nat → Int) (orderedIDs : List String) : List (String × Int) :=
  orderedIDs.zipIdx.map fun x => (x.1, priority x.2)

def tens (index : Nat) : Int := (index + 1) * 10

def above (maximum : Int) (index : Nat) : Int := maximum + index + 1

/-- `UPDATE subscriptions SET priority=? … WHERE id=? AND enabled=1`, for one row -/
def setPriority (rows : Relation subscriptions) (x : String × Int) :
    Except Fault (Relation subscriptions) := do
  let rows' ← (rows.updateWhere (fun s => s.id = x.1 && s.enabled)
    (fun s => { s with priority := x.2, updatedAt := now }) fun _ => rfl).mapError
      Fault.subscriptions
  if rows.affected (fun s => s.id = x.1 && s.enabled) ≠ 1 then .error .prioritySetMismatch
  else return rows'

def ofSubscription (id : String) (m : Method) : Bool := m.subscriptionID = some id && m.enabled

def ofID (id : String) (m : Method) : Bool := m.id = id && m.enabled

/-- `UPDATE access_methods SET priority=? …`, out of the way of the final priorities -/
def stageMethodPriority (which : String → Method → Bool) (methods : Relation accessMethods)
    (x : String × Int) : Except Fault (Relation accessMethods) :=
  (methods.updateWhere (which x.1) (fun m => { m with priority := x.2 }) fun _ => rfl).mapError
    Fault.methods

def setMethodPriority (which : String → Method → Bool)
    (methods : Relation accessMethods) (x : String × Int) : Except Fault (Relation accessMethods) :=
  (methods.updateWhere (which x.1) (fun m => { m with priority := x.2, updatedAt := now })
    fun _ => rfl).mapError Fault.methods

/-- `ORDER BY priority, id` -/
def byPriority (a b : Method) : Prop :=
  a.priority < b.priority ∨ (a.priority = b.priority ∧ lexLess b.id.toList a.id.toList = false)

instance : DecidableRel byPriority := fun a b => by
  unfold byPriority
  infer_instance

def methodPriorities (methods : Relation accessMethods) : List Int :=
  ((methods.rows.filter fun m => m.enabled && m.kind = .subscription).insertionSort
    byPriority).map Method.priority

def reorderEnabled (orderedIDs : List String) (db : Database) : Except Fault Database := do
  validateOrder (fun id => id = "") (db.enabledSubscriptions.map Subscription.id) orderedIDs
  let rows ← (db.subscriptions.updateWhere Subscription.enabled
    (fun s => { s with priority := -s.rowid }) fun _ => rfl).mapError Fault.subscriptions
  let rows ← (numbered tens orderedIDs).foldlM (setPriority now) rows
  let slots := methodPriorities db.methods
  if slots.length ≠ orderedIDs.length then .error .prioritySetMismatch
  else do
    let maximum := ceiling (db.methods.rows.map Method.priority)
    let methods ← (numbered (above maximum) orderedIDs).foldlM (stageMethodPriority ofSubscription)
      db.methods
    let methods ← (orderedIDs.zip slots).foldlM (setMethodPriority now ofSubscription) methods
    return { db with
      subscriptions := rows, methods, rankingGeneration := db.rankingGeneration + 1 }

end

def delete (id : String) (db : Database) : Except Fault (Database × String) :=
  match db.subscriptions.find id with
  | none => .error .notFound
  | some row =>
    if row.enabled then .error (.text "subscription must be disabled before deletion")
    else if db.activeSubscriptionID = id then
      .error (.text "active subscription cannot be deleted")
    else .ok
      ({ db with
          subscriptions := db.subscriptions.delete fun s => s.id = id,
          methods := db.methods.delete fun m => m.subscriptionID = some id },
        row.sourceSecretRef)

/-! ## `accesspolicy.Repository` -/

def synchronize (now : Time) (method : Method) (enabled : Bool) (rows : Relation subscriptions) :
    Except Fault (Relation subscriptions) :=
  match method.kind with
  | .direct => .ok rows
  | .subscription =>
    (rows.updateWhere (fun s => s.id = method.subscriptionID.getD "")
      (fun s => { s with enabled, status := switchedStatus enabled, updatedAt := now })
      fun _ => rfl).mapError Fault.subscriptions

def setMethodEnabled (now : Time) (id : String) (enabled : Bool) (db : Database) :
    Except Fault Database :=
  if trimSpace id = "" then .error (.text "access policy database and method id are required")
  else match db.methods.find id with
  | none => .error .notFound
  | some method =>
    if enabled = method.enabled then .ok db
    else do
      let priority := if enabled then db.nextMethodPriority else method.priority
      let methods ← (db.methods.updateWhere (fun m => m.id = id)
        (fun m => { m with enabled, priority, updatedAt := now }) fun _ => rfl).mapError
          Fault.methods
      let rows ← synchronize now method enabled db.subscriptions
      return { db with
        subscriptions := rows, methods, rankingGeneration := db.rankingGeneration + 1 }

def reorderEnabledMethods (now : Time) (orderedIDs : List String) (db : Database) :
    Except Fault Database := do
  validateOrder (fun id => trimSpace id = "") (db.enabledMethods.map Method.id) orderedIDs
  let maximum := ceiling (db.methods.rows.map Method.priority)
  let methods ← (numbered (above maximum) orderedIDs).foldlM (stageMethodPriority ofID) db.methods
  let methods ← (numbered tens orderedIDs).foldlM
    (fun methods x => do
      let methods' ← setMethodPriority now ofID methods x
      if methods.affected (ofID x.1) ≠ 1 then .error .prioritySetMismatch else return methods')
    methods
  return { db with methods, rankingGeneration := db.rankingGeneration + 1 }

/-! ## histories -/

inductive Operation where
  | create (input : CreateInput)
  | setEnabled (id : String) (enabled : Bool)
  | reorderEnabled (orderedIDs : List String)
  | delete (id : String)
  | setMethodEnabled (id : String) (enabled : Bool)
  | reorderEnabledMethods (orderedIDs : List String)

def perform (now : Time) (db : Database) : Operation → Except Fault Database
  | .create input => (create now input db).map Prod.fst
  | .setEnabled id enabled => setEnabled now id enabled db
  | .reorderEnabled orderedIDs => reorderEnabled now orderedIDs db
  | .delete id => (delete id db).map Prod.fst
  | .setMethodEnabled id enabled => setMethodEnabled now id enabled db
  | .reorderEnabledMethods orderedIDs => reorderEnabledMethods now orderedIDs db

def after (db : Database) (x : Time × Operation) : Database :=
  match perform x.1 db x.2 with
  | .ok db' => db'
  | .error _ => db

def reached (start : Time) (history : List (Time × Operation)) : Database :=
  history.foldl after (fresh start)

end GatewayVpn.Registry
