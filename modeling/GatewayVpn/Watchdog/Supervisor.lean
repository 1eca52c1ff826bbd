import GatewayVpn.Text
import GatewayVpn.Durable.Logic

/-!
# The watchdog supervisor

The package `watchdog`: one `Tick` looks at nineteen fixed components, reconciles or restarts those
that keep failing and, as a last resort, reboots the host.  Restarts and reboots are charged to a
durable history, which is saved before the call is made and loaded again when the process starts.

A call to `Restart` or `Reboot` is recorded whatever comes of it, with the clock at that moment and
with the reading of the clock that its tick has.  The policy can always be read, so a tick works
with it from its first step on.  Labels and details of a component, which go into its status
unchanged, are left out.
-/

namespace GatewayVpn.Watchdog

open Durable

/-! ## components -/

inductive Component where
  | control
  | sqlite
  | firewallGuard
  | firewallRuleset
  | networkBroker
  | networkd
  | dnsMasq
  | ssh
  | mihomo
  | wireGuardMgmt
  | managementFabric
  | wireGuardAdmin
  | wireGuardIngress
  | policyRouting
  | workerRuntime
  | convergence
  | backup
  | resources
  | logging
  deriving DecidableEq

structure ComponentSpec where
  reconcileable : Bool := false
  restartable : Bool := false
  rebootEligible : Bool := false
  restartWithoutPathBlock : Bool := false

def spec : Component → ComponentSpec
  | .control | .firewallGuard | .firewallRuleset | .networkBroker | .networkd | .dnsMasq | .mihomo
  | .policyRouting | .workerRuntime | .convergence =>
    { reconcileable := true, restartable := true, rebootEligible := true }
  | .sqlite | .ssh | .wireGuardMgmt | .wireGuardIngress | .backup | .logging =>
    { reconcileable := true, restartable := true }
  | .managementFabric | .wireGuardAdmin =>
    { reconcileable := true, restartable := true, restartWithoutPathBlock := true }
  | .resources => {}

/-- `fixedComponentSpecs`, in the order of the table -/
def fixedComponents : List Component :=
  [.control, .sqlite, .firewallGuard, .firewallRuleset, .networkBroker, .networkd, .dnsMasq, .ssh,
   .mihomo, .wireGuardMgmt, .managementFabric, .wireGuardAdmin, .wireGuardIngress, .policyRouting,
   .workerRuntime, .convergence, .backup, .resources, .logging]

/-! ## the policy -/

inductive RecoveryMode where
  | monitorOnly
  | reconcile
  | restart
  deriving DecidableEq

structure Settings where
  enabled : Bool := true
  failureThreshold : Nat := 3
  successThreshold : Nat := 2
  reconcileEnabled : Bool := true
  componentRestartEnabled : Bool := true
  restartCooldownSeconds : Int := 30
  maxRestartsPerComponent : Nat := 5
  restartWindowSeconds : Int := 900
  hostRebootEnabled : Bool := false
  rebootAfterCriticalSeconds : Int := 900
  maxRebootsPer24h : Nat := 1
  rebootGraceSeconds : Int := 60
  recoveryMode : Component → RecoveryMode := fun c =>
    if (spec c).restartable then .restart
    else if (spec c).reconcileable then .reconcile
    else .monitorOnly

/-- what `Validate` demands of these settings -/
structure Settings.Valid (p : Settings) : Prop where
  failureThreshold : 1 ≤ p.failureThreshold ∧ p.failureThreshold ≤ 10
  successThreshold : 1 ≤ p.successThreshold ∧ p.successThreshold ≤ 10
  cooldown : 5 ≤ p.restartCooldownSeconds ∧ p.restartCooldownSeconds ≤ 3600
  restarts : 1 ≤ p.maxRestartsPerComponent ∧ p.maxRestartsPerComponent ≤ 20
  window : 60 ≤ p.restartWindowSeconds ∧ p.restartWindowSeconds ≤ 86400 ∧
    p.restartCooldownSeconds ≤ p.restartWindowSeconds
  critical : 300 ≤ p.rebootAfterCriticalSeconds ∧ p.rebootAfterCriticalSeconds ≤ 86400
  reboots : 1 ≤ p.maxRebootsPer24h ∧ p.maxRebootsPer24h ≤ 3
  grace : 10 ≤ p.rebootGraceSeconds ∧ p.rebootGraceSeconds ≤ 600
  reconcile : ∀ c, p.recoveryMode c = .reconcile → (spec c).reconcileable = true
  restart : ∀ c, p.recoveryMode c = .restart → (spec c).restartable = true

structure Policy extends Settings where
  valid : toSettings.Valid

def seconds (n : Int) : Time := n * second

def day : Time := seconds 86400

namespace Policy

def restartWindow (p : Policy) : Time := seconds p.restartWindowSeconds
def restartCooldown (p : Policy) : Time := seconds p.restartCooldownSeconds

end Policy

/-! ## the durable history -/

structure DurableHistory where
  restartAttempts : Component → List Time := fun _ => []
  rebootAttempts : List Time := []
  criticalSince : Component → Option Time := fun _ => none
  pendingRebootAt : Option Time := none

namespace DurableHistory

section
variable (h : DurableHistory)

/-- the bounds that `normalize` puts on a history -/
def normal : Bool :=
  fixedComponents.all (fun c => (h.restartAttempts c).length ≤ 1000) &&
    h.rebootAttempts.length ≤ 1000

def recentTimestamps (values : List Time) (cutoff : Time) : List Time :=
  values.filter (cutoff ≤ ·)

def prune (now : Time) (policy : Policy) : DurableHistory :=
  { h with
    restartAttempts := fun c => recentTimestamps (h.restartAttempts c) (now - policy.restartWindow)
    rebootAttempts := recentTimestamps h.rebootAttempts (now - day) }

section
variable (c : Component)

/-- the reason against a restart, if there is one; the history was pruned -/
def restartRefused (policy : Policy) (now : Time) : Option String :=
  if policy.maxRestartsPerComponent ≤ (h.restartAttempts c).length then
    some "RESTART_BUDGET_EXHAUSTED"
  else
    match (h.restartAttempts c).getLast? with
    | some last => if now < last + policy.restartCooldown then some "RESTART_COOLDOWN" else none
    | none => none

/-- `RestartAllowed`, which prunes the history -/
def restartAllowed (policy : Policy) (now : Time) :
    DurableHistory × Option String :=
  (h.prune now policy, (h.prune now policy).restartRefused c policy now)

def recordRestart (now : Time) : DurableHistory :=
  { h with restartAttempts := Function.update h.restartAttempts c (h.restartAttempts c ++ [now]) }

/-- `RebootAllowed`, which prunes the history -/
def rebootAllowed (policy : Policy) (now : Time) : DurableHistory × Option String :=
  let h := h.prune now policy
  (h, if !policy.hostRebootEnabled then some "HOST_REBOOT_DISABLED"
    else if policy.maxRebootsPer24h ≤ h.rebootAttempts.length then some "REBOOT_BUDGET_EXHAUSTED"
    else none)

def recordReboot (now : Time) : DurableHistory :=
  { h with rebootAttempts := h.rebootAttempts ++ [now], pendingRebootAt := none }

def markCritical (now : Time) : DurableHistory :=
  { h with criticalSince := Function.update h.criticalSince c (some now) }

def clearCritical : DurableHistory :=
  { h with criticalSince := Function.update h.criticalSince c none }

end

end

end DurableHistory

/-! ## observations and statuses -/

inductive Classification where
  | local
  | external
  | maintenance
  deriving DecidableEq

structure Observation where
  component : Component
  applicable : Bool := true
  healthy : Bool := false
  classification : Option Classification := none
  errorCode : String := ""

structure ProbeSnapshot where
  observedAt : Option Time := none
  maintenance : Bool := false
  maintenanceCode : String := ""
  connectivity : String := ""
  components : List Observation := []

/-- the entry of the map that is built from the observations: the last one of a component -/
def ProbeSnapshot.observation (s : ProbeSnapshot) (c : Component) : Observation :=
  (s.components.reverse.find? (·.component = c)).getD
    { component := c, errorCode := "PROBE_RESULT_MISSING" }

def missingProbeSnapshot (now : Time) : ProbeSnapshot where
  observedAt := some now
  connectivity := "UNKNOWN"
  components := fixedComponents.map fun c => { component := c, errorCode := "LOCAL_PROBE_FAILED" }

/-- `strings.ToUpper`, as far as its result is a capital letter, a digit or an underscore -/
def toUpper (c : Char) : Char :=
  if isLower c then Char.ofNat (c.toNat - 32)
  else if c.toNat = 0x131 then 'I'
  else if c.toNat = 0x17f then 'S'
  else c

def safeCode (value : String) : String :=
  let upper := String.ofList ((trimSpace value).toList.map toUpper)
  if charset 64 (fun c => isUpper c || isDigit c || c = '_') upper then upper else "UNKNOWN"

def safeOptionalCode (value : String) : String := if value = "" then "" else safeCode value

inductive ComponentState where
  | healthy
  | degraded
  | failed
  | notApplicable
  deriving DecidableEq

inductive OverallState where
  | healthy
  | degraded
  | criticalLocal
  | recoverySuppressed
  deriving DecidableEq

structure ComponentStatus where
  component : Component
  state : ComponentState := .healthy
  applicable : Bool := true
  classification : Option Classification := none
  errorCode : String := ""
  consecutiveFailures : Nat := 0
  consecutiveSuccesses : Nat := 0
  restartsInWindow : Nat := 0
  lastSuccessAt : Option Time := none
  lastFailureAt : Option Time := none
  lastRecoveryAt : Option Time := none
  lastRecoveryAction : String := ""
  recoverySuppressed : Bool := false
  suppressionReason : String := ""

def ComponentStatus.suppress (s : ComponentStatus) (reason : String) : ComponentStatus :=
  { s with recoverySuppressed := true, suppressionReason := reason }

structure Status where
  supervisorStartedAt : Option Time
  observedAt : Option Time
  overallState : OverallState
  connectivityState : String
  connectivityClass : Option Classification
  maintenance : Bool
  maintenanceCode : String
  policyErrorCode : String
  hostReboots24h : Nat
  pendingRebootAt : Option Time
  components : List ComponentStatus

/-- the loop of `deriveOverall` -/
def deriveFrom : OverallState → List ComponentStatus → OverallState
  | result, [] => result
  | result, s :: rest =>
    if s.recoverySuppressed && s.state = .failed then .recoverySuppressed
    else if s.state = .failed then deriveFrom .criticalLocal rest
    else if s.state = .degraded && result = .healthy then deriveFrom .degraded rest
    else deriveFrom result rest

def deriveOverall (statuses : List ComponentStatus) : OverallState := deriveFrom .healthy statuses

def mergeCode (left right : String) : String := if left = "" then right else left ++ "+" ++ right

/-! ## the outside world -/

inductive Fault where
  | call
  | history

inductive Event where
  | read (time : Time)
  | saved (history : DurableHistory)
  | blocked
  | restarted (component : Component) (reading time : Time)
  | rebooted (reading time : Time)

structure World where
  stored : DurableHistory := {}
  clock : Nat → Time
  reads : Nat := 0
  probes : Nat → Except Fault ProbeSnapshot
  probed : Nat := 0
  log : List Event := []

namespace World

def now (w : World) : Time := w.clock w.reads

def record (w : World) (e : Event) : World := { w with reads := w.reads + 1, log := e :: w.log }

/-- `HistoryStore.Load` -/
def load (w : World) (f : Fate) : Except Fault DurableHistory × World :=
  f.deliver .call (if w.stored.normal then .ok w.stored else .error .history, w) w

/-- `HistoryStore.Save`: the file is replaced in one step -/
def save (w : World) (h : DurableHistory) (f : Fate) : Except Fault Unit × World :=
  if h.normal then
    match f with
    | .ok => (.ok (), { w with stored := h }.record (.saved h))
    | .fail => (.error .call, w)
    | .late => (.error .call, { w with stored := h })
  else (.error .history, w)

end World

inductive Op where
  | now
  | load
  | snapshot
  | reconcile (component : Component)
  | failClosed
  | restart (component : Component) (reading : Time)
  | reboot (reading : Time)
  | save (history : DurableHistory)
  | write (status : Status)

def Ret : Op → Type
  | .now => Time
  | .load => Except Fault DurableHistory
  | .snapshot => Except Fault ProbeSnapshot
  | _ => Except Fault Unit

def exec : (o : Op) → Fate → World → Ret o × World
  | .now, _, w => (w.now, w.record (.read w.now))
  | .load, f, w => w.load f
  | .snapshot, f, w =>
    let v := { w with probed := w.probed + 1 }
    f.deliver .call (w.probes w.probed, v) v
  | .reconcile _, f, w => f.deliver .call (.ok (), w) w
  | .failClosed, f, w => f.deliver .call (.ok (), w.record .blocked) w
  | .restart c reading, f, w =>
    let v := w.record (.restarted c reading w.now)
    f.deliver .call (.ok (), v) v
  | .reboot reading, f, w =>
    let v := w.record (.rebooted reading w.now)
    f.deliver .call (.ok (), v) v
  | .save h, f, w => w.save h f
  | .write _, f, w => f.deliver .call (.ok (), w) w

abbrev Prog := Proc Op Ret

/-! ## the supervisor -/

structure ComponentRuntime where
  failures : Nat := 0
  successes : Nat := 0
  reconciled : Bool := false
  lastSuccess : Option Time := none
  lastFailure : Option Time := none
  lastRecovery : Option Time := none
  lastAction : String := ""

structure Supervisor where
  loaded : Bool := false
  startedAt : Option Time := none
  durable : DurableHistory := {}
  runtime : Component → ComponentRuntime := fun _ => {}
  lastStatusWritten : Bool := false

namespace Supervisor

def setRuntime (s : Supervisor) (c : Component) (r : ComponentRuntime) : Supervisor :=
  { s with runtime := Function.update s.runtime c r }

def setDurable (s : Supervisor) (h : DurableHistory) : Supervisor := { s with durable := h }

def componentStatus (s : Supervisor) (status : ComponentStatus) : ComponentStatus :=
  let r := s.runtime status.component
  { status with
    consecutiveFailures := r.failures
    consecutiveSuccesses := r.successes
    lastSuccessAt := r.lastSuccess
    lastFailureAt := r.lastFailure
    lastRecoveryAt := r.lastRecovery
    lastRecoveryAction := r.lastAction
    restartsInWindow := (s.durable.restartAttempts status.component).length }

end Supervisor

/-- a component was evaluated: the memory, its status, and whether the history was changed -/
abbrev Evaluated := Supervisor × ComponentStatus × Bool

def conclude (s : Supervisor) (status : ComponentStatus) (changed : Bool) : Prog Evaluated :=
  .done (s, s.componentStatus status, changed)

def initializeMemory (s : Supervisor) : Prog (Except Fault Supervisor) :=
  if s.loaded then .done (.ok s)
  else
    .call .now fun (started : Time) =>
    .call .load fun
      | .error e => .done (.error e)
      | .ok history =>
        .done (.ok { s with
          loaded := true, startedAt := some started, durable := history, runtime := fun _ => {} })

section
variable (policy : Policy)

def recoverHealthy (c : Component) (now : Time) (status : ComponentStatus)
    (s : Supervisor) : Prog Evaluated :=
  let r := s.runtime c
  let wasCritical := (s.durable.criticalSince c).isSome
  let wasRecovering := 0 < r.failures || r.reconciled || wasCritical
  let successes := r.successes + 1
  let stable := policy.successThreshold ≤ successes
  let s := s.setRuntime c { r with
    successes, failures := 0, lastSuccess := some now,
    reconciled := if stable then false else r.reconciled }
  let s := if stable && wasCritical then s.setDurable (s.durable.clearCritical c) else s
  let changed := stable && wasCritical
  if wasRecovering && successes < policy.successThreshold then
    conclude s { status with state := .degraded, classification := some .local } changed
  else conclude s { status with state := .healthy } changed

/-- the attempt is saved, and then the restart is made -/
def chargeRestart (c : Component) (now : Time) (status : ComponentStatus) (s : Supervisor) :
    Prog Evaluated :=
  let s := s.setDurable (s.durable.recordRestart c now)
  .call (.save s.durable) fun
    | .error _ =>
      conclude s { (status.suppress "HISTORY_PERSIST_FAILED") with
        errorCode := "HISTORY_PERSIST_FAILED" } true
    | .ok _ =>
      let s := s.setRuntime c { (s.runtime c) with
        lastAction := "COMPONENT_RESTART", lastRecovery := some now }
      .call (.restart c now) fun
        | .error _ => conclude s { status with errorCode := "COMPONENT_RESTART_FAILED" } true
        | .ok _ => conclude s status true

/-- the failure was reconciled before and the component may be restarted: the budget, the block of
the path, and the restart -/
def restartComponent (c : Component) (now : Time) (status : ComponentStatus)
    (changed : Bool) (s : Supervisor) : Prog Evaluated :=
  let (history, refused) := s.durable.restartAllowed c policy now
  let s := s.setDurable history
  match refused with
  | some reason => conclude s (status.suppress reason) changed
  | none =>
    if (spec c).restartWithoutPathBlock then chargeRestart c now status s
    else
      .call .failClosed fun
        | .error _ =>
          conclude s { (status.suppress "FAIL_CLOSED_FAILED") with
            errorCode := "FAIL_CLOSED_FAILED" } changed
        | .ok _ => chargeRestart c now status s

def recover (c : Component) (maintenance : Bool) (now : Time)
    (status : ComponentStatus) (s : Supervisor) : Prog Evaluated :=
  let status := { status with state := .failed }
  let changed := (s.durable.criticalSince c).isNone
  let s := if changed then s.setDurable (s.durable.markCritical c now) else s
  let mode := policy.recoveryMode c
  if maintenance then conclude s (status.suppress "MAINTENANCE_TRANSACTION") changed
  else if !policy.enabled then conclude s (status.suppress "WATCHDOG_DISABLED") changed
  else if mode = .monitorOnly then conclude s (status.suppress "COMPONENT_MONITOR_ONLY") changed
  else if policy.reconcileEnabled && (spec c).reconcileable && !(s.runtime c).reconciled then
    let s := s.setRuntime c { (s.runtime c) with
      reconciled := true, lastAction := "RECONCILE", lastRecovery := some now }
    .call (.reconcile c) fun
      | .error _ => conclude s { status with errorCode := "RECONCILE_FAILED" } changed
      | .ok _ => conclude s status changed
  else if mode ≠ .restart || !(spec c).restartable || !policy.componentRestartEnabled then
    conclude s (status.suppress
      (if mode = .reconcile then "COMPONENT_RECONCILE_ONLY"
        else if !(spec c).restartable then "COMPONENT_NOT_RESTARTABLE"
        else "COMPONENT_RESTART_DISABLED")) changed
  else restartComponent policy c now status changed s

def evaluateComponent (observation : Observation) (maintenance : Bool)
    (now : Time) (c : Component) (s : Supervisor) : Prog Evaluated :=
  let r := s.runtime c
  let wasCritical := (s.durable.criticalSince c).isSome
  let cleared := if wasCritical then s.setDurable (s.durable.clearCritical c) else s
  let status : ComponentStatus := { component := c, applicable := observation.applicable }
  if !observation.applicable then
    let s := cleared.setRuntime c { r with failures := 0, successes := 0, reconciled := false }
    .done (s, { status with state := .notApplicable }, wasCritical)
  else if observation.healthy then recoverHealthy policy c now status s
  else if observation.classification = some .external then
    let s := cleared.setRuntime c { r with failures := 0, successes := 0, reconciled := false }
    conclude s ({ status with
      state := .degraded, classification := some .external,
      errorCode := safeCode observation.errorCode }.suppress "EXTERNAL_OUTAGE_NO_LOCAL_RECOVERY")
      wasCritical
  else
    let s := s.setRuntime c { r with
      failures := r.failures + 1, successes := 0, lastFailure := some now }
    let status := { status with
      errorCode := safeCode observation.errorCode, classification := some .local }
    if r.failures + 1 < policy.failureThreshold then
      conclude s { status with state := .degraded } false
    else recover policy c maintenance now status s

def evaluateEach (policy : Policy) (snapshot : ProbeSnapshot) (now : Time) :
    List Component → Supervisor → Prog (Supervisor × List ComponentStatus × Bool)
  | [], s => .done (s, [], false)
  | c :: cs, s =>
    (evaluateComponent policy (snapshot.observation c) snapshot.maintenance now c s).bind
      fun (s, status, changed) =>
        (evaluateEach policy snapshot now cs s).bind fun (s, statuses, more) =>
          .done (s, status :: statuses, changed || more)

def oldestCritical (h : DurableHistory) (now : Time) (critical : List Component) : Time :=
  critical.foldl (fun oldest c =>
    match h.criticalSince c with
    | some t => if t < oldest then t else oldest
    | none => oldest) now

/-- a reboot was evaluated: the memory, the statuses, whether the history was changed, the error -/
abbrev Rebooted := Supervisor × List ComponentStatus × Bool × Option Fault

/-- the deadline has passed: the saved attempt, the block of the path and the reboot -/
def rebootHost (now : Time) (statuses : List ComponentStatus) (s : Supervisor) : Prog Rebooted :=
  let s := s.setDurable (s.durable.recordReboot now)
  .call (.save s.durable) fun
    | .error e => .done (s, statuses, false, some e)
    | .ok _ =>
      .call .failClosed fun
        | .error e => .done (s, statuses, false, some e)
        | .ok _ =>
          .call (.reboot now) fun
            | .error e => .done (s, statuses, false, some e)
            | .ok _ => .done (s, statuses, false, none)

/-- no reboot is pending any more, and whether one was -/
def clearPending (s : Supervisor) : Supervisor × Bool :=
  match s.durable.pendingRebootAt with
  | some _ => (s.setDurable { s.durable with pendingRebootAt := none }, true)
  | none => (s, false)

def evaluateReboot (critical : List Component) (maintenance : Bool) (now : Time)
    (statuses : List ComponentStatus) (s : Supervisor) : Prog Rebooted :=
  if critical = [] || maintenance || !policy.enabled then
    let (s, changed) := clearPending s
    .done (s, statuses, changed, none)
  else if !policy.hostRebootEnabled then
    let (s, changed) := clearPending s
    .done (s, statuses.map fun x =>
      if x.component ∈ critical && !x.recoverySuppressed then x.suppress "HOST_REBOOT_DISABLED"
      else x, changed, none)
  else if now < oldestCritical s.durable now critical +
      seconds policy.rebootAfterCriticalSeconds then
    .done (s, statuses, false, none)
  else
    let (history, refused) := s.durable.rebootAllowed policy now
    let s := s.setDurable history
    match refused with
    | some reason =>
      .done (s, statuses.map fun x =>
        if x.component ∈ critical then x.suppress reason else x, false, none)
    | none =>
      match s.durable.pendingRebootAt with
      | none =>
        let deadline := now + seconds policy.rebootGraceSeconds
        .done (s.setDurable { s.durable with pendingRebootAt := some deadline }, statuses, true, none)
      | some deadline =>
        if now < deadline then .done (s, statuses, false, none)
        else rebootHost now statuses s

def statusOf (s : Supervisor) (snapshot : ProbeSnapshot) (now : Time) (policyError : String)
    (statuses : List ComponentStatus) : Status :=
  let connectivity := if snapshot.connectivity = "" then "UNKNOWN" else snapshot.connectivity
  { supervisorStartedAt := s.startedAt
    observedAt := some (snapshot.observedAt.getD now)
    overallState := deriveOverall statuses
    connectivityState := connectivity
    connectivityClass := if connectivity = "AVAILABLE" then none else some .external
    maintenance := snapshot.maintenance
    maintenanceCode := safeOptionalCode snapshot.maintenanceCode
    policyErrorCode := policyError
    hostReboots24h := s.durable.rebootAttempts.length
    pendingRebootAt := s.durable.pendingRebootAt
    components := statuses }

def publish (status : Status) (faults : List Fault) (s : Supervisor) :
    Prog (Supervisor × List Fault) :=
  .call (.write status) fun
    | .error e => .done (s, [e])
    | .ok _ => .done ({ s with lastStatusWritten := true }, faults)

/-- the end of a tick: the history is saved if it was changed, and the status is written -/
def finish (policyError : String) (snapshot : ProbeSnapshot) (now : Time)
    (statuses : List ComponentStatus) (changed : Bool) (faults : List Fault) (s : Supervisor) :
    Prog (Supervisor × List Fault) :=
  let status := statusOf s snapshot now policyError statuses
  if changed then
    .call (.save s.durable) fun
      | .error e => .done (s, [e])
      | .ok _ => publish status faults s
  else publish status faults s

def settle (snapshot : ProbeSnapshot) (policyError : String)
    (probeFaults : List Fault) (now : Time) (statuses : List ComponentStatus) (changed : Bool)
    (s : Supervisor) : Prog (Supervisor × List Fault) :=
  let critical := (statuses.filter fun x =>
    x.state = .failed && (spec x.component).rebootEligible &&
      policy.recoveryMode x.component = .restart).map (·.component)
  let (s, withdrawn) := if snapshot.maintenance then clearPending s else (s, false)
  (evaluateReboot policy critical snapshot.maintenance now statuses s).bind
    fun (s, statuses, rebootChanged, fault) =>
      let policyError :=
        if fault.isSome then mergeCode policyError "HOST_REBOOT_FAILED" else policyError
      finish policyError snapshot now statuses (changed || withdrawn || rebootChanged)
        (probeFaults ++ fault.toList) s

def tick (s : Supervisor) : Prog (Supervisor × List Fault) :=
  (initializeMemory { s with lastStatusWritten := false }).attempt
    (fun e => .done ({ s with lastStatusWritten := false }, [e])) fun s =>
  .call .now fun (now : Time) =>
    let s := s.setDurable (s.durable.prune now policy)
    .call .snapshot fun answer =>
      let (snapshot, policyError, faults) := match answer with
        | .ok snapshot => (snapshot, "", [])
        | .error e => (missingProbeSnapshot now, "LOCAL_PROBE_FAILED", [e])
      (evaluateEach policy snapshot now fixedComponents s).bind fun (s, statuses, changed) =>
        settle policy snapshot policyError faults now statuses changed s

/-- a tick, finished or cut off by a crash of the process, or a crash between two ticks -/
inductive Turn where
  | tick (fates : List Fate)
  | crash

def step (x : World × Supervisor) : Turn → World × Supervisor
  | .tick fates =>
    let o := run exec (tick policy x.2) fates x.1
    (o.state, match o.result with
      | some r => r.1
      | none => {})
  | .crash => (x.1, {})

end

end GatewayVpn.Watchdog
