import GatewayVpn.Mihomo.Generate
import GatewayVpn.Durable.Cut

/-!
# Mihomo: the transaction controller

`TransactionController` writes a candidate generation, activates and verifies it, and records in
three marker files which generation is active, which was last known good and which is pending.

A marker is replaced by a rename, so a crash leaves the old file or the new one.  A write that
reports an error may have taken place (`Fate.late`): the directory could not be synced.  The world
also records two facts about the past, which no call reads: the outcomes of `Verify`, and the
generations that an `Apply` reported as rolled back.
-/

namespace GatewayVpn.Mihomo

open Durable

/-! ## generations and markers -/

def generationChar (c : Char) : Bool :=
  isLower c || isUpper c || isDigit c || c = '.' || c = '_' || c = '-'

def safeGenerationID (value : String) : Bool :=
  charset 128 generationChar value && value ≠ "." && value ≠ ".."

inductive Marker where
  | active
  | lkg
  | pending
  deriving DecidableEq

structure World where
  generations : List (String × Bundle) := []
  active : Option String := none
  lkg : Option String := none
  pending : Option String := none
  /-- what Mihomo runs; `none` is PATH_BLOCKED -/
  running : Option String := none
  /-- the outcomes of `Verify`, the last one first -/
  verified : List (String × Bool) := []
  rejected : List String := []

namespace World

def marker (w : World) : Marker → Option String
  | .active => w.active
  | .lkg => w.lkg
  | .pending => w.pending

def mark (w : World) (m : Marker) (content : Option String) : World :=
  match m with
  | .active => { w with active := content }
  | .lkg => { w with lkg := content }
  | .pending => { w with pending := content }

def has (w : World) (generation : String) : Bool := w.generations.any fun g => g.1 = generation

/-- the last `Verify` of the generation succeeded -/
def verifiedLast (w : World) (generation : String) : Bool := w.verified.lookup generation = some true

end World

/-! ## the calls of the controller -/

inductive Op where
  | prepareRoot
  | writeCandidate (generation : String) (bundle : Bundle)
  | validate (generation : String)
  | readMarker (m : Marker)
  | writeMarker (m : Marker) (generation : String)
  | removeMarker (m : Marker)
  | statGeneration (generation : String)
  | activate (generation : String)
  | verify (generation : String)
  | failClosed
  deriving DecidableEq

def Op.Ret : Op → Type
  | .readMarker _ => Except String (Option String)
  | _ => Except String Unit

def refused : String := "input/output error"

/-- `WriteCandidate`: a generation directory is never replaced.  Which of its calls refuses two files
that cannot be in one directory depends on the order of the map of providers. -/
def writeCandidate (generation : String) (b : Bundle) (w : World) : Except String Unit × World :=
  if b.main = "" then (.error "candidate destination and main config are required", w)
  else if w.has generation then (.error "candidate destination already exists", w)
  else match b.files with
  | .error err => (.error err, w)
  | .ok files =>
    if Separate files then (.ok (), { w with generations := w.generations ++ [(generation, b)] })
    else (.error "create candidate file: file exists", w)

/-- `readGenerationMarker`; a missing file is `none` -/
def readMarker (m : Marker) (w : World) : Except String (Option String) :=
  match w.marker m with
  | none => .ok none
  | some generation =>
    if safeGenerationID generation then .ok (some generation)
    else .error "unsafe Mihomo generation marker content"

def writeMarker (m : Marker) (generation : String) (w : World) : Except String Unit × World :=
  if safeGenerationID generation then (.ok (), w.mark m (some generation))
  else (.error "unsafe Mihomo generation marker", w)

def statGeneration (generation : String) (w : World) : Except String Unit :=
  if w.has generation then .ok () else .error "no such file or directory"

/-- an activation that fails leaves the traffic blocked; a verification is remembered -/
def exec : (o : Op) → Fate → World → o.Ret × World
  | .prepareRoot, f, w => f.deliver refused (.ok (), w) w
  | .writeCandidate generation b, f, w => f.deliver refused (writeCandidate generation b w) w
  | .validate _, f, w => f.deliver refused (.ok (), w) w
  | .readMarker m, f, w => f.deliver refused (readMarker m w, w) w
  | .writeMarker m generation, f, w => f.deliver refused (writeMarker m generation w) w
  | .removeMarker m, f, w => f.deliver refused (.ok (), w.mark m none) w
  | .statGeneration generation, f, w => f.deliver refused (statGeneration generation w, w) w
  | .activate generation, f, w =>
    if f = .ok then (.ok (), { w with running := some generation })
    else (.error refused, { w with running := none })
  | .verify generation, f, w =>
    if f = .ok then (.ok (), { w with verified := (generation, true) :: w.verified })
    else (.error refused, { w with verified := (generation, false) :: w.verified })
  | .failClosed, f, w => f.deliver refused (.ok (), { w with running := none }) w

/-! ## Apply -/

structure Controller where
  root : String := "/var/lib/gateway-vpn/mihomo"
  hasValidator : Bool := true
  hasRuntime : Bool := true
  /-- the runtime is a `FailClosedRuntime` -/
  blocks : Bool := true

structure ApplyResult where
  generation : String := ""
  previousGeneration : String := ""
  rolledBack : Bool := false
  deriving DecidableEq

structure Reply where
  result : ApplyResult := {}
  err : Option String := none
  deriving DecidableEq

abbrev Action := Proc Op Op.Ret

def joinErrors (errs : List (Option String)) : Option String :=
  match errs.filterMap id with
  | [] => none
  | err :: rest => some (rest.foldl (fun text e => text ++ "\n" ++ e) err)

def fails {α : Type} : Except String α → Option String
  | .error err => some err
  | .ok _ => none

def wrap (context : String) (err : Option String) : Option String := err.map (context ++ ": " ++ ·)

/-- the traffic is blocked and the pending marker removed: this is reported as a rollback -/
def blockAndClear (result : ApplyResult) (blocked : String → Option String)
    (cleared : Option String → Option String) : Action Reply :=
  .call .failClosed fun
  | .error err => .done ⟨result, blocked err⟩
  | .ok _ => .call (.removeMarker .pending) fun r =>
    .done ⟨{ result with rolledBack := true }, cleared (fails r)⟩

section
variable (c : Controller)

section
variable (result : ApplyResult)

def failClosedRollback (cause rollbackErr : String) : Action Reply :=
  if c.blocks then
    blockAndClear result
      (fun err => joinErrors [some cause, some rollbackErr,
        some ("enforce PATH_BLOCKED after rollback failure: " ++ err)])
      (fun err => joinErrors [some cause, some rollbackErr,
        wrap "clear pending Mihomo generation after rollback failure" err])
  else
    .done ⟨result, joinErrors [some cause, some rollbackErr,
      some "runtime cannot enforce PATH_BLOCKED after rollback failure"]⟩

def rollbackToNone (cause : String) : Action Reply :=
  if c.blocks then
    blockAndClear result
      (fun err => joinErrors [some cause,
        some ("enforce PATH_BLOCKED without previous LKG: " ++ err)])
      (fun err => joinErrors [some cause,
        wrap "clear pending Mihomo generation after PATH_BLOCKED" err])
  else
    .done ⟨result, some (cause ++
      "; no previous LKG exists and runtime cannot enforce PATH_BLOCKED")⟩

/-- `rollback` to a previous generation: its `active` marker is written, its LKG marker is not -/
def rollbackTo (cause : String) : Action Reply :=
  .call (.activate result.previousGeneration) fun
  | .error err => failClosedRollback c result cause ("rollback activation failed: " ++ err)
  | .ok _ => .call (.verify result.previousGeneration) fun
  | .error err => failClosedRollback c result cause ("rollback verification failed: " ++ err)
  | .ok _ => .call (.writeMarker .active result.previousGeneration) fun
  | .error err => .done ⟨{ result with rolledBack := true },
      some (cause ++ "; rollback marker failed: " ++ err)⟩
  | .ok _ => .call (.removeMarker .pending) fun
  | .error err => .done ⟨{ result with rolledBack := true },
      some (cause ++ "; pending marker cleanup failed: " ++ err)⟩
  | .ok _ => .done ⟨{ result with rolledBack := true }, some cause⟩

def rollback (cause : String) : Action Reply :=
  if result.previousGeneration = "" then rollbackToNone c result cause
  else rollbackTo c result cause

def recordGeneration : Action Reply :=
  .call (.writeMarker .active result.generation) fun
  | .error err => rollback c result ("record active Mihomo generation: " ++ err)
  | .ok _ => .call (.writeMarker .lkg result.generation) fun
  | .error err => rollback c result ("record Mihomo LKG generation: " ++ err)
  | .ok _ => .call (.removeMarker .pending) fun
  | .error err => .done ⟨result, some ("clear pending Mihomo generation: " ++ err)⟩
  | .ok _ => .done ⟨result, none⟩

/-- `Apply`, from the pending marker on -/
def activateCandidate : Action Reply :=
  .call (.writeMarker .pending result.generation) fun
  | .error err => .done ⟨result, some ("record pending Mihomo generation: " ++ err)⟩
  | .ok _ => .call (.activate result.generation) fun
  | .error err => rollback c result ("activate Mihomo candidate generation: " ++ err)
  | .ok _ => .call (.verify result.generation) fun
  | .error err => rollback c result ("verify Mihomo candidate generation: " ++ err)
  | .ok _ => recordGeneration c result

end

def apply (generation : String) (bundle : Bundle) : Action Reply :=
  if c.root = "" || !c.hasValidator || !c.hasRuntime || !safeGenerationID generation then
    .done ⟨{}, some "complete Mihomo transaction controller and safe generation id are required"⟩
  else
    .call .prepareRoot fun
    | .error err => .done ⟨{}, some ("create Mihomo transaction directory: " ++ err)⟩
    | .ok _ => .call (.writeCandidate generation bundle) fun
    | .error err => .done ⟨{}, some ("write Mihomo candidate generation: " ++ err)⟩
    | .ok _ => .call (.validate generation) fun
    | .error err => .done ⟨{ generation },
        some ("validate Mihomo candidate generation: " ++ err)⟩
    | .ok _ => .call (.readMarker .lkg) fun
    | .error err => .done ⟨{ generation }, some ("read Mihomo LKG marker: " ++ err)⟩
    | .ok previous => activateCandidate c { generation, previousGeneration := previous.getD "" }

end

/-! ## Restore and RecoverLKG -/

def failure (err : String) : Action Reply := .done { err := some err }

section
variable (c : Controller)

/-- `Restore("")`: every marker is removed, whether or not the others could be -/
def restoreNone : Action Reply :=
  if c.blocks then
    .call .failClosed fun
    | .error err => failure ("block Mihomo runtime without previous LKG: " ++ err)
    | .ok _ => .call (.removeMarker .active) fun r₁ =>
      .call (.removeMarker .lkg) fun r₂ =>
      .call (.removeMarker .pending) fun r₃ =>
      .done { err := joinErrors [fails r₁, fails r₂, fails r₃] }
  else
    failure "Mihomo runtime cannot restore an empty LKG; PATH_BLOCKED runtime support is required"

def blockRestored (err : String) : Action Reply :=
  if c.blocks then
    .call .failClosed fun r => .done { err := joinErrors [some err, fails r] }
  else failure err

def restoreGeneration (generation : String) : Action Reply :=
  .call (.statGeneration generation) fun
  | .error err => failure ("stat Mihomo restore generation: " ++ err)
  | .ok _ => .call (.activate generation) fun
  | .error err => failure ("activate restored Mihomo generation: " ++ err)
  | .ok _ => .call (.verify generation) fun
  | .error err => blockRestored c ("verify restored Mihomo generation: " ++ err)
  | .ok _ => .call (.writeMarker .active generation) fun
  | .error err => failure ("record restored Mihomo active generation: " ++ err)
  | .ok _ => .call (.writeMarker .lkg generation) fun
  | .error err => failure ("record restored Mihomo LKG generation: " ++ err)
  | .ok _ => .call (.removeMarker .pending) fun r =>
    .done { err := wrap "clear pending Mihomo generation after restore" (fails r) }

def restore (generation : String) : Action Reply :=
  if c.root = "" || !c.hasRuntime then
    failure "complete Mihomo transaction controller is required"
  else if generation ≠ "" && !safeGenerationID generation then
    failure "safe Mihomo generation id is required"
  else
    .call .prepareRoot fun
    | .error err => failure ("create Mihomo transaction directory: " ++ err)
    | .ok _ => if generation = "" then restoreNone c else restoreGeneration c generation

def failClosedRecovery (cause : String) : Action Reply :=
  if c.blocks then
    .call .failClosed fun r => .done { err := joinErrors [some cause,
      wrap "enforce PATH_BLOCKED after Mihomo recovery failure" (fails r)] }
  else
    .done { err := joinErrors [some cause,
      some "runtime cannot enforce PATH_BLOCKED after Mihomo recovery failure"] }

def recoverGeneration (lkg : String) : Action Reply :=
  .call (.activate lkg) fun
  | .error err => failClosedRecovery c ("restore Mihomo LKG after interrupted transaction: " ++ err)
  | .ok _ => .call (.verify lkg) fun
  | .error err => failClosedRecovery c ("verify recovered Mihomo LKG: " ++ err)
  | .ok _ => .call (.writeMarker .active lkg) fun
  | .error err => failure ("record recovered Mihomo active generation: " ++ err)
  | .ok _ => .call (.removeMarker .pending) fun r => .done { err := fails r }

def recoverNone : Action Reply :=
  if c.blocks then
    .call .failClosed fun
    | .error err =>
      failure ("enforce PATH_BLOCKED for interrupted first Mihomo generation: " ++ err)
    | .ok _ => .call (.removeMarker .pending) fun r => .done { err := fails r }
  else
    failure "interrupted Mihomo transaction has no LKG and runtime cannot enforce PATH_BLOCKED"

def recoverLKG : Action Reply :=
  if c.root = "" || !c.hasRuntime then
    failure "complete Mihomo transaction controller is required"
  else
    .call (.readMarker .pending) fun
    | .error err => failure ("read pending Mihomo generation: " ++ err)
    | .ok none => .done {}
    | .ok (some _) => .call (.readMarker .lkg) fun
    -- an error comes with an empty generation, which the source takes for a missing marker
    | .error _ | .ok none => recoverNone c
    | .ok (some lkg) => recoverGeneration c lkg

end

/-! ## a system of calls -/

inductive Call where
  | apply (generation : String) (bundle : Bundle)
  | restore (generation : String)
  | recoverLKG

def Call.action (c : Controller) : Call → Action Reply
  | .apply generation bundle => Mihomo.apply c generation bundle
  | .restore generation => Mihomo.restore c generation
  | .recoverLKG => Mihomo.recoverLKG c

/-- one call in an environment, cut off before its call number `cut + 1` -/
structure Turn where
  call : Call
  env : Op → Fate
  cut : Nat

def Turn.outcome (c : Controller) (t : Turn) (w : World) : Option Reply × World :=
  runFor exec t.env t.cut (t.call.action c) w

def Reply.rejects (r : Reply) : Bool := r.err.isSome && r.result.rolledBack

def after (c : Controller) (w : World) (t : Turn) : World :=
  match t.outcome c w with
  | (some reply, w') =>
    if reply.rejects then { w' with rejected := reply.result.generation :: w'.rejected } else w'
  | (none, w') => w'

/-! ## the rules of the calls -/

section
variable {env : Op → Fate} {C : World → Prop} {α : Type} {Q : α → World → Prop} {v : World}
variable {k : Except String Unit → Action α} {g : String} {m : Marker}

theorem along_activate (hC : C v)
    (hok : env (.activate g) = .ok → along exec env C (k (.ok ())) Q { v with running := some g })
    (herror : env (.activate g) ≠ .ok →
      along exec env C (k (.error refused)) Q { v with running := none }) :
    along exec env C (.call (.activate g) k) Q v := by
  refine ⟨hC, ?_⟩
  cases hf : env (.activate g) with
  | ok => exact hok hf
  | fail => exact herror (by simp [hf])
  | late => exact herror (by simp [hf])

theorem along_verify (hC : C v) (hok : env (.verify g) = .ok →
      along exec env C (k (.ok ())) Q { v with verified := (g, true) :: v.verified })
    (herror : env (.verify g) ≠ .ok →
      along exec env C (k (.error refused)) Q { v with verified := (g, false) :: v.verified }) :
    along exec env C (.call (.verify g) k) Q v := by
  refine ⟨hC, ?_⟩
  cases hf : env (.verify g) with
  | ok => exact hok hf
  | fail => exact herror (by simp [hf])
  | late => exact herror (by simp [hf])

theorem along_writeMarker (hsafe : safeGenerationID g = true) (hC : C v)
    (hok : env (.writeMarker m g) = .ok → along exec env C (k (.ok ())) Q (v.mark m (some g)))
    (hfail : env (.writeMarker m g) = .fail → along exec env C (k (.error refused)) Q v)
    (hlate : env (.writeMarker m g) = .late →
      along exec env C (k (.error refused)) Q (v.mark m (some g))) :
    along exec env C (.call (.writeMarker m g) k) Q v := by
  have hwrite : writeMarker m g v = (.ok (), v.mark m (some g)) := by rw [writeMarker, if_pos hsafe]
  refine ⟨hC, ?_⟩
  show along exec env C (k ((env (.writeMarker m g)).deliver refused (writeMarker m g v) v).1) Q
    ((env (.writeMarker m g)).deliver refused (writeMarker m g v) v).2
  rw [hwrite]
  cases hf : env (.writeMarker m g) with
  | ok => exact hok hf
  | fail => exact hfail hf
  | late => exact hlate hf

theorem along_removeMarker (hC : C v) (hgone : ∀ r, along exec env C (k r) Q (v.mark m none))
    (hkept : ∀ r, env (.removeMarker m) = .fail → along exec env C (k r) Q v) :
    along exec env C (.call (.removeMarker m) k) Q v := by
  refine ⟨hC, ?_⟩
  cases hf : env (.removeMarker m) with
  | ok => exact hgone _
  | fail => exact hkept _ hf
  | late => exact hgone _

theorem along_failClosed (hC : C v)
    (hok : along exec env C (k (.ok ())) Q { v with running := none })
    (herror : ∀ running, along exec env C (k (.error refused)) Q { v with running }) :
    along exec env C (.call .failClosed k) Q v := by
  refine ⟨hC, ?_⟩
  cases hf : env .failClosed with
  | ok => exact hok
  | fail => exact herror v.running
  | late => exact herror none

theorem along_prepareRoot (hC : C v) (h : ∀ r, along exec env C (k r) Q v) :
    along exec env C (.call .prepareRoot k) Q v := by
  refine ⟨hC, ?_⟩
  cases hf : env .prepareRoot <;> exact h _

theorem along_validate (hC : C v) (h : ∀ r, along exec env C (k r) Q v) :
    along exec env C (.call (.validate g) k) Q v := by
  refine ⟨hC, ?_⟩
  cases hf : env (.validate g) <;> exact h _

theorem along_statGeneration (hC : C v) (hok : v.has g = true → along exec env C (k (.ok ())) Q v)
    (herror : ∀ err, along exec env C (k (.error err)) Q v) :
    along exec env C (.call (.statGeneration g) k) Q v := by
  refine ⟨hC, ?_⟩
  show along exec env C (k ((env (.statGeneration g)).deliver refused (statGeneration g v, v) v).1) Q
    ((env (.statGeneration g)).deliver refused (statGeneration g v, v) v).2
  cases hf : env (.statGeneration g) with
  | fail => exact herror _
  | late => exact herror _
  | ok =>
  rw [Fate.ok_deliver, statGeneration]
  split
  · next hhas => exact hok hhas
  · exact herror _

theorem along_readMarker {k : Except String (Option String) → Action α} (hC : C v)
    (hnone : v.marker m = none → along exec env C (k (.ok none)) Q v)
    (hsome : ∀ g, v.marker m = some g → safeGenerationID g = true →
      along exec env C (k (.ok (some g))) Q v)
    (herror : ∀ err, (env (.readMarker m) = .ok →
      ∃ g, v.marker m = some g ∧ safeGenerationID g ≠ true) → along exec env C (k (.error err)) Q v) :
    along exec env C (.call (.readMarker m) k) Q v := by
  refine ⟨hC, ?_⟩
  show along exec env C (k ((env (.readMarker m)).deliver refused (readMarker m v, v) v).1) Q
    ((env (.readMarker m)).deliver refused (readMarker m v, v) v).2
  cases hf : env (.readMarker m) with
  | fail => exact herror _ fun h => by cases hf.symm.trans h
  | late => exact herror _ fun h => by cases hf.symm.trans h
  | ok =>
  rw [Fate.ok_deliver, readMarker]
  cases hm : v.marker m with
  | none => exact hnone hm
  | some g =>
  dsimp only
  split
  · next hsafe => exact hsome g hm hsafe
  · next hunsafe => exact herror _ fun _ => ⟨g, hm, hunsafe⟩

theorem writeCandidate_cases (g : String) (b : Bundle) (v : World) : (v.has g = false ∧
      writeCandidate g b v = (.ok (), { v with generations := v.generations ++ [(g, b)] })) ∨
      ∃ err, writeCandidate g b v = (.error err, v) := by
  rw [writeCandidate]
  split
  · exact Or.inr ⟨_, rfl⟩
  split
  · exact Or.inr ⟨_, rfl⟩
  next hnew =>
  split
  · exact Or.inr ⟨_, rfl⟩
  split
  · exact Or.inl ⟨by simpa using hnew, rfl⟩
  · exact Or.inr ⟨_, rfl⟩

theorem along_writeCandidate {b : Bundle} (hC : C v)
    (hnew : v.has g = false → ∀ r, along exec env C (k r) Q
      { v with generations := v.generations ++ [(g, b)] })
    (herror : ∀ err, along exec env C (k (.error err)) Q v) :
    along exec env C (.call (.writeCandidate g b) k) Q v := by
  refine ⟨hC, ?_⟩
  show along exec env C (k ((env (.writeCandidate g b)).deliver refused
    (writeCandidate g b v) v).1) Q ((env (.writeCandidate g b)).deliver refused
    (writeCandidate g b v) v).2
  rcases writeCandidate_cases g b v with ⟨hhas, hwrite⟩ | ⟨err, hwrite⟩
  · rw [hwrite]
    cases hf : env (.writeCandidate g b) with
    | ok => exact hnew hhas _
    | fail => exact herror _
    | late => exact hnew hhas _
  · rw [hwrite]
    cases hf : env (.writeCandidate g b) <;> exact herror _

end

end GatewayVpn.Mihomo
