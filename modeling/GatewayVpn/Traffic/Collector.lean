import GatewayVpn.Text
import GatewayVpn.Durable.Proc

/-!
# The traffic collector

The package `traffic`: `ReadTrafficCounters` asks for the boot id and the handle of the nftables
table with one command and for the counters with another, and `Checkpoint` adds to the totals of
the day what was counted since the values that it stored last.

The rates and times that only `Current` shows, and the JSON around the values, are left out; a day
is its number.
-/

namespace GatewayVpn.Traffic

open Durable

inductive Counter where
  | upload
  | download
  | serviceUpload
  | serviceDownload

abbrev Counters := Counter → Nat

structure AuthoritativeSnapshot where
  counters : Counters
  bootID : String
  firewallGeneration : Nat

structure MihomoTraffic where
  uploadTotal : Nat
  downloadTotal : Nat

structure Sample where
  measuredAt : Time
  nft : Counters
  bootID : String
  firewallGeneration : Nat
  mihomo : Option MihomoTraffic
  sessionID : String
  sessionStartedAt : Time

/-! ## one checkpoint -/

/-- the rows of `settings` whose key starts with `traffic_` -/
structure Settings where
  lastNFT : Counter → Option Nat := fun _ => none
  lastBootID : Option String := none
  lastFirewallGeneration : Option Nat := none
  lastMihomoUpload : Option Nat := none
  lastMihomoDownload : Option Nat := none
  lastMihomoAvailable : Option Nat := none
  sessionID : Option String := none
  session : Counter → Option Nat := fun _ => none

/-- a row of `traffic_daily_totals` -/
structure DailyTotal where
  date : Int
  nft : Counters
  mihomoUpload : Nat
  mihomoDownload : Nat
  checkpointedAt : Time

structure Database where
  settings : Settings := {}
  daily : List DailyTotal := []

structure CheckpointResult where
  date : Int
  delta : Counters
  nftReset : Bool
  mihomoReset : Bool

def delta (current previous : Nat) (hasPrevious : Bool) : Nat × Bool :=
  if !hasPrevious then (current, false)
  else if previous ≤ current then (current - previous, false)
  else (current, true)

/-- the nearest number with 53 significant bits, a tie to the even one -/
def real (n : Nat) : Nat :=
  let unit := 2 ^ (n.log2 - 52)
  let quotient := n / unit
  let rest := 2 * (n % unit)
  (if unit < rest || (rest = unit && quotient % 2 = 1) then quotient + 1 else quotient) * unit

/-- a sum in SQL: one of 2⁶³ or more is computed as a REAL, and the column keeps it as one -/
def sqlSum (a b : Nat) : Nat := if a + b < 2 ^ 63 then a + b else real (real a + real b)

/-- `ON CONFLICT(date) DO UPDATE`: the totals are added up -/
def addDaily (d : DailyTotal) : List DailyTotal → List DailyTotal
  | [] => [d]
  | r :: rs =>
    if r.date = d.date then
      { d with nft := fun c => sqlSum (r.nft c) (d.nft c)
               mihomoUpload := sqlSum r.mihomoUpload d.mihomoUpload
               mihomoDownload := sqlSum r.mihomoDownload d.mihomoDownload } :: rs
    else r :: addDaily d rs

def Counter.all : List Counter := [.upload, .download, .serviceUpload, .serviceDownload]

def validBootID (s : String) : Bool :=
  fixed ((List.range 36).map fun i =>
    if i ∈ [8, 13, 18, 23] then (· = '-') else isLowerHex) s.toList

def validSessionID (s : String) : Bool := fixed (List.replicate 64 isLowerHex) s.toList

namespace Settings

variable (st : Settings)

/-- `sameNFTGeneration` -/
def sameGeneration (bootID : String) (generation : Nat) : Bool :=
  Counter.all.all (fun c => (st.lastNFT c).isSome) && st.lastBootID = some bootID &&
    st.lastFirewallGeneration = some generation

def known : Bool :=
  Counter.all.any (fun c => (st.lastNFT c).isSome) || st.lastBootID.isSome ||
    st.lastFirewallGeneration.isSome

/-- upload and download of Mihomo; a gap cannot prove how much belongs to this interval -/
def mihomoDelta : Option MihomoTraffic → (Nat × Bool) × (Nat × Bool)
  | none => ((0, false), (0, false))
  | some m =>
    if st.lastMihomoAvailable = some 0 then ((0, true), (0, true))
    else (delta m.uploadTotal (st.lastMihomoUpload.getD 0) st.lastMihomoUpload.isSome,
      delta m.downloadTotal (st.lastMihomoDownload.getD 0) st.lastMihomoDownload.isSome)

end Settings

/-- what the transaction of `Checkpoint` commits; a parameter of 2⁶³ or more cannot be bound -/
def Collector.checkpoint (db : Database) (s : Sample) :
    Except String (CheckpointResult × Database) :=
  if s.measuredAt = zeroTime || s.sessionStartedAt = zeroTime || !validBootID s.bootID ||
      s.firewallGeneration = 0 || !validSessionID s.sessionID then
    .error "traffic database, source epoch, session, and measurement time are required"
  else
    let st := db.settings
    let same := st.sameGeneration s.bootID s.firewallGeneration
    let d := fun c => delta (s.nft c) ((st.lastNFT c).getD 0) same
    let m := st.mihomoDelta s.mihomo
    if Counter.all.any (fun c => 2 ^ 63 ≤ (d c).1) || 2 ^ 63 ≤ m.1.1 || 2 ^ 63 ≤ m.2.1 then
      .error "update daily traffic totals"
    else
      let date := s.measuredAt / (86400 * second)
      let session := fun c => if st.sessionID = some s.sessionID then (st.session c).getD 0 else 0
      .ok ({ date, delta := fun c => (d c).1
             nftReset := Counter.all.any (fun c => (d c).2) || (st.known && !same)
             mihomoReset := m.1.2 || m.2.2 },
        { daily := addDaily ⟨date, fun c => (d c).1, m.1.1, m.2.1, s.measuredAt⟩ db.daily
          settings :=
            { lastNFT := fun c => some (s.nft c)
              lastBootID := some s.bootID
              lastFirewallGeneration := some s.firewallGeneration
              lastMihomoUpload := (s.mihomo.map (·.uploadTotal)).or st.lastMihomoUpload
              lastMihomoDownload := (s.mihomo.map (·.downloadTotal)).or st.lastMihomoDownload
              lastMihomoAvailable := some (if s.mihomo.isSome then 1 else 0)
              sessionID := some s.sessionID
              session := fun c => some ((session c + (d c).1) % 2 ^ 64) } })

/-! ## the table and its readers -/

/-- the boot id and the handle of the table in each epoch; no two epochs share both -/
structure Kernel where
  bootID : Nat → String
  handle : Nat → Nat
  injective : ∀ e e', bootID e = bootID e' → handle e = handle e' → e = e'

/-- how far a `Runner.Checkpoint` has come -/
inductive Reader where
  | idle
  | generation (bootID : String) (generation : Nat)
  | snapshot (s : AuthoritativeSnapshot)

structure World where
  /-- the epoch of the table that is there now -/
  epoch : Nat := 0
  bytes : Nat → Counters := fun _ _ => 0
  reader : Reader := .idle
  opened : Nat := 0
  db : Database := {}
  origin : Option Nat := none

namespace World

variable (w : World)

/-- the table is deleted and created again -/
def recreate : World :=
  { w with epoch := w.epoch + 1, bytes := Function.update w.bytes (w.epoch + 1) fun _ => 0 }

/-- the first half of `ReadTrafficCounters` -/
def readGeneration (k : Kernel) : Except String (String × Nat) :=
  if !validBootID (k.bootID w.epoch) then .error "traffic boot id is invalid"
  else if k.handle w.epoch = 0 then .error "Gateway VPN nftables table generation is invalid"
  else .ok (k.bootID w.epoch, k.handle w.epoch)

/-- `ReadNFTCounters` -/
def readNFTCounters : Except String Counters :=
  if Counter.all.any fun c => 2 ^ 64 ≤ w.bytes w.epoch c then
    .error "decode named nftables counter"
  else .ok (w.bytes w.epoch)

def added (c : Counter) : Nat := (w.db.daily.map fun d => d.nft c).sum

def counted (c : Counter) : Nat :=
  w.origin.elim 0 fun o => ∑ e ∈ Finset.Ico o (w.epoch + 1), w.bytes e c

end World

/-- what `Runner.Checkpoint` adds to a snapshot -/
structure Input where
  measuredAt : Time
  mihomo : Option MihomoTraffic := none
  sessionID : String
  sessionStartedAt : Time

def Input.sample (i : Input) (s : AuthoritativeSnapshot) : Sample :=
  ⟨i.measuredAt, s.counters, s.bootID, s.firewallGeneration, i.mihomo, i.sessionID,
    i.sessionStartedAt⟩

inductive Turn where
  | grow (by_ : Counters)
  | recreate
  | reboot
  | readGeneration
  | readCounters
  | checkpoint (i : Input) (f : Fate)
  /-- a read fails, or the process dies -/
  | abandon

def step (k : Kernel) (w : World) : Turn → World
  | .grow by_ =>
    { w with bytes := Function.update w.bytes w.epoch fun c => w.bytes w.epoch c + by_ c }
  | .recreate => w.recreate
  | .reboot => { w.recreate with reader := .idle }
  | .readGeneration => match w.readGeneration k with
    | .error _ => { w with reader := .idle }
    | .ok (b, g) => { w with reader := .generation b g, opened := w.epoch }
  | .readCounters => match w.reader, w.readNFTCounters with
    | .generation b g, .ok counters => { w with reader := .snapshot ⟨counters, b, g⟩ }
    | _, _ => { w with reader := .idle }
  | .checkpoint i f => match w.reader with
    | .snapshot s =>
      match Collector.checkpoint w.db (i.sample s) with
      | .error _ => { w with reader := .idle }
      | .ok (_, db) =>
        if f = .fail then { w with reader := .idle }
        else { w with reader := .idle, db, origin := w.origin.or (some w.opened) }
    | _ => { w with reader := .idle }
  | .abandon => { w with reader := .idle }

end GatewayVpn.Traffic
