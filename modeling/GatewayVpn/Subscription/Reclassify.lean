import GatewayVpn.Subscription.Names

/-!
# Subscription: a reclassified version and its source

`ExecutePrepared` compares the digest of what it fetched with that of the active version.  A
reclassification imports the normalized payload of the active version, which is another encoding of
the same nodes, so the version it makes has the digest of that encoding.
-/

namespace GatewayVpn.Subscriptions

open Durable

structure Disk where
  store : Store
  payloads : String → String → Option Payload

inductive Reply where
  | contentIdentical (versionID : String)
  | complete (versionID : String)
  deriving DecidableEq

def Store.active (db : Store) (subscriptionID : String) : Option Version :=
  (db.subscriptions.find subscriptionID).bind fun s => s.activeVersionID.bind db.versions.find

section
variable (lib : Library) (encode : Payload → Payload) (now : Time)

/-- `ExecutePrepared` from the import on; `encode` is `WriteNormalizedPayload` of an import -/
def importPayload (job : Job) (d : Disk) : Option (Reply × Disk) :=
  match runWith (refreshExec lib now) (fun _ => .ok) (executePrepared job) d.store with
  | (.error _, _) => none
  | (.ok _, store) => some (.complete job.versionID,
      { store, payloads := fun s v => if s = job.subscriptionID ∧ v = job.versionID
          then some (encode job.payload) else d.payloads s v })

def refresh (job : Job) (d : Disk) : Option (Reply × Disk) :=
  match d.store.active job.subscriptionID with
  | none => importPayload lib encode now job d
  | some v =>
    if v.contentSHA256 = job.payload.contentSHA256 then
      ((Write.finishSuccess job.subscriptionID).apply lib now d.store).toOption.map fun store =>
        (.contentIdentical v.id, { d with store })
    else importPayload lib encode now job d

def reclassify (subscriptionID versionID : String) (d : Disk) : Option (Reply × Disk) :=
  (d.store.active subscriptionID).bind fun v =>
    (d.payloads subscriptionID v.id).bind fun payload =>
      importPayload lib encode now ⟨subscriptionID, versionID, payload⟩ d

end

section
variable (lib : Library) (encode : Payload → Payload) (subscriptionID : String)

def reclassifyAll : List (Time × String) → Disk → Option Disk
  | [], d => some d
  | (now, versionID) :: rest, d =>
    (reclassify lib encode now subscriptionID versionID d).bind fun r => reclassifyAll rest r.2

def Holds (d : Disk) (payload : Payload) : Prop :=
  ∃ v, d.store.active subscriptionID = some v ∧ v.contentSHA256 = payload.contentSHA256 ∧
    d.payloads subscriptionID v.id = some (encode payload)

end

section
variable {lib : Library} {encode : Payload → Payload} {now : Time} {d d' : Disk} {payload : Payload}
variable {subscriptionID : String}

theorem holds_import {job : Job} {reply : Reply}
    (h : importPayload lib encode now job d = some (reply, d')) :
    Holds encode job.subscriptionID d' job.payload := by
  unfold importPayload at h
  split at h
  · cases h
  next store hrun =>
  cases h
  cases hstage : stage lib now (job.input d.store.listMatchers
      (d.store.activeOverrides job.subscriptionID)) d.store with
  | error err =>
    simp [executePrepared, stageImported, runWith_call, refreshExec, Write.apply, hstage,
      transact] at hrun
  | ok db =>
  cases hactivate : activate now job.versionID db with
  | error err =>
    simp [executePrepared, stageImported, promoteStaged, activatePromoted, compensate, runWith_call,
      refreshExec, Write.apply, hstage, hactivate, transact] at hrun
  | ok db' =>
  simp only [executePrepared, stageImported, promoteStaged, activatePromoted, finishRefresh,
    runWith_call, runWith_done, refreshExec, Fate.ok_deliver, Write.apply, hstage, hactivate,
    transact, Prod.mk.injEq, true_and] at hrun
  obtain ⟨nodes, entries, hstaged⟩ := stage_ok hstage
  obtain ⟨v, hv, -, rfl⟩ := activate_ok hactivate
  obtain rfl := Option.some.inj (((hstaged.versions _).trans (if_pos rfl)).symm.trans hv)
  obtain ⟨s, hs⟩ := Option.ne_none_iff_exists'.1 hstaged.known
  have hid : s.id = job.subscriptionID := Table.key_of_find hs
  have hrow : db.subscriptions.find job.subscriptionID = some s := hstaged.subscriptions ▸ hs
  subst hrun
  refine ⟨{ (job.input d.store.listMatchers (d.store.activeOverrides job.subscriptionID)).version now
    entries with state := .lkg, activatedAt := some now }, ?_, rfl, if_pos ⟨rfl, rfl⟩⟩
  simp [Store.active, Store.activated, Store.activatedVersions, Table.find_update,
    Table.find_updateWhere, hrow, hid, hv, Subscription.succeeded, Store.pointed, StageInput.version,
    Job.input]

theorem Holds.run (h : Holds encode subscriptionID d payload) {steps : List (Time × String)}
    (hrun : reclassifyAll lib encode subscriptionID steps d = some d') :
    Holds encode subscriptionID d' (encode^[steps.length] payload) := by
  induction steps generalizing d payload with
  | nil =>
    cases hrun
    exact h
  | cons step steps ih =>
    obtain ⟨now, versionID⟩ := step
    obtain ⟨v, hactive, -, hpayload⟩ := h
    rw [reclassifyAll, Option.bind_eq_some_iff] at hrun
    obtain ⟨⟨reply, between⟩, hstep, hrest⟩ := hrun
    simp only [reclassify, hactive, hpayload, Option.bind_some] at hstep
    exact ih (holds_import hstep) hrest

/-- **The content is recognised again** exactly when the encoding that the reclassifications have
made of it has its digest. -/
theorem refresh_identical_iff {start : Time} {versionID : String} {first : Disk}
    (himport : refresh lib encode start ⟨subscriptionID, versionID, payload⟩ first =
      some (.complete versionID, d)) {steps : List (Time × String)}
    (hsteps : reclassifyAll lib encode subscriptionID steps d = some d') (now : Time)
    (next : String) :
    (∃ id last, refresh lib encode now ⟨subscriptionID, next, payload⟩ d' =
        some (.contentIdentical id, last) ∧ last.store.versions = d'.store.versions) ↔
      (encode^[steps.length] payload).contentSHA256 = payload.contentSHA256 := by
  have hfirst : Holds encode subscriptionID d payload := by
    unfold refresh at himport
    split at himport
    · exact holds_import himport
    split at himport
    · simp [Write.apply, Except.toOption] at himport
    · exact holds_import himport
  obtain ⟨v, hactive, hdigest, -⟩ := hfirst.run hsteps
  simp only [refresh, hactive, ← hdigest]
  constructor
  · rintro ⟨id, last, hlast, -⟩
    by_contra hne
    rw [if_neg hne, importPayload] at hlast
    split at hlast <;> simp at hlast
  · intro heq
    rw [if_pos heq]
    exact ⟨v.id, _, rfl, rfl⟩

end

def plainProxy : Payload := { contentSHA256 := "", proxies := [⟨"n lte", "11111111", "ss"⟩] }

/-- the same proxies in another text -/
def reencode (p : Payload) : Payload := { p with contentSHA256 := "normalized" }

theorem refresh_identical_unclassified : ∃ d id last,
    refresh suffixLibrary reencode 1 ⟨"s1", "v1", plainProxy⟩ ⟨emptyStore, fun _ _ => none⟩ =
      some (.complete "v1", d) ∧
    refresh suffixLibrary reencode 2 ⟨"s1", "v2", plainProxy⟩ d =
      some (.contentIdentical id, last) := by
  obtain ⟨d, hd⟩ : ∃ d, refresh suffixLibrary reencode 1 ⟨"s1", "v1", plainProxy⟩
      ⟨emptyStore, fun _ _ => none⟩ = some (.complete "v1", d) := ⟨_, rfl⟩
  obtain ⟨id, last, hlast, -⟩ := (@refresh_identical_iff _ _ _ _ _ _ _ _ _ hd [] rfl 2 "v2").2 rfl
  exact ⟨d, id, last, hd, hlast⟩

/-- after one reclassification the source, which has not changed, is imported again -/
theorem refresh_after_reclassify :
    ((refresh suffixLibrary reencode 1 ⟨"s1", "v1", plainProxy⟩ ⟨emptyStore, fun _ _ => none⟩).bind
      fun r => (reclassify suffixLibrary reencode 2 "s1" "v2" r.2).bind
      fun r => (refresh suffixLibrary reencode 3 ⟨"s1", "v3", plainProxy⟩ r.2).map (·.1)) =
      some (.complete "v3") := by
  decide +kernel

end GatewayVpn.Subscriptions
