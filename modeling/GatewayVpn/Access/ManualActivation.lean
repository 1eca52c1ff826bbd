import GatewayVpn.Access.UnifiedRound

/-!
# Access: a refused manual activation

`ActivateExact` validates the tuple that an operator asks for with the query of
`FreshNodeCandidate`, and answers a refusal with an error.  Then it goes through `activate`, whose
first call is `BeginNodeActivation`: the tuple is validated once more, at a later moment and by
another query, and there a refusal blocks the gateway.
-/

namespace GatewayVpn.Access

open Durable List Option

/-! ## the two checks -/

section
variable (w : World)

/-- the same world, in which no component writes the tables during the call -/
def World.holding (db : Database) : World :=
  { w with inputs := fun i => { w.inputs i with database := db } }

def firstCheck : Time := (w.inputs (w.ticks + 1)).now

def secondCheck : Time := (w.inputs (w.ticks + 5)).now

def Refused (db : Database) (pathID nodeID : String) : Prop :=
  (∃ err, freshNodeCandidate db (textAfter (firstCheck w)) pathID nodeID = .error err) ∨
    ∃ candidate err,
      freshNodeCandidate db (textAfter (firstCheck w)) pathID nodeID = .ok candidate ∧
      candidate.request.begin db (secondCheck w) w.runtime = .error err

/-- the call of the operator; the six calls up to the second check succeed -/
def manual (db : Database) (pathID nodeID : String) (later : List Fate) :
    Outcome Reply World :=
  run exec (activateExact pathID nodeID) (List.replicate 6 .ok ++ later) (w.holding db)

/-- the runtime row is as it was, and neither the actuator nor `State.Block` was called -/
def Untouched (out : Outcome Reply World) : Prop :=
  out.state.runtime = w.runtime ∧ out.state.calls = w.calls

/-- a refused request leaves everything as it is, whatever the calls after the checks answer -/
def Harmless (db : Database) (pathID nodeID : String) : Prop :=
  ∀ later reply, (manual w db pathID nodeID later).result = some reply → reply.err ≠ none →
    Refused w db pathID nodeID → Untouched w (manual w db pathID nodeID later)

end

/-! ## the condition -/

def Carries (observed : Observed) (desired : Snapshot) (pathID nodeID : String) : Bool :=
  desired.pathState = .active && desired.activePathID = pathID && desired.activeNodeID = nodeID &&
    observed.activePathID = pathID && observed.activeNodeID = nodeID

/-- the call passes every test before the second check -/
structure Requested (w : World) (db : Database) (pathID nodeID : String) : Prop where
  ids : trimSpace pathID ≠ "" ∧ trimSpace nodeID ≠ ""
  targets : hasRequiredTargets db = true
  fresh : ∃ p, freshNodeRow db (textAfter (firstCheck w)) pathID nodeID = some p
  ready : (w.inputs (w.ticks + 2)).observed.firewallReady = true ∧
    (w.inputs (w.ticks + 2)).observed.mihomoReady = true ∧
    (w.inputs (w.ticks + 2)).observed.tunReady = true
  idle : Carries (w.inputs (w.ticks + 2)).observed w.runtime pathID nodeID = false

/-- the path is of class FULL, its subscription has an access method that is switched on, and both
expiries are still ahead -/
def Acceptable (db : Database) (now : Time) (pathID nodeID : String) : Prop :=
  ∃ p pn a, db.paths.find pathID = some p ∧ db.pathNodes.find (pathID, nodeID) = some pn ∧
    db.subscriptionMethod p.subscriptionID = some a ∧ p.quality = .full ∧ a.enabled = true ∧
    expiresAfter (textAfter now) p.expiresAt = true ∧
    expiresAfter (textAfter now) pn.expiresAt = true

/-! ## the difference of the two queries -/

variable {pathID nodeID : String} {db : Database} {p : Path}

/-- **on a tuple that the first query found, the second query succeeds exactly when the tuple is
acceptable** -/
theorem freshPathRow_iff {after : Time → Bool}
    (hnode : nodeID ≠ "") (h : freshNodeRow db after pathID nodeID = some p) (now : Time) :
    (∃ path, freshPathRow db (textAfter now) pathID nodeID p.policyGeneration p.routeGeneration =
      some path) ↔ Acceptable db now pathID nodeID := by
  obtain ⟨u, s, pn, n, v, f⟩ := freshNodeRow_some h
  have hid : p.id = pathID := Table.key_of_find f.path
  have hsid : s.id = p.subscriptionID := Table.key_of_find f.subscription
  have hrequested : requestedNode p nodeID = some nodeID := if_neg hnode
  have hpn : db.pathNodes.find (pathID, nodeID) = some pn := by
    rw [← hid]
    exact f.pathNode
  constructor
  · rintro ⟨path, hpath⟩
    obtain ⟨p', hp', hpath⟩ := bind_eq_some_iff.mp hpath
    obtain rfl : p = p' := some.inj (f.path.symm.trans hp')
    simp only [hrequested, f.pathNode, f.node, f.version, f.subscription, f.uplink,
      bind_eq_bind, bind_some] at hpath
    obtain ⟨a, ha, hpath⟩ := bind_eq_some_iff.mp hpath
    simp only [ite_none_right_eq_some, Bool.and_eq_true] at hpath
    obtain ⟨⟨⟨⟨⟨⟨⟨⟨_, hexpires⟩, hevidence⟩, _⟩, hnodeExpires⟩, _⟩, _⟩, hmethod⟩, _⟩ := hpath.1
    rw [hsid] at ha
    refine ⟨p, pn, a, f.path, hpn, ha, ?_, hmethod, hexpires, hnodeExpires⟩
    simpa [evidenceMatches, f.state, f.nodeState] using hevidence
  rintro ⟨p', pn', a, hp', hpn', ha, hfull, hmethod, hexpires, hnodeExpires⟩
  obtain rfl : p = p' := some.inj (f.path.symm.trans hp')
  obtain rfl : pn = pn' := some.inj (hpn.symm.trans hpn')
  have hevidence : evidenceMatches p pn = true := by
    simp [evidenceMatches, f.state, f.nodeState, hfull]
  refine ⟨⟨p.id, p.uplinkID, p.subscriptionID, pn.nodeID, a.id, p.quality⟩, ?_⟩
  simp [freshPathRow, f.path, hrequested, f.pathNode, f.node, f.version, f.subscription,
    f.uplink, hsid, ha, f.active, hexpires, hevidence, f.generations, hnodeExpires,
    f.nodeEnabled, f.subscriptionEnabled, hmethod, f.uplinkReady]

/-! ## the call -/

theorem untouched_wait (w : World) (db : Database) (n : Nat) (reply : Reply) (rest : List Fate) :
    Untouched w (run exec (.done reply) rest ((w.holding db).wait n)) := ⟨rfl, rfl⟩

theorem manual_cases (w : World) (db : Database) (pathID nodeID : String) (later : List Fate) :
    ¬ Requested w db pathID nodeID ∧ Untouched w (manual w db pathID nodeID later) ∨
    ∃ p, Requested w db pathID nodeID ∧
      freshNodeRow db (textAfter (firstCheck w)) pathID nodeID = some p ∧
      manual w db pathID nodeID later =
        run exec (activate (inventoryCandidate p nodeID)) (.ok :: later)
          ((w.holding db).wait 5) := by
  generalize hout : manual w db pathID nodeID later = out
  rw [manual, activateExact] at hout
  split at hout
  · rename_i hids
    refine Or.inl ⟨fun h => ?_, hout ▸ untouched_wait w db 0 _ _⟩
    simp [h.ids.1, h.ids.2] at hids
  rename_i hids
  change run exec (if !hasRequiredTargets db then _ else _) (replicate 5 .ok ++ later)
    ((w.holding db).wait 1) = out at hout
  split at hout
  · rename_i htargets
    refine Or.inl ⟨fun h => ?_, hout ▸ untouched_wait w db 1 _ _⟩
    simp [h.targets] at htargets
  rename_i htargets
  have hdb : ((w.holding db).wait 1).input.database = db := rfl
  have hnow : ((w.holding db).wait 1).input.now = firstCheck w := rfl
  rw [replicate_succ, cons_append, run_call_cons, ok_freshNodeCandidate, hdb, hnow,
    freshNodeCandidate, if_neg hids] at hout
  cases hfresh : freshNodeRow db (textAfter (firstCheck w)) pathID nodeID with
  | none =>
    rw [hfresh] at hout
    refine Or.inl ⟨fun h => ?_, hout ▸ untouched_wait w db 2 _ _⟩
    obtain ⟨p, hp⟩ := h.fresh
    rw [hfresh] at hp
    cases hp
  | some p =>
  rw [hfresh] at hout
  set observed := (w.inputs (w.ticks + 2)).observed with hobserved
  change run exec (if !observed.firewallReady || !observed.mihomoReady || !observed.tunReady
    then _ else _) (replicate 3 .ok ++ later) ((w.holding db).wait 3) = out at hout
  split at hout
  · rename_i hready
    refine Or.inl ⟨fun h => ?_, hout ▸ untouched_wait w db 3 _ _⟩
    simp [hobserved, h.ready.1, h.ready.2.1, h.ready.2.2] at hready
  rename_i hready
  change run exec (if Carries observed w.runtime pathID nodeID then _ else _)
    (replicate 2 .ok ++ later) ((w.holding db).wait 4) = out at hout
  split at hout
  · rename_i hcarries
    refine Or.inl ⟨fun h => ?_, hout ▸ untouched_wait w db 4 _ _⟩
    rw [hobserved, h.idle] at hcarries
    cases hcarries
  rename_i hcarries
  have hevent : exec .appendEvent .ok ((w.holding db).wait 4) =
      (.ok (), (w.holding db).wait 5) := rfl
  rw [replicate_succ, cons_append, run_call_cons, hevent] at hout
  refine Or.inr ⟨p, ⟨?_, ?_, ⟨p, hfresh⟩, ?_, ?_⟩, rfl, hout.symm⟩
  · simpa using hids
  · simpa using htargets
  · simpa [and_assoc] using hready
  · simpa using hcarries

/-! ## the second check -/

theorem begin_inventoryCandidate (db : Database) (now : Time) (s : Snapshot) (p : Path)
    (nodeID : String) : (inventoryCandidate p nodeID).request.begin db now s =
      beginNodeActivation db now s p.id nodeID p.policyGeneration p.routeGeneration := rfl

theorem begin_ok_iff {after : Time → Bool}
    (hnode : trimSpace nodeID ≠ "") (h : freshNodeRow db after pathID nodeID = some p) (now : Time)
    (s : Snapshot) : (∃ result, (inventoryCandidate p nodeID).request.begin db now s = .ok result) ↔
      Acceptable db now pathID nodeID := by
  have hne : nodeID ≠ "" := fun he => hnode (by rw [he]; rfl)
  obtain ⟨_, _, _, _, _, f⟩ := freshNodeRow_some h
  have hid : p.id = pathID := Table.key_of_find f.path
  rw [← freshPathRow_iff hne h now, begin_inventoryCandidate, beginNodeActivation, if_neg hnode,
    beginActivation, readFreshPath, hid]
  cases freshPathRow db (textAfter now) pathID nodeID p.policyGeneration p.routeGeneration with
  | none => simp
  | some path =>
  dsimp only
  split <;> simp

theorem activate_refused (candidate : ActivationCandidate) (w : World) {err : Fault}
    (h : candidate.request.begin w.input.database w.input.now w.runtime = .error err) :
    (run exec (activate candidate) (.ok :: List.replicate 3 .ok) w).state.calls ≠ w.calls ∧
      ∃ reply, (run exec (activate candidate) (.ok :: List.replicate 3 .ok) w).result = some reply ∧
        reply.err ≠ none := by
  have hbegin : exec (.beginActivation candidate.request) .ok w = (.error err, w.tick) := by
    simp only [exec, effect, Fate.ok_deliver, World.commit, h]
    rfl
  have hrun : run exec (activate candidate) (.ok :: replicate 3 .ok) w =
      run exec (blockWith .blocked "ACTIVATION_INTENT_REJECTED" (some err)) (replicate 3 .ok)
        w.tick := by
    rw [activate, run_call_cons, hbegin]
  rw [hrun]
  refine ⟨?_, _, rfl, joinErrors_some err _⟩
  intro hcalls
  have hlength := congrArg length hcalls
  change w.calls.length + 2 = w.calls.length at hlength
  omega

theorem Requested.candidate {w : World} (h : Requested w db pathID nodeID)
    (hfresh : freshNodeRow db (textAfter (firstCheck w)) pathID nodeID = some p) :
    freshNodeCandidate db (textAfter (firstCheck w)) pathID nodeID =
      .ok (inventoryCandidate p nodeID) := by
  rw [freshNodeCandidate, if_neg (by simp [h.ids.1, h.ids.2]), hfresh]

/-- **a refused request leaves everything as it is exactly when every tuple that reaches the
second check is of class FULL, has an access method that is switched on and has not expired** -/
theorem harmless_iff (w : World) (db : Database) (pathID nodeID : String) :
    Harmless w db pathID nodeID ↔
      (Requested w db pathID nodeID → Acceptable db (secondCheck w) pathID nodeID) := by
  constructor
  · intro hharmless hrequested
    by_contra hrejected
    rcases manual_cases w db pathID nodeID (replicate 3 .ok) with
      ⟨hstops, _⟩ | ⟨p, _, hfresh, hmanual⟩
    · exact hstops hrequested
    have hbegin := mt (begin_ok_iff hrequested.ids.2 hfresh (secondCheck w) w.runtime).mp hrejected
    cases hr : (inventoryCandidate p nodeID).request.begin db (secondCheck w) w.runtime with
    | ok result => exact hbegin ⟨result, hr⟩
    | error err =>
    obtain ⟨hcalls, reply, hdone, herr⟩ :=
      activate_refused (inventoryCandidate p nodeID) ((w.holding db).wait 5) hr
    rw [← hmanual] at hcalls hdone
    have hrefused : Refused w db pathID nodeID :=
      Or.inr ⟨_, err, hrequested.candidate hfresh, hr⟩
    exact hcalls (hharmless _ reply hdone herr hrefused).2
  intro hcond later reply hdone herr hrefused
  rcases manual_cases w db pathID nodeID later with
    ⟨_, huntouched⟩ | ⟨p, hrequested, hfresh, hmanual⟩
  · exact huntouched
  obtain ⟨result, hok⟩ :=
    (begin_ok_iff hrequested.ids.2 hfresh (secondCheck w) w.runtime).mpr (hcond hrequested)
  have hcandidate := hrequested.candidate hfresh
  rcases hrefused with ⟨err, hfirst⟩ | ⟨candidate, err, hfirst, hsecond⟩
  · rw [hcandidate] at hfirst
    cases hfirst
  rw [hcandidate] at hfirst
  cases hfirst
  rw [hok] at hsecond
  cases hsecond

/-! ## evidence that expires between the checks -/

def directActive : World :=
  { sampleWorld with
    runtime := { gatewayState := .active, pathState := .active, activeUplinkID := "u1",
                 activeDirectPathID := "d1", activeMethodID := "access:direct",
                 activeMethodKind := .direct, activeQualityClass := .full }
    inputs := fun i => { sampleWorld.inputs i with now := (5 + i) * second } }

/-- **a request for a tuple whose evidence expires between the two checks is refused, and takes
down the path that is active** -/
theorem expired_request_takes_path_down :
    directActive.runtime.activeTuple = some ("", "", "d1") ∧
    (manual directActive (sampleDatabase (10 * second)) "p1" "n1"
      (List.replicate 3 .ok)).result.bind Reply.err = some .staleGeneration ∧
    (manual directActive (sampleDatabase (10 * second)) "p1" "n1"
      (List.replicate 3 .ok)).state.runtime.activeTuple = none ∧
    ¬ Harmless directActive (sampleDatabase (10 * second)) "p1" "n1" := by
  have herr : (manual directActive (sampleDatabase (10 * second)) "p1" "n1"
      (replicate 3 .ok)).result.bind Reply.err = some .staleGeneration := by decide +kernel
  refine ⟨by decide +kernel, herr, by decide +kernel, ?_⟩
  intro hharmless
  obtain ⟨reply, hdone, hreply⟩ := bind_eq_some_iff.mp herr
  have hne : reply.err ≠ none := fun hnone => by rw [hnone] at hreply; cases hreply
  have hrefused : Refused directActive (sampleDatabase (10 * second)) "p1" "n1" :=
    Or.inr ⟨inventoryCandidate (samplePath (10 * second)) "n1", .staleGeneration,
      by decide +kernel, by decide +kernel⟩
  have hcalls := (hharmless _ reply hdone hne hrefused).2
  revert hcalls
  decide +kernel

end GatewayVpn.Access
