import GatewayVpn.Access.Repository

/-!
# Access: what the freshness tests and the activation checks let through

Two facts about the queries that stand between the stored evidence and an activation.

An expiry is compared with the current time as text.  The text drops the zeros at the end of the
fraction, so `…:00Z` sorts after `…:00.5Z`, and the test agrees with real time exactly when the
two instants lie in different seconds or neither fraction extends the other.  It then also agrees
with `julianday`, which reads at most 0.999 of a second and rounds to milliseconds, when these two
keep the instants apart.

The queries that accept an activation and the queries that list the candidates are written apart.
What the former leave out is the caller's to provide.
-/

namespace GatewayVpn.Access

open Durable Option Table

/-! ## the text comparison against real time -/

def realAfter (now expires : Time) : Bool := now < expires

/-- all the evidence of subscription paths expires at `e` -/
def Database.ExpiresAt (db : Database) (e : Time) : Prop :=
  (∀ p ∈ db.paths.rows, p.expiresAt = some e) ∧ ∀ pn ∈ db.pathNodes.rows, pn.expiresAt = some e

/-- the activation queries treat evidence that expires at `e` as fresh at `n` exactly when `e` is
later, and agree with `julianday` at a distance of a millisecond -/
def FreshnessAgrees (e n : Time) : Prop :=
  (∀ db : Database, db.ExpiresAt e →
    (∀ pathID nodeID policyGeneration routeGeneration,
      freshPathRow db (textAfter n) pathID nodeID policyGeneration routeGeneration =
        freshPathRow db (realAfter n) pathID nodeID policyGeneration routeGeneration) ∧
    (∀ pathID nodeID, freshNodeCandidate db (textAfter n) pathID nodeID =
      freshNodeCandidate db (realAfter n) pathID nodeID) ∧
    (∀ pathID, freshCandidate db (textAfter n) pathID = freshCandidate db (realAfter n) pathID) ∧
    bestFreshCandidate db (textAfter n) = bestFreshCandidate db (realAfter n) ∧
    (∀ pathID uplinkID subscriptionID nodeID policyGeneration,
      verifiedPathRow db (textAfter n) pathID uplinkID subscriptionID nodeID policyGeneration =
        verifiedPathRow db (realAfter n) pathID uplinkID subscriptionID nodeID
          policyGeneration)) ∧
  (e + millisecond ≤ n ∨ n + millisecond ≤ e →
    ∀ db : Database, textAfter n e = julianAfter db n e)

variable {p : Path} {pathID : String}

section Congruence

variable {db : Database} {e : Time} {after after' : Time → Bool}

theorem expiresAfter_congr (h : after e = after' e) {expires : Option Time}
    (he : expires = some e) : expiresAfter after expires = expiresAfter after' expires := by
  rw [he]
  exact h

variable (hdb : db.ExpiresAt e) (h : after e = after' e)
include hdb h

theorem expiresAfter_rows {key : String × String} {pn : PathNode}
    (hp : db.paths.find pathID = some p) (hpn : db.pathNodes.find key = some pn) :
    expiresAfter after p.expiresAt = expiresAfter after' p.expiresAt ∧
      expiresAfter after pn.expiresAt = expiresAfter after' pn.expiresAt :=
  ⟨expiresAfter_congr h (hdb.1 p (mem_of_find hp)),
    expiresAfter_congr h (hdb.2 pn (mem_of_find hpn))⟩

theorem freshPathRow_congr (pathID nodeID : String) (policyGeneration routeGeneration : Int) :
    freshPathRow db after pathID nodeID policyGeneration routeGeneration =
      freshPathRow db after' pathID nodeID policyGeneration routeGeneration := by
  refine bind_congr fun p hp => bind_congr fun node _ =>
    bind_congr fun pn hpn => ?_
  obtain ⟨h1, h2⟩ := expiresAfter_rows hdb h hp hpn
  rw [h1, h2]

theorem freshNodeRow_congr (pathID nodeID : String) :
    freshNodeRow db after pathID nodeID = freshNodeRow db after' pathID nodeID := by
  refine bind_congr fun p hp => bind_congr fun u _ => bind_congr fun s _ =>
    bind_congr fun pn hpn => ?_
  obtain ⟨h1, h2⟩ := expiresAfter_rows hdb h hp hpn
  rw [h1, h2]

theorem selectedRow_congr (hp : p ∈ db.paths.rows) :
    selectedRow db after p = selectedRow db after' p := by
  refine bind_congr fun u _ => bind_congr fun s _ => bind_congr fun node _ =>
    bind_congr fun n _ => bind_congr fun v _ => bind_congr fun pn hpn => ?_
  obtain ⟨h1, h2⟩ := expiresAfter_rows hdb h (mem_iff_find.mp hp) hpn
  rw [h1, h2]

theorem freshCandidate_congr (pathID : String) :
    freshCandidate db after pathID = freshCandidate db after' pathID := by
  have hrow : (do let p ← db.paths.find pathID; let row ← selectedRow db after p; some (p, row)) =
      (do let p ← db.paths.find pathID; let row ← selectedRow db after' p; some (p, row)) := by
    refine bind_congr fun p hp => ?_
    rw [selectedRow_congr hdb h (mem_of_find hp)]
  rw [freshCandidate, hrow, freshCandidate]

theorem bestFreshCandidate_congr : bestFreshCandidate db after = bestFreshCandidate db after' := by
  have hrows : (db.paths.rows.filterMap fun p => (selectedRow db after p).map fun row => (p, row)) =
      db.paths.rows.filterMap fun p => (selectedRow db after' p).map fun row => (p, row) := by
    refine List.filterMap_congr fun p hp => ?_
    rw [selectedRow_congr hdb h hp]
  rw [bestFreshCandidate, hrows, bestFreshCandidate]

theorem verifiedPathRow_congr (pathID uplinkID subscriptionID nodeID : String)
    (policyGeneration : Int) :
    verifiedPathRow db after pathID uplinkID subscriptionID nodeID policyGeneration =
      verifiedPathRow db after' pathID uplinkID subscriptionID nodeID policyGeneration := by
  refine bind_congr fun p hp => bind_congr fun pn hpn => ?_
  obtain ⟨h1, h2⟩ := expiresAfter_rows hdb h hp hpn
  rw [h1, h2]

end Congruence

def samplePath (e : Time) : Path :=
  { id := "p1", uplinkID := "u1", subscriptionID := "s1", state := .qualified,
    transportState := .passed, selectedNodeID := some "n1", quality := .full,
    functionalScore := 2000, policyGeneration := 1, routeGeneration := 1, expiresAt := some e }

def samplePathNode (e : Time) : PathNode :=
  { pathID := "p1", nodeID := "n1", state := .bypassQualified, policyGeneration := 1,
    routeGeneration := 1, expiresAt := some e }

def sampleDirectPath (e : Time) : DirectPath :=
  { id := "d1", uplinkID := "u1", state := .qualified, transportState := .passed,
    quality := .full, functionalScore := 2000, policyGeneration := 1, routeGeneration := 1,
    expiresAt := some e }

def sampleMethods : List AccessMethod :=
  [{ id := "access:direct", kind := .direct },
    { id := "access:s1", kind := .subscription, subscriptionID := some "s1", priority := 2 }]

/-- one uplink with a subscription path and a direct path, both usable until `e` -/
def sampleDatabase (e : Time) : Database where
  uplinks := ⟨[{ id := "u1", routeGeneration := 1 }], by decide⟩
  subscriptions := ⟨[{ id := "s1", activeVersionID := some "v1" }], by decide⟩
  versions := ⟨[{ id := "v1", subscriptionID := "s1" }], by decide⟩
  nodes := ⟨[{ id := "n1", versionID := "v1" }], by decide⟩
  methods := ⟨sampleMethods, by decide⟩
  targets := ⟨[{ id := "t1" }], by decide⟩
  paths := ⟨[samplePath e], List.nodup_singleton _⟩
  pathNodes := ⟨[samplePathNode e], List.nodup_singleton _⟩
  directPaths := ⟨[sampleDirectPath e], List.nodup_singleton _⟩
  nextPolicyGeneration := some "2"

theorem sampleDatabase_expiresAt (e : Time) : (sampleDatabase e).ExpiresAt e := by
  constructor
  · intro p hp
    obtain rfl : p = samplePath e := List.mem_singleton.mp hp
    rfl
  intro pn hpn
  obtain rfl : pn = samplePathNode e := List.mem_singleton.mp hpn
  rfl

theorem freshPathRow_sample (e : Time) (after : Time → Bool) :
    (freshPathRow (sampleDatabase e) after "p1" "n1" 1 1).isSome = after e := by
  have hrow : freshPathRow (sampleDatabase e) after "p1" "n1" 1 1 =
      if after e then some ⟨"p1", "u1", "s1", "n1", "access:s1", .full⟩ else none := by
    simp [freshPathRow, sampleDatabase, samplePath, samplePathNode, sampleMethods, find,
      PathNode.key, requestedNode, Database.subscriptionMethod, expiresAfter, evidenceMatches,
      sameGenerations, Uplink.isReady]
  rw [hrow]
  cases after e <;> rfl

theorem textAfter_eq_realAfter_iff (e n : Instant) : textAfter n.1 e.1 = realAfter n.1 e.1 ↔
      (secondOf n.1 ≠ secondOf e.1 ∨ ¬ Nested (nanosOf n.1) (nanosOf e.1)) := by
  rw [← rfc3339Nano_lt_iff, ← lexLess_iff, Bool.eq_iff_iff]
  simp [textAfter, realAfter]

theorem julianAfter_eq_realAfter_iff (e n : Instant) :
    (e.1 + millisecond ≤ n.1 ∨ n.1 + millisecond ≤ e.1 →
      ∀ db : Database, julianAfter db n.1 e.1 = realAfter n.1 e.1) ↔ Resolved n.1 e.1 := by
  have hpos : (0 : Int) < millisecond := by decide
  constructor
  · intro h hsecond hfar
    refine (resolved_iff hfar).mp (fun j => ?_) hsecond hfar
    have hafter := h (Or.inr hfar) { julianDay := j }
    have hlater : n.1 < e.1 := by omega
    simpa [julianAfter, realAfter, hlater] using hafter
  intro hres hfar db
  refine decide_eq_decide.mpr ?_
  rcases hfar with h | h
  · have hlt : e.1 < n.1 := by omega
    exact iff_of_false (not_lt.mpr (db.julianDay.le h)) (not_lt.mpr hlt.le)
  · have hlt : n.1 < e.1 := by omega
    exact iff_of_true (db.julianDay.lt h hres) hlt

/-- **the freshness tests agree with real time exactly when the expiry and the current time lie in
different seconds or neither fraction extends the other**, and with `julianday` when it also keeps
them apart -/
theorem freshness_agrees_iff (e n : Instant) :
    FreshnessAgrees e.1 n.1 ↔
      (secondOf n.1 ≠ secondOf e.1 ∨ ¬ Nested (nanosOf n.1) (nanosOf e.1)) ∧
        Resolved n.1 e.1 := by
  rw [← textAfter_eq_realAfter_iff, ← julianAfter_eq_realAfter_iff]
  constructor
  · intro hagree
    have hrow := (hagree.1 _ (sampleDatabase_expiresAt e.1)).1 "p1" "n1" 1 1
    have htext : textAfter n.1 e.1 = realAfter n.1 e.1 := by
      rw [← freshPathRow_sample e.1 (textAfter n.1), hrow, freshPathRow_sample]
    exact ⟨htext, fun hfar db => (hagree.2 hfar db).symm.trans htext⟩
  rintro ⟨h, hjulian⟩
  refine ⟨fun db hdb => ⟨?_, ?_, ?_, ?_, ?_⟩, ?_⟩
  · exact freshPathRow_congr hdb h
  · intro pathID nodeID
    rw [freshNodeCandidate, freshNodeRow_congr hdb h, freshNodeCandidate]
  · exact freshCandidate_congr hdb h
  · exact bestFreshCandidate_congr hdb h
  · exact verifiedPathRow_congr hdb h
  · intro hfar db
    rw [h, hjulian hfar db]

/-- evidence that is good for another half second is refused at a full second -/
theorem fresh_evidence_refused :
    ∃ e n : Instant, n.1 + 500 * millisecond = e.1 ∧ ¬ FreshnessAgrees e.1 n.1 := by
  refine ⟨⟨1700000000500000000, by decide +kernel⟩, ⟨1700000000000000000, by decide +kernel⟩,
    by decide +kernel, ?_⟩
  intro hagree
  have hrow := (hagree.1 _ (sampleDatabase_expiresAt _)).1 "p1" "n1" 1 1
  exact absurd hrow (by decide +kernel)

/-! ## accepted activations against the conditions of a candidate -/

/-- what a caller asks `BeginNodeActivation` or `BeginDirectActivation` for -/
inductive Request where
  | node (pathID nodeID : String) (policyGeneration routeGeneration : Int)
  | direct (pathID : String) (policyGeneration routeGeneration : Int)

def Request.begin (db : Database) (now : Time) (current : Snapshot) : Request → Committed
  | .node pathID nodeID policyGeneration routeGeneration =>
    beginNodeActivation db now current pathID nodeID policyGeneration routeGeneration
  | .direct pathID policyGeneration routeGeneration =>
    beginDirectActivation db now current pathID policyGeneration routeGeneration

def Request.Accepted (db : Database) (now : Time) (current : Snapshot) (request : Request) : Prop :=
  ∃ result, request.begin db now current = .ok result

/-- the conditions of `Candidates` on a tuple, apart from being the selected node -/
def Request.Eligible (db : Database) : Request → Prop
  | .node pathID nodeID _ _ => ∃ p u n, db.paths.find pathID = some p ∧
      db.uplinks.find p.uplinkID = some u ∧ db.nodes.find nodeID = some n ∧
      p.transportState = .passed ∧ currentPolicyGeneration db = .ok p.policyGeneration ∧
      p.routeGeneration = u.routeGeneration ∧
      ((p.quality = .full ∧ p.state = .qualified) ∨ (p.quality = .limited ∧ p.state = .degraded)) ∧
      n.selectionOverride ≠ .exclude
  | .direct pathID _ _ => ∃ p u, db.directPaths.find pathID = some p ∧
      db.uplinks.find p.uplinkID = some u ∧ p.transportState = .passed ∧
      currentPolicyGeneration db = .ok p.policyGeneration ∧
      p.routeGeneration = u.routeGeneration ∧ directMatches p = true

def Request.Unchecked (db : Database) : Request → Prop
  | .node pathID nodeID policyGeneration routeGeneration =>
      (∀ p, db.paths.find pathID = some p → p.transportState = .passed ∧
        ∀ u, db.uplinks.find p.uplinkID = some u → u.routeGeneration = routeGeneration) ∧
      (∀ n, db.nodes.find nodeID = some n → n.selectionOverride ≠ .exclude) ∧
      currentPolicyGeneration db = .ok policyGeneration
  | .direct pathID policyGeneration _ =>
      (∀ p, db.directPaths.find pathID = some p → p.transportState = .passed ∧
        (p.quality = .full ↔ p.state = .qualified)) ∧
      currentPolicyGeneration db = .ok policyGeneration

/-- the rows behind what `readFreshPath` found -/
structure FreshRows (db : Database) (pathID nodeID : String) (found : FreshPath) (p : Path)
    (u : Uplink) (n : Node) : Prop where
  path : db.paths.find pathID = some p
  uplink : db.uplinks.find p.uplinkID = some u
  node : db.nodes.find found.nodeID = some n
  id : found.id = pathID
  named : nodeID ≠ "" → found.nodeID = nodeID
  class_eq : found.qualityClass = p.quality
  evidence : (p.quality = .full ∧ p.state = .qualified) ∨ (p.quality = .limited ∧ p.state = .degraded)

variable {nodeID : String} {routeGeneration policyGeneration : Int} {db : Database} {now : Time}

theorem readFreshPath_found {path : FreshPath}
    (h : readFreshPath db now pathID nodeID policyGeneration routeGeneration = .ok path) :
    ∃ p u n, FreshRows db pathID nodeID path p u n ∧ p.policyGeneration = policyGeneration ∧
      p.routeGeneration = routeGeneration := by
  obtain ⟨p, hp, h⟩ := bind_eq_some_iff.mp (readFreshPath_eq_ok.mp h)
  obtain ⟨node, hrequested, h⟩ := bind_eq_some_iff.mp h
  obtain ⟨pn, hpn, h⟩ := bind_eq_some_iff.mp h
  obtain ⟨n, hn, h⟩ := bind_eq_some_iff.mp h
  obtain ⟨v, _, h⟩ := bind_eq_some_iff.mp h
  obtain ⟨s, _, h⟩ := bind_eq_some_iff.mp h
  obtain ⟨u, hu, h⟩ := bind_eq_some_iff.mp h
  obtain ⟨a, _, h⟩ := bind_eq_some_iff.mp h
  simp only [ite_none_right_eq_some, Bool.and_eq_true, decide_eq_true_eq,
    some.injEq] at h
  obtain ⟨⟨⟨⟨⟨⟨⟨⟨⟨⟨⟨_, hpolicy⟩, hroute⟩, _⟩, hmatch⟩, _⟩, _⟩, _⟩, _⟩, _⟩, _⟩, rfl⟩ := h
  have hid : p.id = pathID := key_of_find hp
  refine ⟨p, u, n, ⟨hp, hu, hn, hid, ?_, rfl, ?_⟩, hpolicy, hroute⟩
  · intro hnode
    rw [requestedNode, if_neg hnode] at hrequested
    cases hrequested
    exact congrArg Prod.snd (key_of_find hpn)
  · simp only [evidenceMatches, Bool.or_eq_true, Bool.and_eq_true, decide_eq_true_eq] at hmatch
    exact hmatch.imp (fun h => ⟨h.1.2, h.1.1⟩) (fun h => ⟨h.1.2, h.1.1⟩)

/-- the rows behind what `readFreshDirectPath` found -/
structure FreshDirectRows (db : Database) (pathID : String) (found : FreshDirectPath)
    (p : DirectPath) (u : Uplink) : Prop where
  path : db.directPaths.find pathID = some p
  uplink : db.uplinks.find p.uplinkID = some u
  id : found.id = pathID
  class_eq : found.qualityClass = p.quality
  route : p.routeGeneration = u.routeGeneration
  quality : p.quality = .full ∨ p.quality = .limited ∨ p.quality = .whitelistOnly
  state : p.state = .qualified ∨ p.state = .degraded

theorem readFreshDirectPath_found {path : FreshDirectPath}
    (h : readFreshDirectPath db now pathID policyGeneration routeGeneration = .ok path) :
    ∃ p u, FreshDirectRows db pathID path p u ∧ p.policyGeneration = policyGeneration := by
  obtain ⟨p, hp, h⟩ := bind_eq_some_iff.mp (readFreshDirectPath_eq_ok.mp h)
  obtain ⟨u, hu, h⟩ := bind_eq_some_iff.mp h
  obtain ⟨a, _, h⟩ := bind_eq_some_iff.mp h
  simp only [ite_none_right_eq_some, Bool.and_eq_true, Bool.or_eq_true,
    decide_eq_true_eq, some.injEq] at h
  obtain ⟨⟨⟨⟨⟨⟨⟨⟨⟨_, hpolicy⟩, _⟩, hroute⟩, hquality⟩, hstate⟩, _⟩, _⟩, _⟩, rfl⟩ := h
  have hid : p.id = pathID := key_of_find hp
  exact ⟨p, u, ⟨hp, hu, hid, rfl, hroute, or_assoc.mp hquality, hstate⟩, hpolicy⟩

theorem nodeID_ne_of_not_blank (h : ¬ trimSpace nodeID = "") : nodeID ≠ "" := by
  rintro rfl
  exact h rfl

theorem accepted_node {current : Snapshot}
    (h : (Request.node pathID nodeID policyGeneration routeGeneration).Accepted db now current) :
    nodeID ≠ "" ∧ ∃ path, readFreshPath db now pathID nodeID policyGeneration routeGeneration =
      .ok path := by
  obtain ⟨result, h⟩ := h
  simp only [Request.begin, beginNodeActivation] at h
  split at h
  · cases h
  next hblank =>
  obtain ⟨path, hread, _⟩ := beginActivation_ok h
  exact ⟨nodeID_ne_of_not_blank hblank, path, hread⟩

/-- **an accepted activation meets the conditions of a candidate exactly when it brings along what
the activation queries do not look at** -/
theorem accepted_eligible_iff (db : Database) (now : Time) (current : Snapshot)
    (request : Request) :
    (request.Accepted db now current → request.Eligible db) ↔
      (request.Accepted db now current → request.Unchecked db) := by
  refine forall_congr' fun haccepted => ?_
  cases request with
  | node pathID nodeID policyGeneration routeGeneration =>
    obtain ⟨hnode, path, hrow⟩ := accepted_node haccepted
    obtain ⟨p, u, n, ⟨hp, hu, hn, _, hnamed, _, hmatch⟩, hpolicy, hroute⟩ :=
      readFreshPath_found hrow
    rw [hnamed hnode] at hn
    simp only [Request.Unchecked, hp, hn, some.injEq, forall_eq', hu]
    constructor
    · rintro ⟨p', u', n', hp', hu', hn', htransport, hcurrent, hgeneration, _, hexclude⟩
      obtain rfl := some.inj (hp.symm.trans hp')
      obtain rfl := some.inj (hu.symm.trans hu')
      obtain rfl := some.inj (hn.symm.trans hn')
      rw [hpolicy] at hcurrent
      exact ⟨⟨htransport, hgeneration.symm.trans hroute⟩, hexclude, hcurrent⟩
    · rintro ⟨⟨htransport, hgeneration⟩, hexclude, hcurrent⟩
      rw [← hpolicy] at hcurrent
      exact ⟨p, u, n, hp, hu, hn, htransport, hcurrent, hroute.trans hgeneration.symm, hmatch,
        hexclude⟩
  | direct pathID policyGeneration routeGeneration =>
  obtain ⟨result, haccepted⟩ := haccepted
  obtain ⟨path, hrow, _⟩ := beginDirectActivation_ok haccepted
  obtain ⟨p, u, ⟨hp, hu, _, _, hroute, hquality, hstate⟩, hpolicy⟩ :=
    readFreshDirectPath_found hrow
  have hmatch : directMatches p = true ↔ (p.quality = .full ↔ p.state = .qualified) := by
    rcases hquality with hq | hq | hq <;> rcases hstate with hs | hs <;>
      simp [directMatches, hq, hs]
  simp only [Request.Unchecked, hp, some.injEq, forall_eq', ← hmatch]
  constructor
  · rintro ⟨p', u', hp', _, htransport, hcurrent, _, hm⟩
    obtain rfl := some.inj (hp.symm.trans hp')
    rw [hpolicy] at hcurrent
    exact ⟨⟨htransport, hm⟩, hcurrent⟩
  · rintro ⟨⟨htransport, hm⟩, hcurrent⟩
    rw [← hpolicy] at hcurrent
    exact ⟨p, u, hp, hu, htransport, hcurrent, hroute, hm⟩

def excludedDatabase (e : Time) : Database :=
  { sampleDatabase e with
    nodes := ⟨[{ id := "n1", versionID := "v1", selectionOverride := .exclude }], by decide⟩ }

theorem excluded_node_accepted :
    (Request.node "p1" "n1" 1 1).Accepted (excludedDatabase second) 0 {} ∧
      ¬ (Request.node "p1" "n1" 1 1).Eligible (excludedDatabase second) := by
  constructor
  · exact ⟨_, (by decide +kernel : (Request.node "p1" "n1" 1 1).begin (excludedDatabase second) 0 {} =
      .ok (verifyingPath (excludedDatabase second) 0 ⟨"p1", "u1", "s1", "n1", "access:s1", .full⟩ {},
        true))⟩
  rintro ⟨p, u, n, _, _, hn, _, _, _, _, hexclude⟩
  obtain rfl : n = { id := "n1", versionID := "v1", selectionOverride := .exclude } :=
    some.inj (hn.symm.trans (by decide +kernel))
  exact hexclude rfl

/-! ## what the inventory found -/

structure FreshNode (db : Database) (pathID nodeID : String) (p : Path)
    (u : Uplink) (s : Subscription) (pn : PathNode) (n : Node) (v : Version) : Prop where
  path : db.paths.find pathID = some p
  uplink : db.uplinks.find p.uplinkID = some u
  subscription : db.subscriptions.find p.subscriptionID = some s
  pathNode : db.pathNodes.find (p.id, nodeID) = some pn
  node : db.nodes.find pn.nodeID = some n
  version : db.versions.find n.versionID = some v
  nodeEnabled : n.enabled = true
  active : s.activeVersionID = some v.id
  state : p.state = .qualified
  uplinkReady : u.isReady = true
  subscriptionEnabled : s.enabled = true
  nodeState : pn.state = .bypassQualified
  generations : sameGenerations p pn = true

theorem freshNodeRow_some {after : Time → Bool} (h : freshNodeRow db after pathID nodeID = some p) :
    ∃ u s pn n v, FreshNode db pathID nodeID p u s pn n v := by
  obtain ⟨p', hp, h⟩ := bind_eq_some_iff.mp h
  obtain ⟨u, hu, h⟩ := bind_eq_some_iff.mp h
  obtain ⟨s, hs, h⟩ := bind_eq_some_iff.mp h
  obtain ⟨pn, hpn, h⟩ := bind_eq_some_iff.mp h
  obtain ⟨n, hn, h⟩ := bind_eq_some_iff.mp h
  obtain ⟨v, hv, h⟩ := bind_eq_some_iff.mp h
  simp only [ite_none_right_eq_some, some.injEq, Bool.and_eq_true,
    decide_eq_true_eq] at h
  obtain ⟨⟨⟨⟨⟨⟨⟨⟨⟨hnode, hactive⟩, hstate⟩, _⟩, hready⟩, hsub⟩, hpnstate⟩, hgen⟩, _⟩, rfl⟩ := h
  exact ⟨u, s, pn, n, v, hp, hu, hs, hpn, hn, hv, hnode, hactive, hstate, hready, hsub, hpnstate,
    hgen⟩

end GatewayVpn.Access
