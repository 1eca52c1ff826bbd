import GatewayVpn.Access.Freshness
import GatewayVpn.Access.Publishing

/-!
# Access: the quality class of the active path

The runtime row holds a copy of the quality class of the active path.  An activation copies it
when it begins, and a direct activation once more when it finishes; a subscription activation does
not.  Evidence that is published in between leaves the copy behind.
-/

namespace GatewayVpn.Access

open Durable Option Table

/-! ## the system -/

structure System where
  db : Database
  runtime : Snapshot

/-- the calls that change the runtime row or the evidence, each with the times it reads -/
inductive Step where
  | beginActivation (now : Time) (pathID : String) (policy route : Int)
  | beginNodeActivation (now : Time) (pathID nodeID : String) (policy route : Int)
  | finishActivation (now : Time) (pathID : String) (policy route : Int)
  | finishNodeActivation (now : Time) (pathID nodeID : String) (policy route : Int)
  | beginDirectActivation (now : Time) (pathID : String) (policy route : Int)
  | finishDirectActivation (now : Time) (pathID : String) (policy route : Int)
  | markTargetDegraded (now written : Time) (pathID nodeID : String) (policy route : Int)
  | recoverTargetDegraded (now : Time) (pathID nodeID : String) (policy route : Int)
  | block (now : Time) (gatewayState : GatewayState) (reason : String)
  | finishPolicyVerification (now : Time) (generation : Int)
  | recoverPolicyTransition (now : Time)
  | setManagementUplink (now : Time) (uplinkID reason : String) (requireHiLink : Bool)
  | prepareStartupRecovery (now : Time)
  | storeQualification (snapshot : QualificationSnapshot)
  | publish (update : DirectResultUpdate)

namespace System

section
variable (s : System)

def commit (r : Committed) : System := { s with runtime := r.row s.runtime }

/-- a failed publication changes nothing -/
def store (r : Except Fault Database) : System :=
  match r with
  | .ok db => { s with db }
  | .error _ => s

def step : Step → System
  | .beginActivation now pathID policy route =>
    s.commit (Access.beginActivation s.db now s.runtime pathID "" policy route)
  | .beginNodeActivation now pathID nodeID policy route =>
    s.commit (Access.beginNodeActivation s.db now s.runtime pathID nodeID policy route)
  | .finishActivation now pathID policy route =>
    s.commit (Access.finishActivation s.db now s.runtime pathID "" policy route)
  | .finishNodeActivation now pathID nodeID policy route =>
    s.commit (Access.finishNodeActivation s.db now s.runtime pathID nodeID policy route)
  | .beginDirectActivation now pathID policy route =>
    s.commit (Access.beginDirectActivation s.db now s.runtime pathID policy route)
  | .finishDirectActivation now pathID policy route =>
    s.commit (Access.finishDirectActivation s.db now s.runtime pathID policy route)
  | .markTargetDegraded now written pathID nodeID policy route =>
    s.commit (Access.markTargetDegraded s.db now written s.runtime pathID nodeID policy route)
  | .recoverTargetDegraded now pathID nodeID policy route =>
    s.commit (Access.recoverTargetDegraded s.db now s.runtime pathID nodeID policy route)
  | .block now gatewayState reason => s.commit (Access.block now s.runtime gatewayState reason)
  | .finishPolicyVerification now generation =>
    s.commit (Access.finishPolicyVerification s.db now s.runtime generation)
  | .recoverPolicyTransition now => s.commit (Access.recoverPolicyTransition now s.runtime)
  | .setManagementUplink now uplinkID reason requireHiLink =>
    s.commit (Access.setManagementUplink s.db now s.runtime uplinkID reason requireHiLink)
  | .prepareStartupRecovery now =>
    ⟨(Access.prepareStartupRecovery s.db now s.runtime).2,
      (Access.prepareStartupRecovery s.db now s.runtime).1.row s.runtime⟩
  | .storeQualification snapshot => s.store (Access.storeQualification s.db snapshot)
  | .publish update => s.store (Access.publish s.db update)

def run (steps : List Step) : System := steps.foldl step s

/-- no path has an empty id, and nothing has been activated yet -/
def Installed : Prop :=
  s.db.paths.find "" = none ∧ s.db.directPaths.find "" = none ∧
    s.runtime.activePathID = "" ∧ s.runtime.activeDirectPathID = ""

end

end System

/-! ## finished activations -/

def InClass (s : System) : Step → Prop
  | .finishActivation now pathID policy route => ∀ path result,
      readFreshPath s.db now pathID "" policy route = .ok path →
      finishActivation s.db now s.runtime pathID "" policy route = .ok result →
      result.1.activeQualityClass = path.qualityClass
  | .finishNodeActivation now pathID nodeID policy route => ∀ path result,
      readFreshPath s.db now pathID nodeID policy route = .ok path →
      finishNodeActivation s.db now s.runtime pathID nodeID policy route = .ok result →
      result.1.activeQualityClass = path.qualityClass
  | .finishDirectActivation now pathID policy route => ∀ path result,
      readFreshDirectPath s.db now pathID policy route = .ok path →
      finishDirectActivation s.db now s.runtime pathID policy route = .ok result →
      result.1.activeQualityClass = path.qualityClass
  | _ => True

/-- what is published about the active path keeps its class, if the path stays usable; a direct
path that is still being verified may change -/
def Settled (s : System) : Step → Prop
  | .storeQualification snapshot =>
      snapshot.pathID = s.runtime.activePathID →
      (snapshot.state = .qualified ∨ snapshot.state = .degraded) →
      s.runtime.activeQualityClass = classOfState snapshot.state
  | .publish update =>
      update.pathID = s.runtime.activeDirectPathID → s.runtime.pathState ≠ .verifying →
      (update.qualityClass = .full ∨ update.qualityClass = .limited ∨
        update.qualityClass = .whitelistOnly) →
      s.runtime.activeQualityClass = update.qualityClass
  | _ => True

/-! ## the invariant -/

def usable : Quality → Bool
  | .full => true
  | .limited => true
  | .whitelistOnly => true
  | _ => false

structure Tracks (db : Database) (s : Snapshot) : Prop where
  named : db.paths.find "" = none
  directNamed : db.directPaths.find "" = none
  exclusive : s.activePathID = "" ∨ s.activeDirectPathID = ""
  path : ∀ p, db.paths.find s.activePathID = some p → usable p.quality = true →
    s.activeQualityClass = p.quality
  direct : s.pathState ≠ .verifying → ∀ p, db.directPaths.find s.activeDirectPathID = some p →
    usable p.quality = true → s.activeQualityClass = p.quality

section Rows

variable {db : Database} {s s' : Snapshot}

theorem tracks_idle (hnamed : db.paths.find "" = none) (hdirect : db.directPaths.find "" = none)
    (hp : s.activePathID = "") (hd : s.activeDirectPathID = "") : Tracks db s := by
  refine ⟨hnamed, hdirect, Or.inl hp, ?_, ?_⟩
  · intro p hfind
    rw [hp, hnamed] at hfind
    cases hfind
  intro _ p hfind
  rw [hd, hdirect] at hfind
  cases hfind

theorem Tracks.keep (h : Tracks db s) (hp : s'.activePathID = s.activePathID)
    (hd : s'.activeDirectPathID = s.activeDirectPathID)
    (hq : s'.activeQualityClass = s.activeQualityClass)
    (hv : s'.pathState = .verifying ∨ s'.pathState = s.pathState) : Tracks db s' := by
  refine ⟨h.named, h.directNamed, ?_, ?_, ?_⟩
  · rw [hp, hd]
    exact h.exclusive
  · rw [hp, hq]
    exact h.path
  intro hne
  rw [hd, hq]
  refine h.direct ?_
  rcases hv with hv | hv
  · exact absurd hv hne
  · rw [← hv]
    exact hne

theorem tracks_path (hnamed : db.paths.find "" = none) (hdirect : db.directPaths.find "" = none)
    (hd : s.activeDirectPathID = "")
    (hp : ∀ p, db.paths.find s.activePathID = some p → usable p.quality = true →
      s.activeQualityClass = p.quality) : Tracks db s := by
  refine ⟨hnamed, hdirect, Or.inr hd, hp, ?_⟩
  intro _ p hfind
  rw [hd, hdirect] at hfind
  cases hfind

theorem tracks_direct (hnamed : db.paths.find "" = none) (hdirect : db.directPaths.find "" = none)
    (hp : s.activePathID = "")
    (hd : ∀ p, db.directPaths.find s.activeDirectPathID = some p → usable p.quality = true →
      s.activeQualityClass = p.quality) : Tracks db s := by
  refine ⟨hnamed, hdirect, Or.inl hp, ?_, fun _ => hd⟩
  intro p hfind
  rw [hp, hnamed] at hfind
  cases hfind

end Rows

/-! ## what the reads return -/

variable {db : Database}

theorem FreshRows.usable {pathID nodeID : String} {path : FreshPath} {p : Path}
    {u : Uplink} {n : Node} (h : FreshRows db pathID nodeID path p u n) :
    usable p.quality = true := by
  rcases h.evidence with ⟨hq, _⟩ | ⟨hq, _⟩ <;> rw [hq] <;> rfl

theorem FreshDirectRows.usable {pathID : String} {path : FreshDirectPath}
    {p : DirectPath} {u : Uplink} (h : FreshDirectRows db pathID path p u) :
    usable p.quality = true := by
  rcases h.quality with hq | hq | hq <;> rw [hq] <;> rfl

/-! ## the operations on the row -/

section Operations

variable {db : Database} {s after : Snapshot} {changed : Bool} {now : Time}
  {pathID nodeID : String} {policy route : Int}

section
variable (h : Tracks db s)
include h

theorem tracks_beginActivation
    (hok : beginActivation db now s pathID nodeID policy route = .ok (after, changed)) :
    Tracks db after := by
  obtain ⟨path, hread, ⟨rfl, _⟩ | rfl⟩ := beginActivation_ok hok
  · exact h
  obtain ⟨p, u, n, hrows, _⟩ := readFreshPath_found hread
  refine tracks_path h.named h.directNamed rfl ?_
  intro q hfind _
  have hfind : db.paths.find path.id = some q := hfind
  rw [hrows.id, hrows.path] at hfind
  cases hfind
  exact hrows.class_eq

theorem tracks_finishActivation
    (hok : finishActivation db now s pathID nodeID policy route = .ok (after, changed)) :
    Tracks db after ∧ ∀ path, readFreshPath db now pathID nodeID policy route = .ok path →
      after.activeQualityClass = path.qualityClass := by
  obtain ⟨path, hread, hactive, _, hafter⟩ := finishActivation_ok hok
  obtain ⟨p, u, n, hrows, _⟩ := readFreshPath_found hread
  have hp : db.paths.find s.activePathID = some p := by rw [hactive, hrows.id, hrows.path]
  have hclass : s.activeQualityClass = path.qualityClass := by
    rw [hrows.class_eq]
    exact h.path p hp hrows.usable
  -- the active path has a row, so no direct path is named
  have hnone : s.activeDirectPathID = "" := by
    refine h.exclusive.resolve_left fun hempty => ?_
    rw [hempty, h.named] at hp
    cases hp
  rw [hread]
  rcases hafter with ⟨rfl, _⟩ | rfl
  · exact ⟨h, fun _ hpath => Except.ok.inj hpath ▸ hclass⟩
  · exact ⟨tracks_path h.named h.directNamed hnone h.path,
      fun _ hpath => Except.ok.inj hpath ▸ hclass⟩

theorem tracks_beginDirectActivation
    (hok : beginDirectActivation db now s pathID policy route = .ok (after, changed)) :
    Tracks db after := by
  obtain ⟨path, hread, ⟨rfl, _⟩ | rfl⟩ := beginDirectActivation_ok hok
  · exact h
  obtain ⟨p, u, hrows, _⟩ := readFreshDirectPath_found hread
  refine tracks_direct h.named h.directNamed rfl ?_
  intro q hfind _
  have hfind : db.directPaths.find path.id = some q := hfind
  rw [hrows.id, hrows.path] at hfind
  cases hfind
  exact hrows.class_eq

theorem tracks_finishDirectActivation
    (hok : finishDirectActivation db now s pathID policy route = .ok (after, changed)) :
    Tracks db after ∧ ∀ path, readFreshDirectPath db now pathID policy route = .ok path →
      after.activeQualityClass = path.qualityClass := by
  obtain ⟨path, hread, hactive, _, hafter⟩ := finishDirectActivation_ok hok
  obtain ⟨p, u, hrows, _⟩ := readFreshDirectPath_found hread
  have hp : db.directPaths.find s.activeDirectPathID = some p := by
    rw [hactive, hrows.id, hrows.path]
  have hnone : s.activePathID = "" := by
    refine h.exclusive.resolve_right fun hempty => ?_
    rw [hempty, h.directNamed] at hp
    cases hp
  rw [hread]
  rcases hafter with ⟨rfl, hstate⟩ | rfl
  · refine ⟨h, fun _ hpath => Except.ok.inj hpath ▸ ?_⟩
    rw [hrows.class_eq]
    exact h.direct (by rw [hstate]; decide) p hp hrows.usable
  refine ⟨tracks_direct h.named h.directNamed hnone ?_,
    fun _ hpath => Except.ok.inj hpath ▸ rfl⟩
  intro q hfind _
  obtain rfl := some.inj (hp.symm.trans hfind)
  exact hrows.class_eq

theorem tracks_block {gatewayState : GatewayState} {reason : String}
    (hok : block now s gatewayState reason = .ok (after, changed)) : Tracks db after := by
  rcases block_ok hok with ⟨rfl, _⟩ | rfl
  · exact h
  · exact tracks_idle h.named h.directNamed rfl rfl

theorem tracks_recoverPolicyTransition
    (hok : recoverPolicyTransition now s = .ok (after, changed)) : Tracks db after := by
  rw [recoverPolicyTransition] at hok
  split at hok
  · cases hok
    exact h
  · cases hok
    exact tracks_idle h.named h.directNamed rfl rfl

theorem tracks_finishPolicyVerification {generation : Int}
    (hok : finishPolicyVerification db now s generation = .ok (after, changed)) :
    Tracks db after := by
  obtain ⟨hnone, quality, hrow, rfl⟩ := finishPolicyVerification_ok hok
  refine tracks_path h.named h.directNamed hnone ?_
  intro q hfind _
  have hfind : db.paths.find s.activePathID = some q := hfind
  obtain ⟨p, hp, hrow⟩ := bind_eq_some_iff.mp hrow
  obtain ⟨pn, _, hrow⟩ := bind_eq_some_iff.mp hrow
  obtain ⟨sub, _, hrow⟩ := bind_eq_some_iff.mp hrow
  obtain ⟨u, _, hrow⟩ := bind_eq_some_iff.mp hrow
  simp only [ite_none_right_eq_some, some.injEq] at hrow
  rw [hp] at hfind
  cases hfind
  exact hrow.2.symm

theorem tracks_markTargetDegraded {written : Time}
    (hok : markTargetDegraded db now written s pathID nodeID policy route =
      .ok (after, changed)) : Tracks db after := by
  rw [markTargetDegraded] at hok
  split at hok
  · cases hok
    exact h
  split at hok
  · cases hok
  split at hok
  · cases hok
  · rw [checked_ok hok]
    exact h.keep rfl rfl rfl (Or.inr rfl)

theorem tracks_recoverTargetDegraded
    (hok : recoverTargetDegraded db now s pathID nodeID policy route = .ok (after, changed)) :
    Tracks db after := by
  rcases recoverTargetDegraded_ok hok with rfl | rfl
  · exact h
  · exact h.keep rfl rfl rfl (Or.inr rfl)

theorem tracks_setManagementUplink {uplinkID reason : String} {requireHiLink : Bool}
    (hok : setManagementUplink db now s uplinkID reason requireHiLink = .ok (after, changed)) :
    Tracks db after := by
  rw [setManagementUplink] at hok
  split at hok
  · cases hok
  split at hok
  · cases hok
    exact h
  split at hok
  · cases hok
  · rw [checked_ok hok]
    exact h.keep rfl rfl rfl (Or.inr rfl)

end

end Operations

/-! ## the tables -/

theorem Tracks.tables {db db' : Database} {s : Snapshot} (h : Tracks db s)
    (hnamed : db'.paths.find "" = none) (hdirect : db'.directPaths.find "" = none)
    (hp : ∀ p', db'.paths.find s.activePathID = some p' → usable p'.quality = true →
      s.activeQualityClass = p'.quality)
    (hd : s.pathState ≠ .verifying → ∀ p', db'.directPaths.find s.activeDirectPathID = some p' →
      usable p'.quality = true → s.activeQualityClass = p'.quality) : Tracks db' s :=
  ⟨hnamed, hdirect, h.exclusive, hp, hd⟩

variable {s : System}

theorem tracks_storeQualification {snapshot : QualificationSnapshot}
    (h : Tracks s.db s.runtime) (hsettled : Settled s (.storeQualification snapshot)) :
    Tracks (s.store (storeQualification s.db snapshot)).db s.runtime := by
  cases hstore : storeQualification s.db snapshot with
  | error err => exact h
  | ok db' =>
  obtain ⟨hpaths, hdirect⟩ := storeQualification_ok hstore
  show Tracks db' s.runtime
  refine h.tables ?_ ?_ ?_ ?_
  · rw [hpaths, find_update, h.named]
    rfl
  · rw [hdirect]
    exact h.directNamed
  · intro p' hfind husable
    rw [hpaths, find_update] at hfind
    obtain ⟨p, hp, hp'⟩ := map_eq_some_iff.mp hfind
    have hkey : p.id = s.runtime.activePathID := key_of_find hp
    by_cases hid : p.id = snapshot.pathID
    · rw [if_pos hid] at hp'
      subst hp'
      refine hsettled (hid.symm.trans hkey) ?_
      have husable : usable (classOfState snapshot.state) = true := husable
      revert husable
      cases snapshot.state <;> simp [classOfState, usable]
    · rw [if_neg hid] at hp'
      subst hp'
      exact h.path p hp husable
  · rw [hdirect]
    exact h.direct

theorem tracks_publish {update : DirectResultUpdate}
    (h : Tracks s.db s.runtime) (hsettled : Settled s (.publish update)) :
    Tracks (s.store (publish s.db update)).db s.runtime := by
  cases hstore : publish s.db update with
  | error err => exact h
  | ok db' =>
  obtain ⟨-, results, -, rfl⟩ := publish_ok hstore
  refine h.tables h.named ?_ h.path ?_
  · refine (find_update (directAggregate_id update)).trans ?_
    rw [h.directNamed]
    rfl
  intro hverifying p' hfind husable
  obtain ⟨p, hp, hp'⟩ := map_eq_some_iff.mp
    ((find_update (directAggregate_id update)).symm.trans hfind)
  have hkey : p.id = s.runtime.activeDirectPathID := key_of_find hp
  by_cases hid : p.id = update.pathID
  · rw [if_pos hid] at hp'
    subst hp'
    refine hsettled (hid.symm.trans hkey) hverifying ?_
    have husable : usable update.qualityClass = true := husable
    revert husable
    cases update.qualityClass <;> simp [usable]
  · rw [if_neg hid] at hp'
    subst hp'
    exact h.direct hverifying p hp husable

theorem tracks_shortenDirect {s : Snapshot} (h : Tracks db s) (now : Time)
    (pathID : String) : Tracks (shortenDirect db now pathID) s := by
  refine h.tables h.named ?_ h.path ?_
  · rw [shortenDirect, find_update, h.directNamed]
    rfl
  intro hverifying p' hfind husable
  rw [shortenDirect, find_update] at hfind
  obtain ⟨p, hp, hp'⟩ := map_eq_some_iff.mp hfind
  have hquality : p'.quality = p.quality := by
    rw [← hp']
    split <;> rfl
  rw [hquality] at husable ⊢
  exact h.direct hverifying p hp husable

theorem tracks_prepareStartupRecovery (h : Tracks s.db s.runtime) (now : Time) :
    Tracks (s.step (.prepareStartupRecovery now)).db
      (s.step (.prepareStartupRecovery now)).runtime := by
  show Tracks (prepareStartupRecovery s.db now s.runtime).2
    ((prepareStartupRecovery s.db now s.runtime).1.row s.runtime)
  rw [prepareStartupRecovery]
  split
  · exact h
  have hrow : Tracks s.db { s.runtime.clearTransition with
      gatewayState := .verifying, pathState := .verifying,
      configGeneration := s.runtime.configGeneration + 1, updatedAt := .format now } :=
    h.keep rfl rfl rfl (Or.inl rfl)
  show Tracks (if s.runtime.activeMethodKind = .direct then _ else _) _
  split
  · exact tracks_shortenDirect hrow now _
  · exact hrow

/-! ## runs -/

theorem tracks_commit {r : Committed} (h : Tracks s.db s.runtime)
    (hok : ∀ after changed, r = .ok (after, changed) → Tracks s.db after) :
    Tracks (s.commit r).db (s.commit r).runtime := by
  cases r with
  | error err => exact h
  | ok result => exact hok result.1 result.2 rfl

theorem store_runtime (r : Except Fault Database) : (s.store r).runtime = s.runtime := by
  cases r <;> rfl

theorem tracks_step (h : Tracks s.db s.runtime) {step : Step}
    (hsettled : Settled s step) : Tracks (s.step step).db (s.step step).runtime := by
  cases step with
  | beginActivation now pathID policy route =>
    exact tracks_commit h fun _ _ => tracks_beginActivation h
  | beginNodeActivation now pathID nodeID policy route =>
    refine tracks_commit h fun after changed hok => ?_
    rw [beginNodeActivation] at hok
    split at hok
    · cases hok
    · exact tracks_beginActivation h hok
  | finishActivation now pathID policy route =>
    exact tracks_commit h fun _ _ hok => (tracks_finishActivation h hok).1
  | finishNodeActivation now pathID nodeID policy route =>
    refine tracks_commit h fun after changed hok => ?_
    rw [finishNodeActivation] at hok
    split at hok
    · cases hok
    · exact (tracks_finishActivation h hok).1
  | beginDirectActivation now pathID policy route =>
    exact tracks_commit h fun _ _ => tracks_beginDirectActivation h
  | finishDirectActivation now pathID policy route =>
    exact tracks_commit h fun _ _ hok => (tracks_finishDirectActivation h hok).1
  | markTargetDegraded now written pathID nodeID policy route =>
    exact tracks_commit h fun _ _ => tracks_markTargetDegraded h
  | recoverTargetDegraded now pathID nodeID policy route =>
    exact tracks_commit h fun _ _ => tracks_recoverTargetDegraded h
  | block now gatewayState reason => exact tracks_commit h fun _ _ => tracks_block h
  | finishPolicyVerification now generation =>
    exact tracks_commit h fun _ _ => tracks_finishPolicyVerification h
  | recoverPolicyTransition now =>
    exact tracks_commit h fun _ _ => tracks_recoverPolicyTransition h
  | setManagementUplink now uplinkID reason requireHiLink =>
    exact tracks_commit h fun _ _ => tracks_setManagementUplink h
  | prepareStartupRecovery now => exact tracks_prepareStartupRecovery h now
  | storeQualification snapshot =>
    show Tracks _ (s.store (storeQualification s.db snapshot)).runtime
    rw [store_runtime]
    exact tracks_storeQualification h hsettled
  | publish update =>
    show Tracks _ (s.store (publish s.db update)).runtime
    rw [store_runtime]
    exact tracks_publish h hsettled

/-- every step of the run keeps the class of what is active when it is taken -/
def SettledRun (s : System) : List Step → Prop
  | [] => True
  | step :: steps => Settled s step ∧ SettledRun (s.step step) steps

theorem tracks_run (h : Tracks s.db s.runtime) {steps : List Step}
    (hsettled : SettledRun s steps) : Tracks (s.run steps).db (s.run steps).runtime := by
  induction steps generalizing s with
  | nil => exact h
  | cons step steps ih => exact ih (tracks_step h hsettled.1) hsettled.2

theorem inClass_of_tracks (h : Tracks s.db s.runtime) (step : Step) : InClass s step := by
  cases step with
  | finishActivation now pathID policy route =>
    intro path result hread hok
    exact (tracks_finishActivation h hok).2 path hread
  | finishNodeActivation now pathID nodeID policy route =>
    intro path result hread hok
    rw [finishNodeActivation] at hok
    split at hok
    · cases hok
    · exact (tracks_finishActivation h hok).2 path hread
  | finishDirectActivation now pathID policy route =>
    intro path result hread hok
    exact (tracks_finishDirectActivation h hok).2 path hread
  | _ => trivial

/-- **in every run from an installed system in which the evidence published about the active path
keeps its class, every finished activation shows the class of the row it validated** -/
theorem finish_shows_class (s : System) (hinstalled : s.Installed) (steps : List Step)
    (hsettled : SettledRun s steps) (step : Step) : InClass (s.run steps) step := by
  obtain ⟨hnamed, hdirect, hp, hd⟩ := hinstalled
  exact inClass_of_tracks (tracks_run (tracks_idle hnamed hdirect hp hd) hsettled) step

def sampleBegun : System :=
  (⟨sampleDatabase (1000 * second), {}⟩ : System).run [.beginNodeActivation 0 "p1" "n1" 1 1]

theorem finish_shows_class_sample :
    (⟨sampleDatabase (1000 * second), {}⟩ : System).Installed ∧
      (finishNodeActivation sampleBegun.db second sampleBegun.runtime "p1" "n1" 1 1).map
        (fun result => result.1.activeQualityClass) = .ok .full ∧
      InClass sampleBegun (.finishNodeActivation second "p1" "n1" 1 1) := by
  have hinstalled : (⟨sampleDatabase (1000 * second), {}⟩ : System).Installed :=
    ⟨by decide +kernel, by decide +kernel, rfl, rfl⟩
  exact ⟨hinstalled, by decide +kernel, finish_shows_class _ hinstalled
    [.beginNodeActivation 0 "p1" "n1" 1 1] ⟨trivial, trivial⟩ _⟩

def sampleDowngrade : QualificationSnapshot :=
  { pathID := "p1", expectedPolicyGeneration := 1, expectedRouteGeneration := 1,
    state := .degraded, transportState := .passed, selectedNodeID := "n1",
    requiredTargetsPassed := 1, requiredTargetsTotal := 2, functionalScore := 1000,
    checkedAt := 0, expiresAt := 1000 * second,
    nodes := [{ nodeID := "n1", state := .bypassLimited }] }

def sampleDowngraded : System :=
  (⟨sampleDatabase (1000 * second), {}⟩ : System).run
    [.beginNodeActivation 0 "p1" "n1" 1 1, .storeQualification sampleDowngrade]

/-- a path that is downgraded while it is being activated is recorded in its old class -/
theorem downgrade_unnoticed :
    (⟨sampleDatabase (1000 * second), {}⟩ : System).Installed ∧
      ¬ InClass sampleDowngraded (.finishNodeActivation second "p1" "n1" 1 1) := by
  refine ⟨⟨by decide +kernel, by decide +kernel, rfl, rfl⟩, ?_⟩
  intro hclass
  have hread : readFreshPath sampleDowngraded.db second "p1" "n1" 1 1 =
      .ok ⟨"p1", "u1", "s1", "n1", "access:s1", .limited⟩ := by decide +kernel
  have hfinish : (finishNodeActivation sampleDowngraded.db second sampleDowngraded.runtime "p1" "n1"
      1 1).map (fun result => result.1.activeQualityClass) = .ok .full := by decide +kernel
  cases hok : finishNodeActivation sampleDowngraded.db second sampleDowngraded.runtime "p1" "n1"
      1 1 with
  | error err =>
    rw [hok] at hfinish
    cases hfinish
  | ok result =>
    rw [hok] at hfinish
    have hfull : result.1.activeQualityClass = .full := Except.ok.inj hfinish
    have hlimited : result.1.activeQualityClass = .limited := hclass _ result hread hok
    rw [hfull] at hlimited
    cases hlimited

/-! ## what a publication stores -/

def fourTargets : Database :=
  { sampleDatabase second with
    targets := ⟨[{ id := "t1" }, { id := "t2", targetClass := .globalOptional },
      { id := "t3", targetClass := .whitelistIndicator },
      { id := "t4", targetClass := .serviceEndpoint }], by decide⟩ }

def sampleUpdate : DirectResultUpdate where
  pathID := "d1"
  expectedPolicyGeneration := 1
  expectedRouteGeneration := 1
  transportState := .passed
  qualityClass := .full
  functionalScore := 2000
  requiredTargetsPassed := 1
  requiredTargetsTotal := 1
  optionalTargetsPassed := 0
  optionalTargetsTotal := 1
  whitelistTargetsPassed := 1
  whitelistTargetsTotal := 1
  checkedAt := 0
  expiresAt := 1000 * second
  targets := [⟨"t3", .whitelistIndicator, .passed, 0, 0, second⟩,
    ⟨"t1", .globalRequired, .passed, 0, 0, second⟩, ⟨"t2", .globalOptional, .failed, 0, 0, second⟩]

end GatewayVpn.Access
