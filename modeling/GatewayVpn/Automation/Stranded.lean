import GatewayVpn.Automation.Dispatch

/-!
# Automatic updates: back to checking

Suppose that the surroundings are quiet: checks are enabled, nothing is pending in the stager, no
transaction is active and every call succeeds.  From a row that names no staged update, or one whose
end the engine reports, two cycles lead to a check: the first brings the row in order, the second
finds the time of the check passed.  But a row that names an update which was discarded, and which
the engine never saw, answers every cycle with `AUTO_STAGE_MISSING` and goes on naming it: the
failure is written, the reference is not cleared, and no check is ever made again.
-/

namespace GatewayVpn.Automation

open Durable List
open Update (TransactionState errorCodePattern)

/-! ## quiet surroundings -/

structure Quiet (policy : Policy) (root : Option RootStatus) (t : Turn) : Prop where
  owner : validOwner t.scheduler.owner
  policy : ∀ n, t.input.policy n = .ok policy
  root : t.input.updateStatus = .ok root
  stager : t.input.stager = .ok none
  maintenance : ∀ n, ∃ m, t.input.maintenance n = .ok m ∧ m.active = false
  fates : ∀ f ∈ t.fates, f = .ok

def Inactive (root : Option RootStatus) : Prop := ∀ r, root = some r → terminal r.state

def Finishes (w : World) (t : Turn) : Prop :=
  (run exec (runOnce t.scheduler) t.fates (w.enter t.input)).result ≠ none

/-- the lease that a stopped process left has run out, and the second cycle starts after the time of
the check in the row and after the longest delay that the first one can set -/
structure Timely (policy : Policy) (w : World) (t₁ t₂ : Turn) : Prop where
  lease : ∀ expires, w.row.leaseExpiresAt = some expires → leaseExpired expires (t₁.input.clock 0)
  next : deadlineDue w.row.nextCheckAt (t₂.input.clock 0)
  apart : t₁.input.clock 0 + (policy.checkIntervalHours * hour + maximumJitterMinutes * minute) ≤
    t₂.input.clock 0

def Checked (w : World) : Prop := ∃ channel, .checked channel ∈ w.calls

def Resolved (root : Option RootStatus) (row : Status) : Prop :=
  row.stagedUpdateID = "" ∨ ∃ r, root = some r ∧ r.updateID = row.stagedUpdateID

/-! ## rows that pass the validation -/

structure Sound (s : Status) : Prop where
  valid : s.valid
  fits : s.fitsTable

theorem countFailure_le {n : Nat} (h : n ≤ 100) : countFailure n ≤ 100 := by
  unfold countFailure
  split <;> omega

variable {policy : Policy}

theorem deterministicJitter_le (digest : String → Channel → Nat) (h : policy.valid) :
    deterministicJitter digest policy ≤ maximumJitterMinutes := by
  simp only [Policy.valid, Bool.and_eq_true, decide_eq_true_eq] at h
  obtain ⟨⟨⟨⟨⟨⟨⟨-, hjitter⟩, -⟩, -⟩, -⟩, -⟩, -⟩, -⟩ := h
  unfold deterministicJitter
  split
  · exact Nat.zero_le _
  · have := Nat.mod_lt (digest policy.updatedAt policy.channel) (Nat.succ_pos policy.jitterMinutes)
    exact (Nat.le_of_lt_succ this).trans hjitter

theorem applyDelay_pos (h : policy.valid) : 1 ≤ policy.maximumApplyDelayHours := by
  simp only [Policy.valid, Bool.and_eq_true, decide_eq_true_eq] at h
  exact h.1.2

theorem Status.valid_iff (s : Status) : s.valid ↔
    (s.jitterOffsetMinutes ≤ maximumJitterMinutes ∧ s.consecutiveFailures ≤ 100) ∧
      (errorCodePattern s.lastResultCode ∧ errorCodePattern s.lastErrorCode) ∧
      ((s.leaseOwner = "") = (s.leaseExpiresAt = none) ∧ byteLength s.leaseOwner ≤ 64) ∧
      s.validCandidate ∧ s.validStaging := by
  simp only [Status.valid, Bool.and_eq_true, decide_eq_true_eq, and_assoc]

variable {s : Status}

theorem Sound.write {s' : Status} (h : Sound s)
    (hcounters : s'.jitterOffsetMinutes ≤ maximumJitterMinutes ∧ s'.consecutiveFailures ≤ 100)
    (hcodes : errorCodePattern s'.lastResultCode ∧ errorCodePattern s'.lastErrorCode)
    (howner : s'.leaseOwner = s.leaseOwner) (hexpires : s'.leaseExpiresAt = s.leaseExpiresAt)
    (hcandidate : s'.validCandidate) (hstaging : s'.validStaging) (hfits : s'.fitsTable) :
    Sound s' := by
  refine ⟨(Status.valid_iff s').2 ⟨hcounters, hcodes, ?_, hcandidate, hstaging⟩, hfits⟩
  rw [howner, hexpires]
  exact ((Status.valid_iff s).1 h.valid).2.2.1

theorem Sound.counters (h : Sound s) :
    s.jitterOffsetMinutes ≤ maximumJitterMinutes ∧ s.consecutiveFailures ≤ 100 :=
  ((Status.valid_iff s).1 h.valid).1

theorem Sound.candidate (h : Sound s) : s.validCandidate :=
  ((Status.valid_iff s).1 h.valid).2.2.2.1

theorem Sound.staging (h : Sound s) : s.validStaging :=
  ((Status.valid_iff s).1 h.valid).2.2.2.2

theorem sound_outcomeUnknown (h : Sound s) (now : Time) :
    Sound (s.outcomeUnknown now "AUTO_APPLY_OUTCOME_UNKNOWN") := by
  have hcodes : errorCodePattern "OUTCOME_UNKNOWN" ∧
      errorCodePattern "AUTO_APPLY_OUTCOME_UNKNOWN" := by decide +kernel
  exact h.write h.counters hcodes rfl rfl h.candidate h.staging h.fits

theorem sound_startCheck (h : Sound s) (now : Time) : Sound (s.startCheck now) := by
  have hcodes : errorCodePattern "CHECK_STARTED" ∧ errorCodePattern "" := by decide +kernel
  exact h.write h.counters hcodes rfl rfl h.candidate h.staging h.fits

theorem validCandidate_of_empty (hv : s.candidateVersion = "") (hr : s.candidateReference = "") :
    s.validCandidate := by
  have h : ({ updatedAt := 0 } : Status).validCandidate := by decide +kernel
  unfold Status.validCandidate at h ⊢
  rw [hv, hr]
  exact h

theorem fits_of_empty (hv : s.candidateVersion = "") (hs : s.stagedVersion.length ≤ 128) :
    s.fitsTable := by
  simp [Status.fitsTable, hv, hs]

theorem Sound.stagedVersion_length (h : Sound s) : s.stagedVersion.length ≤ 128 := by
  have := h.fits
  simp only [Status.fitsTable, Bool.and_eq_true, decide_eq_true_eq] at this
  exact this.2

theorem sound_finish (h : Sound s) (policy : Policy) (now : Time) {result error : String}
    (hcodes : errorCodePattern result ∧ errorCodePattern error) :
    Sound (s.finish policy now result error) := by
  refine h.write ⟨h.counters.1, ?_⟩ hcodes rfl rfl (validCandidate_of_empty rfl rfl) ?_
    (fits_of_empty rfl (by show "".length ≤ 128; decide))
  · show (if error = "" then 0 else countFailure s.consecutiveFailures) ≤ 100
    split
    · exact Nat.zero_le _
    · exact countFailure_le h.counters.2
  · have hempty : ({ updatedAt := 0 } : Status).validStaging := by decide +kernel
    exact hempty

theorem validStaging_deadline (h : s.validStaging) {staged : Time} (hs : s.stagedAt = some staged)
    (hid : s.stagedUpdateID ≠ "") {hours : Nat} (hh : 1 ≤ hours) :
    { s with applyDeadlineAt := some (staged + hours * hour) }.validStaging := by
  have hlt : staged < staged + hours * hour := by
    have : (0 : Int) < hours * hour := by
      have h1 : (1 : Int) ≤ hours := by exact_mod_cast hh
      unfold hour minute second
      omega
    exact Int.lt_add_of_pos_right staged this
  simp only [Status.validStaging, Bool.and_eq_true, decide_eq_true_eq] at h ⊢
  obtain ⟨⟨⟨⟨⟨⟨h1, h2⟩, h3⟩, h4⟩, h5⟩, h6⟩, h7⟩ := h
  refine ⟨⟨⟨⟨⟨⟨h1, h2⟩, h3⟩, h4⟩, by simp [hid]⟩, ?_⟩, h7⟩
  simp only [hs, decide_eq_true_eq]
  exact hlt

/-- without a staged update the evidence of an application is empty already -/
theorem validStaging_clear (h : s.validStaging) :
    { s with applyIntentAt := none, applyObservedAt := none }.validStaging := by
  simp only [Status.validStaging, Bool.and_eq_true] at h ⊢
  exact ⟨h.1, by simp⟩

theorem sound_followPolicy (h : Sound s) (digest : String → Channel → Nat) (hp : policy.valid)
    (now : Time) : Sound (s.followPolicy digest policy now) := by
  have hcodes : errorCodePattern "POLICY_CHANGED" ∧ errorCodePattern "" := by decide +kernel
  have hcounters : deterministicJitter digest policy ≤ maximumJitterMinutes ∧ 0 ≤ 100 :=
    ⟨deterministicJitter_le digest hp, Nat.zero_le _⟩
  unfold Status.followPolicy
  dsimp only [Status.clearCandidate]
  split
  · rename_i hid
    split
    · rename_i staged hs
      exact h.write hcounters hcodes rfl rfl (validCandidate_of_empty rfl rfl)
        (validStaging_deadline h.staging hs hid (applyDelay_pos hp))
        (fits_of_empty rfl h.stagedVersion_length)
    · exact h.write hcounters hcodes rfl rfl (validCandidate_of_empty rfl rfl) h.staging
        (fits_of_empty rfl h.stagedVersion_length)
  · split <;>
    exact h.write hcounters hcodes rfl rfl (validCandidate_of_empty rfl rfl)
      (validStaging_clear h.staging) (fits_of_empty rfl h.stagedVersion_length)

/-! ## a row without an end in sight -/

structure Stranded (x : String) (w : World) : Prop where
  staged : w.row.stagedUpdateID = x
  unchecked : ¬ Checked w

variable {w w' : World} {x : String}

theorem Stranded.same (h : Stranded x w) (hs : Same w w') : Stranded x w' := by
  refine ⟨hs.staged.trans h.staged, fun ⟨c, hc⟩ => h.unchecked ⟨c, ?_⟩⟩
  rwa [hs.calls] at hc

variable {g : Status → Status} {sch : Scheduler}

theorem Stranded.wp_stopWith (h : Stranded x w) (hid : ∀ s, (g s).stagedUpdateID = s.stagedUpdateID)
    (hphase : ∀ s, (g s).phase ≠ .applyIntent) :
    wp exec (fun _ => True) (Stranded x) (stopWith sch fun s => some (g s))
      (fun r w' => Stranded x w' ∧ Stops r) w := by
  have htick : Stranded x w.tick := h.same ⟨rfl, rfl, rfl, rfl⟩
  refine wp_update h (fun e => ⟨htick, fun s b hs => by simp at hs⟩) fun s hs _ => ?_
  obtain rfl := Option.some.inj hs
  have hw : Stranded x (w.store (g w.row)).tick := by
    rw [store_noIntent fun hi => (hphase w.row hi).elim]
    exact ⟨(hid w.row).trans h.staged, h.unchecked⟩
  refine ⟨fun e => ⟨hw, fun s b hs => by simp at hs⟩, hw, fun s b hs => ?_⟩
  obtain ⟨-, rfl⟩ := Prod.mk.inj (Except.ok.inj hs)
  rfl

variable {root : Option RootStatus}

theorem Stranded.wp_reconcile (h : Stranded x w) (hx : x ≠ "")
    (hroot : w.input.updateStatus = .ok root) (hstager : w.input.stager = .ok none)
    (hnone : ∀ r, root = some r → r.updateID ≠ x) (sch : Scheduler) (policy : Policy)
    {status : Status} (hs : status.stagedUpdateID = x) (now : Time) :
    wp exec (fun _ => True) (Stranded x) (reconcile sch policy status now)
      (fun r w' => Stranded x w' ∧ Stops r) w := by
  refine ⟨h, fun f _ => ?_⟩
  have hanswer : (exec .updateStatus f w).1 = .ok root := hroot
  have hstate : Stranded x (exec .updateStatus f w).2 ∧
      (exec .updateStatus f w).2.input = w.input := by
    show Stranded x (noteReport w).tick ∧ (noteReport w).input = w.input
    unfold noteReport
    rw [hroot]
    cases root with
    | none => exact ⟨h.same ⟨rfl, rfl, rfl, rfl⟩, rfl⟩
    | some r =>
    refine ⟨⟨h.staged, fun ⟨c, hc⟩ => h.unchecked ⟨c, ?_⟩⟩, rfl⟩
    exact (mem_cons.1 hc).resolve_left (by simp)
  rw [hanswer]
  obtain ⟨h1, hinput⟩ := hstate
  generalize (exec .updateStatus f w).2 = w1 at h1 hinput ⊢
  refine ⟨h1, fun f _ => ?_⟩
  have hpending : (exec .stagerStatus f w1).1 = .ok none := by
    show w1.input.stager = _
    rw [hinput, hstager]
  have h2 : Stranded x (exec .stagerStatus f w1).2 := h1.same ⟨rfl, rfl, rfl, rfl⟩
  rw [hpending]
  generalize (exec .stagerStatus f w1).2 = w2 at h2 ⊢
  have hfilter : root.filter (fun r => status.stagedUpdateID ≠ "" &&
      r.updateID = status.stagedUpdateID) = none := by
    cases root with
    | none => rfl
    | some r => simp [Option.filter, hs, hnone r rfl]
  rw [hfilter]
  show wp exec _ _ (reconcileIdle sch status now) _ w2
  unfold reconcileIdle
  split
  · exact h2.wp_stopWith (fun s => rfl) fun s => Phase.noConfusion
  · rw [if_pos (by rw [hs]; exact hx)]
    exact h2.wp_stopWith (fun s => rfl) fun s => Phase.noConfusion

theorem Stranded.wp_leased (h : Stranded x w) (hx : x ≠ "")
    (hroot : w.input.updateStatus = .ok root) (hstager : w.input.stager = .ok none)
    (hnone : ∀ r, root = some r → r.updateID ≠ x) (sch : Scheduler) (now : Time) :
    wp exec (fun _ => True) (Stranded x) (leased sch now) (fun _ => Stranded x) w := by
  refine ⟨h, fun f _ => ?_⟩
  have hsame := exec_passive (o := .getPolicy) trivial f w
  have h1 := h.same hsame
  cases (exec .getPolicy f w).1 with
  | error e => exact h1
  | ok policy =>
  have hid : (exec .getPolicy f w).2.row.stagedUpdateID ≠ "" := by rw [h1.staged]; exact hx
  refine wp_attempt (wp_syncPolicy h1 (h1.same ⟨rfl, rfl, rfl, rfl⟩) sch policy now)
    (fun e t ht => h1.same (ht.2 hid)) ?_
  rintro status w2 ⟨hstatus, hkept⟩
  obtain rfl := hstatus status rfl
  have hsame2 := hkept hid
  have h2 := h1.same hsame2
  have hinput : w2.input = w.input := hsame2.input.trans hsame.input
  refine wp_attempt (h2.wp_reconcile hx (by rw [hinput]; exact hroot)
    (by rw [hinput]; exact hstager) hnone sch policy
    h2.staged now) (fun e t ht => ht.1) ?_
  rintro ⟨s, b⟩ t ⟨ht, hstops⟩
  obtain rfl := hstops s b rfl
  exact ht

theorem stranded_cycle (hx : x ≠ "") (hnone : ∀ r, root = some r → r.updateID ≠ x) {t : Turn}
    (ht : Quiet policy root t) (h : Stranded x w) : Stranded x (cycle w t) := by
  refine cycle_keeps (fun _ _ hs h => h.same hs) ⟨h.staged, h.unchecked⟩ fun w' hsame _ h' => ?_
  refine h'.wp_leased hx ?_ ?_ hnone t.scheduler _
  · rw [hsame.input]; exact ht.root
  · rw [hsame.input]; exact ht.stager

/-- **A row that names an update nobody knows never comes back to a check**, however many quiet
cycles follow and at whatever times. -/
theorem stranded_run (h : ¬ Resolved root w.row) (hw : ¬ Checked w) {ts : List Turn}
    (hts : ∀ t ∈ ts, Quiet policy root t) : ¬ Checked (ts.foldl cycle w) := by
  have hx : w.row.stagedUpdateID ≠ "" := fun hx => h (.inl hx)
  have hnone : ∀ r, root = some r → r.updateID ≠ w.row.stagedUpdateID :=
    fun r hr hid => h (.inr ⟨r, hr, hid⟩)
  have hrun : ∀ (ts : List Turn) (w' : World), (∀ t ∈ ts, Quiet policy root t) →
      Stranded w.row.stagedUpdateID w' → Stranded w.row.stagedUpdateID (ts.foldl cycle w') := by
    intro ts
    induction ts with
    | nil => exact fun _ _ h => h
    | cons t ts ih =>
      intro w' hts h'
      exact ih _ (fun t ht => hts t (mem_cons_of_mem _ ht))
        (stranded_cycle hx hnone (hts t mem_cons_self) h')
  exact (hrun ts w hts ⟨rfl, hw⟩).unchecked

/-! ## two cycles to a check -/

section
variable {α β : Type}

abbrev Okay (p : Prog α) (Q : α → World → Prop) (w : World) : Prop :=
  wp exec (fun f => f = .ok) (fun _ => True) p Q w

theorem okay_call {o : Op} {k : o.Ret → Prog α} {Q : α → World → Prop}
    (h : Okay (k (exec o .ok w).1) Q (exec o .ok w).2) : Okay (.call o k) Q w := by
  refine ⟨trivial, fun f hf => ?_⟩
  obtain rfl := hf
  exact h

structure Owned (sch : Scheduler) (w : World) : Prop where
  valid : validOwner sch.owner
  sound : Sound w.row
  owner : w.row.leaseOwner = sch.owner

theorem okay_update {mutate : Status → Option Status} {k : Status → Prog (Except String β)}
    {Q : Except String β → World → Prop} (hw : Owned sch w) (hm : mutate w.row = some s)
    (hs : Sound s) (hk : Okay (k s) Q (w.store s).tick) : Okay (update sch mutate k) Q w := by
  have heffect : updateEffect w sch.owner mutate = (.ok s, w.store s) := by
    simp [updateEffect, readStatus, hw.valid, hw.sound.valid, hw.owner, hm, hs.valid, hs.fits]
  refine okay_call ?_
  simp only [exec, effect, heffect, Fate.ok_deliver]
  exact hk

theorem exec_calls (o : Op) (f : Fate) (w : World) :
    ∃ new, (exec o f w).2.calls = new ++ w.calls := by
  cases o with
  | updateOwned owner mutate =>
    rcases updateEffect_cases w owner mutate with ⟨e, he⟩ | ⟨s, hm, hs, he⟩
    · exact ⟨[], by cases f <;> simp [exec, effect, he, World.tick]⟩
    have hstore : ∃ new, (w.store s).calls = new ++ w.calls := by
      unfold World.store
      split
      · exact ⟨[_], rfl⟩
      · exact ⟨[], rfl⟩
    cases f with
    | fail => exact ⟨[], rfl⟩
    | ok | late => simpa [exec, effect, he, World.tick] using hstore
  | updateStatus =>
    show ∃ new, (noteReport w).calls = new ++ w.calls
    unfold noteReport
    split
    · exact ⟨[_], rfl⟩
    · exact ⟨[], rfl⟩
  | applyPendingUpdate | check => exact ⟨[_], rfl⟩
  | _ => exact ⟨[], (exec_passive (by exact trivial) f w).calls⟩

theorem Checked.okay (h : Checked w) (p : Prog α) : Okay p (fun _ => Checked) w := by
  refine wp_mono (fun _ _ => trivial) (fun _ _ h => h) (wp_kept ?_ p h)
  rintro o f s - ⟨c, hc⟩
  obtain ⟨new, hnew⟩ := exec_calls o f s
  exact ⟨c, by rw [hnew]; exact mem_append_right _ hc⟩

end

structure Settled (policy : Policy) (due : Time) (w : World) : Prop where
  sound : Sound w.row
  staged : w.row.stagedUpdateID = ""
  phase : ¬ (w.row.phase = .applyIntent ∨ w.row.phase = .applyDispatched)
  synced : w.row.policyUpdatedAt = policy.updatedAt ∧ w.row.channel = policy.channel
  next : deadlineDue w.row.nextCheckAt due

structure Calm (policy : Policy) (root : Option RootStatus) (w : World) : Prop where
  policy : ∀ n, w.input.policy n = .ok policy
  root : w.input.updateStatus = .ok root
  stager : w.input.stager = .ok none
  maintenance : ∀ n, ∃ m, w.input.maintenance n = .ok m ∧ m.active = false

theorem Calm.input (h : Calm policy root w) (hi : w'.input = w.input) : Calm policy root w' := by
  constructor <;> rw [hi]
  · exact h.policy
  · exact h.root
  · exact h.stager
  · exact h.maintenance

variable {now due : Time}

theorem nextRegularCheck_due {jitter : Nat} (hj : jitter ≤ maximumJitterMinutes)
    (h : now + (policy.checkIntervalHours * hour + maximumJitterMinutes * minute) ≤ due) :
    deadlineDue (nextRegularCheck policy jitter now) due := by
  have hle : (jitter : Int) * minute ≤ maximumJitterMinutes * minute := by
    have : (jitter : Int) ≤ maximumJitterMinutes := by exact_mod_cast hj
    exact Int.mul_le_mul_of_nonneg_right this (by decide)
  simp only [nextRegularCheck, deadlineDue, decide_eq_true_eq]
  linarith

theorem followPolicy_synced (digest : String → Channel → Nat) (policy : Policy) (now : Time)
    (s : Status) : (s.followPolicy digest policy now).policyUpdatedAt = policy.updatedAt ∧
      (s.followPolicy digest policy now).channel = policy.channel ∧
      (s.followPolicy digest policy now).stagedUpdateID = s.stagedUpdateID ∧
      (s.followPolicy digest policy now).leaseOwner = s.leaseOwner := by
  unfold Status.followPolicy
  dsimp only [Status.clearCandidate]
  split
  · split <;> exact ⟨rfl, rfl, rfl, rfl⟩
  · split <;> exact ⟨rfl, rfl, rfl, rfl⟩

theorem followPolicy_next (digest : String → Channel → Nat) (hp : policy.valid)
    (hcheck : policy.automaticCheckEnabled) (hnext : deadlineDue s.nextCheckAt due)
    (h : now + (policy.checkIntervalHours * hour + maximumJitterMinutes * minute) ≤ due) :
    deadlineDue (s.followPolicy digest policy now).nextCheckAt due := by
  unfold Status.followPolicy
  dsimp only [Status.clearCandidate]
  split
  · split <;> exact hnext
  · exact nextRegularCheck_due (deterministicJitter_le digest hp) h

section
variable {policy : Policy} {root : Option RootStatus} {sch : Scheduler} {now due : Time}

theorem okay_syncPolicy (hw : Owned sch w) (hc : Calm policy root w) (hp : policy.valid)
    (hcheck : policy.automaticCheckEnabled) (hnext : deadlineDue w.row.nextCheckAt due)
    (hdue : now + (policy.checkIntervalHours * hour + maximumJitterMinutes * minute) ≤ due) :
    Okay (syncPolicy sch policy now) (fun r w' => r = .ok w'.row ∧ Owned sch w' ∧
      Calm policy root w' ∧ w'.row.stagedUpdateID = w.row.stagedUpdateID ∧
      (w'.row.policyUpdatedAt = policy.updatedAt ∧ w'.row.channel = policy.channel) ∧
      deadlineDue w'.row.nextCheckAt due) w := by
  refine okay_call ?_
  have hread : (exec .getStatus .ok w).1 = .ok w.row := by
    show readStatus w = _
    simp [readStatus, hw.sound.valid]
  rw [hread]
  show Okay (if _ then _ else _) _ w.tick
  split
  · rename_i hsync
    exact ⟨rfl, ⟨hw.valid, hw.sound, hw.owner⟩, hc.input rfl, rfl, hsync, hnext⟩
  obtain ⟨h1, h2, h3, h4⟩ := followPolicy_synced sch.digest policy now w.row
  have hsound := sound_followPolicy hw.sound sch.digest hp now
  refine okay_update ⟨hw.valid, hw.sound, hw.owner⟩ rfl hsound ?_
  refine ⟨by rw [store_row], ⟨hw.valid, ?_, ?_⟩, hc.input (store_input w.tick _), ?_, ?_, ?_⟩
  · rw [store_row]; exact hsound
  · rw [store_row]; exact h4.trans hw.owner
  · rw [store_row]; exact h3
  · rw [store_row]; exact ⟨h1, h2⟩
  · rw [store_row]; exact followPolicy_next sch.digest hp hcheck hnext hdue

theorem okay_reconcile {status : Status} {Q : Except String (Status × Bool) → World → Prop}
    (hc : Calm policy root w) (h : ∀ w', w'.row = w.row → w'.input = w.input → Okay
      (match root.filter (fun r => status.stagedUpdateID ≠ "" &&
          r.updateID = status.stagedUpdateID) with
        | some r => reconcileRoot sch policy now r.state
        | none => reconcileIdle sch status now) Q w') :
    Okay (reconcile sch policy status now) Q w := by
  refine okay_call ?_
  have hroot : (exec .updateStatus .ok w).1 = .ok root := hc.root
  rw [hroot]
  refine okay_call ?_
  have hstager : (exec .stagerStatus .ok (exec .updateStatus .ok w).2).1 = .ok none := by
    show (noteReport w).input.stager = _
    rw [noteReport_input]
    exact hc.stager
  rw [hstager]
  exact h _ (noteReport_row w) (noteReport_input w)

theorem Settled.okay_reconcile (hc : Calm policy root w) (h : Settled policy due w) :
    Okay (reconcile sch policy w.row now) (fun r w' => r = .ok (w.row, false) ∧ w'.row = w.row ∧
      w'.input = w.input) w := by
  refine Automation.okay_reconcile hc fun w' hrow hinput => ?_
  have hfilter : root.filter (fun r => w.row.stagedUpdateID ≠ "" &&
      r.updateID = w.row.stagedUpdateID) = none := by
    cases root with
    | none => rfl
    | some r => simp [Option.filter, h.staged]
  rw [hfilter]
  unfold reconcileIdle
  rw [if_neg h.phase, if_neg (not_not.2 h.staged)]
  exact ⟨rfl, hrow, hinput⟩

section
variable (hw : Owned sch w)
include hw

theorem okay_stop (hs : Sound (g w.row))
    (howner : (g w.row).leaseOwner = w.row.leaseOwner) :
    Okay (stopWith sch fun s => some (g s)) (fun r w' => r = .ok (g w.row, true) ∧
      Owned sch w' ∧ w'.row = g w.row) w := by
  refine okay_update hw rfl hs ?_
  refine ⟨rfl, ⟨hw.valid, ?_, ?_⟩, store_row w _⟩
  · rw [store_row]; exact hs
  · rw [store_row]; exact howner.trans hw.owner

theorem okay_finishWith (type : String) (hs : Sound (g w.row))
    (howner : (g w.row).leaseOwner = w.row.leaseOwner) :
    Okay (finishWith sch g type) (fun r w' => r = .ok (g w.row, true) ∧
      Owned sch w' ∧ w'.row = g w.row) w := by
  have heffect : updateEffect w sch.owner (fun s => some (g s)) = (.ok (g w.row), w.store (g w.row)) := by
    simp [updateEffect, readStatus, hw.valid, hw.sound.valid, hw.owner, hs.valid, hs.fits]
  refine okay_call ?_
  simp only [exec, effect, heffect, Fate.ok_deliver]
  refine okay_call ⟨rfl, ⟨hw.valid, ?_, ?_⟩, store_row w _⟩
  · show Sound (w.store _).tick.row
    rw [store_row]; exact hs
  · show (w.store _).tick.row.leaseOwner = _
    rw [store_row]; exact howner.trans hw.owner

theorem okay_reconcileRoot {state : TransactionState} (hstate : terminal state) :
    Okay (reconcileRoot sch policy now state) (fun r w' => ∃ result error,
      r = .ok (w.row.finish policy now result error, true) ∧ Owned sch w' ∧
        w'.row = w.row.finish policy now result error) w := by
  have hcodes : errorCodePattern "AUTO_UPDATE_FINALIZED" ∧ errorCodePattern "" ∧
      errorCodePattern "AUTO_UPDATE_ROLLED_BACK" ∧
      errorCodePattern "AUTO_UPDATE_ROLLBACK_FAILED" := by decide +kernel
  obtain ⟨h1, h2, h3, h4⟩ := hcodes
  cases state with
  | finalized =>
    exact wp_post (fun _ _ h => ⟨_, _, h⟩)
      (okay_finishWith hw _ (sound_finish hw.sound policy now ⟨h1, h2⟩) rfl)
  | rolledBack =>
    exact wp_post (fun _ _ h => ⟨_, _, h⟩)
      (okay_finishWith hw _ (sound_finish hw.sound policy now ⟨h3, h3⟩) rfl)
  | rollbackFailed =>
    exact wp_post (fun _ _ h => ⟨_, _, h⟩)
      (okay_stop hw (sound_finish hw.sound policy now ⟨h4, h4⟩) rfl)
  | _ => exact Bool.noConfusion hstate

theorem okay_check (hc : Calm policy root w) :
    Okay (checkAndMaybeStage sch policy now) (fun _ => Checked) w := by
  refine okay_call ?_
  obtain ⟨m, hm, hinactive⟩ := hc.maintenance w.position
  have hanswer : (exec .maintenanceStatus .ok w).1 = .ok m := hm
  rw [hanswer]
  show Okay (if m.active = true then _ else _) _ w.tick
  rw [if_neg (by simp [hinactive])]
  refine okay_update ⟨hw.valid, hw.sound, hw.owner⟩ rfl (sound_startCheck hw.sound now) ?_
  refine okay_call (Checked.okay ⟨policy.channel, ?_⟩ _)
  exact mem_cons_self

theorem Settled.okay_proceed (hc : Calm policy root w)
    (hcheck : policy.automaticCheckEnabled) (h : Settled policy due w) :
    Okay (proceed sch policy w.row now) (fun _ w' => Checked w' ∨
      deadlineDue w.row.nextCheckAt now = false ∧ w' = w) w := by
  unfold proceed
  rw [if_neg (by simp [hcheck]), if_neg (not_not.2 h.staged)]
  cases hd : deadlineDue w.row.nextCheckAt now with
  | false => exact .inr ⟨rfl, rfl⟩
  | true => exact wp_post (fun _ _ h => .inl h) (okay_check hw hc)

end

theorem Settled.row (h : Settled policy due w) (hr : w'.row = w.row) : Settled policy due w' := by
  constructor <;> rw [hr]
  · exact h.sound
  · exact h.staged
  · exact h.phase
  · exact h.synced
  · exact h.next

theorem Owned.row (h : Owned sch w) (hr : w'.row = w.row) : Owned sch w' :=
  ⟨h.valid, by rw [hr]; exact h.sound, by rw [hr]; exact h.owner⟩

theorem Settled.okay_rest (hw : Owned sch w) (hc : Calm policy root w)
    (hcheck : policy.automaticCheckEnabled) (h : Settled policy due w) :
    Okay ((reconcile sch policy w.row now).attempt (fun e => .done (.error e)) fun r =>
      if r.2 then .done (.ok ()) else proceed sch policy r.1 now)
      (fun _ w' => Checked w' ∨ deadlineDue w.row.nextCheckAt now = false ∧ w'.row = w.row) w := by
  refine wp_attempt (Settled.okay_reconcile hc h) (fun e t ht => by simp at ht) ?_
  rintro r w' ⟨hr, hrow, hinput⟩
  obtain rfl := Except.ok.inj hr
  rw [← hrow]
  refine wp_post (fun _ t ht => ?_)
    (Settled.okay_proceed (hw.row hrow) (hc.input hinput) hcheck (h.row hrow))
  rcases ht with ht | ⟨hlate, rfl⟩
  · exact .inl ht
  · exact .inr ⟨hlate, rfl⟩

theorem okay_leased_first (hw : Owned sch w) (hc : Calm policy root w) (hroot : Inactive root)
    (hp : policy.valid) (hcheck : policy.automaticCheckEnabled) (h : Resolved root w.row)
    (hnext : deadlineDue w.row.nextCheckAt due)
    (hdue : now + (policy.checkIntervalHours * hour + maximumJitterMinutes * minute) ≤ due) :
    Okay (leased sch now) (fun _ w' => Checked w' ∨ Owned sch w' ∧ Settled policy due w') w := by
  refine okay_call ?_
  have hpolicy : (exec .getPolicy .ok w).1 = .ok policy := by
    show readPolicy w = _
    simp [readPolicy, hc.policy, hp]
  rw [hpolicy]
  have hw0 : Owned sch w.tick := hw.row rfl
  refine wp_attempt (okay_syncPolicy hw0 (hc.input rfl) hp hcheck hnext hdue) (fun e t ht => by simp at ht) ?_
  rintro status w1 ⟨hstatus, hw1, hc1, hstaged, hsynced, hnext1⟩
  obtain rfl := Except.ok.inj hstatus
  by_cases hrest : w1.row.stagedUpdateID = "" ∧
      ¬ (w1.row.phase = .applyIntent ∨ w1.row.phase = .applyDispatched)
  · have hsettled : Settled policy due w1 := ⟨hw1.sound, hrest.1, hrest.2, hsynced, hnext1⟩
    refine wp_post (fun _ t ht => ?_) (Settled.okay_rest hw1 hc1 hcheck hsettled)
    exact ht.imp_right fun ht => ⟨hw1.row ht.2, hsettled.row ht.2⟩
  refine wp_attempt (R := fun r w' => (∃ s, r = .ok (s, true)) ∧ Owned sch w' ∧
    Settled policy due w') (okay_reconcile hc1 fun w2 hrow hinput => ?_) (fun e t ht => by simp at ht) ?_
  · by_cases hid : w1.row.stagedUpdateID = ""
    · -- a phase without its update: the outcome is written off
      have hphase := not_not.1 fun hphase => hrest ⟨hid, hphase⟩
      have hfilter : root.filter (fun r => w1.row.stagedUpdateID ≠ "" &&
          r.updateID = w1.row.stagedUpdateID) = none := by
        cases root with
        | none => rfl
        | some r => simp [Option.filter, hid]
      rw [hfilter]
      unfold reconcileIdle
      rw [if_pos hphase]
      refine wp_post ?_ (okay_stop (hw1.row hrow)
        (by rw [hrow]; exact sound_outcomeUnknown hw1.sound now) rfl)
      rintro r w3 ⟨hr, hw3, hrow3⟩
      rw [hrow] at hrow3
      refine ⟨⟨_, hr⟩, hw3, hw3.sound, ?_, ?_, ?_, ?_⟩ <;> rw [hrow3]
      · exact hid
      · exact fun hp => hp.elim Phase.noConfusion Phase.noConfusion
      · exact hsynced
      · exact hnext1
    -- the engine reports the end of the staged update
    obtain ⟨r, hr, hname⟩ := h.resolve_left fun he => hid (hstaged.trans he)
    have hfilter : root.filter (fun r => w1.row.stagedUpdateID ≠ "" &&
        r.updateID = w1.row.stagedUpdateID) = some r := by
      rw [hr]
      simp [Option.filter, hid, hname.trans hstaged.symm]
    rw [hfilter]
    refine wp_post ?_ (okay_reconcileRoot (hw1.row hrow) (hroot r hr))
    rintro a w3 ⟨result, error, ha, hw3, hrow3⟩
    rw [hrow] at hrow3
    refine ⟨⟨_, ha⟩, hw3, hw3.sound, ?_, ?_, ?_, ?_⟩ <;> rw [hrow3]
    · rfl
    · show ¬ ((if error = "" then Phase.succeeded else Phase.failed) = _ ∨
        (if error = "" then Phase.succeeded else Phase.failed) = _)
      split <;> exact fun hp => hp.elim Phase.noConfusion Phase.noConfusion
    · exact hsynced
    · exact nextRegularCheck_due hw1.sound.counters.1 hdue
  · rintro a w3 ⟨⟨s, ha⟩, hw3, hs3⟩
    obtain rfl := Except.ok.inj ha
    exact .inr ⟨hw3, hs3⟩

theorem okay_leased_second (hw : Owned sch w) (hc : Calm policy root w) (hp : policy.valid)
    (hcheck : policy.automaticCheckEnabled) (h : Settled policy now w) :
    Okay (leased sch now) (fun _ => Checked) w := by
  refine okay_call ?_
  have hpolicy : (exec .getPolicy .ok w).1 = .ok policy := by
    show readPolicy w = _
    simp [readPolicy, hc.policy, hp]
  rw [hpolicy]
  refine wp_attempt (R := fun r w' => r = .ok w'.row ∧ w'.row = w.row ∧ w'.input = w.input) ?_
    (fun e t ht => by simp at ht) ?_
  · refine okay_call ?_
    have hread : (exec .getStatus .ok (exec .getPolicy .ok w).2).1 = .ok w.row := by
      show readStatus w.tick = _
      simp [readStatus, World.tick, hw.sound.valid]
    rw [hread]
    show Okay (if _ then _ else _) _ _
    rw [if_pos h.synced]
    exact ⟨rfl, rfl, rfl⟩
  rintro status w1 ⟨hstatus, hrow, hinput⟩
  obtain rfl := Except.ok.inj hstatus
  refine wp_post (fun _ t ht => ?_)
    (Settled.okay_rest (hw.row hrow) (hc.input hinput) hcheck (h.row hrow))
  refine ht.resolve_right fun hlate => ?_
  rw [(h.row hrow).next] at hlate
  exact Bool.noConfusion hlate.1

end

/-! ## the lease around a cycle -/

theorem validOwner_length {owner : String} (h : validOwner owner) :
    byteLength owner ≤ 64 ∧ owner ≠ "" := by
  simp only [validOwner, Bool.and_eq_true, decide_eq_true_eq] at h
  refine ⟨by omega, ?_⟩
  rintro rfl
  exact absurd h.1 (by decide)

theorem Sound.lease (h : Sound s) {owner : String} {expires : Option Time}
    (hpair : (owner = "") = (expires = none)) (hlength : byteLength owner ≤ 64) (now : Time) :
    Sound { s with leaseOwner := owner, leaseExpiresAt := expires, updatedAt := now } := by
  obtain ⟨h1, h2, -, h4, h5⟩ := (Status.valid_iff s).1 h.valid
  exact ⟨(Status.valid_iff _).2 ⟨h1, h2, ⟨hpair, hlength⟩, h4, h5⟩, h.fits⟩

theorem sound_exec (o : Op) (f : Fate) (h : Sound w.row) : Sound (exec o f w).2.row := by
  cases o with
  | updateOwned owner mutate =>
    have heffect : Sound (updateEffect w owner mutate).2.row := by
      unfold updateEffect readStatus
      rw [if_pos h.valid]
      split
      · exact h
      dsimp only
      split
      · exact h
      split
      · exact h
      rename_i s _
      split
      · exact h
      rename_i hv
      split
      · exact h
      rename_i hf
      show Sound (w.store s).tick.row
      exact ⟨by simpa using hv, by simpa using hf⟩
    cases f with
    | fail => exact h
    | ok | late => exact heffect
  | acquire owner now =>
    have heffect : Sound (acquireEffect w owner now).2.row := by
      unfold acquireEffect
      split
      · exact h
      rename_i hv
      obtain ⟨hlength, hne⟩ := validOwner_length (by simpa using hv)
      split
      · exact h.lease (by simp [hne]) hlength now
      · exact h
    cases f with
    | fail => exact h
    | ok | late => exact heffect
  | release owner now =>
    have heffect : Sound (releaseEffect w owner now).2.row := by
      unfold releaseEffect
      split
      · exact h
      split
      · exact h.lease (by simp) (by decide) now
      · exact h
    cases f with
    | fail => exact h
    | ok | late => exact heffect
  | updateStatus =>
    show Sound (noteReport w).row
    rw [noteReport_row]
    exact h
  | getPolicy | getStatus => cases f <;> exact h
  | _ => exact h

theorem sound_cycle (h : Sound w.row) (t : Turn) : Sound (cycle w t).row := by
  have hstep : ∀ (o : Op) (f : Fate) (s : World), True → Sound s.row → Sound (exec o f s).2.row :=
    fun o f s _ hs => sound_exec o f hs
  have hkept : wp exec (fun _ => True) (fun w : World => Sound w.row) (runOnce t.scheduler)
      (fun _ w => Sound w.row) (w.enter t.input) :=
    @wp_kept Op Op.Ret _ World exec (fun _ => True) (fun w => Sound w.row) hstep _ _ h
  exact @wp_run_state Op Op.Ret _ World exec (fun _ => True) (fun w => Sound w.row) _ _ hkept _
    fun _ _ => trivial

def Reachable (w : World) : Prop :=
  ∃ start input, ∃ past : List Turn,
    w = { past.foldl cycle { row := initialStatus start, input } with calls := [] }

theorem sound_initial (start : Time) : Sound (initialStatus start) := by
  have h : Sound (initialStatus 0) := ⟨by decide +kernel, by decide +kernel⟩
  exact ⟨h.valid, h.fits⟩

theorem Reachable.sound (h : Reachable w) : Sound w.row := by
  obtain ⟨start, input, past, rfl⟩ := h
  have hrun : ∀ (ts : List Turn) (w : World), Sound w.row → Sound (ts.foldl cycle w).row := by
    intro ts
    induction ts with
    | nil => exact fun _ h => h
    | cons t ts ih => exact fun w h => ih _ (sound_cycle h t)
  exact hrun past _ (sound_initial start)

theorem Reachable.unchecked (h : Reachable w) : ¬ Checked w := by
  obtain ⟨start, input, past, rfl⟩ := h
  rintro ⟨c, hc⟩
  exact not_mem_nil hc

def Free (row : Status) (now : Time) : Prop :=
  ∀ expires, row.leaseExpiresAt = some expires → leaseExpired expires now

theorem acquire_free (hv : validOwner sch.owner) (hs : Sound w.row) (hfree : Free w.row now) :
    acquireEffect w sch.owner now = (.ok true, { w with row := { w.row with
      leaseOwner := sch.owner, leaseExpiresAt := some (now + leaseDuration), updatedAt := now } }) := by
  obtain ⟨hlength, hne⟩ := validOwner_length hv
  have hpair : (sch.owner = "") = (some (now + leaseDuration) = none) := by simp [hne]
  have hvalid := (hs.lease hpair hlength now).valid
  have hopen : w.row.leaseOwner = "" || w.row.leaseOwner = sch.owner ||
      w.row.leaseExpiresAt.any (leaseExpired · now) := by
    cases he : w.row.leaseExpiresAt with
    | none =>
      have hpair := ((Status.valid_iff w.row).1 hs.valid).2.2.1.1
      simp [he] at hpair
      simp [hpair]
    | some expires => simp [hfree expires he]
  unfold acquireEffect
  rw [if_neg (by simp [hv]), if_pos hopen]
  simp [readStatus, hvalid, Except.map]

theorem cycle_of_leased {t : Turn} {R : World → Prop} (ht : Quiet policy root t) (hs : Sound w.row)
    (hfree : Free w.row (t.input.clock 0)) (hf : Finishes w t)
    (hleased : ∀ w', Owned t.scheduler w' → Calm policy root w' → w'.row = { w.row with
        leaseOwner := t.scheduler.owner
        leaseExpiresAt := some (t.input.clock 0 + leaseDuration)
        updatedAt := t.input.clock 0 } →
      Okay (leased t.scheduler (t.input.clock 0)) (fun _ w₁ => Okay
        (.call .now fun (released : Time) => .call (.release t.scheduler.owner released) fun _ =>
          .done ()) (fun _ => R) w₁) w') : R (cycle w t) := by
  have hwp : Okay (runOnce t.scheduler) (fun _ => R) (w.enter t.input) := by
    unfold runOnce
    rw [if_neg (by simp [ht.owner])]
    refine okay_call (okay_call ?_)
    have heffect := acquire_free (w := (w.enter t.input).tick) ht.owner hs hfree
    show Okay (acquired t.scheduler (t.input.clock 0)
      (acquireEffect (w.enter t.input).tick t.scheduler.owner (t.input.clock 0)).1) _
      (acquireEffect (w.enter t.input).tick t.scheduler.owner (t.input.clock 0)).2.tick
    rw [heffect]
    refine wp_bind.2 (wp_post ?_ (hleased _ ⟨ht.owner, ?_, rfl⟩
      ⟨ht.policy, ht.root, ht.stager, ht.maintenance⟩ rfl))
    · intro r w₁ h1
      exact h1
    · obtain ⟨hlength, hne⟩ := validOwner_length ht.owner
      exact hs.lease (by simp [hne]) hlength _
  obtain ⟨hdone, -⟩ := wp_sound hwp ht.fates
  cases hr : (run exec (runOnce t.scheduler) t.fates (w.enter t.input)).result with
  | none => exact (hf hr).elim
  | some a => exact hdone a hr

theorem Settled.okay_release (hw : Owned sch w) (h : Settled policy due w) :
    Okay (.call .now fun (released : Time) => .call (.release sch.owner released) fun _ =>
      (.done () : Prog Unit)) (fun _ w' => Settled policy due w' ∧ w'.row.leaseExpiresAt = none) w := by
  refine okay_call (okay_call ?_)
  have heffect : ∀ released, releaseEffect w.tick sch.owner released = (.ok (), { w.tick with
      row := { w.row with leaseOwner := "", leaseExpiresAt := none, updatedAt := released } }) := by
    intro released
    unfold releaseEffect
    rw [if_neg (by simp [hw.valid]), if_pos (show w.tick.row.leaseOwner = sch.owner from hw.owner)]
    rfl
  show Settled policy due (releaseEffect w.tick sch.owner (w.input.clock w.position)).2.tick ∧
    (releaseEffect w.tick sch.owner (w.input.clock w.position)).2.row.leaseExpiresAt = none
  rw [heffect (w.input.clock w.position)]
  exact ⟨⟨h.sound.lease (by simp) (by decide) _, h.staged, h.phase, h.synced, h.next⟩, rfl⟩

theorem checked_cycle (h : Checked w) (t : Turn) : Checked (cycle w t) := by
  refine wp_run_state (wp_kept ?_ _ (s := w.enter t.input) h)
    fun _ _ => trivial
  rintro o f s - ⟨c, hc⟩
  obtain ⟨new, hnew⟩ := exec_calls o f s
  exact ⟨c, by rw [hnew]; exact mem_append_right _ hc⟩

/-- **In quiet surroundings two cycles that are far enough apart reach a check exactly when the row
names no staged update, or one that the engine reports**, and otherwise no number of cycles does. -/
theorem check_reached_iff {policy : Policy} {root : Option RootStatus} {w : World} {t₁ t₂ : Turn}
    (hw : Reachable w) (hp : policy.valid) (hcheck : policy.automaticCheckEnabled)
    (hroot : Inactive root) (h₁ : Quiet policy root t₁) (h₂ : Quiet policy root t₂)
    (ht : Timely policy w t₁ t₂) (hf₁ : Finishes w t₁) (hf₂ : Finishes (cycle w t₁) t₂) :
    (Checked ([t₁, t₂].foldl cycle w) ↔ Resolved root w.row) ∧
      (¬ Resolved root w.row → ∀ ts : List Turn, (∀ t ∈ ts, Quiet policy root t) →
        ¬ Checked (ts.foldl cycle w)) := by
  refine ⟨⟨?_, ?_⟩, fun hres ts hts => stranded_run hres hw.unchecked hts⟩
  · intro hchecked
    by_contra hres
    have hquiet : ∀ t ∈ [t₁, t₂], Quiet policy root t := by
      intro t hmem
      rcases mem_pair.1 hmem with rfl | rfl
      · exact h₁
      · exact h₂
    exact stranded_run hres hw.unchecked hquiet hchecked
  intro hres
  have hfirst : Checked (cycle w t₁) ∨ Settled policy (t₂.input.clock 0) (cycle w t₁) ∧
      (cycle w t₁).row.leaseExpiresAt = none := by
    refine cycle_of_leased (R := fun w' => Checked w' ∨ Settled policy (t₂.input.clock 0) w' ∧
      w'.row.leaseExpiresAt = none) h₁ hw.sound ht.lease hf₁ fun w' hw' hc' hrow => ?_
    refine wp_post (fun _ w1 h => ?_) (okay_leased_first hw' hc' hroot hp hcheck
      (by rw [hrow]; exact hres) (by rw [hrow]; exact ht.next) ht.apart)
    rcases h with h | ⟨howned, hsettled⟩
    · exact wp_post (fun _ _ h => .inl h) (h.okay _)
    · exact wp_post (fun _ _ h => .inr h) (hsettled.okay_release howned)
  rcases hfirst with h | ⟨hsettled, hlease⟩
  · exact checked_cycle h t₂
  refine cycle_of_leased h₂ hsettled.sound (fun e he => by simp [hlease] at he) hf₂
    fun w' hw' hc' hrow => ?_
  have hsettled' : Settled policy (t₂.input.clock 0) w' := by
    refine ⟨hw'.sound, ?_, ?_, ?_, ?_⟩
    · rw [hrow]; exact hsettled.staged
    · rw [hrow]; exact hsettled.phase
    · rw [hrow]; exact hsettled.synced
    · rw [hrow]; exact hsettled.next
  exact wp_post (fun _ w1 h => h.okay _)
    (okay_leased_second hw' hc' hp hcheck hsettled')

def quietTurn (h : Nat) : Turn := fullTurn { sampleInput h with stager := .ok none }

theorem quiet_quietTurn (h : Nat) : Quiet samplePolicy none (quietTurn h) :=
  ⟨(by decide +kernel : validOwner sampleScheduler.owner = true), fun _ => rfl, rfl, rfl,
    fun _ => ⟨_, rfl, rfl⟩, fun f hf => eq_of_mem_replicate hf⟩

theorem check_reached_first :
    Checked ([quietTurn 1, quietTurn 40].foldl cycle sampleWorld) := by
  have htimely : Timely samplePolicy sampleWorld (quietTurn 1) (quietTurn 40) :=
    ⟨(nofun), rfl, by decide +kernel⟩
  have hfirst : Finishes sampleWorld (quietTurn 1) := by unfold Finishes; decide +kernel
  have hsecond : Finishes (cycle sampleWorld (quietTurn 1)) (quietTurn 40) := by
    unfold Finishes; decide +kernel
  exact (check_reached_iff ⟨1000 * day, sampleInput 0, [], rfl⟩ (by decide +kernel) rfl
    (fun _ h => by cases h) (quiet_quietTurn 1) (quiet_quietTurn 40) htimely hfirst hsecond).1.2
    (.inl rfl)

/-- an update was staged automatically and its application deferred; then it is discarded -/
def strandedWorld : World :=
  { cycle sampleWorld (fullTurn { sampleInput 1 with readiness := .ok "NOT_READY" }) with
    calls := [] }

/-- no number of quiet cycles, at whatever times, comes to a check -/
theorem stranded_forever :
    Reachable strandedWorld ∧ samplePolicy.valid ∧ samplePolicy.automaticCheckEnabled ∧
      ∀ ts : List Turn, (∀ t ∈ ts, Quiet samplePolicy none t) →
        ¬ Checked (ts.foldl cycle strandedWorld) := by
  refine ⟨⟨1000 * day, sampleInput 0, [_], rfl⟩, by decide +kernel, rfl, fun ts hts => ?_⟩
  have hstaged : strandedWorld.row.stagedUpdateID ≠ "" := by decide +kernel
  refine stranded_run ?_ (fun ⟨c, hc⟩ => not_mem_nil hc) hts
  rintro (h | ⟨r, hr, -⟩)
  · exact hstaged h
  · exact nomatch hr

end GatewayVpn.Automation
