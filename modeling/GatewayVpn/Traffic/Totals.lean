import GatewayVpn.Traffic.Collector

/-!
# No byte is counted twice

The totals never exceed what the kernel counted since the epoch of the first checkpoint began, in
every run in which the table is not created again between the two reads of a snapshot and no day
reaches 2⁶³ bytes.
-/

namespace GatewayVpn.Traffic

open Durable

variable {k : Kernel} {w w' : World}

/-! ## the totals -/

theorem sqlSum_le {a b : Nat} (h : sqlSum a b < 2 ^ 63) : sqlSum a b ≤ a + b := by
  by_cases hsum : a + b < 2 ^ 63
  · rw [sqlSum, if_pos hsum]
  · omega

theorem sum_addDaily {d : DailyTotal} {rows : List DailyTotal} {c : Counter}
    (h : ∀ r ∈ addDaily d rows, r.nft c < 2 ^ 63) :
    ((addDaily d rows).map fun r => r.nft c).sum ≤ (rows.map fun r => r.nft c).sum + d.nft c := by
  induction rows with
  | nil => simp [addDaily]
  | cons r rows ih =>
    unfold addDaily at h ⊢
    split
    · next hdate =>
      rw [if_pos hdate] at h
      have hle := sqlSum_le (h _ List.mem_cons_self)
      simp only [List.map_cons, List.sum_cons]
      omega
    · next hdate =>
      rw [if_neg hdate] at h
      have hle := ih fun r' hr' => h r' (List.mem_cons_of_mem r hr')
      simp only [List.map_cons, List.sum_cons]
      omega

variable {s : AuthoritativeSnapshot} {r : CheckpointResult} {i : Input}

theorem checkpoint_ok {db db' : Database}
    (h : Collector.checkpoint db (i.sample s) = .ok (r, db')) :
    (∀ c, db'.settings.lastNFT c = some (s.counters c)) ∧ db'.settings.lastBootID = some s.bootID ∧
      db'.settings.lastFirewallGeneration = some s.firewallGeneration ∧
      ∀ c, (∀ d ∈ db'.daily, d.nft c < 2 ^ 63) →
        (db'.daily.map fun d => d.nft c).sum ≤ (db.daily.map fun d => d.nft c).sum +
          (delta (s.counters c) ((db.settings.lastNFT c).getD 0)
            (db.settings.sameGeneration s.bootID s.firewallGeneration)).1 := by
  unfold Collector.checkpoint at h
  split at h
  · cases h
  dsimp only at h
  split at h
  · cases h
  cases h
  exact ⟨fun _ => rfl, rfl, rfl, fun c => sum_addDaily⟩

/-! ## the invariant -/

/-- the values stored last are `v`, counted in the epoch `last`; a snapshot that waits to be stored
was not taken before them -/
structure Booked (k : Kernel) (w : World) (o last : Nat) (v : Counters) : Prop where
  first : o ≤ last
  past : last ≤ w.epoch
  nft : ∀ c, w.db.settings.lastNFT c = some (v c)
  bootID : w.db.settings.lastBootID = some (k.bootID last)
  generation : w.db.settings.lastFirewallGeneration = some (k.handle last)
  counted : ∀ c, v c ≤ w.bytes last c
  added : ∀ c, w.added c ≤ ∑ e ∈ Finset.Ico o last, w.bytes e c + v c
  waiting : ∀ s, w.reader = .snapshot s → last ≤ w.opened ∧
    (last = w.opened → ∀ c, v c ≤ s.counters c)

structure Sound (k : Kernel) (w : World) : Prop where
  empty : w.origin = none → w.db.settings = {} ∧ ∀ c, w.added c = 0
  booked : ∀ o, w.origin = some o → ∃ last v, Booked k w o last v
  generation : ∀ b g, w.reader = .generation b g →
    w.opened = w.epoch ∧ b = k.bootID w.opened ∧ g = k.handle w.opened
  snapshot : ∀ s, w.reader = .snapshot s → w.opened ≤ w.epoch ∧ s.bootID = k.bootID w.opened ∧
    s.firewallGeneration = k.handle w.opened ∧ ∀ c, s.counters c ≤ w.bytes w.opened c

/-- the kernel counts on, the table is created again, or the reader gives up -/
structure Later (w w' : World) : Prop where
  db : w'.db = w.db
  origin : w'.origin = w.origin
  opened : w'.opened = w.opened
  epoch : w.epoch ≤ w'.epoch
  bytes : ∀ e ≤ w.epoch, ∀ c, w.bytes e c ≤ w'.bytes e c
  reader : w'.reader = .idle ∨ w'.reader = w.reader
  steady : ∀ b g, w'.reader = .generation b g → w'.epoch = w.epoch

variable {v : Counters}

theorem Booked.later {o last : Nat} (h : Booked k w o last v) (hw : Later w w') :
    Booked k w' o last v where
  first := h.first
  past := h.past.trans hw.epoch
  nft := by rw [hw.db]; exact h.nft
  bootID := by rw [hw.db]; exact h.bootID
  generation := by rw [hw.db]; exact h.generation
  counted c := (h.counted c).trans (hw.bytes last h.past c)
  added c := by
    have hsum : ∑ e ∈ Finset.Ico o last, w.bytes e c ≤ ∑ e ∈ Finset.Ico o last, w'.bytes e c :=
      Finset.sum_le_sum fun e he =>
        hw.bytes e ((Finset.mem_Ico.1 he).2.le.trans h.past) c
    have hadded := h.added c
    unfold World.added at hadded ⊢
    rw [hw.db]
    omega
  waiting s hs := by
    rcases hw.reader with hr | hr
    · rw [hr] at hs
      cases hs
    · rw [hw.opened]
      exact h.waiting s (hr ▸ hs)

theorem Sound.later (h : Sound k w) (hw : Later w w') : Sound k w' where
  empty ho := by
    obtain ⟨hdb, hadded⟩ := h.empty (hw.origin ▸ ho)
    refine ⟨hw.db ▸ hdb, fun c => ?_⟩
    rw [World.added, hw.db]
    exact hadded c
  booked o ho := by
    obtain ⟨last, v, hb⟩ := h.booked o (hw.origin ▸ ho)
    exact ⟨last, v, hb.later hw⟩
  generation b g hr := by
    rcases hw.reader with hidle | hsame
    · rw [hidle] at hr
      cases hr
    · rw [hw.opened, hw.steady b g hr]
      exact h.generation b g (hsame ▸ hr)
  snapshot s hr := by
    rcases hw.reader with hidle | hsame
    · rw [hidle] at hr
      cases hr
    obtain ⟨hopened, hboot, hgeneration, hcounters⟩ := h.snapshot s (hsame ▸ hr)
    rw [hw.opened]
    exact ⟨hopened.trans hw.epoch, hboot, hgeneration,
      fun c => (hcounters c).trans (hw.bytes _ hopened c)⟩

theorem later_idle (w : World) : Later w { w with reader := .idle } :=
  ⟨rfl, rfl, rfl, le_rfl, fun _ _ _ => le_rfl, .inl rfl, nofun⟩

theorem bytes_recreate (w : World) {e : Nat} (he : e ≤ w.epoch) : w.recreate.bytes e = w.bytes e :=
  Function.update_of_ne (by omega) _ _

/-! ## a committed checkpoint -/

/-- the stored values belong to the epoch of the snapshot exactly when the generation is the same -/
theorem Booked.sameGeneration {o last e : Nat} (h : Booked k w o last v) :
    w.db.settings.sameGeneration (k.bootID e) (k.handle e) = decide (last = e) := by
  rw [Bool.eq_iff_iff]
  simp only [Settings.sameGeneration, Counter.all, h.nft, h.bootID, h.generation, List.all_cons,
    List.all_nil, Option.isSome_some, Bool.and_true, Bool.true_and, Bool.and_eq_true,
    decide_eq_true_eq, Option.some.injEq]
  constructor
  · rintro ⟨hboot, hhandle⟩
    exact k.injective _ _ hboot hhandle
  · rintro rfl
    exact ⟨rfl, rfl⟩

/-- **A checkpoint adds no byte that was added before**: it adds the growth within one epoch, or the
counters of a new one. -/
theorem Booked.checkpoint {o last : Nat}
    {db : Database} (h : Booked k w o last v) (hsound : Sound k w) (hs : w.reader = .snapshot s)
    (hok : Collector.checkpoint w.db (i.sample s) = .ok (r, db)) {c : Counter}
    (hsmall : ∀ d ∈ db.daily, d.nft c < 2 ^ 63) : (db.daily.map fun d => d.nft c).sum ≤
      ∑ e ∈ Finset.Ico o w.opened, w.bytes e c + s.counters c := by
  obtain ⟨-, hboot, hgeneration, -⟩ := hsound.snapshot s hs
  obtain ⟨hlast, hsame⟩ := h.waiting s hs
  have hadded := h.added c
  rw [World.added] at hadded
  have hgrowth := (checkpoint_ok hok).2.2.2 c hsmall
  rw [h.nft, hboot, hgeneration, h.sameGeneration] at hgrowth
  rcases hlast.eq_or_lt with rfl | hlt
  · have hgrown := hsame rfl c
    simp only [delta, decide_true, Bool.not_true, Bool.false_eq_true, if_false, Option.getD_some,
      if_pos hgrown] at hgrowth
    omega
  simp only [delta, decide_eq_false hlt.ne, Bool.not_false, if_true] at hgrowth
  -- the epoch `last` is over, and its bytes cover the values stored last
  have hsplit := Finset.sum_Ico_consecutive (fun e => w.bytes e c) h.first hlast
  have hcovered : w.bytes last c ≤ ∑ e ∈ Finset.Ico last w.opened, w.bytes e c :=
    Finset.single_le_sum (f := fun e => w.bytes e c) (fun _ _ => Nat.zero_le _)
      (Finset.mem_Ico.2 ⟨le_rfl, hlt⟩)
  have hcounted := h.counted c
  omega

theorem delta_first (n : Nat) : delta n 0 false = (n, false) := rfl

theorem Sound.checkpoint {db : Database} (h : Sound k w) (hs : w.reader = .snapshot s)
    (hok : Collector.checkpoint w.db (i.sample s) = .ok (r, db))
    (hsmall : ∀ d ∈ db.daily, ∀ c, d.nft c < 2 ^ 63) :
    Sound k { w with reader := .idle, db, origin := w.origin.or (some w.opened) } := by
  obtain ⟨hepoch, hboot, hgeneration, hcounters⟩ := h.snapshot s hs
  obtain ⟨hnft, hbootID, hstored, hadded⟩ := checkpoint_ok hok
  refine ⟨fun ho => ?_, fun o ho => ⟨w.opened, s.counters, ?_⟩, nofun,
    nofun⟩
  · cases horigin : w.origin <;> simp [horigin] at ho
  have hold : o ≤ w.opened ∧ ∀ c, (db.daily.map fun d => d.nft c).sum ≤
      ∑ e ∈ Finset.Ico o w.opened, w.bytes e c + s.counters c := by
    cases horigin : w.origin with
    | none =>
      obtain ⟨hdb, hzero⟩ := h.empty horigin
      obtain rfl : w.opened = o := by simpa [horigin] using ho
      refine ⟨le_rfl, fun c => ?_⟩
      have hzero := hzero c
      rw [World.added] at hzero
      refine (hadded c fun d hd => hsmall d hd c).trans ?_
      rw [hzero, hdb]
      simp [Settings.sameGeneration, Counter.all, delta_first]
    | some o' =>
    obtain rfl : o' = o := by simpa [horigin] using ho
    obtain ⟨last, v, hb⟩ := h.booked o' horigin
    exact ⟨hb.first.trans (hb.waiting s hs).1,
      fun c => hb.checkpoint h hs hok fun d hd => hsmall d hd c⟩
  exact ⟨hold.1, hepoch, hnft, hboot ▸ hbootID, hgeneration ▸ hstored, hcounters, hold.2,
    nofun⟩

/-! ## runs -/

/-- the table is not created again between the two reads of a snapshot, and no day reaches 2⁶³
bytes -/
structure Steady (k : Kernel) (w : World) (t : Turn) : Prop where
  table : t = .recreate → ∀ b g, w.reader ≠ .generation b g
  small : ∀ d ∈ (step k w t).db.daily, ∀ c, d.nft c < 2 ^ 63

def SteadyRun (k : Kernel) : World → List Turn → Prop
  | _, [] => True
  | w, t :: ts => Steady k w t ∧ SteadyRun k (step k w t) ts

theorem step_sound (h : Sound k w) {t : Turn} (ht : Steady k w t) : Sound k (step k w t) := by
  have hidle := h.later (later_idle w)
  cases t with
  | grow by_ =>
    refine h.later ⟨rfl, rfl, rfl, le_rfl, fun e _ c => ?_, .inr rfl, fun _ _ _ => rfl⟩
    by_cases he : e = w.epoch
    · subst he
      simp [step]
    · simp [step, Function.update_of_ne he]
  | recreate =>
    refine h.later ⟨rfl, rfl, rfl, Nat.le_succ _, fun e he c => ?_, .inr rfl,
      fun b g hr => absurd hr (ht.table rfl b g)⟩
    exact (congrFun (bytes_recreate w he) c).ge
  | reboot =>
    refine h.later ⟨rfl, rfl, rfl, Nat.le_succ _, fun e he c => ?_, .inl rfl,
      nofun⟩
    exact (congrFun (bytes_recreate w he) c).ge
  | readGeneration =>
    dsimp only [step, World.readGeneration]
    split
    · exact hidle
    next b g hread =>
    split at hread
    · cases hread
    split at hread
    · cases hread
    cases hread
    refine ⟨hidle.empty, fun o ho => ?_, fun b g hr => ?_, nofun⟩
    · obtain ⟨last, v, hb⟩ := hidle.booked o ho
      exact ⟨last, v, { hb with waiting := fun s hr => by cases hr }⟩
    · cases hr
      exact ⟨rfl, rfl, rfl⟩
  | readCounters =>
    dsimp only [step, World.readNFTCounters]
    split
    · next b g counters hr hread =>
      split at hread
      · cases hread
      cases hread
      obtain ⟨hopened, rfl, rfl⟩ := h.generation _ _ hr
      refine ⟨hidle.empty, fun o ho => ?_, nofun, fun s hr => ?_⟩
      · obtain ⟨last, v, hb⟩ := hidle.booked o ho
        refine ⟨last, v, { hb with waiting := fun s hr => ?_ }⟩
        cases hr
        exact ⟨hb.past.trans hopened.ge, fun hl c => hopened ▸ hl ▸ hb.counted c⟩
      · cases hr
        exact ⟨hopened.le, rfl, rfl, fun c => by rw [hopened]⟩
    · exact hidle
  | checkpoint i f =>
    have hsmall := ht.small
    dsimp only [step] at hsmall ⊢
    split
    · next s hs =>
      split
      · exact hidle
      next r db hok =>
      split
      · exact hidle
      next hf =>
      refine h.checkpoint hs hok ?_
      simpa [hs, hok, hf] using hsmall
    · exact hidle
  | abandon => exact hidle

theorem sound_fresh (k : Kernel) : Sound k {} where
  empty _ := ⟨rfl, fun _ => rfl⟩
  booked _ ho := by cases ho
  generation _ _ hr := by cases hr
  snapshot _ hr := by cases hr

theorem run_sound (turns : List Turn) (h : Sound k w) (hrun : SteadyRun k w turns) :
    Sound k (turns.foldl (step k) w) := by
  induction turns generalizing w with
  | nil => exact h
  | cons t turns ih => exact ih (step_sound h hrun.1) hrun.2

/-- **In a run that never creates the table again between the two reads of a snapshot and in which
no day reaches 2⁶³ bytes, the totals of each counter are covered by what the kernel counted since
the epoch of the first checkpoint began**, whatever else happens between the steps and whichever
checkpoints fail. -/
theorem no_byte_twice (k : Kernel) (turns : List Turn) (hrun : SteadyRun k {} turns) (c : Counter) :
    (turns.foldl (step k) {}).added c ≤ (turns.foldl (step k) {}).counted c := by
  have h := run_sound turns (sound_fresh k) hrun
  generalize turns.foldl (step k) {} = w at h ⊢
  cases horigin : w.origin with
  | none =>
    rw [(h.empty horigin).2 c]
    exact Nat.zero_le _
  | some o =>
  obtain ⟨last, v, hb⟩ := h.booked o horigin
  rw [World.counted, horigin]
  show w.added c ≤ ∑ e ∈ Finset.Ico o (w.epoch + 1), w.bytes e c
  calc w.added c ≤ ∑ e ∈ Finset.Ico o last, w.bytes e c + v c := hb.added c
    _ ≤ ∑ e ∈ Finset.Ico o last, w.bytes e c + w.bytes last c :=
      Nat.add_le_add_left (hb.counted c) _
    _ = ∑ e ∈ Finset.Ico o (last + 1), w.bytes e c :=
      (Finset.sum_Ico_succ_top hb.first _).symm
    _ ≤ ∑ e ∈ Finset.Ico o (w.epoch + 1), w.bytes e c :=
      Finset.sum_le_sum_of_subset
        (Finset.Ico_subset_Ico_right (Nat.add_le_add_right hb.past 1))

def sampleKernel : Kernel where
  bootID _ := "00000000-0000-0000-0000-000000000000"
  handle e := e + 1
  injective _ _ _ h := Nat.succ.inj h

def sampleCheckpoint : List Turn :=
  [.readCounters, .checkpoint
    { measuredAt := 0, sessionStartedAt := 0, sessionID := String.ofList (List.replicate 64 'a') }
    .ok]

/-- ten bytes are stored, and the table is created again before the next snapshot -/
def sampleSteady : List Turn :=
  [.grow fun _ => 10, .readGeneration] ++ sampleCheckpoint ++
    [.recreate, .grow fun _ => 20, .readGeneration] ++ sampleCheckpoint

theorem small_of_all {daily : List DailyTotal}
    (h : (daily.all fun d => Counter.all.all fun c => d.nft c < 2 ^ 63) = true) :
    ∀ d ∈ daily, ∀ c, d.nft c < 2 ^ 63 := by
  intro d hd c
  have hd := List.all_eq_true.mp (List.all_eq_true.mp h d hd) c (by cases c <;> simp [Counter.all])
  exact of_decide_eq_true hd

theorem no_byte_twice_recreated :
    SteadyRun sampleKernel {} sampleSteady ∧
      (sampleSteady.foldl (step sampleKernel) {}).added .upload ≤
        (sampleSteady.foldl (step sampleKernel) {}).counted .upload := by
  have hsteady : SteadyRun sampleKernel {} sampleSteady := by
    refine ⟨⟨?_, ?_⟩, ⟨?_, ?_⟩, ⟨?_, ?_⟩, ⟨?_, ?_⟩, ⟨?_, ?_⟩, ⟨?_, ?_⟩, ⟨?_, ?_⟩, ⟨?_, ?_⟩,
      ⟨?_, ?_⟩, trivial⟩
    all_goals first
      | exact small_of_all (by decide +kernel)
      | (intro h; cases h; done)
      | (intro _ _ _ h; cases h)
  exact ⟨hsteady, no_byte_twice sampleKernel sampleSteady hsteady .upload⟩

/-- **The table is created again between the two reads**: its twenty bytes are stored under the old
handle, and all of them are added once more under the new one. -/
theorem byte_counted_twice :
    ∃ turns : List Turn, (turns.foldl (step sampleKernel) {}).added .upload = 40 ∧
      (turns.foldl (step sampleKernel) {}).counted .upload = 30 :=
  ⟨[.grow fun _ => 10, .readGeneration] ++ sampleCheckpoint ++
      [.readGeneration, .recreate, .grow fun _ => 20] ++ sampleCheckpoint ++
      [.readGeneration] ++ sampleCheckpoint, by decide +kernel, by decide +kernel⟩

end GatewayVpn.Traffic
