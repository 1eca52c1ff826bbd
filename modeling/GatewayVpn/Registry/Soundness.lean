import GatewayVpn.Registry.Methods

/-!
# Subscriptions and access methods: sound databases

The two tables stay in step, and a new row or a row that is switched on finds its priorities free,
with one exception.  The method of a subscription that is switched on again gets a new priority,
while the subscription keeps the one it had when it was switched off.  That priority may have been
given away since.
-/

namespace GatewayVpn.Registry

open Durable List Relation

/-! ## entries -/

variable {s : Subscription}

@[simp] theorem mem_subscription_entries {e : SubscriptionEntry} :
    e ∈ subscriptions.entries s ↔ e = .rowid s.rowid ∨ e = .displayNumber s.displayNumber ∨
      s.enabled = true ∧ e = .priority s.priority := by
  show e ∈ SubscriptionEntry.rowid s.rowid :: .displayNumber s.displayNumber ::
    (if s.enabled then [.priority s.priority] else []) ↔ _
  cases s.enabled <;> simp

variable {m : Method}

@[simp] theorem mem_method_entries {e : MethodEntry} :
    e ∈ accessMethods.entries m ↔ (∃ id, m.subscriptionID = some id ∧ e = .subscription id) ∨
      m.kind = .direct ∧ e = .direct ∨ m.enabled = true ∧ e = .priority m.priority := by
  show e ∈ (m.subscriptionID.map MethodEntry.subscription).toList ++
    ((if m.kind = .direct then [.direct] else []) ++
      if m.enabled then [.priority m.priority] else []) ↔ _
  rw [mem_append, mem_append]
  cases m.subscriptionID <;> cases m.kind <;> cases m.enabled <;> simp

theorem method_check : accessMethods.check m = true ↔ 0 < m.priority ∧
    (m.kind = .direct ∧ m.subscriptionID = none ∧ m.immutable = true ∨
      m.kind = .subscription ∧ m.subscriptionID.isSome ∧ m.immutable = false) := by
  simp [accessMethods, and_assoc]

theorem check_of_priority {m' : Method} (h : accessMethods.check m = true) (hp : 0 < m'.priority)
    (hk : m'.kind = m.kind) (hs : m'.subscriptionID = m.subscriptionID)
    (hi : m'.immutable = m.immutable) : accessMethods.check m' = true := by
  rw [method_check] at h ⊢
  rw [hk, hs, hi]
  exact ⟨hp, h.2⟩

def Fault.priorityTaken : Fault → Bool
  | .subscriptions (.entry (.priority _)) => true
  | .methods (.entry (.priority _)) => true
  | _ => false

/-! ## the ceiling -/

theorem le_ceiling {ps : List Int} {p : Int} (hp : p ∈ ps) : p ≤ ceiling ps := by
  cases h : ps.max? with
  | none =>
    rw [max?_eq_none_iff.mp h] at hp
    cases hp
  | some m =>
  rw [ceiling, h]
  exact (max?_eq_some_iff.mp h).2 p hp

theorem ceiling_ind {P : Int → Prop} {ps : List Int} (h0 : P 0) (h : ∀ p ∈ ps, P p) :
    P (ceiling ps) := by
  cases hm : ps.max? with
  | none =>
    rw [ceiling, hm]
    exact h0
  | some m =>
  rw [ceiling, hm]
  exact h m (max?_eq_some_iff.mp hm).1

/-! ## sound databases -/

structure Sound (db : Database) : Prop where
  owner : ∀ s ∈ db.subscriptions.rows, ∃ m ∈ db.methods.rows,
    m.subscriptionID = some s.id ∧ m.enabled = s.enabled
  owned : ∀ m ∈ db.methods.rows, ∀ id, m.subscriptionID = some id →
    ∃ s ∈ db.subscriptions.rows, s.id = id ∧ m.enabled = s.enabled
  rowid : ∀ s ∈ db.subscriptions.rows, 0 < s.rowid
  positive : ∀ s ∈ db.subscriptions.rows, 0 < s.priority
  tens : ∀ m ∈ db.methods.rows, 10 ∣ m.priority
  named : ∀ m ∈ db.methods.rows, ∀ id, m.subscriptionID = some id →
    m.id = "access:subscription:" ++ id

def Taken (db : Database) (m : Method) : Prop :=
  ∃ s ∈ db.subscriptions.rows, m.subscriptionID = some s.id ∧
    ∃ s' ∈ db.subscriptions.rows, s'.enabled = true ∧ s'.priority = s.priority

def Collides (db : Database) : Operation → Prop
  | .setMethodEnabled id true => ∃ m ∈ db.methods.rows, m.id = id ∧ m.enabled = false ∧ Taken db m
  | _ => False

theorem sound_fresh (now : Time) : Sound (fresh now) where
  owner := nofun
  owned := fun m hm id h => by
    rw [show m = directMethod now from mem_singleton.mp hm] at h
    cases h
  rowid := nofun
  positive := nofun
  tens := fun m hm => by
    rw [show m = directMethod now from mem_singleton.mp hm]
    exact Int.dvd_refl 10
  named := fun m hm id h => by
    rw [show m = directMethod now from mem_singleton.mp hm] at h
    cases h

/-- the tables after a change of the flags by `flag` and of the priorities, row by row -/
structure Rewritten (flag : String → Bool → Bool) (db db' : Database) : Prop where
  subscriptions : ∃ g : Subscription → Subscription,
    db'.subscriptions.rows = db.subscriptions.rows.map g ∧
      ∀ s ∈ db.subscriptions.rows, (g s).id = s.id ∧ (g s).enabled = flag s.id s.enabled ∧
        (g s).rowid = s.rowid ∧ 0 < (g s).priority
  methods : ∃ g : Method → Method, db'.methods.rows = db.methods.rows.map g ∧
      ∀ m ∈ db.methods.rows, (g m).id = m.id ∧
        (∀ id, m.subscriptionID = some id → (g m).enabled = flag id m.enabled) ∧
        (g m).subscriptionID = m.subscriptionID ∧ 10 ∣ (g m).priority

theorem Sound.rewritten {flag : String → Bool → Bool} {db db' : Database} (h : Sound db)
    (hr : Rewritten flag db db') : Sound db' := by
  obtain ⟨gs, hrows, hgs⟩ := hr.subscriptions
  obtain ⟨gm, hmethods, hgm⟩ := hr.methods
  have hs : ∀ s' ∈ db'.subscriptions.rows, ∃ s ∈ db.subscriptions.rows, gs s = s' := by
    intro s' hs'
    rw [hrows] at hs'
    exact mem_map.mp hs'
  have hm : ∀ m' ∈ db'.methods.rows, ∃ m ∈ db.methods.rows, gm m = m' := by
    intro m' hm'
    rw [hmethods] at hm'
    exact mem_map.mp hm'
  refine ⟨?_, ?_, ?_, ?_, ?_, ?_⟩
  · intro s' hs'
    obtain ⟨s, hs, rfl⟩ := hs s' hs'
    obtain ⟨m, hm, hid, hen⟩ := h.owner s hs
    obtain ⟨-, hen', hid', -⟩ := hgm m hm
    refine ⟨gm m, by rw [hmethods]; exact mem_map_of_mem hm, ?_, ?_⟩
    · rw [hid', hid, (hgs s hs).1]
    · rw [hen' s.id hid, hen, (hgs s hs).2.1]
  · intro m' hm' id hid
    obtain ⟨m, hm, rfl⟩ := hm m' hm'
    rw [(hgm m hm).2.2.1] at hid
    obtain ⟨s, hs, rfl, hen⟩ := h.owned m hm id hid
    refine ⟨gs s, by rw [hrows]; exact mem_map_of_mem hs, (hgs s hs).1, ?_⟩
    rw [(hgm m hm).2.1 s.id hid, hen, (hgs s hs).2.1]
  · intro s' hs'
    obtain ⟨s, hs, rfl⟩ := hs s' hs'
    rw [(hgs s hs).2.2.1]
    exact h.rowid s hs
  · intro s' hs'
    obtain ⟨s, hs, rfl⟩ := hs s' hs'
    exact (hgs s hs).2.2.2
  · intro m' hm'
    obtain ⟨m, hm, rfl⟩ := hm m' hm'
    exact (hgm m hm).2.2.2
  · intro m' hm' id hid
    obtain ⟨m, hm, rfl⟩ := hm m' hm'
    rw [(hgm m hm).2.2.1] at hid
    rw [(hgm m hm).1]
    exact h.named m hm id hid

namespace Sound

variable {db : Database}

theorem nextPriority_pos (h : Sound db) : 0 < db.nextPriority := by
  have hceil : 0 ≤ ceiling (db.enabledSubscriptions.map Subscription.priority) := by
    refine ceiling_ind (Int.le_refl 0) fun p hp => ?_
    obtain ⟨s, hs, rfl⟩ := mem_map.mp hp
    exact (h.positive s (mem_filter.mp hs).1).le
  unfold Database.nextPriority
  omega

theorem lt_nextPriority (hs : s ∈ db.subscriptions.rows) (he : s.enabled = true) :
    s.priority < db.nextPriority := by
  have hmem : s.priority ∈ db.enabledSubscriptions.map Subscription.priority :=
    mem_map_of_mem (mem_filter.mpr ⟨hs, he⟩)
  have := le_ceiling hmem
  unfold Database.nextPriority
  omega

theorem method_pos (hm : m ∈ db.methods.rows) : 0 < m.priority :=
  (method_check.mp (db.methods.checked m hm)).1

theorem nextMethodPriority_pos : 0 < db.nextMethodPriority := by
  have hceil : 0 ≤ ceiling (db.enabledMethods.map Method.priority) := by
    refine ceiling_ind (Int.le_refl 0) fun p hp => ?_
    obtain ⟨m, hm, rfl⟩ := mem_map.mp hp
    exact (method_pos (mem_filter.mp hm).1).le
  unfold Database.nextMethodPriority
  omega

theorem nextMethodPriority_tens (h : Sound db) : 10 ∣ db.nextMethodPriority := by
  have hceil : 10 ∣ ceiling (db.enabledMethods.map Method.priority) := by
    refine ceiling_ind (Int.dvd_zero 10) fun p hp => ?_
    obtain ⟨m, hm, rfl⟩ := mem_map.mp hp
    exact h.tens m (mem_filter.mp hm).1
  exact Int.dvd_add hceil (Int.dvd_refl 10)

theorem lt_nextMethodPriority (hm : m ∈ db.methods.rows) (he : m.enabled = true) :
    m.priority < db.nextMethodPriority := by
  have hmem : m.priority ∈ db.enabledMethods.map Method.priority :=
    mem_map_of_mem (mem_filter.mpr ⟨hm, he⟩)
  have := le_ceiling hmem
  unfold Database.nextMethodPriority
  omega

end Sound

def Harmless (e : Fault) : Prop := e.priorityTaken = false

/-! ## switching a subscription on and off -/

def switch (id : String) (enabled : Bool) (id' : String) (b : Bool) : Bool :=
  if id' = id then enabled else b

section
variable {db : Database} {now : Time} {id : String} {enabled : Bool}

def written (now : Time) (enabled : Bool) (priority : Subscription → Int) (s : Subscription) :
    Subscription :=
  { s with enabled, priority := priority s, status := switchedStatus enabled, updatedAt := now }

theorem fits_written {priority : Subscription → Int}
    (hfree : enabled = true → ∀ s ∈ db.subscriptions.rows, s.id = id →
      ∀ s' ∈ db.subscriptions.rows, s'.enabled = true → s'.priority ≠ priority s) :
    db.subscriptions.Fits (fun s => s.id = id) (written now enabled priority) := by
  refine fits_of_one ?_ (fun _ _ _ => rfl) ?_
  · intro s hs s' hs' hp hp'
    rw [decide_eq_true_eq] at hp hp'
    exact db.subscriptions.eq_of_key hs hs' (hp.trans hp'.symm)
  intro s hs hp e he
  rw [mem_subscription_entries] at he
  rcases he with he | he | ⟨hen, he⟩
  · exact .inl (mem_subscription_entries.mpr (.inl he))
  · exact .inl (mem_subscription_entries.mpr (.inr (.inl he)))
  refine .inr fun s' hs' he' => ?_
  rw [he, mem_subscription_entries] at he'
  simp only [reduceCtorEq, false_or, SubscriptionEntry.priority.injEq] at he'
  exact hfree hen s hs (of_decide_eq_true hp) s' hs' he'.1 he'.2.symm

def writtenMethod (now : Time) (enabled : Bool) (priority : Int) (m : Method) : Method :=
  { m with enabled, priority, updatedAt := now }

theorem fits_writtenMethod {p : Method → Bool} {priority : Int}
    (hone : ∀ m ∈ db.methods.rows, ∀ m' ∈ db.methods.rows, p m = true → p m' = true → m = m')
    (hpos : 0 < priority)
    (hfree : enabled = true → ∀ m ∈ db.methods.rows, m.enabled = true → m.priority ≠ priority) :
    db.methods.Fits p (writtenMethod now enabled priority) := by
  refine fits_of_one hone ?_ ?_
  · exact fun m hm _ => check_of_priority (db.methods.checked m hm) hpos rfl rfl rfl
  intro m hm hp e he
  rw [mem_method_entries] at he
  rcases he with he | he | ⟨hen, he⟩
  · exact .inl (mem_method_entries.mpr (.inl he))
  · exact .inl (mem_method_entries.mpr (.inr (.inl he)))
  refine .inr fun m' hm' he' => ?_
  rw [he, mem_method_entries] at he'
  simp only [reduceCtorEq, and_false, exists_false, false_or, MethodEntry.priority.injEq] at he'
  exact hfree hen m' hm' he'.1 he'.2.symm

theorem one_ofSubscriptionID {m' : Method} (hm : m ∈ db.methods.rows) (hm' : m' ∈ db.methods.rows)
    (h : m.subscriptionID = some id) (h' : m'.subscriptionID = some id) : m = m' :=
  db.methods.eq_of_entry hm hm' (mem_method_entries.mpr (.inl ⟨id, h, rfl⟩))
    (mem_method_entries.mpr (.inl ⟨id, h', rfl⟩))

/-- the priority that an operation writes into a method is positive, and free when it is enabled -/
structure Fresh (db : Database) (enabled : Bool) (priority : Int) : Prop where
  pos : 0 < priority
  tens : 10 ∣ priority
  free : enabled = true → ∀ m ∈ db.methods.rows, m.enabled = true → m.priority ≠ priority

theorem Sound.fresh (h : Sound db) {m : Method} (hm : m ∈ db.methods.rows) :
    Fresh db enabled (if enabled then db.nextMethodPriority else m.priority) := by
  cases enabled with
  | true =>
    exact ⟨Sound.nextMethodPriority_pos, h.nextMethodPriority_tens,
      fun _ m' hm' he => (Sound.lt_nextMethodPriority hm' he).ne⟩
  | false => exact ⟨Sound.method_pos hm, h.tens m hm, nofun⟩

theorem Sound.switched (h : Sound db) {rows : Relation subscriptions}
    {methods : Relation accessMethods} {n : Int} {priority : Subscription → Int}
    (hpriority : ∀ s ∈ db.subscriptions.rows, 0 < priority s)
    (hrows : rows.rows = db.subscriptions.rows.map fun s =>
      if decide (s.id = id) = true then written now enabled priority s else s)
    {methodPriority : Int} (hfresh : Fresh db enabled methodPriority) {p : Method → Bool}
    (hp : ∀ m ∈ db.methods.rows, p m = true ↔ m.subscriptionID = some id)
    (hmethods : methods.rows = db.methods.rows.map fun m =>
      if p m = true then writtenMethod now enabled methodPriority m else m) :
    Sound { db with subscriptions := rows, methods, rankingGeneration := n } := by
  refine @Sound.rewritten (switch id enabled) _ _ h ⟨⟨_, hrows, ?_⟩, ⟨_, hmethods, ?_⟩⟩
  · intro s hs
    by_cases hid : s.id = id
    · simp [hid, written, switch, hpriority s hs]
    · simp [hid, switch, h.positive s hs]
  intro m hm
  by_cases hid : m.subscriptionID = some id
  · rw [if_pos ((hp m hm).mpr hid)]
    refine ⟨rfl, fun id' hid' => ?_, rfl, hfresh.tens⟩
    rw [hid, Option.some.injEq] at hid'
    simp [switch, hid', writtenMethod]
  rw [if_neg (fun hpm => hid ((hp m hm).mp hpm))]
  refine ⟨rfl, fun id' hid' => ?_, rfl, h.tens m hm⟩
  have hne : id' ≠ id := by
    rintro rfl
    exact hid hid'
  simp [switch, hne]

theorem setEnabled_yields (h : Sound db) :
    Yields Sound Harmless (setEnabled now id enabled db) := by
  rw [setEnabled]
  cases hfind : db.subscriptions.find id with
  | none => exact rfl
  | some row =>
  dsimp only
  split
  · exact h
  have hrow : row ∈ db.subscriptions.rows := Table.mem_of_find hfind
  have hpos : 0 < if enabled then db.nextPriority else row.priority := by
    split
    · exact h.nextPriority_pos
    · exact h.positive row hrow
  have hfits : db.subscriptions.Fits (fun s => s.id = id)
      (written now enabled fun _ => if enabled then db.nextPriority else row.priority) := by
    refine fits_written fun hen s _ _ s' hs' he' => ?_
    rw [if_pos hen]
    exact (Sound.lt_nextPriority hs' he').ne
  refine (updateWhere_yields hfits fun _ => rfl).safe.bind fun rows hrows => ?_
  cases hmethod : db.methodOf id with
  | none => exact rfl
  | some method =>
  have hmem : method ∈ db.methods.rows := mem_of_find?_eq_some hmethod
  have hfresh := @Sound.fresh db enabled h method hmem
  have hone : ∀ m ∈ db.methods.rows, ∀ m' ∈ db.methods.rows,
      decide (m.subscriptionID = some id) = true →
        decide (m'.subscriptionID = some id) = true → m = m' := fun m hm m' hm' hp hp' =>
    one_ofSubscriptionID hm hm' (of_decide_eq_true hp) (of_decide_eq_true hp')
  have hfitsMethod := @fits_writtenMethod db now enabled _ _ hone hfresh.pos hfresh.free
  refine (updateWhere_yields hfitsMethod fun _ => rfl).safe.bind
    fun methods hmethods => ?_
  exact h.switched (fun _ _ => hpos) hrows hfresh (fun m _ => decide_eq_true_iff) hmethods

/-! ## switching a method on and off -/

theorem not_blank {c : Char} {cs : List Char} (hc : isSpace c = false) {s : String}
    (hs : s.toList = c :: cs) : trimSpace s ≠ "" := by
  intro h
  have hnil : ((s.toList.dropWhile isSpace).reverse.dropWhile isSpace).reverse = [] := by
    rw [← String.toList_ofList (l := ((s.toList.dropWhile isSpace).reverse.dropWhile
      isSpace).reverse)]
    show (trimSpace s).toList = []
    rw [h]
    rfl
  rw [reverse_eq_nil_iff, dropWhile_eq_nil_iff, hs,
    dropWhile_cons_of_neg (by simp [hc])] at hnil
  have hspace := hnil c (by simp)
  rw [hc] at hspace
  cases hspace

theorem Sound.not_blank (h : Sound db) (hm : m ∈ db.methods.rows) (hkind : m.kind = .subscription) :
    trimSpace m.id ≠ "" := by
  have hsome := (method_check.mp (db.methods.checked m hm)).2
  rw [hkind] at hsome
  obtain ⟨sid, hsid⟩ := Option.isSome_iff_exists.mp (hsome.resolve_left (by simp)).2.1
  have hid : m.id.toList = 'a' :: ("ccess:subscription:" ++ sid).toList := by
    rw [h.named m hm sid hsid, String.toList_append, String.toList_append]
    rfl
  exact Registry.not_blank (by decide) hid

theorem subscriptionID_of_kind (hm : m ∈ db.methods.rows) :
    m.kind = .direct ∧ m.subscriptionID = none ∨
      m.kind = .subscription ∧ ∃ sid, m.subscriptionID = some sid := by
  rcases (method_check.mp (db.methods.checked m hm)).2 with ⟨hk, hs, -⟩ | ⟨hk, hs, -⟩
  · exact .inl ⟨hk, hs⟩
  · exact .inr ⟨hk, Option.isSome_iff_exists.mp hs⟩

theorem Sound.switchedDirect (h : Sound db) (hm : m ∈ db.methods.rows)
    (hdirect : m.subscriptionID = none) {methods : Relation accessMethods} {n : Int}
    {priority : Int} (hfresh : Fresh db enabled priority)
    (hmethods : methods.rows = db.methods.rows.map fun x =>
      if decide (x.id = m.id) = true then writtenMethod now enabled priority x else x) :
    Sound { db with methods, rankingGeneration := n } := by
  refine @Sound.rewritten (fun _ b => b) _ _ h ⟨⟨id, by simp, ?_⟩, ⟨_, hmethods, ?_⟩⟩
  · exact fun s hs => ⟨rfl, rfl, rfl, h.positive s hs⟩
  intro x hx
  by_cases hid : x.id = m.id
  · have hxm : x = m := db.methods.eq_of_key hx hm hid
    subst hxm
    simp [hdirect, hfresh.tens, writtenMethod]
  · simp [hid, h.tens x hx]

theorem setMethodEnabled_eq (h : Sound db) {m : Method} (hm : m ∈ db.methods.rows)
    (hblank : trimSpace m.id ≠ "") (hne : enabled ≠ m.enabled) : ∃ methods : Relation accessMethods,
      (methods.rows = db.methods.rows.map fun x => if decide (x.id = m.id) = true then
        writtenMethod now enabled (if enabled then db.nextMethodPriority else m.priority) x else x) ∧
      setMethodEnabled now m.id enabled db =
        synchronize now m enabled db.subscriptions >>= fun rows => pure { db with
          subscriptions := rows, methods, rankingGeneration := db.rankingGeneration + 1 } := by
  have hfind : db.methods.find m.id = some m := Table.mem_iff_find.mp hm
  have hfresh := @Sound.fresh db enabled h m hm
  have hone : ∀ x ∈ db.methods.rows, ∀ y ∈ db.methods.rows,
      decide (x.id = m.id) = true → decide (y.id = m.id) = true → x = y :=
    fun x hx y hy hp hp' => db.methods.eq_of_key hx hy
      ((of_decide_eq_true hp).trans (of_decide_eq_true hp').symm)
  have hfits := @fits_writtenMethod db now enabled _ _ hone hfresh.pos hfresh.free
  have hwrite := updateWhere_yields hfits fun _ => rfl
  rw [setMethodEnabled, if_neg hblank, hfind]
  dsimp only
  rw [if_neg hne]
  cases hx : db.methods.updateWhere (fun x => decide (x.id = m.id)) (writtenMethod now enabled
      (if enabled then db.nextMethodPriority else m.priority)) fun _ => rfl with
  | error v =>
    rw [hx] at hwrite
    exact hwrite.elim
  | ok methods =>
    rw [hx] at hwrite
    refine ⟨methods, hwrite, ?_⟩
    show (Except.mapError Fault.methods _ >>= _) = _
    unfold writtenMethod at hx
    rw [hx]
    rfl

theorem setMethodEnabled_runs (h : Sound db) {m : Method} (hm : m ∈ db.methods.rows)
    (hblank : trimSpace m.id ≠ "") (hfree : enabled = true → m.enabled = false → ¬ Taken db m) :
    Yields Sound (fun _ => False) (setMethodEnabled now m.id enabled db) := by
  by_cases hne : enabled = m.enabled
  · have hfind : db.methods.find m.id = some m := Table.mem_iff_find.mp hm
    rw [setMethodEnabled, if_neg hblank, hfind]
    dsimp only
    rw [if_pos hne]
    exact h
  obtain ⟨methods, hmethods, heq⟩ := @setMethodEnabled_eq db now enabled h m hm hblank hne
  have hfresh := @Sound.fresh db enabled h m hm
  rw [heq]
  rcases subscriptionID_of_kind hm with ⟨hkind, hsid⟩ | ⟨hkind, sid, hsid⟩
  · rw [synchronize, hkind]
    exact h.switchedDirect hm hsid hfresh hmethods
  rw [synchronize, hkind]
  -- the subscription keeps its priority, which is free because it is not taken
  have hkept : db.subscriptions.Fits (fun s => s.id = m.subscriptionID.getD "")
      (written now enabled Subscription.priority) := by
    refine fits_written fun hen s hs hid s' hs' he' hp => ?_
    have hoff : m.enabled = false := by simpa [hen] using hne
    refine hfree hen hoff ⟨s, hs, ?_, s', hs', he', hp⟩
    rw [hid, hsid]
    rfl
  refine (updateWhere_yields hkept fun _ => rfl).safe.bind fun rows hrows => ?_
  rw [hsid] at hrows
  refine h.switched h.positive hrows hfresh (fun x hx => ?_) hmethods
  rw [decide_eq_true_eq]
  constructor
  · intro hid
    rw [db.methods.eq_of_key hx hm hid, hsid]
    rfl
  · intro hxid
    rw [one_ofSubscriptionID hx hm hxid hsid]

theorem not_held_own (hs : s ∈ db.subscriptions.rows) {e : SubscriptionEntry}
    (he : e ∈ subscriptions.entries s) : db.subscriptions.held s.id e = false := by
  rw [← Bool.not_eq_true, held_iff]
  rintro ⟨s', hs', hne, he'⟩
  exact hne (db.subscriptions.unique s' hs' s hs e he' he)

theorem synchronize_taken (hkind : m.kind = .subscription) {s' : Subscription}
    (hs : s ∈ db.subscriptions.rows) (hsid : m.subscriptionID = some s.id)
    (hs' : s' ∈ db.subscriptions.rows) (hne : s'.id ≠ s.id) (hen' : s'.enabled = true)
    (hp : s'.priority = s.priority) : synchronize now m true db.subscriptions =
      .error (.subscriptions (.entry (.priority s.priority))) := by
  -- the row that is written has three entries, and the last one belongs to `s'`
  have hheld : db.subscriptions.held s.id (.priority s.priority) = true :=
    held_iff.mpr
      ⟨s', hs', hne, mem_subscription_entries.mpr (.inr (.inr ⟨hen', by rw [hp]⟩))⟩
  have hrowid : db.subscriptions.held s.id (.rowid s.rowid) = false :=
    not_held_own hs (mem_subscription_entries.mpr (.inl rfl))
  have hnumber : db.subscriptions.held s.id (.displayNumber s.displayNumber) = false :=
    not_held_own hs (mem_subscription_entries.mpr (.inr (.inl rfl)))
  have hentries : subscriptions.entries (written now true Subscription.priority s) =
      [.rowid s.rowid, .displayNumber s.displayNumber, .priority s.priority] := rfl
  have hfound : (subscriptions.entries (written now true Subscription.priority s)).find?
      (db.subscriptions.held s.id) = some (.priority s.priority) := by
    rw [hentries]
    simp [hrowid, hnumber, hheld]
  have hkey : ∀ x : Subscription, subscriptions.key (written now true Subscription.priority x) =
      subscriptions.key x := fun _ => rfl
  have hupdate : db.subscriptions.updateWhere (fun x => x.id = s.id)
      (written now true Subscription.priority) hkey = .error (.entry (.priority s.priority)) :=
    (updateWhere_key hs (fun x => decide_eq_true_iff) hkey).trans
      (modify_refused hs hkey hfound)
  rw [synchronize, hkind, hsid]
  exact congrArg (Except.mapError Fault.subscriptions) hupdate

theorem setMethodEnabled_taken (h : Sound db) {m : Method} (hm : m ∈ db.methods.rows)
    (hoff : m.enabled = false) (htaken : Taken db m) :
    ∃ p, setMethodEnabled now m.id true db = .error (.subscriptions (.entry (.priority p))) := by
  obtain ⟨s, hs, hsid, s', hs', hen', hp⟩ := htaken
  have hkind : m.kind = .subscription := by
    rcases subscriptionID_of_kind hm with ⟨-, hno⟩ | ⟨hkind, -⟩
    · rw [hsid] at hno
      cases hno
    · exact hkind
  have hne : s'.id ≠ s.id := by
    intro hid
    obtain ⟨x, hx, hxid, hen⟩ := h.owned m hm s.id hsid
    rw [db.subscriptions.eq_of_key hs' hx (hid.trans hxid.symm), ← hen, hoff] at hen'
    cases hen'
  obtain ⟨methods, -, heq⟩ := @setMethodEnabled_eq db now true h m hm (h.not_blank hm hkind)
    (by simp [hoff])
  refine ⟨s.priority, ?_⟩
  rw [heq, synchronize_taken hkind hs hsid hs' hne hen' hp]
  rfl

/-! ## creating and deleting -/

/-- the priority of a new subscription is above those of the enabled ones -/
theorem insert_subscription {displayNumber : Int} {input : CreateInput} :
    Yields (fun rows => rows.rows = db.subscriptions.rows ++
        [createdSubscription now input displayNumber db]) Harmless
      ((db.subscriptions.insert (createdSubscription now input displayNumber db)).mapError
        Fault.subscriptions) := by
  refine ((insert_yields db.subscriptions _).mono (fun _ hq => hq) fun v hv => ?_).mapError
  cases v with
  | key => exact rfl
  | check => exact rfl
  | entry e =>
  cases e with
  | rowid n => exact rfl
  | displayNumber n => exact rfl
  | priority p =>
  obtain ⟨hmem, hheld⟩ := hv _ rfl
  obtain ⟨s, hs, -, he⟩ := held_iff.mp hheld
  simp only [mem_subscription_entries, reduceCtorEq, false_or,
    SubscriptionEntry.priority.injEq] at hmem he
  have hlt := Sound.lt_nextPriority hs he.1
  rw [← he.2, hmem.2] at hlt
  exact absurd hlt (Int.lt_irrefl _)

theorem insert_method {input : CreateInput} :
    Yields (fun methods => methods.rows = db.methods.rows ++ [createdMethod now input db]) Harmless
      ((db.methods.insert (createdMethod now input db)).mapError Fault.methods) := by
  refine ((insert_yields db.methods _).mono (fun _ hq => hq) fun v hv => ?_).mapError
  cases v with
  | key => exact rfl
  | check => exact rfl
  | entry e =>
  cases e with
  | subscription id => exact rfl
  | direct => exact rfl
  | priority p =>
  obtain ⟨hmem, hheld⟩ := hv _ rfl
  obtain ⟨m, hm, -, he⟩ := held_iff.mp hheld
  simp only [mem_method_entries, reduceCtorEq, and_false, exists_false, false_or,
    MethodEntry.priority.injEq] at hmem he
  have hlt := Sound.lt_nextMethodPriority hm he.1
  rw [← he.2, hmem.2] at hlt
  exact absurd hlt (Int.lt_irrefl _)

theorem Sound.created (h : Sound db) {input : CreateInput} {displayNumber n k : Int}
    {rows : Relation subscriptions} {methods : Relation accessMethods}
    (hrows : rows.rows = db.subscriptions.rows ++ [createdSubscription now input displayNumber db])
    (hmethods : methods.rows = db.methods.rows ++ [createdMethod now input db]) : Sound { db with
      subscriptions := rows, methods, nextDisplayNumber := n, rankingGeneration := k } := by
  have hsub : ∀ s ∈ rows.rows, s ∈ db.subscriptions.rows ∨
      s = createdSubscription now input displayNumber db := by
    intro s hs
    rwa [hrows, mem_append, mem_singleton] at hs
  have hmethod : ∀ m ∈ methods.rows, m ∈ db.methods.rows ∨ m = createdMethod now input db := by
    intro m hm
    rwa [hmethods, mem_append, mem_singleton] at hm
  refine ⟨?_, ?_, ?_, ?_, ?_, ?_⟩
  · intro s hs
    rcases hsub s hs with hs | rfl
    · obtain ⟨m, hm, hid, hen⟩ := h.owner s hs
      exact ⟨m, by rw [hmethods]; simp [hm], hid, hen⟩
    · exact ⟨createdMethod now input db, by rw [hmethods]; simp, rfl, rfl⟩
  · intro m hm id hid
    rcases hmethod m hm with hm | rfl
    · obtain ⟨s, hs, hid', hen⟩ := h.owned m hm id hid
      exact ⟨s, by rw [hrows]; simp [hs], hid', hen⟩
    · exact ⟨createdSubscription now input displayNumber db, by rw [hrows]; simp,
        Option.some.inj hid, rfl⟩
  · intro s hs
    rcases hsub s hs with hs | rfl
    · exact h.rowid s hs
    have hceil : 0 ≤ ceiling (db.subscriptions.rows.map Subscription.rowid) := by
      refine ceiling_ind (Int.le_refl 0) fun p hp => ?_
      obtain ⟨s, hs, rfl⟩ := mem_map.mp hp
      exact (h.rowid s hs).le
    exact Int.lt_add_one_of_le hceil
  · intro s hs
    rcases hsub s hs with hs | rfl
    · exact h.positive s hs
    · exact h.nextPriority_pos
  · intro m hm
    rcases hmethod m hm with hm | rfl
    · exact h.tens m hm
    · exact h.nextMethodPriority_tens
  · intro m hm id hid
    rcases hmethod m hm with hm | rfl
    · exact h.named m hm id hid
    · rw [← Option.some.inj hid]
      rfl

theorem create_yields (h : Sound db) {input : CreateInput} :
    Yields (fun r => Sound r.1) Harmless (create now input db) := by
  have hvalid : Yields (fun _ => True) Harmless (validateCreateInput input) := by
    unfold validateCreateInput
    repeat' split
    all_goals first | exact rfl | trivial
  refine hvalid.bind fun _ _ => ?_
  rw [allocateDisplayNumber]
  split
  · exact rfl
  refine (@insert_subscription { db with nextDisplayNumber := db.nextDisplayNumber + 1 } now
    db.nextDisplayNumber input).bind fun rows hrows => ?_
  refine (@insert_method { db with nextDisplayNumber := db.nextDisplayNumber + 1 } now
    input).bind fun methods hmethods => ?_
  exact h.created hrows hmethods

theorem Sound.deleted (h : Sound db) : Sound { db with
    subscriptions := db.subscriptions.delete fun s => s.id = id,
    methods := db.methods.delete fun m => m.subscriptionID = some id } := by
  have hsub : ∀ s, s ∈ (db.subscriptions.delete fun s => s.id = id).rows ↔
      s ∈ db.subscriptions.rows ∧ s.id ≠ id := by
    intro s
    show s ∈ db.subscriptions.rows.filter _ ↔ _
    simp
  have hmethod : ∀ m, m ∈ (db.methods.delete fun m => m.subscriptionID = some id).rows ↔
      m ∈ db.methods.rows ∧ m.subscriptionID ≠ some id := by
    intro m
    show m ∈ db.methods.rows.filter _ ↔ _
    simp
  refine ⟨?_, ?_, ?_, ?_, ?_, ?_⟩
  · intro s hs
    obtain ⟨hs, hne⟩ := (hsub s).mp hs
    obtain ⟨m, hm, hid, hen⟩ := h.owner s hs
    exact ⟨m, (hmethod m).mpr ⟨hm, by rw [hid]; simpa using hne⟩, hid, hen⟩
  · intro m hm id' hid
    obtain ⟨hm, hne⟩ := (hmethod m).mp hm
    obtain ⟨s, hs, hid', hen⟩ := h.owned m hm id' hid
    refine ⟨s, (hsub s).mpr ⟨hs, ?_⟩, hid', hen⟩
    rintro rfl
    exact hne (hid.trans (congrArg some hid'.symm))
  · exact fun s hs => h.rowid s ((hsub s).mp hs).1
  · exact fun s hs => h.positive s ((hsub s).mp hs).1
  · exact fun m hm => h.tens m ((hmethod m).mp hm).1
  · exact fun m hm => h.named m ((hmethod m).mp hm).1

theorem delete_yields (h : Sound db) : Yields (fun r => Sound r.1) Harmless (delete id db) := by
  rw [delete]
  cases db.subscriptions.find id with
  | none => exact rfl
  | some row =>
  dsimp only
  split
  · exact rfl
  split
  · exact rfl
  · exact h.deleted

end

end GatewayVpn.Registry
