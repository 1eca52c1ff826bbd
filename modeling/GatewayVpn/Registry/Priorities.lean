import GatewayVpn.Registry.Soundness

/-!
# Subscriptions and access methods: when a priority is taken

A new order gives the rows temporary priorities first, so that no two enabled rows ever share one on
the way to the final ones: the negative row numbers in one table, numbers above all that are in use
in the other.  With that every operation of a history is accounted for.
-/

namespace GatewayVpn.Registry

open Durable List Relation

/-! ## new orders -/

variable {orderedIDs : List String}

theorem validateOrder_yields {blank : String → Bool} {enabledIDs : List String}
    (hnodup : enabledIDs.Nodup) : Yields (fun _ => enabledIDs.Perm orderedIDs) Harmless
      (validateOrder blank enabledIDs orderedIDs) := by
  rw [validateOrder]
  split
  · exact rfl
  next h =>
  simp only [Bool.or_eq_true, Bool.not_eq_true', decide_eq_false_iff_not, decide_eq_true_eq,
    not_or, not_not, Bool.not_eq_false, ne_eq] at h
  have hsub : enabledIDs ⊆ orderedIDs := by
    intro id hid
    simpa using all_eq_true.mp h.1.2 id hid
  exact (hnodup.subperm hsub).perm_of_length_le h.2.ge

variable {x : String × Int} {priority : Nat → Int}

theorem mem_numbered {ids : List String} :
    x ∈ numbered priority ids ↔ ∃ i, ∃ hi : i < ids.length, x = (ids[i], priority i) := by
  rw [numbered, mem_map]
  constructor
  · rintro ⟨⟨id, i⟩, hmem, rfl⟩
    obtain ⟨hi, hid⟩ := mem_zipIdx' hmem
    exact ⟨i, hi, by rw [hid]⟩
  rintro ⟨i, hi, rfl⟩
  refine ⟨(ids[i], i), ?_, rfl⟩
  rw [mem_iff_getElem]
  exact ⟨i, by simpa using hi, by simp⟩

theorem exists_numbered {priority : Nat → Int} {ids : List String} {id : String} (h : id ∈ ids) :
    ∃ x ∈ numbered priority ids, x.1 = id := by
  obtain ⟨i, hi, rfl⟩ := mem_iff_getElem.mp h
  exact ⟨(ids[i], priority i), mem_numbered.mpr ⟨i, hi, rfl⟩, rfl⟩

theorem numbered_nodup (hinj : Function.Injective priority)
    (ids : List String) : ((numbered priority ids).map Prod.snd).Nodup := by
  have hsnd : (numbered priority ids).map Prod.snd = (List.range' 0 ids.length).map priority := by
    rw [numbered, List.map_map, ← List.zipIdx_map_snd 0 ids, List.map_map]
    rfl
  rw [hsnd]
  exact List.Nodup.map hinj List.nodup_range'

theorem numbered_pos {ids : List String} (hx : x ∈ numbered tens ids) : 0 < x.2 := by
  obtain ⟨i, hi, rfl⟩ := mem_numbered.mp hx
  show 0 < tens i
  unfold tens
  omega

theorem lt_numbered {maximum : Int} {ids : List String} (hx : x ∈ numbered (above maximum) ids) :
    maximum < x.2 := by
  obtain ⟨i, hi, rfl⟩ := mem_numbered.mp hx
  show maximum < above maximum i
  unfold above
  omega

theorem fst_mem_of_numbered {ids : List String} (hx : x ∈ numbered priority ids) : x.1 ∈ ids := by
  obtain ⟨i, hi, rfl⟩ := mem_numbered.mp hx
  exact getElem_mem hi

theorem tens_injective : Function.Injective tens := by
  intro i j h
  unfold tens at h
  omega

theorem above_injective (maximum : Int) : Function.Injective (above maximum) := by
  intro i j h
  unfold above at h
  omega

variable {rows : Relation subscriptions} {methods : Relation accessMethods}
  {which : String → Method → Bool} {xs : List (String × Int)}

section
variable {db : Database} {now : Time}

/-! ## the order of the subscriptions -/

theorem fits_rowid (h : Sound db) : db.subscriptions.Fits Subscription.enabled
    fun s => { s with priority := -s.rowid } := by
  -- the only new entry of a row is the negative of its rowid
  have hnew : ∀ s : Subscription, ∀ e ∈ subscriptions.entries { s with priority := -s.rowid },
      e ∉ subscriptions.entries s → e = .priority (-s.rowid) := by
    intro s e he hold
    rw [mem_subscription_entries] at he hold
    rcases he with he | he | ⟨-, he⟩
    · exact absurd (.inl he) hold
    · exact absurd (.inr (.inl he)) hold
    · exact he
  refine ⟨fun _ _ _ => rfl, ?_, ?_⟩
  · intro s hs _ e he hold s' hs' he'
    rw [hnew s e he hold, mem_subscription_entries] at he'
    simp only [reduceCtorEq, false_or, SubscriptionEntry.priority.injEq] at he'
    have h1 := h.rowid s hs
    have h2 := h.positive s' hs'
    omega
  intro s hs _ e he hold s' hs' _ he'
  rw [hnew s e he hold, mem_subscription_entries] at he'
  simp only [reduceCtorEq, false_or, SubscriptionEntry.priority.injEq] at he'
  have hrowid : s.rowid = s'.rowid := by omega
  refine db.subscriptions.eq_of_entry hs hs' (mem_subscription_entries.mpr (.inl rfl)) ?_
  exact mem_subscription_entries.mpr (.inl (by rw [hrowid]))

def chosen (x : String × Int) (s : Subscription) : Bool := s.id = x.1 && s.enabled

def moved (now : Time) (x : String × Int) (s : Subscription) : Subscription :=
  { s with priority := x.2, updatedAt := now }

theorem setPriority_yields (hfits : rows.Fits (chosen x) (moved now x)) :
    Yields (fun rows' => rows'.rows = rows.rows.map fun s => if chosen x s then moved now x s else s)
      Harmless (setPriority now rows x) := by
  refine (updateWhere_yields hfits fun _ => rfl).safe.bind fun rows' hrows' => ?_
  split
  · exact rfl
  · exact hrows'

theorem marked_subscriptions (hnodup : (xs.map Prod.snd).Nodup)
    (hfree : ∀ x ∈ xs, ∀ s ∈ rows.rows, s.enabled = true → s.priority ≠ x.2) :
    rows.Marked chosen (moved now) (fun x => .priority x.2) xs where
  check := fun _ _ _ _ => rfl
  entry := fun x s e he => by
    rw [mem_subscription_entries] at he ⊢
    rcases he with he | he | ⟨-, he⟩
    · exact .inl (.inl he)
    · exact .inl (.inr (.inl he))
    · exact .inr he
  one := fun x s hs s' hs' hp hp' => by
    simp only [chosen, Bool.and_eq_true, decide_eq_true_eq] at hp hp'
    exact rows.eq_of_key hs hs' (hp.1.trans hp'.1.symm)
  marks := by
    have hmap := hnodup.map (f := SubscriptionEntry.priority) fun a b hab => by simpa using hab
    rwa [List.map_map] at hmap
  free := fun x hx s hs he => by
    rw [mem_subscription_entries] at he
    simp only [reduceCtorEq, false_or, SubscriptionEntry.priority.injEq] at he
    exact hfree x hx s hs he.1 he.2.symm

theorem reorder_subscriptions (h : Sound db) {orderedIDs : List String}
    (hperm : (db.enabledSubscriptions.map Subscription.id).Perm orderedIDs) :
    Yields (fun rows => ∃ g : Subscription → Subscription,
        rows.rows = db.subscriptions.rows.map g ∧ ∀ s ∈ db.subscriptions.rows,
          (g s).id = s.id ∧ (g s).enabled = s.enabled ∧ (g s).rowid = s.rowid ∧ 0 < (g s).priority)
      Harmless (((db.subscriptions.updateWhere Subscription.enabled
        (fun s => { s with priority := -s.rowid }) fun _ => rfl).mapError Fault.subscriptions) >>=
          fun rows => (numbered tens orderedIDs).foldlM (setPriority now) rows) := by
  refine (Relation.updateWhere_yields (fits_rowid h) fun _ => rfl).safe.bind fun rows hrows => ?_
  have hmarked : rows.Marked chosen (moved now) (fun x => .priority x.2)
      (numbered tens orderedIDs) := by
    refine marked_subscriptions (numbered_nodup tens_injective _) fun x hx s' hs' hen => ?_
    have hx := numbered_pos hx
    rw [hrows] at hs'
    obtain ⟨s, hs, rfl⟩ := List.mem_map.mp hs'
    have hpos := h.rowid s hs
    by_cases hs_en : s.enabled = true
    · rw [if_pos hs_en]
      show -s.rowid ≠ x.2
      omega
    · rw [if_neg hs_en] at hen
      exact absurd hen hs_en
  refine (Relation.sweep_yields hmarked (fun _ _ _ => rfl) fun _ _ => setPriority_yields).mono
    (fun rows' hrows' => ?_) fun _ he => he
  rw [hrows, List.map_map] at hrows'
  refine ⟨_, hrows', fun s hs => ?_⟩
  -- the loop leaves everything but the priority of a row alone
  have hkeep := @Relation.swept_keeps _ (String × Int) chosen (moved now)
    (fun r => r.id = s.id ∧ r.enabled = s.enabled ∧ r.rowid = s.rowid) (fun _ _ hr => hr)
    (numbered tens orderedIDs) (if s.enabled then { s with priority := -s.rowid } else s)
    (by split <;> exact ⟨rfl, rfl, rfl⟩)
  refine ⟨hkeep.1, hkeep.2.1, hkeep.2.2, ?_⟩
  show 0 < (Relation.swept chosen (moved now) (numbered tens orderedIDs)
    (if s.enabled then { s with priority := -s.rowid } else s)).priority
  by_cases hen : s.enabled = true
  · have hid : s.id ∈ orderedIDs :=
      hperm.subset (List.mem_map_of_mem (List.mem_filter.mpr ⟨hs, hen⟩))
    obtain ⟨x, hx, hxid⟩ := @exists_numbered tens _ _ hid
    refine @Relation.swept_of_some _ (String × Int) chosen (moved now) (fun _ _ _ => rfl)
      (fun r => 0 < r.priority) _ (fun x hx r => numbered_pos hx) _ ⟨x, hx, ?_⟩
    rw [if_pos hen]
    simp [chosen, hxid, hen]
  · rw [if_neg hen, Relation.swept_of_none]
    · exact h.positive s hs
    · intro x _
      simp [chosen, hen]

/-! ## the order of the methods -/

def movedMethod (x : String × Int) (m : Method) : Method := { m with priority := x.2 }

def settledMethod (now : Time) (x : String × Int) (m : Method) : Method :=
  { m with priority := x.2, updatedAt := now }

theorem stageMethodPriority_yields (hfits : methods.Fits (which x.1) (movedMethod x)) :
    Yields (fun methods' => methods'.rows =
        methods.rows.map fun m => if which x.1 m then movedMethod x m else m)
      Harmless (stageMethodPriority which methods x) :=
  (updateWhere_yields hfits fun _ => rfl).safe

theorem setMethodPriority_yields (hfits : methods.Fits (which x.1) (settledMethod now x)) :
    Yields (fun methods' => methods'.rows =
        methods.rows.map fun m => if which x.1 m then settledMethod now x m else m)
      Harmless (setMethodPriority now which methods x) :=
  (updateWhere_yields hfits fun _ => rfl).safe

structure Moves (change : String × Int → Method → Method) : Prop where
  id : ∀ x m, (change x m).id = m.id
  kind : ∀ x m, (change x m).kind = m.kind
  subscriptionID : ∀ x m, (change x m).subscriptionID = m.subscriptionID
  enabled : ∀ x m, (change x m).enabled = m.enabled
  immutable : ∀ x m, (change x m).immutable = m.immutable
  priority : ∀ x m, (change x m).priority = x.2

theorem moves_movedMethod : Moves movedMethod :=
  ⟨fun _ _ => rfl, fun _ _ => rfl, fun _ _ => rfl, fun _ _ => rfl, fun _ _ => rfl, fun _ _ => rfl⟩

theorem moves_settledMethod : Moves (settledMethod now) :=
  ⟨fun _ _ => rfl, fun _ _ => rfl, fun _ _ => rfl, fun _ _ => rfl, fun _ _ => rfl, fun _ _ => rfl⟩

theorem marked_methods {change : String × Int → Method → Method} (hmoves : Moves change)
    (hone : ∀ id, ∀ m ∈ methods.rows, ∀ m' ∈ methods.rows, which id m = true →
      which id m' = true → m = m') (hpos : ∀ x ∈ xs, 0 < x.2) (hnodup : (xs.map Prod.snd).Nodup)
    (hfree : ∀ x ∈ xs, ∀ m ∈ methods.rows, m.enabled = true → m.priority ≠ x.2) :
    methods.Marked (fun x => which x.1) change (fun x => .priority x.2) xs where
  check := fun x hx m hm => check_of_priority hm (by rw [hmoves.priority]; exact hpos x hx)
    (hmoves.kind x m) (hmoves.subscriptionID x m) (hmoves.immutable x m)
  entry := fun x m e he => by
    rw [mem_method_entries, hmoves.subscriptionID, hmoves.kind, hmoves.priority] at he
    rcases he with he | he | ⟨-, he⟩
    · exact .inl (mem_method_entries.mpr (.inl he))
    · exact .inl (mem_method_entries.mpr (.inr (.inl he)))
    · exact .inr he
  one := fun x => hone x.1
  marks := by
    have hmap := hnodup.map (f := MethodEntry.priority) fun a b hab => by simpa using hab
    rwa [List.map_map] at hmap
  free := fun x hx m hm he => by
    rw [mem_method_entries] at he
    simp only [reduceCtorEq, and_false, exists_false, false_or, MethodEntry.priority.injEq] at he
    exact hfree x hx m hm he.1 he.2.symm

theorem kept_by_sweep {change : String × Int → Method → Method} (hmoves : Moves change)
    {which : String → Method → Bool} {xs : List (String × Int)} (m : Method) :
    let m' := Relation.swept (fun x => which x.1) change xs m
    m'.id = m.id ∧ m'.enabled = m.enabled ∧ m'.subscriptionID = m.subscriptionID := by
  refine @swept_keeps _ (String × Int) (fun x => which x.1) change
    (fun r => r.id = m.id ∧ r.enabled = m.enabled ∧ r.subscriptionID = m.subscriptionID) ?_ xs m
    ⟨rfl, rfl, rfl⟩
  intro x r hr
  rw [hmoves.id, hmoves.enabled, hmoves.subscriptionID]
  exact hr

abbrev Database.maximum (db : Database) : Int := ceiling (db.methods.rows.map Method.priority)

theorem le_maximum {m : Method} (hm : m ∈ db.methods.rows) : m.priority ≤ db.maximum :=
  le_ceiling (mem_map_of_mem hm)

theorem maximum_nonneg : 0 ≤ db.maximum := by
  refine ceiling_ind (Int.le_refl 0) fun p hp => ?_
  obtain ⟨m, hm, rfl⟩ := mem_map.mp hp
  exact (Sound.method_pos hm).le

def Database.staged (db : Database) (which : String → Method → Bool) (orderedIDs : List String) :
    Method → Method :=
  Relation.swept (fun x => which x.1) movedMethod (numbered (above db.maximum) orderedIDs)

theorem stage_yields
    (hone : ∀ id, ∀ m ∈ db.methods.rows, ∀ m' ∈ db.methods.rows, which id m = true →
      which id m' = true → m = m') (hwhich : ∀ id x m, which id (movedMethod x m) = which id m) :
    Yields (fun methods => methods.rows = db.methods.rows.map (db.staged which orderedIDs)) Harmless
      ((numbered (above db.maximum) orderedIDs).foldlM (stageMethodPriority which) db.methods) := by
  have hmarked := marked_methods moves_movedMethod hone
    (fun x hx => (@maximum_nonneg db).trans_lt (lt_numbered hx))
    (numbered_nodup (above_injective db.maximum) orderedIDs)
    fun x hx m hm _ => ((le_maximum hm).trans_lt (lt_numbered hx)).ne
  exact sweep_yields hmarked (fun x y r => hwhich x.1 y r)
    fun _ _ => stageMethodPriority_yields

theorem staged_cases {which : String → Method → Bool} {orderedIDs : List String}
    (hwhich : ∀ id x m, which id (movedMethod x m) = which id m) (m : Method) :
    (∃ id ∈ orderedIDs, which id m = true) ∧ db.maximum < (db.staged which orderedIDs m).priority ∨
      (∀ id ∈ orderedIDs, which id m = false) ∧ db.staged which orderedIDs m = m := by
  by_cases h : ∃ id ∈ orderedIDs, which id m = true
  · obtain ⟨id, hid, hw⟩ := h
    obtain ⟨x, hx, rfl⟩ := @exists_numbered (above db.maximum) _ _ hid
    refine .inl ⟨⟨x.1, hid, hw⟩, ?_⟩
    exact @swept_of_some _ (String × Int) (fun x => which x.1) movedMethod
      (fun x y r => hwhich x.1 y r) (fun r => db.maximum < r.priority) _
      (fun x hx r => lt_numbered hx) m ⟨x, hx, hw⟩
  · have hnone : ∀ id ∈ orderedIDs, which id m = false := by
      intro id hid
      rw [← Bool.not_eq_true]
      exact fun hw => h ⟨id, hid, hw⟩
    exact .inr ⟨hnone, swept_of_none fun x hx => hnone _ (fst_mem_of_numbered hx)⟩

structure Selects (db : Database) (which : String → Method → Bool) : Prop where
  one : ∀ id, ∀ m ∈ db.methods.rows, ∀ m' ∈ db.methods.rows, which id m = true →
    which id m' = true → m = m'
  moves : ∀ {change}, Moves change → ∀ id x m, which id (change x m) = which id m

theorem selects_ofID : Selects db ofID where
  one := fun id m hm m' hm' h h' => by
    simp only [ofID, Bool.and_eq_true, decide_eq_true_eq] at h h'
    exact db.methods.eq_of_key hm hm' (h.1.trans h'.1.symm)
  moves := fun hmoves id x m => by simp only [ofID, hmoves.id, hmoves.enabled]

theorem selects_ofSubscription : Selects db ofSubscription where
  one := fun id m hm m' hm' h h' => by
    simp only [ofSubscription, Bool.and_eq_true, decide_eq_true_eq] at h h'
    exact one_ofSubscriptionID hm hm' h.1 h'.1
  moves := fun hmoves id x m => by
    simp only [ofSubscription, hmoves.subscriptionID, hmoves.enabled]

/-- the new priorities of an order: one for each id, and free once the methods are staged -/
structure Assigns (db : Database) (which : String → Method → Bool) (orderedIDs : List String)
    (xs : List (String × Int)) : Prop where
  ids : ∀ id, id ∈ orderedIDs ↔ ∃ x ∈ xs, x.1 = id
  pos : ∀ x ∈ xs, 0 < x.2
  tens : ∀ x ∈ xs, 10 ∣ x.2
  nodup : (xs.map Prod.snd).Nodup
  le : ∀ x ∈ xs, x.2 ≤ db.maximum
  free : ∀ x ∈ xs, ∀ m ∈ db.methods.rows, m.enabled = true →
    (∀ id ∈ orderedIDs, which id m = false) → m.priority ≠ x.2

theorem reorder_methods (h : Sound db) {which : String → Method → Bool}
    (hselects : Selects db which) {orderedIDs : List String} {xs : List (String × Int)}
    (hxs : Assigns db which orderedIDs xs)
    {step : Relation accessMethods → String × Int → Except Fault (Relation accessMethods)}
    (hstep : ∀ methods x, methods.Fits (which x.1) (settledMethod now x) →
      Yields (fun methods' => methods'.rows =
        methods.rows.map fun m => if which x.1 m then settledMethod now x m else m) Harmless
          (step methods x)) :
    Yields (fun methods => ∃ g : Method → Method, methods.rows = db.methods.rows.map g ∧
        ∀ m ∈ db.methods.rows, (g m).id = m.id ∧ (g m).enabled = m.enabled ∧
          (g m).subscriptionID = m.subscriptionID ∧ 10 ∣ (g m).priority) Harmless
      ((numbered (above db.maximum) orderedIDs).foldlM (stageMethodPriority which) db.methods >>=
        fun methods => xs.foldlM step methods) := by
  have hwhich := hselects.moves moves_movedMethod
  refine (stage_yields hselects.one hwhich).bind fun methods hmethods => ?_
  have hstaged : ∀ m' ∈ methods.rows, ∃ m ∈ db.methods.rows, db.staged which orderedIDs m = m' := by
    intro m' hm'
    rw [hmethods] at hm'
    exact List.mem_map.mp hm'
  -- what a selection says about a staged method it said about the method before
  have hsees : ∀ id m, which id (db.staged which orderedIDs m) = which id m := by
    intro id m
    refine @Relation.swept_keeps _ (String × Int) (fun x => which x.1) movedMethod
      (fun r => which id r = which id m) (fun x r hr => ?_) _ m rfl
    rw [hwhich, hr]
  have hmarked : methods.Marked (fun x => which x.1) (settledMethod now) (fun x => .priority x.2)
      xs := by
    refine marked_methods moves_settledMethod ?_ hxs.pos hxs.nodup ?_
    · intro id a ha b hb hwa hwb
      obtain ⟨m, hm, rfl⟩ := hstaged a ha
      obtain ⟨m', hm', rfl⟩ := hstaged b hb
      rw [hsees] at hwa hwb
      rw [hselects.one id m hm m' hm' hwa hwb]
    intro x hx a ha hen hp
    obtain ⟨m, hm, rfl⟩ := hstaged a ha
    rcases @staged_cases db which orderedIDs hwhich m with ⟨-, hlt⟩ | ⟨hnone, heq⟩
    · rw [hp] at hlt
      exact absurd (hxs.le x hx) (Int.not_le.mpr hlt)
    · rw [heq] at hp hen
      exact hxs.free x hx m hm hen hnone hp
  refine (Relation.sweep_yields hmarked (fun x y r => hselects.moves moves_settledMethod x.1 y r)
    hstep).mono (fun methods' hmethods' => ?_) fun _ he => he
  rw [hmethods, List.map_map] at hmethods'
  refine ⟨_, hmethods', fun m hm => ?_⟩
  have hfirst := @kept_by_sweep _ moves_movedMethod which (numbered (above db.maximum) orderedIDs) m
  have hsecond := @kept_by_sweep _ (@moves_settledMethod now) which xs
    (db.staged which orderedIDs m)
  refine ⟨hsecond.1.trans hfirst.1, hsecond.2.1.trans hfirst.2.1,
    hsecond.2.2.trans hfirst.2.2, ?_⟩
  rcases @staged_cases db which orderedIDs hwhich m with ⟨⟨id, hid, hw⟩, -⟩ | ⟨hnone, heq⟩
  · obtain ⟨x, hx, rfl⟩ := (hxs.ids id).mp hid
    refine @Relation.swept_of_some _ (String × Int) (fun x => which x.1) (settledMethod now)
      (fun x y r => hselects.moves moves_settledMethod x.1 y r) (fun r => 10 ∣ r.priority) xs
      (fun x hx r => hxs.tens x hx) _ ⟨x, hx, ?_⟩
    rw [hsees, hw]
  · show 10 ∣ (Relation.swept _ _ xs (db.staged which orderedIDs m)).priority
    rw [heq, Relation.swept_of_none]
    · exact h.tens m hm
    · exact fun x hx => hnone x.1 ((hxs.ids x.1).mpr ⟨x, hx, rfl⟩)

/-- an operation that only gives new priorities leaves a sound database -/
theorem Sound.reordered (h : Sound db) {n : Int}
    (hrows : ∃ g : Subscription → Subscription, rows.rows = db.subscriptions.rows.map g ∧
      ∀ s ∈ db.subscriptions.rows, (g s).id = s.id ∧ (g s).enabled = s.enabled ∧
        (g s).rowid = s.rowid ∧ 0 < (g s).priority)
    (hmethods : ∃ g : Method → Method, methods.rows = db.methods.rows.map g ∧
      ∀ m ∈ db.methods.rows, (g m).id = m.id ∧ (g m).enabled = m.enabled ∧
        (g m).subscriptionID = m.subscriptionID ∧ 10 ∣ (g m).priority) :
    Sound { db with subscriptions := rows, methods, rankingGeneration := n } := by
  obtain ⟨g, hg, hkeep⟩ := hmethods
  refine @Sound.rewritten (fun _ b => b) _ _ h ⟨hrows, ⟨g, hg, fun m hm => ?_⟩⟩
  obtain ⟨hid, hen, hsid, htens⟩ := hkeep m hm
  exact ⟨hid, fun _ _ => hen, hsid, htens⟩

/-! ## the new priorities are free -/

theorem room {ps : List Int} (hnodup : ps.Nodup) {maximum : Int} (hmax : 0 ≤ maximum)
    (h : ∀ p ∈ ps, 0 < p ∧ 10 ∣ p ∧ p ≤ maximum) : 10 * (ps.length : Int) ≤ maximum := by
  have hsub : ps.toFinset ⊆
      (Finset.range (maximum / 10).toNat).image fun k : Nat => 10 * ((k : Int) + 1) := by
    intro q hq
    obtain ⟨hpos, ⟨k, rfl⟩, hle⟩ := h q (mem_toFinset.mp hq)
    rw [Finset.mem_image]
    refine ⟨(k - 1).toNat, ?_, ?_⟩
    · rw [Finset.mem_range]
      omega
    · omega
  have hcard := (Finset.card_le_card hsub).trans Finset.card_image_le
  rw [toFinset_card_of_nodup hnodup, Finset.card_range] at hcard
  omega

theorem priorities_nodup {l : List Method} (hl : l.Nodup)
    (hsub : ∀ m ∈ l, m ∈ db.methods.rows ∧ m.enabled = true) : (l.map Method.priority).Nodup := by
  refine hl.map_on fun a ha b hb hab => ?_
  obtain ⟨ha, hea⟩ := hsub a ha
  obtain ⟨hb, heb⟩ := hsub b hb
  exact db.methods.eq_of_entry ha hb (mem_method_entries.mpr (.inr (.inr ⟨hea, rfl⟩)))
    (mem_method_entries.mpr (.inr (.inr ⟨heb, by rw [hab]⟩)))

theorem methods_nodup : db.methods.rows.Nodup := List.Nodup.of_map _ db.methods.nodup

theorem assigns_tens (h : Sound db) (hperm : (db.enabledMethods.map Method.id).Perm orderedIDs) :
    Assigns db ofID orderedIDs (numbered tens orderedIDs) where
  ids := fun id => by
    refine ⟨exists_numbered, ?_⟩
    rintro ⟨x, hx, rfl⟩
    exact fst_mem_of_numbered hx
  pos := fun x hx => numbered_pos hx
  tens := fun x hx => by
    obtain ⟨i, hi, rfl⟩ := mem_numbered.mp hx
    show 10 ∣ tens i
    exact Dvd.intro_left _ rfl
  nodup := numbered_nodup tens_injective _
  le := fun x hx => by
    obtain ⟨i, hi, rfl⟩ := mem_numbered.mp hx
    have hnodup := @priorities_nodup db db.enabledMethods (methods_nodup.filter _)
      fun m hm => List.mem_filter.mp hm
    have hroom := room hnodup (@maximum_nonneg db) ?_
    · rw [List.length_map, ← @List.length_map _ _ db.enabledMethods Method.id,
        hperm.length_eq] at hroom
      show tens i ≤ _
      unfold tens
      omega
    · intro p hp
      obtain ⟨m, hm, rfl⟩ := List.mem_map.mp hp
      have hmem := (List.mem_filter.mp hm).1
      exact ⟨Sound.method_pos hmem, h.tens m hmem, le_maximum hmem⟩
  free := fun x hx m hm hen hnone hp => by
    have hid : m.id ∈ orderedIDs :=
      hperm.subset (mem_map_of_mem (mem_filter.mpr ⟨hm, hen⟩))
    have hno := hnone m.id hid
    simp [ofID, hen] at hno

theorem mem_methodPriorities {p : Int} : p ∈ methodPriorities db.methods ↔
    ∃ m ∈ db.methods.rows, m.enabled = true ∧ m.kind = .subscription ∧ m.priority = p := by
  rw [methodPriorities, mem_map]
  refine exists_congr fun m => ?_
  rw [mem_insertionSort, mem_filter, Bool.and_eq_true, decide_eq_true_eq]
  tauto

theorem assigns_slots (h : Sound db)
    (hperm : (db.enabledSubscriptions.map Subscription.id).Perm orderedIDs)
    (hlen : (methodPriorities db.methods).length = orderedIDs.length) :
    Assigns db ofSubscription orderedIDs (orderedIDs.zip (methodPriorities db.methods)) where
  ids := fun id => by
    rw [← List.mem_map, List.map_fst_zip hlen.ge]
  pos := fun x hx => by
    obtain ⟨m, hm, -, -, hp⟩ := mem_methodPriorities.mp (List.of_mem_zip hx).2
    rw [← hp]
    exact Sound.method_pos hm
  tens := fun x hx => by
    obtain ⟨m, hm, -, -, hp⟩ := mem_methodPriorities.mp (List.of_mem_zip hx).2
    rw [← hp]
    exact h.tens m hm
  nodup := by
    rw [map_snd_zip hlen.le]
    refine @priorities_nodup db _ ?_ fun m hm => ?_
    · exact ((perm_insertionSort byPriority _).nodup_iff).mpr (methods_nodup.filter _)
    · rw [mem_insertionSort, mem_filter, Bool.and_eq_true] at hm
      exact ⟨hm.1, hm.2.1⟩
  le := fun x hx => by
    obtain ⟨m, hm, -, -, hp⟩ := mem_methodPriorities.mp (of_mem_zip hx).2
    rw [← hp]
    exact le_maximum hm
  free := fun x hx m hm hen hnone hp => by
    -- the slot is the priority of an enabled subscription's method, which the order names
    obtain ⟨m', hm', hen', hkind, hp'⟩ := mem_methodPriorities.mp (of_mem_zip hx).2
    have heq : m = m' := db.methods.eq_of_entry hm hm'
      (mem_method_entries.mpr (.inr (.inr ⟨hen, rfl⟩)))
      (mem_method_entries.mpr (.inr (.inr ⟨hen', by rw [hp, hp']⟩)))
    subst heq
    rcases subscriptionID_of_kind hm with ⟨hdirect, -⟩ | ⟨-, sid, hsid⟩
    · rw [hkind] at hdirect
      cases hdirect
    obtain ⟨s, hs, rfl, hflag⟩ := h.owned m hm sid hsid
    have hid : s.id ∈ orderedIDs := hperm.subset
      (mem_map_of_mem (mem_filter.mpr ⟨hs, by rw [← hflag, hen]⟩))
    have hno := hnone s.id hid
    simp [ofSubscription, hsid, hen] at hno

theorem reorderEnabled_yields (h : Sound db) :
    Yields Sound Harmless (reorderEnabled now orderedIDs db) := by
  have hids : (db.enabledSubscriptions.map Subscription.id).Nodup :=
    (filter_sublist.map Subscription.id).nodup db.subscriptions.nodup
  refine (validateOrder_yields hids).bind fun _ hperm => ?_
  rw [← bind_assoc]
  refine (@reorder_subscriptions db now h orderedIDs hperm).bind fun rows hrows => ?_
  dsimp only
  split
  · exact rfl
  next hlen =>
  rw [← bind_assoc]
  refine (@reorder_methods db now h ofSubscription selects_ofSubscription orderedIDs _
    (assigns_slots h hperm (not_not.mp hlen)) _ fun _ _ => setMethodPriority_yields).bind
      fun methods hmethods => ?_
  exact h.reordered hrows hmethods

theorem reorderEnabledMethods_yields (h : Sound db) :
    Yields Sound Harmless (reorderEnabledMethods now orderedIDs db) := by
  have hids : (db.enabledMethods.map Method.id).Nodup :=
    (filter_sublist.map Method.id).nodup db.methods.nodup
  refine (validateOrder_yields hids).bind fun _ hperm => ?_
  dsimp only
  rw [← bind_assoc]
  refine (@reorder_methods db now h ofID selects_ofID orderedIDs _ (assigns_tens h hperm) _
    fun methods x hfits => ?_).bind fun methods hmethods => ?_
  · refine (setMethodPriority_yields hfits).bind fun methods' hmethods' => ?_
    split
    · exact rfl
    · exact hmethods'
  · exact h.reordered ⟨id, by simp, fun s hs => ⟨rfl, rfl, rfl, h.positive s hs⟩⟩ hmethods

/-! ## histories -/

theorem perform_sound (h : Sound db) {op : Operation} (hop : ¬ Collides db op) :
    Yields Sound Harmless (perform now db op) := by
  cases op with
  | create input => exact (@create_yields db now h input).map
  | setEnabled id enabled => exact setEnabled_yields h
  | reorderEnabled orderedIDs => exact reorderEnabled_yields h
  | delete id => exact (@delete_yields db id h).map
  | reorderEnabledMethods orderedIDs => exact reorderEnabledMethods_yields h
  | setMethodEnabled id enabled =>
  show Yields Sound Harmless (setMethodEnabled now id enabled db)
  by_cases hblank : trimSpace id = ""
  · rw [setMethodEnabled, if_pos hblank]
    exact rfl
  cases hfind : db.methods.find id with
  | none =>
    rw [setMethodEnabled, if_neg hblank, hfind]
    exact rfl
  | some m =>
  have hm : m ∈ db.methods.rows := Table.mem_of_find hfind
  have hid : m.id = id := Table.key_of_find hfind
  subst hid
  refine (setMethodEnabled_runs h hm hblank ?_).mono (fun _ hs => hs) fun _ hno => hno.elim
  rintro rfl hoff htaken
  exact hop ⟨m, hm, rfl, hoff, htaken⟩

theorem perform_collides (h : Sound db) {op : Operation} (hop : Collides db op) :
    ∃ p, perform now db op = .error (.subscriptions (.entry (.priority p))) := by
  cases op with
  | setMethodEnabled id enabled =>
    cases enabled with
    | true =>
      obtain ⟨m, hm, rfl, hoff, htaken⟩ := hop
      exact setMethodEnabled_taken h hm hoff htaken
    | false => exact hop.elim
  | create | setEnabled | reorderEnabled | delete | reorderEnabledMethods => exact hop.elim

theorem sound_after (h : Sound db) (x : Time × Operation) : Sound (after db x) := by
  by_cases hop : Collides db x.2
  · obtain ⟨p, hp⟩ := @perform_collides db x.1 h x.2 hop
    rw [after, hp]
    exact h
  have hyields := @perform_sound db x.1 h x.2 hop
  rw [after]
  cases hx : perform x.1 db x.2 with
  | ok db' =>
    rw [hx] at hyields
    exact hyields
  | error e => exact h

theorem sound_reached (start : Time) (history : List (Time × Operation)) :
    Sound (reached start history) := by
  suffices H : ∀ db, Sound db → Sound (history.foldl after db) from H _ (sound_fresh start)
  induction history with
  | nil => exact fun db h => h
  | cons x history ih => exact fun db h => ih _ (sound_after h x)

def InStep (db : Database) : Prop :=
  ∀ s ∈ db.subscriptions.rows, ∃ m, db.methodOf s.id = some m ∧ m.enabled = s.enabled

theorem Sound.inStep (h : Sound db) : InStep db := by
  intro s hs
  obtain ⟨m, hm, hid, hen⟩ := h.owner s hs
  cases hfind : db.methodOf s.id with
  | none => exact absurd hid (by simpa using find?_eq_none.mp hfind m hm)
  | some m' =>
  have hid' : m'.subscriptionID = some s.id := by simpa using find?_some hfind
  rw [one_ofSubscriptionID hm (mem_of_find?_eq_some hfind) hid hid'] at hen
  exact ⟨m', rfl, hen⟩

end

/-- **Priorities over whole histories.**  The subscriptions stay in step with their methods.  An
operation fails because an enabled row has the priority already exactly when it switches on the
method of a subscription whose old priority was given away, and only then does switching on a
disabled method of a subscription fail at all. -/
theorem priority_taken_iff (start : Time) (history : List (Time × Operation)) (now : Time)
    (op : Operation) :
    InStep (reached start history) ∧
      ((∃ e, perform now (reached start history) op = .error e ∧ e.priorityTaken = true) ↔
        Collides (reached start history) op) ∧
      ∀ m ∈ (reached start history).methods.rows, m.kind = .subscription → m.enabled = false →
        ((∃ db, setMethodEnabled now m.id true (reached start history) = .ok db) ↔
          ¬ Taken (reached start history) m) := by
  have h := sound_reached start history
  refine ⟨h.inStep, ⟨?_, ?_⟩, ?_⟩
  · rintro ⟨e, he, htaken⟩
    by_contra hop
    have hyields := @perform_sound _ now h op hop
    rw [he] at hyields
    rw [show e.priorityTaken = false from hyields] at htaken
    cases htaken
  · intro hop
    obtain ⟨p, hp⟩ := @perform_collides _ now h op hop
    exact ⟨_, hp, rfl⟩
  intro m hm hkind hoff
  constructor
  · rintro ⟨db, hdb⟩ htaken
    obtain ⟨p, hp⟩ := @setMethodEnabled_taken _ now h m hm hoff htaken
    rw [hp] at hdb
    cases hdb
  intro hfree
  have hyields := @setMethodEnabled_runs _ now true h m hm (h.not_blank hm hkind)
    fun _ _ => hfree
  cases hx : setMethodEnabled now m.id true (reached start history) with
  | ok db => exact ⟨db, rfl⟩
  | error e =>
  rw [hx] at hyields
  exact hyields.elim

def sampleInput (id : String) : CreateInput :=
  { id, name := id, sourceType := "url", sourceSecretRef := "ref", refreshInterval := 3600 * second }

/-- one subscription is switched off, and the next one gets its priority -/
def sampleHistory : List (Time × Operation) :=
  [(1, .create (sampleInput "a")), (2, .setEnabled "a" false), (3, .create (sampleInput "b"))]

def refusal {α : Type} : Except Fault α → Option Fault
  | .ok _ => none
  | .error e => some e

theorem priority_given_away :
    refusal (perform 4 (reached 0 sampleHistory) (.setMethodEnabled "access:subscription:a" true)) =
      some (.subscriptions (.entry (.priority 10))) := by
  decide +kernel

/-- **Subscriptions and methods over whole histories.**  They belong to each other one to one, under
the same flag, and the priorities of the enabled methods are different multiples of ten. -/
theorem methods_paired (start : Time) (history : List (Time × Operation)) :
    let db := reached start history
    (∀ s ∈ db.subscriptions.rows, ∃! m, m ∈ db.methods.rows ∧ m.subscriptionID = some s.id) ∧
      (∀ m ∈ db.methods.rows, m.kind = .subscription → ∃! s, s ∈ db.subscriptions.rows ∧
        m.subscriptionID = some s.id ∧ m.id = "access:subscription:" ++ s.id ∧
          m.enabled = s.enabled) ∧
      (db.enabledMethods.map Method.priority).Nodup ∧
      ∀ m ∈ db.methods.rows, 0 < m.priority ∧ 10 ∣ m.priority := by
  intro db
  have h : Sound db := sound_reached start history
  refine ⟨fun s hs => ?_, fun m hm hkind => ?_, ?_, fun m hm => ⟨Sound.method_pos hm, h.tens m hm⟩⟩
  · obtain ⟨m, hm, hid, -⟩ := h.owner s hs
    exact ⟨m, ⟨hm, hid⟩, fun m' hm' => one_ofSubscriptionID hm'.1 hm hm'.2 hid⟩
  · rcases subscriptionID_of_kind hm with ⟨hdirect, -⟩ | ⟨-, id, hid⟩
    · cases hkind.symm.trans hdirect
    obtain ⟨s, hs, rfl, hflag⟩ := h.owned m hm id hid
    refine ⟨s, ⟨hs, hid, h.named m hm _ hid, hflag⟩, fun s' hs' => ?_⟩
    exact db.subscriptions.eq_of_key hs'.1 hs (Option.some.inj (hs'.2.1.symm.trans hid))
  · exact priorities_nodup (methods_nodup.filter _) fun m hm => mem_filter.mp hm

end GatewayVpn.Registry
