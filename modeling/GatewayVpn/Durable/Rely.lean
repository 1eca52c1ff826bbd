import GatewayVpn.Durable.Proc

/-!
# A procedure beside other calls

One procedure runs step by step while others call the same state between its steps.  `Guards` is
the rely-guarantee reading of a procedure: whatever the others may have done since the last step,
the next one may be taken if it is admitted, and the end satisfies `Q`.
-/

namespace Durable

variable {Op : Type} {Ret : Op → Type} {α σ ι γ τ : Type}

/-- the state, and the procedure that is running with the job it was started for -/
structure Shared (Op : Type) (Ret : Op → Type) (α σ ι : Type) where
  state : σ
  running : Option (ι × Proc Op Ret α)

inductive Move (ι γ : Type) where
  | aside (c : γ)
  | start (i : ι) (f : Fate)
  /-- the next step of the procedure that is running -/
  | step (f : Fate)

section
variable (exec : τ → (o : Op) → Fate → σ → Ret o × σ) (aside : τ → γ → σ → σ)
variable (proc : ι → Proc Op Ret α)

def Proc.rest (i : ι) : Proc Op Ret α → Option (ι × Proc Op Ret α)
  | .done _ => none
  | p => some (i, p)

def advance (t : τ) (i : ι) (f : Fate) (s : σ) : Proc Op Ret α → Shared Op Ret α σ ι
  | .done _ => ⟨s, none⟩
  | .call o k => ⟨(exec t o f s).2, (k (exec t o f s).1).rest i⟩

def turn (w : Shared Op Ret α σ ι) (m : τ × Move ι γ) : Shared Op Ret α σ ι :=
  match m.2, w.running with
  | .aside c, _ => { w with state := aside m.1 c w.state }
  | .start i f, none => advance exec m.1 i f w.state (proc i)
  | .step f, some (i, p) => advance exec m.1 i f w.state p
  | _, _ => w

variable (admits : ι → (o : Op) → σ → Prop) (beside : ι → σ → σ → Prop) (apart : ι → γ → σ → Prop)

/-- every admitted way on from `s` ends in `Q` -/
def Guards (i : ι) (Q : α → σ → Prop) : Proc Op Ret α → σ → Prop
  | .done a, s => Q a s
  | .call o k, s => ∀ s', beside i s s' → admits i o s' →
      ∀ t f, Guards i Q (k (exec t o f s').1) (exec t o f s').2

def Proc.Ready (i : ι) (s : σ) : Proc Op Ret α → Prop
  | .done _ => True
  | .call o _ => admits i o s

def Allowed (w : Shared Op Ret α σ ι) (m : τ × Move ι γ) : Prop :=
  match m.2, w.running with
  | .aside c, some (i, _) => apart i c w.state
  | .start i _, none => (proc i).Ready admits i w.state
  | .step _, some (i, p) => p.Ready admits i w.state
  | _, _ => True

def Admitted : Shared Op Ret α σ ι → List (τ × Move ι γ) → Prop
  | _, [] => True
  | w, m :: ms =>
    Allowed proc admits apart w m ∧ Admitted (turn exec aside proc w m) ms

section
variable [∀ i o s, Decidable (admits i o s)] [∀ i c s, Decidable (apart i c s)]

instance (i : ι) (s : σ) : (p : Proc Op Ret α) → Decidable (p.Ready admits i s)
  | .done _ => isTrue trivial
  | .call o _ => inferInstanceAs (Decidable (admits i o s))

instance (w : Shared Op Ret α σ ι) (m : τ × Move ι γ) : Decidable (Allowed proc admits apart w m) := by
  unfold Allowed
  split <;> infer_instance

instance : (w : Shared Op Ret α σ ι) → (ms : List (τ × Move ι γ)) →
    Decidable (Admitted exec aside proc admits apart w ms)
  | _, [] => isTrue trivial
  | w, m :: ms =>
    have := instDecidableAdmitted (turn exec aside proc w m) ms
    inferInstanceAs (Decidable (Allowed proc admits apart w m ∧ _))

end

def playAll (w : Shared Op Ret α σ ι) (ms : List (τ × Move ι γ)) : Shared Op Ret α σ ι :=
  ms.foldl (turn exec aside proc) w

/-- between two steps the procedure guards what the others leave -/
def Guarded (I : σ → Prop) (w : Shared Op Ret α σ ι) : Prop :=
  match w.running with
  | none => I w.state
  | some (i, p) => ∃ s, beside i s w.state ∧ Guards exec admits beside i (fun _ => I) p s

end

variable {exec : τ → (o : Op) → Fate → σ → Ret o × σ} {aside : τ → γ → σ → σ}
variable {proc : ι → Proc Op Ret α} {admits : ι → (o : Op) → σ → Prop}
variable {beside : ι → σ → σ → Prop} {apart : ι → γ → σ → Prop} {I : σ → Prop}

section
variable (hrefl : ∀ i s, beside i s s)
variable (htrans : ∀ i s s' s'', beside i s s' → beside i s' s'' → beside i s s'')
variable (hkeeps : ∀ i s s', beside i s s' → I s → I s')
variable (hstart : ∀ i s, I s → Guards exec admits beside i (fun _ => I) (proc i) s)
variable (haside : ∀ t c s, I s → I (aside t c s))
variable (hapart : ∀ t i c s, apart i c s → beside i s (aside t c s))

include hrefl hkeeps in
theorem Guards.advance {i : ι} {s s' : σ} {p : Proc Op Ret α}
    (hp : Guards exec admits beside i (fun _ => I) p s) (hs : beside i s s')
    (hready : p.Ready admits i s') (t : τ) (f : Fate) :
    Guarded exec admits beside I (advance exec t i f s' p) := by
  cases p with
  | done a => exact hkeeps i s s' hs hp
  | call o k =>
  have hnext := hp s' hs hready t f
  show Guarded exec admits beside I ⟨(exec t o f s').2, (k (exec t o f s').1).rest i⟩
  cases hk : k (exec t o f s').1 with
  | done a =>
    rw [hk] at hnext
    exact hnext
  | call o' k' =>
  rw [hk] at hnext
  exact ⟨_, hrefl i _, hnext⟩

include hrefl htrans hkeeps hstart haside hapart

theorem Guarded.turn {w : Shared Op Ret α σ ι} {m : τ × Move ι γ}
    (hw : Guarded exec admits beside I w) (hm : Allowed proc admits apart w m) :
    Guarded exec admits beside I (turn exec aside proc w m) := by
  obtain ⟨t, m⟩ := m
  obtain ⟨s, running⟩ := w
  cases m with
  | aside c =>
    cases running with
    | none => exact haside t c s hw
    | some ip =>
    obtain ⟨s0, hs0, hp⟩ := hw
    exact ⟨s0, htrans _ _ _ _ hs0 (hapart t ip.1 c s hm), hp⟩
  | start i f =>
    cases running with
    | none => exact (hstart i s hw).advance hrefl hkeeps (hrefl i s) hm t f
    | some ip => exact hw
  | step f =>
  cases running with
  | none => exact hw
  | some ip =>
  obtain ⟨s0, hs0, hp⟩ := hw
  exact hp.advance hrefl hkeeps hs0 hm t f

/-- **Every idle state of an admitted run satisfies the invariant.** -/
theorem Admitted.idle {w : Shared Op Ret α σ ι} {ms : List (τ × Move ι γ)}
    (h : Admitted exec aside proc admits apart w ms) (hw : Guarded exec admits beside I w)
    (hidle : (playAll exec aside proc w ms).running = none) : I (playAll exec aside proc w ms).state := by
  induction ms generalizing w with
  | nil =>
    obtain ⟨s, running⟩ := w
    obtain rfl : running = none := hidle
    exact hw
  | cons m ms ih =>
    exact ih h.2 (hw.turn hrefl htrans hkeeps hstart haside hapart h.1) hidle

end

end Durable
