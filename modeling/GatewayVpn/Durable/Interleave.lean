import GatewayVpn.Durable.Proc

/-!
# Two procedures at the same time

Two processes that share a state, each a procedure, take their steps in an order that a schedule
gives: a list of `true` (a step of the first) and `false` (a step of the second).  Here every
operation is carried out; `step` says what it answers and does.

The simulation lets the first procedure own a ghost value: what is known about a part of the state
that only its own steps change.
-/

namespace Durable

variable {Op Op' : Type} {Ret : Op → Type} {Ret' : Op' → Type} {α α' β β' γ σ σ' : Type}

/-! ## schedules -/

/-- the end of both procedures, or `none` if the schedule stops before it or gives a turn to a
procedure that is done -/
def interleave (step : (o : Op) → σ → Ret o × σ) :
    Proc Op Ret α → Proc Op Ret β → List Bool → σ → Option σ
  | .done _, .done _, [], s => some s
  | .call o k, q, true :: l, s => interleave step (k (step o s).1) q l (step o s).2
  | p, .call o k, false :: l, s => interleave step p (k (step o s).1) l (step o s).2
  | _, _, _, _ => none

/-- for each turn of the first procedure, the number of turns of the second before it, when there
were `n` already -/
def turnsFrom : Nat → List Bool → List Nat
  | _, [] => []
  | n, true :: l => n :: turnsFrom n l
  | n, false :: l => turnsFrom (n + 1) l

/-- how far the second procedure is at each turn of the first -/
def turns (l : List Bool) : List Nat := turnsFrom 0 l

variable {q : Proc Op Ret β}

/-- a first procedure that only reads and is then done leaves the second one alone; `I` is what the
steps of the second keep -/
theorem interleave_idle {step : (o : Op) → σ → Ret o × σ} {I : σ → Prop} {o : Op}
    {k : Ret o → Proc Op Ret α} {a : α} {s t : σ} {l : List Bool}
    (hread : ∀ s, I s → step o s = ((step o s).1, s) ∧ k (step o s).1 = .done a)
    (hq : q.All (fun _ _ => True) fun o => ∀ s, I s → I (step o s).2) (hs : I s)
    (h : interleave step (.call o k) q l s = some t) :
    ∃ l', interleave step (.done a : Proc Op Ret α) q l' s = some t := by
  induction l generalizing q s with
  | nil => cases q <;> cases h
  | cons turn l ih =>
    cases turn with
    | true =>
      obtain ⟨hstep, hk⟩ := hread s hs
      have h : interleave step (k (step o s).1) q l (step o s).2 = some t := h
      rw [hk, congrArg Prod.snd hstep] at h
      exact ⟨l, h⟩
    | false =>
    cases q with
    | done b => cases h
    | call o' k' =>
    obtain ⟨l', hl'⟩ := ih (hq.2 _ trivial) (hq.1 s hs) h
    exact ⟨false :: l', hl'⟩

/-! ## simulation -/

section
variable (step : (o : Op) → σ → Ret o × σ) (step' : (o : Op') → σ' → Ret' o × σ')
variable (R : γ → σ → σ' → Prop)

/-- the first procedures move in lockstep; a step may change the ghost value -/
def Leads : γ → Proc Op Ret α → Proc Op' Ret' α' → Prop
  | _, .done _, .done _ => True
  | g, .call o k, .call o' k' => ∀ s s', R g s s' → ∃ g', R g' (step o s).2 (step' o' s').2 ∧
      Leads g' (k (step o s).1) (k' (step' o' s').1)
  | _, _, _ => False

/-- the second procedures move in lockstep, whatever the ghost value is -/
def Follows : Proc Op Ret β → Proc Op' Ret' β' → Prop
  | .done _, .done _ => True
  | .call o k, .call o' k' => ∀ g s s', R g s s' → R g (step o s).2 (step' o' s').2 ∧
      Follows (k (step o s).1) (k' (step' o' s').1)
  | _, _ => False

end

variable {p : Proc Op Ret α}

section
variable {step : (o : Op) → σ → Ret o × σ} {step' : (o : Op') → σ' → Ret' o × σ'}
variable {R : γ → σ → σ' → Prop}

/-- **Under every schedule the two pairs end together, in related states.** -/
theorem interleave_rel {g : γ} {p' : Proc Op' Ret' α'}
    {q' : Proc Op' Ret' β'} {s : σ} {s' : σ'} (hp : Leads step step' R g p p')
    (hq : Follows step step' R q q') (h : R g s s') (l : List Bool) :
    Option.Rel (fun t t' => ∃ g, R g t t') (interleave step p q l s)
      (interleave step' p' q' l s') := by
  induction l generalizing g p p' q q' s s' with
  | nil =>
    cases p with
    | call o k =>
      cases p' with
      | done a' => exact hp.elim
      | call o' k' => cases q <;> cases q' <;> exact .none
    | done a =>
    cases p' with
    | call o' k' => exact hp.elim
    | done a' =>
    cases q with
    | done b =>
      cases q' with
      | done b' => exact .some ⟨g, h⟩
      | call o' k' => exact hq.elim
    | call o k =>
    cases q' with
    | done b' => exact hq.elim
    | call o' k' => exact .none
  | cons turn l ih =>
    cases turn with
    | true =>
      cases p with
      | done a =>
        cases p' with
        | done a' => cases q <;> cases q' <;> exact .none
        | call o' k' => exact hp.elim
      | call o k =>
      cases p' with
      | done a' => exact hp.elim
      | call o' k' =>
      obtain ⟨g', hR, hk⟩ := hp s s' h
      exact ih hk hq hR
    | false =>
    cases q with
    | done b =>
      cases q' with
      | done b' => cases p <;> cases p' <;> exact .none
      | call o' k' => exact hq.elim
    | call o k =>
    cases q' with
    | done b' => exact hq.elim
    | call o' k' =>
    obtain ⟨hR, hk⟩ := hq g s s' h
    cases p <;> cases p' <;> exact ih hp hk hR

end

/-! ## all schedules -/

section
variable (step : (o : Op) → σ → Ret o × σ) (check : List Nat → σ → Bool)

/-- every schedule of fewer than `fuel` turns that goes on from here ends in a state that passes the
check, and none is longer; the second procedure has had `n` turns, and `past` says how many it had
before each turn of the first, the latest first -/
def explore : Nat → Proc Op Ret α → Proc Op Ret β → Nat → List Nat → σ → Bool
  | 0, _, _, _, _, _ => false
  | _ + 1, .done _, .done _, _, past, s => check past.reverse s
  | fuel + 1, .call o k, .done b, n, past, s =>
    explore fuel (k (step o s).1) (.done b) n (n :: past) (step o s).2
  | fuel + 1, .done a, .call o k, n, past, s =>
    explore fuel (.done a) (k (step o s).1) (n + 1) past (step o s).2
  | fuel + 1, .call o k, .call o' k', n, past, s =>
    explore fuel (k (step o s).1) (.call o' k') n (n :: past) (step o s).2 &&
      explore fuel (.call o k) (k' (step o' s).1) (n + 1) past (step o' s).2

variable {step check}

/-- **What was explored holds under every schedule.** -/
theorem explore_sound {fuel n : Nat} {past : List Nat}
    {s t : σ} (h : explore step check fuel p q n past s = true) {l : List Bool}
    (ht : interleave step p q l s = some t) : check (past.reverse ++ turnsFrom n l) t = true := by
  induction fuel generalizing p q n past s l with
  | zero => cases h
  | succ fuel ih =>
    cases l with
    | nil =>
      cases p with
      | call o k => cases q <;> cases ht
      | done a =>
      cases q with
      | call o k => cases ht
      | done b =>
      cases ht
      rw [turnsFrom, List.append_nil]
      exact h
    | cons turn l =>
    cases turn with
    | true =>
      -- the turn is the latest of the past of the next state
      have hpast : past.reverse ++ turnsFrom n (true :: l) = (n :: past).reverse ++ turnsFrom n l := by
        simp [turnsFrom]
      rw [hpast]
      cases p with
      | done a => cases q <;> cases ht
      | call o k =>
      cases q with
      | done b => exact ih h ht
      | call o' k' => exact ih (Bool.and_eq_true_iff.1 h).1 ht
    | false =>
    cases q with
    | done b => cases p <;> cases ht
    | call o' k' =>
    cases p with
    | done a => exact ih h ht
    | call o k => exact ih (Bool.and_eq_true_iff.1 h).2 ht

end

end Durable
