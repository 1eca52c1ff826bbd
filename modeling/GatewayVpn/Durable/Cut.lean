import GatewayVpn.Durable.Proc

/-!
# Procedures in an environment

An environment gives every operation its fate.  `runFor exec env n p s` drives the procedure `p` in
the environment `env` and cuts it off before its call number `n + 1`.
-/

namespace Durable

variable {Op : Type} {Ret : Op → Type} {α β σ : Type}

section
variable (exec : (o : Op) → Fate → σ → Ret o × σ) (env : Op → Fate)

def runFor : Nat → Proc Op Ret α → σ → Option α × σ
  | _, .done a, s => (some a, s)
  | 0, .call _ _, s => (none, s)
  | n + 1, .call o k, s => runFor n (k (exec o (env o) s).1) (exec o (env o) s).2

/-- `C` before each call and `Q` at the end -/
def along (C : σ → Prop) : Proc Op Ret α → (α → σ → Prop) → σ → Prop
  | .done a, Q, s => Q a s
  | .call o k, Q, s => C s ∧ along C (k (exec o (env o) s).1) Q (exec o (env o) s).2

end

variable {exec : (o : Op) → Fate → σ → Ret o × σ} {env : Op → Fate}

theorem along_mono {C C' : σ → Prop} {p : Proc Op Ret α} {Q Q' : α → σ → Prop} {s : σ}
    (hC : ∀ t, C t → C' t) (hQ : ∀ a t, Q a t → Q' a t) (h : along exec env C p Q s) :
    along exec env C' p Q' s := by
  induction p generalizing s with
  | done a => exact hQ a s h
  | call o k ih => exact ⟨hC s h.1, ih _ h.2⟩

theorem along_of_all {ans : (o : Op) → Ret o → Prop} {P : Op → Prop} {I : σ → Prop}
    (hans : ∀ o f s, I s → ans o (exec o f s).1) (hI : ∀ o f s, P o → I s → I (exec o f s).2)
    {p : Proc Op Ret α} (hp : p.All ans P) {s : σ} (hs : I s) :
    along exec env I p (fun _ => I) s := by
  induction p generalizing s with
  | done a => exact hs
  | call o k ih => exact ⟨hs, ih _ (hp.2 _ (hans o _ s hs)) (hI o _ s hp.1 hs)⟩

/-- **A finished run satisfies `Q`, a run that was cut off satisfies `C`.** -/
theorem along_runFor {C : σ → Prop} {p : Proc Op Ret α} {Q : α → σ → Prop} {s : σ}
    (h : along exec env C p Q s) (n : Nat) :
    (∀ a, (runFor exec env n p s).1 = some a → Q a (runFor exec env n p s).2) ∧
      ((runFor exec env n p s).1 = none → C (runFor exec env n p s).2) := by
  induction p generalizing n s with
  | done a =>
    have hrun : runFor exec env n (.done a : Proc Op Ret α) s = (some a, s) := by
      cases n <;> rfl
    rw [hrun]
    refine ⟨fun b hb => ?_, fun hb => ?_⟩
    · obtain rfl := Option.some.inj hb
      exact h
    · cases hb
  | call o k ih =>
    cases n with
    | zero => exact ⟨fun b hb => (Option.some_ne_none b hb.symm).elim, fun _ => h.1⟩
    | succ n => exact ih _ h.2 n

/-! ## runs -/

section
variable {τ : Type} {step : σ → τ → σ} {cond : σ → τ → Prop}

/-- each step of the run meets the condition in the state that it is taken in -/
def Throughout (step : σ → τ → σ) (cond : σ → τ → Prop) : σ → List τ → Prop
  | _, [] => True
  | s, t :: ts => cond s t ∧ Throughout step cond (step s t) ts

theorem Throughout.append {s : σ} {ts us : List τ} : Throughout step cond s (ts ++ us) ↔
      Throughout step cond s ts ∧ Throughout step cond (ts.foldl step s) us := by
  induction ts generalizing s with
  | nil => simp [Throughout]
  | cons t ts ih => simp [Throughout, ih, and_assoc]

theorem Throughout.invariant {I : σ → Prop} (hstep : ∀ s t, I s → cond s t → I (step s t)) {s : σ}
    {ts : List τ} (hs : I s) (h : Throughout step cond s ts) : I (ts.foldl step s) := by
  induction ts generalizing s with
  | nil => exact hs
  | cons t ts ih => exact ih (hstep s t hs h.1) h.2

end

end Durable
