import GatewayVpn.Durable.Logic

/-!
# A component inside a larger machine

A component has its own operations, its own state and its own procedures.  `embed` turns a
procedure of the component into a procedure of the larger machine; `Part` says that the larger
machine carries the component: its state can be read and replaced, and its operations act on
nothing else.
-/

namespace Durable

variable {Op Op' : Type} {Ret : Op → Type} {Ret' : Op' → Type} {α β σ σ' : Type}

/-- a procedure of a component, as a procedure of the machine it is a part of -/
def Proc.embed (op : Op → Op') (answer : (o : Op) → Ret' (op o) → Ret o) :
    Proc Op Ret α → Proc Op' Ret' α
  | .done a => .done a
  | .call o k => .call (op o) fun r => (k (answer o r)).embed op answer

/-- the machine `exec'` carries the component `exec` -/
structure Part (exec : (o : Op) → Fate → σ → Ret o × σ)
    (exec' : (o : Op') → Fate → σ' → Ret' o × σ') where
  op : Op → Op'
  answer : (o : Op) → Ret' (op o) → Ret o
  get : σ' → σ
  set : σ' → σ → σ'
  get_set : ∀ s t, get (set s t) = t
  set_get : ∀ s, set s (get s) = s
  set_set : ∀ s t u, set (set s t) u = set s u
  answer_exec : ∀ o f s, answer o (exec' (op o) f s).1 = (exec o f (get s)).1
  exec_state : ∀ o f s, (exec' (op o) f s).2 = set s (exec o f (get s)).2

namespace Part

variable {exec : (o : Op) → Fate → σ → Ret o × σ} {exec' : (o : Op') → Fate → σ' → Ret' o × σ'}
variable (c : Part exec exec')

/-- **What holds of a procedure in the component holds of it in the machine.** -/
theorem wp_embed {A : Fate → Prop} {C : σ' → Prop} {p : Proc Op Ret α} {Q : α → σ' → Prop}
    {s : σ'} : wp exec' A C (p.embed c.op c.answer) Q s ↔
      wp exec A (fun t => C (c.set s t)) p (fun a t => Q a (c.set s t)) (c.get s) := by
  induction p generalizing s with
  | done a =>
    show Q a s ↔ Q a (c.set s (c.get s))
    rw [c.set_get]
  | call o k ih =>
    have hstep : ∀ f, wp exec' A C
        ((k (c.answer o (exec' (c.op o) f s).1)).embed c.op c.answer) Q (exec' (c.op o) f s).2 ↔
        wp exec A (fun t => C (c.set s t)) (k (exec o f (c.get s)).1)
          (fun a t => Q a (c.set s t)) (exec o f (c.get s)).2 := by
      intro f
      rw [c.answer_exec, c.exec_state, ih]
      simp only [c.get_set, c.set_set]
    show (C s ∧ ∀ f, A f → _) ↔ (C (c.set s (c.get s)) ∧ ∀ f, A f → _)
    rw [c.set_get]
    exact and_congr_right fun _ => forall₂_congr fun f _ => hstep f

end Part

end Durable
