import GatewayVpn.Durable.Proc

/-!
# Runs in which some calls may not fail

`adm o f s` says which fate a call may have, depending on the operation and on the state in which it
is made.  `Admissible` is a run, finished or cut off, in which every call has a fate that it may
have; `awp exec adm C p Q s` speaks about all such runs of `p` from `s`: one that ends satisfies `Q`,
and before each call the state satisfies `C`.
-/

namespace Durable

variable {Op : Type} {Ret : Op → Type} {α β σ : Type}

section
variable (exec : (o : Op) → Fate → σ → Ret o × σ) (adm : (o : Op) → Fate → σ → Prop)

def Admissible : Proc Op Ret α → List Fate → σ → Prop
  | .done _, _, _ => True
  | .call _ _, [], _ => True
  | .call o k, f :: fs, s => adm o f s ∧ Admissible (k (exec o f s).1) fs (exec o f s).2

instance decidableAdmissible [∀ o f s, Decidable (adm o f s)] :
    (p : Proc Op Ret α) → (fs : List Fate) → (s : σ) → Decidable (Admissible exec adm p fs s)
  | .done _, _, _ => isTrue trivial
  | .call _ _, [], _ => isTrue trivial
  | .call o k, f :: fs, s =>
    have := decidableAdmissible (k (exec o f s).1) fs (exec o f s).2
    inferInstanceAs (Decidable (adm o f s ∧ _))

def awp (C : σ → Prop) : Proc Op Ret α → (α → σ → Prop) → σ → Prop
  | .done a, Q, s => Q a s
  | .call o k, Q, s => C s ∧ ∀ f, adm o f s → awp C (k (exec o f s).1) Q (exec o f s).2

end

variable {exec : (o : Op) → Fate → σ → Ret o × σ} {adm : (o : Op) → Fate → σ → Prop}

variable {s : σ} {Q : α → σ → Prop} {C : σ → Prop}

theorem awp_step {o : Op} {k : Ret o → Proc Op Ret α} (hC : C s)
    (h : ∀ f, adm o f s → ∀ r t, exec o f s = (r, t) → awp exec adm C (k r) Q t) :
    awp exec adm C (.call o k) Q s :=
  ⟨hC, fun f hf => h f hf _ _ rfl⟩

variable {p : Proc Op Ret α} {f : α → Proc Op Ret β}

theorem awp_bind {Q : β → σ → Prop} : awp exec adm C (p.bind f) Q s ↔
      awp exec adm C p (fun a => awp exec adm C (f a) Q) s := by
  induction p generalizing s with
  | done a => rfl
  | call o k ih => exact and_congr_right fun _ => forall₂_congr fun f' _ => ih _

variable {Q' : α → σ → Prop}

theorem awp_mono {C' : σ → Prop} (hC : ∀ t, C t → C' t)
    (hQ : ∀ a t, Q a t → Q' a t) (h : awp exec adm C p Q s) : awp exec adm C' p Q' s := by
  induction p generalizing s with
  | done a => exact hQ a s h
  | call o k ih => exact ⟨hC s h.1, fun f hf => ih _ (h.2 f hf)⟩

theorem awp_post (hQ : ∀ a t, Q a t → Q' a t) (h : awp exec adm C p Q s) :
    awp exec adm C p Q' s := awp_mono (fun _ hC => hC) hQ h

theorem awp_seq {Q : β → σ → Prop} {R : α → σ → Prop}
    (hp : awp exec adm C p R s) (hf : ∀ a t, R a t → awp exec adm C (f a) Q t) :
    awp exec adm C (p.bind f) Q s :=
  awp_bind.mpr (awp_post hf hp)

theorem awp_attempt {ε : Type} {p : Proc Op Ret (Except ε α)} {h : ε → Proc Op Ret β}
    {k : α → Proc Op Ret β} {Q : β → σ → Prop} {R : Except ε α → σ → Prop}
    (hp : awp exec adm C p R s) (hh : ∀ err t, R (.error err) t → awp exec adm C (h err) Q t)
    (hk : ∀ a t, R (.ok a) t → awp exec adm C (k a) Q t) : awp exec adm C (p.attempt h k) Q s := by
  refine awp_seq hp ?_
  rintro (err | a) t hR
  · exact hh err t hR
  · exact hk a t hR

theorem awp_frame {P : Op → Prop} {I : σ → Prop}
    (hI : ∀ o f s, P o → adm o f s → I s → I (exec o f s).2) (hp : p.All (fun _ _ => True) P)
    (hs : I s) : awp exec adm I p (fun _ => I) s := by
  induction p generalizing s with
  | done a => exact hs
  | call o k ih => exact ⟨hs, fun f hf => ih _ (hp.2 _ trivial) (hI o f s hp.1 hf hs)⟩

theorem admissible_of_all {P : Op → Prop} (hP : ∀ o f s, P o → adm o f s)
    (hp : p.All (fun _ _ => True) P) (fs : List Fate) (s : σ) : Admissible exec adm p fs s := by
  induction p generalizing fs s with
  | done a => trivial
  | call o k ih =>
    cases fs with
    | nil => trivial
    | cons f fs => exact ⟨hP o f s hp.1, ih _ (hp.2 _ trivial) fs _⟩

/-- **Soundness.**  A finished run satisfies `Q`, a run that was cut off satisfies `C`. -/
theorem awp_sound {fs : List Fate} (h : awp exec adm C p Q s) (hfs : Admissible exec adm p fs s) :
    (∀ a, (run exec p fs s).result = some a → Q a (run exec p fs s).state) ∧
      ((run exec p fs s).result = none → C (run exec p fs s).state) := by
  induction p generalizing s fs with
  | done a =>
    refine ⟨fun b hb => ?_, fun hb => ?_⟩
    · obtain rfl : a = b := by simpa using hb
      exact h
    · simp at hb
  | call o k ih =>
    cases fs with
    | nil => exact ⟨fun b hb => by simp at hb, fun _ => h.1⟩
    | cons f fs => exact ih _ (h.2 f hfs.1) hfs.2

end Durable
