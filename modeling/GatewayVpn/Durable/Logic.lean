import GatewayVpn.Durable.Proc

/-!
# A program logic for procedures that can be cut off

`wp exec A C p Q s` holds when every run of `p` from `s` whose fates all satisfy `A`

* ends, if it ends, with a result and a state that satisfy `Q`;
* stands in a state that satisfies `C` before each of its calls.

The second clause is the crash condition: a run is cut off just before a call, so `C` is what
is known about the state that a crash leaves behind.
-/

namespace Durable

variable {Op : Type} {Ret : Op → Type} {α β σ : Type}

section
variable (exec : (o : Op) → Fate → σ → Ret o × σ) (A : Fate → Prop)

def wp (C : σ → Prop) : Proc Op Ret α → (α → σ → Prop) → σ → Prop
  | .done a, Q, s => Q a s
  | .call o k, Q, s => C s ∧ ∀ f, A f → wp C (k (exec o f s).1) Q (exec o f s).2

@[simp] theorem wp_done (C : σ → Prop) (a : α) (Q : α → σ → Prop) (s : σ) :
    wp exec A C (.done a) Q s = Q a s := rfl
theorem wp_call (C : σ → Prop) (o : Op) (k : Ret o → Proc Op Ret α) (Q : α → σ → Prop) (s : σ) :
    wp exec A C (.call o k) Q s =
      (C s ∧ ∀ f, A f → wp exec A C (k (exec o f s).1) Q (exec o f s).2) := rfl

end

variable {exec : (o : Op) → Fate → σ → Ret o × σ} {A : Fate → Prop}

variable {Q : α → σ → Prop} {C : σ → Prop} {s : σ}

theorem wp_step {o : Op} {k : Ret o → Proc Op Ret α} (hC : C s)
    (h : ∀ f, A f → ∀ r t, exec o f s = (r, t) → wp exec A C (k r) Q t) :
    wp exec A C (.call o k) Q s :=
  ⟨hC, fun f hf => h f hf _ _ rfl⟩

variable {p : Proc Op Ret α}

theorem wp_bind {f : α → Proc Op Ret β} {Q : β → σ → Prop} :
    wp exec A C (p.bind f) Q s ↔ wp exec A C p (fun a => wp exec A C (f a) Q) s := by
  induction p generalizing s with
  | done a => rfl
  | call o k ih =>
    show (C s ∧ ∀ f', A f' → _) ↔ (C s ∧ ∀ f', A f' → _)
    exact and_congr_right fun _ => forall₂_congr fun f' _ => ih _

variable {Q' : α → σ → Prop} {C' : σ → Prop}

theorem wp_mono (hC : ∀ t, C t → C' t)
    (hQ : ∀ a t, Q a t → Q' a t) (h : wp exec A C p Q s) : wp exec A C' p Q' s := by
  induction p generalizing s with
  | done a => exact hQ a s h
  | call o k ih => exact ⟨hC s h.1, fun f hf => ih _ (h.2 f hf)⟩

theorem wp_post (hQ : ∀ a t, Q a t → Q' a t) (h : wp exec A C p Q s) :
    wp exec A C p Q' s := wp_mono (fun _ hC => hC) hQ h

theorem wp_attempt {ε : Type} {p : Proc Op Ret (Except ε α)} {h : ε → Proc Op Ret β}
    {k : α → Proc Op Ret β} {Q : β → σ → Prop} {R : Except ε α → σ → Prop} (hp : wp exec A C p R s)
    (hh : ∀ err t, R (.error err) t → wp exec A C (h err) Q t)
    (hk : ∀ a t, R (.ok a) t → wp exec A C (k a) Q t) : wp exec A C (p.attempt h k) Q s := by
  refine wp_bind.2 (wp_post ?_ hp)
  rintro (err | a) t hR
  · exact hh err t hR
  · exact hk a t hR

theorem wp_forall {ι : Type} {C : ι → σ → Prop} {Q : ι → α → σ → Prop}
    (h : ∀ i, wp exec A (C i) p (Q i) s) :
    wp exec A (fun t => ∀ i, C i t) p (fun a t => ∀ i, Q i a t) s := by
  induction p generalizing s with
  | done a => exact h
  | call o k ih => exact ⟨fun i => (h i).1, fun f hf => ih _ fun i => (h i).2 f hf⟩

theorem wp_and (h : wp exec A C p Q s) (h' : wp exec A C' p Q' s) :
    wp exec A (fun t => C t ∧ C' t) p (fun a t => Q a t ∧ Q' a t) s := by
  induction p generalizing s with
  | done a => exact ⟨h, h'⟩
  | call o k ih => exact ⟨⟨h.1, h'.1⟩, fun f hf => ih _ (h.2 f hf) (h'.2 f hf)⟩

variable {ans : (o : Op) → Ret o → Prop}

/-- **The frame rule**: what every operation of the procedure keeps, the procedure keeps. -/
theorem wp_of_all_within {P : Op → Prop} {I : σ → Prop}
    (hans : ∀ o f s, I s → ans o (exec o f s).1) (hI : ∀ o f s, P o → A f → I s → I (exec o f s).2)
    (hp : p.All ans P) (hs : I s) : wp exec A I p (fun _ => I) s := by
  induction p generalizing s with
  | done a => exact hs
  | call o k ih => exact ⟨hs, fun f hf => ih _ (hp.2 _ (hans o f s hs)) (hI o f s hp.1 hf hs)⟩

/-- the frame rule, when the answers do not depend on what is kept -/
theorem wp_of_all (hans : ∀ o f s, ans o (exec o f s).1)
    {P : Op → Prop} {I : σ → Prop} (hI : ∀ o f s, P o → A f → I s → I (exec o f s).2)
    (hp : p.All ans P) (hs : I s) : wp exec A I p (fun _ => I) s :=
  wp_of_all_within (fun o f s _ => hans o f s) hI hp hs

theorem wp_kept {I : σ → Prop} (hI : ∀ o f s, A f → I s → I (exec o f s).2)
    (p : Proc Op Ret α) {s : σ} (hs : I s) : wp exec A I p (fun _ => I) s := by
  induction p generalizing s with
  | done a => exact hs
  | call o k ih => exact ⟨hs, fun f hf => ih _ (hI o f s hf hs)⟩

theorem wp_of_ends {Q : α → Prop} (hp : p.Ends Q) (s : σ) :
    wp exec A (fun _ => True) p (fun a _ => Q a) s := by
  induction p generalizing s with
  | done a => exact hp
  | call o k ih => exact ⟨trivial, fun f _ => ih _ (hp _) _⟩

/-- **Soundness.**  A finished run satisfies `Q`, a run that was cut off satisfies `C`. -/
theorem wp_sound {C : σ → Prop} {p : Proc Op Ret α} {Q : α → σ → Prop} {s : σ}
    (h : wp exec A C p Q s) {fs : List Fate} (hfs : ∀ f ∈ fs, A f) :
    (∀ a, (run exec p fs s).result = some a → Q a (run exec p fs s).state) ∧
      ((run exec p fs s).result = none → C (run exec p fs s).state) := by
  induction p generalizing s fs with
  | done a =>
    refine ⟨fun b hb => ?_, fun hb => ?_⟩
    · obtain rfl : a = b := by simpa using hb
      exact h
    · simp at hb
  | call o k ih =>
    cases fs with
    | nil => exact ⟨fun b hb => by simp at hb, fun _ => h.1⟩
    | cons f fs =>
    have hf : A f := hfs f (by simp)
    exact ih _ (h.2 f hf) fun g hg => hfs g (by simp [hg])

theorem wp_runWith (h : wp exec A C p Q s) {env : Op → Fate} (henv : ∀ o, A (env o)) :
    Q (runWith exec env p s).1 (runWith exec env p s).2 := by
  induction p generalizing s with
  | done a => exact h
  | call o k ih => exact ih _ (h.2 (env o) (henv o))

/-- when no call fails, the logic speaks about one run -/
theorem wp_oks_iff : wp exec (fun f => f = .ok) (fun _ => True) p Q s ↔
      Q (runWith exec (fun _ => .ok) p s).1 (runWith exec (fun _ => .ok) p s).2 := by
  induction p generalizing s with
  | done a => rfl
  | call o k ih =>
    rw [wp_call, true_and, forall_eq]
    exact ih _

/-- the invariant form: `I` at every crash point and at the end -/
theorem wp_run_state {I : σ → Prop} {p : Proc Op Ret α} {s : σ}
    (h : wp exec A I p (fun _ => I) s) {fs : List Fate} (hfs : ∀ f ∈ fs, A f) :
    I (run exec p fs s).state := by
  obtain ⟨hdone, hcut⟩ := wp_sound h hfs
  cases e : (run exec p fs s).result with
  | none => exact hcut e
  | some a => exact hdone a e

end Durable
