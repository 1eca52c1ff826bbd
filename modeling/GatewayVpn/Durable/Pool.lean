import GatewayVpn.Durable.Proc

/-!
# Any number of procedures at the same time

Procedures that share a state are started one after the other and then take their steps in any
order.  A *beat* starts a procedure or lets one that was started make its next call.

Nothing is assumed about the order of the beats: a thread that gets no more of them has been cut
off.
-/

namespace Durable

variable {Op : Type} {Ret : Op → Type} {α σ ι : Type}

structure Pool (Op : Type) (Ret : Op → Type) (α σ : Type) where
  state : σ
  threads : List (Proc Op Ret α)

inductive Beat (ι : Type) where
  | start (i : ι)
  | step (n : Nat) (f : Fate)

def Beat.request : Beat ι → Option ι
  | .start i => some i
  | .step _ _ => none

def requests (beats : List (Beat ι)) : List ι := beats.filterMap Beat.request

section
variable (exec : (o : Op) → Fate → σ → Ret o × σ) (proc : ι → Proc Op Ret α)

def beat (x : Pool Op Ret α σ) : Beat ι → Pool Op Ret α σ
  | .start i => { x with threads := x.threads ++ [proc i] }
  | .step n f =>
    match x.threads[n]? with
    | some (.call o k) => ⟨(exec o f x.state).2, x.threads.set n (k (exec o f x.state).1)⟩
    | _ => x

def play (x : Pool Op Ret α σ) (beats : List (Beat ι)) : Pool Op Ret α σ :=
  beats.foldl (beat exec proc) x

/-- the state and the fate of a beat, if it is one of thread `n` -/
def Pool.moment (x : Pool Op Ret α σ) (n : Nat) : Beat ι → List (σ × Fate)
  | .start _ => []
  | .step m f => if m = n then [(x.state, f)] else []

def moments (n : Nat) : Pool Op Ret α σ → List (Beat ι) → List (σ × Fate)
  | _, [] => []
  | x, b :: bs => x.moment n b ++ moments n (beat exec proc x b) bs

def drive : Proc Op Ret α → List (σ × Fate) → Proc Op Ret α
  | p, [] => p
  | .done a, _ :: _ => .done a
  | .call o k, m :: ms => drive (k (exec o m.2 m.1).1) ms

end

variable {exec : (o : Op) → Fate → σ → Ret o × σ} {proc : ι → Proc Op Ret α}

@[simp] theorem drive_nil (p : Proc Op Ret α) : drive exec p [] = p := by
  cases p <;> rfl

@[simp] theorem drive_done (a : α) (ms : List (σ × Fate)) :
    drive exec (.done a : Proc Op Ret α) ms = .done a := by
  cases ms <;> rfl

theorem drive_append (p : Proc Op Ret α) (ms ns : List (σ × Fate)) :
    drive exec p (ms ++ ns) = drive exec (drive exec p ms) ns := by
  induction ms generalizing p with
  | nil => simp
  | cons m ms ih =>
    cases p with
    | done a => simp
    | call o k => exact ih _

/-! ## threads -/

variable {x : Pool Op Ret α σ} {p : Proc Op Ret α} {n : Nat}

theorem beat_thread (h : x.threads[n]? = some p) (b : Beat ι) :
    (beat exec proc x b).threads[n]? = some (drive exec p (x.moment n b)) := by
  have hn : n < x.threads.length := (List.getElem?_eq_some_iff.mp h).1
  cases b with
  | start i =>
    show (x.threads ++ [proc i])[n]? = _
    rw [List.getElem?_append_left hn, h, Pool.moment, drive_nil]
  | step m f =>
  rw [beat, Pool.moment]
  by_cases hm : m = n
  · subst hm
    rw [if_pos rfl, h]
    cases p with
    | done a => simpa using h
    | call o k => simp [hn, drive]
  · rw [if_neg hm, drive_nil]
    split
    · rwa [List.getElem?_set_ne hm]
    · exact h

/-- **A thread only sees its own moments.** -/
theorem play_thread (h : x.threads[n]? = some p) (beats : List (Beat ι)) :
    (play exec proc x beats).threads[n]? = some (drive exec p (moments exec proc n x beats)) := by
  induction beats generalizing x p with
  | nil => rw [moments, drive_nil]; exact h
  | cons b bs ih =>
    rw [moments, drive_append]
    exact ih (beat_thread h b)

theorem length_beat (x : Pool Op Ret α σ) (b : Beat ι) :
    (beat exec proc x b).threads.length = x.threads.length + b.request.toList.length := by
  cases b with
  | start i => simp [beat, Beat.request]
  | step n f =>
  rw [beat]
  split <;> simp [Beat.request]

/-- a thread that is not there yet is started with its request and then sees its own moments -/
theorem play_started {x : Pool Op Ret α σ} {n : Nat} {i : ι} {beats : List (Beat ι)}
    (h : (requests beats)[n]? = some i) : ∃ early late, beats = early ++ late ∧
      (play exec proc x beats).threads[x.threads.length + n]? = some (drive exec (proc i)
        (moments exec proc (x.threads.length + n) (play exec proc x early) late)) := by
  induction beats generalizing x n with
  | nil => cases h
  | cons b bs ih =>
    cases b with
    | start j =>
      cases n with
      | zero =>
        obtain rfl : j = i := Option.some.inj h
        refine ⟨[.start j], bs, rfl, ?_⟩
        have hlast : (beat exec proc x (.start j)).threads[x.threads.length + 0]? =
            some (proc j) := by
          simp [beat]
        exact play_thread hlast bs
      | succ n =>
      have hrest : (requests bs)[n]? = some i := h
      obtain ⟨early, late, rfl, hthread⟩ := @ih (beat exec proc x (.start j)) n hrest
      have hlength : (beat exec proc x (.start j)).threads.length + n =
          x.threads.length + (n + 1) := by
        rw [length_beat]
        simp only [Beat.request, Option.toList_some, List.length_singleton]
        omega
      rw [hlength] at hthread
      exact ⟨.start j :: early, late, rfl, hthread⟩
    | step m f =>
    have hrest : (requests bs)[n]? = some i := h
    obtain ⟨early, late, rfl, hthread⟩ := @ih (beat exec proc x (.step m f)) n hrest
    have hlength : (beat exec proc x (.step m f)).threads.length = x.threads.length := by
      rw [length_beat]
      rfl
    rw [hlength] at hthread
    exact ⟨.step m f :: early, late, rfl, hthread⟩

/-! ## runs -/

section
variable {I : σ → Prop} (hcall : ∀ o f s, I s → I (exec o f s).2)
include hcall

theorem beat_invariant (hx : I x.state) (b : Beat ι) : I (beat exec proc x b).state := by
  cases b with
  | start i => exact hx
  | step n f =>
  rw [beat]
  split
  · exact hcall _ f _ hx
  · exact hx

/-- **What every call keeps, every run keeps.** -/
theorem play_invariant (hx : I x.state) (beats : List (Beat ι)) :
    I (play exec proc x beats).state := by
  induction beats generalizing x with
  | nil => exact hx
  | cons b bs ih => exact ih (beat_invariant hcall hx b)

end

/-- the first moment of a thread is a state of the run, and the others come after it -/
theorem moments_split {beats : List (Beat ι)} {m : σ × Fate}
    {ms : List (σ × Fate)} (h : moments exec proc n x beats = m :: ms) :
    ∃ early b late, beats = early ++ b :: late ∧ m.1 = (play exec proc x early).state ∧
      ms = moments exec proc n (beat exec proc (play exec proc x early) b) late := by
  induction beats generalizing x with
  | nil => cases h
  | cons b bs ih =>
    rw [moments] at h
    cases hb : x.moment n b with
    | nil =>
      rw [hb] at h
      obtain ⟨early, b', late, rfl, hm, hms⟩ := ih h
      exact ⟨b :: early, b', late, rfl, hm, hms⟩
    | cons m' rest =>
    have hsingle : m'.1 = x.state ∧ rest = [] := by
      cases b with
      | start i => cases hb
      | step k f =>
      rw [Pool.moment] at hb
      split at hb
      · obtain ⟨rfl, rfl⟩ := List.cons.inj hb
        exact ⟨rfl, rfl⟩
      · cases hb
    rw [hb, hsingle.2] at h
    obtain ⟨rfl, rfl⟩ := List.cons.inj h
    exact ⟨[], b, bs, rfl, hsingle.1, rfl⟩

end Durable
