import Mathlib

/-!
# Procedures that can be cut off

A procedure is a tree of calls to the outside world: each call is made with an operation and
continued by its answer.  Nothing is assumed about the operations; a *machine* `exec` says what
an operation answers and what it does to the state under each of three fates

* `ok`  the call takes place;
* `fail`  the call reports an error and has no effect;
* `late`  the call reports an error after its effect took place.

`run exec p fs s` drives the procedure `p` from `s` with the fates `fs`, one for each call.  When
the fates run out the procedure is cut off where it stands: a list of fates is at the same time a
choice of which calls fail and of the point at which the process dies.  `runWith exec env p s`
lets every call be made, with the fate that `env` gives to its operation.
-/

namespace Durable

inductive Fate where
  | ok
  | fail
  | late
  deriving DecidableEq

/-- what a fate makes of a call that would end in `r` and whose error text is `e` -/
def Fate.deliver {ε α σ : Type} (f : Fate) (e : ε) (r : Except ε α × σ) (s : σ) : Except ε α × σ :=
  match f with
  | .ok => r
  | .fail => (.error e, s)
  | .late => (.error e, r.2)

section
variable {ε α σ : Type} (e : ε) (r : Except ε α × σ) (s : σ)
include ε α σ e r s

@[simp] theorem Fate.ok_deliver : Fate.ok.deliver e r s = r := rfl
@[simp] theorem Fate.fail_deliver : Fate.fail.deliver e r s = (.error e, s) := rfl
@[simp] theorem Fate.late_deliver : Fate.late.deliver e r s = (.error e, r.2) := rfl

end

/-- what the call and its absence leave is left under every fate -/
theorem Fate.deliver_keeps {ε α σ : Type} {I : σ → Prop} {f : Fate} {e : ε} {r : Except ε α × σ}
    {s : σ} (hs : I s) (hr : I r.2) : I (f.deliver e r s).2 := by
  cases f with
  | ok => exact hr
  | fail => exact hs
  | late => exact hr

theorem eitherAnswer {ε α : Type} {M : Except ε α → Prop} (herror : ∀ err, M (.error err))
    (hok : ∀ a, M (.ok a)) : ∀ r, M r
  | .error err => herror err
  | .ok a => hok a

theorem byAnswer {ε α : Type} {A M : Except ε α → Prop} (herror : ∀ err, M (.error err))
    (hok : ∀ a, A (.ok a) → M (.ok a)) : ∀ r, A r → M r :=
  eitherAnswer (fun err _ => herror err) hok

inductive Proc (Op : Type) (Ret : Op → Type) (α : Type) where
  | done (a : α) : Proc Op Ret α
  | call (o : Op) (k : Ret o → Proc Op Ret α) : Proc Op Ret α

namespace Proc

variable {Op : Type} {Ret : Op → Type} {α β γ σ : Type}

def bind : Proc Op Ret α → (α → Proc Op Ret β) → Proc Op Ret β
  | .done a, f => f a
  | .call o k, f => .call o fun r => (k r).bind f

instance : Monad (Proc Op Ret) where
  pure := .done
  bind := bind

@[simp] theorem done_bind (a : α) (f : α → Proc Op Ret β) : (Proc.done a).bind f = f a := rfl
@[simp] theorem call_bind (o : Op) (k : Ret o → Proc Op Ret α) (f : α → Proc Op Ret β) :
    (Proc.call o k).bind f = .call o fun r => (k r).bind f := rfl

/-- go on with `h` when `p` reports an error and with `k` when it does not -/
def attempt {ε : Type} (p : Proc Op Ret (Except ε α)) (h : ε → Proc Op Ret β)
    (k : α → Proc Op Ret β) : Proc Op Ret β :=
  p.bind fun
  | .error err => h err
  | .ok a => k a

/-- every operation the procedure can ever call satisfies `P`, as long as the answers satisfy
`ans` -/
def All (ans : (o : Op) → Ret o → Prop) (P : Op → Prop) : Proc Op Ret α → Prop
  | .done _ => True
  | .call o k => P o ∧ ∀ r, ans o r → (k r).All ans P

variable {p : Proc Op Ret α} {f : α → Proc Op Ret β}

theorem All.bind {ans : (o : Op) → Ret o → Prop} {P : Op → Prop}
    (hp : p.All ans P) (hf : ∀ a, (f a).All ans P) : (p.bind f).All ans P := by
  induction p with
  | done a => exact hf a
  | call o k ih => exact ⟨hp.1, fun r hr => ih r (hp.2 r hr)⟩

variable {k : α → Proc Op Ret β}

theorem All.attempt {ε : Type} {ans : (o : Op) → Ret o → Prop} {P : Op → Prop}
    {p : Proc Op Ret (Except ε α)} {h : ε → Proc Op Ret β}
    (hp : p.All ans P) (hh : ∀ err, (h err).All ans P) (hk : ∀ a, (k a).All ans P) :
    (p.attempt h k).All ans P :=
  hp.bind fun
  | .error err => hh err
  | .ok a => hk a

theorem All.mono {ans : (o : Op) → Ret o → Prop} {P Q : Op → Prop}
    (hp : p.All ans P) (h : ∀ o, P o → Q o) : p.All ans Q := by
  induction p with
  | done a => trivial
  | call o k ih => exact ⟨h o hp.1, fun r hr => ih r (hp.2 r hr)⟩

/-- every result the procedure can ever return satisfies `Q` -/
def Ends (Q : α → Prop) : Proc Op Ret α → Prop
  | .done a => Q a
  | .call _ k => ∀ r, (k r).Ends Q

theorem ends_true (p : Proc Op Ret α) : p.Ends fun _ => True := by
  induction p with
  | done a => trivial
  | call o k ih => exact ih

theorem Ends.bind {P : α → Prop} {Q : β → Prop}
    (hp : p.Ends P) (hf : ∀ a, P a → (f a).Ends Q) : (p.bind f).Ends Q := by
  induction p with
  | done a => exact hf a hp
  | call o k ih => exact fun r => ih r (hp r)

theorem Ends.attempt {ε : Type} {Q : β → Prop} {p : Proc Op Ret (Except ε α)}
    {h : ε → Proc Op Ret β} (hh : ∀ err, (h err).Ends Q)
    (hk : ∀ a, (k a).Ends Q) : (p.attempt h k).Ends Q :=
  p.ends_true.bind fun
  | .error err, _ => hh err
  | .ok a, _ => hk a

end Proc

/-! ## running a procedure -/

/-- a finished or cut off run: the result, the state it stopped in, the fates left over -/
structure Outcome (α σ : Type) where
  result : Option α
  state : σ
  rest : List Fate

section
variable {Op : Type} {Ret : Op → Type} {α β σ : Type}
variable (exec : (o : Op) → Fate → σ → Ret o × σ)

def run : Proc Op Ret α → List Fate → σ → Outcome α σ
  | .done a, fs, s => ⟨some a, s, fs⟩
  | .call _ _, [], s => ⟨none, s, []⟩
  | .call o k, f :: fs, s => run (k (exec o f s).1) fs (exec o f s).2

def runWith (env : Op → Fate) : Proc Op Ret α → σ → α × σ
  | .done a, s => (a, s)
  | .call o k, s => runWith env (k (exec o (env o) s).1) (exec o (env o) s).2

@[simp] theorem run_done (a : α) (fs : List Fate) (s : σ) :
    run exec (.done a) fs s = ⟨some a, s, fs⟩ := rfl
@[simp] theorem run_call_nil (o : Op) (k : Ret o → Proc Op Ret α) (s : σ) :
    run exec (.call o k) [] s = ⟨none, s, []⟩ := rfl
@[simp] theorem run_call_cons (o : Op) (k : Ret o → Proc Op Ret α) (f : Fate) (fs : List Fate)
    (s : σ) : run exec (.call o k) (f :: fs) s = run exec (k (exec o f s).1) fs (exec o f s).2 :=
  rfl

theorem run_bind (p : Proc Op Ret α) (f : α → Proc Op Ret β) (fs : List Fate) (s : σ) :
    run exec (p.bind f) fs s = match (run exec p fs s).result with
      | some a => run exec (f a) (run exec p fs s).rest (run exec p fs s).state
      | none => ⟨none, (run exec p fs s).state, []⟩ := by
  induction p generalizing fs s with
  | done a => rfl
  | call o k ih =>
    cases fs with
    | nil => rfl
    | cons f' fs => exact ih _ fs _

theorem run_attempt {ε : Type} (p : Proc Op Ret (Except ε α)) (h : ε → Proc Op Ret β)
    (k : α → Proc Op Ret β) (fs : List Fate) (s : σ) : run exec (p.attempt h k) fs s =
      match (run exec p fs s).result with
      | some (.error err) => run exec (h err) (run exec p fs s).rest (run exec p fs s).state
      | some (.ok a) => run exec (k a) (run exec p fs s).rest (run exec p fs s).state
      | none => ⟨none, (run exec p fs s).state, []⟩ := by
  rw [Proc.attempt, run_bind]
  rcases (run exec p fs s).result with _ | _ | a <;> rfl

@[simp] theorem runWith_done (env : Op → Fate) (a : α) (s : σ) :
    runWith exec env (.done a) s = (a, s) := rfl
@[simp] theorem runWith_call (env : Op → Fate) (o : Op) (k : Ret o → Proc Op Ret α) (s : σ) :
    runWith exec env (.call o k) s =
      runWith exec env (k (exec o (env o) s).1) (exec o (env o) s).2 := rfl

theorem runWith_bind (env : Op → Fate) (p : Proc Op Ret α) (f : α → Proc Op Ret β) (s : σ) :
    runWith exec env (p.bind f) s =
      runWith exec env (f (runWith exec env p s).1) (runWith exec env p s).2 := by
  induction p generalizing s with
  | done a => rfl
  | call o k ih => exact ih _ _

theorem Proc.Ends.runWith {Q : α → Prop} {p : Proc Op Ret α} (hp : p.Ends Q) (env : Op → Fate)
    (s : σ) : Q (runWith exec env p s).1 := by
  induction p generalizing s with
  | done a => exact hp
  | call o k ih => exact ih _ (hp _) _

end

/-! ## a system of procedures -/

section
variable {Op : Type} {Ret : Op → Type} {ι σ : Type} {ρ : ι → Type}
variable (exec : (o : Op) → Fate → σ → Ret o × σ) (proc : (i : ι) → Proc Op Ret (ρ i))

def after (s : σ) (t : ι × List Fate) : σ := (run exec (proc t.1) t.2 s).state

def runTurns (s : σ) (ts : List (ι × List Fate)) : σ := ts.foldl (after exec proc) s

/-- every turn of the run meets `cond` in the state in which it starts -/
def Meets (cond : σ → ι × List Fate → Prop) : σ → List (ι × List Fate) → Prop
  | _, [] => True
  | s, t :: ts => cond s t ∧ Meets cond (after exec proc s t) ts

/-- **What every admitted turn keeps, every admitted run keeps.** -/
theorem Meets.invariant {exec : (o : Op) → Fate → σ → Ret o × σ}
    {proc : (i : ι) → Proc Op Ret (ρ i)} {cond : σ → ι × List Fate → Prop} {I : σ → Prop}
    (hstep : ∀ s t, I s → cond s t → I (after exec proc s t)) {s : σ} (hs : I s)
    {ts : List (ι × List Fate)} (h : Meets exec proc cond s ts) : I (runTurns exec proc s ts) := by
  induction ts generalizing s with
  | nil => exact hs
  | cons t ts ih => exact ih (hstep s t hs h.1) h.2

end

end Durable
