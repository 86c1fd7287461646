import Mathlib.Init

/-!
# Interactive programs

A program is a tree of calls: it performs an operation and goes on with the answer. What the
answers are and what they change is a step relation on states, so a program can be stopped between
any two calls. `Safe` says that every call is permitted in the state it is made in; `Routine` adds
failures, and its rules follow the shape of a `do` block.
-/

namespace Houfeng

/-- A program that performs operations `o : Op` with answers in `Ans o`. -/
inductive Prog (Op : Type) (Ans : Op → Type) (α : Type)
  | done (a : α)
  | call (o : Op) (k : Ans o → Prog Op Ans α)

namespace Prog

variable {Op : Type} {Ans : Op → Type} {α β σ : Type}

def bind : Prog Op Ans α → (α → Prog Op Ans β) → Prog Op Ans β
  | .done a, f => f a
  | .call o k, f => .call o fun answer => (k answer).bind f

instance : Monad (Prog Op Ans) where
  pure := .done
  bind := bind

def perform (o : Op) : Prog Op Ans (Ans o) := .call o .done

def eval (answer : (o : Op) → Ans o) : Prog Op Ans α → α
  | .done a => a
  | .call o k => eval answer (k (answer o))

/-- The relation of one operation: state before, operation, answer, state after. -/
abbrev Steps (Op : Type) (Ans : Op → Type) (σ : Type) := σ → (o : Op) → Ans o → σ → Prop

/-- From the state on, whatever the answers are, every call is `ok` when it is made, and the
program ends, if it does, in `post`. -/
def Safe (step : Steps Op Ans σ) (ok : σ → Op → Prop) (post : α → σ → Prop) :
    Prog Op Ans α → σ → Prop
  | .done a, s => post a s
  | .call o k, s => ok s o ∧ ∀ answer s', step s o answer s' → Safe step ok post (k answer) s'

variable {step : Steps Op Ans σ} {ok : σ → Op → Prop} {s : σ} {p : Prog Op Ans α}

theorem Safe.imp {post post' : α → σ → Prop} (h : p.Safe step ok post s)
    (himp : ∀ a s, post a s → post' a s) : p.Safe step ok post' s := by
  induction p generalizing s with
  | done a => exact himp a s h
  | call o k ih => exact ⟨h.1, fun answer s' hstep => ih answer (h.2 answer s' hstep)⟩

theorem Safe.bind {post : β → σ → Prop} {f : α → Prog Op Ans β}
    (h : p.Safe step ok (fun a s => (f a).Safe step ok post s) s) :
    (p.bind f).Safe step ok post s := by
  induction p generalizing s with
  | done a => exact h
  | call o k ih => exact ⟨h.1, fun answer s' hstep => ih answer (h.2 answer s' hstep)⟩

/-- An invariant that permitted steps keep may be assumed after every step. -/
theorem Safe.of_invariant {inv : σ → Prop} {post : α → σ → Prop}
    (hinv : ∀ s o answer s', inv s → ok s o → step s o answer s' → inv s')
    (h : p.Safe (fun s o answer s' => step s o answer s' ∧ inv s') ok post s) (hs : inv s) :
    p.Safe step ok (fun a s => inv s ∧ post a s) s := by
  induction p generalizing s with
  | done a => exact ⟨hs, h⟩
  | call o k ih =>
    refine ⟨h.1, fun answer s' hstep => ?_⟩
    have hs' := hinv s o answer s' hs h.1 hstep
    exact ih answer (h.2 answer s' ⟨hstep, hs'⟩) hs'

end Prog

abbrev Routine (Op : Type) (Ans : Op → Type) (ε : Type) := ExceptT ε (Prog Op Ans)

namespace Routine

variable {Op : Type} {Ans : Op → Type} {ε α β σ : Type}

def call (o : Op) : Routine Op Ans ε (Ans o) := ExceptT.lift (Prog.perform o)

/-- A routine whose failure is handed to the caller as a value. -/
def attempt (x : Routine Op Ans ε α) : Routine Op Ans ε (Except ε α) := ExceptT.lift x.run

def eval (answer : (o : Op) → Ans o) (x : Routine Op Ans ε α) : Except ε α := Prog.eval answer x.run

variable {answer : (o : Op) → Ans o}

@[simp] theorem eval_pure {a : α} :
    eval answer (pure a : Routine Op Ans ε α) = .ok a := rfl

@[simp] theorem eval_throw {e : ε} :
    eval answer (throw e : Routine Op Ans ε α) = .error e := rfl

@[simp] theorem eval_call_bind {o : Op} {f : Ans o → Routine Op Ans ε β} :
    eval answer (call o >>= f) = eval answer (f (answer o)) := rfl

variable (step : Prog.Steps Op Ans σ) (ok : σ → Op → Prop)

/-- A safe routine ends in `post` or fails in `fails`. -/
def Safe (post : α → σ → Prop) (fails : ε → σ → Prop) (x : Routine Op Ans ε α) (s : σ) : Prop :=
  Prog.Safe step ok
    (fun r s => match r with
      | .ok a => post a s
      | .error e => fails e s) x.run s

variable {step : Prog.Steps Op Ans σ} {ok : σ → Op → Prop} {post : α → σ → Prop}
  {fails : ε → σ → Prop} {s : σ}

theorem safe_pure {a : α} (h : post a s) :
    Safe step ok post fails (pure a : Routine Op Ans ε α) s := h

theorem safe_throw {e : ε} (h : fails e s) :
    Safe step ok post fails (throw e : Routine Op Ans ε α) s := h

theorem safe_call {o : Op} {post : Ans o → σ → Prop} (hok : ok s o)
    (h : ∀ answer s', step s o answer s' → post answer s') :
    Safe step ok post fails (call o : Routine Op Ans ε (Ans o)) s :=
  ⟨hok, h⟩

variable {x : Routine Op Ans ε α}

theorem safe_bind {f : α → Routine Op Ans ε β} {post : β → σ → Prop}
    (h : Safe step ok (fun a s => Safe step ok post fails (f a) s) fails x s) :
    Safe step ok post fails (x >>= f) s := by
  refine Prog.Safe.bind (Prog.Safe.imp h fun r s hr => ?_)
  cases r with
  | ok a => exact hr
  | error e => exact hr

theorem safe_attempt {post : Except ε α → σ → Prop}
    (h : Safe step ok (fun a s => post (.ok a) s) (fun e s => post (.error e) s) x s) :
    Safe step ok post fails (attempt x) s := by
  refine Prog.Safe.bind (Prog.Safe.imp h fun r s hr => ?_)
  cases r with
  | ok a => exact hr
  | error e => exact hr

theorem safe_imp {post' : α → σ → Prop} {fails' : ε → σ → Prop}
    (h : Safe step ok post fails x s) (hpost : ∀ a s, post a s → post' a s)
    (hfails : ∀ e s, fails e s → fails' e s) : Safe step ok post' fails' x s := by
  refine Prog.Safe.imp h fun r s hr => ?_
  cases r with
  | ok a => exact hpost a s hr
  | error e => exact hfails e s hr

theorem safe_call_bind {o : Op} {f : Ans o → Routine Op Ans ε β} {post : β → σ → Prop}
    (hok : ok s o)
    (h : ∀ answer s', step s o answer s' → Safe step ok post fails (f answer) s') :
    Safe step ok post fails (call o >>= f) s :=
  safe_bind (safe_call hok h)

end Routine

end Houfeng
