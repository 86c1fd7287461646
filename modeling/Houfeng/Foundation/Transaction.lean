import Mathlib.Tactic.SplitIfs

/-!
# Transactions

A transaction body reads and writes a working copy of the state and may fail; a failed body is
rolled back, so its writes are never seen. `Triple` is the partial-correctness triple of such
bodies with a postcondition for success and one for failure.
-/

namespace Houfeng

/-- Transaction bodies over the state `σ` with errors `ε`. -/
abbrev Tx (ε σ : Type) := StateT σ (Except ε)

namespace Tx

variable {ε σ α β : Type}

/-- Runs a body: its writes take effect only if it succeeds. -/
def run (x : Tx ε σ α) (s : σ) : Except ε α × σ :=
  match x s with
  | .ok (a, s') => (.ok a, s')
  | .error e => (.error e, s)

def check (c : Prop) [Decidable c] (e : ε) : Tx ε σ Unit := if c then pure () else throw e

@[simp] theorem pure_apply (a : α) (s : σ) : (pure a : Tx ε σ α) s = .ok (a, s) := rfl

@[simp] theorem throw_apply (e : ε) (s : σ) : (throw e : Tx ε σ α) s = .error e := rfl

@[simp] theorem get_apply (s : σ) : (get : Tx ε σ σ) s = .ok (s, s) := rfl

@[simp] theorem modify_apply (f : σ → σ) (s : σ) :
    (modify f : Tx ε σ PUnit) s = .ok (⟨⟩, f s) := rfl

theorem bind_apply (x : Tx ε σ α) (f : α → Tx ε σ β) (s : σ) :
    (x >>= f) s = match x s with
      | .ok (a, s') => f a s'
      | .error e => .error e := by
  show (x s >>= fun p => f p.1 p.2) = _
  cases x s <;> rfl

variable {f : α → Tx ε σ β} {s s' : σ} {a : α} {x : Tx ε σ α}

theorem bind_of_ok (h : x s = .ok (a, s')) : (x >>= f) s = f a s' := by
  rw [bind_apply, h]

variable {e : ε}

theorem bind_of_error (h : x s = .error e) : (x >>= f) s = .error e := by
  rw [bind_apply, h]

variable {p : β × σ}

theorem bind_eq_ok (h : (x >>= f) s = .ok p) : ∃ a s', x s = .ok (a, s') ∧ f a s' = .ok p := by
  rw [bind_apply] at h
  cases hx : x s with
  | ok q =>
    rw [hx] at h
    exact ⟨q.1, q.2, rfl, h⟩
  | error e =>
    rw [hx] at h
    cases h

variable {c : Prop}

theorem get_bind_eq_ok {f : σ → Tx ε σ β} {s : σ} {p : β × σ} (h : (get >>= f) s = .ok p) :
    f s s = .ok p := h

theorem refuse_eq_ok [Decidable c] {x : Tx ε σ β} (h : (if c then throw e else x) s = .ok p) :
    ¬c ∧ x s = .ok p := by
  by_cases hc : c
  · rw [if_pos hc] at h
    cases h
  · exact ⟨hc, by rwa [if_neg hc] at h⟩

theorem check_eq_ok [Decidable c] {u : Unit} (h : (check c e : Tx ε σ Unit) s = .ok (u, s')) :
    c ∧ s' = s := by
  by_cases hc : c
  · rw [check, if_pos hc] at h
    cases h
    exact ⟨hc, rfl⟩
  · rw [check, if_neg hc] at h
    cases h

theorem check_bind_eq_ok [Decidable c] {f : Unit → Tx ε σ β} (h : (check c e >>= f) s = .ok p) :
    c ∧ f () s = .ok p := by
  obtain ⟨u, s', hcheck, hrest⟩ := bind_eq_ok h
  obtain ⟨hc, rfl⟩ := check_eq_ok hcheck
  exact ⟨hc, hrest⟩

/-- A body that goes on after a part that only reads has learned what the part says. -/
theorem read_bind_eq_ok {R : α → Prop}
    (hread : ∀ {a s'}, x s = .ok (a, s') → s' = s ∧ R a) (h : (x >>= f) s = .ok p) :
    ∃ a, R a ∧ f a s = .ok p := by
  obtain ⟨a, s', hx, hrest⟩ := bind_eq_ok h
  obtain ⟨rfl, hR⟩ := hread hx
  exact ⟨a, hR, hrest⟩

theorem run_of_ok (h : x s = .ok (a, s')) : x.run s = (.ok a, s') := by
  rw [run, h]

theorem run_of_error (h : x s = .error e) : x.run s = (.error e, s) := by
  rw [run, h]

theorem run_eq_ok (h : x.run s = (.ok a, s')) : x s = .ok (a, s') := by
  rw [run] at h
  cases hx : x s with
  | ok p =>
    rw [hx] at h
    cases h
    rfl
  | error e =>
    rw [hx] at h
    cases h

theorem run_eq_error (h : x.run s = (.error e, s')) : s' = s := by
  rw [run] at h
  cases hx : x s with
  | ok p =>
    rw [hx] at h
    cases h
  | error e =>
    rw [hx] at h
    cases h
    rfl

/-- From `P` the body either succeeds in `Q` or fails in `E`. -/
def Triple (P : σ → Prop) (x : Tx ε σ α) (Q : α → σ → Prop) (E : ε → Prop) : Prop :=
  ∀ s, P s → match x s with
    | .ok (a, s') => Q a s'
    | .error e => E e

/-- The body keeps `I`. -/
abbrev Keeps (I : σ → Prop) (x : Tx ε σ α) (E : ε → Prop) : Prop := Triple I x (fun _ => I) E

namespace Triple

variable {P P' : σ → Prop} {Q Q' : α → σ → Prop} {E : ε → Prop} {x : Tx ε σ α}

theorem ok (h : Triple P x Q E) (hp : P s) (hx : x s = .ok (a, s')) : Q a s' := by
  have := h s hp
  rwa [hx] at this

theorem error (h : Triple P x Q E) (hp : P s) (hx : x s = .error e) : E e := by
  have := h s hp
  rwa [hx] at this

theorem of_ok (h : ∀ s a s', P s → x s = .ok (a, s') → Q a s') : Triple P x Q fun _ => True := by
  intro s hs
  cases hx : x s with
  | ok p => exact h s p.1 p.2 hs hx
  | error e => trivial

theorem conseq (h : Triple P x Q E) (hP : ∀ s, P' s → P s) (hQ : ∀ a s, Q a s → Q' a s) :
    Triple P' x Q' E := by
  intro s hs
  have := h s (hP s hs)
  cases hx : x s with
  | ok p =>
    rw [hx] at this
    exact hQ _ _ this
  | error e =>
    rw [hx] at this
    exact this

theorem weaken {E' : ε → Prop} (h : Triple P x Q E) (hE : ∀ e, E e → E' e) : Triple P x Q E' := by
  intro s hs
  have := h s hs
  cases hx : x s with
  | ok p =>
    rw [hx] at this
    exact this
  | error e =>
    rw [hx] at this
    exact hE e this

theorem assume (h : ∀ s, P s → Triple P x Q E) : Triple P x Q E := fun s hs => h s hs s hs

theorem pure (h : ∀ s, P s → Q a s) : Triple P (pure a : Tx ε σ α) Q E := h

theorem throw (h : E e) : Triple P (throw e : Tx ε σ α) Q E := fun _ _ => h

theorem bind {R : β → σ → Prop} (hx : Triple P x Q E) (hf : ∀ a, Triple (Q a) (f a) R E) :
    Triple P (x >>= f) R E := by
  intro s hs
  have h1 := hx s hs
  rw [bind_apply]
  cases h : x s with
  | ok p =>
    rw [h] at h1
    exact hf p.1 p.2 h1
  | error e =>
    rw [h] at h1
    exact h1

theorem ite [Decidable c] {y : Tx ε σ α} (ht : c → Triple P x Q E) (he : ¬c → Triple P y Q E) :
    Triple P (if c then x else y) Q E := by
  split_ifs with h
  · exact ht h
  · exact he h

theorem forM {γ : Type} {I : σ → Prop} {l : List γ} {f : γ → Tx ε σ PUnit}
    (h : ∀ x ∈ l, Triple I (f x) (fun _ => I) E) : Triple I (l.forM f) (fun _ => I) E := by
  induction l with
  | nil => exact pure fun _ hs => hs
  | cons c l ih =>
    refine bind (h c List.mem_cons_self) fun _ => ih fun x hx => ?_
    exact h x (List.mem_cons_of_mem _ hx)

end Triple

end Tx

end Houfeng
