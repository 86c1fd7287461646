import Mathlib.Data.List.Forall2

/-!
# Results that may be errors

Inversion of blocks in `Except`: a block that succeeds did so at every step, and one that fails did
so at some step.
-/

namespace Houfeng

variable {ε α β : Type} {x : Except ε α} {f : α → Except ε β}

theorem except_bind_eq_ok {b : β} (h : (x >>= f) = .ok b) : ∃ a, x = .ok a ∧ f a = .ok b := by
  cases x with
  | error e => cases h
  | ok a => exact ⟨a, rfl, h⟩

theorem except_map_eq_ok {f : α → β} {b : β} (h : x.map f = .ok b) : ∃ a, x = .ok a ∧ f a = b := by
  cases x with
  | error e => cases h
  | ok a => exact ⟨a, rfl, Except.ok.inj h⟩

/-- Two blocks that succeed side by side, as in a comparison of two runs. -/
theorem except_binds_eq_ok {y : Except ε α} {g : α → Except ε β} {b c : β}
    (hx : (x >>= f) = .ok b) (hy : (y >>= g) = .ok c) :
    ∃ a a', x = .ok a ∧ y = .ok a' ∧ f a = .ok b ∧ g a' = .ok c := by
  obtain ⟨a, ha, hx⟩ := except_bind_eq_ok hx
  obtain ⟨a', ha', hy⟩ := except_bind_eq_ok hy
  exact ⟨a, a', ha, ha', hx, hy⟩

variable {e : ε}

theorem except_bind_eq_error (h : (x >>= f) = .error e) :
    x = .error e ∨ ∃ a, x = .ok a ∧ f a = .error e := by
  cases x with
  | error e' =>
    cases h
    exact .inl rfl
  | ok a => exact .inr ⟨a, rfl, h⟩

theorem except_map_eq_error {f : α → β} (h : x.map f = .error e) : x = .error e := by
  cases x with
  | error e' =>
    cases h
    rfl
  | ok a => cases h

theorem except_isOk (h : x.isOk = true) : ∃ a, x = .ok a := by
  cases x with
  | error e => cases h
  | ok a => exact ⟨a, rfl⟩

theorem except_guard_eq_ok {p : Prop} [Decidable p] {a : α}
    (h : (if p then .error e else x) = .ok a) : ¬ p ∧ x = .ok a := by
  by_cases hp : p
  · rw [if_pos hp] at h
    cases h
  · exact ⟨hp, by rwa [if_neg hp] at h⟩

theorem except_guard_eq_error {p : Prop} [Decidable p] {e e' : ε}
    (h : (if p then .error e else x) = .error e') (hne : e ≠ e') : ¬ p ∧ x = .error e' := by
  by_cases hp : p
  · rw [if_pos hp] at h
    exact absurd (Except.error.inj h) hne
  · exact ⟨hp, by rwa [if_neg hp] at h⟩

/-- A block that runs over a list did so at every element. -/
theorem forall₂_of_mapM {l : List α} {l' : List β} (h : l.mapM f = .ok l') :
    List.Forall₂ (fun a b => f a = .ok b) l l' := by
  induction l generalizing l' with
  | nil =>
    cases h
    exact .nil
  | cons a rest ih =>
    rw [List.mapM_cons] at h
    obtain ⟨b, hb, h⟩ := except_bind_eq_ok h
    obtain ⟨rest', hrest, h⟩ := except_bind_eq_ok h
    obtain rfl := Except.ok.inj h
    exact .cons hb (ih hrest)

theorem mapM_eq_ok_nil {l : List α} : l.mapM f = .ok [] ↔ l = [] := by
  constructor
  · intro h
    exact List.forall₂_nil_right_iff.mp (forall₂_of_mapM h)
  · rintro rfl
    rfl

section Map

variable {γ : Type} {g : α → Except ε β} {φ : β → γ}

/-- Blocks that differ only in what the view `φ` of a result does not show. -/
theorem except_bind_map_congr (h : ∀ a, (f a).map φ = (g a).map φ) :
    (x >>= f).map φ = (x >>= g).map φ := by
  cases x with
  | error e => rfl
  | ok a => exact h a

theorem except_bind_map_const {y : Except ε α} {c : γ} (hf : ∀ a, (f a).map φ = .ok c)
    (hg : ∀ a, (g a).map φ = .ok c) (h : x.map (fun _ => ()) = y.map fun _ => ()) :
    (x >>= f).map φ = (y >>= g).map φ := by
  cases x with
  | error e =>
    cases y with
    | error e' =>
      cases h
      rfl
    | ok b => cases h
  | ok a =>
    cases y with
    | error e => cases h
    | ok b => exact (hf a).trans (hg b).symm

end Map

/-- A check of the source that returns the error `e` where `c` fails. -/
def ensure (c : Prop) [Decidable c] (e : ε) : Except ε Unit := if c then .ok () else .error e

theorem ensure_eq_ok {c : Prop} [Decidable c] {u : Unit} (h : ensure c e = .ok u) : c := by
  by_cases hc : c
  · exact hc
  · rw [ensure, if_neg hc] at h
    cases h

end Houfeng
