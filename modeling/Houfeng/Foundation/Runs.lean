import Mathlib.Data.List.Basic

/-!
# Runs of labelled transition systems

A run is the list of its steps, each with the state before, the label and the state after, so that
statements about histories are statements about lists: what holds of every step, and what holds
between an earlier and a later one.
-/

namespace Houfeng

variable {σ ℓ : Type*}

structure RunStep (σ ℓ : Type*) where
  before : σ
  label : ℓ
  after : σ

inductive Run (step : σ → ℓ → σ → Prop) : σ → List (RunStep σ ℓ) → σ → Prop
  | nil (s : σ) : Run step s [] s
  | cons {s m s' : σ} {l : ℓ} {t : List (RunStep σ ℓ)} :
      step s l m → Run step m t s' → Run step s (⟨s, l, m⟩ :: t) s'

namespace Run

variable {step : σ → ℓ → σ → Prop} {s s' : σ} {t : List (RunStep σ ℓ)}

theorem append {m : σ} {t' : List (RunStep σ ℓ)} (h : Run step s t m) (h' : Run step m t' s') :
    Run step s (t ++ t') s' := by
  induction h with
  | nil => exact h'
  | cons hs _ ih => exact cons hs (ih h')

theorem snoc {m : σ} {l : ℓ} (h : Run step s t m) (hl : step m l s') :
    Run step s (t ++ [⟨m, l, s'⟩]) s' :=
  h.append (cons hl (nil s'))

theorem split {pre post : List (RunStep σ ℓ)} {e : RunStep σ ℓ}
    (h : Run step s (pre ++ e :: post) s') :
    Run step s pre e.before ∧ step e.before e.label e.after ∧ Run step e.after post s' := by
  induction pre generalizing s with
  | nil =>
    cases h with
    | cons hs ht => exact ⟨nil s, hs, ht⟩
  | cons x pre ih =>
    cases h with
    | cons hs ht =>
      obtain ⟨h1, h2, h3⟩ := ih ht
      exact ⟨cons hs h1, h2, h3⟩

variable {I : σ → Prop}

/-- An invariant of every step holds at the end of every run. -/
theorem inv (hstep : ∀ s l s', I s → step s l s' → I s') (h : Run step s t s')
    (h0 : I s) : I s' := by
  induction h with
  | nil => exact h0
  | cons hs _ ih => exact ih (hstep _ _ _ h0 hs)

/-- An invariant of states and their histories holds at the end of every run. -/
theorem history {I : List (RunStep σ ℓ) → σ → Prop}
    (hstep : ∀ hist s l s', I hist s → step s l s' → I (hist ++ [⟨s, l, s'⟩]) s')
    (h : Run step s t s') (h0 : I [] s) : I t s' := by
  have general : ∀ hist, I hist s → I (hist ++ t) s' := by
    clear h0
    induction h with
    | nil => simp
    | cons hs _ ih =>
      intro hist hI
      simpa using ih _ (hstep hist _ _ _ hI hs)
  simpa using general [] h0

/-- Every step of a run starts in a state of the invariant. -/
theorem forall_entry (hstep : ∀ s l s', I s → step s l s' → I s')
    (h : Run step s t s') (h0 : I s) : ∀ e ∈ t, I e.before ∧ step e.before e.label e.after := by
  induction h with
  | nil => simp
  | cons hs _ ih =>
    intro e he
    rcases List.mem_cons.mp he with rfl | he
    · exact ⟨h0, hs⟩
    · exact ih (hstep _ _ _ h0 hs) e he

theorem restrict {P : RunStep σ ℓ → Prop} (h : Run step s t s') (hP : ∀ e ∈ t, P e) :
    Run (fun s l s' => step s l s' ∧ P ⟨s, l, s'⟩) s t s' := by
  induction h with
  | nil => exact nil _
  | cons hs _ ih =>
    obtain ⟨hhead, htail⟩ := List.forall_mem_cons.mp hP
    exact cons ⟨hs, hhead⟩ (ih htail)

theorem map {τ m : Type*} {f : σ → τ} {g : ℓ → m} {step' : τ → m → τ → Prop}
    (hstep : ∀ s l s', step s l s' → step' (f s) (g l) (f s')) (h : Run step s t s') :
    Run step' (f s) (t.map fun e => ⟨f e.before, g e.label, f e.after⟩) (f s') := by
  induction h with
  | nil => exact nil _
  | cons hs _ ih => exact cons (hstep _ _ _ hs) ih

/-- A preorder every step of the invariant respects relates the ends of every run. -/
theorem rel {R : σ → σ → Prop} (hrefl : ∀ s, R s s) (htrans : ∀ {a b c}, R a b → R b c → R a c)
    (hstep : ∀ s l s', I s → step s l s' → I s' ∧ R s s') (h : Run step s t s') (h0 : I s) :
    R s s' := by
  induction h with
  | nil => exact hrefl _
  | cons hs _ ih =>
    obtain ⟨hi, hr⟩ := hstep _ _ _ h0 hs
    exact htrans hr (ih hi)

/-- "Once this step, then that from then on": if a step establishes `Q`, every later step keeps it,
and every later step on a state with `Q` satisfies `P`, then `P` relates it to every later step. -/
theorem pairwise {Q : RunStep σ ℓ → σ → Prop} {P : RunStep σ ℓ → RunStep σ ℓ → Prop}
    (hinv : ∀ s l s', I s → step s l s' → I s')
    (hest : ∀ s l s', I s → step s l s' → Q ⟨s, l, s'⟩ s')
    (hkeep : ∀ e s l s', I s → Q e s → step s l s' → Q e s')
    (huse : ∀ e s l s', I s → Q e s → step s l s' → P e ⟨s, l, s'⟩)
    (h : Run step s t s') (h0 : I s) : t.Pairwise P := by
  have later : ∀ {e : RunStep σ ℓ} {s s' : σ} {t : List (RunStep σ ℓ)}, Run step s t s' → I s →
      Q e s → ∀ e' ∈ t, P e e' := by
    intro e s s' t h h0 hq
    induction h with
    | nil => simp
    | cons hs _ ih =>
      intro e' he'
      rcases List.mem_cons.mp he' with rfl | he'
      · exact huse _ _ _ _ h0 hq hs
      · exact ih (hinv _ _ _ h0 hs) (hkeep _ _ _ _ h0 hq hs) e' he'
  induction h with
  | nil => exact List.Pairwise.nil
  | cons hs ht ih =>
    exact List.Pairwise.cons (later ht (hinv _ _ _ h0 hs) (hest _ _ _ h0 hs)) (ih (hinv _ _ _ h0 hs))

end Run

theorem countP_le_one_of_pairwise {α : Type} {p : α → Bool} {l : List α}
    (h : l.Pairwise fun a b => p a = true → p b = false) : l.countP p ≤ 1 := by
  induction h with
  | nil => simp
  | @cons a l ha _ ih =>
    by_cases hpa : p a = true
    · have hzero : l.countP p = 0 := List.countP_eq_zero.mpr fun b hb => by simp [ha b hb hpa]
      simp [hpa, hzero]
    · simpa [List.countP_cons, hpa] using ih

end Houfeng
