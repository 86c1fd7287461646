import Mathlib.Data.List.TakeWhile
import Mathlib.Data.Nat.Digits.Lemmas
import Mathlib.Tactic.Positivity

/-!
# Decimal digit strings

Character lists made of the ASCII digits, most significant digit first, and the numbers they denote:
`Nat.ofDigits` of the reversed list.
-/

namespace Houfeng.Digits

open List

def isDigit (c : Char) : Bool := 48 ≤ c.toNat && c.toNat ≤ 57

def digitVal (c : Char) : Nat := c.toNat - 48

def val (ds : List Char) : Nat := Nat.ofDigits 10 (ds.reverse.map digitVal)

def AllDigits (ds : List Char) : Prop := ∀ c ∈ ds, isDigit c = true

variable {c : Char}

theorem isDigit_iff : isDigit c = true ↔ 48 ≤ c.toNat ∧ c.toNat ≤ 57 := by
  simp [isDigit]

theorem digitVal_lt (h : isDigit c = true) : digitVal c < 10 := by
  rw [isDigit_iff] at h
  unfold digitVal
  omega

theorem ofNat_digitVal (h : isDigit c = true) : Char.ofNat (48 + digitVal c) = c := by
  rw [isDigit_iff] at h
  have hn : 48 + digitVal c = c.toNat := by unfold digitVal; omega
  rw [hn, Char.ofNat_toNat]

theorem digitVal_inj {c d : Char} (hc : isDigit c = true) (hd : isDigit d = true)
    (h : digitVal c = digitVal d) : c = d := by
  rw [isDigit_iff] at hc hd
  unfold digitVal at h
  have hn : c.toNat = d.toNat := by omega
  exact Char.ext (UInt32.toNat_inj.mp hn)

theorem digitVal_eq_zero (hc : isDigit c = true) : digitVal c = 0 ↔ c = '0' := by
  constructor
  · intro h
    exact digitVal_inj hc (by decide) (h.trans (by decide))
  · rintro rfl
    decide

@[simp] theorem val_nil : val [] = 0 := rfl

theorem val_append (a b : List Char) : val (a ++ b) = val a * 10 ^ b.length + val b := by
  unfold val
  rw [reverse_append, map_append, Nat.ofDigits_append]
  simp only [length_map, length_reverse]
  ring

theorem val_replicate_zero (n : Nat) : val (replicate n '0') = 0 := by
  induction n with
  | zero => rfl
  | succ n ih =>
    rw [replicate_succ', val_append, ih]
    decide

@[simp] theorem val_append_zeros (a : List Char) (n : Nat) :
    val (a ++ replicate n '0') = val a * 10 ^ n := by
  rw [val_append, val_replicate_zero]
  simp

@[simp] theorem val_zeros_append (n : Nat) (a : List Char) :
    val (replicate n '0' ++ a) = val a := by
  rw [val_append, val_replicate_zero]
  simp

theorem val_zero_cons (a : List Char) : val ('0' :: a) = val a := val_zeros_append 1 a

variable {a b : List Char}

theorem AllDigits.append (ha : AllDigits a) (hb : AllDigits b) : AllDigits (a ++ b) := by
  intro c hc
  rcases mem_append.mp hc with h | h
  · exact ha c h
  · exact hb c h

theorem AllDigits.left (h : AllDigits (a ++ b)) : AllDigits a :=
  fun c hc => h c (mem_append_left _ hc)

theorem AllDigits.right (h : AllDigits (a ++ b)) : AllDigits b :=
  fun c hc => h c (mem_append_right _ hc)

theorem allDigits_replicate_zero (n : Nat) : AllDigits (replicate n '0') := by
  intro c hc
  rw [(mem_replicate.mp hc).2]
  decide

theorem allDigits_takeWhile (t : List Char) : AllDigits (t.takeWhile isDigit) :=
  fun _ hc => mem_takeWhile_imp hc

theorem val_pos {ds : List Char} (h : AllDigits ds) (hne : ds ≠ []) (hz : ds.head? ≠ some '0') :
    0 < val ds := by
  cases ds with
  | nil => exact absurd rfl hne
  | cons c cs =>
    have hc : isDigit c = true := h c mem_cons_self
    have hpos : 0 < digitVal c := by
      by_contra h0
      exact hz (by rw [(digitVal_eq_zero hc).mp (by omega)]; rfl)
    have hv : val (c :: cs) = digitVal c * 10 ^ cs.length + val cs := by
      have := val_append [c] cs
      simpa [val] using this
    rw [hv]
    positivity

theorem val_inj (ha : AllDigits a) (hb : AllDigits b)
    (hza : a.head? ≠ some '0') (hzb : b.head? ≠ some '0') (h : val a = val b) : a = b := by
  have key : ∀ ds : List Char, AllDigits ds → ds.head? ≠ some '0' →
      Nat.digits 10 (val ds) = ds.reverse.map digitVal := by
    intro ds hds hz
    refine Nat.digits_ofDigits 10 (by norm_num) _ ?_ ?_
    · intro x hx
      obtain ⟨c, hc, rfl⟩ := mem_map.mp hx
      exact digitVal_lt (hds c (mem_reverse.mp hc))
    · intro hne
      cases ds with
      | nil => simp at hne
      | cons c cs =>
        simp only [reverse_cons, map_append, map_cons, map_nil]
        rw [getLast_append_of_ne_nil _ (by simp)]
        intro h0
        exact hz (by rw [(digitVal_eq_zero (hds c mem_cons_self)).mp (by simpa using h0)]; rfl)
  have hmap : a.reverse.map digitVal = b.reverse.map digitVal := by
    rw [← key a ha hza, ← key b hb hzb, h]
  have hback : ∀ ds : List Char, AllDigits ds →
      (ds.reverse.map digitVal).map (fun n => Char.ofNat (48 + n)) = ds.reverse := by
    intro ds hds
    rw [map_map]
    refine (map_congr_left fun c hc => ?_).trans (map_id _)
    exact ofNat_digitVal (hds c (mem_reverse.mp hc))
  have hrev : a.reverse = b.reverse := by rw [← hback a ha, ← hback b hb, hmap]
  exact reverse_injective hrev

theorem not_ten_dvd_val {ds : List Char} (h : AllDigits ds) (hne : ds ≠ [])
    (hz : ds.getLast? ≠ some '0') : ¬10 ∣ val ds := by
  obtain ⟨init, c, rfl⟩ : ∃ init c, ds = init ++ [c] :=
    ⟨ds.dropLast, ds.getLast hne, (dropLast_append_getLast hne).symm⟩
  have hc : isDigit c = true := h c (by simp)
  have hlt := digitVal_lt hc
  have hv : val [c] = digitVal c := by simp [val]
  rw [val_append, hv]
  intro hdvd
  have h0 : digitVal c = 0 := by
    simp only [length_singleton, pow_one] at hdvd
    omega
  exact hz (by rw [(digitVal_eq_zero hc).mp h0, getLast?_concat])

theorem scaled_unique {a b s t : Nat} (ha : 0 < s → ¬10 ∣ a) (hb : 0 < t → ¬10 ∣ b)
    (h : a * 10 ^ t = b * 10 ^ s) : s = t ∧ a = b := by
  have aux : ∀ {a b s t : Nat}, (0 < t → ¬10 ∣ b) → a * 10 ^ t = b * 10 ^ s → t ≤ s := by
    intro a b s t hb h
    by_contra hlt
    obtain ⟨k, rfl⟩ : ∃ k, t = s + (k + 1) := ⟨t - s - 1, by omega⟩
    have hpow : 0 < 10 ^ s := by positivity
    have hbk : b = a * 10 ^ (k + 1) := by
      refine Nat.eq_of_mul_eq_mul_right hpow ?_
      rw [← h, pow_add]
      ring
    refine hb (by omega) ?_
    rw [hbk, pow_succ]
    exact ⟨a * 10 ^ k, by ring⟩
  have hst : s = t := le_antisymm (aux ha h.symm) (aux hb h)
  subst hst
  exact ⟨rfl, Nat.eq_of_mul_eq_mul_right (by positivity) h⟩

end Houfeng.Digits
