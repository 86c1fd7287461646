import Houfeng.Evidence.Number
import Mathlib.Algebra.Order.Ring.Pow
import Mathlib.Tactic.FieldSimp

/-!
# `normalizeJSONNumber` is a canonical form for exact decimals

An accepted text is read as a sign, digits without leading zeros and a scale. Stripping zeros and
moving the point keep the value; the written text is read back as the same coefficient and scale,
up to zeros of an integer; and a coefficient that does not end in `0` under a positive scale is
determined by the value.
-/

namespace Houfeng.Evidence

open Digits List Option

/-! ## What the scanners return -/

variable {t i r : List Char}

theorem scanInteger_spec (h : scanInteger t = some (i, r)) : AllDigits i ∧ i ≠ [] ∧ t = i ++ r := by
  cases t with
  | nil => simp [scanInteger] at h
  | cons c rest =>
    simp only [scanInteger] at h
    split_ifs at h with h0 hd hc
    · obtain ⟨rfl, rfl⟩ := Prod.mk.inj (some.inj h)
      refine ⟨?_, by simp, by simp [h0]⟩
      intro x hx
      rw [mem_singleton.mp hx]
      decide
    · obtain ⟨rfl, rfl⟩ := Prod.mk.inj (some.inj h)
      refine ⟨?_, by simp, by simp [takeWhile_append_dropWhile]⟩
      intro x hx
      rcases mem_cons.mp hx with rfl | hx
      · exact hc
      · exact allDigits_takeWhile rest x hx

variable {f : List Char}

theorem scanFraction_spec (h : scanFraction t = some (f, r)) : AllDigits f := by
  unfold scanFraction at h
  split at h
  · split_ifs at h with h0
    obtain ⟨rfl, rfl⟩ := Prod.mk.inj (some.inj h)
    exact allDigits_takeWhile _
  · obtain ⟨rfl, rfl⟩ := Prod.mk.inj (some.inj h)
    intro c hc
    simp at hc

theorem exponentValue_of_scanExponent {e : Int} (h : scanExponent t = some e) :
    exponentValue t = some e := by
  cases t with
  | nil => exact h
  | cons c rest =>
    simp only [scanExponent] at h
    split_ifs at h with hc hdigits hbound
    have hshape : ¬((scanExponentSign rest).2 = [] ∨
        (scanExponentSign rest).2.dropWhile isDigit ≠ []) := by
      rintro (h' | h')
      · exact hdigits (.inl h')
      · exact hdigits (.inr (.inl h'))
    simp only [exponentValue, if_pos hc, if_neg hshape, h]

theorem parseJSONDecimal_spec {d : JSONDecimal} (h : parseJSONDecimal t = some d) :
    AllDigits (d.integerPart ++ d.fractionalPart) ∧
    jsonNumberValue (String.ofList t) =
      some (decimalValue d.negative d.integerPart d.fractionalPart d.exponent) := by
  unfold parseJSONDecimal at h
  split_ifs at h with hlen
  generalize hs : scanSign t = s at h
  obtain ⟨neg, afterSign⟩ := s
  simp only [bind_eq_bind, bind_eq_some_iff, Prod.exists] at h
  obtain ⟨i, r1, hi, f, r2, hf, e, he, hd⟩ := h
  obtain rfl := some.inj hd
  refine ⟨(scanInteger_spec hi).1.append (scanFraction_spec hf), ?_⟩
  simp only [jsonNumberValue, String.toList_ofList, hs, bind_eq_bind, hi, hf,
    bind_some, exponentValue_of_scanExponent he]

/-! ## Stripping trailing zeros -/

/-- The loop removes `n` zeros, lowers the scale by `n` without passing zero, and stops at a last
digit that is not `0` or at a scale that is not positive. -/
theorem stripTrailingZeros_spec (rs : List Char) (scale : Int) :
    ∃ n : Nat, rs = replicate n '0' ++ (stripTrailingZeros rs scale).1 ∧
      (stripTrailingZeros rs scale).2 = scale - n ∧
      (0 < (stripTrailingZeros rs scale).2 → (stripTrailingZeros rs scale).1.head? ≠ some '0') := by
  induction rs generalizing scale with
  | nil => exact ⟨0, by simp [stripTrailingZeros]⟩
  | cons c rest ih =>
    simp only [stripTrailingZeros]
    split_ifs with h
    · obtain ⟨n, h1, h2, h3⟩ := ih (scale - 1)
      refine ⟨n + 1, ?_, ?_, h3⟩
      · rw [replicate_succ, cons_append, ← h1, h.2]
      · rw [h2]
        push_cast
        omega
    · refine ⟨0, by simp, by simp, ?_⟩
      intro hs hc
      simp only [head?_cons, some.injEq] at hc
      exact h ⟨hs, hc⟩

variable {scale : Int}

theorem stripTrailingZeros_of_scale_nonpos (rs : List Char) (h : scale ≤ 0) :
    stripTrailingZeros rs scale = (rs, scale) := by
  cases rs with
  | nil => rfl
  | cons c rest => simp [stripTrailingZeros, Int.not_lt.mpr h]

theorem stripTrailingZeros_of_head {rs : List Char} (scale : Int) (h : rs.head? ≠ some '0') :
    stripTrailingZeros rs scale = (rs, scale) := by
  cases rs with
  | nil => rfl
  | cons c rest =>
    have hc : c ≠ '0' := fun hc => h (by simp [hc])
    simp [stripTrailingZeros, hc]

/-! ## The coefficient and scale of an accepted number other than zero -/

/-- A coefficient and scale as `normalizeJSONNumber` writes them: digits without a leading zero,
not ending in `0` under a positive scale, within the limits. -/
structure Coefficient (digits : List Char) (scale : Int) : Prop where
  allDigits : AllDigits digits
  head : digits.head? ≠ some '0'
  ne_nil : digits ≠ []
  last : 0 < scale → digits.getLast? ≠ some '0'
  length_le : digits.length ≤ maxCanonicalNumberDigits
  scale_le : scale ≤ maxCanonicalNumberScale
  integer_le : (digits.length : Int) - scale ≤ maxCanonicalNumberDigits

def coefficientValue (negative : Bool) (digits : List Char) (scale : Int) : ℚ :=
  (if negative then -1 else 1) * (val digits : ℚ) * (10 : ℚ) ^ (-scale)

theorem dropWhile_zero_eq (ds : List Char) :
    ∃ n : Nat, ds = replicate n '0' ++ ds.dropWhile (· = '0') := by
  refine ⟨(ds.takeWhile (· = '0')).length, ?_⟩
  have hz : ds.takeWhile (· = '0') = replicate (ds.takeWhile (· = '0')).length '0' := by
    rw [eq_replicate_iff]
    refine ⟨rfl, fun c hc => ?_⟩
    simpa using mem_takeWhile_imp hc
  rw [← hz, takeWhile_append_dropWhile]

theorem dropWhile_zero_head (ds : List Char) : (ds.dropWhile (· = '0')).head? ≠ some '0' := by
  intro h
  have := head?_dropWhile_not (· = '0') ds
  rw [h] at this
  simp at this

theorem coefficientValue_append_zeros (negative : Bool) (digits : List Char) (scale : Int)
    (n : Nat) :
    coefficientValue negative (digits ++ replicate n '0') scale =
      coefficientValue negative digits (scale - n) := by
  have h10 : (10 : ℚ) ≠ 0 := by norm_num
  have hexp : (10 : ℚ) ^ (-(scale - n)) = 10 ^ n * 10 ^ (-scale) := by
    rw [← zpow_natCast, ← zpow_add₀ h10]
    congr 1
    omega
  unfold coefficientValue
  rw [val_append_zeros, hexp]
  push_cast
  ring

variable {out : List Char}

/-- The outcome of the normalizer on an accepted text: `0`, or the written form of a coefficient
and scale of the same value. -/
theorem normalizeNumberText_cases (h : normalizeNumberText t = some out) :
    (out = ['0'] ∧ jsonNumberValue (String.ofList t) = some 0) ∨
    ∃ negative digits scale, Coefficient digits scale ∧
      out = writeNumber negative digits scale ∧
      jsonNumberValue (String.ofList t) = some (coefficientValue negative digits scale) := by
  simp only [normalizeNumberText, bind_eq_bind, bind_eq_some_iff] at h
  obtain ⟨d, hd, h⟩ := h
  obtain ⟨hall, hvalue⟩ := parseJSONDecimal_spec hd
  obtain ⟨z, hz⟩ := dropWhile_zero_eq (d.integerPart ++ d.fractionalPart)
  have hhead := dropWhile_zero_head (d.integerPart ++ d.fractionalPart)
  generalize (d.integerPart ++ d.fractionalPart).dropWhile (· = '0') = digits at h hz hhead
  have hval : val (d.integerPart ++ d.fractionalPart) = val digits := by
    rw [hz, val_zeros_append]
  have hvalue' : jsonNumberValue (String.ofList t) = some (coefficientValue d.negative digits
      (d.fractionalPart.length - d.exponent)) := by
    rw [hvalue, decimalValue, coefficientValue, hval, neg_sub]
  split_ifs at h with h0 hlen hint
  · left
    refine ⟨(some.inj h).symm, ?_⟩
    rw [hvalue', coefficientValue, h0]
    simp
  · right
    obtain ⟨n, hrev, hscale, hlast⟩ := stripTrailingZeros_spec digits.reverse
      (d.fractionalPart.length - d.exponent)
    generalize stripTrailingZeros digits.reverse (d.fractionalPart.length - d.exponent) = r
      at h hlen hint hrev hscale hlast
    obtain ⟨rev, scale⟩ := r
    simp only at h hlen hint hrev hscale hlast
    have hdigits : digits = rev.reverse ++ replicate n '0' := by
      rw [← reverse_reverse digits, hrev, reverse_append, reverse_replicate]
    have hne : rev.reverse ≠ [] := by
      intro hnil
      rw [hnil, nil_append] at hdigits
      cases n with
      | zero => exact h0 hdigits
      | succ n => exact hhead (by rw [hdigits]; rfl)
    refine ⟨d.negative, rev.reverse, scale, ⟨?_, ?_, hne, ?_, ?_, ?_, ?_⟩, (some.inj h).symm, ?_⟩
    · rw [hz, hdigits] at hall
      exact hall.right.left
    · intro hz'
      refine hhead ?_
      rw [hdigits, head?_append, hz']
      rfl
    · intro hs
      rw [getLast?_reverse]
      exact hlast hs
    · omega
    · omega
    · omega
    · rw [hvalue', hdigits, coefficientValue_append_zeros, hscale]

/-! ## Reading a written number back -/

def fractionText (f : List Char) : List Char := if f = [] then [] else '.' :: f

def plainText (negative : Bool) (i f : List Char) : List Char :=
  (if negative then ['-'] else []) ++ (i ++ fractionText f)

def IntegerPart (i : List Char) : Prop :=
  AllDigits i ∧ (i = ['0'] ∨ i ≠ [] ∧ i.head? ≠ some '0')

theorem takeWhile_isDigit_append (hf : AllDigits f) (hr : r.head?.map isDigit ≠ some true) :
    (f ++ r).takeWhile isDigit = f ∧ (f ++ r).dropWhile isDigit = r := by
  have hr' : r.takeWhile isDigit = [] ∧ r.dropWhile isDigit = r := by
    cases r with
    | nil => simp
    | cons c r =>
      have hc : isDigit c = false := by simpa using hr
      simp [hc]
  rw [takeWhile_append_of_pos hf, dropWhile_append_of_pos hf, hr'.1, hr'.2]
  simp

theorem fractionText_head (f : List Char) : (fractionText f).head?.map isDigit ≠ some true := by
  unfold fractionText
  split_ifs
  · simp
  · show some (isDigit '.') ≠ some true
    decide

theorem scanInteger_append (hi : IntegerPart i) (f : List Char) :
    scanInteger (i ++ fractionText f) = some (i, fractionText f) := by
  obtain ⟨hall, rfl | ⟨hne, hhead⟩⟩ := hi
  · have hf : ((fractionText f).head?.map isDigit).getD false = false := by
      have := fractionText_head f
      cases h : (fractionText f).head?.map isDigit with
      | none => rfl
      | some b =>
        cases b
        · rfl
        · exact absurd h this
    simp [scanInteger, hf]
  · cases i with
    | nil => exact absurd rfl hne
    | cons c i =>
      have hc0 : c ≠ '0' := fun h => hhead (by rw [h]; rfl)
      have hc : isDigit c = true := hall c mem_cons_self
      obtain ⟨ht, hd⟩ := takeWhile_isDigit_append
        (f := i) (fun x hx => hall x (mem_cons_of_mem _ hx)) (fractionText_head f)
      simp only [cons_append, scanInteger, if_neg hc0, if_pos hc, ht, hd]

theorem scanFraction_fractionText (hf : AllDigits f) :
    scanFraction (fractionText f) = some (f, []) := by
  unfold fractionText
  split_ifs with h
  · rw [h]
    rfl
  · obtain ⟨ht, hd⟩ := takeWhile_isDigit_append hf (r := []) (by simp)
    rw [append_nil] at ht hd
    simp only [scanFraction, ht, if_neg h, hd]

variable {negative : Bool}

theorem scanSign_plainText (hi : IntegerPart i) (f : List Char) :
    scanSign (plainText negative i f) = (negative, i ++ fractionText f) := by
  cases negative with
  | true => rfl
  | false =>
    cases i with
    | nil => rcases hi.2 with h | h <;> simp at h
    | cons c i =>
      have hc : c ≠ '-' := by
        rintro rfl
        exact absurd (hi.1 '-' mem_cons_self) (by decide)
      simp only [plainText, Bool.false_eq_true, if_false, nil_append, cons_append]
      unfold scanSign
      split
      · rename_i heq
        exact absurd (cons.inj heq).1 hc
      · rfl

theorem parseJSONDecimal_plainText (hi : IntegerPart i) (hf : AllDigits f)
    (hlen : i.length + f.length ≤ 200) :
    parseJSONDecimal (plainText negative i f) = some ⟨negative, i, f, 0⟩ := by
  have hne : plainText negative i f ≠ [] := by
    rcases hi.2 with h | h
    · simp [plainText, h]
    · simp [plainText, h.1]
  have hshort : ¬(plainText negative i f).length >
      maxCanonicalNumberDigits + maxCanonicalNumberScale + 16 := by
    have hs : (if negative then ['-'] else []).length ≤ 1 := by cases negative <;> simp
    have hft : (fractionText f).length ≤ f.length + 1 := by
      unfold fractionText
      split_ifs <;> simp
    simp only [plainText, length_append, maxCanonicalNumberDigits, maxCanonicalNumberScale]
    omega
  rw [parseJSONDecimal, if_neg (by tauto)]
  simp only [scanSign_plainText hi, scanInteger_append hi, scanFraction_fractionText hf,
    scanExponent, bind_eq_bind, bind_some]

variable {digits : List Char}

theorem writeNumber_eq_plainText (negative : Bool) (h : Coefficient digits scale) :
    ∃ i f z, writeNumber negative digits scale = plainText negative i f ∧ IntegerPart i ∧
      AllDigits f ∧ f.length = scale.toNat ∧ i.length + f.length ≤ 200 ∧
      i ++ f = replicate z '0' ++ (digits ++ replicate (-scale).toNat '0') := by
  obtain ⟨hall, hhead, hne, hlast, hlen, hscale, hint⟩ := h
  have hpos : 0 < digits.length := length_pos_iff.mpr hne
  unfold maxCanonicalNumberDigits at hlen hint
  unfold maxCanonicalNumberScale at hscale
  simp only [writeNumber, plainText]
  generalize (if negative then ['-'] else []) = sign
  split_ifs with h0 h1
  · -- an integer: the digits and the zeros of a negative scale
    refine ⟨digits ++ replicate (-scale).toNat '0', [], 0, ?_, ⟨?_, .inr ⟨?_, ?_⟩⟩,
      by simp [AllDigits], ?_, ?_, by simp⟩
    · simp [fractionText]
    · exact hall.append (allDigits_replicate_zero _)
    · simp [hne]
    · rw [head?_append_of_ne_nil _ hne]
      exact hhead
    · simp only [length_nil]
      omega
    · simp only [length_append, length_replicate, length_nil]
      omega
  · -- the point stands before every digit
    refine ⟨['0'], replicate (scale.toNat - digits.length) '0' ++ digits,
      scale.toNat - digits.length + 1, ?_, ⟨allDigits_replicate_zero 1, .inl rfl⟩,
      (allDigits_replicate_zero _).append hall, ?_, ?_, ?_⟩
    · simp [fractionText, hne]
    · simp only [length_append, length_replicate]
      omega
    · simp only [length_append, length_replicate, length_singleton]
      omega
    · have hz : (-scale).toNat = 0 := by omega
      simp [hz, replicate_succ]
  · -- the point stands between two digits
    have hk : 0 < digits.length - scale.toNat := by omega
    have htake : digits.take (digits.length - scale.toNat) ≠ [] := by
      simp only [ne_eq, take_eq_nil_iff, hne, or_false]
      omega
    have hdrop : digits.drop (digits.length - scale.toNat) ≠ [] := by
      simp only [ne_eq, drop_eq_nil_iff]
      omega
    refine ⟨digits.take (digits.length - scale.toNat), digits.drop (digits.length - scale.toNat), 0,
      ?_, ⟨?_, .inr ⟨htake, ?_⟩⟩, ?_, ?_, ?_, ?_⟩
    · simp only [fractionText, if_neg hdrop]
    · exact fun c hc => hall c (mem_of_mem_take hc)
    · rw [head?_take, if_neg (by omega)]
      exact hhead
    · exact fun c hc => hall c (mem_of_mem_drop hc)
    · rw [length_drop]
      omega
    · rw [length_take, length_drop]
      omega
    · have hz : (-scale).toNat = 0 := by omega
      simp [hz]

/-- The digits and scale of an integer with its zeros written out, and of any other number, have
the same text. -/
theorem writeNumber_append_zeros (negative : Bool) (digits : List Char) (scale : Int) :
    writeNumber negative (digits ++ replicate (-scale).toNat '0') scale.toNat =
      writeNumber negative digits scale := by
  by_cases h : scale ≤ 0
  · have h0 : (scale.toNat : Int) = 0 := by omega
    simp [writeNumber, h0, h]
  · have hz : (-scale).toNat = 0 := by omega
    have hs : (scale.toNat : Int) = scale := by omega
    rw [hz, hs, replicate_zero, append_nil]

theorem normalizeNumberText_writeNumber (negative : Bool) (h : Coefficient digits scale) :
    normalizeNumberText (writeNumber negative digits scale) =
      some (writeNumber negative digits scale) := by
  obtain ⟨i, f, z, htext, hi, hf, hflen, hlen, hparts⟩ := writeNumber_eq_plainText negative h
  have hdropped : (i ++ f).dropWhile (· = '0') = digits ++ replicate (-scale).toNat '0' := by
    rw [hparts, dropWhile_append_of_pos (by simp)]
    cases hd : digits with
    | nil => exact absurd hd h.ne_nil
    | cons c cs =>
      have hc : c ≠ '0' := fun hc => h.head (by rw [hd, hc]; rfl)
      simp [hc]
  have hne : digits ++ replicate (-scale).toNat '0' ≠ [] := by simp [h.ne_nil]
  have hstrip : stripTrailingZeros (digits ++ replicate (-scale).toNat '0').reverse
      scale.toNat = ((digits ++ replicate (-scale).toNat '0').reverse, (scale.toNat : Int)) := by
    by_cases h0 : scale ≤ 0
    · exact stripTrailingZeros_of_scale_nonpos _ (by omega)
    · refine stripTrailingZeros_of_head _ ?_
      have hz : (-scale).toNat = 0 := by omega
      rw [hz, replicate_zero, append_nil, head?_reverse]
      exact h.last (by omega)
  have hlength : (digits ++ replicate (-scale).toNat '0').length =
      digits.length + (-scale).toNat := by simp
  have h1 := h.length_le
  have h2 := h.scale_le
  have h3 := h.integer_le
  have hmax : 1 ≤ maxCanonicalNumberDigits := by decide
  rw [normalizeNumberText, htext, parseJSONDecimal_plainText hi hf hlen, ← htext]
  simp only [bind_eq_bind, bind_some, hdropped, if_neg hne, hflen, sub_zero, hstrip,
    reverse_reverse, writeNumber_append_zeros negative digits scale]
  rw [if_neg (by rw [hlength]; omega), if_neg (by rw [hlength]; omega)]

/-! ## The value determines the text -/

theorem coefficientValue_eq_div (negative : Bool) (digits : List Char) (scale : Int) :
    coefficientValue negative digits scale = (if negative then -1 else 1) *
      ((val (digits ++ replicate (-scale).toNat '0') : ℚ) / 10 ^ scale.toNat) := by
  have hs : scale = (scale.toNat : Int) - (-scale).toNat := by omega
  have h := coefficientValue_append_zeros negative digits scale.toNat (-scale).toNat
  rw [← hs] at h
  rw [← h, coefficientValue, zpow_neg, zpow_natCast, mul_assoc, div_eq_mul_inv]

theorem Coefficient.val_pos (h : Coefficient digits scale) : 0 < val digits :=
  Digits.val_pos h.allDigits h.ne_nil h.head

theorem Coefficient.not_ten_dvd (h : Coefficient digits scale) :
    0 < scale.toNat → ¬10 ∣ val (digits ++ replicate (-scale).toNat '0') := by
  intro hs
  have hz : (-scale).toNat = 0 := by omega
  rw [hz, replicate_zero, append_nil]
  exact not_ten_dvd_val h.allDigits h.ne_nil (h.last (by omega))

theorem coefficientValue_ne_zero (negative : Bool) (h : Coefficient digits scale) :
    coefficientValue negative digits scale ≠ 0 := by
  have hv : (val digits : ℚ) ≠ 0 := Nat.cast_ne_zero.mpr h.val_pos.ne'
  have hp : (10 : ℚ) ^ (-scale) ≠ 0 := zpow_ne_zero _ (by norm_num)
  have hsign : (if negative then -1 else 1 : ℚ) ≠ 0 := by cases negative <;> norm_num
  exact mul_ne_zero (mul_ne_zero hsign hv) hp

theorem writeNumber_eq_of_value_eq {n1 n2 : Bool} {d1 d2 : List Char} {s1 s2 : Int}
    (h1 : Coefficient d1 s1) (h2 : Coefficient d2 s2)
    (h : coefficientValue n1 d1 s1 = coefficientValue n2 d2 s2) :
    writeNumber n1 d1 s1 = writeNumber n2 d2 s2 := by
  rw [← writeNumber_append_zeros n1, ← writeNumber_append_zeros n2]
  rw [coefficientValue_eq_div, coefficientValue_eq_div] at h
  have hn1 := h1.not_ten_dvd
  have hn2 := h2.not_ten_dvd
  have hp1 : 0 < val (d1 ++ replicate (-s1).toNat '0') := by
    rw [val_append_zeros]
    exact Nat.mul_pos h1.val_pos (by positivity)
  have hp2 : 0 < val (d2 ++ replicate (-s2).toNat '0') := by
    rw [val_append_zeros]
    exact Nat.mul_pos h2.val_pos (by positivity)
  have ha1 := h1.allDigits.append (allDigits_replicate_zero (-s1).toNat)
  have ha2 := h2.allDigits.append (allDigits_replicate_zero (-s2).toNat)
  have hh1 : (d1 ++ replicate (-s1).toNat '0').head? ≠ some '0' := by
    rw [head?_append_of_ne_nil _ h1.ne_nil]
    exact h1.head
  have hh2 : (d2 ++ replicate (-s2).toNat '0').head? ≠ some '0' := by
    rw [head?_append_of_ne_nil _ h2.ne_nil]
    exact h2.head
  generalize d1 ++ replicate (-s1).toNat '0' = a at *
  generalize d2 ++ replicate (-s2).toNat '0' = b at *
  have hqa : 0 < (val a : ℚ) / 10 ^ s1.toNat := by positivity
  have hqb : 0 < (val b : ℚ) / 10 ^ s2.toNat := by positivity
  have hsign : n1 = n2 := by
    cases n1 <;> cases n2 <;> simp only [if_true, Bool.false_eq_true, if_false] at h
    · rfl
    · linarith
    · linarith
    · rfl
  subst hsign
  have hq : (val a : ℚ) / 10 ^ s1.toNat = (val b : ℚ) / 10 ^ s2.toNat := by
    cases n1 <;> simpa using h
  have hnat : val a * 10 ^ s2.toNat = val b * 10 ^ s1.toNat := by
    rw [div_eq_div_iff (by positivity) (by positivity)] at hq
    exact_mod_cast hq
  obtain ⟨hs, hv⟩ := scaled_unique hn1 hn2 hnat
  rw [hs, val_inj ha1 ha2 hh1 hh2 hv]

/-! ## The canonical form -/

theorem jsonNumberValue_writeNumber (negative : Bool) (h : Coefficient digits scale) :
    jsonNumberValue (String.ofList (writeNumber negative digits scale)) =
      some (coefficientValue negative digits scale) := by
  obtain ⟨i, f, z, htext, hi, hf, hflen, hlen, hparts⟩ := writeNumber_eq_plainText negative h
  have hparse : parseJSONDecimal (plainText negative i f) = _ :=
    parseJSONDecimal_plainText hi hf hlen
  obtain ⟨-, hv⟩ := parseJSONDecimal_spec hparse
  rw [htext, hv, coefficientValue_eq_div, decimalValue, hparts, val_zeros_append, hflen, zero_sub,
    zpow_neg, zpow_natCast, mul_assoc, div_eq_mul_inv]

theorem jsonNumberValue_zero : jsonNumberValue (String.ofList ['0']) = some 0 := by
  have h : parseJSONDecimal ['0'] = some ⟨false, ['0'], [], 0⟩ := by decide
  rw [(parseJSONDecimal_spec h).2]
  simp [decimalValue, val_zero_cons]

theorem normalizeNumberText_spec (h : normalizeNumberText t = some out) :
    (∃ v, jsonNumberValue (String.ofList t) = some v ∧
      jsonNumberValue (String.ofList out) = some v) ∧
    normalizeNumberText out = some out := by
  obtain ⟨rfl, hv⟩ | ⟨n, d, s, hc, rfl, hv⟩ := normalizeNumberText_cases h
  · exact ⟨⟨0, hv, jsonNumberValue_zero⟩, by decide⟩
  · exact ⟨⟨_, hv, jsonNumberValue_writeNumber n hc⟩, normalizeNumberText_writeNumber n hc⟩

theorem normalizeNumberText_eq_of_value_eq {t1 t2 o1 o2 : List Char}
    (h1 : normalizeNumberText t1 = some o1) (h2 : normalizeNumberText t2 = some o2)
    (h : jsonNumberValue (String.ofList t1) = jsonNumberValue (String.ofList t2)) : o1 = o2 := by
  obtain ⟨rfl, hv1⟩ | ⟨n1, d1, s1, hc1, rfl, hv1⟩ := normalizeNumberText_cases h1
  · obtain ⟨rfl, -⟩ | ⟨n2, d2, s2, hc2, rfl, hv2⟩ := normalizeNumberText_cases h2
    · rfl
    · rw [hv1, hv2, some.injEq] at h
      exact absurd h.symm (coefficientValue_ne_zero n2 hc2)
  · obtain ⟨rfl, hv2⟩ | ⟨n2, d2, s2, hc2, rfl, hv2⟩ := normalizeNumberText_cases h2
    · rw [hv1, hv2, some.injEq] at h
      exact absurd h (coefficientValue_ne_zero n1 hc1)
    · rw [hv1, hv2, some.injEq] at h
      exact writeNumber_eq_of_value_eq hc1 hc2 h

/-- `normalizeJSONNumber` is a canonical form for exact decimals: the output of an accepted text
denotes the same rational, is accepted and left unchanged, and two accepted texts have the same
output exactly when they denote the same rational. -/
theorem normalizeJSONNumber_canonical {text out : String}
    (h : normalizeJSONNumber text = some out) :
    (∃ v, jsonNumberValue text = some v ∧ jsonNumberValue out = some v) ∧
    normalizeJSONNumber out = some out ∧
    ∀ {text' out' : String}, normalizeJSONNumber text' = some out' →
      (out = out' ↔ jsonNumberValue text = jsonNumberValue text') := by
  simp only [normalizeJSONNumber, map_eq_some_iff] at h ⊢
  obtain ⟨o, ho, rfl⟩ := h
  obtain ⟨⟨v, hv, hov⟩, hidem⟩ := normalizeNumberText_spec ho
  rw [String.ofList_toList] at hv
  refine ⟨⟨v, hv, hov⟩, ⟨o, by rw [String.toList_ofList]; exact hidem, rfl⟩, ?_⟩
  rintro text' out' ⟨o', ho', rfl⟩
  obtain ⟨⟨v', hv', hov'⟩, -⟩ := normalizeNumberText_spec ho'
  rw [String.ofList_toList] at hv'
  constructor
  · intro heq
    rw [hv, ← hov, heq, hov', hv']
  · intro hval
    have heq : o = o' := normalizeNumberText_eq_of_value_eq ho ho' (by
      rw [String.ofList_toList, String.ofList_toList, hval])
    rw [heq]

/-- Exponents, trailing zeros and a negative zero: `-12.3400e-2` is written `-0.1234`. -/
theorem normalizeJSONNumber_canonical_exponent :
    normalizeJSONNumber "-12.3400e-2" = some "-0.1234" ∧
    normalizeJSONNumber "-0.1234" = some "-0.1234" ∧
    jsonNumberValue "-12.3400e-2" = jsonNumberValue "-1234e-4" := by
  have h : normalizeJSONNumber "-12.3400e-2" = some "-0.1234" := by decide
  have h' : normalizeJSONNumber "-1234e-4" = some "-0.1234" := by decide
  obtain ⟨-, hidem, hiff⟩ := normalizeJSONNumber_canonical h
  exact ⟨h, hidem, (hiff h').mp rfl⟩

end Houfeng.Evidence
