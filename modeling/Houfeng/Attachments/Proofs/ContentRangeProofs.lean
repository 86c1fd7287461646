import Houfeng.Attachments.ContentRange

/-!
# Resolved ranges are the requested bytes

The text of a specification is split into its two parts again, and each of the three forms is
resolved to the bytes it selects. The exceptions are stated with the result: an empty object, and
numbers that no `int64` holds.
-/

namespace Houfeng.Attachments

open List Center Digits RangeSpec

theorem int64_eq_self {value : Int} (hnonneg : 0 ≤ value) (hle : value ≤ maxInt64) :
    int64 value = value := by
  have hmax : value ≤ 9223372036854775807 := hle
  exact Int.bmod_eq_of_le (by omega) (by omega)

/-! ## The text of a specification -/

theorem trimSpace_eq_self {cs : List Char} (h : ∀ c ∈ cs, isSpace c = false) :
    trimSpace (String.ofList cs) = String.ofList cs := by
  have hkeeps : ∀ {ds : List Char}, (∀ c ∈ ds, isSpace c = false) → ds.dropWhile isSpace = ds := by
    intro ds hds
    cases ds with
    | nil => rfl
    | cons d ds => rw [dropWhile_cons_of_neg (by simp [hds d mem_cons_self])]
  rw [trimSpace, String.toList_ofList, hkeeps h, hkeeps fun c hc => h c (mem_reverse.mp hc),
    reverse_reverse]

variable {c : Char}

theorem ne_of_isDigit {d : Char} (hc : isDigit c = true) (hd : isDigit d = false) : c ≠ d := by
  rintro rfl
  rw [hc] at hd
  cases hd

theorem isSpace_of_isDigit (hc : isDigit c = true) : isSpace c = false := by
  obtain ⟨hlow, hhigh⟩ := isDigit_iff.mp hc
  simp only [isSpace, Bool.or_eq_false_iff, Bool.and_eq_false_iff, decide_eq_false_iff_not,
    mem_cons, not_mem_nil, or_false]
  omega

variable {first last : List Char} {size : Nat}

theorem mem_text (hfirst : AllDigits first) (hlast : AllDigits last)
    (hc : c ∈ bytesUnit ++ (first ++ '-' :: last)) : isDigit c = true ∨ c ∈ '-' :: bytesUnit := by
  rcases mem_append.mp hc with hunit | hrest
  · exact .inr (mem_cons_of_mem _ hunit)
  rcases mem_append.mp hrest with hdigit | hrest
  · exact .inl (hfirst c hdigit)
  rcases mem_cons.mp hrest with rfl | hdigit
  · exact .inr mem_cons_self
  · exact .inl (hlast c hdigit)

theorem count_hyphen (h : AllDigits first) : first.count '-' = 0 :=
  count_eq_zero.mpr fun hc => ne_of_isDigit (h _ hc) (by decide) rfl

/-- A text in the unit of bytes with digits around one hyphen is resolved by its parts. -/
theorem resolveHTTPContentRange_text (hsize : 0 < size) (hfirst : AllDigits first)
    (hlast : AllDigits last) :
    resolveHTTPContentRange (String.ofList (bytesUnit ++ (first ++ '-' :: last))) size =
      resolveParts first last size := by
  have hpositive : ¬(size : Int) ≤ 0 := by omega
  have hshown : String.ofList (bytesUnit ++ (first ++ '-' :: last)) ≠ "" := by
    intro hempty
    have := congrArg String.toList hempty
    simp [bytesUnit] at this
  have htrim := trimSpace_eq_self fun c (hc : c ∈ bytesUnit ++ (first ++ '-' :: last)) => by
    rcases mem_text hfirst hlast hc with hdigit | hother
    · exact isSpace_of_isDigit hdigit
    · simp only [bytesUnit, mem_cons, not_mem_nil, or_false] at hother
      rcases hother with rfl | rfl | rfl | rfl | rfl | rfl | rfl <;> decide
  have hcomma : ',' ∉ bytesUnit ++ (first ++ '-' :: last) := by
    intro hc
    rcases mem_text hfirst hlast hc with hdigit | hother
    · exact absurd hdigit (by decide)
    · exact absurd hother (by decide)
  have hcount : (first ++ '-' :: last).count '-' = 1 := by
    rw [count_append, count_cons_self, count_hyphen hfirst, count_hyphen hlast]
  have hbefore : ∀ c ∈ first, decide (c ≠ '-') = true := fun c hc =>
    decide_eq_true (ne_of_isDigit (hfirst c hc) (by decide))
  rw [resolveHTTPContentRange, if_neg hpositive, if_neg hshown, htrim, String.toList_ofList]
  rw [if_neg (by simp [hcomma]), drop_left]
  simp only [hcount, ne_eq, not_true_eq_false, if_false]
  rw [takeWhile_append_of_pos hbefore, dropWhile_append_of_pos hbefore]
  simp

theorem RangeSpec.resolve_text (spec : RangeSpec) (hsize : 0 < size) :
    resolveHTTPContentRange spec.text size = resolveParts spec.parts.1 spec.parts.2 size := by
  have hnone : AllDigits [] := nofun
  refine resolveHTTPContentRange_text hsize ?_ ?_
  · cases spec with
    | closed first last _ => exact first.allDigits
    | onward first => exact first.allDigits
    | suffix length => exact hnone
  · cases spec with
    | closed first last _ => exact last.allDigits
    | onward first => exact hnone
    | suffix length => exact length.allDigits

/-! ## The three forms -/

theorem parseContentRangeInteger_digits (n : Numeral) :
    parseContentRangeInteger n.digits =
      if n.value ≤ maxInt64 then .ok (n.value : Int) else .error .invalidContentRange := by
  have hall : ¬n.digits.all isDigit = false := by
    rw [all_eq_true.mpr n.allDigits]
    decide
  rw [parseContentRangeInteger, if_neg n.nonempty, if_neg hall]
  rfl

theorem partialContentRange_of_lt {start finish : Int} (h : finish < start) :
    partialContentRange start finish = .error .contentRangeNotSatisfiable :=
  if_pos (.inr h)

variable {spec : RangeSpec}

section Fits

variable (hsize : 0 < size) (hmax : size ≤ maxInt64)
include hmax

theorem answers_of_bounds {start finish : Nat} (hlt : finish < size)
    (hselected : ∀ i, i ∈ spec.selected size ↔ start ≤ i ∧ i ≤ finish) :
    spec.Answers size (partialContentRange start finish) := by
  by_cases hle : start ≤ finish
  · have hwidth : int64 ((finish : Int) - start) = finish - start :=
      int64_eq_self (by omega) (by omega)
    have hlength : int64 ((finish : Int) - start + 1) = finish - start + 1 :=
      int64_eq_self (by omega) (by omega)
    rw [partialContentRange, if_neg (by omega), hwidth, hlength]
    exact ⟨start, finish, hle, hlt, Set.ext hselected, rfl, rfl⟩
  · rw [partialContentRange_of_lt (by omega)]
    refine Set.eq_empty_of_forall_notMem fun i hi => ?_
    have := (hselected i).mp hi
    omega

include hsize

theorem int64_pred : int64 ((size : Int) - 1) = (size - 1 : Nat) := by
  rw [int64_eq_self (by omega) (by omega)]
  omega

theorem resolve_closed {first last : Numeral} (hordered : first.value ≤ last.value)
    (hfits : (closed first last hordered).Fits size) :
    resolveParts first.digits last.digits size =
      partialContentRange first.value (min last.value (size - 1) : Nat) := by
  rw [resolveParts, if_neg first.nonempty, parseContentRangeInteger_digits, if_pos hfits.1]
  simp only [bind, Except.bind]
  split_ifs with houtside hempty
  · exact (partialContentRange_of_lt (by omega)).symm
  · exact absurd hempty last.nonempty
  rw [parseContentRangeInteger_digits, if_pos (hfits.2 (by omega))]
  simp only
  rw [if_neg (by omega), int64_pred hsize hmax]
  congr 1
  split_ifs <;> omega

theorem resolve_onward {first : Numeral} (hfits : first.value ≤ maxInt64) :
    resolveParts first.digits [] size = partialContentRange first.value (size - 1 : Nat) := by
  rw [resolveParts, if_neg first.nonempty, parseContentRangeInteger_digits, if_pos hfits]
  simp only [bind, Except.bind]
  split_ifs with houtside
  · exact (partialContentRange_of_lt (by omega)).symm
  · rw [int64_pred hsize hmax]

theorem resolve_suffix {length : Numeral} (hfits : length.value ≤ maxInt64) :
    resolveParts [] length.digits size =
      partialContentRange (size - length.value : Nat) (size - 1 : Nat) := by
  rw [resolveParts, if_pos rfl, parseContentRangeInteger_digits, if_pos hfits]
  simp only [bind, Except.bind]
  by_cases hzero : (length.value : Int) ≤ 0
  · rw [if_pos hzero]
    exact (partialContentRange_of_lt (by omega)).symm
  -- a suffix of the whole object or more starts at its first byte
  rw [if_neg hzero, int64_pred hsize hmax,
    int64_eq_self (by split_ifs <;> omega) (by split_ifs <;> omega)]
  congr 1
  split_ifs <;> omega

theorem answers_resolveParts (hfits : spec.Fits size) :
    spec.Answers size (resolveParts spec.parts.1 spec.parts.2 size) := by
  cases spec with
  | closed first last hordered =>
    rw [parts, resolve_closed hsize hmax hordered hfits]
    refine answers_of_bounds hmax (by omega) fun i => ?_
    simp only [selected, Set.mem_inter_iff, Set.mem_Icc, Set.mem_Iio]
    omega
  | onward first =>
    rw [parts, resolve_onward hsize hmax hfits]
    refine answers_of_bounds hmax (by omega) fun i => ?_
    simp only [selected, Set.mem_inter_iff, Set.mem_Ici, Set.mem_Iio]
    omega
  | suffix length =>
    rw [parts, resolve_suffix hsize hmax hfits]
    refine answers_of_bounds hmax (by omega) fun i => ?_
    simp only [selected, Set.mem_inter_iff, Set.mem_Ici, Set.mem_Iio]
    omega

end Fits

theorem resolve_unfit (hfits : ¬spec.Fits size) :
    resolveParts spec.parts.1 spec.parts.2 size = .error .invalidContentRange := by
  cases spec with
  | closed first last hordered =>
    simp only [parts]
    rw [resolveParts, if_neg first.nonempty, parseContentRangeInteger_digits]
    by_cases hfirst : first.value ≤ maxInt64
    · have hlast : first.value < size ∧ ¬last.value ≤ maxInt64 := by
        by_contra hread
        exact hfits ⟨hfirst, fun hlt => not_not.mp fun hlast => hread ⟨hlt, hlast⟩⟩
      rw [if_pos hfirst]
      simp only [bind, Except.bind]
      rw [if_neg (by omega), if_neg last.nonempty, parseContentRangeInteger_digits, if_neg hlast.2]
    · rw [if_neg hfirst]
      rfl
  | onward first =>
    have hlarge : ¬first.value ≤ maxInt64 := hfits
    simp only [parts]
    rw [resolveParts, if_neg first.nonempty, parseContentRangeInteger_digits, if_neg hlarge]
    rfl
  | suffix length =>
    have hlarge : ¬length.value ≤ maxInt64 := hfits
    simp only [parts]
    rw [resolveParts, if_pos rfl, parseContentRangeInteger_digits, if_neg hlarge]
    rfl

/-- A specification is answered by its bytes unless the object is empty or a number that is read is
not one of an `int64`, and refused as invalid otherwise. -/
theorem content_range_answers_iff_fits (spec : RangeSpec) (size : Nat) (hmax : size ≤ maxInt64) :
    (size ≠ 0 ∧ spec.Fits size → spec.Answers size (resolveHTTPContentRange spec.text size)) ∧
      (¬(size ≠ 0 ∧ spec.Fits size) →
        resolveHTTPContentRange spec.text size = .error .invalidContentRange) := by
  constructor
  · rintro ⟨hne, hfits⟩
    have hsize := Nat.pos_of_ne_zero hne
    rw [spec.resolve_text hsize]
    exact answers_resolveParts hsize hmax hfits
  · intro hrefused
    by_cases hsize : size = 0
    · rw [hsize]
      rfl
    rw [spec.resolve_text (Nat.pos_of_ne_zero hsize)]
    exact resolve_unfit fun hfits => hrefused ⟨hsize, hfits⟩

def atZero : Numeral := ⟨['0'], by decide, fun c hc => by simp_all [isDigit]⟩

def pastInt64 : Numeral :=
  ⟨"9223372036854775808".toList, by decide, all_eq_true.mp (by decide)⟩

theorem atZero_le {n : Numeral} : atZero.value ≤ n.value := Nat.zero_le _

theorem content_range_answers_zero :
    (onward atZero).Answers 10 (resolveHTTPContentRange (onward atZero).text 10) := by
  have hfits : (onward atZero).Fits 10 := show atZero.value ≤ maxInt64 by decide
  exact (content_range_answers_iff_fits (.onward atZero) 10 (by decide)).1 ⟨by decide, hfits⟩

/-- No byte of an empty object can be asked for, and a last position past the end stands for the
end: both requests are refused as invalid. -/
theorem content_range_refused :
    ¬(onward atZero).Answers 0 (resolveHTTPContentRange (onward atZero).text 0) ∧
      ¬(closed atZero pastInt64 atZero_le).Answers 10
        (resolveHTTPContentRange (closed atZero pastInt64 atZero_le).text 10) := by
  refine ⟨fun h => h, ?_⟩
  have hunfit : ¬(closed atZero pastInt64 atZero_le).Fits 10 := fun h =>
    absurd (h.2 (by decide)) (by decide)
  have hrefused : resolveHTTPContentRange (closed atZero pastInt64 atZero_le).text 10 =
      .error .invalidContentRange :=
    ((closed atZero pastInt64 atZero_le).resolve_text (by decide : 0 < 10)).trans (resolve_unfit hunfit)
  intro h
  rwa [hrefused] at h

end Houfeng.Attachments
