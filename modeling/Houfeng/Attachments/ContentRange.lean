import Houfeng.Center.Syncing
import Houfeng.Foundation.Digits

/-!
# Byte ranges of attachment content

`ResolveHTTPContentRange` of the download service: the `Range` header of a request is resolved
against the size of the selected object, to the range for the response and the one the blob store
is asked for. Sizes and positions are `int64`.
-/

namespace Houfeng.Attachments

open Center Digits

def maxInt64 : Nat := 9223372036854775807

/-- What an `int64` holds of the value of an expression. -/
def int64 (value : Int) : Int := value.bmod 18446744073709551616

inductive ContentRangeError
  | invalidContentRange
  | contentRangeNotSatisfiable

structure ResolvedContentRange where
  start : Int
  endInclusive : Int
  length : Int
  isPartial : Bool

inductive ByteRange
  | full
  | closed (start endInclusive : Int)

abbrev ContentRangeResult := Except ContentRangeError (ResolvedContentRange × ByteRange)

def parseContentRangeInteger (raw : List Char) : Except ContentRangeError Int :=
  if raw = [] then .error .invalidContentRange
  else if raw.all isDigit = false then .error .invalidContentRange
  -- strconv.ParseInt of digits fails on values outside int64 only
  else if val raw ≤ maxInt64 then .ok (val raw)
  else .error .invalidContentRange

def partialContentRange (start finish : Int) : ContentRangeResult :=
  if start < 0 ∨ finish < start then .error .contentRangeNotSatisfiable
  else .ok (⟨start, finish, int64 (int64 (finish - start) + 1), true⟩, .closed start finish)

/-- `ResolveHTTPContentRange` from the two parts around the hyphen on. -/
def resolveParts (first last : List Char) (sizeBytes : Int) : ContentRangeResult :=
  if first = [] then do
    let suffix ← parseContentRangeInteger last
    if suffix ≤ 0 then .error .contentRangeNotSatisfiable
    else
      let suffix := if suffix > sizeBytes then sizeBytes else suffix
      partialContentRange (int64 (sizeBytes - suffix)) (int64 (sizeBytes - 1))
  else do
    let start ← parseContentRangeInteger first
    if start ≥ sizeBytes then .error .contentRangeNotSatisfiable
    else if last = [] then partialContentRange start (int64 (sizeBytes - 1))
    else
      let finish ← parseContentRangeInteger last
      if finish < start then .error .contentRangeNotSatisfiable
      else
        partialContentRange start
          (if finish ≥ sizeBytes then int64 (sizeBytes - 1) else finish)

def bytesUnit : List Char := ['b', 'y', 't', 'e', 's', '=']

def resolveHTTPContentRange (raw : String) (sizeBytes : Int) : ContentRangeResult :=
  if sizeBytes ≤ 0 then .error .invalidContentRange
  else if raw = "" then .ok (⟨0, int64 (sizeBytes - 1), sizeBytes, false⟩, .full)
  else if raw ≠ trimSpace raw ∨ ¬bytesUnit <+: raw.toList ∨ ',' ∈ raw.toList then
    .error .invalidContentRange
  else
    let value := raw.toList.drop bytesUnit.length
    if value.count '-' ≠ 1 then .error .invalidContentRange
    else resolveParts (value.takeWhile (· ≠ '-')) (value.dropWhile (· ≠ '-')).tail sizeBytes

/-! ## Range specifications -/

/-- A decimal number of any length. -/
structure Numeral where
  digits : List Char
  nonempty : digits ≠ []
  allDigits : AllDigits digits

def Numeral.value (n : Numeral) : Nat := val n.digits

/-- A single range specification in the unit of bytes. -/
inductive RangeSpec
  | closed (first last : Numeral) (ordered : first.value ≤ last.value)
  | onward (first : Numeral)
  | suffix (length : Numeral)

namespace RangeSpec

variable (size : Nat)

/-- What stands on the two sides of the hyphen. -/
def parts : RangeSpec → List Char × List Char
  | closed first last _ => (first.digits, last.digits)
  | onward first => (first.digits, [])
  | suffix length => ([], length.digits)

def text (spec : RangeSpec) : String :=
  String.ofList (bytesUnit ++ (spec.parts.1 ++ '-' :: spec.parts.2))

/-- The bytes of an object that a specification asks for. -/
def selected : RangeSpec → Set Nat
  | closed first last _ => Set.Icc first.value last.value ∩ Set.Iio size
  | onward first => Set.Ici first.value ∩ Set.Iio size
  | suffix length => Set.Ici (size - length.value) ∩ Set.Iio size

/-- Every number that the resolution reads is one of an `int64`. The last position is read only when
the first one lies in the object. -/
def Fits : RangeSpec → Prop
  | closed first last _ =>
    first.value ≤ maxInt64 ∧ (first.value < size → last.value ≤ maxInt64)
  | onward first => first.value ≤ maxInt64
  | suffix length => length.value ≤ maxInt64

/-- The answer is the range of the selected bytes, or that there are none. -/
def Answers (spec : RangeSpec) (answer : ContentRangeResult) : Prop :=
  match answer with
  | .ok (range, byteRange) => ∃ start finish : Nat,
      start ≤ finish ∧ finish < size ∧ spec.selected size = Set.Icc start finish ∧
        range = ⟨start, finish, finish - start + 1, true⟩ ∧ byteRange = .closed start finish
  | .error .contentRangeNotSatisfiable => spec.selected size = ∅
  | .error .invalidContentRange => False

end RangeSpec

end Houfeng.Attachments
