import Houfeng.Foundation.Digits

/-!
# Numbers of canonical evidence payloads

Canonical JSON v1 expands exponents and keeps decimal text exactly: `normalizeJSONNumber` reads a
`json.Number` with `parseJSONDecimal`, strips trailing zeros of the fraction and writes the number
without an exponent, within at most 128 coefficient or integer digits and 64 fractional digits.

The scanning loops are `takeWhile`/`dropWhile` over the characters of the text. Only ASCII texts are
accepted, so characters and bytes agree.
-/

namespace Houfeng.Evidence

open Digits

def maxCanonicalNumberDigits : Nat := 128

def maxCanonicalNumberScale : Nat := 64

/-- What `parseJSONDecimal` returns for an accepted text. -/
structure JSONDecimal where
  negative : Bool
  integerPart : List Char
  fractionalPart : List Char
  exponent : Int
deriving DecidableEq

def scanSign : List Char → Bool × List Char
  | '-' :: rest => (true, rest)
  | rest => (false, rest)

/-- The integer part: a lone `0`, or digits that start with `1` to `9`. -/
def scanInteger : List Char → Option (List Char × List Char)
  | [] => none
  | c :: rest =>
    if c = '0' then
      if (rest.head?.map isDigit).getD false then none else some (['0'], rest)
    else if isDigit c then some (c :: rest.takeWhile isDigit, rest.dropWhile isDigit)
    else none

/-- The fraction: empty without a point, at least one digit after it. -/
def scanFraction : List Char → Option (List Char × List Char)
  | '.' :: rest =>
    if rest.takeWhile isDigit = [] then none
    else some (rest.takeWhile isDigit, rest.dropWhile isDigit)
  | rest => some ([], rest)

/-- The sign of an exponent; `strconv.ParseInt` also takes a plus. -/
def scanExponentSign : List Char → Bool × List Char
  | '-' :: rest => (true, rest)
  | '+' :: rest => (false, rest)
  | rest => (false, rest)

def signedVal (negative : Bool) (digits : List Char) : Int :=
  if negative then -(val digits : Int) else (val digits : Int)

/-- The exponent and the end of the text, with the limits of the source: at most four digits and a
magnitude of at most 192. -/
def scanExponent : List Char → Option Int
  | [] => some 0
  | c :: rest =>
    if c = 'e' ∨ c = 'E' then
      let (negative, digits) := scanExponentSign rest
      if digits = [] ∨ digits.dropWhile isDigit ≠ [] ∨ digits.length > 4 then none
      else
        let parsed := signedVal negative digits
        if parsed > (maxCanonicalNumberDigits + maxCanonicalNumberScale : Nat) ∨
            parsed < -((maxCanonicalNumberDigits + maxCanonicalNumberScale : Nat) : Int) then none
        else some parsed
    else none

/-- The JSON number grammar within the length limit. -/
def parseJSONDecimal (text : List Char) : Option JSONDecimal := do
  if text = [] ∨ text.length > maxCanonicalNumberDigits + maxCanonicalNumberScale + 16 then none
  else
    let (negative, afterSign) := scanSign text
    let (integerPart, afterInteger) ← scanInteger afterSign
    let (fractionalPart, afterFraction) ← scanFraction afterInteger
    let exponent ← scanExponent afterFraction
    some { negative, integerPart, fractionalPart, exponent }

/-- The loop that drops trailing zeros of the coefficient while the scale is positive, over the
reversed digits. -/
def stripTrailingZeros : List Char → Int → List Char × Int
  | [], scale => ([], scale)
  | c :: rest, scale =>
    if scale > 0 ∧ c = '0' then stripTrailingZeros rest (scale - 1) else (c :: rest, scale)

def writeNumber (negative : Bool) (digits : List Char) (scale : Int) : List Char :=
  (if negative then ['-'] else []) ++
    if scale ≤ 0 then digits ++ List.replicate (-scale).toNat '0'
    else if scale ≥ digits.length then
      '0' :: '.' :: (List.replicate (scale.toNat - digits.length) '0' ++ digits)
    else
      digits.take (digits.length - scale.toNat) ++
        '.' :: digits.drop (digits.length - scale.toNat)

/-- `normalizeJSONNumber` on the characters of a text; `none` is the "number" error. -/
def normalizeNumberText (text : List Char) : Option (List Char) := do
  let decimal ← parseJSONDecimal text
  let digits := (decimal.integerPart ++ decimal.fractionalPart).dropWhile (· = '0')
  if digits = [] then some ['0']
  else
    let (reversed, scale) :=
      stripTrailingZeros digits.reverse (decimal.fractionalPart.length - decimal.exponent)
    let digits := reversed.reverse
    if digits.length > maxCanonicalNumberDigits ∨ scale > (maxCanonicalNumberScale : Int) then none
    else
      let integerDigits : Int := max (digits.length - scale) 1
      if integerDigits > (maxCanonicalNumberDigits : Int) ∨
          scale < -(maxCanonicalNumberDigits : Int) then none
      else some (writeNumber decimal.negative digits scale)

/-- `normalizeJSONNumber`; `none` is the "number" error. -/
def normalizeJSONNumber (value : String) : Option String :=
  (normalizeNumberText value.toList).map String.ofList

/-! ## The rational a JSON number text denotes -/

def decimalValue (negative : Bool) (integerPart fractionalPart : List Char) (exponent : Int) : ℚ :=
  (if negative then -1 else 1) * (val (integerPart ++ fractionalPart) : ℚ) *
    (10 : ℚ) ^ (exponent - fractionalPart.length)

/-- The exponent and the end of a JSON number text, without limits. -/
def exponentValue : List Char → Option Int
  | [] => some 0
  | c :: rest =>
    if c = 'e' ∨ c = 'E' then
      let (negative, digits) := scanExponentSign rest
      if digits = [] ∨ digits.dropWhile isDigit ≠ [] then none
      else some (signedVal negative digits)
    else none

/-- The rational denoted by a text of the JSON number grammar, of any length. -/
def jsonNumberValue (text : String) : Option ℚ := do
  let (negative, afterSign) := scanSign text.toList
  let (integerPart, afterInteger) ← scanInteger afterSign
  let (fractionalPart, afterFraction) ← scanFraction afterInteger
  let exponent ← exponentValue afterFraction
  some (decimalValue negative integerPart fractionalPart exponent)

end Houfeng.Evidence
