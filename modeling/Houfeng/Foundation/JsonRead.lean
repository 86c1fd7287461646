import Houfeng.Foundation.Json
import Mathlib.Data.List.TakeWhile

/-!
# Reading and writing JSON texts

The compact text of a document and a reader for JSON texts, both on characters. The reader inverts
the writer on every document whose numbers are written in JSON's grammar, so a text determines its
document.
-/

namespace Houfeng.Json

open List Option

/-! ## Writing -/

def hexChar (n : Nat) : Char := if n < 10 then Char.ofNat (48 + n) else Char.ofNat (87 + n)

def unicodeEscape (n : Nat) : List Char :=
  ['\\', 'u', hexChar (n / 4096), hexChar (n / 256 % 16), hexChar (n / 16 % 16), hexChar (n % 16)]

/-- The characters that are escaped beyond JSON's own: line separators, and on demand those an HTML
page would interpret. -/
def needsUnicodeEscape (html : Bool) (c : Char) : Bool :=
  c.toNat < 32 || c.toNat = 0x2028 || c.toNat = 0x2029 ||
    (html && (c.toNat = 38 || c.toNat = 60 || c.toNat = 62))

def writeChar (html : Bool) (c : Char) : List Char :=
  if c = '"' then ['\\', '"']
  else if c = '\\' then ['\\', '\\']
  else if c = '\n' then ['\\', 'n']
  else if c = '\r' then ['\\', 'r']
  else if c = '\t' then ['\\', 't']
  else if c = '\x08' then ['\\', 'b']
  else if c = '\x0c' then ['\\', 'f']
  else if needsUnicodeEscape html c then unicodeEscape c.toNat
  else [c]

def writeString (html : Bool) (s : String) : List Char :=
  '"' :: (s.toList.flatMap (writeChar html) ++ ['"'])

mutual

def write (html : Bool) : Json → List Char
  | .null => ['n', 'u', 'l', 'l']
  | .bool true => ['t', 'r', 'u', 'e']
  | .bool false => ['f', 'a', 'l', 's', 'e']
  | .num t => t.toList
  | .str s => writeString html s
  | .arr [] => ['[', ']']
  | .arr (j :: rest) => '[' :: (write html j ++ writeItems html rest)
  | .obj [] => ['{', '}']
  | .obj ((k, v) :: rest) =>
    '{' :: (writeString html k ++ ':' :: (write html v ++ writeMembers html rest))

def writeItems (html : Bool) : List Json → List Char
  | [] => [']']
  | j :: rest => ',' :: (write html j ++ writeItems html rest)

def writeMembers (html : Bool) : List (String × Json) → List Char
  | [] => ['}']
  | (k, v) :: rest =>
    ',' :: (writeString html k ++ ':' :: (write html v ++ writeMembers html rest))

end

def text (html : Bool) (j : Json) : String := String.ofList (write html j)

/-! ## Reading -/

def hexValue (c : Char) : Option Nat :=
  let n := c.toNat
  if 48 ≤ n ∧ n ≤ 57 then some (n - 48)
  else if 97 ≤ n ∧ n ≤ 102 then some (n - 87)
  else if 65 ≤ n ∧ n ≤ 70 then some (n - 55)
  else none

def codeUnit (a b c d : Char) : Option Nat := do
  let a ← hexValue a
  let b ← hexValue b
  let c ← hexValue c
  let d ← hexValue d
  some (a * 4096 + b * 256 + c * 16 + d)

/-- The character of an escape other than `\u`. -/
def unescape (c : Char) : Option Char :=
  if c = '"' ∨ c = '\\' ∨ c = '/' then some c
  else if c = 'n' then some '\n'
  else if c = 'r' then some '\r'
  else if c = 't' then some '\t'
  else if c = 'b' then some '\x08'
  else if c = 'f' then some '\x0c'
  else none

/-- What a lone surrogate is read as. -/
def replacement : Char := Char.ofNat 0xFFFD

def unitChar (n : Nat) : Char := if 0xD800 ≤ n ∧ n < 0xE000 then replacement else Char.ofNat n

def prepend (cs : List Char) (r : Option (List Char × List Char)) :
    Option (List Char × List Char) :=
  r.map fun p => (cs ++ p.1, p.2)

/-- The replacement of a high surrogate that is not followed by a low one. -/
def pendingChars (pending : Option Nat) : List Char := if pending.isSome then [replacement] else []

/-- The characters of a string up to its closing quote, and the rest of the text. `pending` is a
high surrogate just read. -/
def readString : Option Nat → List Char → Option (List Char × List Char)
  | _, [] => none
  | pending, '"' :: rest => some (pendingChars pending, rest)
  | pending, '\\' :: 'u' :: a :: b :: c :: d :: rest =>
    match codeUnit a b c d with
    | none => none
    | some n =>
      if 0xD800 ≤ n ∧ n < 0xDC00 then prepend (pendingChars pending) (readString (some n) rest)
      else
        match pending with
        | some high =>
          if 0xDC00 ≤ n ∧ n < 0xE000 then
            prepend [Char.ofNat (0x10000 + (high - 0xD800) * 0x400 + (n - 0xDC00))]
              (readString none rest)
          else prepend [replacement, unitChar n] (readString none rest)
        | none => prepend [unitChar n] (readString none rest)
  | pending, '\\' :: c :: rest =>
    match unescape c with
    | none => none
    | some x => prepend (pendingChars pending ++ [x]) (readString none rest)
  | pending, c :: rest =>
    if c.toNat < 32 ∨ c = '\\' then none
    else prepend (pendingChars pending ++ [c]) (readString none rest)

def isBlank (c : Char) : Bool := c = ' ' || c = '\t' || c = '\n' || c = '\r'

def skipBlanks (cs : List Char) : List Char := cs.dropWhile isBlank

def isNumberChar (c : Char) : Bool :=
  c.isDigit || c = '-' || c = '+' || c = '.' || c = 'e' || c = 'E'

def scanDigits (cs : List Char) : Option (List Char) :=
  if cs.head?.any Char.isDigit then some (cs.dropWhile Char.isDigit) else none

def validExponent : List Char → Bool
  | [] => true
  | c :: rest =>
    if c = 'e' ∨ c = 'E' then
      let digits := match rest with
        | '+' :: ds => ds
        | '-' :: ds => ds
        | ds => ds
      scanDigits digits = some []
    else false

def validFraction : List Char → Bool
  | '.' :: rest => (scanDigits rest).any validExponent
  | rest => validExponent rest

def validUnsigned : List Char → Bool
  | '0' :: rest => validFraction rest
  | rest => (scanDigits rest).any validFraction

def validNumber : List Char → Bool
  | '-' :: rest => validUnsigned rest
  | rest => validUnsigned rest

mutual

/-- A document at the front of a text, and the rest. Every call uses up one unit of fuel. -/
def readValue : Nat → List Char → Option (Json × List Char)
  | 0, _ => none
  | fuel + 1, cs =>
    match skipBlanks cs with
    | 'n' :: 'u' :: 'l' :: 'l' :: rest => some (.null, rest)
    | 't' :: 'r' :: 'u' :: 'e' :: rest => some (.bool true, rest)
    | 'f' :: 'a' :: 'l' :: 's' :: 'e' :: rest => some (.bool false, rest)
    | '"' :: rest => (readString none rest).map fun p => (.str (String.ofList p.1), p.2)
    | '[' :: rest =>
      match skipBlanks rest with
      | ']' :: rest => some (.arr [], rest)
      | rest => do
        let (j, rest) ← readValue fuel rest
        let (items, rest) ← readItems fuel rest
        some (.arr (j :: items), rest)
    | '{' :: rest =>
      match skipBlanks rest with
      | '}' :: rest => some (.obj [], rest)
      | rest => do
        let (member, rest) ← readMember fuel rest
        let (members, rest) ← readMembers fuel rest
        some (.obj (member :: members), rest)
    | rest =>
      if validNumber (rest.takeWhile isNumberChar) then
        some (.num (String.ofList (rest.takeWhile isNumberChar)), rest.dropWhile isNumberChar)
      else none

def readItems : Nat → List Char → Option (List Json × List Char)
  | 0, _ => none
  | fuel + 1, cs =>
    match skipBlanks cs with
    | ']' :: rest => some ([], rest)
    | ',' :: rest => do
      let (j, rest) ← readValue fuel rest
      let (items, rest) ← readItems fuel rest
      some (j :: items, rest)
    | _ => none

def readMember : Nat → List Char → Option ((String × Json) × List Char)
  | 0, _ => none
  | fuel + 1, cs =>
    match skipBlanks cs with
    | '"' :: rest => do
      let (key, rest) ← readString none rest
      match skipBlanks rest with
      | ':' :: rest => do
        let (v, rest) ← readValue fuel rest
        some ((String.ofList key, v), rest)
      | _ => none
    | _ => none

def readMembers : Nat → List Char → Option (List (String × Json) × List Char)
  | 0, _ => none
  | fuel + 1, cs =>
    match skipBlanks cs with
    | '}' :: rest => some ([], rest)
    | ',' :: rest => do
      let (member, rest) ← readMember fuel rest
      let (members, rest) ← readMembers fuel rest
      some (member :: members, rest)
    | _ => none

end

/-- The document of a text that holds nothing else. -/
def read (s : String) : Option Json := do
  let (j, rest) ← readValue s.toList.length s.toList
  if skipBlanks rest = [] then some j else none

mutual

def numbersValid : Json → Bool
  | .num t => validNumber t.toList
  | .arr items => numbersValidItems items
  | .obj fields => numbersValidFields fields
  | _ => true

def numbersValidItems : List Json → Bool
  | [] => true
  | j :: rest => numbersValid j && numbersValidItems rest

def numbersValidFields : List (String × Json) → Bool
  | [] => true
  | (_, v) :: rest => numbersValid v && numbersValidFields rest

end

/-! ## Strings -/

theorem hexValue_hexChar : ∀ n < 16, hexValue (hexChar n) = some n := by decide

variable {n : Nat}

theorem codeUnit_digits (h : n < 65536) :
    codeUnit (hexChar (n / 4096)) (hexChar (n / 256 % 16)) (hexChar (n / 16 % 16))
      (hexChar (n % 16)) = some n := by
  have h1 := hexValue_hexChar (n / 4096) (by omega)
  have h2 := hexValue_hexChar (n / 256 % 16) (by omega)
  have h3 := hexValue_hexChar (n / 16 % 16) (by omega)
  have h4 := hexValue_hexChar (n % 16) (by omega)
  simp only [codeUnit, h1, h2, h3, h4, bind_eq_bind, bind_some, some.injEq]
  omega

variable {c : Char}

theorem readString_unicodeEscape (h : c.toNat < 0xD800) (rest : List Char) :
    readString none (unicodeEscape c.toNat ++ rest) = prepend [c] (readString none rest) := by
  have hunit := codeUnit_digits (n := c.toNat) (by omega)
  have hchar : unitChar c.toNat = c := by
    rw [unitChar, if_neg (by omega)]
    exact Char.ofNat_toNat c
  simp only [unicodeEscape, cons_append, nil_append, readString, hunit]
  rw [if_neg (by omega), hchar]

theorem readString_writeChar (html : Bool) (c : Char) (rest : List Char) :
    readString none (writeChar html c ++ rest) = prepend [c] (readString none rest) := by
  unfold writeChar
  split_ifs with h1 h2 h3 h4 h5 h6 h7 h8
  · subst h1
    rfl
  · subst h2
    rfl
  · subst h3
    rfl
  · subst h4
    rfl
  · subst h5
    rfl
  · subst h6
    rfl
  · subst h7
    rfl
  · refine readString_unicodeEscape ?_ rest
    simp only [needsUnicodeEscape, Bool.or_eq_true, decide_eq_true_eq, Bool.and_eq_true] at h8
    omega
  · have hlow : ¬ (c.toNat < 32 ∨ c = '\\') := by
      simp only [needsUnicodeEscape, Bool.or_eq_true, decide_eq_true_eq, not_or] at h8
      exact not_or.mpr ⟨h8.1.1.1, h2⟩
    rw [cons_append, nil_append, readString.eq_def]
    split <;> simp_all [pendingChars]

theorem readString_flatMap (html : Bool) (cs rest : List Char) :
    readString none (cs.flatMap (writeChar html) ++ '"' :: rest) = some (cs, rest) := by
  induction cs with
  | nil => rfl
  | cons c cs ih =>
    rw [flatMap_cons, append_assoc, readString_writeChar, ih]
    rfl

/-! ## Numbers -/

/-- The text goes on with something that does not continue a number. -/
def EndsNumber (rest : List Char) : Prop := ∀ c ∈ rest.head?, isNumberChar c = false

variable {cs rest : List Char}

theorem scanDigits_eq_some (h : scanDigits cs = some rest) :
    ∃ d ds, cs = d :: ds ++ rest ∧ d.isDigit = true ∧ ∀ c ∈ ds, c.isDigit = true := by
  unfold scanDigits at h
  split_ifs at h with hhead
  obtain rfl := some.inj h
  cases cs with
  | nil => cases hhead
  | cons d ds =>
    have hd : d.isDigit = true := by simpa using hhead
    refine ⟨d, ds.takeWhile Char.isDigit, ?_, hd, fun c hc => mem_takeWhile_imp hc⟩
    rw [dropWhile_cons, if_pos hd, cons_append, takeWhile_append_dropWhile]

theorem isNumberChar_of_isDigit (h : c.isDigit = true) : isNumberChar c = true := by
  simp [isNumberChar, h]

theorem isNumberChar_of_scanDigits (h : scanDigits cs = some rest)
    (hrest : ∀ c ∈ rest, isNumberChar c = true) : ∀ c ∈ cs, isNumberChar c = true := by
  obtain ⟨d, ds, rfl, hd, hds⟩ := scanDigits_eq_some h
  intro c hc
  rcases mem_append.mp hc with hc | hc
  · rcases mem_cons.mp hc with rfl | hc
    · exact isNumberChar_of_isDigit hd
    · exact isNumberChar_of_isDigit (hds c hc)
  · exact hrest c hc

theorem isNumberChar_of_validExponent (h : validExponent cs = true) :
    ∀ c ∈ cs, isNumberChar c = true := by
  cases cs with
  | nil => simp
  | cons e rest =>
    simp only [validExponent] at h
    split_ifs at h with he
    have hrest : ∀ c ∈ rest, isNumberChar c = true := by
      split at h
      · have := isNumberChar_of_scanDigits (of_decide_eq_true h) (by simp)
        simpa [isNumberChar] using this
      · have := isNumberChar_of_scanDigits (of_decide_eq_true h) (by simp)
        simpa [isNumberChar] using this
      · exact isNumberChar_of_scanDigits (of_decide_eq_true h) (by simp)
    intro c hc
    rcases mem_cons.mp hc with rfl | hc
    · rcases he with rfl | rfl <;> rfl
    · exact hrest c hc

theorem isNumberChar_of_validFraction (h : validFraction cs = true) :
    ∀ c ∈ cs, isNumberChar c = true := by
  unfold validFraction at h
  split at h
  · next rest =>
    obtain ⟨rest', hscan, hexp⟩ := (Option.any_eq_true _ _).mp h
    intro c hc
    rcases mem_cons.mp hc with rfl | hc
    · rfl
    · exact isNumberChar_of_scanDigits hscan (isNumberChar_of_validExponent hexp) c hc
  · exact isNumberChar_of_validExponent h

theorem validUnsigned_spec (h : validUnsigned cs = true) :
    (∃ d ds, cs = d :: ds ∧ d.isDigit = true) ∧ ∀ c ∈ cs, isNumberChar c = true := by
  unfold validUnsigned at h
  split at h
  · refine ⟨⟨_, _, rfl, rfl⟩, fun c hc => ?_⟩
    rcases mem_cons.mp hc with rfl | hc
    · rfl
    · exact isNumberChar_of_validFraction h c hc
  · obtain ⟨rest', hscan, hfraction⟩ := (Option.any_eq_true _ _).mp h
    obtain ⟨d, ds, hcs, hd, -⟩ := scanDigits_eq_some hscan
    exact ⟨⟨d, _, hcs, hd⟩,
      isNumberChar_of_scanDigits hscan (isNumberChar_of_validFraction hfraction)⟩

theorem validNumber_spec (h : validNumber cs = true) :
    (∃ d ds, cs = d :: ds ∧ (d.isDigit = true ∨ d = '-')) ∧ ∀ c ∈ cs, isNumberChar c = true := by
  unfold validNumber at h
  split at h
  · refine ⟨⟨_, _, rfl, .inr rfl⟩, fun c hc => ?_⟩
    rcases mem_cons.mp hc with rfl | hc
    · rfl
    · exact (validUnsigned_spec h).2 c hc
  · obtain ⟨⟨d, ds, hcs, hd⟩, hall⟩ := validUnsigned_spec h
    exact ⟨⟨d, ds, hcs, .inl hd⟩, hall⟩

theorem span_number (h : ∀ c ∈ cs, isNumberChar c = true) (hrest : EndsNumber rest) :
    (cs ++ rest).takeWhile isNumberChar = cs ∧ (cs ++ rest).dropWhile isNumberChar = rest := by
  have hfront : rest.takeWhile isNumberChar = [] ∧ rest.dropWhile isNumberChar = rest := by
    cases rest with
    | nil => exact ⟨rfl, rfl⟩
    | cons c rest =>
      have hc : isNumberChar c = false := hrest c rfl
      simp [hc]
  rw [takeWhile_append_of_pos h, dropWhile_append_of_pos h, hfront.1, hfront.2]
  exact ⟨append_nil _, rfl⟩

theorem skipBlanks_cons (h : isBlank c = false) (cs : List Char) :
    skipBlanks (c :: cs) = c :: cs := by
  simp [skipBlanks, h]

theorem readValue_number {t : String} (h : validNumber t.toList = true) (hrest : EndsNumber rest)
    (fuel : Nat) :
    readValue (fuel + 1) (t.toList ++ rest) = some (.num t, rest) := by
  obtain ⟨⟨d, ds, hcs, hd⟩, hall⟩ := validNumber_spec h
  obtain ⟨htake, hdrop⟩ := span_number hall hrest
  have hblank : isBlank d = false := by
    rcases hd with hd | rfl
    · by_contra hb
      simp only [isBlank, Bool.or_eq_true, decide_eq_true_eq, Bool.not_eq_false] at hb
      rcases hb with ((rfl | rfl) | rfl) | rfl <;> cases hd
    · rfl
  have hne : ∀ x ∈ ['n', 't', 'f', '"', '[', '{'], d ≠ x := by
    rintro x hx rfl
    have hnot : ∀ y ∈ ['n', 't', 'f', '"', '[', '{'], y.isDigit = false ∧ y ≠ '-' := by simp
    obtain ⟨hdigit, hminus⟩ := hnot d hx
    rcases hd with hd | hd
    · rw [hdigit] at hd
      cases hd
    · exact hminus hd
  have hskip : skipBlanks (t.toList ++ rest) = d :: (ds ++ rest) := by
    rw [hcs, cons_append, skipBlanks_cons hblank]
  rw [readValue, hskip]
  have hres : (if validNumber ((d :: (ds ++ rest)).takeWhile isNumberChar) = true then
      some (Json.num (String.ofList ((d :: (ds ++ rest)).takeWhile isNumberChar)),
        (d :: (ds ++ rest)).dropWhile isNumberChar) else none) = some (.num t, rest) := by
    rw [← cons_append, ← hcs, htake, hdrop, if_pos h, String.ofList_toList]
  split
  iterate 6 (· next heq => exact absurd (cons.inj heq).1 (hne _ (by simp)))
  · exact hres

/-! ## Documents -/

variable {html : Bool}

theorem readMember_write {k : String} {v : Json} {fuel : Nat}
    (h : readValue fuel (write html v ++ rest) = some (v, rest)) :
    readMember (fuel + 1) (writeString html k ++ ':' :: (write html v ++ rest)) =
      some ((k, v), rest) := by
  have hstring := readString_flatMap html k.toList (':' :: (write html v ++ rest))
  rw [writeString, readMember, cons_append, skipBlanks_cons rfl]
  simp only [append_assoc, cons_append, nil_append]
  rw [hstring]
  simp only [bind_eq_bind, bind_some]
  rw [skipBlanks_cons rfl]
  simp only [h, bind_some, String.ofList_toList]

theorem endsNumber_writeItems (html : Bool) (items : List Json) (rest : List Char) :
    EndsNumber (writeItems html items ++ rest) := by
  intro c hc
  cases items with
  | nil =>
    obtain rfl := some.inj hc
    rfl
  | cons j items =>
    rw [writeItems] at hc
    obtain rfl := some.inj hc
    rfl

theorem endsNumber_writeMembers (html : Bool) (fields : List (String × Json)) (rest : List Char) :
    EndsNumber (writeMembers html fields ++ rest) := by
  intro c hc
  cases fields with
  | nil =>
    obtain rfl := some.inj hc
    rfl
  | cons f fields =>
    rw [writeMembers] at hc
    obtain rfl := some.inj hc
    rfl

variable {j : Json}

theorem write_head (h : numbersValid j = true) :
    ∃ c cs, write html j = c :: cs ∧ isBlank c = false ∧ c ≠ ']' ∧ c ≠ '}' := by
  cases j with
  | null => exact ⟨_, _, rfl, rfl, by decide, by decide⟩
  | bool b => cases b <;> exact ⟨_, _, rfl, rfl, by decide, by decide⟩
  | num t =>
    obtain ⟨⟨d, ds, hcs, hd⟩, -⟩ := validNumber_spec (by simpa [numbersValid] using h)
    refine ⟨d, ds, by rw [write, hcs], ?_⟩
    have hnot : ∀ y ∈ [' ', '\t', '\n', '\r', ']', '}'], y.isDigit = false ∧ y ≠ '-' := by simp
    have hne : ∀ y ∈ [' ', '\t', '\n', '\r', ']', '}'], d ≠ y := by
      rintro y hy rfl
      obtain ⟨hdigit, hminus⟩ := hnot d hy
      rcases hd with hd | hd
      · rw [hdigit] at hd
        cases hd
      · exact hminus hd
    simp only [mem_cons, not_mem_nil, or_false, forall_eq_or_imp, forall_eq] at hne
    simp [isBlank, hne]
  | str s => exact ⟨_, _, rfl, rfl, by decide, by decide⟩
  | arr items => cases items <;> exact ⟨_, _, by rw [write], rfl, by decide, by decide⟩
  | obj fields => cases fields <;> exact ⟨_, _, by rw [write], rfl, by decide, by decide⟩

mutual

theorem readValue_write (html : Bool) : ∀ (j : Json) (fuel : Nat) (rest : List Char),
    numbersValid j = true → (write html j).length ≤ fuel → EndsNumber rest →
    readValue fuel (write html j ++ rest) = some (j, rest)
  | j, 0, _, hj, hfuel, _ => by
    obtain ⟨c, cs, hcs, -⟩ := @write_head html _ hj
    rw [hcs] at hfuel
    cases hfuel
  | .null, fuel + 1, rest, _, _, _ | .bool true, fuel + 1, rest, _, _, _
  | .bool false, fuel + 1, rest, _, _, _ => by
    rw [write, readValue, cons_append, skipBlanks_cons rfl]
    rfl
  | .num t, fuel + 1, rest, hj, _, hrest => by
    rw [write]
    exact readValue_number (by simpa [numbersValid] using hj) hrest fuel
  | .str s, fuel + 1, rest, _, _, _ => by
    rw [write, writeString, readValue, cons_append, skipBlanks_cons rfl]
    simp only [append_assoc, cons_append, nil_append, readString_flatMap,
      map_some, String.ofList_toList]
  | .arr [], fuel + 1, rest, _, _, _ | .obj [], fuel + 1, rest, _, _, _ => by
    rw [write, readValue, cons_append, skipBlanks_cons rfl]
    simp only [cons_append, nil_append]
    rw [skipBlanks_cons rfl]
    rfl
  | .arr (j :: items), fuel + 1, rest, hj, hfuel, _ => by
    simp only [numbersValid, numbersValidItems, Bool.and_eq_true] at hj
    simp only [write, length_cons, length_append] at hfuel
    have hvalue := readValue_write html j fuel (writeItems html items ++ rest) hj.1 (by omega)
      (endsNumber_writeItems html items rest)
    have hitems := readItems_write html items fuel rest hj.2 (by omega)
    obtain ⟨c, cs, hcs, hblank, hclose, -⟩ := @write_head html _ hj.1
    rw [write, readValue, cons_append, skipBlanks_cons rfl]
    simp only [append_assoc]
    rw [hcs, cons_append] at hvalue ⊢
    rw [skipBlanks_cons hblank]
    split
    · next heq => exact absurd (cons.inj heq).1 hclose
    · simp only [hvalue, bind_eq_bind, bind_some, hitems]
  | .obj ((k, v) :: fields), fuel + 1, rest, hj, hfuel, _ => by
    simp only [numbersValid, numbersValidFields, Bool.and_eq_true] at hj
    simp only [write, writeString, length_cons, length_append] at hfuel
    obtain ⟨fuel, rfl⟩ : ∃ n, fuel = n + 1 := ⟨fuel - 1, by omega⟩
    have hvalue := readValue_write html v fuel (writeMembers html fields ++ rest) hj.1 (by omega)
      (endsNumber_writeMembers html fields rest)
    have hmembers := readMembers_write html fields (fuel + 1) rest hj.2 (by omega)
    have hmember := readMember_write (k := k) hvalue
    rw [write, readValue, cons_append, skipBlanks_cons rfl]
    simp only [append_assoc, cons_append]
    rw [writeString, cons_append] at hmember ⊢
    rw [skipBlanks_cons rfl]
    split
    · next heq => exact absurd (cons.inj heq).1 (by decide)
    · simp only [hmember, bind_eq_bind, bind_some, hmembers]

theorem readItems_write (html : Bool) : ∀ (items : List Json) (fuel : Nat) (rest : List Char),
    numbersValidItems items = true → (writeItems html items).length ≤ fuel →
    readItems fuel (writeItems html items ++ rest) = some (items, rest)
  | items, 0, _, _, hfuel => by
    cases items <;> rw [writeItems] at hfuel <;> cases hfuel
  | [], fuel + 1, rest, _, _ => by
    rw [writeItems, readItems, cons_append, skipBlanks_cons rfl]
    rfl
  | j :: items, fuel + 1, rest, hj, hfuel => by
    simp only [numbersValidItems, Bool.and_eq_true] at hj
    simp only [writeItems, length_cons, length_append] at hfuel
    have hvalue := readValue_write html j fuel (writeItems html items ++ rest) hj.1 (by omega)
      (endsNumber_writeItems html items rest)
    have hitems := readItems_write html items fuel rest hj.2 (by omega)
    rw [writeItems, readItems, cons_append, skipBlanks_cons rfl]
    simp only [append_assoc, hvalue, bind_eq_bind, bind_some, hitems]

theorem readMembers_write (html : Bool) : ∀ (fields : List (String × Json)) (fuel : Nat)
    (rest : List Char), numbersValidFields fields = true →
    (writeMembers html fields).length ≤ fuel →
    readMembers fuel (writeMembers html fields ++ rest) = some (fields, rest)
  | fields, 0, _, _, hfuel => by
    cases fields <;> rw [writeMembers] at hfuel <;> cases hfuel
  | [], fuel + 1, rest, _, _ => by
    rw [writeMembers, readMembers, cons_append, skipBlanks_cons rfl]
    rfl
  | (k, v) :: fields, fuel + 1, rest, hj, hfuel => by
    simp only [numbersValidFields, Bool.and_eq_true] at hj
    simp only [writeMembers, writeString, length_cons, length_append] at hfuel
    obtain ⟨fuel, rfl⟩ : ∃ n, fuel = n + 1 := ⟨fuel - 1, by omega⟩
    have hvalue := readValue_write html v fuel (writeMembers html fields ++ rest) hj.1 (by omega)
      (endsNumber_writeMembers html fields rest)
    have hmembers := readMembers_write html fields (fuel + 1) rest hj.2 (by omega)
    have hmember := readMember_write (k := k) hvalue
    rw [writeMembers, readMembers, cons_append, skipBlanks_cons rfl]
    simp only [append_assoc, cons_append, hmember, bind_eq_bind, bind_some, hmembers]

end

theorem read_text (h : numbersValid j = true) : read (text html j) = some j := by
  have hread := readValue_write html j (write html j).length [] h le_rfl (by simp [EndsNumber])
  rw [append_nil] at hread
  rw [read, text, String.toList_ofList, hread]
  rfl

/-! ## Documents with valid numbers -/

theorem head_toDigits (h : 0 < n) : (Nat.toDigits 10 n).head? ≠ some '0' := by
  induction n using Nat.strongRecOn with
  | ind n ih =>
    rw [Nat.toDigits_eq_if (by decide)]
    split_ifs with hlt
    · have hdigit : ∀ m < 10, 0 < m → [Nat.digitChar m].head? ≠ some '0' := by decide
      exact hdigit n hlt h
    · rw [head?_append_of_ne_nil _ Nat.toDigits_ne_nil]
      exact ih (n / 10) (by omega) (by omega)

theorem scanDigits_of_all {ds : List Char} (hne : ds ≠ []) (h : ds.all Char.isDigit = true) :
    scanDigits ds = some [] := by
  cases ds with
  | nil => exact absurd rfl hne
  | cons d ds =>
    have hd : d.isDigit = true := List.all_eq_true.mp h d mem_cons_self
    rw [scanDigits, if_pos (by simpa using hd), some.injEq, dropWhile_eq_nil_iff]
    exact List.all_eq_true.mp h

theorem validUnsigned_toDigits (n : Nat) : validUnsigned (Nat.toDigits 10 n) = true := by
  rcases Nat.eq_zero_or_pos n with rfl | hpos
  · decide
  · have hhead := head_toDigits hpos
    have hscan := scanDigits_of_all Nat.toDigits_ne_nil (all_isDigit_toDigits n)
    unfold validUnsigned
    split
    · rename_i heq
      rw [heq] at hhead
      exact absurd rfl hhead
    · rw [hscan]
      rfl

theorem validNumber_toString (n : Int) : validNumber (toString n).toList = true := by
  show validNumber n.repr.toList = true
  rw [Int.repr_eq_if]
  split_ifs with h
  · have hdigits := all_isDigit_toDigits n.toNat
    rw [Nat.toList_repr]
    unfold validNumber
    split
    · rename_i heq
      rw [heq] at hdigits
      simp [Char.isDigit] at hdigits
    · exact validUnsigned_toDigits n.toNat
  · rw [String.toList_append, Nat.toList_repr]
    exact validUnsigned_toDigits (-n).toNat

theorem numbersValidItems_map {α : Type} {encode : α → Json}
    (h : ∀ x, numbersValid (encode x) = true) (items : List α) :
    numbersValidItems (items.map encode) = true := by
  induction items with
  | nil => rfl
  | cons x rest ih => rw [map_cons, numbersValidItems, h, ih]; rfl

theorem numbersValid_ofFields (fs : List (String × Option Json)) :
    numbersValid (ofFields fs) = fs.all fun f => f.2.all numbersValid := by
  rw [ofFields, numbersValid]
  induction fs with
  | nil => rfl
  | cons f rest ih =>
    obtain ⟨k, v⟩ := f
    cases v with
    | none => rw [present, ih]; rfl
    | some v => rw [present, numbersValidFields, ih]; rfl

end Houfeng.Json
