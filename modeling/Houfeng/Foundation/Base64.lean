import Mathlib.Data.List.Basic

/-!
# Base64

Encoding of bytes with a 64-character alphabet, without padding, and a lenient decoder: line breaks
are skipped and the unused bits of the last character are not looked at. Decoding inverts encoding;
`Canonical` says that a text is the encoding of what it decodes to.
-/

namespace Houfeng.Base64

open List

def isLineBreak (c : Char) : Bool := c = '\r' || c = '\n'

/-- An alphabet: the character of every six-bit value, and the value of every character. -/
structure Alphabet where
  char : Nat → Char
  value : Char → Option Nat
  value_char : ∀ n < 64, value (char n) = some n
  not_lineBreak : ∀ n < 64, isLineBreak (char n) = false

def charOf (c62 c63 : Char) (n : Nat) : Char :=
  if n < 26 then Char.ofNat (65 + n)
  else if n < 52 then Char.ofNat (71 + n)
  else if n < 62 then Char.ofNat (n - 4)
  else if n = 62 then c62
  else c63

def valueOf (c62 c63 : Char) (c : Char) : Option Nat :=
  let n := c.toNat
  if 65 ≤ n ∧ n ≤ 90 then some (n - 65)
  else if 97 ≤ n ∧ n ≤ 122 then some (n - 71)
  else if 48 ≤ n ∧ n ≤ 57 then some (n + 4)
  else if c = c62 then some 62
  else if c = c63 then some 63
  else none

def url : Alphabet where
  char := charOf '-' '_'
  value := valueOf '-' '_'
  value_char := by decide
  not_lineBreak := by decide

def std : Alphabet where
  char := charOf '+' '/'
  value := valueOf '+' '/'
  value_char := by decide
  not_lineBreak := by decide

variable (a : Alphabet)

/-- Encodes groups of three bytes; a last group of one or two bytes is not padded. -/
def encode : List UInt8 → List Char
  | [] => []
  | [x] => [a.char (x.toNat / 4), a.char (x.toNat % 4 * 16)]
  | [x, y] =>
    [a.char (x.toNat / 4), a.char (x.toNat % 4 * 16 + y.toNat / 16), a.char (y.toNat % 16 * 4)]
  | x :: y :: z :: rest =>
    a.char (x.toNat / 4) :: a.char (x.toNat % 4 * 16 + y.toNat / 16) ::
      a.char (y.toNat % 16 * 4 + z.toNat / 64) :: a.char (z.toNat % 64) :: encode rest

def encodePadded (bytes : List UInt8) : List Char :=
  encode a bytes ++ replicate ((3 - bytes.length % 3) % 3) '='

def bytesOf : List Nat → Option (List UInt8)
  | [] => some []
  | [_] => none
  | [p, q] => some [UInt8.ofNat (p * 4 + q / 16)]
  | [p, q, r] => some [UInt8.ofNat (p * 4 + q / 16), UInt8.ofNat (q % 16 * 16 + r / 4)]
  | p :: q :: r :: s :: rest =>
    (bytesOf rest).map fun bytes =>
      UInt8.ofNat (p * 4 + q / 16) :: UInt8.ofNat (q % 16 * 16 + r / 4) ::
        UInt8.ofNat (r % 4 * 64 + s) :: bytes

def decode (cs : List Char) : Option (List UInt8) :=
  ((cs.filter fun c => !isLineBreak c).mapM a.value).bind bytesOf

def Canonical (cs : List Char) : Prop := ∀ bytes, decode a cs = some bytes → cs = encode a bytes

def sextets : List UInt8 → List Nat
  | [] => []
  | [x] => [x.toNat / 4, x.toNat % 4 * 16]
  | [x, y] => [x.toNat / 4, x.toNat % 4 * 16 + y.toNat / 16, y.toNat % 16 * 4]
  | x :: y :: z :: rest =>
    x.toNat / 4 :: (x.toNat % 4 * 16 + y.toNat / 16) :: (y.toNat % 16 * 4 + z.toNat / 64) ::
      z.toNat % 64 :: sextets rest

theorem encode_eq_map (bytes : List UInt8) : encode a bytes = (sextets bytes).map a.char := by
  induction bytes using sextets.induct with
  | case1 => rfl
  | case2 x => rfl
  | case3 x y => rfl
  | case4 x y z rest ih => rw [encode, sextets, ih, map_cons, map_cons, map_cons, map_cons]

theorem lt_of_mem_sextets {bytes : List UInt8} {n : Nat} (h : n ∈ sextets bytes) : n < 64 := by
  induction bytes using sextets.induct with
  | case1 => cases h
  | case2 x =>
    have hx := x.toNat_lt
    simp only [sextets, mem_cons, not_mem_nil, or_false] at h
    omega
  | case3 x y =>
    have hx := x.toNat_lt
    have hy := y.toNat_lt
    simp only [sextets, mem_cons, not_mem_nil, or_false] at h
    omega
  | case4 x y z rest ih =>
    have hx := x.toNat_lt
    have hy := y.toNat_lt
    have hz := z.toNat_lt
    simp only [sextets, mem_cons] at h
    rcases h with h | h | h | h | h
    · omega
    · omega
    · omega
    · omega
    · exact ih h

theorem ofNat_of_eq {x : UInt8} {n : Nat} (h : n = x.toNat) : UInt8.ofNat n = x := by
  rw [h, UInt8.ofNat_toNat]

theorem bytesOf_sextets (bytes : List UInt8) : bytesOf (sextets bytes) = some bytes := by
  induction bytes using sextets.induct with
  | case1 => rfl
  | case2 x =>
    have hx : UInt8.ofNat (x.toNat / 4 * 4 + x.toNat % 4 * 16 / 16) = x := ofNat_of_eq (by omega)
    rw [sextets, bytesOf, hx]
  | case3 x y =>
    have hb := y.toNat_lt
    have hx : UInt8.ofNat (x.toNat / 4 * 4 + (x.toNat % 4 * 16 + y.toNat / 16) / 16) = x :=
      ofNat_of_eq (by omega)
    have hy : UInt8.ofNat ((x.toNat % 4 * 16 + y.toNat / 16) % 16 * 16 + y.toNat % 16 * 4 / 4) = y :=
      ofNat_of_eq (by omega)
    rw [sextets, bytesOf, hx, hy]
  | case4 x y z rest ih =>
    have hb := y.toNat_lt
    have hc := z.toNat_lt
    have hx : UInt8.ofNat (x.toNat / 4 * 4 + (x.toNat % 4 * 16 + y.toNat / 16) / 16) = x :=
      ofNat_of_eq (by omega)
    have hy : UInt8.ofNat ((x.toNat % 4 * 16 + y.toNat / 16) % 16 * 16 +
        (y.toNat % 16 * 4 + z.toNat / 64) / 4) = y := ofNat_of_eq (by omega)
    have hz : UInt8.ofNat ((y.toNat % 16 * 4 + z.toNat / 64) % 4 * 64 + z.toNat % 64) = z :=
      ofNat_of_eq (by omega)
    rw [sextets, bytesOf, ih, Option.map_some, hx, hy, hz]

theorem mapM_value_map_char {ns : List Nat} (h : ∀ n ∈ ns, n < 64) :
    (ns.map a.char).mapM a.value = some ns := by
  induction ns with
  | nil => rfl
  | cons n ns ih =>
    have hn := a.value_char n (h n mem_cons_self)
    have hns := ih fun m hm => h m (mem_cons_of_mem _ hm)
    rw [map_cons, mapM_cons, hn, hns]
    rfl

theorem decode_encode (bytes : List UInt8) : decode a (encode a bytes) = some bytes := by
  have hlt : ∀ n ∈ sextets bytes, n < 64 := fun n hn => lt_of_mem_sextets hn
  have hfilter : (encode a bytes).filter (fun c => !isLineBreak c) = encode a bytes := by
    refine filter_eq_self.mpr fun c hc => ?_
    rw [encode_eq_map] at hc
    obtain ⟨n, hn, rfl⟩ := mem_map.mp hc
    rw [a.not_lineBreak n (hlt n hn)]
    rfl
  rw [decode, hfilter, encode_eq_map, mapM_value_map_char a hlt, Option.bind_some, bytesOf_sextets]

theorem exists_of_mem_encode {bytes : List UInt8} {c : Char} (h : c ∈ encode a bytes) :
    ∃ n < 64, c = a.char n := by
  rw [encode_eq_map] at h
  obtain ⟨n, hn, rfl⟩ := mem_map.mp h
  exact ⟨n, lt_of_mem_sextets hn, rfl⟩

end Houfeng.Base64
