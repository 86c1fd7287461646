import Mathlib.Tactic.Ring
import Mathlib.Data.List.Basic

/-!
# Self-delimiting encodings

An encoding is delimited when what follows an encoded value can be cut off again: equal
concatenations have equal heads and equal tails. Fixed-width numbers are delimited, and the property
is kept by fields one after another, by lists after their length and by values after a tag.
-/

namespace Houfeng.Framing

open List

abbrev Bytes := List UInt8

variable {α : Type*} {P : α → Prop} {f : α → Bytes}

/-- Encoded values can be cut off at the front. -/
def Delimited (P : α → Prop) (f : α → Bytes) : Prop :=
  ∀ a b, P a → P b → ∀ u v, f a ++ u = f b ++ v → a = b ∧ u = v

theorem Delimited.mono {P' : α → Prop} (h : Delimited P f) (hP : ∀ a, P' a → P a) :
    Delimited P' f :=
  fun a b ha hb => h a b (hP a ha) (hP b hb)

/-! ## Numbers -/

def bigEndian : Nat → Nat → Bytes
  | 0, _ => []
  | width + 1, n => bigEndian width (n / 256) ++ [UInt8.ofNat n]

@[simp] theorem length_bigEndian (width n : Nat) : (bigEndian width n).length = width := by
  induction width generalizing n with
  | zero => rfl
  | succ width ih => simp [bigEndian, ih]

theorem bigEndian_injective {width : Nat} {m n : Nat} (hm : m < 256 ^ width) (hn : n < 256 ^ width)
    (h : bigEndian width m = bigEndian width n) : m = n := by
  induction width generalizing m n with
  | zero => omega
  | succ width ih =>
    rw [pow_succ] at hm hn
    obtain ⟨hhigh, hlow⟩ := append_inj' h rfl
    have hdiv : m / 256 = n / 256 := ih (by omega) (by omega) hhigh
    have hmod : m % 256 = n % 256 := by
      have := congrArg UInt8.toNat (singleton_inj.mp hlow)
      simpa using this
    omega

theorem bigEndian_delimited (width : Nat) : Delimited (· < 256 ^ width) (bigEndian width) := by
  intro m n hm hn u v h
  obtain ⟨heq, hrest⟩ := append_inj h (by simp)
  exact ⟨bigEndian_injective hm hn heq, hrest⟩

/-! ## Strings, lists and options -/

def string (s : String) : Bytes := bigEndian 4 s.utf8ByteSize ++ s.toByteArray.data.toList

theorem string_delimited : Delimited (fun s : String => s.utf8ByteSize < 256 ^ 4) string := by
  intro s t hs ht u v h
  rw [string, string, append_assoc, append_assoc] at h
  obtain ⟨hsize, hrest⟩ := bigEndian_delimited 4 _ _ hs ht _ _ h
  have hlength : s.toByteArray.data.toList.length = t.toByteArray.data.toList.length := by
    simpa using hsize
  obtain ⟨hbytes, htail⟩ := append_inj hrest hlength
  refine ⟨String.toByteArray_inj.mp (ByteArray.ext (Array.toList_inj.mp hbytes)), htail⟩

def list (f : α → Bytes) (l : List α) : Bytes := bigEndian 4 l.length ++ l.flatMap f

theorem flatMap_delimited (hf : Delimited P f) {l m : List α} (hl : ∀ a ∈ l, P a)
    (hm : ∀ a ∈ m, P a) (hlength : l.length = m.length) {u v : Bytes}
    (h : l.flatMap f ++ u = m.flatMap f ++ v) : l = m ∧ u = v := by
  induction l generalizing m with
  | nil =>
    cases m with
    | nil => exact ⟨rfl, h⟩
    | cons b m => simp at hlength
  | cons a l ih =>
    cases m with
    | nil => simp at hlength
    | cons b m =>
      rw [flatMap_cons, flatMap_cons, append_assoc, append_assoc] at h
      obtain ⟨rfl, hrest⟩ := hf a b (hl a (by simp)) (hm b (by simp)) _ _ h
      obtain ⟨rfl, hu⟩ := ih (fun x hx => hl x (by simp [hx])) (fun x hx => hm x (by simp [hx]))
        (by simpa using hlength) hrest
      exact ⟨rfl, hu⟩

theorem list_delimited (hf : Delimited P f) :
    Delimited (fun l : List α => l.length < 256 ^ 4 ∧ ∀ a ∈ l, P a) (list f) := by
  intro l m hl hm u v h
  rw [list, list, append_assoc, append_assoc] at h
  obtain ⟨hlength, hrest⟩ := bigEndian_delimited 4 _ _ hl.1 hm.1 _ _ h
  exact flatMap_delimited hf hl.2 hm.2 hlength hrest

/-- An optional value after a byte that says whether it is there. -/
def option (f : α → Bytes) : Option α → Bytes
  | none => [0]
  | some a => 1 :: f a

theorem option_delimited (hf : Delimited P f) :
    Delimited (fun o : Option α => ∀ a ∈ o, P a) (option f) := by
  intro o o' ho ho' u v h
  cases o with
  | none =>
    cases o' with
    | none => exact ⟨rfl, by simpa [option] using h⟩
    | some b => simp [option] at h
  | some a =>
    cases o' with
    | none => simp [option] at h
    | some b =>
      have hrest : f a ++ u = f b ++ v := by simpa [option] using h
      obtain ⟨rfl, huv⟩ := hf a b (ho a rfl) (ho' b rfl) u v hrest
      exact ⟨rfl, huv⟩

/-! ## Parts

What a digest is taken of: texts after their length in eight bytes, words and flags. The bytes of
parts of given shapes determine the parts and what follows them. -/

inductive Part
  | text (s : String)
  | word (n : UInt64)
  | flag (b : Bool)

namespace Part

def encode : Part → Bytes
  | text s => bigEndian 8 s.utf8ByteSize ++ s.toByteArray.data.toList
  | word n => bigEndian 8 n.toNat
  | flag b => [if b then 1 else 0]

def shape : Part → Nat
  | text _ => 0
  | word _ => 1
  | flag _ => 2

/-- The text fits a process, whose addresses have 48 bits. -/
def Fits : Part → Prop
  | text s => s.utf8ByteSize < 2 ^ 48
  | _ => True

theorem encode_delimited {p q : Part} (hshape : p.shape = q.shape) (hp : p.Fits) (hq : q.Fits)
    {u v : Bytes} (h : p.encode ++ u = q.encode ++ v) : p = q ∧ u = v := by
  cases p with
  | text s =>
    cases q with
    | text t =>
      rw [encode, encode, append_assoc, append_assoc] at h
      obtain ⟨hsize, h⟩ := bigEndian_delimited 8 _ _ (hp.trans (by decide))
        (hq.trans (by decide)) _ _ h
      obtain ⟨hbytes, huv⟩ := append_inj h (by simpa using hsize)
      have hst := String.toByteArray_inj.mp (ByteArray.ext (Array.toList_inj.mp hbytes))
      exact ⟨congrArg text hst, huv⟩
    | _ => cases hshape
  | word m =>
    cases q with
    | word n =>
      obtain ⟨hmn, huv⟩ := bigEndian_delimited 8 _ _ m.toNat_lt n.toNat_lt _ _ h
      exact ⟨congrArg word (UInt64.toNat_inj.mp hmn), huv⟩
    | _ => cases hshape
  | flag b =>
    cases q with
    | flag c =>
      obtain ⟨hbc, huv⟩ := cons.inj h
      refine ⟨congrArg flag ?_, huv⟩
      cases b <;> cases c <;> first | rfl | cases hbc
    | _ => cases hshape

end Part

def parts (l : List Part) : Bytes := l.flatMap Part.encode

theorem parts_delimited {l m : List Part} {u v : Bytes} (h : parts l ++ u = parts m ++ v)
    (hshape : l.map Part.shape = m.map Part.shape) (hl : ∀ p ∈ l, p.Fits) (hm : ∀ p ∈ m, p.Fits) :
    l = m ∧ u = v := by
  induction l generalizing m with
  | nil =>
    cases m with
    | nil => exact ⟨rfl, h⟩
    | cons q m => cases hshape
  | cons p l ih =>
    cases m with
    | nil => cases hshape
    | cons q m =>
      obtain ⟨hpq, hrest⟩ := cons.inj hshape
      obtain ⟨hp, hl'⟩ := forall_mem_cons.mp hl
      obtain ⟨hq, hm'⟩ := forall_mem_cons.mp hm
      rw [parts, parts, flatMap_cons, flatMap_cons, append_assoc, append_assoc] at h
      obtain ⟨rfl, htail⟩ := Part.encode_delimited hpq hp hq h
      obtain ⟨rfl, huv⟩ := ih htail hrest hl' hm'
      exact ⟨rfl, huv⟩

end Houfeng.Framing
