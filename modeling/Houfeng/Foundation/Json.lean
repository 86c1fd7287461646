import Mathlib.Algebra.Ring.Nat
import Mathlib.Data.String.Basic

/-!
# JSON trees

Documents as an encoder writes them, with object fields in order and possibly with duplicate keys,
and their canonical form: what a decoder into maps keeps, with keys sorted and the last of
duplicate fields. Canonical objects are determined by their lookups, so two of them are compared
key by key.
-/

open List

namespace Houfeng

/-- A JSON document. Numbers are kept as their text. -/
inductive Json
  | null
  | bool (b : Bool)
  | num (text : String)
  | str (s : String)
  | arr (items : List Json)
  | obj (fields : List (String × Json))

variable {fs : List (String × Json)}

namespace Json

/-! ## Sorted fields -/

def Sorted (fs : List (String × Json)) : Prop := fs.Pairwise fun a b => a.1 < b.1

def lookup (k : String) : List (String × Json) → Option Json
  | [] => none
  | (k', v) :: rest => if k = k' then some v else lookup k rest

def insertKey (k : String) (v : Json) : List (String × Json) → List (String × Json)
  | [] => [(k, v)]
  | (k', v') :: rest =>
    if k = k' then (k, v) :: rest
    else if k < k' then (k, v) :: (k', v') :: rest
    else (k', v') :: insertKey k v rest

def eraseKey (k : String) (fs : List (String × Json)) : List (String × Json) :=
  fs.filter fun p => p.1 ≠ k

@[simp] theorem lookup_nil (k : String) : lookup k [] = none := rfl

theorem lookup_cons (k k' : String) (v : Json) (fs : List (String × Json)) :
    lookup k ((k', v) :: fs) = if k = k' then some v else lookup k fs := rfl

@[simp] theorem lookup_cons_self (p : String × Json) (fs : List (String × Json)) :
    lookup p.1 (p :: fs) = some p.2 := if_pos rfl

theorem lookup_insertKey (k k' : String) (v : Json) (fs : List (String × Json)) :
    lookup k' (insertKey k v fs) = if k' = k then some v else lookup k' fs := by
  induction fs with
  | nil => rfl
  | cons p fs ih =>
    obtain ⟨key, value⟩ := p
    simp only [insertKey]
    split_ifs with h1 h2 h3 h4 h5
    · rw [lookup_cons, if_pos h2]
    · rw [lookup_cons, lookup_cons, if_neg h2, if_neg fun h => h2 (h.trans h1.symm)]
    · rw [lookup_cons, if_pos h4]
    · rw [lookup_cons, if_neg h4]
    · rw [lookup_cons, ih, if_pos h5, if_neg fun h => h1 (h5.symm.trans h)]
    · rw [lookup_cons, lookup_cons, ih, if_neg h5]

theorem lookup_eraseKey (k k' : String) (fs : List (String × Json)) :
    lookup k' (eraseKey k fs) = if k' = k then none else lookup k' fs := by
  induction fs with
  | nil => simp [eraseKey]
  | cons p fs ih =>
    obtain ⟨key, value⟩ := p
    simp only [eraseKey, filter_cons] at ih ⊢
    by_cases hk : key = k
    · rw [if_neg (by simpa using hk), ih, lookup_cons, hk]
      split_ifs <;> rfl
    · rw [if_pos (by simpa using hk), lookup_cons, lookup_cons, ih]
      split_ifs with h1 h2
      · exact absurd (h1.symm.trans h2) hk
      · rfl
      · rfl
      · rfl

variable {k : String}

theorem mem_insertKey {v : Json} {p : String × Json}
    (h : p ∈ insertKey k v fs) : p = (k, v) ∨ p ∈ fs := by
  induction fs with
  | nil => simpa [insertKey] using h
  | cons q fs ih =>
    obtain ⟨key, value⟩ := q
    simp only [insertKey] at h
    split_ifs at h with h1 h2
    · rcases mem_cons.mp h with rfl | h
      · exact .inl rfl
      · exact .inr (mem_cons_of_mem _ h)
    · rcases mem_cons.mp h with rfl | h
      · exact .inl rfl
      · exact .inr h
    · rcases mem_cons.mp h with rfl | h
      · exact .inr mem_cons_self
      · rcases ih h with rfl | h
        · exact .inl rfl
        · exact .inr (mem_cons_of_mem _ h)

theorem Sorted.insertKey {v : Json} (h : Sorted fs) : Sorted (insertKey k v fs) := by
  induction fs with
  | nil => exact pairwise_singleton _ _
  | cons p fs ih =>
    obtain ⟨key, value⟩ := p
    obtain ⟨hlt, hs⟩ := pairwise_cons.mp h
    simp only [Json.insertKey]
    split_ifs with h1 h2
    · subst h1
      exact pairwise_cons.mpr ⟨hlt, hs⟩
    · refine pairwise_cons.mpr ⟨?_, h⟩
      intro q hq
      rcases mem_cons.mp hq with rfl | hq
      · exact h2
      · exact lt_trans h2 (hlt q hq)
    · refine pairwise_cons.mpr ⟨?_, ih hs⟩
      intro q hq
      rcases mem_insertKey hq with rfl | hq
      · exact lt_of_le_of_ne (not_lt.mp h2) fun heq => h1 heq.symm
      · exact hlt q hq

theorem Sorted.eraseKey (h : Sorted fs) : Sorted (eraseKey k fs) :=
  h.filter _

theorem lookup_eq_none_of_lt (h : ∀ p ∈ fs, k < p.1) : lookup k fs = none := by
  induction fs with
  | nil => rfl
  | cons p fs ih =>
    rw [lookup_cons, if_neg (ne_of_lt (h p mem_cons_self))]
    exact ih fun q hq => h q (mem_cons_of_mem _ hq)

theorem Sorted.ext {fs gs : List (String × Json)} (hf : Sorted fs) (hg : Sorted gs)
    (h : ∀ k, lookup k fs = lookup k gs) : fs = gs := by
  induction fs generalizing gs with
  | nil =>
    cases gs with
    | nil => rfl
    | cons q gs => simpa using h q.1
  | cons p fs ih =>
    obtain ⟨hpf, hf⟩ := pairwise_cons.mp hf
    cases gs with
    | nil => simpa using h p.1
    | cons q gs =>
      obtain ⟨hqg, hg⟩ := pairwise_cons.mp hg
      have hkey : p.1 = q.1 := by
        by_contra hne
        rcases lt_or_gt_of_ne hne with hlt | hlt
        · have hnone : lookup p.1 (q :: gs) = none := lookup_eq_none_of_lt fun r hr => by
            rcases mem_cons.mp hr with rfl | hr
            · exact hlt
            · exact lt_trans hlt (hqg r hr)
          simpa [hnone] using h p.1
        · have hnone : lookup q.1 (p :: fs) = none := lookup_eq_none_of_lt fun r hr => by
            rcases mem_cons.mp hr with rfl | hr
            · exact hlt
            · exact lt_trans hlt (hpf r hr)
          simpa [hnone] using h q.1
      have hval : p.2 = q.2 := by
        have := h p.1
        rwa [lookup_cons_self, hkey, lookup_cons_self, Option.some.injEq] at this
      have hrest : fs = gs := by
        refine ih hf hg fun k => ?_
        by_cases hk : k = p.1
        · rw [hk, lookup_eq_none_of_lt hpf, hkey, lookup_eq_none_of_lt hqg]
        · have := h k
          rwa [lookup_cons, lookup_cons, if_neg hk, if_neg (hkey ▸ hk)] at this
      rw [hrest, Prod.ext hkey hval]

/-! ## The canonical form -/

mutual

/-- What a decoder into maps keeps of a document, keys sorted. -/
def canonical : Json → Json
  | .null => .null
  | .bool b => .bool b
  | .num t => .num t
  | .str s => .str s
  | .arr items => .arr (canonicalItems items)
  | .obj fields => .obj (canonicalFields fields)

def canonicalItems : List Json → List Json
  | [] => []
  | j :: rest => canonical j :: canonicalItems rest

def canonicalFields : List (String × Json) → List (String × Json)
  | [] => []
  | (k, v) :: rest =>
    match lookup k (canonicalFields rest) with
    | some _ => canonicalFields rest
    | none => insertKey k (canonical v) (canonicalFields rest)

end

theorem canonicalItems_eq_map (items : List Json) : canonicalItems items = items.map canonical := by
  induction items with
  | nil => rfl
  | cons j rest ih => rw [canonicalItems, ih, map_cons]

theorem sorted_canonicalFields (fs : List (String × Json)) : Sorted (canonicalFields fs) := by
  induction fs with
  | nil => exact Pairwise.nil
  | cons p rest ih =>
    obtain ⟨k, v⟩ := p
    rw [canonicalFields]
    split
    · exact ih
    · exact ih.insertKey

theorem lookup_eq_none (h : k ∉ fs.map Prod.fst) : lookup k fs = none := by
  induction fs with
  | nil => rfl
  | cons p fs ih =>
    simp only [map_cons, mem_cons, not_or] at h
    rw [lookup_cons, if_neg h.1, ih h.2]

theorem lookup_canonicalFields (h : (fs.map Prod.fst).Nodup)
    (k : String) : lookup k (canonicalFields fs) = (lookup k fs).map canonical := by
  induction fs generalizing k with
  | nil => rfl
  | cons p rest ih =>
    obtain ⟨key, v⟩ := p
    obtain ⟨hnot, hrest⟩ := nodup_cons.mp h
    have hlook : lookup key (canonicalFields rest) = none := by
      rw [ih hrest, lookup_eq_none hnot]
      rfl
    rw [canonicalFields, hlook]
    simp only
    rw [lookup_insertKey, lookup_cons, ih hrest]
    split_ifs <;> rfl

/-! ## Structures -/

def present : List (String × Option Json) → List (String × Json)
  | [] => []
  | (k, some v) :: rest => (k, v) :: present rest
  | (_, none) :: rest => present rest

def ofFields (fs : List (String × Option Json)) : Json := .obj (present fs)

def field (k : String) : List (String × Option Json) → Option Json
  | [] => none
  | (k', v) :: rest => if k = k' then v else field k rest

variable {fs : List (String × Option Json)}

theorem mem_keys_present (h : k ∈ (present fs).map Prod.fst) : k ∈ fs.map Prod.fst := by
  induction fs with
  | nil => exact h
  | cons p rest ih =>
    obtain ⟨key, v⟩ := p
    cases v with
    | none => exact mem_cons_of_mem _ (ih h)
    | some v =>
      rcases mem_cons.mp h with rfl | h
      · exact mem_cons_self
      · exact mem_cons_of_mem _ (ih h)

theorem nodup_present (h : (fs.map Prod.fst).Nodup) : ((present fs).map Prod.fst).Nodup := by
  induction fs with
  | nil => exact h
  | cons p rest ih =>
    obtain ⟨key, v⟩ := p
    obtain ⟨hnot, hrest⟩ := nodup_cons.mp h
    cases v with
    | none => exact ih hrest
    | some v => exact nodup_cons.mpr ⟨fun hmem => hnot (mem_keys_present hmem), ih hrest⟩

theorem lookup_present (h : (fs.map Prod.fst).Nodup) (k : String) :
    lookup k (present fs) = field k fs := by
  induction fs with
  | nil => rfl
  | cons p rest ih =>
    obtain ⟨key, v⟩ := p
    obtain ⟨hnot, hrest⟩ := nodup_cons.mp h
    rw [field]
    cases v with
    | some v => rw [present, lookup_cons, ih hrest]
    | none =>
      rw [present]
      split_ifs with hk
      · rw [hk]
        exact lookup_eq_none fun hmem => hnot (mem_keys_present hmem)
      · exact ih hrest

def get? : Json → String → Option Json
  | .obj fs, k => lookup k fs
  | _, _ => none

theorem get?_ofFields (h : (fs.map Prod.fst).Nodup) (k : String) :
    (ofFields fs).get? k = field k fs :=
  lookup_present h k

theorem get?_canonical_ofFields (h : (fs.map Prod.fst).Nodup) (k : String) :
    (canonical (ofFields fs)).get? k = (field k fs).map canonical := by
  rw [ofFields, canonical, get?, lookup_canonicalFields (nodup_present h), lookup_present h]

theorem canonical_ofFields (fs : List (String × Option Json)) :
    canonical (ofFields fs) = .obj (canonicalFields (present fs)) := by
  rw [ofFields, canonical]

theorem insertKey_of_lt {v : Json} {fs : List (String × Json)} (h : ∀ p ∈ fs, k < p.1) :
    insertKey k v fs = (k, v) :: fs := by
  cases fs with
  | nil => rfl
  | cons p fs =>
    have hlt := h p mem_cons_self
    rw [insertKey, if_neg (ne_of_lt hlt), if_pos hlt]

theorem canonicalFields_eq_self {fs : List (String × Json)} (hs : Sorted fs)
    (hv : ∀ p ∈ fs, canonical p.2 = p.2) : canonicalFields fs = fs := by
  induction fs with
  | nil => rfl
  | cons p rest ih =>
    obtain ⟨k, v⟩ := p
    obtain ⟨hlt, hrest⟩ := pairwise_cons.mp hs
    have hvalue : canonical v = v := hv (k, v) mem_cons_self
    rw [canonicalFields, ih hrest fun q hq => hv q (mem_cons_of_mem _ hq), lookup_eq_none_of_lt hlt]
    simp only
    rw [hvalue, insertKey_of_lt hlt]

/-! ## Codings

A reader sees a document as it was written, or its canonical form. Both keep scalars, arrays and
the fields of a structure. -/

class Coding (c : Json → Json) : Prop where
  null : c .null = .null
  bool (b : Bool) : c (.bool b) = .bool b
  num (t : String) : c (.num t) = .num t
  str (s : String) : c (.str s) = .str s
  arr (items : List Json) : c (.arr items) = .arr (items.map c)
  texts (entries : List (String × String)) :
    (entries.Pairwise fun a b => a.1 < b.1) →
      c (.obj (entries.map fun e => (e.1, .str e.2))) = .obj (entries.map fun e => (e.1, .str e.2))
  object (fs : List (String × Option Json)) : ∃ fields, c (ofFields fs) = .obj fields
  get? (fs : List (String × Option Json)) :
    (fs.map Prod.fst).Nodup → ∀ k, (c (ofFields fs)).get? k = (field k fs).map c

instance : Coding id where
  null := rfl
  bool _ := rfl
  num _ := rfl
  str _ := rfl
  arr items := by rw [map_id, id]
  texts _ _ := rfl
  object fs := ⟨present fs, rfl⟩
  get? fs h k := by rw [id, get?_ofFields h, Option.map_id, id]

variable {entries : List (String × String)}

theorem sorted_texts (h : entries.Pairwise fun a b => a.1 < b.1) :
    Sorted (entries.map fun e => (e.1, .str e.2)) :=
  pairwise_map.mpr h

theorem canonicalFields_texts (h : entries.Pairwise fun a b => a.1 < b.1) :
    canonicalFields (entries.map fun e => (e.1, .str e.2)) =
      entries.map fun e => (e.1, .str e.2) := by
  refine canonicalFields_eq_self (sorted_texts h) ?_
  rintro p hp
  obtain ⟨e, -, rfl⟩ := mem_map.mp hp
  rw [canonical]

instance : Coding canonical where
  null := by rw [canonical]
  bool _ := by rw [canonical]
  num _ := by rw [canonical]
  str _ := by rw [canonical]
  arr items := by rw [canonical, canonicalItems_eq_map]
  texts entries h := by rw [canonical, canonicalFields_texts h]
  object fs := ⟨_, canonical_ofFields fs⟩
  get? _ h k := get?_canonical_ofFields h k

/-! ## Edits -/

/-- Edits the value under a key of a canonical object; `none` stands for a missing key. -/
def update (k : String) (g : Option Json → Option Json) : Json → Json
  | .obj fs =>
    match g (lookup k fs) with
    | some v => .obj (insertKey k v fs)
    | none => .obj (eraseKey k fs)
  | j => j

def delete (j : Json) (k : String) : Json := j.update k fun _ => none

def orDefault (d : Json) : Option Json → Json
  | none | some .null => d
  | some v => v

def setDefault (j : Json) (k : String) (d : Json) : Json :=
  j.update k fun v => some (orDefault d v)

def modify (j : Json) (k : String) (f : Json → Json) : Json := j.update k (Option.map f)

def setField (k : String) (v : Option Json) (fs : List (String × Option Json)) :
    List (String × Option Json) :=
  fs.map fun p => (p.1, if p.1 = k then v else p.2)

@[simp] theorem keys_setField (k : String) (v : Option Json) (fs : List (String × Option Json)) :
    (setField k v fs).map Prod.fst = fs.map Prod.fst := by
  rw [setField, map_map]
  rfl

theorem field_eq_none (h : k ∉ fs.map Prod.fst) : field k fs = none := by
  induction fs with
  | nil => rfl
  | cons p fs ih =>
    simp only [map_cons, mem_cons, not_or] at h
    rw [field, if_neg h.1, ih h.2]

variable {v : Option Json}

theorem field_setField_self (h : k ∈ fs.map Prod.fst) : field k (setField k v fs) = v := by
  induction fs with
  | nil => exact absurd h not_mem_nil
  | cons p fs ih =>
    rw [setField, map_cons, field]
    by_cases hk : k = p.1
    · rw [if_pos hk, if_pos hk.symm]
    · rw [if_neg hk]
      exact ih ((mem_cons.mp h).resolve_left hk)

theorem field_setField_of_ne {k' : String} (h : k' ≠ k) :
    field k' (setField k v fs) = field k' fs := by
  induction fs with
  | nil => rfl
  | cons p fs ih =>
    obtain ⟨key, value⟩ := p
    rw [setField, map_cons, field, field]
    by_cases hk : k' = key
    · rw [if_pos hk, if_pos hk, if_neg fun heq => h (hk.trans heq)]
    · rw [if_neg hk, if_neg hk]
      exact ih

theorem setField_setField (k : String) (v w : Option Json) (fs : List (String × Option Json)) :
    setField k v (setField k w fs) = setField k v fs := by
  rw [setField, setField, setField, map_map]
  refine map_congr_left fun p _ => ?_
  simp only [Function.comp_apply, Prod.mk.injEq, true_and]
  split_ifs <;> rfl

variable (h : (fs.map Prod.fst).Nodup)
include h

theorem update_canonical_ofFields {g : Option Json → Option Json}
    (hg : g ((field k fs).map canonical) = v.map canonical) (hk : k ∉ fs.map Prod.fst → v = none) :
    update k g (canonical (ofFields fs)) = canonical (ofFields (setField k v fs)) := by
  have hkeys : ((setField k v fs).map Prod.fst).Nodup := by rwa [keys_setField]
  have hlook (k' : String) : lookup k' (canonicalFields (present fs)) =
      (field k' fs).map canonical := by
    rw [lookup_canonicalFields (nodup_present h), lookup_present h]
  have hself : field k (setField k v fs) = v := by
    by_cases hmem : k ∈ fs.map Prod.fst
    · exact field_setField_self hmem
    · rw [hk hmem, field_eq_none (by rwa [keys_setField])]
  have hset (k' : String) : lookup k' (canonicalFields (present (setField k v fs))) =
      if k' = k then v.map canonical else (field k' fs).map canonical := by
    rw [lookup_canonicalFields (nodup_present hkeys), lookup_present hkeys]
    split_ifs with heq
    · rw [heq, hself]
    · rw [field_setField_of_ne heq]
  rw [canonical_ofFields, canonical_ofFields, update, hlook, hg]
  cases v with
  | none =>
    refine congrArg Json.obj ((sorted_canonicalFields _).eraseKey.ext
      (sorted_canonicalFields _) fun k' => ?_)
    rw [lookup_eraseKey, hset, hlook, Option.map_none]
  | some v =>
    refine congrArg Json.obj ((sorted_canonicalFields _).insertKey.ext
      (sorted_canonicalFields _) fun k' => ?_)
    rw [lookup_insertKey, hset, hlook, Option.map_some]

theorem delete_canonical_ofFields :
    (canonical (ofFields fs)).delete k = canonical (ofFields (setField k none fs)) :=
  update_canonical_ofFields h rfl fun _ => rfl

theorem modify_canonical_ofFields {f : Json → Json}
    (hk : k ∈ fs.map Prod.fst) (hf : ((field k fs).map canonical).map f = v.map canonical) :
    (canonical (ofFields fs)).modify k f = canonical (ofFields (setField k v fs)) :=
  update_canonical_ofFields h hf fun hnot => absurd hk hnot

theorem setDefault_canonical_ofFields {d : Json} (hk : k ∈ fs.map Prod.fst) (hd : canonical d = d) :
    (canonical (ofFields fs)).setDefault k d =
      canonical (ofFields (setField k (some (orDefault d (field k fs))) fs)) := by
  refine update_canonical_ofFields h ?_ fun hnot => absurd hk hnot
  cases field k fs with
  | none => simp [orDefault, hd]
  | some v => cases v <;> simp [orDefault, hd, canonical]

end Json

namespace Json

/-! ## Lengths -/

/-- The bytes a character takes inside a string: quotes, backslashes and control characters are
escaped, and so are the characters an HTML page would interpret and the line separators. -/
def charSize (c : Char) : Nat :=
  let n := c.toNat
  if n < 32 then (if n ∈ [8, 9, 10, 12, 13] then 2 else 6)
  else if n = 34 ∨ n = 92 then 2
  else if n = 38 ∨ n = 60 ∨ n = 62 ∨ n = 0x2028 ∨ n = 0x2029 then 6
  else c.utf8Size

def stringSize (s : String) : Nat := 2 + (s.toList.map charSize).sum

def listSize (sizes : List Nat) : Nat := 2 + sizes.sum + (sizes.length - 1)

mutual

def size : Json → Nat
  | .null => 4
  | .bool b => if b then 4 else 5
  | .num t => t.utf8ByteSize
  | .str s => stringSize s
  | .arr items => listSize (sizeItems items)
  | .obj fields => listSize (sizeFields fields)

def sizeItems : List Json → List Nat
  | [] => []
  | j :: rest => size j :: sizeItems rest

def sizeFields : List (String × Json) → List Nat
  | [] => []
  | (k, v) :: rest => (stringSize k + 1 + size v) :: sizeFields rest

end

/-! ## Duplicate keys -/

mutual

def noDuplicateKeys : Json → Bool
  | .arr items => noDuplicateKeysItems items
  | .obj fields => decide (fields.map Prod.fst).Nodup && noDuplicateKeysFields fields
  | _ => true

def noDuplicateKeysItems : List Json → Bool
  | [] => true
  | j :: rest => noDuplicateKeys j && noDuplicateKeysItems rest

def noDuplicateKeysFields : List (String × Json) → Bool
  | [] => true
  | (_, v) :: rest => noDuplicateKeys v && noDuplicateKeysFields rest

end

def clean (v : Option Json) : Bool := v.all noDuplicateKeys

theorem noDuplicateKeys_leaf {j : Json} (harr : ∀ l, j = .arr l → False)
    (hobj : ∀ l, j = .obj l → False) : noDuplicateKeys j = true := by
  rw [noDuplicateKeys] <;> assumption

@[simp] theorem noDuplicateKeys_null : noDuplicateKeys .null = true :=
  noDuplicateKeys_leaf nofun nofun

@[simp] theorem noDuplicateKeys_bool (b : Bool) : noDuplicateKeys (.bool b) = true :=
  noDuplicateKeys_leaf nofun nofun

@[simp] theorem noDuplicateKeys_num (t : String) : noDuplicateKeys (.num t) = true :=
  noDuplicateKeys_leaf nofun nofun

@[simp] theorem noDuplicateKeys_str (s : String) : noDuplicateKeys (.str s) = true :=
  noDuplicateKeys_leaf nofun nofun

theorem noDuplicateKeys_arr_map {α : Type} (encode : α → Json) (items : List α) :
    noDuplicateKeys (.arr (items.map encode)) = items.all fun x => noDuplicateKeys (encode x) := by
  rw [noDuplicateKeys]
  induction items with
  | nil => rfl
  | cons x rest ih => rw [List.map_cons, noDuplicateKeysItems, ih, List.all_cons]

theorem noDuplicateKeysFields_present (fs : List (String × Option Json)) :
    noDuplicateKeysFields (present fs) = fs.all fun f => clean f.2 := by
  induction fs with
  | nil => rfl
  | cons f rest ih =>
    obtain ⟨k, v⟩ := f
    cases v with
    | none => rw [present, ih, List.all_cons, clean, Option.all_none, Bool.true_and]
    | some v => rw [present, noDuplicateKeysFields, ih, List.all_cons, clean, Option.all_some]

@[simp] theorem noDuplicateKeys_ofFields {fs : List (String × Option Json)}
    (h : (fs.map Prod.fst).Nodup) :
    noDuplicateKeys (ofFields fs) = fs.all fun f => clean f.2 := by
  rw [ofFields, noDuplicateKeys, noDuplicateKeysFields_present]
  simp [nodup_present h]

end Json

/-! ## Decimal text of integers -/

/-- An integer in decimal digits with an optional minus sign. -/
def parseInt (s : String) : Option Int :=
  match s.toList with
  | '-' :: ds =>
    if ds ≠ [] ∧ ds.all Char.isDigit then some (-(Nat.ofDigitChars 10 ds 0 : Int)) else none
  | ds => if ds ≠ [] ∧ ds.all Char.isDigit then some (Nat.ofDigitChars 10 ds 0 : Int) else none

theorem all_isDigit_toDigits (n : Nat) : (Nat.toDigits 10 n).all Char.isDigit = true :=
  List.all_eq_true.mpr fun _ hc => Nat.isDigit_of_mem_toDigits (by decide) (by decide) hc

theorem parseInt_toString (n : Int) : parseInt (toString n) = some n := by
  show parseInt n.repr = some n
  rw [Int.repr_eq_if]
  split_ifs with h
  · have hdigits := all_isDigit_toDigits n.toNat
    rw [Nat.repr_eq_ofList_toDigits, parseInt, String.toList_ofList]
    split
    · rename_i ds heq
      rw [heq] at hdigits
      simp [Char.isDigit] at hdigits
    · rw [if_pos ⟨Nat.toDigits_ne_nil, hdigits⟩, Nat.ofDigitChars_ten_toDigits,
        Int.toNat_of_nonneg h]
  · have hdigits := all_isDigit_toDigits (-n).toNat
    have hlist : ("-" ++ (-n).toNat.repr).toList = '-' :: Nat.toDigits 10 (-n).toNat := by
      simp [Nat.repr_eq_ofList_toDigits]
    rw [parseInt, hlist]
    simp only
    rw [if_pos ⟨Nat.toDigits_ne_nil, hdigits⟩, Nat.ofDigitChars_ten_toDigits,
      Int.toNat_of_nonneg (by omega), Int.neg_neg]

end Houfeng
