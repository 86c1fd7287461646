import Mathlib.Data.List.AList
import Mathlib.Data.Finset.Interval
import Mathlib.Data.Int.Interval

/-!
# Tables with a primary key

A table is Mathlib's `AList`: rows under distinct keys. `AList.lookup`, `AList.insert` and
`AList.replace` are select, insert and update by key; deletion by condition and the number of rows
whose keys lie in an interval are added here.
-/

open List

namespace Houfeng

/-- A table of rows `ρ` under the primary key `κ`. -/
abbrev Table (κ ρ : Type) := AList (fun _ : κ => ρ)

namespace Table

variable {κ ρ : Type}

/-- `delete … where p`. -/
def deleteWhere (t : Table κ ρ) (p : κ → ρ → Bool) : Table κ ρ :=
  ⟨t.entries.filter fun e => !p e.1 e.2, NodupKeys.sublist filter_sublist t.nodupKeys⟩

def mapRows (t : Table κ ρ) (f : κ → ρ → ρ) : Table κ ρ :=
  ⟨t.entries.map fun e => ⟨e.1, f e.1 e.2⟩, by
    have hkeys : (t.entries.map fun e => (⟨e.1, f e.1 e.2⟩ : Sigma fun _ : κ => ρ)).keys =
        t.entries.keys := by
      simp [List.keys, map_map, Function.comp_def]
    rw [NodupKeys, hkeys]
    exact t.nodupKeys⟩

variable [DecidableEq κ] {t : Table κ ρ} {k : κ}

theorem lookup_eq_some_iff {r : ρ} :
    t.lookup k = some r ↔ (⟨k, r⟩ : Sigma fun _ : κ => ρ) ∈ t.entries :=
  AList.mem_lookup_iff

variable {p : κ → ρ → Bool}

theorem lookup_deleteWhere_eq_some {r : ρ} :
    (t.deleteWhere p).lookup k = some r ↔ t.lookup k = some r ∧ p k r = false := by
  rw [lookup_eq_some_iff, lookup_eq_some_iff]
  simp [deleteWhere]

theorem lookup_deleteWhere_of_forall
    (h : ∀ r, p k r = false) : (t.deleteWhere p).lookup k = t.lookup k := by
  refine Option.ext fun r => ?_
  rw [lookup_deleteWhere_eq_some]
  simp [h]

@[simp] theorem lookup_mapRows (t : Table κ ρ) (f : κ → ρ → ρ) (k : κ) :
    (t.mapRows f).lookup k = (t.lookup k).map (f k) := by
  refine Option.ext fun r => ?_
  rw [lookup_eq_some_iff]
  simp only [mapRows, mem_map, Option.map_eq_some_iff, lookup_eq_some_iff, Sigma.mk.injEq]
  constructor
  · rintro ⟨⟨k', r'⟩, hmem, rfl, heq⟩
    exact ⟨r', hmem, eq_of_heq heq⟩
  · rintro ⟨r', hmem, rfl⟩
    exact ⟨⟨k, r'⟩, hmem, rfl, HEq.rfl⟩

theorem lookup_insert_eq_some {k k' : κ} {r r' : ρ} (h : (t.insert k r).lookup k' = some r') :
    (k' = k ∧ r' = r) ∨ (k' ≠ k ∧ t.lookup k' = some r') := by
  by_cases hk : k' = k
  · subst hk
    rw [AList.lookup_insert] at h
    exact .inl ⟨rfl, (Option.some.inj h).symm⟩
  · rw [AList.lookup_insert_ne hk] at h
    exact .inr ⟨hk, h⟩

theorem lookup_of_mem_keys (h : k ∈ t.keys) : ∃ r, t.lookup k = some r :=
  Option.isSome_iff_exists.mp (AList.lookup_isSome.mpr (AList.mem_keys.mpr h))

/-! ## Row by row -/

def Related (r : ρ → ρ → Prop) (t t' : Table κ ρ) : Prop :=
  ∀ k, Option.Rel r (t.lookup k) (t'.lookup k)

namespace Related

variable {r r' r'' : ρ → ρ → Prop} {t t' t'' : Table κ ρ} {k : κ} {a b : ρ}

theorem of_lookup (h : Related r t t') (hk : t.lookup k = some a) :
    ∃ b, t'.lookup k = some b ∧ r a b := by
  have hrel := h k
  rw [hk] at hrel
  generalize t'.lookup k = o at hrel ⊢
  cases hrel with
  | some hab => exact ⟨_, rfl, hab⟩

theorem to_lookup (h : Related r t t') (hk : t'.lookup k = some b) :
    ∃ a, t.lookup k = some a ∧ r a b := by
  have hrel := h k
  rw [hk] at hrel
  generalize t.lookup k = o at hrel ⊢
  cases hrel with
  | some hab => exact ⟨_, rfl, hab⟩

theorem of_lookup_none (h : Related r t t') (hk : t.lookup k = none) : t'.lookup k = none := by
  have hrel := h k
  rw [hk] at hrel
  generalize t'.lookup k = o at hrel ⊢
  cases hrel with
  | none => rfl

theorem refl (hr : ∀ a, r a a) (t : Table κ ρ) : Related r t t := by
  intro k
  cases t.lookup k with
  | none => exact .none
  | some a => exact .some (hr a)

theorem trans (hr : ∀ a b c, r a b → r' b c → r'' a c) (h : Related r t t')
    (h' : Related r' t' t'') : Related r'' t t'' := by
  intro k
  cases hk : t.lookup k with
  | none =>
    rw [h'.of_lookup_none (h.of_lookup_none hk)]
    exact .none
  | some a =>
    obtain ⟨b, hb, hab⟩ := h.of_lookup hk
    obtain ⟨c, hc, hbc⟩ := h'.of_lookup hb
    rw [hc]
    exact .some (hr a b c hab hbc)

theorem mono (hr : ∀ a b, r a b → r' a b) (h : Related r t t') : Related r' t t' :=
  trans (fun a b c hab (hbc : b = c) => hbc ▸ hr a b hab) h (refl (fun _ => rfl) t')

theorem mapRows {f : κ → ρ → ρ} (hf : ∀ k a, r a (f k a)) (t : Table κ ρ) :
    Related r t (t.mapRows f) := by
  intro k
  rw [lookup_mapRows]
  cases t.lookup k with
  | none => exact .none
  | some a => exact .some (hf k a)

theorem insert (hr : ∀ a, r a a) (hk : t.lookup k = some a) (hab : r a b) :
    Related r t (t.insert k b) := by
  intro k'
  by_cases hkk : k' = k
  · rw [hkk, AList.lookup_insert, hk]
    exact .some hab
  · rw [AList.lookup_insert_ne hkk]
    exact refl hr t k'

end Related

/-! ## Counting rows -/

/-- The rows of a group whose second key lies in `(lo, hi]` number at most `hi - lo`. -/
theorem length_group_le {α : Type} [DecidableEq α] {t : Table (α × Int) ρ} {a : α} (lo hi : Int)
    (h : ∀ n r, t.lookup (a, n) = some r → lo < n ∧ n ≤ hi) :
    (t.keys.filter fun k => k.1 = a).length ≤ (hi - lo).toNat := by
  have hnodup : ((t.keys.filter fun k => k.1 = a).map Prod.snd).Nodup := by
    refine Nodup.map_on ?_ (t.keys_nodup.filter _)
    intro x hx y hy hxy
    have hxa : x.1 = a := by simpa using (mem_filter.mp hx).2
    have hya : y.1 = a := by simpa using (mem_filter.mp hy).2
    exact Prod.ext (hxa.trans hya.symm) hxy
  have hsub : ((t.keys.filter fun k => k.1 = a).map Prod.snd).toFinset ⊆ Finset.Ioc lo hi := by
    intro n hn
    obtain ⟨k, hk, rfl⟩ := mem_map.mp (mem_toFinset.mp hn)
    obtain ⟨hmem, hka⟩ := mem_filter.mp hk
    obtain ⟨r, hr⟩ := lookup_of_mem_keys hmem
    obtain rfl : k.1 = a := by simpa using hka
    exact Finset.mem_Ioc.mpr (h k.2 r hr)
  calc (t.keys.filter fun k => k.1 = a).length
      = ((t.keys.filter fun k => k.1 = a).map Prod.snd).toFinset.card := by
        rw [toFinset_card_of_nodup hnodup, length_map]
    _ ≤ (Finset.Ioc lo hi).card := Finset.card_le_card hsub
    _ = (hi - lo).toNat := by rw [Int.card_Ioc]

end Table

end Houfeng
