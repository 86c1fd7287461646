import Mathlib.Data.List.Sort

/-!
# Listing in the order of a key

Rows sorted by a key that tells them apart, and the part of the listing that comes after a key: what
a reader sees who asks for the rows after the last one it was shown.
-/

namespace Houfeng.Keyset

open List

variable {α κ : Type*} [LinearOrder κ] (key : α → κ)

def sorted (rows : List α) : List α := rows.mergeSort fun a b => key a ≤ key b

def Listing (rows : List α) : Prop := rows.Pairwise fun a b => key a < key b

variable {key} {rows rows' : List α}

@[simp] theorem mem_sorted {a : α} : a ∈ sorted key rows ↔ a ∈ rows := mem_mergeSort

theorem pairwise_sorted : (sorted key rows).Pairwise fun a b => key a ≤ key b := by
  have hsorted : (sorted key rows).Pairwise fun a b => decide (key a ≤ key b) = true :=
    pairwise_mergeSort
      (fun a b c hab hbc => by simp only [decide_eq_true_eq] at *; exact le_trans hab hbc)
      (fun a b => by simpa using le_total (key a) (key b)) rows
  exact hsorted.imp fun h => by simpa using h

theorem sorted_perm : (sorted key rows).Perm rows := mergeSort_perm rows _

theorem sorted_of_pairwise (h : rows.Pairwise fun a b => key a ≤ key b) : sorted key rows = rows :=
  mergeSort_of_pairwise (h.imp fun h => by simpa using h)

theorem listing_sorted (hnodup : rows.Nodup) (hkey : ∀ a ∈ rows, ∀ b ∈ rows, key a = key b → a = b) :
    Listing key (sorted key rows) := by
  have hne : (sorted key rows).Nodup := (mergeSort_perm rows _).nodup_iff.mpr hnodup
  refine (pairwise_sorted.and hne).imp_of_mem fun {a b} ha hb h => lt_of_le_of_ne h.1 fun heq => h.2 ?_
  exact hkey a (mem_sorted.mp ha) b (mem_sorted.mp hb) heq

theorem Listing.eq (h : Listing key rows) (h' : Listing key rows') (hmem : ∀ a, a ∈ rows ↔ a ∈ rows') :
    rows = rows' := by
  have nodup : ∀ {l : List α}, Listing key l → l.Nodup :=
    fun hl => Pairwise.imp (fun {a b} hlt (heq : a = b) => absurd hlt (by simp [heq])) hl
  refine ((perm_ext_iff_of_nodup (nodup h) (nodup h')).mpr hmem).eq_of_pairwise ?_ h h'
  exact fun a b _ _ hab hba => absurd hab (lt_asymm hba)

theorem Listing.filter (h : Listing key rows) (p : α → Bool) : Listing key (rows.filter p) :=
  Pairwise.filter p h

theorem Listing.filter_after {front rest : List α} {a : α} (h : Listing key (front ++ a :: rest)) :
    (front ++ a :: rest).filter (fun b => key a < key b) = rest := by
  obtain ⟨-, hrest, hcross⟩ := pairwise_append.mp h
  have hfront : front.filter (fun b => key a < key b) = [] := filter_eq_nil_iff.mpr fun b hb => by
      simpa using le_of_lt (hcross b hb a (mem_cons_self ..))
  have hafter : rest.filter (fun b => key a < key b) = rest :=
    filter_eq_self.mpr fun b hb => by simpa using (pairwise_cons.mp hrest).1 b hb
  rw [filter_append, hfront, nil_append, filter_cons_of_neg (by simp), hafter]

end Houfeng.Keyset
