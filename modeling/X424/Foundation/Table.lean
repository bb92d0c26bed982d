import Mathlib.Data.Finset.Card
import Mathlib.Data.List.Nodup
import Mathlib.Logic.Basic

/-!
# Tables of rows with a key

A table is a finite list of rows of which no two have the same key, so that a
key finds at most one row.  Filtering and storing act on what a key finds row
by row.
-/

namespace X424.Foundation

structure Table {α κ : Type*} (key : α → κ) where
  rows : List α
  nodup : (rows.map key).Nodup

namespace Table

variable {α κ : Type*} [DecidableEq κ] {key : α → κ}

def empty : Table key := ⟨[], List.nodup_nil⟩

def size (t : Table key) : Nat := t.rows.length

def find (t : Table key) (k : κ) : Option α := t.rows.find? fun row => key row = k

def filter (t : Table key) (keep : α → Bool) : Table key where
  rows := t.rows.filter keep
  nodup := t.nodup.sublist (List.filter_sublist.map key)

def erase (t : Table key) (k : κ) : Table key := t.filter fun row => key row ≠ k

def put (t : Table key) (row : α) : Table key where
  rows := (t.erase (key row)).rows ++ [row]
  nodup := by
    rw [List.map_append, List.nodup_append]
    refine ⟨(t.erase (key row)).nodup, List.nodup_singleton _, ?_⟩
    rintro _ hmem _ hrow rfl
    obtain ⟨other, hother, heq⟩ := List.mem_map.mp hmem
    have hne : key other ≠ key row := by simpa using (List.mem_filter.mp hother).2
    exact hne (heq.trans (by simpa using hrow))

theorem find_eq_some {t : Table key} {k : κ} {row : α} :
    t.find k = some row ↔ row ∈ t.rows ∧ key row = k := by
  constructor
  · intro h
    exact ⟨List.mem_of_find?_eq_some h, by simpa using List.find?_some h⟩
  · rintro ⟨hmem, rfl⟩
    cases hfound : t.find (key row) with
    | none =>
        have := List.find?_eq_none.mp hfound row hmem
        simp at this
    | some found =>
        have hkey : key found = key row := by simpa using List.find?_some hfound
        have hmem' : found ∈ t.rows := List.mem_of_find?_eq_some hfound
        rw [List.inj_on_of_nodup_map t.nodup hmem' hmem hkey]

theorem find_filter (t : Table key) (keep : α → Bool) (k : κ) :
    (t.filter keep).find k = (t.find k).filter keep := by
  apply Option.ext
  intro row
  rw [find_eq_some, Option.filter_eq_some_iff, find_eq_some]
  simp only [filter, List.mem_filter]
  tauto

@[simp] theorem find_erase_same (t : Table key) (k : κ) : (t.erase k).find k = none := by
  rw [erase, find_filter, Option.filter_eq_none_iff]
  intro row hrow
  simp [(find_eq_some.mp hrow).2]

theorem find_erase_of_ne (t : Table key) {k other : κ} (h : other ≠ k) :
    (t.erase k).find other = t.find other := by
  rw [erase, find_filter]
  cases hfound : t.find other with
  | none => rfl
  | some row => simp [(find_eq_some.mp hfound).2, h]

theorem mem_erase {t : Table key} {k : κ} {row : α} :
    row ∈ (t.erase k).rows ↔ row ∈ t.rows ∧ key row ≠ k := by
  simp [erase, filter]

theorem mem_put {t : Table key} {row other : α} :
    other ∈ (t.put row).rows ↔ (other ∈ t.rows ∧ key other ≠ key row) ∨ other = row := by
  rw [put, List.mem_append, mem_erase, List.mem_singleton]

@[simp] theorem find_put_same (t : Table key) (row : α) :
    (t.put row).find (key row) = some row :=
  find_eq_some.mpr ⟨List.mem_append_right _ (List.mem_singleton_self row), rfl⟩

theorem find_put_of_ne (t : Table key) {row : α} {k : κ} (h : k ≠ key row) :
    (t.put row).find k = t.find k := by
  rw [← find_erase_of_ne t h]
  apply Option.ext
  intro found
  rw [find_eq_some, find_eq_some]
  simp only [put, List.mem_append, List.mem_singleton]
  constructor
  · rintro ⟨hmem | rfl, hkey⟩
    · exact ⟨hmem, hkey⟩
    · exact absurd hkey.symm h
  · rintro ⟨hmem, hkey⟩
    exact ⟨Or.inl hmem, hkey⟩

theorem size_le_of_find {β : Type*} {key' : β → κ} {t : Table key} {u : Table key'}
    (h : ∀ k, (t.find k).isSome → (u.find k).isSome) : t.size ≤ u.size := by
  have hsubset : t.rows.map key ⊆ u.rows.map key' := by
    intro k hk
    obtain ⟨row, hmem, hkey⟩ := List.mem_map.mp hk
    have hfound : t.find k = some row := find_eq_some.mpr ⟨hmem, hkey⟩
    obtain ⟨other, hother⟩ := Option.isSome_iff_exists.mp (h k (by rw [hfound]; rfl))
    obtain ⟨hmem', hkey'⟩ := find_eq_some.mp hother
    exact List.mem_map.mpr ⟨other, hmem', hkey'⟩
  have hlength := List.Nodup.length_le_of_subset t.nodup hsubset
  rwa [List.length_map, List.length_map] at hlength

theorem size_eq_card {t : Table key} {keys : Finset κ}
    (h : ∀ k, k ∈ keys ↔ (t.find k).isSome) : t.size = keys.card := by
  rw [size, ← List.length_map, ← List.toFinset_card_of_nodup t.nodup]
  congr 1
  ext k
  rw [h, List.mem_toFinset, List.mem_map, Option.isSome_iff_exists]
  exact exists_congr fun row => find_eq_some.symm

omit [DecidableEq κ] in
theorem filter_eq_self {t : Table key} {keep : α → Bool} (h : ∀ row ∈ t.rows, keep row = true) :
    t.filter keep = t := by
  obtain ⟨rows, nodup⟩ := t
  simp only [filter, List.filter_eq_self.mpr h]

omit [DecidableEq κ] in
theorem size_filter_le (t : Table key) (keep : α → Bool) : (t.filter keep).size ≤ t.size :=
  List.length_filter_le _ _

theorem size_put_le (t : Table key) (row : α) : (t.put row).size ≤ t.size + 1 := by
  rw [size, put, List.length_append, List.length_singleton]
  exact Nat.succ_le_succ (size_filter_le t _)

end Table

end X424.Foundation
