import LedgerClient.Proofs.Sequence
import LedgerClient.Subscription.IdTable
import Mathlib.Data.List.Perm.Subperm

/-! # What a table by id knows

Putting a value under an id and forgetting an id concern that id alone
(`LedgerClient.IdTable.find?_insert`, `LedgerClient.IdTable.find?_erase`). A table that
knows each of its values once is no larger than one that knows them all
(`LedgerClient.IdTable.size_le_of_covers`).
-/

namespace LedgerClient.IdTable

open Sequence (lookup_cons_eq)

variable {β : Type} {table : IdTable β} {id other : UInt64} {value : β}

/-- An id that is forgotten is not found, and any other is found as before. -/
theorem find?_erase :
    (table.erase other).find? id = if id = other then none else table.find? id := by
  rw [erase, find?, find?]
  induction table.entries with
  | nil => exact (ite_self _).symm
  | cons entry rest ih =>
      by_cases forgotten : entry.1 = other
      · rw [List.filter_cons_of_neg (by simp [forgotten]), ih, lookup_cons_eq, forgotten]
        by_cases same : id = other
        · rw [if_pos same, if_pos same]
        · rw [if_neg same, if_neg same, if_neg same]
      · rw [List.filter_cons_of_pos (by simp [forgotten]), lookup_cons_eq, lookup_cons_eq, ih]
        by_cases same : id = entry.1
        · rw [if_pos same, if_pos same, same, if_neg forgotten]
        · rw [if_neg same, if_neg same]

/-- A value is found under the id that it was put under. -/
theorem find?_insert :
    (table.insert other value).find? id = if id = other then some value else table.find? id := by
  rw [insert, find?, lookup_cons_eq]
  by_cases same : id = other
  · rw [if_pos same, if_pos same]
  · have kept : (table.erase other).find? id = table.find? id := find?_erase.trans (if_neg same)
    rw [if_neg same, if_neg same]
    exact kept

/-- A table does not contain what is not found. -/
theorem contains_eq_false_iff : table.contains id = false ↔ table.find? id = none := by
  rw [contains, Option.isSome_eq_false_iff, Option.isNone_iff_eq_none]

/-- No id is listed twice. -/
def Distinct (table : IdTable β) : Prop := (table.entries.map Prod.fst).Nodup

/-- The empty table lists nothing. -/
theorem distinct_empty : (empty : IdTable β).Distinct := List.nodup_nil

/-- Forgetting an id lists none twice. -/
theorem Distinct.erase (distinct : table.Distinct) : (table.erase id).Distinct :=
  List.Nodup.sublist (List.filter_sublist.map _) distinct

/-- Putting a value under an id takes the place of the one before. -/
theorem Distinct.insert (distinct : table.Distinct) : (table.insert id value).Distinct := by
  rw [Distinct, IdTable.insert, List.map_cons, List.nodup_cons]
  refine ⟨?_, distinct.erase⟩
  intro again
  obtain ⟨entry, member, same⟩ := List.mem_map.mp again
  have kept := List.of_mem_filter member
  rw [same] at kept
  simp at kept

/-- What is listed is what is found. -/
theorem Distinct.mem_entries_iff (distinct : table.Distinct) :
    (id, value) ∈ table.entries ↔ table.find? id = some value :=
  Sequence.mem_iff_lookup_eq_some distinct

/-- Values that are known by one id each are listed once. -/
theorem Distinct.nodup_values (distinct : table.Distinct)
    (once : ∀ id other value, table.find? id = some value → table.find? other = some value →
      id = other) : (table.entries.map Prod.snd).Nodup := by
  refine List.Nodup.map_on ?_ (List.Nodup.of_map _ distinct)
  rintro ⟨id, value⟩ member ⟨other, _⟩ present rfl
  exact Prod.ext (once _ _ _ (distinct.mem_entries_iff.mp member)
    (distinct.mem_entries_iff.mp present)) rfl

/-- The values are those that some id is known for. -/
theorem Distinct.mem_values_iff (distinct : table.Distinct) :
    value ∈ table.entries.map Prod.snd ↔ ∃ id, table.find? id = some value := by
  rw [List.mem_map]
  constructor
  · rintro ⟨⟨id, _⟩, member, rfl⟩
    exact ⟨id, distinct.mem_entries_iff.mp member⟩
  · rintro ⟨id, found⟩
    exact ⟨_, distinct.mem_entries_iff.mpr found, rfl⟩

/-- **A table is no larger than another one** that knows all of its values, if it knows
each of them once. -/
theorem size_le_of_covers {first second : IdTable β} (distinct : first.Distinct)
    (distinctSecond : second.Distinct)
    (once : ∀ id other value, first.find? id = some value → first.find? other = some value →
      id = other)
    (covers : ∀ id value, first.find? id = some value → ∃ other, second.find? other = some value) :
    first.size ≤ second.size := by
  have among : first.entries.map Prod.snd ⊆ second.entries.map Prod.snd := by
    intro value listed
    obtain ⟨id, found⟩ := distinct.mem_values_iff.mp listed
    exact distinctSecond.mem_values_iff.mpr (covers id value found)
  have sizes := ((distinct.nodup_values once).subperm among).length_le
  rwa [List.length_map, List.length_map] at sizes

end LedgerClient.IdTable
