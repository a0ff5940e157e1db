/-
The names of the fields of exported JSON objects (the core crate's `export::json`), found by
trying suffixes until a name is not taken. A column is given by its name.
-/

import Mathlib.Data.Set.Finite.Lattice
import Mathlib.Data.Nat.Find

namespace Bookie.Export

open List

section Search

variable {α : Type} [DecidableEq α] {candidate : Nat → α}
  (distinct : Function.Injective candidate) (taken : List α)
include distinct

private theorem exists_free : ∃ attempt, candidate attempt ∉ taken := by
  obtain ⟨_, ⟨attempt, rfl⟩, free⟩ :=
    (Set.infinite_range_of_injective distinct).exists_notMem_finset taken.toFinset
  exact ⟨attempt, fun member => free (mem_toFinset.mpr member)⟩

/-- The loop over the candidates ends at the first one that is not taken. -/
def firstFree : Nat := Nat.find (exists_free distinct taken)

theorem firstFree_free : candidate (firstFree distinct taken) ∉ taken :=
  Nat.find_spec (exists_free distinct taken)

end Search

def suffixed (name : String) (attempt : Nat) : String := s!"{name}_{attempt + 2}"

private theorem suffixed_injective (name : String) : Function.Injective (suffixed name) := by
  intro first second same
  have digits : Nat.toDigits 10 (first + 2) = Nat.toDigits 10 (second + 2) := by
    simpa [suffixed] using congrArg String.toList same
  have numbers := congrArg (Nat.ofDigitChars 10 · 0) digits
  simpa [Nat.ofDigitChars_ten_toDigits] using numbers

def fieldNamesFrom (reserved emitted : List String) : List String → List String
  | [] => []
  | column :: columns =>
    if column ∈ emitted then
      let name := suffixed column (firstFree (suffixed_injective column) (reserved ++ emitted))
      name :: fieldNamesFrom (name :: reserved) (name :: emitted) columns
    else column :: fieldNamesFrom reserved (column :: emitted) columns

def jsonFieldNames (columns : List String) : List String := fieldNamesFrom columns [] columns

/-- What is emitted of all the columns are those already seen. -/
private theorem fieldNamesFrom_spec {all seen columns reserved emitted : List String}
    (covers : all ⊆ reserved) (within : columns ⊆ all)
    (known : ∀ column ∈ all, column ∈ emitted ↔ column ∈ seen) :
    (fieldNamesFrom reserved emitted columns).length = columns.length ∧
    ((fieldNamesFrom reserved emitted columns).Nodup ∧
      ∀ name ∈ fieldNamesFrom reserved emitted columns, name ∉ emitted) ∧
    ∀ index column, columns[index]? = some column →
      ∃ name, (fieldNamesFrom reserved emitted columns)[index]? = some name ∧
        (column ∉ seen ++ columns.take index → name = column) ∧
        (column ∈ seen ++ columns.take index → name ∉ all) := by
  induction columns generalizing seen reserved emitted with
  | nil => simp [fieldNamesFrom]
  | cons column columns ih =>
    rw [fieldNamesFrom]
    split
    · rename_i repeated
      have free := firstFree_free (suffixed_injective column) (reserved ++ emitted)
      generalize suffixed column (firstFree (suffixed_injective column) (reserved ++ emitted)) =
        name at *
      obtain ⟨lengths, ⟨nodup, fresh⟩, each⟩ := @ih (seen ++ [column]) (name :: reserved)
        (name :: emitted) (by grind) (by grind) (by grind)
      refine ⟨by simp [lengths], ⟨by grind, by grind⟩, fun index other at_index => ?_⟩
      cases index with
      | zero => grind
      | succ index => simpa using each index other (by simpa using at_index)
    obtain ⟨lengths, ⟨nodup, fresh⟩, each⟩ := @ih (seen ++ [column]) reserved
      (column :: emitted) (by grind) (by grind) (by grind)
    refine ⟨by simp [lengths], ⟨by grind, by grind⟩, fun index other at_index => ?_⟩
    cases index with
    | zero => grind
    | succ index => simpa using each index other (by simpa using at_index)

/-- **JSON field names are unique**, the first column of a name keeps it, and the names made for
the others are no column's. -/
theorem json_field_names_unique (columns : List String) :
    (jsonFieldNames columns).length = columns.length ∧ (jsonFieldNames columns).Nodup ∧
    ∀ index column, columns[index]? = some column →
      ∃ name, (jsonFieldNames columns)[index]? = some name ∧
        (column ∉ columns.take index → name = column) ∧
        (column ∈ columns.take index → name ∉ columns) := by
  have spec := @fieldNamesFrom_spec columns [] columns columns [] (Subset.refl _) (Subset.refl _)
    (by simp)
  exact ⟨spec.1, spec.2.1.1, by simpa [jsonFieldNames] using spec.2.2⟩

end Bookie.Export
