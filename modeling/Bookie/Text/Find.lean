/-
Searching for one list inside another.
-/

import Mathlib.Data.List.Basic
import Mathlib.Data.List.Infix

namespace Bookie.Text

variable {α : Type} [BEq α] [LawfulBEq α]

def find (needle : List α) : List α → Option Nat
  | [] => if needle.isEmpty then some 0 else none
  | a :: text => if needle.isPrefixOf (a :: text) then some 0 else (find needle text).map (· + 1)

/-- What is found is there. -/
theorem find_some {needle text : List α} {offset : Nat} (found : find needle text = some offset) :
    ∃ before after, text = before ++ (needle ++ after) ∧ before.length = offset := by
  induction text generalizing offset with
  | nil =>
    cases needle with
    | nil =>
      cases found
      exact ⟨[], [], rfl, rfl⟩
    | cons a needle => cases found
  | cons a text ih =>
    rw [find] at found
    split at found
    · rename_i starts
      cases found
      obtain ⟨after, same⟩ := List.isPrefixOf_iff_prefix.mp starts
      exact ⟨[], after, same.symm, rfl⟩
    · obtain ⟨before, foundBefore, rfl⟩ := Option.map_eq_some_iff.mp found
      obtain ⟨front, after, rfl, rfl⟩ := ih foundBefore
      exact ⟨a :: front, after, rfl, rfl⟩

end Bookie.Text
