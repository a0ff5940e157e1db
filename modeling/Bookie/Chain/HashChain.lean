/-
Hash chains over arbitrary hashes and payloads. A chain starts from a hash and
links one numbered payload at a time. If linking loses nothing on the inputs
that two runs actually use, the final hash determines every payload.
-/

import Mathlib.Data.List.Basic

namespace Bookie.Chain

variable {H P : Type} (link : Nat → H → P → H)

structure LinkInput (H P : Type) where
  index : Nat
  previous : H
  payload : P

def LinkInput.output (input : LinkInput H P) : H := link input.index input.previous input.payload

def chainHash : Nat → H → List P → H
  | _, hash, [] => hash
  | index, hash, payload :: rest =>
    chainHash (index + 1) (link (index + 1) hash payload) rest

def linkInputs : Nat → H → List P → List (LinkInput H P)
  | _, _, [] => []
  | index, hash, payload :: rest =>
    ⟨index + 1, hash, payload⟩ :: linkInputs (index + 1) (link (index + 1) hash payload) rest

/-- Relational induction along two chains of one length: the argument runs from
the common final hash back to the starts. -/
theorem payloads_eq_of_chainHash_eq (index : Nat) {left right : List P} {first second : H}
    (sameLength : left.length = right.length)
    (lossless : ∀ used ∈ linkInputs link index first left,
      ∀ other ∈ linkInputs link index second right,
        used.index = other.index → used.output link = other.output link →
          used.previous = other.previous ∧ used.payload = other.payload)
    (sameHash : chainHash link index first left = chainHash link index second right) :
    first = second ∧ left = right := by
  induction left generalizing index right first second with
  | nil =>
    have empty : right = [] := List.length_eq_zero_iff.mp (by simpa using sameLength.symm)
    subst empty
    exact ⟨sameHash, rfl⟩
  | cons payload left ih =>
    cases right with
    | nil => cases sameLength
    | cons other right =>
    have tails := ih (index + 1) (by simpa using sameLength)
      (fun used member used' member' => lossless used (List.mem_cons_of_mem _ member)
        used' (List.mem_cons_of_mem _ member')) sameHash
    have heads := lossless _ List.mem_cons_self _ List.mem_cons_self rfl tails.1
    exact ⟨heads.1, List.cons_eq_cons.mpr ⟨heads.2, tails.2⟩⟩

theorem previous_of_linkInputs (good : H → Prop) (linked : ∀ index hash payload,
    good (link index hash payload)) (index : Nat) {hash : H} (start : good hash)
    (payloads : List P) : ∀ input ∈ linkInputs link index hash payloads, good input.previous := by
  induction payloads generalizing index hash with
  | nil => simp [linkInputs]
  | cons payload payloads ih =>
    intro input member
    rcases List.mem_cons.mp member with here | later
    · rw [here]
      exact start
    · exact ih (index + 1) (linked _ _ _) input later

end Bookie.Chain
