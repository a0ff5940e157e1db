/-
Keyset clauses in three-valued logic, and the order they stand for. SQLite puts NULL in
front of every value; there a key may hold NULL, in a row and in the boundary. PostgreSQL
compares whole rows instead, which comes to the same as the arms.
-/

import Bookie.Browse.Keyset
import Bookie.Logic.Truth

namespace Bookie.Browse

open Bookie.Core Bookie.Logic List

def Engine.compared (engine : Engine) (column : String) (comparison : Comparison)
    (cell bound : Value) : Truth :=
  if isNull cell || isNull bound then .unknown
  else match comparison with
    | .greater => .ofBool (engine.less column bound cell)
    | .less => .ofBool (engine.less column cell bound)

def Engine.equated (engine : Engine) (column : String) (cell bound : Value) : Truth :=
  if isNull cell || isNull bound then .unknown else .ofBool (engine.same column cell bound)

def Part.truth (engine : Engine) (params : List Value) (cells : String → Value) : Part → Truth
  | .isNull column => .ofBool (Core.isNull (cells column))
  | .isNotNull column => .ofBool (!Core.isNull (cells column))
  | .equals column placeholder => engine.equated column (cells column) (bound params placeholder)
  | .compares column comparison placeholder =>
    engine.compared column comparison (cells column) (bound params placeholder)
  | .comparesOrNull column comparison placeholder =>
    (engine.compared column comparison (cells column) (bound params placeholder)).or
      (.ofBool (Core.isNull (cells column)))

/-- Row values are compared from the left up to the first pair that differs or holds NULL. -/
def rowCompared (engine : Engine) (comparison : Comparison) (cells : String → Value) :
    List (String × Value) → Truth
  | [] => .no
  | (column, value) :: rest =>
    match engine.equated column (cells column) value with
    | .unknown => .unknown
    | .yes => rowCompared engine comparison cells rest
    | .no => engine.compared column comparison (cells column) value

def Clause.truth (engine : Engine) (params : List Value) (cells : String → Value) : Clause → Truth
  | .rowValues columns comparison placeholders =>
    rowCompared engine comparison cells (columns.zip (placeholders.map (bound params)))
  | .anyOf arms =>
    Truth.anyOf (arms.map (fun arm => Truth.allOf (arm.map (Part.truth engine params cells))))

section

variable {engine : Engine} {params : List Value} {cells : String → Value} (column : String)
  (comparison : Comparison) (cell bound : Value)

private theorem compared_kept :
    (engine.compared column comparison cell bound).kept =
      engine.beyond column comparison cell bound := by
  unfold Engine.compared Engine.beyond
  cases isNull cell with
  | true => rfl
  | false =>
    cases isNull bound with
    | true => rfl
    | false => cases comparison <;> exact Truth.kept_ofBool _

private theorem equated_kept :
    (engine.equated column cell bound).kept = engine.equal column cell bound := by
  unfold Engine.equated Engine.equal
  cases isNull cell with
  | true => rfl
  | false =>
    cases isNull bound with
    | true => rfl
    | false => exact Truth.kept_ofBool _

private theorem Part.truth_kept (part : Part) :
    (part.truth engine params cells).kept = part.holds engine params cells := by
  cases part with
  | isNull | isNotNull => exact Truth.kept_ofBool _
  | equals column placeholder => exact equated_kept ..
  | compares column comparison placeholder => exact compared_kept ..
  | comparesOrNull column comparison placeholder =>
    rw [Part.truth, Truth.kept_or, compared_kept, Truth.kept_ofBool, Part.holds]

/-- A pair that is unknown when equated is unknown when compared; equal values are not beyond
each other. -/
private theorem compared_of_equated :
    (engine.equated column cell bound = .unknown →
        engine.compared column comparison cell bound = .unknown) ∧
      (engine.equated column cell bound = .yes →
        engine.compared column comparison cell bound = .no) := by
  unfold Engine.equated Engine.compared
  by_cases absent : (isNull cell || isNull bound) = true
  · rw [if_pos absent, if_pos absent]
    exact ⟨fun _ => rfl, fun impossible => by cases impossible⟩
  rw [if_neg absent, if_neg absent]
  unfold Engine.same
  constructor
  · intro impossible
    exact absurd impossible (Truth.ofBool_ne_unknown _)
  intro equal
  cases comparison with
  | greater =>
    cases behind : engine.less column bound cell with
    | false => rfl
    | true =>
      rw [behind, Bool.not_true, Bool.and_false] at equal
      cases equal
  | less =>
  cases ahead : engine.less column cell bound with
  | false => rfl
  | true =>
    rw [ahead] at equal
    cases equal

private theorem rowCompared_cons (column : String) (value : Value) (rest : List (String × Value)) :
    rowCompared engine comparison cells ((column, value) :: rest) =
      (engine.compared column comparison (cells column) value).or
        ((engine.equated column (cells column) value).and
          (rowCompared engine comparison cells rest)) := by
  obtain ⟨whenUnknown, whenEqual⟩ :=
    @compared_of_equated engine column comparison (cells column) value
  rw [rowCompared]
  cases known : engine.equated column (cells column) value with
  | unknown =>
    rw [whenUnknown known]
    cases rowCompared engine comparison cells rest <;> rfl
  | yes =>
    rw [whenEqual known]
    cases rowCompared engine comparison cells rest <;> rfl
  | no => cases engine.compared column comparison (cells column) value <;> rfl

private theorem rowCompared_kept (pairs : List (String × Value)) :
    (rowCompared engine comparison cells pairs).kept = rowBeyond engine comparison cells pairs := by
  induction pairs with
  | nil => rfl
  | cons pair rest ih =>
    rw [rowCompared_cons, Truth.kept_or, Truth.kept_and, compared_kept, equated_kept, ih, rowBeyond]

/-- A row is kept where the clause is true: the two readings of a clause agree. -/
theorem Clause.truth_kept (clause : Clause) :
    (clause.truth engine params cells).kept = clause.holds engine params cells := by
  cases clause with
  | rowValues columns comparison placeholders => exact rowCompared_kept comparison _
  | anyOf arms =>
  rw [Clause.truth, Truth.kept_anyOf]
  congr 1
  funext arm
  rw [Truth.kept_allOf]
  congr 1
  funext part
  exact Part.truth_kept part

private theorem equalParts_truth (seen : List (String × Value)) (next : Nat)
    (solid : ∀ pair ∈ seen, isNull pair.2 = false)
    (placed : Placed params next (equalParts seen next).2.2) :
    Truth.allOf ((equalParts seen next).1.map (Part.truth engine params cells)) =
      Truth.allOf (seen.map (fun pair => engine.equated pair.1 (cells pair.1) pair.2)) := by
  induction seen generalizing next with
  | nil => rfl
  | cons pair rest ih =>
    obtain ⟨column, value⟩ := pair
    have own : isNull value = false := solid (column, value) mem_cons_self
    simp only [equalParts, own, Bool.false_eq_true, if_false] at placed ⊢
    rw [map_cons, Truth.allOf_cons, Part.truth, placed.here,
      ih (next + 1) (fun pair member => solid pair (mem_cons_of_mem _ member)) placed.tail,
      map_cons, Truth.allOf_cons]

/-- Where no NULL sorts first, the arms of a boundary without NULL are the row comparison. -/
theorem orArms_truth (driverId : String) (comparison : Comparison)
    (plain : (driverId == "sqlite" && comparison == .less) = false)
    (rest seen : List (String × Value)) (next : Nat)
    (solid : ∀ pair ∈ seen ++ rest, isNull pair.2 = false)
    (placed : Placed params next (orArms driverId comparison seen rest next).2) :
    Truth.anyOf ((orArms driverId comparison seen rest next).1.map
        (fun arm => Truth.allOf (arm.map (Part.truth engine params cells)))) =
      (Truth.allOf (seen.map (fun pair => engine.equated pair.1 (cells pair.1) pair.2))).and
        (rowCompared engine comparison cells rest) := by
  induction rest generalizing seen next with
  | nil => rw [rowCompared, Truth.and_no, orArms, map_nil, Truth.anyOf_nil]
  | cons pair rest ih =>
    obtain ⟨column, value⟩ := pair
    have own : isNull value = false :=
      solid (column, value) (mem_append_right _ mem_cons_self)
    have front : ∀ pair ∈ seen, isNull pair.2 = false :=
      fun pair member => solid pair (mem_append_left _ member)
    rw [orArms_cons seen rest next own, plain] at placed ⊢
    have count := (@equalParts_tied engine params cells seen next placed.left).2
    have behind := placed.right
    rw [← count] at behind
    have later := ih (seen ++ [(column, value)]) ((equalParts seen next).2.1 + 1) (by
        intro pair member
        rw [append_assoc] at member
        exact solid pair member) behind.tail
    rw [map_cons, Truth.anyOf_cons, later, map_append, Truth.allOf_append,
      equalParts_truth seen next front placed.left, rowCompared_cons, Truth.and_or]
    rw [map_append, Truth.allOf_append, Truth.and_assoc]
    simp [Part.truth, behind.here]

end

end Bookie.Browse
