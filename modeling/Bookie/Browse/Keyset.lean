/-
Keyset predicates (the core crate's `pagination`): a page behind or in front of a row
whose key is known. The clause is the tree its text spells, with numbered
placeholders and the values bound to them.
-/

import Bookie.Core.Driver

namespace Bookie.Browse

open Bookie.Core List Bool

/-- What the development asks of an engine: how it orders the values of a column. -/
structure Engine where
  less : String → Value → Value → Bool
  less_asymm : ∀ column first second, less column first second = true →
    less column second first = false
  less_between : ∀ column first second other, less column first second = true →
    less column first other = true ∨ less column other second = true

/-- Neither value comes before the other: the engine's `=`. -/
def Engine.same (engine : Engine) (column : String) (first second : Value) : Bool :=
  !engine.less column first second && !engine.less column second first

theorem Engine.same_symm (engine : Engine) (column : String) (first second : Value) :
    engine.same column first second = engine.same column second first := by
  unfold same
  rw [Bool.and_comm]

open Engine

def precedes (engine : Engine) : List String → (String → Value) → (String → Value) → Bool
  | [], _, _ => false
  | column :: rest, first, second =>
    engine.less column (first column) (second column) ||
      (engine.same column (first column) (second column) && precedes engine rest first second)

theorem precedes_asymm (engine : Engine) (columns : List String) (first second : String → Value)
    (before : precedes engine columns first second = true) :
    precedes engine columns second first = false := by
  induction columns with
  | nil => rfl
  | cons column rest ih =>
    simp only [precedes, or_eq_true, and_eq_true] at before
    simp only [precedes, or_eq_false_iff]
    rcases before with less | ⟨equal, later⟩
    · have notBack := engine.less_asymm _ _ _ less
      refine ⟨notBack, ?_⟩
      rw [same, less, Bool.not_true, Bool.and_false, Bool.false_and]
    rw [ih later, Bool.and_false]
    refine ⟨?_, rfl⟩
    rw [same, and_eq_true, not_eq_true', not_eq_true'] at equal
    exact equal.2

/-- A key between two others is behind the first or in front of the second. -/
theorem precedes_between (engine : Engine) (columns : List String)
    (first second other : String → Value) (before : precedes engine columns first second = true) :
    precedes engine columns first other = true ∨ precedes engine columns other second = true := by
  induction columns with
  | nil => cases before
  | cons column rest ih =>
    simp only [precedes, or_eq_true, and_eq_true] at before ⊢
    rcases before with less | ⟨equal, later⟩
    · rcases engine.less_between _ _ _ (other column) less with left | right
      · exact .inl (.inl left)
      · exact .inr (.inl right)
    rw [same, and_eq_true, not_eq_true', not_eq_true'] at equal
    obtain ⟨notLess, notMore⟩ := equal
    -- Where `other` differs in this column it is decided here, and by the same side.
    cases firstOther : engine.less column (first column) (other column) with
    | true => exact .inl (.inl rfl)
    | false =>
    cases otherSecond : engine.less column (other column) (second column) with
    | true => exact .inr (.inl rfl)
    | false =>
    cases otherFirst : engine.less column (other column) (first column) with
    | true =>
      rcases engine.less_between _ _ _ (second column) otherFirst with left | right
      · rw [otherSecond] at left; cases left
      · rw [notMore] at right; cases right
    | false =>
    cases secondOther : engine.less column (second column) (other column) with
    | true =>
      rcases engine.less_between _ _ _ (first column) secondOther with left | right
      · rw [notMore] at left; cases left
      · rw [firstOther] at right; cases right
    | false =>
    rcases ih later with left | right
    · refine .inl (.inr ⟨?_, left⟩)
      rw [same, firstOther, otherFirst]; rfl
    · refine .inr (.inr ⟨?_, right⟩)
      rw [same, otherSecond, secondOther]; rfl

inductive Comparison where
  | greater
  | less
  deriving DecidableEq, Repr

/-- One conjunct of an arm; a placeholder is the place of its value among the parameters. -/
inductive Part where
  | isNull (column : String)
  | isNotNull (column : String)
  | equals (column : String) (placeholder : Nat)
  | compares (column : String) (comparison : Comparison) (placeholder : Nat)
  | comparesOrNull (column : String) (comparison : Comparison) (placeholder : Nat)
  deriving DecidableEq, Repr

inductive Clause where
  | rowValues (columns : List String) (comparison : Comparison) (placeholders : List Nat)
  | anyOf (arms : List (List Part))
  deriving DecidableEq, Repr

inductive KeysetError where
  | emptyKeys
  | lengthMismatch (columns values : Nat)
  | allNullKeys
  deriving DecidableEq, Repr

def KeysetError.text : KeysetError → String
  | .emptyKeys => "keyset pagination requires at least one primary-key column"
  | .lengthMismatch columns values =>
    s!"pk column count {columns} does not match value count {values}"
  | .allNullKeys => "all primary-key values are NULL; cannot build a keyset seek"

/-- The conjuncts for the columns in front of an arm's own: the parts, the next placeholder
and the values bound. -/
def equalParts : List (String × Value) → Nat → List Part × Nat × List Value
  | [], next => ([], next, [])
  | (column, value) :: rest, next =>
    if isNull value then
      let (parts, last, params) := equalParts rest next
      (.isNull column :: parts, last, params)
    else
      let (parts, last, params) := equalParts rest (next + 1)
      (.equals column next :: parts, last, value :: params)

def orArms (driverId : String) (comparison : Comparison) (seen : List (String × Value)) :
    List (String × Value) → Nat → List (List Part) × List Value
  | [], _ => ([], [])
  | (column, value) :: rest, next =>
    let nullsSortFirst := driverId == "sqlite"
    if isNull value && !(nullsSortFirst && comparison == .greater) then
      orArms driverId comparison (seen ++ [(column, value)]) rest next
    else
      let (parts, last, params) := equalParts seen next
      if isNull value then
        let (arms, more) := orArms driverId comparison (seen ++ [(column, value)]) rest last
        ((parts ++ [.isNotNull column]) :: arms, params ++ more)
      else
        let own := if nullsSortFirst && comparison == .less then
            .comparesOrNull column comparison last
          else .compares column comparison last
        let (arms, more) := orArms driverId comparison (seen ++ [(column, value)]) rest (last + 1)
        ((parts ++ [own]) :: arms, params ++ value :: more)

variable (driverId : String)

def keysetWhereComparison (pkColumns : List String) (boundaryValues : List Value)
    (placeholderStart : Nat) (comparison : Comparison) : Except KeysetError (Clause × List Value) :=
  if pkColumns.isEmpty then .error .emptyKeys
  else if pkColumns.length != boundaryValues.length then
    .error (.lengthMismatch pkColumns.length boundaryValues.length)
  else if driverId == "postgres" && decide (1 < pkColumns.length) &&
      boundaryValues.all (fun value => !isNull value) then
    .ok (.rowValues pkColumns comparison
      (range' placeholderStart boundaryValues.length), boundaryValues)
  else
    let (arms, params) := orArms driverId comparison [] (pkColumns.zip boundaryValues)
      placeholderStart
    if arms.isEmpty then .error .allNullKeys else .ok (.anyOf arms, params)

def keysetWhereClause (pkColumns : List String) (lastValues : List Value) (placeholderStart : Nat) :
    Except KeysetError (Clause × List Value) :=
  keysetWhereComparison driverId pkColumns lastValues placeholderStart .greater

def keysetBeforeWhereClause (pkColumns : List String) (firstValues : List Value)
    (placeholderStart : Nat) : Except KeysetError (Clause × List Value) :=
  keysetWhereComparison driverId pkColumns firstValues placeholderStart .less

/-- A comparison with NULL is unknown, which keeps no row: the clause has no negation. -/
def Engine.beyond (engine : Engine) (column : String) (comparison : Comparison)
    (cell bound : Value) : Bool :=
  !isNull cell && !isNull bound &&
    match comparison with
    | .greater => engine.less column bound cell
    | .less => engine.less column cell bound

def Engine.equal (engine : Engine) (column : String) (cell bound : Value) : Bool :=
  !isNull cell && !isNull bound && engine.same column cell bound

def bound (params : List Value) (placeholder : Nat) : Value := params.getD placeholder .null

def Part.holds (engine : Engine) (params : List Value) (cells : String → Value) : Part → Bool
  | .isNull column => Core.isNull (cells column)
  | .isNotNull column => !Core.isNull (cells column)
  | .equals column placeholder => engine.equal column (cells column) (bound params placeholder)
  | .compares column comparison placeholder =>
    engine.beyond column comparison (cells column) (bound params placeholder)
  | .comparesOrNull column comparison placeholder =>
    engine.beyond column comparison (cells column) (bound params placeholder) ||
      Core.isNull (cells column)

def rowBeyond (engine : Engine) (comparison : Comparison) (cells : String → Value) :
    List (String × Value) → Bool
  | [] => false
  | (column, value) :: rest =>
    engine.beyond column comparison (cells column) value ||
      (engine.equal column (cells column) value && rowBeyond engine comparison cells rest)

def Clause.holds (engine : Engine) (params : List Value) (cells : String → Value) : Clause → Bool
  | .rowValues columns comparison placeholders =>
    rowBeyond engine comparison cells (columns.zip (placeholders.map (bound params)))
  | .anyOf arms => arms.any (fun arm => arm.all (Part.holds engine params cells))

/-- The values stand among the parameters from place `start` on. -/
def Placed (params : List Value) (start : Nat) (values : List Value) : Prop :=
  ∃ front back, params = front ++ values ++ back ∧ front.length = start

variable {params : List Value} {start : Nat}

theorem Placed.here {value : Value} {rest : List Value}
    (placed : Placed params start (value :: rest)) : bound params start = value := by
  obtain ⟨front, back, shape, count⟩ := placed
  subst shape
  subst count
  unfold bound
  rw [append_assoc, getD_eq_getElem?_getD, getElem?_append_right (Nat.le_refl _), Nat.sub_self]
  rfl

theorem Placed.left {first second : List Value} (placed : Placed params start (first ++ second)) :
    Placed params start first := by
  obtain ⟨front, back, shape, count⟩ := placed
  refine ⟨front, second ++ back, ?_, count⟩
  rw [shape, append_assoc, append_assoc, append_assoc]

theorem Placed.right {params : List Value} {start : Nat} {first second : List Value}
    (placed : Placed params start (first ++ second)) :
    Placed params (start + first.length) second := by
  obtain ⟨front, back, shape, count⟩ := placed
  refine ⟨front ++ first, back, ?_, ?_⟩
  · rw [shape, append_assoc, append_assoc, append_assoc, append_assoc]
  · rw [length_append, count]

theorem Placed.tail {value : Value} {rest : List Value}
    (placed : Placed params start (value :: rest)) : Placed params (start + 1) rest :=
  @Placed.right params start [value] rest placed

theorem placed_values :
    ∀ (values : List Value) {start : Nat}, Placed params start values →
      (range' start values.length).map (bound params) = values
  | [], _, _ => rfl
  | value :: rest, start, placed => by
      rw [length_cons, range'_succ, map_cons, placed.here, placed_values rest placed.tail]

/-! ### The clause keeps the rows beyond the boundary -/

/-- The engine's order with NULL in front of every value. -/
def Engine.nullsFirst (engine : Engine) : Engine where
  less column first second :=
    if isNull first then !isNull second else !isNull second && engine.less column first second
  less_asymm := by
    intro column first second ahead
    cases one : isNull first <;> cases two : isNull second <;>
      simp_all [engine.less_asymm column first second]
  less_between := by
    intro column first second other ahead
    cases one : isNull first <;> cases two : isNull second <;> cases three : isNull other <;>
      simp_all [engine.less_between column first second other]

def Engine.past (engine : Engine) (column : String) (comparison : Comparison)
    (cell bound : Value) : Bool :=
  match comparison with
  | .greater => engine.less column bound cell
  | .less => engine.less column cell bound

def pairsBeyond (engine : Engine) (comparison : Comparison) (cells : String → Value) :
    List (String × Value) → Bool
  | [] => false
  | (column, value) :: rest =>
    engine.past column comparison (cells column) value ||
      (engine.same column (cells column) value && pairsBeyond engine comparison cells rest)

/-- Keys may hold NULL on SQLite only. -/
def Sortable (cells : String → Value) (pairs : List (String × Value)) : Prop :=
  driverId = "sqlite" ∨ ∀ pair ∈ pairs, isNull pair.2 = false ∧ isNull (cells pair.1) = false

section Boundary

variable {engine : Engine} {params : List Value} {cells : String → Value} {driverId : String}

private theorem Sortable.tail {pair : String × Value} {rest : List (String × Value)}
    (sortable : Sortable driverId cells (pair :: rest)) : Sortable driverId cells rest :=
  sortable.imp_right (fun solid other member => solid other (mem_cons_of_mem _ member))

/-- `IS NULL` and `=` both ask for a tie with the boundary. -/
theorem equalParts_tied (seen : List (String × Value)) (next : Nat)
    (placed : Placed params next (equalParts seen next).2.2) :
    (equalParts seen next).1.all (Part.holds engine params cells) =
        seen.all (fun pair => engine.nullsFirst.same pair.1 (cells pair.1) pair.2) ∧
      (equalParts seen next).2.1 = next + (equalParts seen next).2.2.length := by
  induction seen generalizing next with
  | nil => exact ⟨rfl, rfl⟩
  | cons pair rest ih =>
    obtain ⟨column, value⟩ := pair
    cases own : isNull value with
    | true =>
      simp only [equalParts, own, if_true] at placed ⊢
      obtain ⟨parts, count⟩ := ih next placed
      refine ⟨?_, count⟩
      rw [all_cons, all_cons, parts, Part.holds]
      simp [same, nullsFirst, own]
    | false =>
    simp only [equalParts, own, false_eq_true, if_false] at placed ⊢
    obtain ⟨parts, count⟩ := ih (next + 1) placed.tail
    constructor
    · rw [all_cons, all_cons, parts, Part.holds, placed.here]
      cases here : isNull (cells column) <;>
        simp [equal, same, nullsFirst, own, here]
    · rw [count, length_cons, Nat.add_assoc, Nat.add_comm 1]

variable {comparison : Comparison} {column : String} {value : Value}

private theorem own_part_past {placeholder : Nat} (solid : isNull value = false)
    (sortable : driverId = "sqlite" ∨ isNull (cells column) = false)
    (placed : bound params placeholder = value) :
    Part.holds engine params cells
        (if driverId == "sqlite" && comparison == .less then
            .comparesOrNull column comparison placeholder
          else .compares column comparison placeholder) =
      engine.nullsFirst.past column comparison (cells column) value := by
  rcases sortable with rfl | present
  · cases comparison with
    | greater | less =>
      cases here : isNull (cells column) <;>
        simp [Part.holds, placed, beyond, past, nullsFirst, solid, here]
  · split <;> cases comparison <;>
      simp [Part.holds, placed, beyond, past, nullsFirst, solid, present]

section

variable (seen : List (String × Value))
include seen

variable (rest : List (String × Value))
include rest

theorem orArms_cons (next : Nat) (solid : isNull value = false) :
    orArms driverId comparison seen ((column, value) :: rest) next =
      (((equalParts seen next).1 ++
          [if driverId == "sqlite" && comparison == .less then
              .comparesOrNull column comparison (equalParts seen next).2.1
            else .compares column comparison (equalParts seen next).2.1]) ::
        (orArms driverId comparison (seen ++ [(column, value)]) rest
          ((equalParts seen next).2.1 + 1)).1,
        (equalParts seen next).2.2 ++ value ::
          (orArms driverId comparison (seen ++ [(column, value)]) rest
            ((equalParts seen next).2.1 + 1)).2) := by
  rw [orArms]
  simp [solid]

private theorem orArms_skip (next : Nat) (absent : isNull value = true)
    (skipped : (driverId == "sqlite" && comparison == .greater) = false) :
    orArms driverId comparison seen ((column, value) :: rest) next =
      orArms driverId comparison (seen ++ [(column, value)]) rest next := by
  rw [orArms]
  simp [absent, skipped]

theorem orArms_null (next : Nat) (absent : isNull value = true)
    (sought : (driverId == "sqlite" && comparison == .greater) = true) :
    orArms driverId comparison seen ((column, value) :: rest) next =
      (((equalParts seen next).1 ++ [.isNotNull column]) ::
        (orArms driverId comparison (seen ++ [(column, value)]) rest (equalParts seen next).2.1).1,
        (equalParts seen next).2.2 ++
          (orArms driverId comparison (seen ++ [(column, value)]) rest
            (equalParts seen next).2.1).2) := by
  rw [orArms]
  simp [absent, sought]

end

/-- Behind a prefix tied with the boundary, some arm holds exactly when the row is beyond the
rest of it. NULL components of the boundary bind nothing: in front of NULL there is no row, and
behind it is every row with a value. -/
private theorem orArms_beyond (comparison : Comparison) (rest seen : List (String × Value))
    (next : Nat) (sortable : Sortable driverId cells rest)
    (placed : Placed params next (orArms driverId comparison seen rest next).2) :
    (orArms driverId comparison seen rest next).1.any
        (fun arm => arm.all (Part.holds engine params cells)) =
      (seen.all (fun pair => engine.nullsFirst.same pair.1 (cells pair.1) pair.2) &&
        pairsBeyond engine.nullsFirst comparison cells rest) := by
  induction rest generalizing seen next with
  | nil =>
    rw [pairsBeyond, Bool.and_false]
    rfl
  | cons pair rest ih =>
    obtain ⟨column, value⟩ := pair
    have extended : (seen ++ [(column, value)]).all
        (fun pair => engine.nullsFirst.same pair.1 (cells pair.1) pair.2) =
      (seen.all (fun pair => engine.nullsFirst.same pair.1 (cells pair.1) pair.2) &&
        engine.nullsFirst.same column (cells column) value) := by
      rw [all_append, all_cons, all_nil, Bool.and_true]
    cases own : isNull value with
    | true =>
      have lite : driverId = "sqlite" := by
        rcases sortable with lite | solid
        · exact lite
        · have present := (solid (column, value) mem_cons_self).1
          rw [own] at present
          cases present
      cases comparison with
      | less =>
        rw [orArms_skip seen rest next own (and_false _)] at placed ⊢
        have none_ : engine.nullsFirst.past column .less (cells column) value = false := by
          simp [past, nullsFirst, own]
        rw [ih _ next sortable.tail placed, extended, pairsBeyond, none_,
          Bool.false_or, Bool.and_assoc]
      | greater =>
      have sought : (driverId == "sqlite" && Comparison.greater == .greater) = true := by
        rw [lite]
        rfl
      rw [orArms_null seen rest next own sought] at placed ⊢
      obtain ⟨parts, count⟩ := @equalParts_tied engine params cells seen next placed.left
      have behind := placed.right
      rw [← count] at behind
      have past : (!isNull (cells column)) =
          engine.nullsFirst.past column .greater (cells column) value := by
        simp [past, nullsFirst, own]
      rw [any_cons, ih _ _ sortable.tail behind, extended, pairsBeyond,
        all_append, parts, all_cons, all_nil, Bool.and_true, Part.holds,
        past, Bool.and_assoc, ← Bool.and_or_distrib_left]
    | false =>
      have here : driverId = "sqlite" ∨ isNull (cells column) = false :=
        sortable.imp_right (fun solid => (solid (column, value) mem_cons_self).2)
      rw [orArms_cons seen rest next own] at placed ⊢
      obtain ⟨parts, count⟩ := @equalParts_tied engine params cells seen next placed.left
      have behind := placed.right
      rw [← count] at behind
      rw [any_cons, ih _ _ sortable.tail behind.tail, extended, pairsBeyond,
        all_append, parts, all_cons, all_nil, Bool.and_true,
        own_part_past own here behind.here, Bool.and_assoc, ← Bool.and_or_distrib_left]

private theorem rowBeyond_solid (comparison : Comparison) (pairs : List (String × Value))
    (solid : ∀ pair ∈ pairs, isNull pair.2 = false ∧ isNull (cells pair.1) = false) :
    rowBeyond engine comparison cells pairs =
      pairsBeyond engine.nullsFirst comparison cells pairs := by
  induction pairs with
  | nil => rfl
  | cons pair rest ih =>
    obtain ⟨column, value⟩ := pair
    obtain ⟨own, here⟩ := solid (column, value) mem_cons_self
    rw [rowBeyond, pairsBeyond, ih (fun pair member => solid pair (mem_cons_of_mem _ member))]
    cases comparison <;>
      simp [beyond, equal, past, same, nullsFirst, own, here]

variable {boundary values : List Value}

theorem keysetWhereComparison_ok {columns : List String} {start : Nat} {clause : Clause}
    (built : keysetWhereComparison driverId columns boundary start comparison = .ok (clause,
      values)) :
    columns.length = boundary.length ∧
      ((driverId = "postgres" ∧ (∀ value ∈ boundary, isNull value = false) ∧
          clause = .rowValues columns comparison (range' start boundary.length) ∧
          values = boundary) ∨
        (clause = .anyOf (orArms driverId comparison [] (columns.zip boundary) start).1 ∧
          values = (orArms driverId comparison [] (columns.zip boundary) start).2)) := by
  unfold keysetWhereComparison at built
  split at built
  case isTrue => cases built
  case isFalse =>
    split at built
    case isTrue => cases built
    case isFalse lengths =>
      have same : columns.length = boundary.length := by simpa using lengths
      refine ⟨same, ?_⟩
      split at built
      case isTrue rowForm =>
        rw [and_eq_true, and_eq_true] at rowForm
        obtain ⟨⟨driver, _⟩, solid⟩ := rowForm
        cases built
        exact .inl ⟨eq_of_beq driver, by simpa using solid, rfl, rfl⟩
      case isFalse =>
        simp only at built
        split at built
        case isTrue => cases built
        case isFalse =>
          cases built
          exact .inr ⟨rfl, rfl⟩

/-- The clause keeps the rows beyond the boundary, where NULL sorts first. -/
theorem built_beyond {columns : List String} {start : Nat} {clause : Clause}
    (built : keysetWhereComparison driverId columns boundary start comparison = .ok (clause,
      values)) (sortable : Sortable driverId cells (columns.zip boundary))
    (placed : Placed params start values) :
    clause.holds engine params cells =
      pairsBeyond engine.nullsFirst comparison cells (columns.zip boundary) := by
  obtain ⟨lengths, form⟩ := keysetWhereComparison_ok built
  rcases form with ⟨rfl, _, rfl, rfl⟩ | ⟨rfl, rfl⟩
  · rw [Clause.holds, placed_values _ placed]
    apply rowBeyond_solid
    rcases sortable with impossible | solid
    · exact absurd impossible (by decide)
    · exact solid
  · rw [Clause.holds, orArms_beyond comparison _ [] start sortable placed]
    rfl

/-- The key `cells` is beyond the key `boundary`, in the direction of the comparison. -/
def keyBeyond (engine : Engine) (comparison : Comparison) (columns : List String)
    (boundary cells : String → Value) : Bool :=
  match comparison with
  | .greater => precedes engine columns boundary cells
  | .less => precedes engine columns cells boundary

private theorem pairsBeyond_boundary (comparison : Comparison) (boundary : String → Value)
    (columns : List String) (solid : ∀ column ∈ columns, isNull (boundary column) = false)
    (present : ∀ column ∈ columns, isNull (cells column) = false) :
    pairsBeyond engine.nullsFirst comparison cells (columns.zip (columns.map boundary)) =
      keyBeyond engine comparison columns boundary cells := by
  induction columns with
  | nil => cases comparison <;> rfl
  | cons column rest ih =>
    have later := ih (fun other member => solid other (mem_cons_of_mem _ member))
      (fun other member => present other (mem_cons_of_mem _ member))
    have own := solid column mem_cons_self
    have here := present column mem_cons_self
    rw [map_cons, zip_cons_cons, pairsBeyond, later]
    cases comparison with
    | greater =>
      rw [same_symm]
      simp [past, same, nullsFirst, own, here, keyBeyond, precedes]
    | less => simp [past, same, nullsFirst, own, here, keyBeyond, precedes]

/-- For a key without nulls the clause is built, and keeps exactly the rows beyond that key. -/
theorem keysetWhereComparison_keeps (driverId : String) (comparison : Comparison)
    (columns : List String) (boundary : String → Value) (start : Nat) (keyed : columns ≠ [])
    (solid : ∀ column ∈ columns, isNull (boundary column) = false) :
    ∃ clause values,
      keysetWhereComparison driverId columns (columns.map boundary) start comparison =
        .ok (clause, values) ∧
      ∀ (engine : Engine) (params : List Value) (cells : String → Value),
        (∀ column ∈ columns, isNull (cells column) = false) → Placed params start values →
        clause.holds engine params cells = keyBeyond engine comparison columns boundary cells := by
  obtain ⟨clause, values, built⟩ : ∃ clause values, keysetWhereComparison driverId columns
      (columns.map boundary) start comparison = .ok (clause, values) := by
    obtain ⟨column, rest, rfl⟩ := exists_cons_of_ne_nil keyed
    unfold keysetWhereComparison
    rw [length_map, bne_self_eq_false]
    simp only [isEmpty_cons, false_eq_true, if_false]
    split
    · exact ⟨_, _, rfl⟩
    · rw [map_cons, zip_cons_cons, orArms_cons _ _ _ (solid column mem_cons_self)]
      exact ⟨_, _, rfl⟩
  refine ⟨clause, values, built, fun engine params cells present placed => ?_⟩
  rw [built_beyond built (.inr fun pair member => ?_) placed,
    pairsBeyond_boundary comparison boundary columns solid present]
  obtain ⟨name, value⟩ := of_mem_zip member
  obtain ⟨column, inside, same⟩ := mem_map.mp value
  exact ⟨same ▸ solid column inside, present pair.1 name⟩

end Boundary

end Bookie.Browse
