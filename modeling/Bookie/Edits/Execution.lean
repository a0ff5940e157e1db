/-
What the materialized statements do to a table. The engine's comparisons and stored
forms are parameters; which rows a statement affects is as in SQL. The key is checked
after each statement.
-/

import Bookie.Edits.Materialize
import Bookie.Store.KeyedWrites

namespace Bookie.Edits

open Bookie.Core Store List

abbrev Row := List Value

/-- `equal` is the comparison of a key column, `exact` and `unchanged` are the predicates the
driver adds to it, `hasFields` is the test of a document's field names. -/
structure Engine where
  equal : TableColumn → Value → Value → Bool
  exact : TableColumn → Value → Value → Bool
  unchanged : TableColumn → Value → Value → Bool
  hasFields : List String → Row → Bool
  stored : TableColumn → Value → Value
  equal_refl : ∀ column value, isNull value = false → equal column value value = true

def cell (row : Row) (column : Nat) : Value := row.getD column .null

section Execution

variable (engine : Engine) (columns : List TableColumn)

/-- A column that the table does not have makes no condition true. -/
def Condition.holds (row : Row) : Condition → Bool
  | .key column value => (columns[column]?).elim false (fun info =>
    if isNull value then isNull (cell row column) else engine.equal info (cell row column) value)
  | .original column value => (columns[column]?).elim false (fun info =>
    engine.exact info (cell row column) value)
  | .unchanged column value => (columns[column]?).elim false (fun info =>
    engine.unchanged info (cell row column) value)
  | .fieldSet names => engine.hasFields names row

def meets (conditions : List Condition) (row : Row) : Bool :=
  conditions.all (Condition.holds engine columns row)

def storedAt (column : Nat) (value : Value) : Value :=
  (columns[column]?).elim value (fun info => engine.stored info value)

def assign (assignments : List (Nat × Value)) (row : Row) : Row :=
  assignments.foldl (fun row (column, value) =>
    row.set column (storedAt engine columns column value)) row

def keyOf (row : Row) : List Value := (collectPkIndexes columns).map (cell row)

/-- The key of one row selects another. -/
def SameKey (row other : Row) : Prop :=
  meets engine columns (keyedWhereClause (collectPkIndexes columns) (keyOf columns other)) row =
    true

def Statement.affects (row : Row) : Statement → Bool
  | .update _ conditions => meets engine columns conditions row
  | .delete conditions => meets engine columns conditions row
  | .insert _ => false

def Statement.effect (row : Row) : Statement → Option Row
  | .update assignments _ => some (assign engine columns assignments row)
  | .delete _ => none
  | .insert _ => some row

def Statement.toWrite (statement : Statement) (rowKey : RowKey) : Write RowKey Row where
  key := rowKey
  affects := fun row => statement.affects engine columns row
  effect := fun row => statement.effect engine columns row

/-- A new row has the inserted cells; what it has elsewhere is up to the engine. -/
inductive Executes : Statement → List (Tuple Row) → List (Tuple Row) → Prop
  | update (assignments : List (Nat × Value)) (conditions : List Condition)
      (before : List (Tuple Row)) :
      Executes (.update assignments conditions) before (before.map (fun tuple =>
        if meets engine columns conditions tuple.row then
          { tuple with row := assign engine columns assignments tuple.row }
        else tuple))
  | delete (conditions : List Condition) (before : List (Tuple Row)) :
      Executes (.delete conditions) before (before.filter (fun tuple =>
        !meets engine columns conditions tuple.row))
  | insert (cells : List (Nat × Value)) (before : List (Tuple Row)) (row : Row)
      (given : ∀ column value, (column, value) ∈ cells →
        row[column]? = some (storedAt engine columns column value)) :
      Executes (.insert cells) before (before ++ [⟨none, row⟩])

/-- The statements execute in order, the key being unique before and after each. -/
inductive Runs : List Statement → List (Tuple Row) → List (Tuple Row) → Prop
  | nil {tuples : List (Tuple Row)} (unique : Unique (SameKey engine columns) tuples) :
      Runs [] tuples tuples
  | cons {statement : Statement} {rest : List Statement} {before middle after : List (Tuple Row)}
      (unique : Unique (SameKey engine columns) before)
      (first : Executes engine columns statement before middle)
      (later : Runs rest middle after) : Runs (statement :: rest) before after

def StatementSource.rowKey? : StatementSource → Option RowKey
  | .insert _ => none
  | .update rowKey => some rowKey
  | .delete rowKey => some rowKey

/-- Each keyed statement affects, in its turn, the one row whose original key it names. -/
def NamesAffected (named : Row → Option RowKey) :
    List (Statement × StatementSource) → List (Tuple Row) → Prop
  | [], _ => True
  | (statement, source) :: rest, before =>
    (∀ rowKey, source.rowKey? = some rowKey → ∃ tuple row,
      before.filter (fun tuple => statement.affects engine columns tuple.row) = [tuple] ∧
        tuple.origin = some row ∧ named row = some rowKey) ∧
    ∀ middle, Executes engine columns statement before middle → NamesAffected named rest middle

def Statement.isKeyed : Statement → Bool
  | .insert _ => false
  | _ => true

def writesOf (changes : List (Statement × StatementSource)) : List (Write RowKey Row) :=
  changes.filterMap (fun change => change.2.rowKey?.map (change.1.toWrite engine columns))

def KeyedChange (change : Statement × StatementSource) : Prop :=
  change.1.isKeyed = true ∧ ∃ rowKey, change.2.rowKey? = some rowKey

variable {engine columns}

private theorem keyedWhereClause_keyOf (row : Row) :
    keyedWhereClause (collectPkIndexes columns) (keyOf columns row) =
      (collectPkIndexes columns).map (fun index => .key index (cell row index)) := by
  have pairs : (collectPkIndexes columns).zip (keyOf columns row) =
      (collectPkIndexes columns).map (fun index => (index, cell row index)) := by
    unfold keyOf
    induction collectPkIndexes columns with
    | nil => rfl
    | cons index rest ih => rw [map_cons, zip_cons_cons, ih, map_cons]
  rw [keyedWhereClause, pairs, map_map]
  rfl

theorem sameKey_refl (row : Row) : SameKey engine columns row row := by
  unfold SameKey meets
  rw [keyedWhereClause_keyOf]
  apply all_eq_true.mpr
  intro condition member
  obtain ⟨index, place, rfl⟩ := mem_map.mp member
  have bound : index < columns.length := mem_range.mp (mem_filter.mp place).1
  rw [Condition.holds, getElem?_eq_getElem bound, Option.elim_some]
  by_cases null : isNull (cell row index) = true
  · rw [if_pos null, null]
  · rw [if_neg null]
    exact engine.equal_refl _ _ (Bool.eq_false_of_not_eq_true null)

private theorem executes_iff {statement : Statement} (keyed : statement.isKeyed = true)
    (rowKey : RowKey) (before after : List (Tuple Row)) :
    Executes engine columns statement before after ↔
      after = (statement.toWrite engine columns rowKey).apply before := by
  cases statement with
  | insert cells => cases keyed
  | update assignments conditions =>
    have whole : ((Statement.update assignments conditions).toWrite engine columns rowKey).apply
        before = before.map (fun tuple =>
          if meets engine columns conditions tuple.row then
            { tuple with row := assign engine columns assignments tuple.row }
          else tuple) := by
      rw [← filterMap_eq_map]
      apply filterMap_congr
      intro tuple _
      rw [Function.comp_apply]
      change (if meets engine columns conditions tuple.row then _ else _) = _
      split <;> rfl
    rw [whole]
    constructor
    · intro step
      cases step
      rfl
    · rintro rfl
      exact .update assignments conditions before
  | delete conditions =>
    have whole : ((Statement.delete conditions).toWrite engine columns rowKey).apply before =
        before.filter (fun tuple => !meets engine columns conditions tuple.row) := by
      rw [← filterMap_eq_filter]
      apply filterMap_congr
      intro tuple _
      rw [Option.guard]
      change (if meets engine columns conditions tuple.row then _ else _) = _
      cases meets engine columns conditions tuple.row <;> rfl
    rw [whole]
    constructor
    · intro step
      cases step
      rfl
    · rintro rfl
      exact .delete conditions before

variable {before after : List (Tuple Row)}

theorem Runs.unique {statements : List Statement}
    (run : Runs engine columns statements before after) :
    Unique (SameKey engine columns) before := by
  cases run with
  | nil unique | cons unique => exact unique

theorem writesOf_cons {statement : Statement} {source : StatementSource} {rowKey : RowKey}
    (known : source.rowKey? = some rowKey) (rest : List (Statement × StatementSource)) :
    writesOf engine columns ((statement, source) :: rest) =
      statement.toWrite engine columns rowKey :: writesOf engine columns rest := by
  apply filterMap_cons_some
  rw [known]
  rfl

variable {keyed rest : List (Statement × StatementSource)}

theorem runs_keyed (all : ∀ change ∈ keyed, KeyedChange change)
    (run : Runs engine columns ((keyed ++ rest).map Prod.fst) before after) :
    UniqueAlong (SameKey engine columns) (writesOf engine columns keyed) before ∧
      Runs engine columns (rest.map Prod.fst)
        (runWrites (writesOf engine columns keyed) before) after := by
  induction keyed generalizing before with
  | nil => exact ⟨run.unique, run⟩
  | cons change keyed ih =>
    obtain ⟨isKeyed, rowKey, known⟩ := all _ mem_cons_self
    rw [writesOf_cons known]
    cases run with
    | cons unique first later =>
    rw [executes_iff isKeyed rowKey] at first
    subst first
    obtain ⟨along, remaining⟩ :=
      ih (fun change member => all change (mem_cons_of_mem _ member)) later
    exact ⟨⟨unique, along⟩, remaining⟩

variable {named : Row → Option RowKey}

theorem namesAffected_keyed (all : ∀ change ∈ keyed, KeyedChange change)
    (before : List (Tuple Row)) :
    NamesAffected engine columns named (keyed ++ rest) before ↔
      Exactly named (writesOf engine columns keyed) before ∧
        NamesAffected engine columns named rest
          (runWrites (writesOf engine columns keyed) before) := by
  induction keyed generalizing before with
  | nil =>
    constructor
    · intro affected
      exact ⟨trivial, affected⟩
    · intro both
      exact both.2
  | cons change keyed ih =>
    obtain ⟨statement, source⟩ := change
    obtain ⟨isKeyed, rowKey, known⟩ := all _ mem_cons_self
    have onward := ih (fun change member => all change (mem_cons_of_mem _ member))
      ((statement.toWrite engine columns rowKey).apply before)
    rw [writesOf_cons known]
    constructor
    · rintro ⟨here, later⟩
      have next := later _ ((executes_iff isKeyed rowKey _ _).mpr rfl)
      obtain ⟨exactly, remaining⟩ := onward.mp next
      exact ⟨⟨here rowKey known, exactly⟩, remaining⟩
    rintro ⟨⟨exact, exactly⟩, remaining⟩
    constructor
    · intro other same
      rw [known] at same
      cases same
      exact exact
    intro middle step
    rw [executes_iff isKeyed rowKey] at step
    subst step
    exact onward.mpr ⟨exactly, remaining⟩

def Inserted (engine : Engine) (columns : List TableColumn) (statement : Statement)
    (tuple : Tuple Row) : Prop :=
  tuple.origin = none ∧ ∃ cells, statement = .insert cells ∧
    ∀ column value, (column, value) ∈ cells →
      tuple.row[column]? = some (storedAt engine columns column value)

theorem runs_inserts {inserts : List Statement}
    (all : ∀ statement ∈ inserts, statement.isKeyed = false)
    (run : Runs engine columns inserts before after) :
    ∃ added, after = before ++ added ∧ List.Forall₂ (Inserted engine columns) inserts added := by
  induction run with
  | nil unique => exact ⟨[], (append_nil _).symm, .nil⟩
  | cons unique first later ih =>
    obtain ⟨added, rfl, each⟩ := ih (fun statement member =>
      all statement (mem_cons_of_mem _ member))
    have keyless := all _ mem_cons_self
    cases first with
    | update | delete => cases keyless
    | insert cells _ row given =>
      refine ⟨⟨none, row⟩ :: added, ?_, .cons ⟨rfl, cells, rfl, given⟩ each⟩
      rw [append_assoc, singleton_append]

theorem namesAffected_inserts {inserts : List (Statement × StatementSource)}
    (all : ∀ change ∈ inserts, change.2.rowKey? = none) (before : List (Tuple Row)) :
    NamesAffected engine columns named inserts before := by
  induction inserts generalizing before with
  | nil => exact trivial
  | cons change inserts ih =>
    constructor
    · intro rowKey known
      rw [all change mem_cons_self] at known
      cases known
    · intro middle _
      exact ih (fun other member => all other (mem_cons_of_mem _ member)) middle

end Execution

end Bookie.Edits
