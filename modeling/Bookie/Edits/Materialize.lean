/-
The statements a save sends: deletes, then updates, then inserts, each with the
record of its row. A statement is kept as its parts, and columns are given by their
place.
-/

import Bookie.Edits.Tracker

namespace Bookie.Edits

open Bookie.Core Store

structure TableColumn where
  name : String
  dataType : String
  primaryKey : Bool
  isGenerated : Bool
  isAutoIncrement : Bool
  defaultValue : Option String
  deriving DecidableEq, Repr

/-- The builders also refuse a driver without optimistic updates; `materialize` calls the
optimistic one for drivers that have them only. -/
inductive BuildSqlError where
  | noPrimaryKey
  | nothingToUpdate
  | lengthMismatch (expected got : Nat)
  | unrepresentableValue (column : String)
  | staleColumns
  deriving DecidableEq, Repr

def BuildSqlError.text : BuildSqlError → String
  | .noPrimaryKey => "table has no primary key"
  | .nothingToUpdate => "nothing to update"
  | .lengthMismatch expected got =>
    s!"new_values length {got} does not match columns length {expected}"
  | .unrepresentableValue column =>
    s!"column {column} contains a value that cannot be represented in a SQL statement"
  | .staleColumns =>
    "the table's columns changed since this edit was made; reload and reapply your changes"

inductive MaterializeError where
  | buildSql (error : BuildSqlError)
  | unreadableRowKey
  deriving DecidableEq, Repr

def MaterializeError.text : MaterializeError → String
  | .buildSql error => error.text
  | .unreadableRowKey =>
    "a row cannot be updated or deleted because its key value could not be read from the database"

/-- A conjunct of a WHERE. `original` says that a key column holds exactly the value read; for
values without such a predicate on the driver it is no text, and true of every row.
`unchanged` says that a cell still holds the value read, `fieldSet` which fields there are. -/
inductive Condition where
  | key (column : Nat) (value : Value)
  | original (column : Nat) (value : Value)
  | unchanged (column : Nat) (value : Value)
  | fieldSet (names : List String)
  deriving DecidableEq, Repr

inductive Statement where
  | update (assignments : List (Nat × Value)) (conditions : List Condition)
  | delete (conditions : List Condition)
  | insert (cells : List (Nat × Value))
  deriving DecidableEq, Repr

inductive StatementSource where
  | insert (draftId : Nat)
  | update (rowKey : RowKey)
  | delete (rowKey : RowKey)
  deriving DecidableEq, Repr

variable (columns : List TableColumn)

def collectPkIndexes : List Nat :=
  (List.range columns.length).filter (fun index =>
    (columns[index]?).elim false (fun column => column.primaryKey))

def checkedPkIndexes (pkValues : List Value) : Except BuildSqlError (List Nat) :=
  if (collectPkIndexes columns).isEmpty then .error .noPrimaryKey
  else if pkValues.length != (collectPkIndexes columns).length then .error .staleColumns
  else .ok (collectPkIndexes columns)

def keyedWhereClause (pkIndexes : List Nat) (pkValues : List Value) : List Condition :=
  (pkIndexes.zip pkValues).map (fun (index, value) => .key index value)

abbrev MaterializedCellEdit := Nat × Value × Value

variable (edits : List MaterializedCellEdit)

def checkedUpdate (pkValues : List Value) (build : List Nat → Statement) :
    Except BuildSqlError Statement :=
  match checkedPkIndexes columns pkValues with
  | .error error => .error error
  | .ok pkIndexes =>
    if edits.isEmpty then .error .nothingToUpdate
    else if edits.any (fun edit => decide (columns.length ≤ edit.1)) then .error .staleColumns
    else .ok (build pkIndexes)

def assignmentsOf : List (Nat × Value) :=
  edits.map (fun (column, _, newValue) => (column, newValue))

def unchangedCells : List Condition :=
  (edits.filter (fun edit =>
    !(columns[edit.1]?).elim false (fun column => column.primaryKey))).map
      (fun (column, oldValue, _) => .unchanged column oldValue)

def buildKeyedUpdate (pkValues : List Value) : Except BuildSqlError Statement :=
  checkedUpdate columns edits pkValues (fun pkIndexes =>
    .update (assignmentsOf edits) (keyedWhereClause pkIndexes pkValues))

def originalKey (pkIndexes : List Nat) (pkValues : List Value) : List Condition :=
  (pkIndexes.zip pkValues).map (fun (index, value) => .original index value)

def buildOptimisticKeyedUpdate (pkValues : List Value) : Except BuildSqlError Statement :=
  checkedUpdate columns edits pkValues (fun pkIndexes =>
    .update (assignmentsOf edits) (keyedWhereClause pkIndexes pkValues ++
      originalKey pkIndexes pkValues ++ unchangedCells columns edits))

def buildMongodbKeyedUpdate (pkValues : List Value) : Except BuildSqlError Statement :=
  checkedUpdate columns edits pkValues (fun pkIndexes =>
    .update (assignmentsOf edits) (keyedWhereClause pkIndexes pkValues ++
      unchangedCells columns edits))

def buildKeyedDelete (pkValues : List Value) : Except BuildSqlError Statement :=
  match checkedPkIndexes columns pkValues with
  | .error error => .error error
  | .ok pkIndexes => .ok (.delete (keyedWhereClause pkIndexes pkValues))

def missingField : String := "missing BSON field"

def isMissingField : Value → Bool
  | .undecodable kind => kind == missingField
  | _ => false

def isUnrepresentable : Value → Bool
  | .undecodable kind => kind != missingField
  | _ => false

/-- The places of the columns outside the key, with the values read there. -/
def otherCells (originalValues : List Value) : List (Nat × Value) :=
  ((List.range columns.length).filter (fun index =>
    !(collectPkIndexes columns).contains index)).map
      (fun index => (index, originalValues.getD index .null))

/-- What a MongoDB delete compares beside the key: the whole row as it was read. -/
def snapshotConditions (originalValues : List Value) : List Condition :=
  (otherCells columns originalValues).map (fun (index, value) => .unchanged index value) ++
    [.fieldSet (((columns.zip originalValues).filter (fun pair =>
      !isMissingField pair.2)).map (fun pair => pair.1.name))]

def buildMongodbKeyedDelete (originalValues pkValues : List Value) :
    Except BuildSqlError Statement :=
  if originalValues.length != columns.length then
    .error (.lengthMismatch columns.length originalValues.length)
  else
    match checkedPkIndexes columns pkValues with
    | .error error => .error error
    | .ok pkIndexes =>
      match (otherCells columns originalValues).find? (fun other => isUnrepresentable other.2) with
      | some (index, _) => .error (.unrepresentableValue
          ((columns[index]?).elim "" (fun column => column.name)))
      | none => .ok (.delete (keyedWhereClause pkIndexes pkValues ++
          snapshotConditions columns originalValues))

def buildInsertFromDraftTouched (values : List Value) (touched : List Bool) :
    Except BuildSqlError Statement :=
  if columns.length != values.length then .error (.lengthMismatch columns.length values.length)
  else
    let cells := ((List.range columns.length).filter (fun index =>
      (columns[index]?).elim false (fun column =>
        let typed := touched.getD index false
        let valueIsNull := isNull (values.getD index .null)
        !(column.isGenerated || (column.isAutoIncrement && (!typed || valueIsNull))) &&
          !(valueIsNull && !typed && column.defaultValue.isSome)))).map
            (fun index => (index, values.getD index .null))
    if cells.isEmpty then .error .nothingToUpdate else .ok (.insert cells)

def collect {α β ε : Type} (build : α → Except ε (Option β)) : List α → Except ε (List β)
  | [] => .ok []
  | entry :: rest =>
    match build entry with
    | .error error => .error error
    | .ok built =>
      match collect build rest with
      | .error error => .error error
      | .ok later => .ok (built.toList ++ later)

/-- The order in which rows are sorted. In the source it is the derived one, which compares
dates, times and decimals by library code. -/
structure RowOrder where
  le : RowKey → RowKey → Bool

section Materialize

variable (printing : Printing) (order : RowOrder) (driverId : String) (columns : List TableColumn)

def readablePkValues (pkKeyvalues : List KeyValue) : Except MaterializeError (List Value) :=
  let pkValues := pkKeyvalues.map (keyvalueToValue printing)
  if pkValuesAreUnreadable pkValues then .error .unreadableRowKey else .ok pkValues

/-- Builds the statement of a persisted row from its key values; drafts have none. -/
def keyedStatement (rowKey : RowKey) (source : RowKey → StatementSource)
    (build : List Value → Except BuildSqlError Statement) :
    Except MaterializeError (Option (Statement × StatementSource)) :=
  match rowKey with
  | .draft _ => .ok none
  | .persisted pkKeyvalues =>
    match readablePkValues printing pkKeyvalues with
    | .error error => .error error
    | .ok pkValues =>
      match build pkValues with
      | .error error => .error (.buildSql error)
      | .ok statement => .ok (some (statement, source rowKey))

def materializeDelete (entry : RowKey × List Value) :
    Except MaterializeError (Option (Statement × StatementSource)) :=
  keyedStatement printing entry.1 .delete (fun pkValues =>
    if driverId == "mongodb" then buildMongodbKeyedDelete columns entry.2 pkValues
    else buildKeyedDelete columns pkValues)

def isOptimistic : Bool :=
  driverId == "postgres" || driverId == "mysql" || driverId == "mssql" || driverId == "sqlite"

def materializeUpdate (entry : RowKey × List MaterializedCellEdit) :
    Except MaterializeError (Option (Statement × StatementSource)) :=
  keyedStatement printing entry.1 .update (fun pkValues =>
    if driverId == "mongodb" then buildMongodbKeyedUpdate columns entry.2 pkValues
    else if isOptimistic driverId then buildOptimisticKeyedUpdate columns entry.2 pkValues
    else buildKeyedUpdate columns entry.2 pkValues)

def materializeInsert (draft : DraftRow) :
    Except MaterializeError (Option (Statement × StatementSource)) :=
  match buildInsertFromDraftTouched columns draft.values draft.touched with
  | .error error => .error (.buildSql error)
  | .ok statement => .ok (some (statement, .insert draft.draftId))

namespace TabChangeTracker

variable (tracker : TabChangeTracker)

def deleteEntries : List (RowKey × List Value) :=
  tracker.deletes.entries.mergeSort (fun left right => order.le left.1 right.1)

def liveUpdates : List ((RowKey × Nat) × CellEdit) :=
  tracker.updates.entries.filter (fun entry => !tracker.deletes.contains entry.1.1)

def rowEdits (rowKey : RowKey) : List MaterializedCellEdit :=
  ((tracker.liveUpdates.filter (fun entry => decide (entry.1.1 = rowKey))).map
    (fun entry => (entry.1.2, entry.2.prevValue, entry.2.newValue))).mergeSort
      (fun left right => decide (left.1 ≤ right.1))

def updateEntries : List (RowKey × List MaterializedCellEdit) :=
  ((tracker.liveUpdates.map (fun entry => entry.1.1)).dedup.mergeSort order.le).map
    (fun rowKey => (rowKey, tracker.rowEdits rowKey))

def materialize : Except MaterializeError (List Statement × List StatementSource) :=
  match collect (materializeDelete printing driverId columns) (tracker.deleteEntries order) with
  | .error error => .error error
  | .ok deletes =>
    match collect (materializeUpdate printing driverId columns) (tracker.updateEntries order) with
    | .error error => .error error
    | .ok updates =>
      match collect (materializeInsert columns) tracker.inserts with
      | .error error => .error error
      | .ok inserts => .ok (deletes ++ updates ++ inserts).unzip

end TabChangeTracker

end Materialize

end Bookie.Edits
