/-
What the passes of a save build: one statement for each deleted row, each edited
row and each draft, in this order, with the conditions of its WHERE; and for a row
that is edited, what its assignments make of it.
-/

import Bookie.Edits.Execution

namespace Bookie.Edits

open Bookie.Core Store List TabChangeTracker

section Collect

variable {α β ε : Type} {build : α → Except ε (Option β)} {out : List β}

theorem collect_cons_ok {entry : α} {rest : List α}
    (made : collect build (entry :: rest) = .ok out) :
    ∃ built others, build entry = .ok built ∧ collect build rest = .ok others ∧
      out = built.toList ++ others := by
  rw [collect] at made
  cases first : build entry with
  | error error => rw [first] at made; cases made
  | ok built =>
  cases later : collect build rest with
  | error error => rw [first, later] at made; cases made
  | ok others =>
    rw [first, later] at made
    cases made
    exact ⟨built, others, rfl, rfl, rfl⟩

variable {entries : List α}

theorem mem_of_collect (made : collect build entries = .ok out) (item : β) :
    item ∈ out ↔ ∃ entry ∈ entries, build entry = .ok (some item) := by
  induction entries generalizing out with
  | nil =>
    cases made
    simp
  | cons entry rest ih =>
    obtain ⟨built, others, first, later, rfl⟩ := collect_cons_ok made
    rw [mem_append, ih later, exists_mem_cons_iff, first]
    simp

private theorem collect_eq {keeps : α → Bool} {change : α → β}
    (builds : ∀ entry ∈ entries, ∀ built, build entry = .ok built →
      built = if keeps entry then some (change entry) else none)
    (made : collect build entries = .ok out) : out = (entries.filter keeps).map change := by
  induction entries generalizing out with
  | nil =>
    cases made
    rfl
  | cons entry rest ih =>
    obtain ⟨built, others, first, later, rfl⟩ := collect_cons_ok made
    obtain ⟨here, behind⟩ := forall_mem_cons.mp builds
    rw [here built first, ih behind later, filter_cons]
    split <;> rfl

end Collect

def RowKey.values (printing : Printing) : RowKey → List Value
  | .persisted pkKeyvalues => pkKeyvalues.map (keyvalueToValue printing)
  | .draft _ => []

def RowKey.isPersisted : RowKey → Bool
  | .persisted _ => true
  | .draft _ => false

def deleteComparisons (driverId : String) (columns : List TableColumn)
    (originalValues : List Value) : List Condition :=
  if driverId == "mongodb" then snapshotConditions columns originalValues else []

def updateComparisons (driverId : String) (columns : List TableColumn)
    (edits : List MaterializedCellEdit) (pkValues : List Value) : List Condition :=
  if driverId == "mongodb" then unchangedCells columns edits
  else if isOptimistic driverId then
    originalKey (collectPkIndexes columns) pkValues ++ unchangedCells columns edits
  else []

variable {pkValues : List Value} {columns : List TableColumn}

private theorem checkedPkIndexes_ok {pkIndexes : List Nat}
    (checked : checkedPkIndexes columns pkValues = .ok pkIndexes) :
    pkIndexes = collectPkIndexes columns := by
  unfold checkedPkIndexes at checked
  split at checked
  · cases checked
  split at checked
  · cases checked
  · cases checked
    rfl

variable {statement : Statement} {edits : List MaterializedCellEdit}

private theorem checkedUpdate_ok {build : List Nat → Statement}
    (checked : checkedUpdate columns edits pkValues build = .ok statement) :
    statement = build (collectPkIndexes columns) := by
  unfold checkedUpdate at checked
  split at checked
  · cases checked
  rename_i indexes known
  rw [checkedPkIndexes_ok known] at checked
  split at checked
  · cases checked
  split at checked
  · cases checked
  · cases checked
    rfl

section Changes

variable (printing : Printing) (driverId : String) (columns : List TableColumn)
  (tracker : TabChangeTracker)

def deleteChange (entry : RowKey × List Value) : Statement × StatementSource :=
  (.delete (keyedWhereClause (collectPkIndexes columns) (entry.1.values printing) ++
    deleteComparisons driverId columns entry.2), .delete entry.1)

def updateChange (rowKey : RowKey) : Statement × StatementSource :=
  (.update (assignmentsOf (tracker.rowEdits rowKey))
    (keyedWhereClause (collectPkIndexes columns) (rowKey.values printing) ++
      updateComparisons driverId columns (tracker.rowEdits rowKey) (rowKey.values printing)),
    .update rowKey)

/-- The statements for the deleted and the edited rows. -/
def keyedChanges (order : RowOrder) : List (Statement × StatementSource) :=
  ((tracker.deleteEntries order).filter (fun entry => entry.1.isPersisted)).map
      (deleteChange printing driverId columns) ++
    ((tracker.updateEntries order).filter (fun entry => entry.1.isPersisted)).map
      (fun entry => updateChange printing driverId columns tracker entry.1)

end Changes

section Materialized

variable {printing : Printing} {order : RowOrder} {driverId : String} {columns : List TableColumn}
  {tracker : TabChangeTracker}

variable {built : Option (Statement × StatementSource)}

private theorem keyedStatement_ok {rowKey : RowKey} {source : RowKey → StatementSource}
    {build : List Value → Except BuildSqlError Statement}
    (made : keyedStatement printing rowKey source build = .ok built) :
    (rowKey.isPersisted = false ∧ built = none) ∨
      (rowKey.isPersisted = true ∧ ∃ statement, build (rowKey.values printing) = .ok statement ∧
        built = some (statement, source rowKey)) := by
  cases rowKey with
  | draft draftId =>
    cases made
    exact .inl ⟨rfl, rfl⟩
  | persisted pkKeyvalues =>
  right
  rw [keyedStatement, readablePkValues] at made
  split at made
  · cases made
  rename_i pkValues readable
  split at readable
  · cases readable
  cases readable
  split at made
  · cases made
  · rename_i statement done
    cases made
    exact ⟨rfl, statement, done, rfl⟩

private theorem deleteStatement_ok {originalValues pkValues : List Value}
    (made : (if driverId == "mongodb"
      then buildMongodbKeyedDelete columns originalValues pkValues else buildKeyedDelete columns
      pkValues) = .ok statement) :
    statement = .delete (keyedWhereClause (collectPkIndexes columns) pkValues ++
      deleteComparisons driverId columns originalValues) := by
  unfold deleteComparisons
  split at made
  · rename_i mongodb
    rw [if_pos mongodb]
    unfold buildMongodbKeyedDelete at made
    split at made
    · cases made
    split at made
    · cases made
    rename_i indexes known
    rw [checkedPkIndexes_ok known] at made
    split at made
    · cases made
    · cases made
      rfl
  rename_i other
  rw [if_neg other, append_nil]
  unfold buildKeyedDelete at made
  split at made
  · cases made
  rename_i indexes known
  rw [checkedPkIndexes_ok known] at made
  cases made
  rfl

private theorem updateStatement_ok
    (made : (if driverId == "mongodb" then buildMongodbKeyedUpdate columns
      edits pkValues else if isOptimistic driverId then buildOptimisticKeyedUpdate columns edits
      pkValues else buildKeyedUpdate columns edits pkValues) = .ok statement) :
    statement = .update (assignmentsOf edits)
      (keyedWhereClause (collectPkIndexes columns) pkValues ++
        updateComparisons driverId columns edits pkValues) := by
  unfold updateComparisons
  split at made
  · rename_i mongodb
    rw [if_pos mongodb]
    exact checkedUpdate_ok made
  rename_i other
  rw [if_neg other]
  split at made
  · rename_i optimistic
    rw [if_pos optimistic, ← append_assoc]
    exact checkedUpdate_ok made
  · rename_i plain
    rw [if_neg plain, append_nil]
    exact checkedUpdate_ok made

private theorem materializeDelete_ok {entry : RowKey × List Value}
    (made : materializeDelete printing driverId columns entry = .ok built) :
    built = if entry.1.isPersisted then some (deleteChange printing driverId columns entry)
      else none := by
  rcases keyedStatement_ok made with ⟨draft, rfl⟩ | ⟨persisted, statement, done, rfl⟩
  · rw [draft]
    rfl
  · rw [persisted, deleteStatement_ok done]
    rfl

private theorem materializeUpdate_ok {entry : RowKey × List MaterializedCellEdit}
    (edits : entry.2 = tracker.rowEdits entry.1)
    (made : materializeUpdate printing driverId columns entry = .ok built) :
    built = if entry.1.isPersisted then
      some (updateChange printing driverId columns tracker entry.1) else none := by
  rcases keyedStatement_ok made with ⟨draft, rfl⟩ | ⟨persisted, statement, done, rfl⟩
  · rw [draft]
    rfl
  · rw [persisted, updateStatement_ok done, edits]
    rfl

theorem materializeInsert_ok {draft : DraftRow}
    (made : materializeInsert columns draft = .ok built) :
    ∃ statement, buildInsertFromDraftTouched columns draft.values draft.touched = .ok statement ∧
      built = some (statement, .insert draft.draftId) := by
  unfold materializeInsert at made
  split at made
  · cases made
  · rename_i statement done
    cases made
    exact ⟨statement, done, rfl⟩

end Materialized

namespace TabChangeTracker

variable (tracker : TabChangeTracker) (order : RowOrder)

theorem mem_deleteEntries (entry : RowKey × List Value) :
    entry ∈ tracker.deleteEntries order ↔ entry ∈ tracker.deletes.entries :=
  mem_mergeSort

theorem deleteEntries_distinct : ((tracker.deleteEntries order).map Prod.fst).Nodup :=
  ((mergeSort_perm _ _).map Prod.fst).nodup_iff.mpr tracker.deletes.distinct

/-- A row has an update when a cell of it has a live edit. -/
def Updated (rowKey : RowKey) : Prop := ∃ entry ∈ tracker.liveUpdates, entry.1.1 = rowKey

theorem mem_updateEntries (entry : RowKey × List MaterializedCellEdit) :
    entry ∈ tracker.updateEntries order ↔
      tracker.Updated entry.1 ∧ entry.2 = tracker.rowEdits entry.1 := by
  unfold updateEntries Updated
  rw [mem_map]
  constructor
  · rintro ⟨rowKey, member, rfl⟩
    rw [mem_mergeSort, mem_dedup, mem_map] at member
    exact ⟨member, rfl⟩
  rintro ⟨updated, edits⟩
  refine ⟨entry.1, ?_, ?_⟩
  · rw [mem_mergeSort, mem_dedup, mem_map]
    exact updated
  · rw [← edits]

theorem updateEntries_distinct : ((tracker.updateEntries order).map Prod.fst).Nodup := by
  unfold updateEntries
  rw [map_map]
  change (map id _).Nodup
  rw [map_id]
  exact (mergeSort_perm _ _).nodup_iff.mpr (nodup_dedup _)

variable {tracker} {rowKey : RowKey}

theorem Updated.kept (updated : tracker.Updated rowKey) :
    tracker.deletes.contains rowKey = false := by
  obtain ⟨entry, member, rfl⟩ := updated
  have live := (mem_filter.mp member).2
  rwa [Bool.not_eq_true'] at live

theorem contains_deletes :
    tracker.deletes.contains rowKey = true ↔
      ∃ values, (rowKey, values) ∈ tracker.deletes.entries := by
  unfold Assoc.contains
  rw [Option.isSome_iff_exists]
  constructor
  · rintro ⟨values, found⟩
    exact ⟨values, (tracker.deletes.get?_eq_some_iff rowKey values).mp found⟩
  · rintro ⟨values, member⟩
    exact ⟨values, (tracker.deletes.get?_eq_some_iff rowKey values).mpr member⟩

private theorem mem_rowEdits (kept : tracker.deletes.contains rowKey = false) (column : Nat)
    (oldValue newValue : Value) :
    (column, oldValue, newValue) ∈ tracker.rowEdits rowKey ↔
      tracker.updates.get? (rowKey, column) = some ⟨oldValue, newValue⟩ := by
  unfold rowEdits liveUpdates
  rw [mem_mergeSort, mem_map, Assoc.get?_eq_some_iff]
  constructor
  · rintro ⟨⟨⟨key, place⟩, edit⟩, member, same⟩
    obtain ⟨live, here⟩ := mem_filter.mp member
    have isRow : key = rowKey := of_decide_eq_true here
    subst isRow
    cases same
    exact (mem_filter.mp live).1
  intro member
  refine ⟨((rowKey, column), ⟨oldValue, newValue⟩), ?_, rfl⟩
  apply mem_filter.mpr
  constructor
  · apply mem_filter.mpr
    constructor
    · exact member
    · rw [kept]
      rfl
  · exact decide_eq_true rfl

private theorem rowEdits_distinct (rowKey : RowKey) :
    ((tracker.rowEdits rowKey).map Prod.fst).Nodup := by
  apply ((mergeSort_perm _ _).map Prod.fst).nodup_iff.mpr
  rw [map_map]
  -- Under one row key, distinct keys of the map are distinct columns.
  apply List.Nodup.map_on
  · intro first firstMember second secondMember same
    have firstRow : first.1.1 = rowKey := of_decide_eq_true (mem_filter.mp firstMember).2
    have secondRow : second.1.1 = rowKey := of_decide_eq_true (mem_filter.mp secondMember).2
    have entries := fun entry (member : entry ∈ (tracker.liveUpdates.filter
        (fun entry => decide (entry.1.1 = rowKey)))) =>
      (mem_filter.mp (mem_filter.mp member).1).1
    apply inj_on_of_nodup_map tracker.updates.distinct (entries first firstMember)
      (entries second secondMember)
    exact Prod.ext (firstRow.trans secondRow.symm) same
  · exact ((tracker.updates.distinct.of_map _).filter _).filter _

end TabChangeTracker

theorem materialize_ok {printing : Printing} {order : RowOrder} {driverId : String}
    {tracker : TabChangeTracker} {statements : List Statement} {sources : List StatementSource}
    (made : tracker.materialize printing order driverId columns = .ok (statements, sources)) :
    ∃ inserts, collect (materializeInsert columns) tracker.inserts = .ok inserts ∧
      statements = (keyedChanges printing driverId columns tracker order ++ inserts).map Prod.fst ∧
      sources = (keyedChanges printing driverId columns tracker order ++ inserts).map Prod.snd := by
  unfold materialize at made
  split at made
  · cases made
  rename_i deletes first
  split at made
  · cases made
  rename_i updates second
  split at made
  · cases made
  rename_i inserts third
  rw [unzip_eq_map] at made
  cases made
  obtain rfl := collect_eq (fun _ _ _ => materializeDelete_ok) first
  obtain rfl := collect_eq (fun entry member _ =>
    materializeUpdate_ok ((tracker.mem_updateEntries order entry).mp member).2) second
  exact ⟨inserts, third, rfl, rfl⟩

section Assign

variable {engine : Engine} {columns : List TableColumn} (assignments : List (Nat × Value))

private theorem assign_elsewhere (row : Row) (column : Nat)
    (free : column ∉ assignments.map Prod.fst) :
    (assign engine columns assignments row)[column]? = row[column]? := by
  induction assignments generalizing row with
  | nil => rfl
  | cons assignment rest ih =>
    rw [map_cons, mem_cons, not_or] at free
    have later := ih (row.set assignment.1
      (storedAt engine columns assignment.1 assignment.2)) free.2
    rw [getElem?_set_ne (Ne.symm free.1)] at later
    exact later

private theorem assign_at (row : Row) (column : Nat) (value : Value)
    (distinct : (assignments.map Prod.fst).Nodup) (member : (column, value) ∈ assignments) :
    (assign engine columns assignments row)[column]? =
      row[column]?.map (fun _ => storedAt engine columns column value) := by
  induction assignments generalizing row with
  | nil => cases member
  | cons assignment rest ih =>
    rw [map_cons, nodup_cons] at distinct
    rcases mem_cons.mp member with rfl | behind
    · have last := @assign_elsewhere engine columns rest
        (row.set column (storedAt engine columns column value)) column distinct.1
      rw [getElem?_set_self'] at last
      exact last
    have other : assignment.1 ≠ column := by
      intro same
      apply distinct.1
      rw [same]
      exact mem_map_of_mem behind
    have later := ih (row.set assignment.1
      (storedAt engine columns assignment.1 assignment.2)) distinct.2 behind
    rw [getElem?_set_ne other] at later
    exact later

end Assign

/-- A row with its pending cell edits, each made on the cell as it was. -/
def editedRow (engine : Engine) (columns : List TableColumn) (tracker : TabChangeTracker)
    (rowKey : RowKey) (row : Row) : Row :=
  row.mapIdx (fun column value => (tracker.updates.get? (rowKey, column)).elim value
    (fun edit => storedAt engine columns column edit.newValue))

theorem assign_rowEdits (engine : Engine) (columns : List TableColumn)
    {tracker : TabChangeTracker} {rowKey : RowKey}
    (kept : tracker.deletes.contains rowKey = false) (row : Row) :
    assign engine columns (assignmentsOf (tracker.rowEdits rowKey)) row =
      editedRow engine columns tracker rowKey row := by
  have places : (assignmentsOf (tracker.rowEdits rowKey)).map Prod.fst =
      (tracker.rowEdits rowKey).map Prod.fst := by
    unfold assignmentsOf
    rw [map_map]
    rfl
  apply ext_getElem?
  intro column
  unfold editedRow
  rw [getElem?_mapIdx]
  cases found : tracker.updates.get? (rowKey, column) with
  | none =>
    rw [assign_elsewhere]
    · cases row[column]? <;> rfl
    rw [places]
    intro member
    obtain ⟨⟨place, oldValue, newValue⟩, inside, rfl⟩ := mem_map.mp member
    rw [(mem_rowEdits kept place oldValue newValue).mp inside] at found
    cases found
  | some edit =>
  have inside := (mem_rowEdits kept column edit.prevValue edit.newValue).mpr
    found
  rw [assign_at _ row column edit.newValue]
  · rfl
  · rw [places]
    exact rowEdits_distinct rowKey
  · exact mem_map.mpr ⟨_, inside, rfl⟩

end Bookie.Edits
