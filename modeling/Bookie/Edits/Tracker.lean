/-
The change tracker of a browse tab: the edits of the grid that are not saved yet,
with the records that undo and redo them. The subscribers it tells of a change
and the row marked by a failed save are left out.
-/

import Bookie.Edits.RowIdentity
import Bookie.Store.Assoc

namespace Bookie.Edits

open Bookie.Core Store

def undoLimit : Nat := 50

structure CellEdit where
  prevValue : Value
  newValue : Value
  deriving DecidableEq, Repr

structure DraftRow where
  draftId : Nat
  values : List Value
  touched : List Bool
  sized : touched.length = values.length
  deriving DecidableEq

namespace DraftRow

def new (draftId : Nat) (values : List Value) : DraftRow where
  draftId
  values
  touched := List.replicate values.length false
  sized := List.length_replicate

/-- Outside the row nothing is set. -/
def set (draft : DraftRow) (column : Nat) (value : Value) (touched : Bool) : DraftRow where
  draftId := draft.draftId
  values := draft.values.set column value
  touched := draft.touched.set column touched
  sized := by rw [List.length_set, List.length_set, draft.sized]

end DraftRow

def updateDraft (draftId : Nat) (change : DraftRow → DraftRow) : List DraftRow → List DraftRow
  | [] => []
  | draft :: rest =>
    if draft.draftId = draftId then change draft :: rest
    else draft :: updateDraft draftId change rest

def findDraft (drafts : List DraftRow) (draftId : Nat) : Option DraftRow :=
  drafts.find? (fun draft => decide (draft.draftId = draftId))

inductive UndoOp where
  | cellEdit (rowKey : RowKey) (col : Nat) (prevValue newValue base : Value)
  | insert (draftId : Nat) (values : List Value)
  | delete (rowKey : RowKey) (originalValues : List Value)
  deriving DecidableEq, Repr

/-- `undo` and `redo` have their latest record in front. -/
structure TabChangeTracker where
  inserts : List DraftRow
  deletes : Assoc RowKey (List Value)
  updates : Assoc (RowKey × Nat) CellEdit
  undoList : List UndoOp
  redoList : List UndoOp
  nextDraftId : Nat

def undoOpMatchesDraft (draftId : Nat) : UndoOp → Bool
  | .insert id _ => decide (id = draftId)
  | .cellEdit (.draft id) _ _ _ _ => decide (id = draftId)
  | .delete (.draft id) _ => decide (id = draftId)
  | _ => false

def RowKey.isDraft (draftId : Nat) : RowKey → Bool
  | .draft id => decide (id = draftId)
  | .persisted _ => false

namespace TabChangeTracker

def new : TabChangeTracker where
  inserts := []
  deletes := .empty
  updates := .empty
  undoList := []
  redoList := []
  nextDraftId := 0

def pendingCount (tracker : TabChangeTracker) : Nat :=
  let liveUpdates := (tracker.updates.entries.filter (fun entry =>
    !tracker.deletes.contains entry.1.1)).length
  tracker.inserts.length + tracker.deletes.size + liveUpdates

def hasPending (tracker : TabChangeTracker) : Bool := decide (0 < tracker.pendingCount)

def pushUndo (tracker : TabChangeTracker) (op : UndoOp) : TabChangeTracker :=
  let kept := if tracker.undoList.length = undoLimit then tracker.undoList.dropLast
    else tracker.undoList
  { tracker with undoList := op :: kept, redoList := [] }

variable (printing : Printing)

/-- Two values are the same for the tracker when their key values are. -/
def sameValue (first second : Value) : Bool :=
  decide (KeyValue.ofValue printing first = KeyValue.ofValue printing second)

def trackCellEdit (tracker : TabChangeTracker) (rowKey : RowKey) (col : Nat)
    (original newValue : Value) : TabChangeTracker :=
  let key := (rowKey, col)
  let (base, shownBefore) := match tracker.updates.get? key with
    | none => (original, original)
    | some edit => (edit.prevValue, edit.newValue)
  let updates := if sameValue printing base newValue then tracker.updates.erase key
    else tracker.updates.insert key { prevValue := base, newValue }
  ({ tracker with updates }).pushUndo (.cellEdit rowKey col shownBefore newValue base)

def trackInsert (tracker : TabChangeTracker) (defaultValues : List Value) :
    TabChangeTracker × RowKey :=
  let draftId := tracker.nextDraftId
  (({ tracker with
    nextDraftId := draftId + 1
    inserts := tracker.inserts ++ [DraftRow.new draftId defaultValues] }).pushUndo
      (.insert draftId defaultValues), .draft draftId)

def trackDelete (tracker : TabChangeTracker) (rowKey : RowKey) (originalValues : List Value) :
    TabChangeTracker :=
  ({ tracker with deletes := tracker.deletes.insert rowKey originalValues }).pushUndo
    (.delete rowKey originalValues)

def discardDraft (tracker : TabChangeTracker) (draftId : Nat) : TabChangeTracker × Bool :=
  let inserts := tracker.inserts.filter (fun draft => !decide (draft.draftId = draftId))
  if inserts.length = tracker.inserts.length then (tracker, false)
  else
    ({ tracker with
      inserts
      updates := tracker.updates.retain (fun key => !key.1.isDraft draftId)
      deletes := tracker.deletes.retain (fun key => !key.isDraft draftId)
      undoList := tracker.undoList.filter (fun op => !undoOpMatchesDraft draftId op)
      redoList := tracker.redoList.filter (fun op => !undoOpMatchesDraft draftId op) }, true)

def trackDraftCellEdit (tracker : TabChangeTracker) (draftId col : Nat) (newValue : Value) :
    TabChangeTracker × Bool :=
  match findDraft tracker.inserts draftId with
  | none => (tracker, false)
  | some draft =>
    if col < draft.values.length then
      let prev := draft.values.getD col .null
      (({ tracker with
        inserts := updateDraft draftId (fun draft => draft.set col newValue true)
          tracker.inserts }).pushUndo (.cellEdit (.draft draftId) col prev newValue prev), true)
    else (tracker, false)

def setPendingEdit (tracker : TabChangeTracker) (rowKey : RowKey) (col : Nat)
    (untouched : Option Value) (target : Value) : TabChangeTracker :=
  let key := (rowKey, col)
  let stored := ((tracker.updates.get? key).map CellEdit.prevValue).or untouched
  match stored with
  | some stored =>
    if !sameValue printing stored target then
      { tracker with
        updates := tracker.updates.insert key { prevValue := stored, newValue := target } }
    else { tracker with updates := tracker.updates.erase key }
  | none => { tracker with updates := tracker.updates.erase key }

def undo (tracker : TabChangeTracker) : TabChangeTracker :=
  match tracker.undoList with
  | [] => tracker
  | op :: rest =>
    let popped := { tracker with undoList := rest }
    let changed := match op with
      | .cellEdit (.draft draftId) col prevValue _ _ =>
        { popped with inserts := updateDraft draftId (fun draft =>
            draft.set col prevValue (!isNull prevValue)) popped.inserts }
      | .cellEdit rowKey col prevValue _ base =>
        popped.setPendingEdit printing rowKey col (some base) prevValue
      | .insert draftId _ =>
        { popped with inserts := popped.inserts.filter (fun draft =>
            !decide (draft.draftId = draftId)) }
      | .delete rowKey _ => { popped with deletes := popped.deletes.erase rowKey }
    { changed with redoList := op :: tracker.redoList }

def redo (tracker : TabChangeTracker) : TabChangeTracker :=
  match tracker.redoList with
  | [] => tracker
  | op :: rest =>
    let popped := { tracker with redoList := rest }
    let changed := match op with
      | .cellEdit (.draft draftId) col _ newValue _ =>
        { popped with inserts := updateDraft draftId (fun draft =>
            draft.set col newValue true) popped.inserts }
      | .cellEdit rowKey col _ newValue base =>
        popped.setPendingEdit printing rowKey col (some base) newValue
      | .insert draftId values =>
        { popped with inserts := popped.inserts ++ [DraftRow.new draftId values] }
      | .delete rowKey originalValues =>
        { popped with deletes := popped.deletes.insert rowKey originalValues }
    { changed with undoList := op :: tracker.undoList }

def clear (tracker : TabChangeTracker) : TabChangeTracker :=
  { tracker with
    inserts := []
    deletes := .empty
    updates := .empty
    undoList := []
    redoList := [] }

end TabChangeTracker

/-! ### Operations and reachable states -/

inductive Operation where
  | cellEdit (rowKey : RowKey) (col : Nat) (original newValue : Value)
  | insert (defaultValues : List Value)
  | delete (rowKey : RowKey) (originalValues : List Value)
  | discardDraft (draftId : Nat)
  | draftCellEdit (draftId col : Nat) (newValue : Value)
  | undo
  | redo
  | clear
  deriving DecidableEq, Repr

def TabChangeTracker.apply (printing : Printing) (tracker : TabChangeTracker) :
    Operation → TabChangeTracker
  | .cellEdit rowKey col original newValue =>
    tracker.trackCellEdit printing rowKey col original newValue
  | .insert defaultValues => (tracker.trackInsert defaultValues).1
  | .delete rowKey originalValues => tracker.trackDelete rowKey originalValues
  | .discardDraft draftId => (tracker.discardDraft draftId).1
  | .draftCellEdit draftId col newValue => (tracker.trackDraftCellEdit draftId col newValue).1
  | .undo => tracker.undo printing
  | .redo => tracker.redo printing
  | .clear => tracker.clear

inductive Reachable (printing : Printing) : TabChangeTracker → Prop
  | new : Reachable printing .new
  | apply {tracker : TabChangeTracker} (before : Reachable printing tracker)
      (operation : Operation) : Reachable printing (tracker.apply printing operation)

end Bookie.Edits
