/-
When undo and redo are exact. An operation and its undo cancel unless the record left
something out: a delete of a row already pending, or a draft's cell whose touched
flag was not what its value suggests.
-/

import Bookie.Edits.Undo

namespace Bookie.Edits

open Bookie.Core Store List TabChangeTracker DraftRow

variable {printing : Printing} {tracker : TabChangeTracker} {first second : TabChangeTracker}

private theorem sameEdits_inserts_iff (deletes : first.deletes = second.deletes)
    (updates : first.updates = second.updates) :
    SameEdits first second ↔ first.inserts = second.inserts := by
  constructor
  · exact SameEdits.inserts
  intro inserts
  refine ⟨inserts, ?_, ?_⟩
  · rw [deletes]
    exact Assoc.Same.refl _
  · rw [updates]
    exact Assoc.Same.refl _

private theorem sameEdits_deletes_iff (inserts : first.inserts = second.inserts)
    (updates : first.updates = second.updates) :
    SameEdits first second ↔ first.deletes.Same second.deletes := by
  constructor
  · exact SameEdits.deletes
  intro deletes
  refine ⟨inserts, deletes, ?_⟩
  rw [updates]
  exact Assoc.Same.refl _

/-- Setting a draft's cell twice leaves the drafts as they were when the second value and flag
are the cell's own. -/
private theorem draftCell_restored_iff {draftId col : Nat} {first second : Value}
    {before after : Bool} {drafts : List DraftRow} :
    updateDraft draftId (fun draft => draft.set col second after)
        (updateDraft draftId (fun draft => draft.set col first before) drafts) = drafts ↔
      ∀ draft, findDraft drafts draftId = some draft → col < draft.values.length →
        draft.values[col]? = some second ∧ draft.touched[col]? = some after := by
  have keeps : ∀ draft : DraftRow, (draft.set col first before).draftId = draft.draftId :=
    fun _ => rfl
  rw [updateDraft_updateDraft keeps, updateDraft_eq_self_iff]
  simp [DraftRow.set_set, DraftRow.set_eq_self_iff]

/-! ### What one record does -/

/-- One tracker is the other with its edit of a cell replaced. -/
structure CellMoved (cell : RowKey × Nat) (edit : Option CellEdit)
    (before after : TabChangeTracker) : Prop where
  inserts : after.inserts = before.inserts
  deletes : after.deletes = before.deletes
  updates : ∀ other, after.updates.get? other =
    if other = cell then edit else before.updates.get? other

section Records

variable {cell : RowKey × Nat} {edit last : Option CellEdit}
  {before between after : TabChangeTracker}

private theorem CellMoved.same_iff (moved : CellMoved cell edit before after) :
    SameEdits after before ↔ before.updates.get? cell = edit := by
  constructor
  · intro same
    exact (same.updates cell).symm.trans ((moved.updates cell).trans (if_pos rfl))
  rintro rfl
  refine ⟨moved.inserts, moved.deletes ▸ Assoc.Same.refl _, fun other => ?_⟩
  rw [moved.updates]
  split
  · rename_i here
    rw [here]
  · rfl

private theorem CellMoved.trans (first : CellMoved cell edit before between)
    (second : CellMoved cell last between after) : CellMoved cell last before after := by
  refine ⟨second.inserts.trans first.inserts, second.deletes.trans first.deletes, fun other => ?_⟩
  rw [second.updates, first.updates]
  split <;> rfl

variable {rest : List UndoOp} {col : Nat} {values : List KeyValue}
  {prevValue newValue base shown original : Value}

private theorem undo_cell
    (records : tracker.undoList = .cellEdit (.persisted values) col prevValue newValue base :: rest)
    (current : tracker.updates.get? (.persisted values, col) = pendingEdit printing base shown) :
    CellMoved (.persisted values, col) (pendingEdit printing base prevValue) tracker
        (tracker.undo printing) ∧
      (tracker.undo printing).redoList =
        .cellEdit (.persisted values) col prevValue newValue base :: tracker.redoList := by
  obtain ⟨updates, same, get⟩ := setPendingEdit_moved { tracker with undoList := rest } prevValue
    current
  unfold undo
  rw [records]
  simp only [same]
  exact ⟨⟨rfl, rfl, get⟩, trivial⟩

private theorem redo_cell
    (records : tracker.redoList = .cellEdit (.persisted values) col prevValue newValue base :: rest)
    (current : tracker.updates.get? (.persisted values, col) = pendingEdit printing base shown) :
    CellMoved (.persisted values, col) (pendingEdit printing base newValue) tracker
      (tracker.redo printing) := by
  obtain ⟨updates, same, get⟩ := setPendingEdit_moved { tracker with redoList := rest } newValue
    current
  unfold redo
  rw [records]
  simp only [same]
  exact ⟨rfl, rfl, get⟩

/-! ### An operation and its undo -/

private theorem undo_trackCellEdit (sound : Sound printing tracker) :
    SameEdits ((tracker.trackCellEdit printing (.persisted values) col original newValue).undo
      printing) tracker := by
  have tracked : CellMoved (.persisted values, col) _ tracker
      (tracker.trackCellEdit printing (.persisted values) col original newValue) :=
    ⟨rfl, rfl, fun _ => trackCellEdit_get⟩
  have undone := undo_cell rfl ((tracked.updates _).trans (if_pos rfl))
  exact (tracked.trans undone.1).same_iff.mpr (pendingEdit_starting sound.tidy).symm

end Records

/-- The number of a new draft is no other draft's. -/
private theorem undo_trackInsert (sound : Sound printing tracker) {defaultValues : List Value} :
    SameEdits ((tracker.trackInsert defaultValues).1.undo printing) tracker := by
  refine ⟨?_, Assoc.Same.refl _, Assoc.Same.refl _⟩
  change (tracker.inserts ++ [new tracker.nextDraftId defaultValues]).filter _ = _
  rw [filter_append, filter_eq_self.mpr, filter_eq_nil_iff.mpr, append_nil]
  · intro draft member
    rw [mem_singleton.mp member]
    change ¬(!decide (tracker.nextDraftId = tracker.nextDraftId)) = true
    rw [decide_eq_true rfl]
    exact Bool.false_ne_true
  intro draft member
  have below := sound.fresh draft member
  rw [decide_eq_false (Nat.ne_of_lt below)]
  rfl

variable {originalValues : List Value}

/-- Undoing a delete forgets that the row was deleted before. -/
private theorem undo_trackDelete_iff {rowKey : RowKey} :
    SameEdits ((tracker.trackDelete rowKey originalValues).undo printing) tracker ↔
      tracker.deletes.get? rowKey = none := by
  refine (sameEdits_deletes_iff (by rfl) (by rfl)).trans ?_
  constructor
  · intro same
    rw [← same rowKey]
    exact Assoc.get?_erase_self _ _
  intro absent other
  by_cases here : other = rowKey
  · rw [here, absent]
    exact Assoc.get?_erase_self _ _
  · exact (Assoc.get?_erase_ne _ here).trans (Assoc.get?_insert_ne _ _ here)

/-- Undoing an edit of a draft's cell marks the cell touched exactly when it has a value. -/
private theorem undo_trackDraftCellEdit_iff {draftId col : Nat} {newValue : Value}
    {draft : DraftRow}
    (found : findDraft tracker.inserts draftId = some draft) (inside : col < draft.values.length) :
    SameEdits ((tracker.trackDraftCellEdit draftId col newValue).1.undo printing) tracker ↔
      draft.touched[col]? = some (!isNull (draft.values.getD col .null)) := by
  have step : (tracker.trackDraftCellEdit draftId col newValue).1 = ({ tracker with
        inserts := updateDraft draftId (fun draft => draft.set col newValue true)
          tracker.inserts }).pushUndo (.cellEdit (.draft draftId) col
            (draft.values.getD col .null) newValue (draft.values.getD col .null)) := by
    simp [trackDraftCellEdit, found, if_pos inside]
  have here : draft.values[col]? = some (draft.values.getD col .null) := by
    rw [getD_eq_getElem?_getD, getElem?_eq_getElem inside]
    rfl
  rw [step]
  refine (sameEdits_inserts_iff (by rfl) (by rfl)).trans ?_
  refine draftCell_restored_iff.trans ?_
  constructor
  · intro restored
    exact (restored draft found inside).2
  intro flag other same _
  rw [found] at same
  cases same
  exact ⟨here, flag⟩

/-! ### Undo and then redo -/

variable (printing) in
/-- The tracker is as the operation left it, as far as the record goes. -/
def LeftBy (tracker : TabChangeTracker) : UndoOp → Prop
  | .cellEdit (.persisted values) col _ newValue base =>
    tracker.updates.get? (.persisted values, col) = pendingEdit printing base newValue
  | .cellEdit (.draft draftId) col _ newValue _ =>
    ∀ draft, findDraft tracker.inserts draftId = some draft → col < draft.values.length →
      draft.values[col]? = some newValue ∧ draft.touched[col]? = some true
  | .insert draftId values => ∃ others, tracker.inserts = others ++ [new draftId values] ∧
      ∀ draft ∈ others, draft.draftId ≠ draftId
  | .delete rowKey originalValues => tracker.deletes.get? rowKey = some originalValues

private theorem deletes_insert_same_iff {first second : Assoc RowKey (List Value)} {rowKey : RowKey}
    (elsewhere : ∀ other, other ≠ rowKey → first.get? other = second.get? other) :
    (first.insert rowKey originalValues).Same second ↔
      second.get? rowKey = some originalValues := by
  constructor
  · intro same
    rw [← same rowKey]
    exact first.get?_insert_self _ _
  intro present other
  by_cases here : other = rowKey
  · rw [here, present]
    exact first.get?_insert_self _ _
  · rw [first.get?_insert_ne _ here]
    exact elsewhere other here

/-- Taken out and added again, a draft comes last. -/
private theorem draft_readded_iff {drafts : List DraftRow} {draftId : Nat} {values : List Value} :
    drafts.filter (fun draft => !decide (draft.draftId = draftId)) ++ [new draftId values] =
        drafts ↔
      ∃ others, drafts = others ++ [new draftId values] ∧
        ∀ draft ∈ others, draft.draftId ≠ draftId := by
  constructor
  · intro same
    refine ⟨_, same.symm, fun draft member => ?_⟩
    simpa using (mem_filter.mp member).2
  rintro ⟨others, rfl, apart⟩
  have own : [new draftId values].filter (fun draft => !decide (draft.draftId = draftId)) = [] := by
    simp [DraftRow.new]
  rw [filter_append, own, append_nil, filter_eq_self.mpr]
  intro draft member
  simpa using apart draft member

/-- A redo of a record changes nothing when the tracker is as its operation left it, which a
new draft never is. -/
private theorem redo_same_iff (sound : Sound printing tracker) {op : UndoOp} {rest : List UndoOp}
    (records : tracker.redoList = op :: rest) :
    SameEdits (tracker.redo printing) tracker ↔
      (∀ draftId values, op ≠ .insert draftId values) ∧ LeftBy printing tracker op := by
  cases op with
  | cellEdit rowKey col prevValue newValue base =>
    have other : ∀ draftId values, UndoOp.cellEdit rowKey col prevValue newValue base ≠
        .insert draftId values := by simp
    cases rowKey with
    | draft draftId =>
      simp only [redo, records]
      refine (sameEdits_inserts_iff (by rfl) (by rfl)).trans ?_
      refine updateDraft_eq_self_iff.trans ?_
      simp only [set_eq_self_iff]
      exact ⟨fun known => ⟨other, known⟩, And.right⟩
    | persisted values =>
    have redone := sound.redone values col
    rw [records] at redone
    refine (redo_cell records (chained_here redone)).same_iff.trans ?_
    exact ⟨fun left => ⟨other, left⟩, And.right⟩
  | insert draftId values =>
    simp only [redo, records]
    refine (sameEdits_inserts_iff (by rfl) (by rfl)).trans ?_
    constructor
    · intro same
      have longer := congrArg length same
      rw [length_append, length_singleton] at longer
      omega
    · intro both
      exact absurd rfl (both.1 draftId values)
  | delete rowKey originalValues =>
    simp only [redo, records]
    refine (sameEdits_deletes_iff (by rfl) (by rfl)).trans ?_
    refine (deletes_insert_same_iff fun _ _ => rfl).trans ?_
    constructor
    · exact fun present => ⟨by simp, present⟩
    · exact And.right

/-- An undo and a redo cancel when the tracker is as the undone operation left it. -/
private theorem redo_undo_same_iff (sound : Sound printing tracker) {op : UndoOp}
    {rest : List UndoOp} (records : tracker.undoList = op :: rest) :
    SameEdits ((tracker.undo printing).redo printing) tracker ↔ LeftBy printing tracker op := by
  cases op with
  | cellEdit rowKey col prevValue newValue base =>
    cases rowKey with
    | draft draftId =>
      simp only [undo, records]
      refine (sameEdits_inserts_iff (by rfl) (by rfl)).trans ?_
      exact draftCell_restored_iff
    | persisted values =>
    have undone := sound.undone values col
    rw [records] at undone
    obtain ⟨moved, next⟩ := undo_cell records (chained_here undone)
    exact (moved.trans (redo_cell next ((moved.updates _).trans (if_pos rfl)))).same_iff
  | insert draftId values =>
    simp only [undo, records]
    refine (sameEdits_inserts_iff (by rfl) (by rfl)).trans ?_
    exact draft_readded_iff
  | delete rowKey originalValues =>
    simp only [undo, records]
    refine (sameEdits_deletes_iff (by rfl) (by rfl)).trans ?_
    exact deletes_insert_same_iff fun other different => tracker.deletes.get?_erase_ne different

/-! ### The whole of it -/

/-- The edits of the grid: of a row of the table, or of a draft that is there. -/
def GridEdit (tracker : TabChangeTracker) : Operation → Prop
  | .cellEdit (.persisted _) _ _ _ => True
  | .insert _ => True
  | .delete (.persisted _) _ => True
  | .draftCellEdit draftId col newValue =>
    (tracker.trackDraftCellEdit draftId col newValue).2 = true
  | _ => False

/-- The operation replaces nothing that its record does not keep. -/
def Recorded (tracker : TabChangeTracker) : Operation → Prop
  | .delete rowKey _ => tracker.deletes.get? rowKey = none
  | .draftCellEdit draftId col _ =>
    ∀ draft, findDraft tracker.inserts draftId = some draft →
      draft.touched[col]? = some (!isNull (draft.values.getD col .null))
  | _ => True

variable (printing) in
/-- The record an undo and a redo work on finds the tracker as its operation left it. Where
nothing is left to undo, the redo works on a record of its own. -/
def Retraceable (tracker : TabChangeTracker) : Prop :=
  match tracker.undoList, tracker.redoList with
  | op :: _, _ => LeftBy printing tracker op
  | [], op :: _ => (∀ draftId values, op ≠ .insert draftId values) ∧ LeftBy printing tracker op
  | [], [] => True

private theorem undo_apply_same_iff (sound : Sound printing tracker) {operation : Operation}
    (edits : GridEdit tracker operation) :
    SameEdits ((tracker.apply printing operation).undo printing) tracker ↔
      Recorded tracker operation := by
  cases operation with
  | cellEdit rowKey col original newValue =>
    cases rowKey with
    | draft draftId => cases edits
    | persisted values =>
      exact ⟨fun _ => trivial, fun _ => undo_trackCellEdit sound⟩
  | insert defaultValues => exact ⟨fun _ => trivial, fun _ => undo_trackInsert sound⟩
  | delete rowKey originalValues => exact undo_trackDelete_iff
  | draftCellEdit draftId col newValue =>
    simp only [GridEdit, trackDraftCellEdit] at edits
    split at edits
    · cases edits
    rename_i draft found
    split at edits
    · rename_i inside
      refine (undo_trackDraftCellEdit_iff found inside).trans ?_
      constructor
      · intro flag other same
        rw [found] at same
        cases same
        exact flag
      · intro known
        exact known draft found
    · cases edits
  | discardDraft | undo | redo | clear => cases edits

private theorem redo_undo_iff (sound : Sound printing tracker) :
    SameEdits ((tracker.undo printing).redo printing) tracker ↔ Retraceable printing tracker := by
  unfold Retraceable
  split
  · rename_i records
    exact redo_undo_same_iff sound records
  · rename_i nothing records
    have idle : tracker.undo printing = tracker := by
      unfold undo
      rw [nothing]
    rw [idle]
    exact redo_same_iff sound records
  rename_i nothing none
  have idle : (tracker.undo printing).redo printing = tracker := by
    simp [undo, nothing, redo, none]
  rw [idle]
  exact ⟨fun _ => trivial, fun _ => ⟨rfl, Assoc.Same.refl _, Assoc.Same.refl _⟩⟩

/-- For every tracker operations lead to and every edit of the grid, undo takes the edit back
and redo the undo exactly when nothing was replaced that the records do not keep. -/
theorem undo_redo_exact_iff (reachable : Reachable printing tracker) {operation : Operation}
    (edits : GridEdit tracker operation) :
    (SameEdits ((tracker.apply printing operation).undo printing) tracker ∧
        SameEdits ((tracker.undo printing).redo printing) tracker) ↔
      Recorded tracker operation ∧ Retraceable printing tracker :=
  and_congr (undo_apply_same_iff (reachable_sound reachable) edits)
    (redo_undo_iff (reachable_sound reachable))

def plainPrinting : Printing where
  json _ := "null"
  readJson _ := some .null
  readDecimal text := some text

/-- A draft whose only cell holds NULL and was not touched: its edit is taken back, and so is
the undo of the draft itself. -/
theorem undo_redo_exact_draft :
    let tracker := TabChangeTracker.new.apply plainPrinting (.insert [.null])
    SameEdits ((tracker.apply plainPrinting (.draftCellEdit 0 0 (.int 7))).undo plainPrinting)
        tracker ∧
      SameEdits ((tracker.undo plainPrinting).redo plainPrinting) tracker := by
  intro tracker
  have reachable : Reachable plainPrinting tracker := .apply .new _
  have edits : GridEdit tracker (.draftCellEdit 0 0 (.int 7)) := rfl
  refine (undo_redo_exact_iff reachable edits).mpr ⟨?_, [], rfl, by simp⟩
  rintro draft ⟨⟩
  rfl

/-- A draft with a default value in its cell, which was not touched; after an edit and its undo
the cell counts as touched. -/
theorem undo_touches_default :
    ∃ tracker operation, Reachable plainPrinting tracker ∧ GridEdit tracker operation ∧
      ¬SameEdits ((tracker.apply plainPrinting operation).undo plainPrinting) tracker := by
  refine ⟨TabChangeTracker.new.apply plainPrinting (.insert [.int 5]),
    .draftCellEdit 0 0 (.int 7), .apply .new _, rfl, ?_⟩
  intro same
  have drafts := congrArg (map DraftRow.touched) same.inserts
  cases drafts

end Bookie.Edits
