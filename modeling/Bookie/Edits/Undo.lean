/-
Undo and redo of pending edits. Each operation leaves a record of what it replaced;
that of a draft's cell leaves out whether the cell had been touched, and that of a
delete whether the row was deleted already.
-/

import Bookie.Edits.Tracker

namespace Bookie.Edits

open Bookie.Core Store List TabChangeTracker

/-- The edits a save would see are the same. -/
structure SameEdits (first second : TabChangeTracker) : Prop where
  inserts : first.inserts = second.inserts
  deletes : first.deletes.Same second.deletes
  updates : first.updates.Same second.updates

/-! ### Draft cells -/

namespace DraftRow

variable {draft : DraftRow} {column : Nat}

theorem set_set {first second : Value} {before after : Bool} :
    (draft.set column first before).set column second after = draft.set column second after := by
  simp [set]

theorem set_eq_self_iff {value : Value} {touched : Bool} :
    draft.set column value touched = draft ↔
      (column < draft.values.length →
        draft.values[column]? = some value ∧ draft.touched[column]? = some touched) := by
  have ends : ∀ {α : Type} (items : List α) (item : α), items.set column item = items ↔
      (column < items.length → items[column]? = some item) := by
    intro α items item
    constructor
    · intro same inside
      rw [← same, getElem?_set_self inside]
    intro here
    by_cases inside : column < items.length
    · obtain ⟨_, known⟩ := List.getElem?_eq_some_iff.mp (here inside)
      rw [← known, set_getElem_self]
    · exact set_eq_of_length_le (Nat.not_lt.mp inside)
  cases draft with
  | mk draftId values flags sized =>
  simp only [set, mk.injEq, true_and]
  rw [ends values value, ends flags touched, sized]
  constructor
  · rintro ⟨first, second⟩ inside
    exact ⟨first inside, second inside⟩
  · intro both
    exact ⟨fun inside => (both inside).1, fun inside => (both inside).2⟩

end DraftRow

section Drafts

variable {draftId : Nat} {change first second : DraftRow → DraftRow} {drafts : List DraftRow}

theorem updateDraft_updateDraft (keeps : ∀ draft, (first draft).draftId = draft.draftId) :
    updateDraft draftId second (updateDraft draftId first drafts) =
      updateDraft draftId (fun draft => second (first draft)) drafts := by
  induction drafts with
  | nil => rfl
  | cons draft rest ih =>
    simp only [updateDraft]
    by_cases here : draft.draftId = draftId
    · rw [if_pos here, if_pos here, updateDraft, if_pos ((keeps draft).trans here)]
    · rw [if_neg here, if_neg here, updateDraft, if_neg here, ih]

theorem updateDraft_eq_self_iff :
    updateDraft draftId change drafts = drafts ↔
      ∀ draft, findDraft drafts draftId = some draft → change draft = draft := by
  induction drafts with
  | nil =>
    constructor
    · intro _ draft found; cases found
    · intro _; rfl
  | cons draft rest ih =>
    unfold findDraft at ih ⊢
    simp only [updateDraft]
    by_cases here : draft.draftId = draftId
    · rw [if_pos here, find?_cons, decide_eq_true here]
      constructor
      · intro same other found
        cases found
        exact (cons.inj same).1
      · intro known
        rw [known draft rfl]
    rw [if_neg here, find?_cons, decide_eq_false here, ← ih]
    constructor
    · intro same
      exact (cons.inj same).2
    · intro same
      rw [same]

private theorem updateDraft_ids {draft : DraftRow}
    (member : draft ∈ updateDraft draftId change drafts)
    (keeps : ∀ draft, (change draft).draftId = draft.draftId) :
    ∃ other ∈ drafts, other.draftId = draft.draftId := by
  induction drafts with
  | nil => cases member
  | cons first rest ih =>
    simp only [updateDraft] at member
    split at member
    · rcases mem_cons.mp member with rfl | later
      · exact ⟨first, mem_cons_self .., (keeps first).symm⟩
      · exact ⟨draft, mem_cons_of_mem _ later, rfl⟩
    rcases mem_cons.mp member with rfl | later
    · exact ⟨draft, mem_cons_self .., rfl⟩
    · obtain ⟨other, inside, same⟩ := ih later
      exact ⟨other, mem_cons_of_mem _ inside, same⟩

end Drafts

/-! ### Cells of the table -/

section Cells

variable (printing : Printing)

def pendingEdit (base target : Value) : Option CellEdit :=
  if sameValue printing base target then none
  else some { prevValue := base, newValue := target }

variable {printing} {tracker : TabChangeTracker} {rowKey : RowKey} {col : Nat}
  {base stored target original newValue : Value} {cell : RowKey × Nat}

private theorem pendingEdit_self : pendingEdit printing base base = none := by
  unfold pendingEdit sameValue
  rw [decide_eq_true rfl]
  rfl

private theorem pendingEdit_base :
    ((pendingEdit printing base target).map CellEdit.prevValue).or (some base) = some base := by
  unfold pendingEdit
  split
  · rfl
  · rfl

/-- An edit back to the table's value is forgotten, any other is kept. -/
private theorem get?_put {updates : Assoc (RowKey × Nat) CellEdit} {key : RowKey × Nat}
    {same : Bool} {edit : CellEdit} :
    (if same then updates.erase key else updates.insert key edit).get? cell =
      if cell = key then if same then none else some edit else updates.get? cell := by
  by_cases here : cell = key
  · subst here
    rw [if_pos rfl]
    cases same with
    | true => exact updates.get?_erase_self _
    | false => exact updates.get?_insert_self _ _
  rw [if_neg here]
  cases same with
  | true => exact updates.get?_erase_ne here
  | false => exact updates.get?_insert_ne _ here

private theorem setPendingEdit_get
    (known : ((tracker.updates.get? (rowKey, col)).map CellEdit.prevValue).or (some base) =
      some stored) :
    (tracker.setPendingEdit printing rowKey col (some base) target).updates.get? cell =
      if cell = (rowKey, col) then pendingEdit printing stored target
      else tracker.updates.get? cell := by
  unfold setPendingEdit
  simp only [known]
  rw [pendingEdit, ← get?_put]
  cases sameValue printing stored target with
  | true | false => rfl

private theorem setPendingEdit_rest {untouched : Option Value} :
    ∃ updates, tracker.setPendingEdit printing rowKey col untouched target =
      { tracker with updates } := by
  unfold setPendingEdit
  simp only
  split
  · split
    · exact ⟨_, rfl⟩
    · exact ⟨_, rfl⟩
  · exact ⟨_, rfl⟩

/-- What an edit of a cell starts from: the table's value and the value shown. -/
def startingValues (tracker : TabChangeTracker) (rowKey : RowKey) (col : Nat) (original : Value) :
    Value × Value :=
  match tracker.updates.get? (rowKey, col) with
  | none => (original, original)
  | some edit => (edit.prevValue, edit.newValue)

theorem trackCellEdit_get :
    (tracker.trackCellEdit printing rowKey col original newValue).updates.get? cell =
      if cell = (rowKey, col) then
        pendingEdit printing (startingValues tracker rowKey col original).1 newValue
      else tracker.updates.get? cell := by
  exact get?_put

def Tidy (printing : Printing) (tracker : TabChangeTracker) : Prop :=
  ∀ cell edit, tracker.updates.get? cell = some edit →
    sameValue printing edit.prevValue edit.newValue = false

/-- In a tidy tracker the starting values say exactly what is kept of the cell. -/
theorem pendingEdit_starting (tidy : Tidy printing tracker) :
    pendingEdit printing (startingValues tracker rowKey col original).1
        (startingValues tracker rowKey col original).2 = tracker.updates.get? (rowKey, col) := by
  unfold startingValues
  cases found : tracker.updates.get? (rowKey, col) with
  | none => exact pendingEdit_self
  | some edit =>
  have differs := tidy _ edit found
  unfold pendingEdit
  rw [differs]
  rfl

end Cells

/-! ### The history of a cell -/

section History

variable (printing : Printing)

/-- The record read the other way, as redo reads it. -/
def UndoOp.turned : UndoOp → UndoOp
  | .cellEdit rowKey col prevValue newValue base => .cellEdit rowKey col newValue prevValue base
  | op => op

/-- Going back through the records, each one of the cell finds it as it left it. -/
def Chained (cell : RowKey × Nat) : Option CellEdit → List UndoOp → Prop
  | _, [] => True
  | current, .cellEdit rowKey col prevValue newValue base :: rest =>
    if (rowKey, col) = cell then
      current = pendingEdit printing base newValue ∧
        Chained cell (pendingEdit printing base prevValue) rest
    else Chained cell current rest
  | current, _ :: rest => Chained cell current rest

variable {printing} {tracker : TabChangeTracker} {cell : RowKey × Nat} {current : Option CellEdit}
  {draftId col : Nat} {values : List KeyValue} {rowKey : RowKey} {base shown target : Value}
  {op : UndoOp} {ops : List UndoOp}

private theorem Chained.imp_tail {rest more : List UndoOp}
    (tail : ∀ {current}, Chained printing cell current rest → Chained printing cell current more)
    (chained : Chained printing cell current (op :: rest)) :
    Chained printing cell current (op :: more) := by
  cases op with
  | cellEdit rowKey col prevValue newValue base =>
    rw [Chained] at chained ⊢
    split at chained
    · rename_i here
      rw [if_pos here]
      exact ⟨chained.1, tail chained.2⟩
    · rename_i elsewhere
      rw [if_neg elsewhere]
      exact tail chained
  | insert | delete => exact tail chained

private theorem Chained.dropLast (chained : Chained printing cell current ops) :
    Chained printing cell current ops.dropLast := by
  induction ops generalizing current with
  | nil => exact chained
  | cons op rest ih =>
    cases rest with
    | nil => exact trivial
    | cons next rest =>
    rw [dropLast_cons_cons]
    exact chained.imp_tail ih

private theorem Chained.discard (chained : Chained printing (.persisted values, col) current ops) :
    Chained printing (.persisted values, col) current
      (ops.filter (fun op => !undoOpMatchesDraft draftId op)) := by
  induction ops generalizing current with
  | nil => exact chained
  | cons op rest ih =>
    rw [filter_cons]
    split
    · exact chained.imp_tail ih
    rename_i discarded
    apply ih
    cases op with
    | insert | delete => exact chained
    | cellEdit rowKey column prevValue newValue base =>
    cases rowKey with
    | draft id => exact chained
    | persisted keys => exact absurd rfl discarded

/-- What holds of every tracker that operations lead to. -/
structure Sound (printing : Printing) (tracker : TabChangeTracker) : Prop where
  tidy : Tidy printing tracker
  undone : ∀ values col, Chained printing (.persisted values, col)
    (tracker.updates.get? (.persisted values, col)) tracker.undoList
  redone : ∀ values col, Chained printing (.persisted values, col)
    (tracker.updates.get? (.persisted values, col)) (tracker.redoList.map UndoOp.turned)
  fresh : ∀ draft ∈ tracker.inserts, draft.draftId < tracker.nextDraftId
  numbered : ∀ draftId values, .insert draftId values ∈ tracker.undoList ++ tracker.redoList →
    draftId < tracker.nextDraftId

private theorem sound_clear : Sound printing tracker.clear where
  tidy := fun _ _ => nofun
  undone := fun _ _ => trivial
  redone := fun _ _ => trivial
  fresh := fun _ => nofun
  numbered := fun _ _ => nofun

/-- A new record keeps the tracker sound when it finds its cell as it left it. -/
private theorem sound_pushUndo (tidy : Tidy printing tracker)
    (undone : ∀ values col, Chained printing (.persisted values, col)
      (tracker.updates.get? (.persisted values, col)) (op :: tracker.undoList))
    (fresh : ∀ draft ∈ tracker.inserts, draft.draftId < tracker.nextDraftId)
    (numbered : ∀ draftId values, .insert draftId values ∈ op :: tracker.undoList →
      draftId < tracker.nextDraftId) : Sound printing (tracker.pushUndo op) where
  tidy := tidy
  undone := by
    intro values col
    change Chained printing _ _ (op :: if tracker.undoList.length = undoLimit then
      tracker.undoList.dropLast else tracker.undoList)
    split
    · rename_i full
      have some : tracker.undoList ≠ [] := by
        intro nothing
        rw [nothing] at full
        cases full
      rw [← dropLast_cons_of_ne_nil some]
      exact (undone values col).dropLast
    · exact undone values col
  redone := fun _ _ => trivial
  fresh := fresh
  numbered := by
    intro draftId values member
    apply numbered draftId values
    change _ ∈ (op :: if tracker.undoList.length = undoLimit then
      tracker.undoList.dropLast else tracker.undoList) ++ [] at member
    rw [append_nil] at member
    rcases mem_cons.mp member with first | later
    · exact mem_cons.mpr (Or.inl first)
    apply mem_cons_of_mem
    split at later
    · exact mem_of_mem_dropLast later
    · exact later

variable (sound : Sound printing tracker)
include sound

private theorem tidy_moved {after : Assoc (RowKey × Nat) CellEdit}
    (get : ∀ other, after.get? other =
      if other = cell then pendingEdit printing base target else tracker.updates.get? other) :
    ∀ other edit, after.get? other = some edit →
      sameValue printing edit.prevValue edit.newValue = false := by
  intro other edit found
  rw [get] at found
  split at found
  · unfold pendingEdit at found
    split at found
    · cases found
    · rename_i differs
      cases found
      exact Bool.eq_false_iff.mpr differs
  · exact sound.tidy other edit found

private theorem numbered_push (other : ∀ draftId values, .insert draftId values ≠ op) :
    ∀ draftId values, .insert draftId values ∈ op :: tracker.undoList →
      draftId < tracker.nextDraftId := by
  intro draftId values member
  rcases mem_cons.mp member with first | later
  · exact absurd first (other draftId values)
  · exact sound.numbered draftId values (mem_append_left _ later)

private theorem sound_cellEdit {original newValue : Value} :
    Sound printing (tracker.trackCellEdit printing rowKey col original newValue) := by
  have get := @trackCellEdit_get printing tracker rowKey col original newValue
  refine sound_pushUndo (tidy_moved sound fun _ => get) ?_ sound.fresh
    (@numbered_push _ tracker _ sound fun _ _ => nofun)
  intro values column
  have here := @get (.persisted values, column)
  have before := sound.undone values column
  simp only [Chained]
  split
  · rename_i same
    rw [if_pos same.symm] at here
    refine ⟨here, ?_⟩
    rw [← same, ← @pendingEdit_starting _ _ _ _ original sound.tidy] at before
    rw [same] at before
    exact before
  rename_i elsewhere
  rw [if_neg (Ne.symm elsewhere)] at here
  rw [← here] at before
  exact before

private theorem sound_insert {values : List Value} :
    Sound printing (tracker.trackInsert values).1 := by
  refine sound_pushUndo sound.tidy sound.undone ?_ ?_
  · intro draft member
    rcases mem_append.mp member with earlier | own
    · exact Nat.lt_succ_of_lt (sound.fresh draft earlier)
    · rw [mem_singleton.mp own]
      exact Nat.lt_succ_self _
  intro draftId others member
  rcases mem_cons.mp member with first | later
  · cases first
    exact Nat.lt_succ_self _
  · exact Nat.lt_succ_of_lt (sound.numbered draftId others (mem_append_left _ later))

private theorem sound_delete {originalValues : List Value} :
    Sound printing (tracker.trackDelete rowKey originalValues) :=
  sound_pushUndo sound.tidy sound.undone sound.fresh
    (@numbered_push _ tracker _ sound fun _ _ => nofun)

private theorem fresh_updateDraft {value : Value} {touched : Bool} :
    ∀ draft ∈ updateDraft draftId (fun draft => draft.set col value touched) tracker.inserts,
      draft.draftId < tracker.nextDraftId := by
  intro draft member
  obtain ⟨other, inside, same⟩ := updateDraft_ids member fun _ => rfl
  rw [← same]
  exact sound.fresh other inside

private theorem sound_draftCellEdit {newValue : Value} :
    Sound printing (tracker.trackDraftCellEdit draftId col newValue).1 := by
  unfold trackDraftCellEdit
  split
  · exact sound
  split
  · refine sound_pushUndo sound.tidy ?_ (fresh_updateDraft sound)
      (@numbered_push _ tracker _ sound fun _ _ => nofun)
    intro values column
    exact sound.undone values column
  · exact sound

omit sound in
private theorem undoOpMatchesDraft_turned :
    undoOpMatchesDraft draftId op.turned = undoOpMatchesDraft draftId op := by
  cases op with
  | cellEdit rowKey col prevValue newValue base => cases rowKey <;> rfl
  | insert | delete => rfl

private theorem sound_discardDraft : Sound printing (tracker.discardDraft draftId).1 := by
  have kept : ∀ values col,
      (tracker.updates.retain (fun key => !key.1.isDraft draftId)).get? (.persisted values, col) =
        tracker.updates.get? (.persisted values, col) := by
    intro values col
    rw [Assoc.get?_retain]
    rfl
  unfold discardDraft
  simp only
  split
  · exact sound
  constructor
  · intro cell edit found
    have known := (Assoc.get?_retain tracker.updates _ cell).symm.trans found
    split at known
    · exact sound.tidy cell edit known
    · cases known
  · intro values col
    simp only [kept]
    exact (sound.undone values col).discard
  · intro values col
    simp only [kept]
    have turned : (tracker.redoList.filter (fun op => !undoOpMatchesDraft draftId op)).map
        UndoOp.turned = (tracker.redoList.map UndoOp.turned).filter
          (fun op => !undoOpMatchesDraft draftId op) := by
      rw [filter_map]
      congr 1
      apply filter_congr
      intro op _
      rw [Function.comp_apply, undoOpMatchesDraft_turned]
    rw [turned]
    exact (sound.redone values col).discard
  · intro draft member
    exact sound.fresh draft (mem_filter.mp member).1
  intro id values member
  apply sound.numbered id values
  rcases mem_append.mp member with left | right
  · exact mem_append_left _ (mem_filter.mp left).1
  · exact mem_append_right _ (mem_filter.mp right).1

omit sound in
/-- A record read off one list and put on the other moves its cell one step along its history. -/
private theorem chained_moved {behind ahead : List UndoOp}
    (leaving : Chained printing cell current (.cellEdit rowKey col target shown base :: behind))
    (entering : Chained printing cell current ahead) :
    Chained printing cell
        (if cell = (rowKey, col) then pendingEdit printing base target else current) behind ∧
      Chained printing cell
        (if cell = (rowKey, col) then pendingEdit printing base target else current)
        (.cellEdit rowKey col shown target base :: ahead) := by
  simp only [Chained] at leaving ⊢
  by_cases here : (rowKey, col) = cell
  · rw [if_pos here] at leaving ⊢
    rw [if_pos here.symm]
    refine ⟨leaving.2, rfl, ?_⟩
    rw [← leaving.1]
    exact entering
  · rw [if_neg here] at leaving ⊢
    rw [if_neg (Ne.symm here)]
    exact ⟨leaving, entering⟩

omit sound in
theorem setPendingEdit_moved (popped : TabChangeTracker) (target : Value)
    (current : popped.updates.get? (.persisted values, col) = pendingEdit printing base shown) :
    ∃ updates, popped.setPendingEdit printing (.persisted values) col (some base) target =
        { popped with updates } ∧
      ∀ cell, updates.get? cell =
        if cell = (.persisted values, col) then pendingEdit printing base target
        else popped.updates.get? cell := by
  obtain ⟨updates, same⟩ := @setPendingEdit_rest printing popped (.persisted values) col target
    (some base)
  refine ⟨updates, same, fun cell => ?_⟩
  have get := @setPendingEdit_get printing popped (.persisted values) col base base target cell
    (by rw [current]; exact pendingEdit_base)
  rw [same] at get
  exact get

omit sound in
private theorem chained_draft {id column : Nat} :
    Chained printing (.persisted values, column) current
        (.cellEdit (.draft id) col target shown base :: ops) ↔
      Chained printing (.persisted values, column) current ops := by
  rw [Chained, if_neg (by intro same; cases same)]

omit sound in
theorem chained_here
    (chained : Chained printing (rowKey, col) current
      (.cellEdit rowKey col target shown base :: ops)) :
    current = pendingEdit printing base shown := by
  rw [Chained, if_pos rfl] at chained
  exact chained.1

private theorem sound_undo : Sound printing (tracker.undo printing) := by
  unfold undo
  split
  · exact sound
  rename_i op rest records
  have undone := sound.undone
  have numbered : ∀ draftId values, .insert draftId values ∈ rest ++ op :: tracker.redoList →
      draftId < tracker.nextDraftId := by
    intro draftId values member
    apply sound.numbered draftId values
    rw [records]
    exact perm_middle.subset member
  rw [records] at undone
  cases op with
  | cellEdit rowKey col prevValue newValue base =>
    cases rowKey with
    | draft id =>
      exact ⟨sound.tidy, fun values column => chained_draft.mp (undone values column),
        fun values column => chained_draft.mpr (sound.redone values column),
        fresh_updateDraft sound, numbered⟩
    | persisted keys =>
      obtain ⟨updates, same, get⟩ := setPendingEdit_moved { tracker with undoList := rest }
        prevValue (chained_here (undone keys col))
      have moved := fun values column => chained_moved (undone values column)
        (sound.redone values column)
      simp only [← get] at moved
      simp only [same]
      exact ⟨tidy_moved sound get, fun values column => (moved values column).1,
        fun values column => (moved values column).2, sound.fresh, numbered⟩
  | insert id values =>
    refine ⟨sound.tidy, undone, sound.redone, ?_, numbered⟩
    intro draft member
    exact sound.fresh draft (mem_filter.mp member).1
  | delete rowKey originalValues =>
    exact ⟨sound.tidy, undone, sound.redone, sound.fresh, numbered⟩

private theorem sound_redo : Sound printing (tracker.redo printing) := by
  unfold redo
  split
  · exact sound
  rename_i op rest records
  have redone := sound.redone
  have numbered : ∀ draftId values, .insert draftId values ∈ (op :: tracker.undoList) ++ rest →
      draftId < tracker.nextDraftId := by
    intro draftId values member
    apply sound.numbered draftId values
    rw [records]
    exact perm_middle.symm.subset member
  rw [records] at redone
  cases op with
  | cellEdit rowKey col prevValue newValue base =>
    cases rowKey with
    | draft id =>
      exact ⟨sound.tidy, fun values column => chained_draft.mpr (sound.undone values column),
        fun values column => chained_draft.mp (redone values column),
        fresh_updateDraft sound, numbered⟩
    | persisted keys =>
      obtain ⟨updates, same, get⟩ := setPendingEdit_moved { tracker with redoList := rest }
        newValue (chained_here (redone keys col))
      have moved := fun values column => chained_moved (redone values column)
        (sound.undone values column)
      simp only [← get] at moved
      simp only [same]
      exact ⟨tidy_moved sound get, fun values column => (moved values column).2,
        fun values column => (moved values column).1, sound.fresh, numbered⟩
  | insert id values =>
    refine ⟨sound.tidy, sound.undone, redone, ?_, numbered⟩
    intro draft member
    rcases mem_append.mp member with earlier | own
    · exact sound.fresh draft earlier
    · rw [mem_singleton.mp own]
      exact numbered id values (mem_append_left _ (mem_cons_self ..))
  | delete rowKey originalValues =>
    exact ⟨sound.tidy, sound.undone, redone, sound.fresh, numbered⟩

end History

theorem reachable_sound {printing : Printing} {tracker : TabChangeTracker}
    (reachable : Reachable printing tracker) : Sound printing tracker := by
  induction reachable with
  | new => exact @sound_clear printing .new
  | apply _ operation sound =>
    cases operation with
    | cellEdit => exact sound_cellEdit sound
    | insert => exact sound_insert sound
    | delete => exact sound_delete sound
    | discardDraft => exact sound_discardDraft sound
    | draftCellEdit => exact sound_draftCellEdit sound
    | undo => exact sound_undo sound
    | redo => exact sound_redo sound
    | clear => exact sound_clear

end Bookie.Edits
