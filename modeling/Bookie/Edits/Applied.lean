/-
What a save does to the table. Its statements name the keys the rows had when they
were edited, and run one after another. The outcome is the pending edits made at
once exactly when every edited row is there under its original key.
-/

import Bookie.Edits.Built
import Bookie.Edits.Invertible

namespace Bookie.Edits

open Bookie.Core Store List TabChangeTracker

section Applied

variable (printing : Printing) (driverId : String) (columns : List TableColumn) (engine : Engine)
  (tracker : TabChangeTracker)

/-- The row key of a row, if its values can be read and the key stands for just them. -/
def named (row : Row) : Option RowKey :=
  (RowKey.fromPkValues printing (keyOf columns row)).filter
    (fun rowKey => decide (rowKey.values printing = keyOf columns row))

def appliedRow (row : Row) : Option Row :=
  match named printing columns row with
  | none => some row
  | some rowKey =>
    if tracker.deletes.contains rowKey then none
    else some (editedRow engine columns tracker rowKey row)

def applied (table : List Row) : List (Tuple Row) := table.filterMap (fun row =>
    (appliedRow printing columns engine tracker row).map (Tuple.mk (some row)))

def DraftInserted (draft : DraftRow) (tuple : Tuple Row) : Prop :=
  ∃ statement, buildInsertFromDraftTouched columns draft.values draft.touched = .ok statement ∧
    Inserted engine columns statement tuple

def Describes (statement : Statement) : StatementSource → Prop
  | .delete rowKey => tracker.deletes.contains rowKey = true ∧ ∃ comparisons,
      statement = .delete (keyedWhereClause (collectPkIndexes columns) (rowKey.values printing) ++
        comparisons)
  | .update rowKey => tracker.Updated rowKey ∧ ∃ comparisons,
      statement = .update (assignmentsOf (tracker.rowEdits rowKey))
        (keyedWhereClause (collectPkIndexes columns) (rowKey.values printing) ++ comparisons)
  | .insert draftId => ∃ draft ∈ tracker.inserts, draft.draftId = draftId ∧
      buildInsertFromDraftTouched columns draft.values draft.touched = .ok statement

def PersistedEdits : Prop :=
  (∀ entry ∈ tracker.deletes.entries, entry.1.isPersisted = true) ∧
    ∀ entry ∈ tracker.updates.entries, entry.1.1.isPersisted = true

/-- A run of the statements applies exactly the pending edits. -/
structure AppliesPending (table : List Row) (statements : List Statement)
    (sources : List StatementSource) (after : List (Tuple Row)) : Prop where
  affects : NamesAffected engine columns (named printing columns) (statements.zip sources)
    (original table)
  outcome : ∃ added, after = applied printing columns engine tracker table ++ added ∧
    Forall₂ (DraftInserted columns engine) tracker.inserts added
  paired : sources.length = statements.length
  described : ∀ (index : Nat) statement source, statements[index]? = some statement →
    sources[index]? = some source → Describes printing columns tracker statement source
  apart : ∀ rowKey, .update rowKey ∈ sources → .delete rowKey ∉ sources
  empty_iff : PersistedEdits tracker → (statements = [] ↔ tracker.hasPending = false)

/-- Every persisted row with a pending delete or edit is in the table under its original key,
with the values its statement compares. -/
structure InPlace (table : List Row) : Prop where
  deletes : ∀ entry ∈ tracker.deletes.entries, entry.1.isPersisted = true → ∃ row ∈ table,
    named printing columns row = some entry.1 ∧
      meets engine columns (deleteComparisons driverId columns entry.2) row = true
  updates : ∀ rowKey, tracker.Updated rowKey → rowKey.isPersisted = true → ∃ row ∈ table,
    named printing columns row = some rowKey ∧
      meets engine columns (updateComparisons driverId columns (tracker.rowEdits rowKey)
        (rowKey.values printing)) row = true

variable {printing driverId columns engine tracker}

variable {row : Row} {rowKey : RowKey}

private theorem named_values (known : named printing columns row = some rowKey) :
    rowKey.values printing = keyOf columns row :=
  of_decide_eq_true (Option.filter_eq_some_iff.mp known).2

private theorem named_persisted (known : named printing columns row = some rowKey) :
    rowKey.isPersisted = true := by
  have made := (Option.filter_eq_some_iff.mp known).1
  unfold RowKey.fromPkValues at made
  split at made
  · cases made
  · cases made
    rfl

private theorem meets_append (first second : List Condition) (row : Row) :
    meets engine columns (first ++ second) row = true ↔
      meets engine columns first row = true ∧ meets engine columns second row = true := by
  unfold meets
  rw [all_append, Bool.and_eq_true]

private theorem meets_named (comparisons : List Condition)
    (known : named printing columns row = some rowKey) :
    meets engine columns (keyedWhereClause (collectPkIndexes columns) (rowKey.values printing) ++
      comparisons) row = true ↔ meets engine columns comparisons row = true := by
  rw [meets_append, named_values known]
  exact and_iff_right (sameKey_refl row)

private theorem sameKey_of_meets {other : Row} {comparisons : List Condition}
    (known : named printing columns row = some rowKey)
    (met : meets engine columns
      (keyedWhereClause (collectPkIndexes columns) (rowKey.values printing) ++ comparisons)
        other = true) :
    SameKey engine columns other row := by
  rw [meets_append, named_values known] at met
  exact met.1

private theorem single_of_unique {table : List Row}
    (unique : Unique (SameKey engine columns) (original table)) :
    ∀ first ∈ table, ∀ second ∈ table, ∀ rowKey, named printing columns first = some rowKey →
      named printing columns second = some rowKey → first = second := by
  intro first firstIn second secondIn rowKey firstNamed secondNamed
  by_contra different
  have apart : table.Pairwise (fun left right =>
      ¬ SameKey engine columns left right ∧ ¬ SameKey engine columns right left) :=
    pairwise_map.mp unique
  have symmetric : Std.Symm (fun left right : Row =>
      ¬ SameKey engine columns left right ∧ ¬ SameKey engine columns right left) :=
    ⟨fun _ _ both => ⟨both.2, both.1⟩⟩
  apply (apart.forall firstIn secondIn different).1
  have keys : keyOf columns second = keyOf columns first :=
    (named_values secondNamed).symm.trans (named_values firstNamed)
  unfold SameKey
  rw [keys]
  exact sameKey_refl first

variable {order : RowOrder} {inserts : List (Statement × StatementSource)}

private theorem mem_keyedChanges {change : Statement × StatementSource} :
    change ∈ keyedChanges printing driverId columns tracker order ↔
      (∃ entry ∈ tracker.deletes.entries, entry.1.isPersisted = true ∧
        change = deleteChange printing driverId columns entry) ∨
      ∃ rowKey, tracker.Updated rowKey ∧ rowKey.isPersisted = true ∧
        change = updateChange printing driverId columns tracker rowKey := by
  unfold keyedChanges
  simp only [mem_append, mem_map, mem_filter, mem_deleteEntries, mem_updateEntries]
  refine or_congr ⟨?_, ?_⟩ ⟨?_, ?_⟩
  · rintro ⟨entry, ⟨member, persisted⟩, rfl⟩
    exact ⟨entry, member, persisted, rfl⟩
  · rintro ⟨entry, member, persisted, rfl⟩
    exact ⟨entry, ⟨member, persisted⟩, rfl⟩
  · rintro ⟨entry, ⟨⟨updated, _⟩, persisted⟩, rfl⟩
    exact ⟨entry.1, updated, persisted, rfl⟩
  · rintro ⟨rowKey, updated, persisted, rfl⟩
    exact ⟨(rowKey, tracker.rowEdits rowKey), ⟨⟨updated, rfl⟩, persisted⟩, rfl⟩

private theorem mem_writes {write : Write RowKey Row} :
    write ∈ writesOf engine columns (keyedChanges printing driverId columns tracker order) ↔
      (∃ entry ∈ tracker.deletes.entries, entry.1.isPersisted = true ∧ write =
        (deleteChange printing driverId columns entry).1.toWrite engine columns entry.1) ∨
      ∃ rowKey, tracker.Updated rowKey ∧ rowKey.isPersisted = true ∧ write =
        (updateChange printing driverId columns tracker rowKey).1.toWrite engine columns
          rowKey := by
  unfold writesOf
  simp only [mem_filterMap, mem_keyedChanges, Option.map_eq_some_iff]
  constructor
  · rintro ⟨change, ⟨entry, member, persisted, rfl⟩ | ⟨rowKey, updated, persisted, rfl⟩, key, known,
      rfl⟩
    · cases known
      exact .inl ⟨entry, member, persisted, rfl⟩
    · cases known
      exact .inr ⟨rowKey, updated, persisted, rfl⟩
  · rintro (⟨entry, member, persisted, rfl⟩ | ⟨rowKey, updated, persisted, rfl⟩)
    · exact ⟨_, .inl ⟨entry, member, persisted, rfl⟩, _, rfl, rfl⟩
    · exact ⟨_, .inr ⟨rowKey, updated, persisted, rfl⟩, _, rfl, rfl⟩

variable {drafts : List DraftRow}

private theorem inserts_drafts (made : collect (materializeInsert columns) drafts = .ok inserts) :
    Forall₂ (fun draft change => buildInsertFromDraftTouched columns draft.values
      draft.touched = .ok change.1 ∧ change.2 = .insert draft.draftId) drafts inserts := by
  induction drafts generalizing inserts with
  | nil =>
    cases made
    exact .nil
  | cons draft rest ih =>
    obtain ⟨built, others, first, later, rfl⟩ := collect_cons_ok made
    obtain ⟨statement, done, rfl⟩ := materializeInsert_ok first
    exact .cons ⟨done, rfl⟩ (ih later)

private theorem insert_keyless {columns : List TableColumn} {values : List Value}
    {touched : List Bool} {statement : Statement}
    (made : buildInsertFromDraftTouched columns values touched = .ok statement) :
    statement.isKeyed = false := by
  unfold buildInsertFromDraftTouched at made
  split at made
  · cases made
  dsimp only at made
  split at made
  · cases made
  · cases made
    rfl

private theorem insert_change (third : collect (materializeInsert columns) drafts = .ok inserts) :
    ∀ change ∈ inserts, ∃ draft ∈ drafts, change.2 = .insert draft.draftId ∧
      buildInsertFromDraftTouched columns draft.values draft.touched = .ok change.1 := by
  intro change member
  obtain ⟨draft, held, built⟩ := (mem_of_collect third change).mp member
  obtain ⟨statement, done, same⟩ := materializeInsert_ok built
  cases same
  exact ⟨draft, held, rfl, done⟩

private theorem keyed_changes :
    ∀ change ∈ keyedChanges printing driverId columns tracker order, KeyedChange change := by
  intro change member
  rcases mem_keyedChanges.mp member with ⟨entry, _, _, rfl⟩ | ⟨rowKey, _, _, rfl⟩
  · exact ⟨rfl, entry.1, rfl⟩
  · exact ⟨rfl, rowKey, rfl⟩

private theorem writesOf_keys {changes : List (Statement × StatementSource)}
    (all : ∀ change ∈ changes, KeyedChange change) :
    (writesOf engine columns changes).map (fun write => some write.key) =
      changes.map (fun change => change.2.rowKey?) := by
  induction changes with
  | nil => rfl
  | cons change rest ih =>
    obtain ⟨_, rowKey, known⟩ := all _ mem_cons_self
    rw [writesOf_cons known, map_cons, map_cons, known,
      ih (fun other member => all other (mem_cons_of_mem _ member))]
    rfl

private theorem changes_distinct : ((keyedChanges printing driverId columns tracker order).map
    (fun change => change.2.rowKey?)).Nodup := by
  have keys {α : Type} {entries : List (RowKey × α)} (distinct : (entries.map Prod.fst).Nodup) :
      ((entries.filter (fun entry => entry.1.isPersisted)).map
        (fun entry => some entry.1)).Nodup := by
    have names := (distinct.sublist (@filter_sublist _ (fun entry => entry.1.isPersisted)
      entries |>.map _)).map (Option.some_injective RowKey)
    rw [map_map] at names
    exact names
  unfold keyedChanges
  rw [map_append, map_map, map_map]
  refine nodup_append.mpr ⟨keys (tracker.deleteEntries_distinct order),
    keys (tracker.updateEntries_distinct order), ?_⟩
  intro left leftIn right rightIn same
  obtain ⟨entry, inDeletes, rfl⟩ := mem_map.mp leftIn
  obtain ⟨edited, inUpdates, rfl⟩ := mem_map.mp rightIn
  have member := (tracker.mem_deleteEntries order _).mp (mem_filter.mp inDeletes).1
  have updated := ((tracker.mem_updateEntries order _).mp (mem_filter.mp inUpdates).1).1
  have isRow : entry.1 = edited.1 := Option.some.inj same
  have kept := updated.kept
  rw [contains_deletes.mpr ⟨entry.2, isRow ▸ member⟩] at kept
  cases kept

private theorem writes_distinct : ((writesOf engine columns
    (keyedChanges printing driverId columns tracker order)).map Write.key).Nodup := by
  have keys := @changes_distinct printing driverId columns tracker order
  rw [← @writesOf_keys columns engine _ keyed_changes] at keys
  apply Nodup.of_map some
  rw [map_map]
  exact keys

private theorem editedRow_untouched (kept : tracker.deletes.contains rowKey = false)
    (untouched : ¬ tracker.Updated rowKey) (row : Row) :
    editedRow engine columns tracker rowKey row = row := by
  have none_ : ∀ column, tracker.updates.get? (rowKey, column) = none := by
    intro column
    apply (tracker.updates.get?_eq_none_iff _).mpr
    intro edit member
    apply untouched
    refine ⟨((rowKey, column), edit), mem_filter.mpr ⟨member, ?_⟩, rfl⟩
    rw [kept]
    rfl
  apply ext_getElem?
  intro column
  unfold editedRow
  rw [getElem?_mapIdx, none_]
  cases row[column]? <;> rfl

private theorem appliedRow_eq_written (row : Row) :
    appliedRow printing columns engine tracker row = written (named printing columns)
      (writesOf engine columns (keyedChanges printing driverId columns tracker order)) row := by
  have distinct := @writes_distinct printing driverId columns engine tracker order
  unfold appliedRow
  cases known : named printing columns row with
  | none =>
    symm
    apply written_unnamed
    intro write _ same
    rw [known] at same
    cases same
  | some rowKey =>
  have persisted := named_persisted known
  dsimp only
  by_cases deleted : tracker.deletes.contains rowKey = true
  · obtain ⟨values, member⟩ := contains_deletes.mp deleted
    rw [if_pos deleted, written_of_mem distinct
      (mem_writes.mpr (.inl ⟨(rowKey, values), member, persisted, rfl⟩)) known]
    rfl
  rw [if_neg deleted]
  have kept := Bool.eq_false_of_not_eq_true deleted
  by_cases updated : tracker.Updated rowKey
  · rw [written_of_mem distinct (mem_writes.mpr (.inr ⟨rowKey, updated, persisted, rfl⟩)) known,
      ← assign_rowEdits engine columns kept]
    rfl
  rw [editedRow_untouched kept updated, written_unnamed]
  intro write member same
  rw [known, Option.some_inj] at same
  subst same
  rcases mem_writes.mp member with ⟨entry, held, _, rfl⟩ | ⟨other, held, _, rfl⟩
  · exact deleted (contains_deletes.mpr ⟨entry.2, held⟩)
  · exact updated held

private theorem present_iff_inPlace (table : List Row) :
    (∀ write ∈ writesOf engine columns (keyedChanges printing driverId columns tracker order),
      ∃ row ∈ table, named printing columns row = some write.key ∧ write.affects row = true) ↔
      InPlace printing driverId columns engine tracker table := by
  constructor
  · intro present
    constructor
    · intro entry member persisted
      obtain ⟨row, inside, known, affects⟩ :=
        present _ (mem_writes.mpr (.inl ⟨entry, member, persisted, rfl⟩))
      exact ⟨row, inside, known, (meets_named _ known).mp affects⟩
    intro rowKey updated persisted
    obtain ⟨row, inside, known, affects⟩ :=
      present _ (mem_writes.mpr (.inr ⟨rowKey, updated, persisted, rfl⟩))
    exact ⟨row, inside, known, (meets_named _ known).mp affects⟩
  intro inPlace write member
  rcases mem_writes.mp member with
    ⟨entry, held, persisted, rfl⟩ | ⟨rowKey, updated, persisted, rfl⟩
  · obtain ⟨row, present, known, compared⟩ := inPlace.deletes entry held persisted
    exact ⟨row, present, known, (meets_named _ known).mpr compared⟩
  · obtain ⟨row, present, known, compared⟩ := inPlace.updates rowKey updated persisted
    exact ⟨row, present, known, (meets_named _ known).mpr compared⟩

private theorem writes_clash :
    ∀ write ∈ writesOf engine columns (keyedChanges printing driverId columns tracker order), ∀ row,
      named printing columns row = some write.key → ∀ other, write.affects other = true →
        SameKey engine columns other row := by
  intro write member row known other affects
  rcases mem_writes.mp member with ⟨entry, _, _, rfl⟩ | ⟨rowKey, _, _, rfl⟩
  · exact sameKey_of_meets known affects
  · exact sameKey_of_meets known affects

private theorem zip_changes (changes : List (Statement × StatementSource)) :
    (changes.map Prod.fst).zip (changes.map Prod.snd) = changes := by
  induction changes with
  | nil => rfl
  | cons change rest ih => rw [map_cons, map_cons, zip_cons_cons, ih]

section

variable (third : collect (materializeInsert columns) tracker.inserts = .ok inserts)
include third

private theorem describes_change {change : Statement × StatementSource}
    (member : change ∈ keyedChanges printing driverId columns tracker order ++ inserts) :
    Describes printing columns tracker change.1 change.2 := by
  rcases mem_append.mp member with keyed | inInserts
  · rcases mem_keyedChanges.mp keyed with ⟨entry, held, _, rfl⟩ | ⟨rowKey, updated, _, rfl⟩
    · exact ⟨contains_deletes.mpr ⟨entry.2, held⟩, _, rfl⟩
    · exact ⟨updated, _, rfl⟩
  · obtain ⟨draft, held, source, done⟩ := insert_change third change inInserts
    rw [source]
    exact ⟨draft, held, rfl, done⟩

private theorem apart_changes (updated : .update rowKey ∈
      (keyedChanges printing driverId columns tracker order ++ inserts).map Prod.snd) :
    .delete rowKey ∉
      (keyedChanges printing driverId columns tracker order ++ inserts).map Prod.snd := by
  intro deleted
  obtain ⟨edit, editIn, editSource⟩ := mem_map.mp updated
  obtain ⟨removal, removalIn, removalSource⟩ := mem_map.mp deleted
  have edited := describes_change third editIn
  have removed := describes_change third removalIn
  rw [editSource] at edited
  rw [removalSource] at removed
  have kept := edited.1.kept
  rw [removed.1] at kept
  cases kept

private theorem changes_empty_iff (persisted : PersistedEdits tracker) :
    keyedChanges printing driverId columns tracker order ++ inserts = [] ↔
      tracker.hasPending = false := by
  have noKeyed : keyedChanges printing driverId columns tracker order = [] ↔
      tracker.deletes.entries = [] ∧ tracker.liveUpdates = [] := by
    simp only [eq_nil_iff_forall_not_mem, mem_keyedChanges]
    constructor
    · intro none_
      exact ⟨fun entry member => none_ _ (.inl ⟨entry, member, persisted.1 entry member, rfl⟩),
        fun entry member => none_ _ (.inr ⟨entry.1.1, ⟨entry, member, rfl⟩,
          persisted.2 entry (mem_filter.mp member).1, rfl⟩)⟩
    · rintro ⟨noDeletes, noUpdates⟩ change (⟨entry, held, _⟩ | ⟨rowKey, ⟨entry, held, _⟩, _⟩)
      · exact noDeletes entry held
      · exact noUpdates entry held
  have lengths := (inserts_drafts third).length_eq
  have pending : tracker.hasPending = false ↔ tracker.inserts.length +
      tracker.deletes.entries.length + tracker.liveUpdates.length = 0 := by
    unfold hasPending
    rw [decide_eq_false_iff_not, Nat.not_lt, Nat.le_zero]
    rfl
  rw [append_eq_nil_iff, noKeyed, pending, ← length_eq_zero_iff, ← length_eq_zero_iff,
    ← length_eq_zero_iff]
  omega

end

private theorem drafts_inserted {added : List (Tuple Row)} (built : Forall₂ (fun draft change =>
      buildInsertFromDraftTouched columns draft.values draft.touched = .ok change.1 ∧ change.2 =
      .insert draft.draftId) drafts inserts)
    (each : Forall₂ (fun change tuple => Inserted engine columns change.1 tuple) inserts added) :
    Forall₂ (DraftInserted columns engine) drafts added := by
  induction built generalizing added with
  | nil =>
    cases each
    exact .nil
  | cons here _ ih =>
    cases each with
    | cons inserted later => exact .cons ⟨_, here.1, inserted⟩ (ih later)

/-- A save applies exactly the pending edits if and only if the rows they are for are in place. -/
theorem applies_pending_iff {table : List Row} {statements : List Statement}
    {sources : List StatementSource} {after : List (Tuple Row)}
    (made : tracker.materialize printing order driverId columns = .ok (statements, sources))
    (run : Runs engine columns statements (original table) after) :
    AppliesPending printing columns engine tracker table statements sources after ↔
      InPlace printing driverId columns engine tracker table := by
  obtain ⟨inserts, third, rfl, rfl⟩ := materialize_ok made
  have keyed := @keyed_changes printing driverId columns tracker order
  have single := @single_of_unique printing _ _ _ run.unique
  have distinct := @writes_distinct printing driverId columns engine tracker order
  obtain ⟨along, remaining⟩ := runs_keyed keyed run
  have start := @simultaneously_nil _ Row _ (named printing columns) table
  have drafts := inserts_drafts third
  have keyless : ∀ change ∈ inserts, change.2.rowKey? = none := by
    intro change member
    obtain ⟨draft, _, source, _⟩ := insert_change third change member
    rw [source]
    rfl
  have exactly : Exactly (named printing columns)
      (writesOf engine columns (keyedChanges printing driverId columns tracker order))
      (original table) ↔ InPlace printing driverId columns engine tracker table := by
    rw [← start] at along ⊢
    rw [← @present_iff_inPlace _ _ _ _ _ order]
    exact exactly_iff single _ [] distinct writes_clash along
  constructor
  · intro applies
    have affects := applies.affects
    rw [zip_changes, namesAffected_keyed keyed] at affects
    exact exactly.mp affects.1
  intro inPlace
  have exact := exactly.mpr inPlace
  constructor
  · rw [zip_changes, namesAffected_keyed keyed]
    exact ⟨exact, namesAffected_inserts keyless _⟩
  · have whole : runWrites
        (writesOf engine columns (keyedChanges printing driverId columns tracker order))
        (original table) = applied printing columns engine tracker table := by
      rw [← start] at exact ⊢
      rw [runWrites_simultaneously single (writesOf engine columns _) [] distinct exact, nil_append]
      apply filterMap_congr
      intro row _
      rw [← appliedRow_eq_written]
    rw [whole] at remaining
    have inserted : ∀ statement ∈ inserts.map Prod.fst, statement.isKeyed = false := by
      intro statement member
      obtain ⟨change, inside, rfl⟩ := mem_map.mp member
      obtain ⟨_, _, _, done⟩ := insert_change third change inside
      exact insert_keyless done
    obtain ⟨added, rfl, each⟩ := runs_inserts inserted remaining
    refine ⟨added, rfl, ?_⟩
    rw [forall₂_map_left_iff] at each
    exact drafts_inserted drafts each
  · rw [length_map, length_map]
  · intro index statement source statementAt sourceAt
    rw [getElem?_map, Option.map_eq_some_iff] at statementAt sourceAt
    obtain ⟨change, changeAt, rfl⟩ := statementAt
    obtain ⟨other, otherAt, rfl⟩ := sourceAt
    cases Option.some.inj (changeAt.symm.trans otherAt)
    exact describes_change third (mem_of_getElem? changeAt)
  · intro rowKey updated
    exact apart_changes third updated
  · intro persisted
    rw [map_eq_nil_iff]
    exact changes_empty_iff third persisted

end Applied

def plainEngine : Engine where
  equal _ held value := decide (held = value)
  exact _ held value := decide (held = value)
  unchanged _ held value := decide (held = value)
  hasFields _ _ := true
  stored _ value := value
  equal_refl _ _ _ := decide_eq_true rfl

def plainColumns : List TableColumn :=
  [⟨"id", "bigint", true, false, false, none⟩, ⟨"x", "bigint", false, false, false, none⟩]

def plainOrder : RowOrder := ⟨fun _ _ => true⟩

/-- The row with key 1 gets the key 2. -/
def rekeyed : TabChangeTracker :=
  new.trackCellEdit plainPrinting (.persisted [.int 1]) 0 (.int 1) (.int 2)

/-- Beside it, a cell of a row with key 2 is edited. -/
def rekeyedOver : TabChangeTracker :=
  (new.trackCellEdit plainPrinting (.persisted [.int 2]) 1 (.int 10)
    (.int 99)).trackCellEdit plainPrinting (.persisted [.int 1]) 0 (.int 1) (.int 2)

def rekey : Statement := .update [(0, .int 2)] [.key 0 (.int 1), .original 0 (.int 1)]

def editCell : Statement :=
  .update [(1, .int 99)] [.key 0 (.int 2), .original 0 (.int 2), .unchanged 1 (.int 10)]

private theorem rekeyed_rowEdits :
    rekeyed.rowEdits (.persisted [.int 1]) = [(0, .int 1, .int 2)] := by
  have live : rekeyed.liveUpdates.filter (fun entry =>
      decide (entry.1.1 = .persisted [.int 1])) =
        [((.persisted [.int 1], 0), ⟨.int 1, .int 2⟩)] := by decide
  unfold rowEdits
  rw [live, map_singleton, mergeSort_singleton]

private theorem rekeyed_materialize :
    rekeyed.materialize plainPrinting plainOrder "postgres" plainColumns =
      .ok ([rekey], [.update (.persisted [.int 1])]) := by
  have rows : (rekeyed.liveUpdates.map (fun entry => entry.1.1)).dedup =
      [.persisted [.int 1]] := by decide
  have noDeletes : rekeyed.deleteEntries plainOrder = [] := mergeSort_nil
  have entries : rekeyed.updateEntries plainOrder =
      [(.persisted [.int 1], [(0, .int 1, .int 2)])] := by
    unfold updateEntries
    rw [rows, mergeSort_singleton, map_singleton, rekeyed_rowEdits]
  unfold materialize
  rw [noDeletes, entries]
  rfl

private theorem rekeyedOver_materialize :
    rekeyedOver.materialize plainPrinting plainOrder "postgres" plainColumns =
      .ok ([rekey, editCell], [.update (.persisted [.int 1]), .update (.persisted [.int 2])]) := by
  have rows : (rekeyedOver.liveUpdates.map (fun entry => entry.1.1)).dedup =
      [.persisted [.int 1], .persisted [.int 2]] := by decide
  have sorted : ([.persisted [.int 1], .persisted [.int 2]] : List RowKey).mergeSort
      plainOrder.le = [.persisted [.int 1], .persisted [.int 2]] :=
    mergeSort_of_pairwise (by decide)
  have first : rekeyedOver.liveUpdates.filter (fun entry =>
      decide (entry.1.1 = .persisted [.int 1])) =
        [((.persisted [.int 1], 0), ⟨.int 1, .int 2⟩)] := by decide
  have second : rekeyedOver.liveUpdates.filter (fun entry =>
      decide (entry.1.1 = .persisted [.int 2])) =
        [((.persisted [.int 2], 1), ⟨.int 10, .int 99⟩)] := by decide
  have noDeletes : rekeyedOver.deleteEntries plainOrder = [] := mergeSort_nil
  have entries : rekeyedOver.updateEntries plainOrder =
      [(.persisted [.int 1], [(0, .int 1, .int 2)]),
        (.persisted [.int 2], [(1, .int 10, .int 99)])] := by
    unfold updateEntries rowEdits
    rw [rows, sorted, map_cons, map_singleton, first, second, map_singleton,
      map_singleton, mergeSort_singleton, mergeSort_singleton]
  unfold materialize
  rw [noDeletes, entries]
  rfl

private theorem unique_single (tuple : Tuple Row) :
    Unique (SameKey plainEngine plainColumns) [tuple] :=
  pairwise_singleton _ tuple

/-- The row with key 1 is there, so the save gives it the key 2. -/
theorem applies_pending_rekeyed :
    AppliesPending plainPrinting plainColumns plainEngine rekeyed [[.int 1, .int 10]] [rekey]
      [.update (.persisted [.int 1])] [⟨some [.int 1, .int 10], [.int 2, .int 10]⟩] := by
  have run : Runs plainEngine plainColumns [rekey] (original [[.int 1, .int 10]])
      [⟨some [.int 1, .int 10], [.int 2, .int 10]⟩] :=
    .cons (unique_single _) (.update _ _ _) (.nil (unique_single _))
  apply (applies_pending_iff rekeyed_materialize run).mpr
  constructor
  · intro entry member
    cases member
  intro rowKey updated _
  obtain ⟨entry, member, rfl⟩ := updated
  have only : rekeyed.liveUpdates = [((.persisted [.int 1], 0), ⟨.int 1, .int 2⟩)] := by decide
  rw [only, mem_singleton] at member
  subst member
  rw [rekeyed_rowEdits]
  decide

/-- The row with key 2 is gone when the edits are saved. The first statement gives its key to the
row with key 1, which the second then takes for it: both affect one row, and the edit is made
on a row it was not made for. -/
theorem save_edits_rekeyed_row :
    rekeyedOver.materialize plainPrinting plainOrder "postgres" plainColumns =
        .ok ([rekey, editCell], [.update (.persisted [.int 1]), .update (.persisted [.int 2])]) ∧
      Runs plainEngine plainColumns [rekey, editCell] (original [[.int 1, .int 10]])
        [⟨some [.int 1, .int 10], [.int 2, .int 99]⟩] ∧
      ¬ AppliesPending plainPrinting plainColumns plainEngine rekeyedOver [[.int 1, .int 10]]
        [rekey, editCell] [.update (.persisted [.int 1]), .update (.persisted [.int 2])]
        [⟨some [.int 1, .int 10], [.int 2, .int 99]⟩] := by
  refine ⟨rekeyedOver_materialize, .cons (unique_single _) (.update _ _ _)
    (.cons (unique_single _) (.update _ _ _) (.nil (unique_single _))), ?_⟩
  intro applies
  obtain ⟨_, later⟩ := applies.affects
  obtain ⟨second, _⟩ := later _ (.update _ _ _)
  obtain ⟨tuple, row, alone, origin, known⟩ := second (.persisted [.int 2]) rfl
  have affected : tuple = ⟨some [.int 1, .int 10], [.int 2, .int 10]⟩ :=
    (singleton_inj.mp alone).symm
  subst affected
  cases origin
  revert known
  decide

end Bookie.Edits
