/-
What a keyset clause keeps: the rows whose key comes strictly behind the boundary in the
ORDER BY that goes with it. From that, seeking from page to page meets every row with a
key of its own once.
-/

import Bookie.Browse.KeysetTruth
import Bookie.Order.Seeking

namespace Bookie.Browse

open Bookie.Core Bookie.Logic Bookie.Order List

structure OrderTerm where
  name : String
  ascending : Bool
  deriving DecidableEq, Repr

def keysetOrderByDirection (pkColumns : List String) (descending : Bool) : List OrderTerm :=
  pkColumns.map (fun column => { name := column, ascending := !descending })

private theorem keysetOrderByDirection_cons (column : String) (rest : List String)
    (descending : Bool) : keysetOrderByDirection (column :: rest) descending =
      { name := column, ascending := !descending } :: keysetOrderByDirection rest descending := rfl

def OrderTerm.puts (engine : Engine) (term : OrderTerm) (first second : Value) : Bool :=
  if term.ascending then engine.less term.name first second
  else engine.less term.name second first

def ordersBefore (engine : Engine) : List OrderTerm → (String → Value) → (String → Value) → Bool
  | [], _, _ => false
  | term :: rest, first, second =>
    term.puts engine (first term.name) (second term.name) ||
      (engine.same term.name (first term.name) (second term.name) &&
        ordersBefore engine rest first second)

def tupleBefore (engine : Engine) : List OrderTerm → List Value → List Value → Bool
  | term :: terms, first :: firsts, second :: seconds =>
    term.puts engine first second ||
      (engine.same term.name first second && tupleBefore engine terms firsts seconds)
  | _, _, _ => false

variable (engine : Engine)

private theorem tupleBefore_cells (columns : List String) (descending : Bool)
    (first second : String → Value) :
    tupleBefore engine (keysetOrderByDirection columns descending) (columns.map first)
        (columns.map second) =
      ordersBefore engine (keysetOrderByDirection columns descending) first second := by
  induction columns with
  | nil => rfl
  | cons column rest ih =>
    rw [keysetOrderByDirection_cons, map_cons, map_cons, tupleBefore, ih, ordersBefore]

private theorem tupleBefore_descending (columns : List String) (first second : List Value) :
    tupleBefore engine (keysetOrderByDirection columns true) first second =
      tupleBefore engine (keysetOrderByDirection columns false) second first := by
  induction columns generalizing first second with
  | nil => rfl
  | cons column rest ih =>
    cases first with
    | nil => cases second <;> rfl
    | cons own firsts =>
    cases second with
    | nil => rfl
    | cons other seconds =>
    rw [keysetOrderByDirection_cons, keysetOrderByDirection_cons, tupleBefore, tupleBefore,
      ih, engine.same_symm column own other]
    rfl

variable {columns : List String} (comparison : Comparison)

private theorem pairsBeyond_tuple (cells : String → Value) {boundary : List Value}
    (lengths : columns.length = boundary.length) :
    pairsBeyond engine comparison cells (columns.zip boundary) =
      tupleBefore engine (keysetOrderByDirection columns (comparison == .less)) boundary
        (columns.map cells) := by
  induction columns generalizing boundary with
  | nil => rfl
  | cons column rest ih =>
    cases boundary with
    | nil => cases lengths
    | cons value values =>
    rw [zip_cons_cons, pairsBeyond, ih (Nat.succ.inj lengths), keysetOrderByDirection_cons,
      engine.same_symm column (cells column) value]
    cases comparison <;> rfl

/-- The clause keeps the rows strictly behind the boundary. -/
private theorem built_holds {engine : Engine} {params : List Value} {cells : String → Value}
    {driverId : String} {comparison : Comparison} {boundary values : List Value} {start : Nat}
    {clause : Clause} (built : keysetWhereComparison driverId columns boundary start comparison =
      .ok (clause, values)) (sortable : Sortable driverId cells (columns.zip boundary))
    (placed : Placed params start values) :
    clause.holds engine params cells =
      tupleBefore engine.nullsFirst (keysetOrderByDirection columns (comparison == .less)) boundary
        (columns.map cells) := by
  rw [built_beyond built sortable placed]
  exact pairsBeyond_tuple engine.nullsFirst comparison cells (keysetWhereComparison_ok built).1

section Pages

variable {ρ : Type} (engine : Engine) (driverId : String) (columns : List String)
  (cells : ρ → String → Value)

def rowBefore (first second : ρ) : Bool :=
  ordersBefore engine.nullsFirst (keysetOrderByDirection columns false) (cells first) (cells second)

/-- Forward pages over the rows that pass a filter whose values are `front`: the first page of
all rows, then the pages kept by the clause for the last row's key. -/
inductive KeysetPages (front : List Value) (rows : List ρ) (limit : Nat) :
    (ρ → Bool) → List (List ρ) → Prop where
  | last {reach : ρ → Bool} {listed : List ρ}
      (listing : Listing (rowBefore engine columns cells) rows reach listed)
      (short : listed.length < limit) : KeysetPages front rows limit reach [listed]
  | next {reach : ρ → Bool} {listed : List ρ} {row : ρ} {clause : Clause} {values : List Value}
      {pages : List (List ρ)}
      (listing : Listing (rowBefore engine columns cells) rows reach listed)
      (full : limit ≤ listed.length) (ends : (listed.take limit).getLast? = some row)
      (built : keysetWhereClause driverId columns (columns.map (cells row)) front.length =
        .ok (clause, values))
      (rest : KeysetPages front rows limit
        (fun other => (clause.truth engine (front ++ values) (cells other)).kept) pages) :
      KeysetPages front rows limit reach (listed.take limit :: pages)

variable {engine driverId columns cells}

private theorem rowBefore_precedes (first second : ρ) :
    rowBefore engine columns cells first second =
      precedes engine.nullsFirst columns (cells first) (cells second) := by
  unfold rowBefore
  induction columns with
  | nil => rfl
  | cons column rest ih => rw [keysetOrderByDirection_cons, ordersBefore, ih]; rfl

private theorem rowBefore_order : StrictOrder (rowBefore engine columns cells) where
  asymm := by
    intro first second ahead
    rw [rowBefore_precedes] at ahead ⊢
    exact precedes_asymm engine.nullsFirst columns _ _ ahead
  between := by
    intro first second other ahead
    rw [rowBefore_precedes] at ahead ⊢
    rw [rowBefore_precedes]
    exact precedes_between engine.nullsFirst columns _ _ _ ahead

variable (driverId columns cells) in
/-- Keys without NULL, except on SQLite. -/
def NullsSort (rows : List ρ) : Prop :=
  driverId = "sqlite" ∨ ∀ row ∈ rows, ∀ column ∈ columns, isNull (cells row column) = false

variable {rows : List ρ}

private theorem NullsSort.sortable (nulls : NullsSort driverId columns cells rows) {row other : ρ}
    (member : row ∈ rows) (present : other ∈ rows) :
    Sortable driverId (cells other) (columns.zip (columns.map (cells row))) := by
  apply nulls.imp_right
  intro solid pair paired
  obtain ⟨name, value⟩ := of_mem_zip paired
  obtain ⟨column, listed, same⟩ := mem_map.mp value
  rw [← same]
  exact ⟨solid row member column listed, solid other present pair.1 name⟩

private theorem reach_of_built {front values : List Value} {row : ρ} {clause : Clause}
    (nulls : NullsSort driverId columns cells rows) (member : row ∈ rows) (built : keysetWhereClause
      driverId columns (columns.map (cells row)) front.length = .ok (clause, values)) :
    rows.filter (fun other => (clause.truth engine (front ++ values) (cells other)).kept) =
      rows.filter (rowBefore engine columns cells row) := by
  apply filter_congr
  intro other present
  have placed : Placed (front ++ values) front.length values :=
    ⟨front, [], (append_nil _).symm, rfl⟩
  rw [Clause.truth_kept, built_holds built (nulls.sortable member present) placed]
  exact tupleBefore_cells engine.nullsFirst columns false (cells row) (cells other)

private theorem keysetWhereClause_built {row : ρ} (keyed : columns ≠ [])
    (nulls : NullsSort driverId columns cells rows) (member : row ∈ rows) (start : Nat) :
    ∃ clause values, keysetWhereClause driverId columns (columns.map (cells row)) start =
      .ok (clause, values) := by
  rcases nulls with rfl | solid
  · obtain ⟨column, rest, rfl⟩ := exists_cons_of_ne_nil keyed
    have inhabited : ∃ arm arms, (orArms "sqlite" .greater []
        ((column :: rest).zip ((column :: rest).map (cells row))) start).1 = arm :: arms := by
      rw [map_cons, zip_cons_cons]
      cases own : isNull (cells row column) with
      | true =>
        rw [orArms_null [] _ start own rfl]
        exact ⟨_, _, rfl⟩
      | false =>
        rw [orArms_cons [] _ start own]
        exact ⟨_, _, rfl⟩
    obtain ⟨arm, arms, filled⟩ := inhabited
    refine ⟨.anyOf (arm :: arms), (orArms "sqlite" .greater []
      ((column :: rest).zip ((column :: rest).map (cells row))) start).2, ?_⟩
    have lengths :
        ((column :: rest).length != ((column :: rest).map (cells row)).length) = false := by
      rw [length_map, bne_self_eq_false]
    unfold keysetWhereClause keysetWhereComparison
    rw [lengths]
    simp only [filled]
    rfl
  · obtain ⟨clause, values, built, _⟩ := keysetWhereComparison_keeps driverId .greater columns
      (cells row) start keyed (solid row member)
    exact ⟨clause, values, built⟩

variable {front : List Value} {rows : List ρ} {limit : Nat} {pages : List (List ρ)}

private theorem KeysetPages.seeks {reach : ρ → Bool} (nulls : NullsSort driverId columns cells rows)
    (run : KeysetPages engine driverId columns cells front rows limit reach pages) :
    SeekPages (rowBefore engine columns cells) rows limit reach pages := by
  induction run with
  | last listing short => exact .last listing short
  | next listing full ends built rest ih =>
    have member := (mem_filter.mp (listing.perm.mem_iff.mp
      (mem_of_mem_take (mem_of_getLast? ends)))).1
    exact .next listing full ends (ih.congr (reach_of_built nulls member built))

private theorem KeysetPages.of_seeks {reach other : ρ → Bool} (keyed : columns ≠ [])
    (nulls : NullsSort driverId columns cells rows)
    (run : SeekPages (rowBefore engine columns cells) rows limit reach pages)
    (same : rows.filter reach = rows.filter other) :
    KeysetPages engine driverId columns cells front rows limit other pages := by
  induction run generalizing other with
  | last listing short => exact .last ⟨same ▸ listing.perm, listing.sorted⟩ short
  | next listing full ends rest ih =>
    have member := (mem_filter.mp (listing.perm.mem_iff.mp
      (mem_of_mem_take (mem_of_getLast? ends)))).1
    obtain ⟨clause, values, built⟩ := keysetWhereClause_built keyed nulls member front.length
    exact .next ⟨same ▸ listing.perm, listing.sorted⟩ full ends built
      (ih (reach_of_built nulls member built).symm)

end Pages

/-- The row form of PostgreSQL and the arms have the same truth value, for rows with NULL too. -/
private theorem rowValues_truth {boundary params more : List Value} {start : Nat}
    (cells : String → Value)
    (solid : ∀ value ∈ boundary, isNull value = false) (placed : Placed params start boundary)
    (expanded :
      Placed more start (orArms "postgres" comparison [] (columns.zip boundary) start).2) :
    (Clause.rowValues columns comparison (List.range' start boundary.length)).truth engine params
        cells =
      (Clause.anyOf (orArms "postgres" comparison [] (columns.zip boundary) start).1).truth engine
        more cells := by
  have pairs : ∀ pair ∈ [] ++ columns.zip boundary, isNull pair.2 = false :=
    fun pair member => solid pair.2 (of_mem_zip member).2
  rw [Clause.truth, placed_values boundary placed, Clause.truth,
    orArms_truth "postgres" comparison rfl (columns.zip boundary) [] start pairs expanded,
    map_nil, Truth.allOf_nil, Truth.yes_and]

/-- **Keyset clauses are strict lexicographic comparison.** A row makes the clause true exactly
if its key comes behind the boundary, or in front of it for a page before; the row form of
PostgreSQL agrees with the arms; and seeking forwards meets every row with a key of its own
once. -/
theorem keyset_strict_order (driverId : String) (columns : List String) :
    (∀ boundary start clause values params cells,
      keysetWhereClause driverId columns boundary start = .ok (clause, values) →
      Placed params start values → Sortable driverId cells (columns.zip boundary) →
      (clause.truth engine params cells = .yes ↔
        tupleBefore engine.nullsFirst (keysetOrderByDirection columns false) boundary
          (columns.map cells) = true)) ∧
    (∀ boundary start clause values params cells,
      keysetBeforeWhereClause driverId columns boundary start = .ok (clause, values) →
      Placed params start values → Sortable driverId cells (columns.zip boundary) →
      (clause.truth engine params cells = .yes ↔
        tupleBefore engine.nullsFirst (keysetOrderByDirection columns false) (columns.map cells)
          boundary = true) ∧
      tupleBefore engine.nullsFirst (keysetOrderByDirection columns false) (columns.map cells)
          boundary =
        tupleBefore engine.nullsFirst (keysetOrderByDirection columns true) boundary
          (columns.map cells)) ∧
    (∀ (comparison : Comparison) boundary start params more cells,
      (∀ value ∈ boundary, isNull value = false) → Placed params start boundary →
      Placed more start (orArms "postgres" comparison [] (columns.zip boundary) start).2 →
      (Clause.rowValues columns comparison (List.range' start boundary.length)).truth engine params
          cells =
        (Clause.anyOf (orArms "postgres" comparison [] (columns.zip boundary) start).1).truth
          engine more cells) ∧
    (∀ {ρ : Type} (cells : ρ → String → Value) (front : List Value) (rows : List ρ) (limit : Nat),
      columns ≠ [] → 0 < limit → NullsSort driverId columns cells rows →
      (∃ pages, KeysetPages engine driverId columns cells front rows limit (fun _ => true) pages) ∧
      ∀ pages, KeysetPages engine driverId columns cells front rows limit (fun _ => true) pages →
        pages.length ≤ rows.length + 1 ∧
        ∀ row, rows.filter (tied (rowBefore engine columns cells) row) = [row] →
          pages.flatten.filter (tied (rowBefore engine columns cells) row) = [row]) := by
  refine ⟨?_, ?_, ?_, ?_⟩
  · intro boundary start clause values params cells built placed sortable
    rw [← Truth.kept_eq_true_iff, Clause.truth_kept, built_holds built sortable placed]
    exact Iff.rfl
  · intro boundary start clause values params cells built placed sortable
    have turned := tupleBefore_descending engine.nullsFirst columns boundary (columns.map cells)
    refine ⟨?_, turned.symm⟩
    rw [← Truth.kept_eq_true_iff, Clause.truth_kept, built_holds built sortable placed, ← turned]
    exact Iff.rfl
  · intro comparison boundary start params more cells solid placed expanded
    exact rowValues_truth engine comparison cells solid placed expanded
  intro ρ cells front rows limit keyed positive nulls
  have order : StrictOrder (rowBefore engine columns cells) := rowBefore_order
  have whole : Closed (rowBefore engine columns cells) (fun _ => true) := fun _ _ _ _ => rfl
  have everything : rows.filter (fun _ => true) = rows := filter_true rows
  constructor
  · obtain ⟨pages, run⟩ := exists_seekPages order positive (fun _ => true) whole
    exact ⟨pages, KeysetPages.of_seeks keyed nulls run rfl⟩
  intro pages run
  have seeks := run.seeks nulls
  constructor
  · have bounded := seeks.length_le order whole
    rwa [everything] at bounded
  · intro row alone
    have single := seeks.alone order whole row
    rw [everything, alone] at single
    exact single (Sublist.refl _)

/-- Integers in their order, and every other value like zero. -/
def integerEngine : Engine where
  less _ first second := decide (number first < number second)
  less_asymm := by
    intro _ first second less
    simp only [decide_eq_true_eq, decide_eq_false_iff_not] at less ⊢
    omega
  less_between := by
    intro _ first second other less
    simp only [decide_eq_true_eq] at less ⊢
    omega
where
  number : Value → Int
    | .int value => value
    | _ => 0

def tenantCells (row : Value × Value) (column : String) : Value :=
  if column = "tenant" then row.1 else row.2

/-- Keys of a tenant and an id: behind and in front of a key with NULL on SQLite, the row form of
PostgreSQL on a row with NULL, and pages of two rows each. -/
theorem keyset_strict_order_tenants :
    (Clause.anyOf [[.compares "tenant" .greater 0], [.equals "tenant" 1, .isNotNull "id"]]).truth
        integerEngine [.int 1, .int 1] (tenantCells (.int 1, .int 5)) = .yes ∧
    (Clause.anyOf [[.comparesOrNull "tenant" .less 0],
        [.equals "tenant" 1, .comparesOrNull "id" .less 2]]).truth
      integerEngine [.int 1, .int 1, .int 5] (tenantCells (.int 1, .null)) = .yes ∧
    (Clause.rowValues ["tenant", "id"] .greater [0, 1]).truth integerEngine [.int 1, .int 5]
        (tenantCells (.int 1, .null)) =
      (Clause.anyOf [[.compares "tenant" .greater 0],
        [.equals "tenant" 1, .compares "id" .greater 2]]).truth integerEngine
          [.int 1, .int 1, .int 5] (tenantCells (.int 1, .null)) ∧
    ∃ pages, KeysetPages integerEngine "postgres" ["tenant", "id"] tenantCells []
        [(.int 1, .int 5), (.int 1, .int 7), (.int 2, .int 5)] 2 (fun _ => true) pages ∧
      pages.flatten.filter (tied (rowBefore integerEngine ["tenant", "id"] tenantCells)
        (.int 1, .int 7)) = [(.int 1, .int 7)] := by
  have onSqlite := keyset_strict_order integerEngine "sqlite" ["tenant", "id"]
  have onPostgres := keyset_strict_order integerEngine "postgres" ["tenant", "id"]
  have whole (params : List Value) : Placed params 0 params := ⟨[], [], by simp, rfl⟩
  refine ⟨?_, ?_, ?_, ?_⟩
  · exact (onSqlite.1 [.int 1, .null] 0 _ _ _ _ rfl (whole _) (.inl rfl)).mpr (by decide)
  · exact (onSqlite.2.1 [.int 1, .int 5] 0 _ _ _ _ rfl (whole _) (.inl rfl)).1.mpr (by decide)
  · exact onPostgres.2.2.1 .greater [.int 1, .int 5] 0 _ _ _ (by decide) (whole _) (whole _)
  obtain ⟨⟨pages, run⟩, once⟩ := onPostgres.2.2.2 tenantCells []
    [(.int 1, .int 5), (.int 1, .int 7), (.int 2, .int 5)] 2 (by decide) (by decide)
    (.inr (by decide))
  exact ⟨pages, run, (once pages run).2 _ (by decide)⟩

end Bookie.Browse
