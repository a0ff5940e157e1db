/-
The tab-separated text of a result (the core crate's `export::csv`). NULL is written as a marker
that is the text of no cell. A value is given by what `value_to_text` makes of it.
-/

import Bookie.Export.FieldNames

namespace Bookie.Export

open List

inductive Value where
  | null
  | text (value : List Char)
  | other (printed : List Char)

def valueToText : Value → Option (List Char)
  | .null => none
  | .text value | .other value => some value

def nullMarker (more : Nat) : List Char := '\\' :: 'N' :: replicate more 'N'

private theorem nullMarker_injective : Function.Injective nullMarker := fun _ _ same => by
  simpa [nullMarker] using congrArg length same

def uniqueCsvNullMarker (rows : List (List Value)) : List Char :=
  nullMarker (firstFree nullMarker_injective (rows.flatten.filterMap valueToText))

def quoteField (value : List Char) : List Char :=
  '"' :: (value.flatMap fun c => if c = '"' then ['"', '"'] else [c]) ++ ['"']

def startsFormula (value : List Char) : Bool :=
  value.head?.any (· ∈ ['=', '+', '-', '@', '\t', '\r'])

def escapeCsvField (sanitizeFormulas : Bool) (value : List Char) (hadLineBreaks : Bool) :
    List Char :=
  let neutralized := sanitizeFormulas && startsFormula value
  let value := if neutralized then '\'' :: value else value
  if value.any (· ∈ ['\t', '"', '\n', '\r']) || hadLineBreaks || neutralized then quoteField value
  else value

def formatCsvCell (marker : List Char) (value : Value) : List Char :=
  let sanitizeFormulas := value matches .text _
  match valueToText value with
  | none => escapeCsvField sanitizeFormulas marker false
  | some [] => quoteField []
  | some text => escapeCsvField sanitizeFormulas text (text.any (· ∈ ['\n', '\r']))

def isNullMarkerShaped : List Char → Bool
  | '\\' :: 'N' :: rest => rest.all (· == 'N')
  | _ => false

def tsvField (marker : List Char) (value : Value) : List Char :=
  match valueToText value with
  | some text => if isNullMarkerShaped text then quoteField text else formatCsvCell marker value
  | none => formatCsvCell marker value

def csvHeaderLine (columns : List (List Char)) : List Char :=
  ['\t'].intercalate (columns.map (escapeCsvField true · false))

def renderTsv (columns : List (List Char)) (rows : List (List Value)) (withHeaders : Bool) :
    List Char :=
  ['\n'].intercalate ((if withHeaders then [csvHeaderLine columns] else []) ++ rows.map fun row =>
    ['\t'].intercalate (row.map (tsvField (uniqueCsvNullMarker rows))))

/-! ### Reading the text back -/

/-- What a text holds: its first field, the other fields of the first row, the other rows. -/
structure Reading where
  field : List Char
  row : List (List Char)
  rows : List (List (List Char))

def Reading.table (reading : Reading) : List (List (List Char)) :=
  (reading.field :: reading.row) :: reading.rows

inductive ReadMode where
  | start
  | bare
  | quoted
  | closed

/-- A field that starts with a quote runs to the next quote that is not doubled, and any other to
the next tab or line end. -/
def readFrom : ReadMode → List Char → Reading
  | _, [] => ⟨[], [], []⟩
  | .start, '"' :: rest => readFrom .quoted rest
  | .quoted, '"' :: rest => readFrom .closed rest
  | .closed, '"' :: rest =>
    let next := readFrom .quoted rest; { next with field := '"' :: next.field }
  | .quoted, c :: rest => let next := readFrom .quoted rest; { next with field := c :: next.field }
  | _, '\t' :: rest => let next := readFrom .start rest; ⟨[], next.field :: next.row, next.rows⟩
  | _, '\n' :: rest => let next := readFrom .start rest; ⟨[], [], next.table⟩
  | _, c :: rest => let next := readFrom .bare rest; { next with field := c :: next.field }

def readTsv (text : List Char) : List (List (List Char)) := (readFrom .start text).table

/-- The end of a field: of the text, of the row or before the next field. -/
def Ends (after : List Char) : Prop := ∀ c ∈ after.head?, c = '\t' ∨ c = '\n'

variable {text after : List Char} {more : Nat}

private theorem readFrom_ends {mode : ReadMode} (outside : mode ≠ .quoted) (ends : Ends after) :
    readFrom mode after = { readFrom .start after with field := [] } := by
  cases after with
  | nil => cases mode <;> rfl
  | cons c rest =>
    rcases ends c rfl with rfl | rfl <;> cases mode <;> first | rfl | exact absurd rfl outside

/-- The text of the field is read as this content, whatever follows. -/
def Writes (field content : List Char) : Prop :=
  ∀ after, Ends after → readFrom .start (field ++ after) =
    { readFrom .start after with field := content }

private theorem quoteField_writes (text : List Char) : Writes (quoteField text) text := by
  intro after ends
  have body : readFrom .quoted ((text.flatMap fun c => if c = '"' then ['"', '"'] else [c]) ++
      '"' :: after) = { readFrom .start after with field := text } := by
    induction text with
    | nil => exact @readFrom_ends _ .closed nofun ends
    | cons c text ih =>
      rw [flatMap_cons, append_assoc]
      by_cases quote : c = '"'
      · subst quote
        simp [readFrom, ih]
      · simp [readFrom, quote, ih]
  simpa [quoteField, readFrom] using body

private theorem bare_writes (plain : ∀ c ∈ text, c ∉ ['\t', '"', '\n', '\r']) :
    Writes text text := by
  intro after ends
  have body : ∀ mode, mode ≠ .quoted →
      readFrom mode (text ++ after) = { readFrom .start after with field := text } := by
    induction text with
    | nil => exact fun mode outside => readFrom_ends outside ends
    | cons c text ih =>
      intro mode outside
      have special := plain c mem_cons_self
      simp only [mem_cons, not_mem_nil, or_false, not_or] at special
      have next := ih (fun other member => plain other (mem_cons_of_mem _ member)) .bare nofun
      cases mode <;> simp_all [readFrom]
  exact body .start nofun

/-- A formula is shown with an apostrophe before it. -/
def shownText (marker : List Char) : Value → List Char
  | .null => marker
  | .text text => if startsFormula text then '\'' :: text else text
  | .other text => text

private theorem escapeCsvField_writes (sanitizeFormulas hadLineBreaks : Bool) :
    Writes (escapeCsvField sanitizeFormulas text hadLineBreaks)
      (if sanitizeFormulas && startsFormula text then '\'' :: text else text) := by
  unfold escapeCsvField
  extract_lets neutralized value
  split
  · exact quoteField_writes value
  · rename_i plain
    apply bare_writes
    simp only [Bool.or_eq_true, not_or, any_eq_true, decide_eq_true_eq, not_exists, not_and]
      at plain
    exact plain.1.1

private theorem tsvField_writes (value : Value) :
    Writes (tsvField (nullMarker more) value) (shownText (nullMarker more) value) := by
  cases value with
  | null => exact escapeCsvField_writes false false
  | text text | other text =>
    simp only [tsvField, valueToText, formatCsvCell]
    split
    · rename_i shaped
      have unchanged : startsFormula text = false := by
        unfold isNullMarkerShaped at shaped
        split at shaped
        · rfl
        · cases shaped
      simpa [shownText, unchanged] using quoteField_writes text
    split
    · cases ‹_ = none›
    · cases ‹some _ = some _›
      exact quoteField_writes []
    · cases ‹some _ = some _›
      exact escapeCsvField_writes _ _

private theorem shownText_eq_iff {value : Value}
    (differs : valueToText value ≠ some (nullMarker more)) :
    shownText (nullMarker more) value = nullMarker more ↔ value = .null := by
  cases value with
  | null => simp [shownText]
  | text text =>
    have other : text ≠ nullMarker more := by simpa [valueToText] using differs
    rw [shownText]
    split
    · simp [nullMarker]
    · simpa using other
  | other text => simpa [shownText, valueToText] using differs

/-- The row is read as these fields, whatever rows follow. A row without cells is an empty line,
which has one empty field. -/
def LineReads (line : List Char) (fields : List (List Char)) : Prop :=
  ∀ after, (∀ c ∈ after.head?, c = '\n') →
    (readFrom .start (line ++ after)).table = fields :: (readFrom .start after).rows

private theorem intercalate_reads {α : Type} {write shown : α → List Char}
    (writes : ∀ cell, Writes (write cell) (shown cell)) (cells : List α) :
    LineReads (['\t'].intercalate (cells.map write))
      (if cells = [] then [[]] else cells.map shown) := by
  intro after ends
  have stops : Ends after := fun c first => .inr (ends c first)
  have blank : readFrom .start after = ⟨[], [], (readFrom .start after).rows⟩ := by
    cases after with
    | nil => rfl
    | cons c rest => cases ends c rfl; rfl
  cases cells with
  | nil => exact congrArg Reading.table blank
  | cons cell cells =>
    rw [if_neg (by simp), map_cons]
    induction cells generalizing cell with
    | nil =>
      rw [map_nil, intercalate_singleton, writes cell after stops, blank]
      rfl
    | cons next cells ih =>
      have later := ih next
      rw [map_cons, intercalate_cons_cons, append_assoc, append_assoc,
        writes cell _ (by simp [Ends]), singleton_append]
      simp only [Reading.table, readFrom, cons.injEq] at later ⊢
      simp [later]

private theorem lines_read {lines : List (List Char)} {table : List (List (List Char))}
    (reads : Forall₂ LineReads lines table) (some_ : lines ≠ []) :
    readTsv (['\n'].intercalate lines) = table := by
  induction reads with
  | nil => exact absurd rfl some_
  | @cons line fields lines table first rest ih =>
    cases lines with
    | nil =>
      cases rest
      simpa [readTsv, readFrom] using first [] (by simp)
    | cons next lines =>
      rw [intercalate_cons_cons, append_assoc, readTsv, first _ (by simp)]
      exact congrArg (fields :: ·) (ih (by simp))

/-- **The NULL marker is unambiguous.** It is the text of no cell, and read back, the output has it
at the places of the NULL cells and at no other. -/
theorem csv_null_marker_unambiguous (columns : List (List Char)) (rows : List (List Value))
    (withHeaders : Bool) :
    (∀ row ∈ rows, ∀ value ∈ row, valueToText value ≠ some (uniqueCsvNullMarker rows)) ∧
    ∀ line column : Nat,
      (readTsv (renderTsv columns rows withHeaders))[line + withHeaders.toNat]?.bind (·[column]?) =
          some (uniqueCsvNullMarker rows) ↔
        rows[line]?.bind (·[column]?) = some .null := by
  have free : ∀ row ∈ rows, ∀ value ∈ row, valueToText value ≠ some (uniqueCsvNullMarker rows) := by
    intro row inRows value inRow same
    exact firstFree_free nullMarker_injective _
      (mem_filterMap.mpr ⟨value, mem_flatten_of_mem inRows inRow, same⟩)
  refine ⟨free, fun line column => ?_⟩
  have body : Forall₂ LineReads
      (rows.map fun row => ['\t'].intercalate (row.map (tsvField (uniqueCsvNullMarker rows))))
      (rows.map fun row =>
        if row = [] then [[]] else row.map (shownText (uniqueCsvNullMarker rows))) := by
    rw [forall₂_map_left_iff, forall₂_map_right_iff, forall₂_same]
    exact fun row _ => intercalate_reads tsvField_writes row
  have places : (rows.map fun row => if row = [] then [[]] else
      row.map (shownText (uniqueCsvNullMarker rows)))[line]?.bind (·[column]?) =
        some (uniqueCsvNullMarker rows) ↔ rows[line]?.bind (·[column]?) = some .null := by
    rw [getElem?_map]
    cases found : rows[line]? with
    | none => simp
    | some row =>
      by_cases empty : row = []
      · cases column <;> simp [empty, uniqueCsvNullMarker, nullMarker]
      simp only [Option.map_some, Option.bind_some, if_neg empty, getElem?_map]
      cases cell : row[column]? with
      | none => simp
      | some value =>
        rw [Option.map_some, Option.some.injEq, Option.some.injEq]
        exact shownText_eq_iff (free row (mem_of_getElem? found) value (mem_of_getElem? cell))
  rw [← places]
  unfold renderTsv
  cases withHeaders with
  | true =>
    have header : LineReads (csvHeaderLine columns) _ :=
      intercalate_reads (fun _ => escapeCsvField_writes true false) columns
    rw [if_pos rfl, singleton_append, lines_read (.cons header body) (by simp)]
    rfl
  | false =>
    rw [if_neg (by simp), nil_append]
    by_cases none : rows = []
    · cases line <;> cases column <;>
        simp [none, readTsv, readFrom, Reading.table, uniqueCsvNullMarker, nullMarker]
    · rw [lines_read body (by simpa using none)]
      rfl

end Bookie.Export
