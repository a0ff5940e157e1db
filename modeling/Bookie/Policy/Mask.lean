/-
Masking of results. Every non-null cell of a sensitive column and every JSON entry
under a sensitive key becomes the redaction text. Two results that differ only in
what is masked cannot be told apart afterwards.
-/

import Bookie.Core.Driver
import Mathlib.Data.List.Forall2

namespace Bookie.Policy

open Bookie.Core List

def redacted : String := "***REDACTED***"

structure Globs (Pattern : Type) where
  new : String → Option Pattern
  isMatch : Pattern → String → Bool
  toLowercase : String → String

structure JsonText where
  fromStr : String → Option Json
  toStr : Json → Option String

section Masking

variable {Pattern : Type} (globs : Globs Pattern) (jsonText : JsonText)

abbrev SensitivePatterns (Pattern : Type) := List Pattern

def sensitivePatterns (patterns : List String) : SensitivePatterns Pattern :=
  patterns.filterMap fun pattern => globs.new (globs.toLowercase pattern)

def matchesName (patterns : SensitivePatterns Pattern) (columnName : String) : Bool :=
  patterns.any fun pattern => globs.isMatch pattern (globs.toLowercase columnName)

mutual

/-- The value with its sensitive entries replaced, and whether any was. -/
def redactJson (sensitive : String → Bool) : Json → Json × Bool
  | .object members =>
    let (members, changed) := redactMap sensitive members
    (.object members, changed)
  | .array items =>
    let (items, changed) := redactItems sensitive items
    (.array items, changed)
  | value => (value, false)

def redactItems (sensitive : String → Bool) : JsonItems → JsonItems × Bool
  | .nil => (.nil, false)
  | .cons item rest =>
    let (item, changed) := redactJson sensitive item
    let (rest, others) := redactItems sensitive rest
    (.cons item rest, changed || others)

def redactMap (sensitive : String → Bool) : JsonMap → JsonMap × Bool
  | .nil => (.nil, false)
  | .cons key entry rest =>
    let (others, changed) := redactMap sensitive rest
    if sensitive key && entry != .null then (.cons key (.string redacted) others, true)
    else
      let (entry, here) := redactJson sensitive entry
      (.cons key entry others, here || changed)

end

def redactNested (sensitive : String → Bool) (cell : Value) : Value :=
  match cell with
  | .json value => .json (redactJson sensitive value).1
  | .jsonText text =>
    match jsonText.fromStr text with
    | none => .jsonText text
    | some value =>
      let (value, changed) := redactJson sensitive value
      if changed then
        match jsonText.toStr value with
        | some text => .jsonText text
        | none => .jsonText text
      else .jsonText text
  | cell => cell

def sensitiveColumns (patterns : SensitivePatterns Pattern) (columns : List ColumnInfo)
    (positions : Option (List Bool)) : List Bool :=
  columns.mapIdx fun index column =>
    matchesName globs patterns column.name ||
      (positions.bind fun flags => flags[index]?).getD false

def maskCell (sensitive : String → Bool) (columnSensitive : Bool) (cell : Value) : Value :=
  if cell = .null then .null
  else if columnSensitive then .text redacted
  else redactNested jsonText sensitive cell

def mask (patterns : SensitivePatterns Pattern) (result : QueryResult)
    (positions : Option (List Bool)) : QueryResult :=
  let sensitive := sensitiveColumns globs patterns result.columns positions
  if patterns.isEmpty && !sensitive.any id then result
  else
    { result with
      rows := result.rows.map fun row =>
        row.mapIdx fun index cell =>
          maskCell jsonText (matchesName globs patterns) (sensitive[index]?.getD false) cell }

end Masking

section Json

variable (sensitive : String → Bool)

mutual

/-- The same value but for non-null values under sensitive keys. -/
def Alike : Json → Json → Prop
  | .array items, other => ∃ items', other = .array items' ∧ AlikeItems items items'
  | .object members, other => ∃ members', other = .object members' ∧ AlikeMaps members members'
  | value, other => other = value

def AlikeItems : JsonItems → JsonItems → Prop
  | .nil, others => others = .nil
  | .cons item rest, others =>
    ∃ item' rest', others = .cons item' rest' ∧ Alike item item' ∧ AlikeItems rest rest'

def AlikeMaps : JsonMap → JsonMap → Prop
  | .nil, others => others = .nil
  | .cons key entry rest, others =>
    ∃ entry' rest', others = .cons key entry' rest' ∧
      (if sensitive key && entry != .null then entry' ≠ .null else Alike entry entry') ∧
      AlikeMaps rest rest'

end

mutual

/-- Whether a non-null value stands under a sensitive key. -/
def holdsSecret : Json → Bool
  | .array items => itemsHoldSecret items
  | .object members => mapHoldsSecret members
  | _ => false

def itemsHoldSecret : JsonItems → Bool
  | .nil => false
  | .cons item rest => holdsSecret item || itemsHoldSecret rest

def mapHoldsSecret : JsonMap → Bool
  | .nil => false
  | .cons key entry rest =>
    (sensitive key && entry != .null) || holdsSecret entry || mapHoldsSecret rest

end

variable {sensitive}

section Members

variable {key : String} {entry : Json} {rest : JsonMap}

theorem redactMap_secret (secret : (sensitive key && entry != .null) = true) :
    redactMap sensitive (.cons key entry rest) =
      (.cons key (.string redacted) (redactMap sensitive rest).1, true) := by
  rw [redactMap, secret]
  rfl

theorem redactMap_other (plain : (sensitive key && entry != .null) = false) :
    redactMap sensitive (.cons key entry rest) =
      (.cons key (redactJson sensitive entry).1 (redactMap sensitive rest).1,
        (redactJson sensitive entry).2 || (redactMap sensitive rest).2) := by
  rw [redactMap, plain]
  rfl

end Members

private theorem Alike.null {value other : Json} (alike : Alike sensitive value other) :
    (other != .null) = (value != .null) := by
  cases value with
  | array | object =>
    obtain ⟨_, rfl, -⟩ := alike
    rfl
  | _ => rw [alike]

theorem redactJson_null (value : Json) :
    ((redactJson sensitive value).1 != .null) = (value != .null) := by
  cases value <;> rfl

mutual

private theorem redactJson_alike : ∀ value other : Json, Alike sensitive value other →
    redactJson sensitive value = redactJson sensitive other
  | .array items, _, alike => by
      obtain ⟨items', rfl, alikeItems⟩ := alike
      rw [redactJson, redactJson, redactItems_alike items items' alikeItems]
  | .object members, _, alike => by
      obtain ⟨members', rfl, alikeMaps⟩ := alike
      rw [redactJson, redactJson, redactMap_alike members members' alikeMaps]
  | .null, _, alike => by rw [alike]
  | .bool _, _, alike => by rw [alike]
  | .number _, _, alike => by rw [alike]
  | .string _, _, alike => by rw [alike]

private theorem redactItems_alike : ∀ items others : JsonItems, AlikeItems sensitive items others →
    redactItems sensitive items = redactItems sensitive others
  | .nil, _, alike => by rw [alike]
  | .cons item rest, _, alike => by
      obtain ⟨item', rest', rfl, alikeItem, alikeRest⟩ := alike
      rw [redactItems, redactItems, redactJson_alike item item' alikeItem,
        redactItems_alike rest rest' alikeRest]

private theorem redactMap_alike : ∀ members others : JsonMap, AlikeMaps sensitive members others →
    redactMap sensitive members = redactMap sensitive others
  | .nil, _, alike => by rw [alike]
  | .cons key entry rest, _, alike => by
      obtain ⟨entry', rest', rfl, alikeEntry, alikeRest⟩ := alike
      have others := redactMap_alike rest rest' alikeRest
      cases secret : sensitive key && entry != .null with
      | true =>
        rw [secret, if_pos rfl] at alikeEntry
        have isSensitive := (Bool.and_eq_true_iff.mp secret).1
        have secret' : (sensitive key && entry' != .null) = true := by
          rw [isSensitive, Bool.true_and, bne_iff_ne]
          exact alikeEntry
        rw [redactMap_secret secret, redactMap_secret secret', others]
      | false =>
      rw [secret, if_neg (by decide)] at alikeEntry
      have plain : (sensitive key && entry' != .null) = false := by
        rw [alikeEntry.null]
        exact secret
      rw [redactMap_other secret, redactMap_other plain, others,
        redactJson_alike entry entry' alikeEntry]

end

mutual

theorem redactJson_changed : ∀ value : Json,
    (redactJson sensitive value).2 = holdsSecret sensitive value
  | .array items => by
      rw [redactJson, holdsSecret]
      exact redactItems_changed items
  | .object members => by
      rw [redactJson, holdsSecret]
      exact redactMap_changed members
  | .null => rfl
  | .bool _ => rfl
  | .number _ => rfl
  | .string _ => rfl

theorem redactItems_changed : ∀ items : JsonItems,
    (redactItems sensitive items).2 = itemsHoldSecret sensitive items
  | .nil => rfl
  | .cons item rest => by
      rw [itemsHoldSecret, ← redactJson_changed item, ← redactItems_changed rest]
      rfl

theorem redactMap_changed : ∀ members : JsonMap,
    (redactMap sensitive members).2 = mapHoldsSecret sensitive members
  | .nil => rfl
  | .cons key entry rest => by
      rw [mapHoldsSecret, ← redactJson_changed entry, ← redactMap_changed rest, redactMap]
      dsimp only
      cases sensitive key && entry != .null <;> rfl

end

mutual

theorem redactJson_none (none : ∀ key, sensitive key = false) : ∀ value : Json,
    redactJson sensitive value = (value, false)
  | .array items => by rw [redactJson, redactItems_none none items]
  | .object members => by rw [redactJson, redactMap_none none members]
  | .null => rfl
  | .bool _ => rfl
  | .number _ => rfl
  | .string _ => rfl

theorem redactItems_none (none : ∀ key, sensitive key = false) : ∀ items : JsonItems,
    redactItems sensitive items = (items, false)
  | .nil => rfl
  | .cons item rest => by
      rw [redactItems, redactJson_none none item, redactItems_none none rest]
      rfl

theorem redactMap_none (none : ∀ key, sensitive key = false) : ∀ members : JsonMap,
    redactMap sensitive members = (members, false)
  | .nil => rfl
  | .cons key entry rest => by
      have plain : (sensitive key && entry != .null) = false := by
        rw [none key]
        rfl
      rw [redactMap_other plain, redactJson_none none entry, redactMap_none none rest]
      rfl

end

mutual

private theorem redactJson_again : ∀ value : Json,
    redactJson sensitive (redactJson sensitive value).1 = redactJson sensitive value
  | .array items => by
      have again := redactItems_again items
      simp only [redactJson, again]
  | .object members => by
      have again := redactMap_again members
      simp only [redactJson, again]
  | .null => rfl
  | .bool _ => rfl
  | .number _ => rfl
  | .string _ => rfl

private theorem redactItems_again : ∀ items : JsonItems,
    redactItems sensitive (redactItems sensitive items).1 = redactItems sensitive items
  | .nil => rfl
  | .cons item rest => by
      have here := redactJson_again item
      have others := redactItems_again rest
      simp only [redactItems, here, others]

private theorem redactMap_again : ∀ members : JsonMap,
    redactMap sensitive (redactMap sensitive members).1 = redactMap sensitive members
  | .nil => rfl
  | .cons key entry rest => by
      have here := redactJson_again entry
      have others := redactMap_again rest
      cases secret : sensitive key && entry != .null with
      | true =>
        have again : (sensitive key && (Json.string redacted) != .null) = true := by
          rw [(Bool.and_eq_true_iff.mp secret).1]
          rfl
        rw [redactMap_secret secret, redactMap_secret again, others]
      | false =>
      have again : (sensitive key && (redactJson sensitive entry).1 != .null) = false := by
        rw [redactJson_null]
        exact secret
      rw [redactMap_other secret, redactMap_other again, here, others]

end

end Json

/-- What is read can be written and read again, also with entries replaced by a text. -/
def JsonText.Documented (jsonText : JsonText) : Prop :=
  ∃ readable : Json → Prop,
    (∀ text value, jsonText.fromStr text = some value → readable value) ∧
    (∀ value, readable value →
      ∃ text, jsonText.toStr value = some text ∧ jsonText.fromStr text = some value) ∧
    ∀ sensitive value, readable value → readable (redactJson sensitive value).1

section Results

variable {Pattern : Type} (globs : Globs Pattern) (jsonText : JsonText)
  (sensitive : String → Bool)

/-- The same cell but for what is masked. -/
def AlikeCell (columnSensitive : Bool) (cell other : Value) : Prop :=
  if columnSensitive then cell = .null ↔ other = .null
  else
    other = cell ∨
    (∃ value value', cell = .json value ∧ other = .json value' ∧ Alike sensitive value value') ∨
    ∃ text text' value value', cell = .jsonText text ∧ other = .jsonText text' ∧
      jsonText.fromStr text = some value ∧ jsonText.fromStr text' = some value' ∧
      Alike sensitive value value' ∧ holdsSecret sensitive value = true

/-- The same result but for what is masked: the columns, the shape of the rows and the
truncation are the same. -/
structure AlikeResults (patterns : SensitivePatterns Pattern) (positions : Option (List Bool))
    (result other : QueryResult) : Prop where
  columns : other.columns = result.columns
  truncated : other.truncated = result.truncated
  rows : List.Forall₂ (fun row row' : List Value => row.length = row'.length ∧
    ∀ (index : Nat) (cell cell' : Value), row[index]? = some cell → row'[index]? = some cell' →
      AlikeCell jsonText (matchesName globs patterns)
        ((sensitiveColumns globs patterns result.columns positions)[index]?.getD false)
        cell cell') result.rows other.rows

variable {globs jsonText sensitive}

private theorem redactNested_text {text : String} {value : Json}
    (documented : jsonText.Documented) (read : jsonText.fromStr text = some value)
    (secret : holdsSecret sensitive value = true) :
    ∃ masked, jsonText.toStr (redactJson sensitive value).1 = some masked ∧
      jsonText.fromStr masked = some (redactJson sensitive value).1 ∧
      redactNested jsonText sensitive (.jsonText text) = .jsonText masked := by
  obtain ⟨readable, isRead, written, replaced⟩ := documented
  obtain ⟨masked, print, parse⟩ := written _ (replaced sensitive value (isRead text value read))
  refine ⟨masked, print, parse, ?_⟩
  rw [← redactJson_changed] at secret
  simp [redactNested, read, secret, print]

private theorem maskCell_alike (documented : jsonText.Documented) {columnSensitive : Bool}
    {cell other : Value} (alike : AlikeCell jsonText sensitive columnSensitive cell other) :
    maskCell jsonText sensitive columnSensitive cell =
      maskCell jsonText sensitive columnSensitive other := by
  cases columnSensitive with
  | true =>
    have sameNull : cell = .null ↔ other = .null := alike
    by_cases isNull : cell = .null
    · rw [isNull, sameNull.mp isNull]
    · rw [maskCell, maskCell, if_neg isNull, if_neg (isNull ∘ sameNull.mpr)]
      rfl
  | false =>
  rcases alike with rfl | ⟨value, value', rfl, rfl, sameJson⟩ |
    ⟨text, text', value, value', rfl, rfl, read, read', sameJson, secret⟩
  · rfl
  · have nested : redactNested jsonText sensitive (.json value) =
        redactNested jsonText sensitive (.json value') := by
      rw [redactNested, redactNested, redactJson_alike value value' sameJson]
    exact nested
  have same := redactJson_alike value value' sameJson
  have secret' : holdsSecret sensitive value' = true := by
    rw [← redactJson_changed, ← same, redactJson_changed, secret]
  obtain ⟨masked, print, -, nested⟩ := redactNested_text documented read secret
  obtain ⟨masked', print', -, nested'⟩ := redactNested_text documented read' secret'
  rw [same, print'] at print
  obtain rfl := Option.some.inj print
  exact nested.trans nested'.symm

private theorem redactNested_again (documented : jsonText.Documented) (cell : Value) :
    redactNested jsonText sensitive (redactNested jsonText sensitive cell) =
      redactNested jsonText sensitive cell := by
  cases cell with
  | json value => simp [redactNested, redactJson_again]
  | jsonText text =>
    cases read : jsonText.fromStr text with
    | none => simp [redactNested, read]
    | some value =>
    cases secret : holdsSecret sensitive value with
    | false =>
      rw [← redactJson_changed] at secret
      simp [redactNested, read, secret]
    | true =>
    obtain ⟨masked, print, parse, nested⟩ := redactNested_text documented read secret
    have secret' : holdsSecret sensitive (redactJson sensitive value).1 = true := by
      rw [← redactJson_changed, redactJson_again, redactJson_changed, secret]
    obtain ⟨masked', print', -, nested'⟩ := redactNested_text documented parse secret'
    rw [redactJson_again, print] at print'
    rw [nested, nested', Option.some.inj print']
  | _ => rfl

private theorem redactNested_null {cell : Value} (some : cell ≠ .null) :
    redactNested jsonText sensitive cell ≠ .null := by
  cases cell with
  | null => exact absurd rfl some
  | json value => simp [redactNested]
  | jsonText text =>
    rw [redactNested]
    split
    · simp
    dsimp only
    split
    · split <;> simp
    · simp
  | _ => simp [redactNested]

private theorem maskCell_again (documented : jsonText.Documented) (columnSensitive : Bool)
    (cell : Value) : maskCell jsonText sensitive columnSensitive
        (maskCell jsonText sensitive columnSensitive cell) =
      maskCell jsonText sensitive columnSensitive cell := by
  by_cases isNull : cell = .null
  · rw [isNull]
    rfl
  cases columnSensitive with
  | true =>
    have hidden : maskCell jsonText sensitive true cell = .text redacted := by
      rw [maskCell, if_neg isNull]
      rfl
    rw [hidden]
    rfl
  | false =>
  have nested : maskCell jsonText sensitive false cell =
      redactNested jsonText sensitive cell := by
    rw [maskCell, if_neg isNull]
    rfl
  rw [nested, maskCell, if_neg (redactNested_null isNull)]
  exact redactNested_again documented cell

private theorem redactNested_none (none : ∀ key, sensitive key = false) (cell : Value) :
    redactNested jsonText sensitive cell = cell := by
  cases cell with
  | json value => rw [redactNested, redactJson_none none]
  | jsonText text =>
    cases read : jsonText.fromStr text with
    | none => simp [redactNested, read]
    | some value => simp [redactNested, read, redactJson_none none]
  | _ => rfl

def maskRows (globs : Globs Pattern) (jsonText : JsonText) (patterns : SensitivePatterns Pattern)
    (positions : Option (List Bool)) (result : QueryResult) : QueryResult :=
  { result with
    rows := result.rows.map fun row =>
      row.mapIdx fun index cell =>
        maskCell jsonText (matchesName globs patterns)
          ((sensitiveColumns globs patterns result.columns positions)[index]?.getD false) cell }

/-- A result without anything to mask is left as it is, which masks its rows too. -/
theorem mask_eq (patterns : SensitivePatterns Pattern) (positions : Option (List Bool))
    (result : QueryResult) :
    mask globs jsonText patterns result positions =
      maskRows globs jsonText patterns positions result := by
  unfold mask
  dsimp only
  split
  · rename_i nothing
    rw [Bool.and_eq_true, Bool.not_eq_true', List.isEmpty_iff] at nothing
    obtain ⟨rfl, noColumns⟩ := nothing
    have noColumn (index : Nat) :
        (sensitiveColumns globs [] result.columns positions)[index]?.getD false = false := by
      cases flag : (sensitiveColumns globs [] result.columns positions)[index]? with
      | none => rfl
      | some sensitive => simpa using any_eq_false.mp noColumns sensitive (mem_of_getElem? flag)
    have kept (index : Nat) (cell : Value) : maskCell jsonText (matchesName globs [])
        ((sensitiveColumns globs [] result.columns positions)[index]?.getD false) cell = cell := by
      rw [noColumn, maskCell]
      split
      · rename_i isNull
        exact isNull.symm
      · exact redactNested_none (fun _ => rfl) cell
    have rows (row : List Value) : row.mapIdx (fun _ cell => cell) = row := by
      apply ext_getElem?
      simp
    simp only [maskRows, kept, rows, map_id']
  · rfl

variable {patterns : SensitivePatterns Pattern} {positions : Option (List Bool)}

private theorem mapIdx_congr {row row' : List Value} {f g : Nat → Value → Value}
    (length : row.length = row'.length)
    (same : ∀ index cell cell', row[index]? = some cell → row'[index]? = some cell' →
      f index cell = g index cell') : row.mapIdx f = row'.mapIdx g := by
  apply ext_getElem?
  intro index
  rw [getElem?_mapIdx, getElem?_mapIdx]
  by_cases within : index < row.length
  · have within' : index < row'.length := length ▸ within
    have cell := getElem?_eq_getElem within
    have cell' := getElem?_eq_getElem within'
    rw [cell, cell', Option.map_some, Option.map_some, same index _ _ cell cell']
  · rw [getElem?_eq_none (Nat.le_of_not_lt within),
      getElem?_eq_none (length ▸ Nat.le_of_not_lt within)]
    rfl

variable {result other : QueryResult}

private theorem maskRows_alike (documented : jsonText.Documented)
    (alike : AlikeResults globs jsonText patterns positions result other) :
    maskRows globs jsonText patterns positions result =
      maskRows globs jsonText patterns positions other := by
  obtain ⟨columns, rows, truncated⟩ := result
  obtain ⟨columns', rows', truncated'⟩ := other
  obtain ⟨rfl, rfl, alikeRows⟩ := alike
  rw [maskRows, maskRows, QueryResult.mk.injEq]
  refine ⟨rfl, ?_, rfl⟩
  dsimp only at alikeRows ⊢
  induction alikeRows with
  | nil => rfl
  | cons head _ ih =>
    rw [map_cons, map_cons, ih, mapIdx_congr head.1]
    intro index cell cell' isCell isCell'
    exact maskCell_alike documented (head.2 index cell cell' isCell isCell')

private theorem maskRows_again (documented : jsonText.Documented) (result : QueryResult) :
    maskRows globs jsonText patterns positions
        (maskRows globs jsonText patterns positions result) =
      maskRows globs jsonText patterns positions result := by
  rw [maskRows, maskRows, QueryResult.mk.injEq]
  refine ⟨rfl, ?_, rfl⟩
  rw [map_map]
  apply map_congr_left
  intro row _
  rw [Function.comp_apply]
  apply ext_getElem?
  intro index
  rw [getElem?_mapIdx, getElem?_mapIdx, Option.map_map]
  apply congrFun (congrArg Option.map (funext _)) _
  intro cell
  exact maskCell_again documented _ cell

/-- Masking hides what it masks, and masking twice is masking once. -/
theorem mask_hides (documented : jsonText.Documented) (patterns : SensitivePatterns Pattern)
    (positions : Option (List Bool)) :
    (∀ result other, AlikeResults globs jsonText patterns positions result other →
      mask globs jsonText patterns result positions =
        mask globs jsonText patterns other positions) ∧
    ∀ result,
      mask globs jsonText patterns (mask globs jsonText patterns result positions) positions =
        mask globs jsonText patterns result positions := by
  simp only [mask_eq]
  exact ⟨fun _ _ => maskRows_alike documented, maskRows_again documented⟩

end Results

/-- Patterns that are matched as they are, and text that is no JSON. -/
def plainGlobs : Globs String :=
  { new := some
    isMatch := fun pattern name => pattern == name
    toLowercase := fun name => name }

def noJsonText : JsonText := { fromStr := fun _ => none, toStr := fun _ => none }

private theorem noJsonText_documented : noJsonText.Documented :=
  ⟨fun _ => False, by simp [noJsonText], by simp, by simp⟩

/-- A password under a key of a JSON cell, and the same row with another. -/
def rowWithSecret (secret : Json) : QueryResult :=
  { columns := [{ name := "id" }, { name := "pin" }, { name := "profile" }]
    rows := [[.int 1, .text "1234", .json (.object (.cons "password" secret .nil))]]
    truncated := false }

theorem mask_hides_password :
    let patterns := sensitivePatterns plainGlobs ["pin", "password"]
    mask plainGlobs noJsonText patterns (rowWithSecret (.string "a")) none =
      mask plainGlobs noJsonText patterns (rowWithSecret (.number "7")) none :=
  (mask_hides noJsonText_documented (sensitivePatterns plainGlobs ["pin", "password"]) none).1 _ _ {
    columns := rfl
    truncated := rfl
    rows := by
      refine .cons ⟨rfl, ?_⟩ .nil
      intro index cell cell' isCell isCell'
      match index with
      | 0 =>
        cases isCell
        cases isCell'
        exact .inl rfl
      | 1 =>
        cases isCell
        cases isCell'
        exact iff_of_false (by decide) (by decide)
      | 2 =>
        cases isCell
        cases isCell'
        exact .inr (.inl ⟨_, _, rfl, rfl, _, rfl, _, _, rfl, by
          rw [if_pos (by decide)]
          decide, rfl⟩)
      | index + 3 => cases isCell }

end Bookie.Policy
