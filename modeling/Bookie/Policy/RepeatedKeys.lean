/-
Repeated keys in JSON text. The parser keeps the last of several equal keys, so what
is redacted is decided on a value that may have lost a secret the text still shows.
-/

import Bookie.Policy.Mask

namespace Bookie.Policy

open Bookie.Core

def insertMember (key : String) (entry : Json) : JsonMap → JsonMap
  | .nil => .cons key entry .nil
  | .cons other kept rest =>
    if other == key then .cons other entry rest else .cons other kept (insertMember key entry rest)

mutual

def lastKept : Json → Json
  | .array items => .array (lastKeptItems items)
  | .object members => .object (lastKeptMap members .nil)
  | value => value

def lastKeptItems : JsonItems → JsonItems
  | .nil => .nil
  | .cons item rest => .cons (lastKept item) (lastKeptItems rest)

def lastKeptMap : JsonMap → JsonMap → JsonMap
  | .nil, read => read
  | .cons key entry rest, read => lastKeptMap rest (insertMember key (lastKept entry) read)

end

/-- The texts that are documents. A document is parsed to what is kept of it, and its value,
with entries redacted, is printed as a document of its own. -/
structure JsonText.Reads (jsonText : JsonText) (document : String → Option Json) : Prop where
  parses : ∀ text, jsonText.fromStr text = (document text).map lastKept
  prints : ∀ text source sensitive, document text = some source →
    ∃ masked, jsonText.toStr (redactJson sensitive (lastKept source)).1 = some masked ∧
      document masked = some (redactJson sensitive (lastKept source)).1

section Exposed

variable (sensitive : String → Bool)

mutual

/-- Whether a value other than null and the redaction text stands under a sensitive key. -/
def exposes : Json → Bool
  | .array items => itemsExpose items
  | .object members => mapExposes members
  | _ => false

def itemsExpose : JsonItems → Bool
  | .nil => false
  | .cons item rest => exposes item || itemsExpose rest

def mapExposes : JsonMap → Bool
  | .nil => false
  | .cons key entry rest =>
    (sensitive key && entry != .null && entry != .string redacted) || exposes entry ||
      mapExposes rest

end

variable {sensitive}

mutual

private theorem redactJson_hides :
    ∀ value : Json, exposes sensitive (redactJson sensitive value).1 = false
  | .array items => redactItems_hides items
  | .object members => redactMap_hides members
  | .null => rfl
  | .bool _ => rfl
  | .number _ => rfl
  | .string _ => rfl

private theorem redactItems_hides : ∀ items : JsonItems,
    itemsExpose sensitive (redactItems sensitive items).1 = false
  | .nil => rfl
  | .cons item rest => by
    rw [redactItems, itemsExpose, redactJson_hides item, redactItems_hides rest]
    rfl

private theorem redactMap_hides : ∀ members : JsonMap,
    mapExposes sensitive (redactMap sensitive members).1 = false
  | .nil => rfl
  | .cons key entry rest => by
    cases secret : sensitive key && entry != .null with
    | true =>
      rw [redactMap_secret secret, mapExposes, redactMap_hides rest]
      simp [exposes]
    | false =>
      rw [redactMap_other secret, mapExposes, redactJson_null, secret, redactJson_hides entry,
        redactMap_hides rest]
      rfl

end

end Exposed

section Cells

variable {Pattern : Type} {globs : Globs Pattern} {jsonText : JsonText}
  {document : String → Option Json} {sensitive : String → Bool} {text : String} {source : Json}

private theorem redactNested_kept (reads : jsonText.Reads document)
    (read : document text = some source) (kept : holdsSecret sensitive (lastKept source) = false) :
    redactNested jsonText sensitive (.jsonText text) = .jsonText text := by
  rw [← redactJson_changed] at kept
  simp [redactNested, reads.parses, read, kept]

private theorem redactNested_masked (reads : jsonText.Reads document)
    (read : document text = some source) (secret : holdsSecret sensitive (lastKept source) = true) :
    ∃ masked, redactNested jsonText sensitive (.jsonText text) = .jsonText masked ∧
      document masked = some (redactJson sensitive (lastKept source)).1 := by
  obtain ⟨masked, print, shown⟩ := reads.prints text source sensitive read
  refine ⟨masked, ?_, shown⟩
  rw [← redactJson_changed] at secret
  simp [redactNested, reads.parses, read, secret, print]

private theorem mask_cell (patterns : SensitivePatterns Pattern) (positions : Option (List Bool))
    {result : QueryResult} {row : List Value} {place index : Nat}
    (isRow : result.rows[place]? = some row) (isCell : row[index]? = some (.jsonText text)) :
    ((mask globs jsonText patterns result positions).rows[place]?.bind (·[index]?)) =
      some (maskCell jsonText (matchesName globs patterns)
        ((sensitiveColumns globs patterns result.columns positions)[index]?.getD false)
        (.jsonText text)) := by
  rw [mask_eq, maskRows, List.getElem?_map, isRow, Option.map_some, Option.bind_some,
    List.getElem?_mapIdx, isCell]
  rfl

/-- **Secrets in JSON text.** A masked JSON cell shows no secret exactly if its column is masked,
its text shows none, or the parser keeps one of those it shows. -/
theorem json_text_masked_iff (reads : jsonText.Reads document)
    (patterns : SensitivePatterns Pattern) (positions : Option (List Bool)) {result : QueryResult}
    {row : List Value} {place index : Nat} (isRow : result.rows[place]? = some row)
    (isCell : row[index]? = some (.jsonText text)) (read : document text = some source) :
    (∀ masked,
      ((mask globs jsonText patterns result positions).rows[place]?.bind (·[index]?)) =
        some (.jsonText masked) →
      ∃ shown, document masked = some shown ∧
        exposes (matchesName globs patterns) shown = false) ↔
      (sensitiveColumns globs patterns result.columns positions)[index]?.getD false = true ∨
        exposes (matchesName globs patterns) source = false ∨
        holdsSecret (matchesName globs patterns) (lastKept source) = true := by
  rw [mask_cell patterns positions isRow isCell]
  cases (sensitiveColumns globs patterns result.columns positions)[index]?.getD false with
  | true => simp [maskCell]
  | false =>
  have nested : maskCell jsonText (matchesName globs patterns) false (.jsonText text) =
      redactNested jsonText (matchesName globs patterns) (.jsonText text) := rfl
  rw [nested]
  cases secret : holdsSecret (matchesName globs patterns) (lastKept source) with
  | true =>
    obtain ⟨masked, output, shown⟩ := redactNested_masked reads read secret
    rw [output]
    refine iff_of_true ?_ (.inr (.inr rfl))
    rintro _ ⟨⟩
    exact ⟨_, shown, redactJson_hides _⟩
  | false =>
  rw [redactNested_kept reads read secret]
  constructor
  · intro hidden
    obtain ⟨shown, isShown, safe⟩ := hidden text rfl
    rw [read, Option.some.injEq] at isShown
    exact .inr (.inl (isShown ▸ safe))
  intro conditions masked same
  cases same
  rcases conditions with flagged | safe | held
  · cases flagged
  · exact ⟨source, read, safe⟩
  · cases held

end Cells

/-! A password given twice, the second time as null. -/

def passwords (entries : List Json) : Json :=
  .object (entries.foldr (JsonMap.cons "password") .nil)

def passwordTwice : String := "\x7b\"password\":\"x\",\"password\":null\x7d"

def samples : List (String × Json) :=
  [(passwordTwice, passwords [.string "x", .null]),
    ("\x7b\"password\":null\x7d", passwords [.null]),
    ("\x7b\"password\":\"x\"\x7d", passwords [.string "x"]),
    ("\x7b\"password\":\"***REDACTED***\"\x7d", passwords [.string redacted])]

def sampleDocument (text : String) : Option Json :=
  (samples.find? fun sample => sample.1 == text).map Prod.snd

def sampleJsonText : JsonText :=
  { fromStr := fun text => (sampleDocument text).map lastKept
    toStr := fun value => (samples.find? fun sample => sample.2 == value).map Prod.fst }

private theorem sampleJsonText_reads : sampleJsonText.Reads sampleDocument := by
  refine ⟨fun _ => rfl, fun text source sensitive read => ?_⟩
  obtain ⟨sample, found, rfl⟩ := Option.map_eq_some_iff.mp read
  have member := List.mem_of_find?_eq_some found
  simp only [samples, List.mem_cons, List.not_mem_nil, or_false] at member
  cases secret : sensitive "password" with
  | true | false =>
  rcases member with rfl | rfl | rfl | rfl <;>
    simp only [passwords, List.foldr, lastKept, lastKeptMap, insertMember, beq_self_eq_true,
      if_true, redactJson, redactMap, secret] <;>
    exact ⟨_, rfl, rfl⟩

def profileRow (text : String) : QueryResult :=
  { columns := [{ name := "profile" }], rows := [[.jsonText text]], truncated := false }

theorem repeated_password_shown :
    sampleJsonText.Reads sampleDocument ∧
      ((mask plainGlobs sampleJsonText ["password"] (profileRow passwordTwice) none).rows[0]?.bind
          (·[0]?)) = some (.jsonText passwordTwice) ∧
      (sampleDocument passwordTwice).map (exposes (matchesName plainGlobs ["password"])) =
        some true :=
  ⟨sampleJsonText_reads, rfl, rfl⟩

theorem single_password_masked :
    sampleJsonText.Reads sampleDocument ∧ ∀ masked, ((mask plainGlobs sampleJsonText ["password"]
        (profileRow "\x7b\"password\":\"x\"\x7d") none).rows[0]?.bind (·[0]?)) =
        some (.jsonText masked) →
      ∃ shown, sampleDocument masked = some shown ∧
        exposes (matchesName plainGlobs ["password"]) shown = false :=
  ⟨sampleJsonText_reads,
    (json_text_masked_iff sampleJsonText_reads ["password"] none rfl rfl rfl).mpr (.inr (.inr rfl))⟩

end Bookie.Policy
