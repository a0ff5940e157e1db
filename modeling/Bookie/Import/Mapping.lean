/-
The mapping of table columns to the headers of a CSV file that the import offers to start with
(the core crate's `import::csv_import`). Rust's `str::to_lowercase` is a parameter.
-/

import Bookie.Text.Chars

namespace Bookie.Import

open Text List

structure Suggestion where
  mapping : List (Option Nat)
  used : List Bool

variable (headers columns : List String)

def Suggestion.assign (state : Suggestion) (wanted : String) (column : Nat) : Suggestion :=
  match (headers.zip state.used).findIdx? fun (header, used) => !used && header == wanted with
  | some header =>
    { mapping := state.mapping.set column (some header), used := state.used.set header true }
  | none => state

/-- Only the second loop over the columns passes over those that are mapped. -/
def Suggestion.turn (again : Bool) (state : Suggestion) (column : String × Nat) : Suggestion :=
  if again && state.mapping[column.2]?.join.isSome then state
  else state.assign headers column.1 column.2

def Suggestion.pass (again : Bool) (state : Suggestion) : Suggestion :=
  columns.zipIdx.foldl (turn headers again) state

def suggestMapping (toLowercase : String → String) : List (Option Nat) :=
  let start : Suggestion :=
    { mapping := replicate columns.length none, used := replicate headers.length false }
  let exact := start.pass (headers.map trim) (columns.map trim) false
  (exact.pass (headers.map (toLowercase ∘ trim)) (columns.map (toLowercase ∘ trim))
    true).mapping

namespace Suggestion

variable {headers columns} {state : Suggestion}

def Maps (state : Suggestion) (column header : Nat) : Prop :=
  state.mapping[column]? = some (some header)

def Uses (state : Suggestion) (header : Nat) : Prop := state.used[header]? = some true

/-- The used headers are those of one column each, with its name. -/
structure Sound (headers columns : List String) (state : Suggestion) : Prop where
  width : state.mapping.length = columns.length
  headerWidth : state.used.length = headers.length
  assigned : ∀ column header, state.Maps column header → state.Uses header ∧
    ∃ name, columns[column]? = some name ∧ headers[header]? = some name
  owner : ∀ header, state.Uses header → ∃ column, ∀ other, state.Maps other header ↔ other = column

private theorem Sound.map (sound : state.Sound headers columns) (f : String → String) :
    state.Sound (headers.map f) (columns.map f) := by
  refine ⟨by simp [sound.width], by simp [sound.headerWidth], fun column header mapped => ?_,
    sound.owner⟩
  obtain ⟨isUsed, name, named, offered⟩ := sound.assigned column header mapped
  exact ⟨isUsed, f name, by simp [named], by simp [offered]⟩

/-- A pass from a state to the next column to look at. Of each column before that, either it is
mapped or no header of its name is left. -/
structure Reached (headers columns : List String) (again : Bool) (start : Suggestion)
    (next : Nat) (state : Suggestion) : Prop where
  sound : state.Sound headers columns
  fresh : again = false → ∀ column ≥ next, ∀ header, ¬ state.Maps column header
  kept : ∀ column header, start.Maps column header → state.Maps column header
  served : ∀ column < next, ∀ wanted, columns[column]? = some wanted →
    (∃ header, state.Maps column header) ∨
      ∀ header : Nat, headers[header]? = some wanted → state.Uses header

variable {wanted : String} {column : Nat} {again : Bool} {start : Suggestion}

private theorem Reached.assign (reached : Reached headers columns again start column state)
    (named : columns[column]? = some wanted) (free : state.mapping[column]? = some none) :
    Reached headers columns again start (column + 1) (state.assign headers wanted column) := by
  obtain ⟨⟨width, headerWidth, assigned, owner⟩, fresh, kept, served⟩ := reached
  have inside := (List.getElem?_eq_some_iff.mp free).1
  unfold Suggestion.assign
  split
  · rename_i header found
    obtain ⟨offered, unused⟩ :
        headers[header]? = some wanted ∧ state.used[header]? = some false := by
      have holds := of_findIdx?_eq_some found
      cases pair : (headers.zip state.used)[header]? with
      | none => simp [pair] at holds
      | some pair =>
        obtain ⟨left, right⟩ := getElem?_zip_eq_some.mp ‹_›
        simp_all
    clear found
    refine ⟨⟨by simp [width], by simp [headerWidth], ?_, fun taken isUsed => ?_⟩, ?_, ?_, ?_⟩ <;>
      simp only [Maps, Uses] at *
    · grind
    · by_cases same : taken = header
      · exact ⟨column, by grind⟩
      · obtain ⟨mapped, own⟩ := owner taken (by grind)
        exact ⟨mapped, by grind⟩
    · grind
    · grind
    · grind
  rename_i missing
  have full : ∀ header : Nat, headers[header]? = some wanted → state.Uses header := by
    intro header offered
    have within := (List.getElem?_eq_some_iff.mp offered).1
    rw [← headerWidth] at within
    have taken := findIdx?_eq_none_iff.mp missing (wanted, state.used[header])
      (mem_of_getElem? (getElem?_zip_eq_some.mpr ⟨offered, getElem?_eq_getElem within⟩))
    simpa [Uses, within] using taken
  refine ⟨⟨width, headerWidth, assigned, owner⟩,
    fun first other behind => fresh first other (by omega), kept, ?_⟩
  intro other before name isName
  rcases Nat.lt_succ_iff_lt_or_eq.mp before with earlier | rfl
  · exact served other earlier name isName
  · exact .inr (Option.some_inj.mp (named.symm.trans isName) ▸ full)

private theorem Reached.turn (reached : Reached headers columns again start column state)
    (named : columns[column]? = some wanted) :
    Reached headers columns again start (column + 1)
      (state.turn headers again (wanted, column)) := by
  have inside := (List.getElem?_eq_some_iff.mp named).1
  rw [← reached.sound.width] at inside
  cases entry : state.mapping[column] with
  | none =>
    have free : state.mapping[column]? = some none := List.getElem?_eq_some_iff.mpr ⟨inside, entry⟩
    simpa [Suggestion.turn, free] using reached.assign named free
  | some header =>
    have mapped : state.Maps column header := List.getElem?_eq_some_iff.mpr ⟨inside, entry⟩
    cases again with
    | false => exact absurd mapped (reached.fresh rfl column (Nat.le_refl _) header)
    | true =>
      rw [Suggestion.turn, mapped]
      refine ⟨reached.sound, by simp, reached.kept, fun other before name isName => ?_⟩
      rcases Nat.lt_succ_iff_lt_or_eq.mp before with earlier | rfl
      · exact reached.served other earlier name isName
      · exact .inl ⟨header, mapped⟩

private theorem Reached.foldl {front rest : List String} (split : columns = front ++ rest)
    (reached : Reached headers columns again start front.length state) :
    Reached headers columns again start columns.length
      ((rest.zipIdx front.length).foldl (Suggestion.turn headers again) state) := by
  induction rest generalizing front state with
  | nil => simpa [split] using reached
  | cons wanted rest ih =>
    have next := reached.turn (show columns[front.length]? = some wanted by simp [split])
    have tail := @ih _ (front ++ [wanted]) (by simp [split]) (by simpa using next)
    simpa [zipIdx_cons] using tail

private theorem pass_reached (again : Bool) (sound : state.Sound headers columns)
    (fresh : again = false → ∀ column header, ¬ state.Maps column header) :
    Reached headers columns again state columns.length (state.pass headers columns again) :=
  @Reached.foldl _ _ _ _ _ [] _ rfl ⟨sound, fun first column _ => fresh first column,
    fun _ _ mapped => mapped, by simp⟩

end Suggestion

open Suggestion

/-- The mapping is injective and keeps to the names. A column has a header of exactly its name if
there is one, and none only if every header of its name in some case is another column's. -/
theorem suggestMapping_sound (toLowercase : String → String) (headers columns : List String)
    (distinct : (columns.map trim).Nodup) :
    let mapping := suggestMapping headers columns toLowercase
    let named := columns.map trim
    let offered := headers.map trim
    mapping.length = columns.length ∧
    (∀ column other header : Nat, mapping[column]? = some (some header) →
      mapping[other]? = some (some header) → column = other) ∧
    (∀ (column : Nat) name, named[column]? = some name → name ∈ offered →
      ∃ header : Nat, mapping[column]? = some (some header) ∧ offered[header]? = some name) ∧
    (∀ column header : Nat, mapping[column]? = some (some header) → ∃ name text,
      named[column]? = some name ∧ offered[header]? = some text ∧
      toLowercase name = toLowercase text) ∧
    ∀ (column header : Nat) name text, named[column]? = some name → offered[header]? = some text →
      toLowercase name = toLowercase text → mapping[column]? = some none →
      ∃ other, other ≠ column ∧ mapping[other]? = some (some header) := by
  intro mapping named offered
  let start : Suggestion :=
    { mapping := replicate columns.length none, used := replicate headers.length false }
  have empty : ∀ column header, ¬ start.Maps column header := by
    simp [Maps, start, getElem?_replicate]
  have sound : start.Sound offered named := by
    refine ⟨by simp [start, named], by simp [start, offered], fun column header mapped =>
      absurd mapped (empty column header), ?_⟩
    simp [Uses, start, getElem?_replicate]
  have first := pass_reached false sound fun _ => empty
  have second := pass_reached true (first.sound.map toLowercase) (by simp)
  have last : mapping = ((start.pass offered named false).pass (offered.map toLowercase)
      (named.map toLowercase) true).mapping := by
    simp only [offered, named, map_map]
    rfl
  rw [last]
  refine ⟨?_, ?_, ?_, ?_, ?_⟩
  · simpa [named] using second.sound.width
  · intro column other header left right
    obtain ⟨owner, own⟩ := second.sound.owner header (second.sound.assigned column header left).1
    exact ((own column).mp left).trans ((own other).mp right).symm
  · intro column name isName isOffered
    have within := (List.getElem?_eq_some_iff.mp isName).1
    have mapped : ∃ header, (start.pass offered named false).Maps column header := by
      rcases first.served column within name isName with mapped | taken
      · exact mapped
      -- The header is one column's of that name, which is this one.
      obtain ⟨header, isHeader⟩ := mem_iff_getElem?.mp isOffered
      obtain ⟨owner, own⟩ := first.sound.owner header (taken header isHeader)
      obtain ⟨-, other, isOther, same⟩ := first.sound.assigned owner header ((own owner).mpr rfl)
      rw [← same.symm.trans isHeader] at isName
      rw [← (getElem?_inj within distinct).mp (isName.trans isOther.symm)] at own
      exact ⟨header, (own column).mpr rfl⟩
    obtain ⟨header, mapped⟩ := mapped
    obtain ⟨-, other, isOther, isHeader⟩ := first.sound.assigned column header mapped
    exact ⟨header, second.kept column header mapped, isHeader.trans (isOther.symm.trans isName)⟩
  · intro column header mapped
    obtain ⟨-, key, isName, isText⟩ := second.sound.assigned column header mapped
    rw [getElem?_map, Option.map_eq_some_iff] at isName isText
    obtain ⟨name, isName, rfl⟩ := isName
    obtain ⟨text, isText, same⟩ := isText
    exact ⟨name, text, isName, isText, same.symm⟩
  intro column header name text isName isText same unmapped
  have within := (List.getElem?_eq_some_iff.mp isName).1
  have taken := (second.served column (by simpa using within) (toLowercase name)
    (by simp [isName])).resolve_left fun ⟨_, mapped⟩ => by simp [Maps, unmapped] at mapped
  obtain ⟨owner, own⟩ := second.sound.owner header (taken header (by simp [isText, same]))
  have mapped := (own owner).mpr rfl
  refine ⟨owner, ?_, mapped⟩
  rintro rfl
  simp [Maps, unmapped] at mapped

def asciiLower (name : String) : String := String.ofList (name.toList.map Char.toLower)

/-- The first column has a header of its own name, the second one in another case. -/
theorem suggestMapping_names :
    let mapping := suggestMapping ["ID", " id"] ["id ", "Id"] asciiLower
    (∃ header : Nat, mapping[0]? = some (some header) ∧
      (["ID", " id"].map trim)[header]? = some "id") ∧
    ∃ name text, (["id ", "Id"].map trim)[1]? = some name ∧
      (["ID", " id"].map trim)[0]? = some text ∧ asciiLower name = asciiLower text := by
  intro mapping
  obtain ⟨-, -, named, cased, -⟩ :=
    suggestMapping_sound asciiLower ["ID", " id"] ["id ", "Id"] (by decide)
  exact ⟨named 0 "id" (by decide) (by decide), cased 1 0 (by decide)⟩

end Bookie.Import
