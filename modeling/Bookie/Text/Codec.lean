/-
Printers paired with the readers that undo them. A codec prints on one line, and
reads back what it printed whenever the next byte is no digit. The combinators build
objects, tagged unions, nullable values and arrays.
-/

import Bookie.Text.Reader

namespace Bookie.Text

open Reader

def Stops (rest : Bytes) : Prop := ∃ byte tail, rest = byte :: tail ∧ isDigit byte = false

/-- A text on one line that ends a number before it. -/
def separates (text : Bytes) : Bool :=
  text.all (fun byte => byte != newline) && (text.head?.map fun byte => !isDigit byte).getD false

private theorem plain_of_separates {text : Bytes} (good : separates text = true) :
    newline ∉ text := by
  simp only [separates, Bool.and_eq_true, List.all_eq_true] at good
  intro member
  simpa using good.1 newline member

private theorem stops_of_separates {text : Bytes} (good : separates text = true) (rest : Bytes) :
    Stops (text ++ rest) := by
  cases text with
  | nil => simp [separates] at good
  | cons byte text =>
    simp only [separates, Bool.and_eq_true, List.head?_cons, Option.map_some, Option.getD_some,
      Bool.not_eq_true'] at good
    exact ⟨byte, text ++ rest, rfl, good.2⟩

def utf8 (text : String) : Bytes := text.toUTF8.data.toList

def ofUtf8 (bytes : Bytes) : Option String := String.fromUTF8? ⟨bytes.toArray⟩

private theorem ofUtf8_utf8 (text : String) : ofUtf8 (utf8 text) = some text := by
  have same : (⟨(utf8 text).toArray⟩ : ByteArray) = text.toByteArray := by simp [utf8]
  rw [ofUtf8, same, String.fromUTF8?, dif_pos text.isValidUTF8]
  rfl

structure Codec (α : Type) where
  print : α → Bytes
  reader : Reader α
  read_print : ∀ value {rest}, Stops rest → reader.run (print value ++ rest) = some (value, rest)
  plain : ∀ value, newline ∉ print value

namespace Codec

variable {α β : Type}

def natural : Codec Nat :=
  { print := decimalBytes
    reader := Reader.natural
    read_print := by
      rintro number _ ⟨stop, tail, rfl, stops⟩
      exact readDigits_decimalBytes number stops tail
    plain := by
      intro number member
      unfold decimalBytes at member
      split at member
      · revert member
        decide
      obtain ⟨digit, found, same⟩ := List.mem_map.mp member
      have small := Nat.digits_lt_base (by decide) (List.mem_reverse.mp found)
      revert same
      have none : ∀ digit < 10, UInt8.ofNat (48 + digit) ≠ newline := by decide
      exact none digit small }

def quoted : Codec Bytes :=
  { print := quote
    reader := Reader.quoted
    read_print := fun content rest _ => run_quoted content rest
    plain := newline_not_mem_quote }

variable (codec : Codec α)

def through (encode : β → α) (decode : α → Option β)
    (decodes : ∀ value, decode (encode value) = some value) : Codec β :=
  { print := fun value => codec.print (encode value)
    reader := codec.reader.refine decode
    read_print := fun value _ stops =>
      run_refine (codec.read_print (encode value) stops) (decodes value)
    plain := fun value => codec.plain (encode value) }

def string : Codec String := quoted.through utf8 ofUtf8 ofUtf8_utf8

def enumeration (name : α → String) (values : List α)
    (found : ∀ value, values.find? (fun other => name other == name value) = some value) :
    Codec α :=
  string.through name (fun text => values.find? fun other => name other == text) found

def after (text : Bytes) (plain : newline ∉ text) (codec : Codec α) : Codec α :=
  { print := fun value => text ++ codec.print value
    reader := do
      literal text
      codec.reader
    read_print := by
      intro value rest stops
      rw [List.append_assoc, run_bind, run_literal]
      exact codec.read_print value stops
    plain := by
      intro value member
      rcases List.mem_append.mp member with inText | inValue
      · exact plain inText
      · exact codec.plain value inValue }

/-- Two values in a row; the second must not start like a digit. -/
def both (first : Codec α) (second : Codec β) (opens : ∀ value, Stops (second.print value)) :
    Codec (α × β) :=
  { print := fun value => first.print value.1 ++ second.print value.2
    reader := do
      let left ← first.reader
      let right ← second.reader
      pure (left, right)
    read_print := by
      rintro ⟨left, right⟩ rest stops
      obtain ⟨byte, tail, printed, noDigit⟩ := opens right
      have follows : Stops (second.print right ++ rest) :=
        ⟨byte, tail ++ rest, by rw [printed]; rfl, noDigit⟩
      simp [List.append_assoc, first.read_print left follows, second.read_print right stops]
    plain := by
      intro value member
      rcases List.mem_append.mp member with inFirst | inSecond
      · exact first.plain value.1 inFirst
      · exact second.plain value.2 inSecond }

/-- The next member of an object: its separator and key, then its value. -/
def andThen (first : Codec α) (key : Bytes) (good : separates key = true) (second : Codec β) :
    Codec (α × β) :=
  both first (after key (plain_of_separates good) second) fun value =>
    stops_of_separates good (second.print value)

def closed (text : Bytes) (good : separates text = true) : Codec α :=
  { print := fun value => codec.print value ++ text
    reader := do
      let value ← codec.reader
      literal text
      pure value
    read_print := by
      intro value rest _
      simp [List.append_assoc, codec.read_print value (stops_of_separates good rest)]
    plain := by
      intro value member
      rcases List.mem_append.mp member with inValue | inText
      · exact codec.plain value inValue
      · exact plain_of_separates good inText }

def text (content : Bytes) (plain : newline ∉ content) : Codec Unit :=
  { print := fun _ => content
    reader := literal content
    read_print := fun _ {rest} _ => run_literal content rest
    plain := fun _ => plain }

/-- Two alternatives told apart by the byte at one place. -/
def either (left : Codec α) (right : Codec β) (place : Nat) (mark : UInt8)
    (marked : ∀ value, (left.print value)[place]? = some mark)
    (unmarked : ∀ value, ∃ byte, (right.print value)[place]? = some byte ∧ byte ≠ mark) :
    Codec (α ⊕ β) :=
  { print := fun
      | .inl value => left.print value
      | .inr value => right.print value
    reader :=
      { run := fun input => (input[place]?).bind fun byte =>
          if byte = mark then
            (Reader.bind left.reader fun value => Reader.pure (.inl value)).run input
          else (Reader.bind right.reader fun value => Reader.pure (.inr value)).run input
        stable := by
          intro input value rest success more
          obtain ⟨byte, found, read⟩ := Option.bind_eq_some_iff.mp success
          obtain ⟨inside, _⟩ := List.getElem?_eq_some_iff.mp found
          rw [List.getElem?_append_left inside, found, Option.bind_some]
          split at read
          · rw [if_pos ‹_›]
            exact Reader.stable _ read more
          · rw [if_neg ‹_›]
            exact Reader.stable _ read more }
    read_print := by
      rintro (value | value) rest stops
      · have found := marked value
        obtain ⟨inside, _⟩ := List.getElem?_eq_some_iff.mp found
        simp [List.getElem?_append_left inside, found, Reader.bind, Reader.pure,
          left.read_print value stops]
      obtain ⟨byte, found, different⟩ := unmarked value
      obtain ⟨inside, _⟩ := List.getElem?_eq_some_iff.mp found
      simp [List.getElem?_append_left inside, found, different, Reader.bind, Reader.pure,
        right.read_print value stops]
    plain := by
      rintro (value | value)
      · exact left.plain value
      · exact right.plain value }

/-- `null`, or a value that starts with another byte. -/
def nullable (opens : ∀ value, ∃ byte, (codec.print value)[0]? = some byte ∧ byte ≠ 110) :
    Codec (Option α) :=
  (either (text [110, 117, 108, 108] (by decide)) codec 0 110 (fun _ => rfl) opens).through
    (fun
      | none => .inl ()
      | some value => .inr value)
    (fun
      | .inl () => some none
      | .inr value => some (some value))
    (by rintro (_ | value) <;> rfl)

/-! ### Values that end by themselves -/

/-- Reading back does not depend on what follows, not even on there being anything. -/
def SelfDelimiting : Prop :=
  ∀ value rest, codec.reader.run (codec.print value ++ rest) = some (value, rest)

theorem selfDelimiting_text (content : Bytes) (plain : newline ∉ content) :
    (text content plain).SelfDelimiting := fun _ rest => run_literal content rest

variable (codec : Codec α)

theorem selfDelimiting_closed (text : Bytes) (good : separates text = true) :
    (codec.closed text good).SelfDelimiting := by
  intro value rest
  simp [closed, codec.read_print value (stops_of_separates good rest)]

theorem SelfDelimiting.after {codec : Codec α} (ends : codec.SelfDelimiting) (text : Bytes)
    (plain : newline ∉ text) : (codec.after text plain).SelfDelimiting := by
  intro value rest
  simp [Codec.after, ends value rest]

theorem SelfDelimiting.both (first : Codec α) {second : Codec β} (ends : second.SelfDelimiting)
    (opens : ∀ value, Stops (second.print value)) : (first.both second opens).SelfDelimiting := by
  rintro ⟨left, right⟩ rest
  obtain ⟨byte, tail, printed, noDigit⟩ := opens right
  have follows : Stops (second.print right ++ rest) :=
    ⟨byte, tail ++ rest, by rw [printed]; rfl, noDigit⟩
  simp [Codec.both, first.read_print left follows, ends right rest]

theorem SelfDelimiting.through {codec : Codec α} (ends : codec.SelfDelimiting) (encode : β → α)
    (decode : α → Option β) (decodes : ∀ value, decode (encode value) = some value) :
    (codec.through encode decode decodes).SelfDelimiting := fun value rest =>
  run_refine (ends (encode value) rest) (decodes value)

theorem SelfDelimiting.either {left : Codec α} {right : Codec β} (leftEnds : left.SelfDelimiting)
    (rightEnds : right.SelfDelimiting) (place : Nat) (mark : UInt8)
    (marked : ∀ value, (left.print value)[place]? = some mark)
    (unmarked : ∀ value, ∃ byte, (right.print value)[place]? = some byte ∧ byte ≠ mark) :
    (left.either right place mark marked unmarked).SelfDelimiting := by
  rintro (value | value) rest
  · have found := marked value
    obtain ⟨inside, _⟩ := List.getElem?_eq_some_iff.mp found
    simp [Codec.either, List.getElem?_append_left inside, found, Reader.bind, Reader.pure,
      leftEnds value rest]
  obtain ⟨byte, found, different⟩ := unmarked value
  obtain ⟨inside, _⟩ := List.getElem?_eq_some_iff.mp found
  simp [Codec.either, List.getElem?_append_left inside, found, different, Reader.bind,
    Reader.pure, rightEnds value rest]

/-! ### Arrays -/

def printMore (items : List α) : Bytes :=
  items.flatMap (fun item => 44 :: codec.print item) ++ [93]

def readMore (codec : Codec α) : Nat → Reader (List α)
  | 0 => { run := fun _ => none, stable := by rintro _ _ _ ⟨⟩ }
  | fuel + 1 => peek fun byte =>
    if byte = 93 then do
      literal [93]
      pure []
    else do
      literal [44]
      let item ← codec.reader
      let items ← readMore codec fuel
      pure (item :: items)

private theorem stops_printMore (items : List α) (rest : Bytes) :
    Stops (printMore codec items ++ rest) := by
  cases items with
  | nil => exact ⟨93, rest, rfl, rfl⟩
  | cons item items => exact ⟨44, _, rfl, rfl⟩

private theorem run_readMore (items : List α) (rest : Bytes) {fuel : Nat}
    (enough : items.length < fuel) :
    (readMore codec fuel).run (printMore codec items ++ rest) = some (items, rest) := by
  induction items generalizing fuel with
  | nil =>
    cases fuel with
    | zero => omega
    | succ fuel => rfl
  | cons item items ih =>
    cases fuel with
    | zero => omega
    | succ fuel =>
    have tail := ih (by simpa using enough)
    have printed : printMore codec (item :: items) ++ rest =
        44 :: (codec.print item ++ (printMore codec items ++ rest)) := by
      simp [printMore]
    have comma := run_literal [44] (codec.print item ++ (printMore codec items ++ rest))
    have value := codec.read_print item (stops_printMore codec items rest)
    rw [List.singleton_append] at comma
    rw [printed, readMore]
    simp [comma, value, tail]

private theorem readMore_mono {fuel more : Nat} (le : fuel ≤ more) {input : Bytes}
    {result : List α × Bytes} (success : (readMore codec fuel).run input = some result) :
    (readMore codec more).run input = some result := by
  induction fuel generalizing more input result with
  | zero => cases success
  | succ fuel ih =>
    cases more with
    | zero => omega
    | succ more =>
    cases input with
    | nil => cases success
    | cons byte input =>
    rw [readMore, run_peek_cons] at success ⊢
    split at success
    · rw [if_pos ‹_›]
      exact success
    rw [if_neg ‹_›]
    simp only [run_bind, Option.bind_eq_some_iff] at success ⊢
    obtain ⟨comma, atComma, item, atItem, items, atItems, done⟩ := success
    exact ⟨comma, atComma, item, atItem, items, ih (by omega) atItems, done⟩

private def more : Codec (List α) :=
  { print := printMore codec
    reader :=
      { run := fun input => (readMore codec input.length).run input
        stable := by
          intro input value rest success added
          refine readMore_mono codec ?_ ((readMore codec input.length).stable success added)
          rw [List.length_append]
          exact Nat.le_add_right _ _ }
    read_print := by
      intro items rest _
      refine run_readMore codec items rest ?_
      have grows : items.length ≤ (items.flatMap fun item => 44 :: codec.print item).length := by
        induction items with
        | nil => exact Nat.le_refl _
        | cons item items ih =>
          simp only [List.flatMap_cons, List.length_append, List.length_cons]
          omega
      simp only [printMore, List.length_append, List.length_singleton]
      omega
    plain := by
      intro items member
      simp only [printMore, List.mem_append, List.mem_flatMap, List.mem_cons, List.not_mem_nil,
        or_false] at member
      rcases member with ⟨item, _, comma | inItem⟩ | bracket
      · exact absurd comma (by decide)
      · exact codec.plain item inItem
      · exact absurd bracket (by decide) }

/-- An array of values, none of which starts with the closing bracket. -/
def list (opens : ∀ value, ∃ byte, (codec.print value)[0]? = some byte ∧ byte ≠ 93) :
    Codec (List α) :=
  (either (text [91, 93] (by decide))
    (after [91] (by decide) (both codec (more codec) fun items => by
      have stops := stops_printMore codec items []
      rwa [List.append_nil] at stops))
    1 93 (fun _ => rfl) (by
      rintro ⟨item, items⟩
      obtain ⟨byte, found, different⟩ := opens item
      obtain ⟨inside, _⟩ := List.getElem?_eq_some_iff.mp found
      refine ⟨byte, ?_, different⟩
      simp only [after, both, List.singleton_append, List.getElem?_cons_succ]
      rw [List.getElem?_append_left inside, found])).through
    (fun
      | [] => .inl ()
      | item :: items => .inr (item, items))
    (fun
      | .inl () => some []
      | .inr (item, items) => some (item :: items))
    (by rintro (_ | ⟨item, items⟩) <;> rfl)

end Codec

end Bookie.Text
