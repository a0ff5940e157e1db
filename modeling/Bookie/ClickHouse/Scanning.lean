/-
What the scanner makes of a literal. Whatever the value, its literal takes the
scanner from outside of all quotes to outside of all quotes.
-/

import Bookie.ClickHouse.Binding

namespace Bookie.ClickHouse

open Bookie.Core Policy Sql Text List

variable {ch : Char} {text inside : List Char}

theorem states_one {state : ScanState} {rest : List Char}
    (alone : (advance state ch rest.head?).1 = false) :
    states state (ch :: rest) = state :: states (advance state ch rest.head?).2 rest := by
  cases rest with
  | nil => rfl
  | cons next rest =>
    rw [head?_cons] at alone ⊢
    rw [states, if_neg (by rw [alone]; decide)]

theorem states_two {state : ScanState} {next : Char} {rest : List Char}
    (both : (advance state ch (some next)).1 = true) :
    states state (ch :: next :: rest) =
      state :: state :: states (advance state ch (some next)).2 rest := by
  rw [states, if_pos both]

theorem states_head (state : ScanState) (text : List Char) :
    (states state text).head? = some state := by
  cases text with
  | nil => rfl
  | cons ch text =>
  cases text with
  | nil => rfl
  | cons next text =>
    rw [states]
    split <;> rfl

/-! ### Pieces that leave the scanner where it was -/

/-- A piece of SQL that is scanned from outside of all quotes to outside of all quotes,
whatever stands behind it, except for a quote behind its closing quote. -/
structure Passes (piece : List Char) : Prop where
  nonempty : piece ≠ []
  labels : ∃ labels : List ScanState, labels.length = piece.length ∧
    labels.head? = some .sql ∧
    ∀ more : List Char, (piece.getLast? = some '\'' → more.head? ≠ some '\'') →
      states .sql (piece ++ more) = labels ++ states .sql more

variable {front back : List Char}

private theorem Passes.append (first : Passes front) (second : Passes back)
    (apart : front.getLast? = some '\'' → back.head? ≠ some '\'') : Passes (front ++ back) := by
  obtain ⟨labels, length, starts, scanned⟩ := first.labels
  obtain ⟨labels', length', -, scanned'⟩ := second.labels
  constructor
  · exact append_ne_nil_of_left_ne_nil first.nonempty back
  refine ⟨labels ++ labels', ?_, ?_, ?_⟩
  · rw [length_append, length_append, length, length']
  · rw [head?_append, starts]
    rfl
  intro more ends
  rw [getLast?_append_of_ne_nil _ second.nonempty] at ends
  rw [append_assoc, scanned, scanned' more ends, append_assoc]
  intro quoteLast
  rw [head?_append_of_ne_nil _ second.nonempty]
  exact apart quoteLast

def isInert (ch : Char) : Bool := ch != '\'' && ch != '"' && ch != '`' && ch != '-' && ch != '/'

private theorem advance_inert (inert : isInert ch = true) (next : Option Char) :
    advance .sql ch next = (false, .sql) := by
  simp only [isInert, Bool.and_eq_true, bne_iff_ne] at inert
  obtain ⟨⟨⟨⟨single, double⟩, backtick⟩, hyphen⟩, slash⟩ := inert
  simp [advance, single, double, backtick, hyphen, slash]

theorem states_inert (inert : ∀ ch ∈ text, isInert ch = true) (more : List Char) :
    states .sql (text ++ more) = replicate text.length .sql ++ states .sql more := by
  induction text with
  | nil => rfl
  | cons ch text ih =>
    obtain ⟨here, others⟩ := forall_mem_cons.mp inert
    have step := advance_inert here (text ++ more).head?
    rw [cons_append, states_one (by rw [step]), step, ih others]
    rfl

private theorem passes_inert (nonempty : text ≠ []) (inert : ∀ ch ∈ text, isInert ch = true) :
    Passes text := by
  constructor
  · exact nonempty
  refine ⟨replicate text.length .sql, length_replicate, ?_, ?_⟩
  · obtain ⟨ch, text, rfl⟩ := exists_cons_of_ne_nil nonempty
    rfl
  · intro more _
    exact states_inert inert more

private theorem passes_negative (nonempty : text ≠ []) (inert : ∀ ch ∈ text, isInert ch = true) :
    Passes ('-' :: text) := by
  have positive := passes_inert nonempty inert
  obtain ⟨labels, length, -, scanned⟩ := positive.labels
  constructor
  · simp
  refine ⟨.sql :: labels, by simp [length], rfl, ?_⟩
  intro more ends
  obtain ⟨first, rest, rfl⟩ := exists_cons_of_ne_nil nonempty
  have notHyphen : first ≠ '-' := by
    rintro rfl
    exact absurd (inert '-' mem_cons_self) (by decide)
  have step : advance .sql '-' (some first) = (false, .sql) := by
    simp [advance, notHyphen]
  rw [cons_append, states_one (by rw [cons_append, head?_cons, step]),
    cons_append, head?_cons, step, ← cons_append, scanned more, cons_append]
  intro quoteLast
  exact ends (by rw [getLast?_cons_cons]; exact quoteLast)

/-- Text that can stand between single quotes: every quote and backslash is escaped. -/
inductive Escaped : List Char → Prop
  | nil : Escaped []
  | plain {ch : Char} {text : List Char} (other : ch ≠ '\'' ∧ ch ≠ '\\') (rest : Escaped text) :
      Escaped (ch :: text)
  | pair {ch : Char} {text : List Char} (rest : Escaped text) : Escaped ('\\' :: ch :: text)

private theorem escaped_of_plain (plain : ∀ ch ∈ text, ch ≠ '\'' ∧ ch ≠ '\\') : Escaped text := by
  induction text with
  | nil => exact .nil
  | cons ch text ih =>
    obtain ⟨here, others⟩ := forall_mem_cons.mp plain
    exact .plain here (ih others)

private theorem Escaped.append (first : Escaped front) (second : Escaped back) :
    Escaped (front ++ back) := by
  induction first with
  | nil => exact second
  | plain other _ ih => exact .plain other ih
  | pair _ ih => exact .pair ih

private theorem states_escaped (escaped : Escaped inside) (more : List Char) :
    states .singleQuote (inside ++ more) =
      replicate inside.length .singleQuote ++ states .singleQuote more := by
  induction escaped with
  | nil => rfl
  | @plain ch text other _ ih =>
    have step : advance .singleQuote ch (text ++ more).head? = (false, .singleQuote) := by
      simp [advance, closer, other]
    rw [cons_append, states_one (by rw [step]), step, ih]
    rfl
  | @pair ch text _ ih =>
    have step : advance .singleQuote '\\' (some ch) = (true, .singleQuote) := rfl
    rw [cons_append, cons_append, states_two (by rw [step]), step, ih]
    rfl

theorem states_open (escaped : Escaped inside) (more : List Char) :
    states .sql ('\'' :: (inside ++ '\'' :: more)) =
      .sql :: (replicate inside.length .singleQuote ++ states .singleQuote ('\'' :: more)) := by
  have opening : ∀ next, advance .sql '\'' next = (false, .singleQuote) := fun _ => rfl
  rw [states_one (by rw [opening]), opening, states_escaped escaped]

private theorem quoted_last (inside : List Char) :
    ('\'' :: (inside ++ ['\''])).getLast? = some '\'' := by
  rw [← cons_append, getLast?_concat]

private theorem passes_quoted (escaped : Escaped inside) : Passes ('\'' :: (inside ++ ['\''])) := by
  constructor
  · simp
  refine ⟨.sql :: (replicate inside.length .singleQuote ++ [.singleQuote]), ?_, rfl, ?_⟩
  · simp
  intro more ends
  have noQuote : more.head? ≠ some '\'' := ends (quoted_last inside)
  have closing : advance .singleQuote '\'' more.head? = (false, .sql) := by
    simp [advance, closer, noQuote]
  rw [cons_append, append_assoc, singleton_append, states_open escaped,
    states_one (by rw [closing]), closing]
  simp

/-- What the formatters of the outside types write. -/
structure Formats.Documented (formats : Formats) : Prop where
  float : ∀ bits, isNan bits = false → isInfinite bits = false →
    ∃ digits : List Char, digits ≠ [] ∧ (∀ ch ∈ digits, ch.isDigit = true ∨ ch = '.') ∧
      (formats.float bits = digits ∨ formats.float bits = '-' :: digits)
  date : ∀ date, ∀ ch ∈ formats.date date, ch ≠ '\'' ∧ ch ≠ '\\'
  time : ∀ time, ∀ ch ∈ formats.time time, ch ≠ '\'' ∧ ch ≠ '\\'
  dateTime : ∀ stamp, ∀ ch ∈ (formats.dateTime stamp).text, ch ≠ '\'' ∧ ch ≠ '\\'
  timestampTz : ∀ stamp, ∀ ch ∈ (formats.timestampTz stamp).text, ch ≠ '\'' ∧ ch ≠ '\\'
  decimal : ∀ decimal, ∀ ch ∈ formats.decimal decimal, ch ≠ '\'' ∧ ch ≠ '\\'
  uuid : ∀ uuid, ∀ ch ∈ formats.uuid uuid, ch ≠ '\'' ∧ ch ≠ '\\'

/-- What the scanner can say about any literal. -/
structure IsLiteral (text : List Char) : Prop where
  passes : Passes text
  /-- It starts with no character that ends or starts something with the one before it, other
  than a quote or a hyphen. -/
  starts : text.head? ≠ some '*' ∧ text.head? ≠ some '"' ∧ text.head? ≠ some '`'
  ends : text.getLast? ≠ some '-'
  quoted : text.getLast? = some '\'' → ∃ inside, Escaped inside ∧ text = '\'' :: (inside ++ ['\''])
  oneLine : text.head? = some '-' → '\n' ∉ text

def isNumeric (ch : Char) : Bool := ch.isAlphanum || ch == '.'

theorem numeric_inert (numeric : isNumeric ch = true) :
    isInert ch = true ∧ ch ≠ '*' ∧ ch ≠ '\n' := by
  have differs {d : Char} (other : isNumeric d = false) : ch ≠ d := by
    rintro rfl
    rw [numeric] at other
    cases other
  refine ⟨?_, differs rfl, differs rfl⟩
  simp [isInert, differs (d := '\'') rfl, differs (d := '"') rfl, differs (d := '`') rfl,
    differs (d := '-') rfl, differs (d := '/') rfl]

private theorem isLiteral_number {text : List Char} (nonempty : text ≠ [])
    (numeric : ∀ ch ∈ text, isNumeric ch = true) : IsLiteral text := by
  have inert : ∀ ch ∈ text, isInert ch = true := fun ch member =>
    (numeric_inert (numeric ch member)).1
  have notFirst {d : Char} (other : isNumeric d = false) : text.head? ≠ some d := by
    intro starts
    rw [numeric d (mem_of_mem_head? starts)] at other
    cases other
  have notLast {d : Char} (other : isNumeric d = false) : text.getLast? ≠ some d := by
    intro ends
    rw [numeric d (mem_of_mem_getLast? ends)] at other
    cases other
  constructor
  · exact passes_inert nonempty inert
  · exact ⟨notFirst rfl, notFirst rfl, notFirst rfl⟩
  · exact notLast rfl
  · exact fun ends => absurd ends (notLast rfl)
  · exact fun starts => absurd starts (notFirst rfl)

private theorem isLiteral_negative {text : List Char} (nonempty : text ≠ [])
    (numeric : ∀ ch ∈ text, isNumeric ch = true) : IsLiteral ('-' :: text) := by
  have positive := isLiteral_number nonempty numeric
  obtain ⟨first, rest, rfl⟩ := exists_cons_of_ne_nil nonempty
  have last : ('-' :: first :: rest).getLast? = (first :: rest).getLast? := getLast?_cons_cons
  have notNewline : '\n' ∉ '-' :: first :: rest := by
    intro member
    rcases mem_cons.mp member with same | inRest
    · exact absurd same (by decide)
    · exact absurd rfl (numeric_inert (numeric '\n' inRest)).2.2
  constructor
  · exact passes_negative nonempty fun ch member => (numeric_inert (numeric ch member)).1
  · exact ⟨by simp, by simp, by simp⟩
  · rw [last]
    exact positive.ends
  · rw [last]
    intro ends
    have numericQuote := numeric '\'' (mem_of_mem_getLast? ends)
    exact absurd numericQuote (by decide)
  · exact fun _ => notNewline

private theorem isLiteral_quoted (escaped : Escaped inside) :
    IsLiteral ('\'' :: (inside ++ ['\''])) := by
  constructor
  · exact passes_quoted escaped
  · exact ⟨by simp, by simp, by simp⟩
  · rw [quoted_last]
    decide
  · exact fun _ => ⟨inside, escaped, rfl⟩
  · intro starts
    cases starts

private theorem isLiteral_call {name arguments : List Char} (nonempty : name ≠ [])
    (numeric : ∀ ch ∈ name, isNumeric ch = true)
    (passes : Passes arguments) :
    IsLiteral (name ++ '(' :: (arguments ++ [')'])) := by
  have opens : Passes (name ++ ['(']) := by
    apply passes_inert (by simp)
    intro ch member
    rcases mem_append.mp member with inName | isParen
    · exact (numeric_inert (numeric ch inName)).1
    · rw [mem_singleton.mp isParen]
      rfl
  have closes : Passes [')'] := passes_inert (by simp) (by simp [isInert])
  have whole : name ++ '(' :: (arguments ++ [')']) = name ++ ['('] ++ arguments ++ [')'] := by simp
  have last : (name ++ '(' :: (arguments ++ [')'])).getLast? = some ')' := by
    rw [whole, getLast?_concat]
  have notFirst {d : Char} (other : isNumeric d = false) :
      (name ++ '(' :: (arguments ++ [')'])).head? ≠ some d := by
    rw [head?_append_of_ne_nil _ nonempty]
    intro starts
    rw [numeric d (mem_of_mem_head? starts)] at other
    cases other
  constructor
  · rw [whole]
    refine (opens.append passes ?_).append closes ?_
    · rw [getLast?_concat]
      intro same
      cases same
    · intro _ same
      cases same
  · exact ⟨notFirst rfl, notFirst rfl, notFirst rfl⟩
  · rw [last]
    decide
  · rw [last]
    intro same
    cases same
  · exact fun starts => absurd starts (notFirst rfl)

theorem numeric_of_digit (digit : ch.isDigit = true) : isNumeric ch = true := by
  simp [isNumeric, Char.isAlphanum, digit]

variable (number : Nat)

private theorem natText_numeric : ∀ ch ∈ natText number, isNumeric ch = true := by
  intro ch member
  have digit := Nat.isDigit_of_mem_toDigits (by decide) (by decide) member
  simp [isNumeric, Char.isAlphanum, digit]

private theorem natText_ne_nil : natText number ≠ [] := Nat.toDigits_ne_nil

private theorem intText_isLiteral (number : Int) : IsLiteral (intText number) := by
  rw [intText]
  split
  · exact isLiteral_negative (natText_ne_nil _) (natText_numeric _)
  · exact isLiteral_number (natText_ne_nil _) (natText_numeric _)

private theorem float_isLiteral {formats : Formats} (documented : formats.Documented)
    {bits : UInt64} (number : isNan bits = false) (finite : isInfinite bits = false) :
    IsLiteral (formats.float bits) := by
  obtain ⟨digits, nonempty, digit, positive | negative⟩ := documented.float bits number finite
  all_goals
    have numeric : ∀ ch ∈ digits, isNumeric ch = true := by
      intro ch member
      rcases digit ch member with isDigit | rfl
      · exact numeric_of_digit isDigit
      · rfl
  · rw [positive]
    exact isLiteral_number nonempty numeric
  · rw [negative]
    exact isLiteral_negative nonempty numeric

private theorem escapeStr_escaped (text : List Char) : Escaped (escapeStr text) := by
  induction text with
  | nil => exact .nil
  | cons ch text ih =>
    have cons : escapeStr (ch :: text) =
        (if ch = '\\' then ['\\', '\\'] else if ch = '\'' then ['\\', '\''] else [ch]) ++
          escapeStr text := by
      rw [escapeStr, replaceChar_cons]
      by_cases backslash : ch = '\\'
      · rw [if_pos backslash, if_pos backslash]
        rfl
      · rw [if_neg backslash, if_neg backslash]
        simp [replaceChar, escapeStr]
    rw [cons]
    refine Escaped.append ?_ ih
    split
    · exact .pair .nil
    · split
      · exact .pair .nil
      · exact .plain ⟨by assumption, by assumption⟩ .nil

private theorem passes_number : Passes (natText number) :=
  passes_inert (natText_ne_nil number) fun ch member =>
    (numeric_inert (natText_numeric number ch member)).1

private theorem passes_separator (nonempty : text ≠ []) (inert : text.all isInert = true) :
    Passes text :=
  passes_inert nonempty (all_eq_true.mp inert)

private theorem all_numeric (numeric : text.all isNumeric = true) :
    ∀ ch ∈ text, isNumeric ch = true := all_eq_true.mp numeric

private theorem isLiteral_callQuoted {name inside : List Char} (nonempty : name ≠ [])
    (numeric : name.all isNumeric = true) (escaped : Escaped inside) :
    IsLiteral (name ++ ['(', '\''] ++ inside ++ ['\'', ')']) := by
  have call := isLiteral_call nonempty (all_numeric numeric) (passes_quoted escaped)
  simpa using call

private theorem passes_scaled (escaped : Escaped inside) (number : Nat) :
    Passes ('\'' :: (inside ++ ['\'']) ++ ([',', ' '] ++ natText number)) := by
  have comma : Passes [',', ' '] := passes_separator (by simp) rfl
  refine (passes_quoted escaped).append (comma.append (passes_number number) ?_) ?_
  · intro same
    cases same
  · intro _ same
    cases same

private theorem isLiteral_scaled {name inside : List Char} (nonempty : name ≠ [])
    (numeric : name.all isNumeric = true) (escaped : Escaped inside) (number : Nat) :
    IsLiteral (name ++ ['(', '\''] ++ inside ++ ['\'', ',', ' '] ++ natText number ++ [')']) := by
  have call := isLiteral_call nonempty (all_numeric numeric) (passes_scaled escaped number)
  simpa using call

private theorem isLiteral_zoned {name inside zone : List Char} (nonempty : name ≠ [])
    (numeric : name.all isNumeric = true) (escaped : Escaped inside) (number : Nat)
    (escapedZone : Escaped zone) :
    IsLiteral (name ++ ['(', '\''] ++ inside ++ ['\'', ',', ' '] ++ natText number ++
      [',', ' ', '\''] ++ zone ++ ['\'', ')']) := by
  have comma : Passes [',', ' '] := passes_separator (by simp) rfl
  have zoned : Passes (('\'' :: (inside ++ ['\'']) ++ ([',', ' '] ++ natText number)) ++
      ([',', ' '] ++ '\'' :: (zone ++ ['\'']))) := by
    refine (passes_scaled escaped number).append (comma.append (passes_quoted escapedZone) ?_) ?_
    · intro same
      cases same
    · intro _ same
      cases same
  have call := isLiteral_call nonempty (all_numeric numeric) zoned
  simpa using call

private theorem datetime64_isLiteral {stamp : Stamp} {timezone : Option (List Char)}
    (plain : ∀ ch ∈ stamp.text, ch ≠ '\'' ∧ ch ≠ '\\')
    (plainZone : ∀ zone, timezone = some zone → Escaped zone)
    (rendered : datetime64Literal stamp timezone = some text) : IsLiteral text := by
  rw [datetime64Literal, Option.map_eq_some_iff] at rendered
  obtain ⟨precision, -, isText⟩ := rendered
  subst isText
  generalize value : (if precision = 0 then stamp.text
    else stamp.text ++ '.' :: paddedText precision (stamp.nanosecond / 10 ^ (9 - precision))) =
      inside
  have escaped : Escaped inside := by
    rw [← value]
    split
    · exact escaped_of_plain plain
    refine Escaped.append (escaped_of_plain plain) (.plain (by decide) (escaped_of_plain ?_))
    intro ch member
    have numeric : isNumeric ch = true := by
      rcases mem_append.mp member with zero | digit
      · rw [eq_of_mem_replicate zero]
        rfl
      · exact natText_numeric _ ch digit
    constructor <;> rintro rfl <;> exact absurd numeric (by decide)
  cases timezone with
  | none => exact @isLiteral_scaled "toDateTime64".toList _ (by decide) rfl escaped precision
  | some zone =>
    exact @isLiteral_zoned "toDateTime64".toList _ _ (by decide) rfl escaped precision
      (plainZone zone rfl)

theorem literal_isLiteral {formats : Formats} (documented : formats.Documented) {value : Value}
    (rendered : literal formats value = .ok text) : IsLiteral text := by
  cases value with
  | null =>
    cases rendered
    exact isLiteral_number (by decide) (all_numeric rfl)
  | bool b =>
    cases rendered
    cases b with
    | true | false => exact isLiteral_number (by decide) (all_numeric rfl)
  | int i =>
    cases rendered
    exact intText_isLiteral i
  | float bits =>
    cases rendered
    cases number : isNan bits with
    | true => exact @isLiteral_number "nan".toList (by decide) (all_numeric rfl)
    | false =>
    cases finite : isInfinite bits with
    | false => exact float_isLiteral documented number finite
    | true =>
      cases isSignNegative bits with
      | true => exact @isLiteral_negative "inf".toList (by decide) (all_numeric rfl)
      | false => exact @isLiteral_number "inf".toList (by decide) (all_numeric rfl)
  | text text =>
    cases rendered
    exact isLiteral_quoted (escapeStr_escaped _)
  | bytes bytes =>
    cases rendered
    exact @isLiteral_callQuoted "unhex".toList _ (by decide) rfl
      (escaped_of_plain (hexText_plain bytes))
  | date date =>
    cases rendered
    exact @isLiteral_callQuoted "toDate".toList _ (by decide) rfl
      (escaped_of_plain (documented.date date))
  | time time =>
    cases rendered
    exact isLiteral_quoted (escaped_of_plain (documented.time time))
  | dateTime stamp =>
    rw [literal] at rendered
    split at rendered
    · rename_i stampText
      cases rendered
      exact datetime64_isLiteral (documented.dateTime stamp) (by simp) stampText
    · cases rendered
  | timestampTz stamp =>
    rw [literal] at rendered
    split at rendered
    case h_2 => cases rendered
    rename_i stampText
    cases rendered
    refine datetime64_isLiteral (documented.timestampTz stamp) ?_ stampText
    intro zone same
    cases same
    exact .plain (by decide) (.plain (by decide) (.plain (by decide) .nil))
  | decimal decimal =>
    cases rendered
    exact @isLiteral_scaled "toDecimal128".toList _ (by decide) rfl
      (escaped_of_plain (documented.decimal decimal)) _
  | uuid uuid =>
    cases rendered
    exact @isLiteral_callQuoted "toUUID".toList _ (by decide) rfl
      (escaped_of_plain (documented.uuid uuid))
  | json | jsonText | undecodable => cases rendered

end Bookie.ClickHouse
