/-
Line-oriented reading of a byte file. The reader says of each line whether its
terminator was found, so a file that ends inside a line keeps that line apart.
-/

import Mathlib.Data.List.Basic

namespace Bookie.Text

abbrev Bytes := List UInt8

def newline : UInt8 := 10

/-- One result of reading up to a terminator: the bytes before it, and whether
it was there. -/
structure Line where
  content : Bytes
  terminated : Bool
  deriving DecidableEq, Repr

def Line.bytes (line : Line) : Bytes :=
  if line.terminated then line.content ++ [newline] else line.content

def readLines : Bytes → List Line
  | [] => []
  | byte :: rest =>
    if byte = newline then ⟨[], true⟩ :: readLines rest
    else
      match readLines rest with
      | [] => [⟨[byte], false⟩]
      | line :: lines => { line with content := byte :: line.content } :: lines

/-- The next byte written after `bytes` starts a new line. -/
def EndsLine (bytes : Bytes) : Prop := bytes = [] ∨ bytes.getLast? = some newline

instance (bytes : Bytes) : Decidable (EndsLine bytes) :=
  inferInstanceAs (Decidable (_ ∨ _))

@[simp] theorem readLines_nil : readLines [] = [] := rfl

private theorem readLines_eq_nil {bytes : Bytes} (none : readLines bytes = []) : bytes = [] := by
  cases bytes with
  | nil => rfl
  | cons byte rest =>
  simp only [readLines] at none
  split at none
  · cases none
  · split at none <;> cases none

private theorem readLines_cons_ne {byte : UInt8} {rest : Bytes} {line : Line} {lines : List Line}
    (plain : byte ≠ newline) (found : readLines rest = line :: lines) :
    readLines (byte :: rest) = { line with content := byte :: line.content } :: lines := by
  rw [readLines, if_neg plain, found]

private theorem readLines_cons_exists (byte : UInt8) (rest : Bytes) :
    ∃ line lines, readLines (byte :: rest) = line :: lines := by
  cases found : readLines (byte :: rest) with
  | nil => exact absurd (readLines_eq_nil found) (List.cons_ne_nil _ _)
  | cons line lines => exact ⟨line, lines, rfl⟩

theorem readLines_line (content rest : Bytes) (plain : newline ∉ content) :
    readLines (content ++ newline :: rest) = ⟨content, true⟩ :: readLines rest := by
  induction content with
  | nil => simp [readLines]
  | cons byte content ih =>
    rw [List.mem_cons, not_or] at plain
    exact readLines_cons_ne (Ne.symm plain.1) (ih plain.2)

theorem readLines_unterminated (content : Bytes) (plain : newline ∉ content)
    (nonempty : content ≠ []) : readLines content = [⟨content, false⟩] := by
  induction content with
  | nil => exact absurd rfl nonempty
  | cons byte content ih =>
    rw [List.mem_cons, not_or] at plain
    cases content with
    | nil => simp [readLines, Ne.symm plain.1]
    | cons next content =>
      exact readLines_cons_ne (Ne.symm plain.1) (ih plain.2 (List.cons_ne_nil _ _))

theorem endsLine_nil : EndsLine [] := .inl rfl

theorem endsLine_append_newline (bytes : Bytes) : EndsLine (bytes ++ [newline]) := .inr (by simp)

theorem EndsLine.append {left right : Bytes} (first : EndsLine left) (second : EndsLine right) :
    EndsLine (left ++ right) := by
  rcases second with empty | last
  · simpa [empty] using first
  · exact .inr (by simp [last])

private theorem endsLine_tail {byte next : UInt8} {rest : Bytes}
    (ends : EndsLine (byte :: next :: rest)) : EndsLine (next :: rest) := by
  rcases ends with empty | last
  · cases empty
  · exact .inr (by simpa [List.getLast?_cons_cons] using last)

/-- Reading is compositional at a line boundary: this is what lets a reader
resume from an offset. -/
theorem readLines_append (left right : Bytes) (ends : EndsLine left) :
    readLines (left ++ right) = readLines left ++ readLines right := by
  induction left with
  | nil => rfl
  | cons byte left ih =>
    by_cases atNewline : byte = newline
    · have tail : EndsLine left := by
        cases left with
        | nil => exact endsLine_nil
        | cons next left => exact endsLine_tail ends
      simp [readLines, atNewline, ih tail]
    cases left with
    | nil =>
      rcases ends with empty | last
      · cases empty
      · exact absurd (by simpa using last) atNewline
    | cons next left =>
    obtain ⟨line, lines, found⟩ := readLines_cons_exists next left
    have tail := ih (endsLine_tail ends)
    rw [found] at tail
    rw [readLines_cons_ne atNewline found]
    exact readLines_cons_ne atNewline tail

/-- Only the last line of a file can lack its terminator, and it does so exactly
when the file does not end at a line boundary. -/
theorem readLines_terminated {bytes : Bytes} (ends : EndsLine bytes) :
    ∀ line ∈ readLines bytes, line.terminated = true := by
  induction bytes with
  | nil => simp
  | cons byte rest ih =>
    cases rest with
    | nil =>
      rcases ends with empty | last
      · cases empty
      · have atNewline : byte = newline := by simpa using last
        simp [readLines, atNewline]
    | cons next rest =>
    have tail := ih (endsLine_tail ends)
    obtain ⟨first, lines, found⟩ := readLines_cons_exists next rest
    by_cases atNewline : byte = newline
    · simpa [readLines, atNewline] using tail
    rw [readLines_cons_ne atNewline found]
    rw [found] at tail
    intro line member
    rcases List.mem_cons.mp member with same | later
    · rw [same]
      exact tail first List.mem_cons_self
    · exact tail line (List.mem_cons_of_mem _ later)

theorem flatMap_bytes_readLines (bytes : Bytes) : (readLines bytes).flatMap Line.bytes = bytes := by
  induction bytes with
  | nil => rfl
  | cons byte rest ih =>
    rw [readLines]
    split
    case isTrue atNewline => simp [Line.bytes, ih, atNewline]
    case isFalse =>
      cases found : readLines rest with
      | nil => simp [Line.bytes, readLines_eq_nil found]
      | cons line lines =>
        rw [found] at ih
        rw [← ih]
        cases terminated : line.terminated <;> simp [Line.bytes, terminated]

/-! ### Computations that fail -/

theorem ok_of_bind {ε α β : Type} {first : Except ε α} {next : α → Except ε β} {result : β}
    (ran : first.bind next = .ok result) :
    ∃ value, first = .ok value ∧ next value = .ok result := by
  cases first with
  | error error => cases ran
  | ok value => exact ⟨value, rfl, ran⟩

theorem ok_of_map {ε α β : Type} {first : Except ε α} {change : α → β} {result : β}
    (ran : first.map change = .ok result) : ∃ value, first = .ok value ∧ change value = result := by
  cases first with
  | error error => cases ran
  | ok value => exact ⟨value, rfl, Except.ok.inj ran⟩

end Bookie.Text
