/-
Readers of a byte prefix, with the JSON pieces a compact serialiser needs. Every
reader carries the proof that a success is not changed by more input. Printing
followed by reading is stated once for each piece.
-/

import Mathlib.Data.Nat.Digits.Defs
import Bookie.Text.Lines

namespace Bookie.Text

open List

structure Reader (α : Type) where
  run : Bytes → Option (α × Bytes)
  stable : ∀ {input value rest}, run input = some (value, rest) →
    ∀ more, run (input ++ more) = some (value, rest ++ more)

namespace Reader

variable {α β : Type}

protected def pure (value : α) : Reader α :=
  { run := fun input => some (value, input)
    stable := by rintro input _ _ ⟨⟩ more; rfl }

protected def bind (reader : Reader α) (next : α → Reader β) : Reader β :=
  { run := fun input => (reader.run input).bind fun result => (next result.1).run result.2
    stable := by
      intro input value rest success more
      obtain ⟨⟨first, middle⟩, read, continued⟩ := Option.bind_eq_some_iff.mp success
      rw [reader.stable read more]
      exact (next first).stable continued more }

instance : Monad Reader where
  pure := Reader.pure
  bind := Reader.bind

@[simp] theorem run_pure (value : α) (input : Bytes) :
    (pure value : Reader α).run input = some (value, input) := rfl

@[simp] theorem run_bind (reader : Reader α) (next : α → Reader β) (input : Bytes) :
    (reader >>= next).run input =
      (reader.run input).bind fun result => (next result.1).run result.2 := rfl

def refine (reader : Reader α) (decode : α → Option β) : Reader β :=
  { run := fun input => (reader.run input).bind fun result =>
      (decode result.1).map fun value => (value, result.2)
    stable := by
      intro input value rest success more
      obtain ⟨⟨first, middle⟩, read, decoded⟩ := Option.bind_eq_some_iff.mp success
      obtain ⟨found, decodes, same⟩ := Option.map_eq_some_iff.mp decoded
      cases same
      rw [reader.stable read more]
      simp [decodes] }

variable {reader : Reader α} {input rest : Bytes} {value : α}

theorem run_refine {decode : α → Option β} {decoded : β}
    (read : reader.run input = some (value, rest)) (decodes : decode value = some decoded) :
    (reader.refine decode).run input = some (decoded, rest) := by
  simp [refine, read, decodes]

/-- Choose a reader by the first byte, which is left in place. -/
def peek (choose : UInt8 → Reader α) : Reader α :=
  { run := fun input => input.head?.bind fun byte => (choose byte).run input
    stable := by
      intro input value rest success more
      cases input with
      | nil => cases success
      | cons byte input => exact (choose byte).stable success more }

@[simp] theorem run_peek_cons (choose : UInt8 → Reader α) (byte : UInt8) (input : Bytes) :
    (peek choose).run (byte :: input) = (choose byte).run (byte :: input) := rfl

private def dropLiteral : Bytes → Bytes → Option Bytes
  | [], input => some input
  | _ :: _, [] => none
  | expected :: literal, byte :: input =>
    if byte = expected then dropLiteral literal input else none

private theorem dropLiteral_stable {literal : Bytes}
    (success : dropLiteral literal input = some rest) (more : Bytes) :
    dropLiteral literal (input ++ more) = some (rest ++ more) := by
  induction literal generalizing input with
  | nil => cases success; rfl
  | cons expected literal ih =>
    cases input with
    | nil => cases success
    | cons byte input =>
    simp only [dropLiteral, cons_append] at success ⊢
    split at success
    · rw [if_pos ‹_›]
      exact ih success
    · cases success

private theorem dropLiteral_append (literal rest : Bytes) :
    dropLiteral literal (literal ++ rest) = some rest := by
  induction literal with
  | nil => rfl
  | cons expected literal ih => simpa [dropLiteral] using ih

def literal (expected : Bytes) : Reader Unit :=
  { run := fun input => (dropLiteral expected input).map fun rest => ((), rest)
    stable := by
      intro input value rest success more
      obtain ⟨found, dropped, same⟩ := Option.map_eq_some_iff.mp success
      cases same
      simp [dropLiteral_stable dropped] }

@[simp] theorem run_literal (expected rest : Bytes) :
    (literal expected).run (expected ++ rest) = some ((), rest) := by
  simp [literal, dropLiteral_append]

def complete (reader : Reader α) (input : Bytes) : Option α :=
  match reader.run input with
  | some (value, []) => some value
  | _ => none

theorem complete_eq_some (read : reader.run input = some (value, [])) :
    reader.complete input = some value := by
  simp [complete, read]

theorem complete_take (read : reader.run input = some (value, [])) {cut : Nat}
    (short : cut < input.length) :
    reader.complete (input.take cut) = none := by
  cases cutRead : reader.run (input.take cut) with
  | none => simp [complete, cutRead]
  | some result =>
  obtain ⟨found, rest⟩ := result
  cases rest with
  | cons byte rest => simp [complete, cutRead]
  | nil =>
  have whole := reader.stable cutRead (input.drop cut)
  rw [take_append_drop, read] at whole
  have emptied : input.drop cut = [] := by
    simpa using (congrArg Prod.snd (Option.some.inj whole)).symm
  rw [drop_eq_nil_iff] at emptied
  omega

/-- The bytes a reader takes, instead of their value. -/
def span (reader : Reader α) : Reader Bytes :=
  { run := fun input => (reader.run input).map fun result =>
      (input.take (input.length - result.2.length), result.2)
    stable := by
      intro input value rest success more
      obtain ⟨⟨first, after⟩, read, same⟩ := Option.map_eq_some_iff.mp success
      cases same
      rw [reader.stable read more]
      simp only [Option.map_some, List.length_append, Nat.add_sub_add_right, Option.some.injEq,
        Prod.mk.injEq, and_true]
      exact List.take_append_of_le_length (Nat.sub_le _ _) }

theorem run_span {taken : Bytes} (read : reader.run (taken ++ rest) = some (value, rest)) :
    reader.span.run (taken ++ rest) = some (taken, rest) := by
  simp [span, read]

end Reader

def decimalBytes (number : Nat) : Bytes :=
  if number = 0 then [48]
  else (Nat.digits 10 number).reverse.map fun digit => UInt8.ofNat (48 + digit)

def isDigit (byte : UInt8) : Bool := 48 ≤ byte && byte ≤ 57

def readDigits : Bytes → Nat → Option (Nat × Bytes)
  | [], _ => none
  | byte :: input, number =>
    if isDigit byte then readDigits input (number * 10 + (byte.toNat - 48))
    else some (number, byte :: input)

private theorem readDigits_stable {input : Bytes} {start value : Nat} {rest : Bytes}
    (success : readDigits input start = some (value, rest)) (more : Bytes) :
    readDigits (input ++ more) start = some (value, rest ++ more) := by
  induction input generalizing start with
  | nil => cases success
  | cons byte input ih =>
    simp only [readDigits, cons_append] at success ⊢
    split at success
    · rw [if_pos ‹_›]
      exact ih success
    · rw [if_neg ‹_›]
      cases success
      rfl

private theorem digit_bytes : ∀ digit < 10,
    isDigit (UInt8.ofNat (48 + digit)) = true ∧ (UInt8.ofNat (48 + digit)).toNat - 48 = digit := by
  decide

private theorem readDigits_map {digits : List Nat} (small : ∀ digit ∈ digits, digit < 10)
    {stop : UInt8} (stops : isDigit stop = false) (rest : Bytes) (start : Nat) :
    readDigits (digits.map (fun digit => UInt8.ofNat (48 + digit)) ++ stop :: rest) start =
      some (digits.foldl (fun number digit => number * 10 + digit) start, stop :: rest) := by
  induction digits generalizing start with
  | nil => simp [readDigits, stops]
  | cons digit digits ih =>
    obtain ⟨isDigit, value⟩ := digit_bytes digit (small digit mem_cons_self)
    simp only [map_cons, cons_append, readDigits, isDigit, value]
    exact ih (fun later member => small later (mem_cons_of_mem _ member)) _

variable (number : Nat)

theorem readDigits_decimalBytes {stop : UInt8} (stops : isDigit stop = false) (rest : Bytes) :
    readDigits (decimalBytes number ++ stop :: rest) 0 = some (number, stop :: rest) := by
  unfold decimalBytes
  split
  case isTrue zero =>
    subst zero
    exact @readDigits_map [0] (by simp) stop stops rest 0
  case isFalse =>
    have small : ∀ digit ∈ (Nat.digits 10 number).reverse, digit < 10 :=
      fun digit member => Nat.digits_lt_base (by decide) (mem_reverse.mp member)
    rw [readDigits_map small stops]
    have folded : (Nat.digits 10 number).reverse.foldl
        (fun number digit => number * 10 + digit) 0 = number := by
      conv_rhs => rw [← Nat.ofDigits_digits 10 number, Nat.ofDigits_eq_foldr]
      simp [Nat.mul_comm, Nat.add_comm]
    rw [folded]

/-- A number is complete only once a byte that is no digit has been seen. -/
def Reader.natural : Reader Nat :=
  { run := fun input => readDigits input 0
    stable := fun success more => readDigits_stable success more }

theorem decimalBytes_cons :
    ∃ first rest, decimalBytes number = first :: rest ∧ isDigit first = true := by
  unfold decimalBytes
  split
  case isTrue => exact ⟨48, [], rfl, rfl⟩
  case isFalse nonzero =>
    cases digits : (Nat.digits 10 number).reverse with
    | nil =>
      have empty : Nat.digits 10 number = [] := by simpa using digits
      exact absurd (Nat.digits_eq_nil_iff_eq_zero.mp empty) nonzero
    | cons digit rest =>
      have member : digit ∈ (Nat.digits 10 number).reverse := by rw [digits]; simp
      have small := Nat.digits_lt_base (by decide) (mem_reverse.mp member)
      exact ⟨_, _, rfl, (digit_bytes digit small).1⟩

def lowHexDigit (byte : UInt8) : UInt8 :=
  if byte % 16 < 10 then 48 + byte % 16 else 87 + byte % 16

/-- The escapes of a compact JSON serialiser: the two characters that would end the
string early and the control characters. -/
def escapeByte (byte : UInt8) : Bytes :=
  if byte = 34 then [92, 34]
  else if byte = 92 then [92, 92]
  else if byte = 8 then [92, 98]
  else if byte = 9 then [92, 116]
  else if byte = 10 then [92, 110]
  else if byte = 12 then [92, 102]
  else if byte = 13 then [92, 114]
  else if byte < 32 then
    [92, 117, 48, 48, 48 + byte / 16, lowHexDigit byte]
  else [byte]

def quote (content : Bytes) : Bytes := 34 :: (content.flatMap escapeByte ++ [34])

def unhex (digit : UInt8) : UInt8 := if digit ≤ 57 then digit - 48 else digit - 87

def shortEscape (letter : UInt8) : UInt8 :=
  if letter = 98 then 8
  else if letter = 116 then 9
  else if letter = 110 then 10
  else if letter = 102 then 12
  else if letter = 114 then 13
  else letter

def unquote : Bytes → Option (Bytes × Bytes)
  | [] => none
  | 34 :: rest => some ([], rest)
  | 92 :: 117 :: 48 :: 48 :: high :: low :: rest =>
    (unquote rest).map fun result => ((unhex high * 16 + unhex low) :: result.1, result.2)
  | 92 :: letter :: rest =>
    if letter = 117 then none
    else (unquote rest).map fun result => (shortEscape letter :: result.1, result.2)
  | byte :: rest =>
    if byte = 92 then none
    else (unquote rest).map fun result => (byte :: result.1, result.2)

private theorem unhex_control : ∀ number < 32,
    unhex (48 + UInt8.ofNat number / 16) * 16 + unhex (lowHexDigit (UInt8.ofNat number)) =
      UInt8.ofNat number := by
  decide

private theorem unquote_plain {byte : UInt8} (noQuote : byte ≠ 34) (noEscape : byte ≠ 92)
    (rest : Bytes) :
    unquote (byte :: rest) = (unquote rest).map fun result => (byte :: result.1, result.2) := by
  rw [unquote.eq_def]
  split <;> simp_all

private theorem unquote_short {letter : UInt8} (noUnicode : letter ≠ 117) (rest : Bytes) :
    unquote (92 :: letter :: rest) =
      (unquote rest).map fun result => (shortEscape letter :: result.1, result.2) := by
  rw [unquote.eq_def]
  split <;> grind

private theorem unquote_escapeByte (byte : UInt8) (rest : Bytes) :
    unquote (escapeByte byte ++ rest) =
      (unquote rest).map fun result => (byte :: result.1, result.2) := by
  unfold escapeByte
  split_ifs with quote escape backspace tab line feed carriage control
  · subst quote; exact unquote_short (by decide) rest
  · subst escape; exact unquote_short (by decide) rest
  · subst backspace; exact unquote_short (by decide) rest
  · subst tab; exact unquote_short (by decide) rest
  · subst line; exact unquote_short (by decide) rest
  · subst feed; exact unquote_short (by decide) rest
  · subst carriage; exact unquote_short (by decide) rest
  · have value := unhex_control byte.toNat (by simpa [UInt8.lt_iff_toNat_lt] using control)
    rw [UInt8.ofNat_toNat] at value
    simp only [cons_append, nil_append, unquote, value]
  · exact unquote_plain quote escape rest

private theorem unquote_flatMap (content rest : Bytes) :
    unquote (content.flatMap escapeByte ++ 34 :: rest) = some (content, rest) := by
  induction content with
  | nil => rfl
  | cons byte content ih =>
    rw [flatMap_cons, append_assoc, unquote_escapeByte, ih]
    rfl

private theorem unquote_stable {input value rest : Bytes}
    (success : unquote input = some (value, rest)) (more : Bytes) :
    unquote (input ++ more) = some (value, rest ++ more) := by
  -- Every recursive case adds one byte to what the rest of the input reads as.
  have grow : ∀ {tail : Bytes} {byte : UInt8} {value : Bytes},
      (∀ {value : Bytes}, unquote tail = some (value, rest) →
        unquote (tail ++ more) = some (value, rest ++ more)) →
      ((unquote tail).map fun result => (byte :: result.1, result.2)) = some (value, rest) →
      ((unquote (tail ++ more)).map fun result => (byte :: result.1, result.2)) =
        some (value, rest ++ more) := by
    intro tail byte value ih success
    obtain ⟨⟨content, after⟩, read, same⟩ := Option.map_eq_some_iff.mp success
    cases same
    rw [ih read]
    rfl
  fun_induction unquote input generalizing value with
  | case1 => cases success
  | case2 => cases success; rfl
  | case3 high low tail ih => exact grow ih success
  | case4 => cases success
  | case5 letter tail _ noUnicode ih =>
    rw [cons_append, cons_append, unquote_short noUnicode]
    exact grow ih success
  | case6 => cases success
  | case7 byte tail noQuote _ _ noEscape ih =>
    rw [cons_append, unquote_plain noQuote noEscape]
    exact grow ih success

def Reader.quoted : Reader Bytes := Reader.bind (Reader.literal [34]) fun _ =>
    { run := unquote
      stable := fun success more => unquote_stable success more }

theorem Reader.run_quoted (content rest : Bytes) :
    quoted.run (quote content ++ rest) = some (content, rest) := by
  have opened := run_literal [34] (content.flatMap escapeByte ++ 34 :: rest)
  simp only [quote, cons_append, append_assoc]
    at opened ⊢
  exact unquote_flatMap content rest

private theorem control_plain : ∀ number < 32, newline ∉
    [92, 117, 48, 48, 48 + UInt8.ofNat number / 16, lowHexDigit (UInt8.ofNat number)] := by
  decide

private theorem newline_not_mem_escapeByte (byte : UInt8) : newline ∉ escapeByte byte := by
  unfold escapeByte
  split_ifs with quote escape backspace tab line feed carriage control
  · decide
  · decide
  · decide
  · decide
  · decide
  · decide
  · decide
  · have plain := control_plain byte.toNat (by simpa [UInt8.lt_iff_toNat_lt] using control)
    rwa [UInt8.ofNat_toNat] at plain
  · simpa [newline, eq_comm] using line

theorem newline_not_mem_quote (content : Bytes) : newline ∉ quote content := by
  simp only [quote, mem_cons, mem_append, mem_flatMap, not_or, not_exists, not_and]
  exact ⟨by decide, fun byte _ => newline_not_mem_escapeByte byte, by decide⟩

end Bookie.Text
