/-
Binding on ClickHouse. The interface has no parameters, so the driver writes each
value where its placeholder stands. The scanner knows quoted text and comments, in
which a question mark is no placeholder.
-/

import Bookie.ClickHouse.Literal

namespace Bookie.ClickHouse

open Bookie.Core Text

inductive ScanState where
  | sql
  | singleQuote
  | doubleQuote
  | backtick
  | lineComment
  | blockComment
  deriving DecidableEq, Repr

def closer : ScanState → Char
  | .singleQuote => '\''
  | .doubleQuote => '"'
  | _ => '`'

/-- One turn of the scanner over text that is copied: whether it takes the next character
too, and the state it leaves. -/
def advance (state : ScanState) (ch : Char) (next : Option Char) : Bool × ScanState :=
  match state with
  | .singleQuote | .doubleQuote | .backtick =>
    if ch = '\\' then (next.isSome, state)
    else if ch = closer state then
      if next = some (closer state) then (true, state) else (false, .sql)
    else (false, state)
  | .lineComment => if ch = '\n' then (false, .sql) else (false, .lineComment)
  | .blockComment =>
    if ch = '*' ∧ next = some '/' then (true, .sql) else (false, .blockComment)
  | .sql =>
    if ch = '\'' then (false, .singleQuote)
    else if ch = '"' then (false, .doubleQuote)
    else if ch = '`' then (false, .backtick)
    else if ch = '-' ∧ next = some '-' then (true, .lineComment)
    else if ch = '/' ∧ next = some '*' then (true, .blockComment)
    else (false, .sql)

def states : ScanState → List Char → List ScanState
  | state, [] => [state]
  | state, [ch] => [state, (advance state ch none).2]
  | state, ch :: next :: rest =>
    if (advance state ch (some next)).1 then
      state :: state :: states (advance state ch (some next)).2 rest
    else state :: states (advance state ch (some next)).2 (next :: rest)

/-- A piece of the text: a character of the template, with its position there, or the
literal of a parameter. -/
inductive Segment where
  | copied (position : Nat) (ch : Char)
  | inlined (index : Nat) (literal : List Char)
  deriving DecidableEq, Repr

def Segment.text : Segment → List Char
  | .copied _ ch => [ch]
  | .inlined _ literal => literal

def render (segments : List Segment) : List Char := segments.flatMap Segment.text

structure Scan where
  state : ScanState
  nextPositional : Nat
  used : List Bool
  out : List Segment
  deriving DecidableEq, Repr

section Binding

variable (formats : Formats) (params : List Value)

def inlineValue (scan : Scan) (index : Nat) (value : Value) (nextPositional : Nat) :
    Except DriverError Scan := do
  let rendered ← literal formats value
  .ok { state := .sql
        nextPositional := nextPositional
        used := scan.used.set index true
        out := scan.out ++ [.inlined index rendered] }

def positional (scan : Scan) : Except DriverError Scan :=
  match params[scan.nextPositional]? with
  | none =>
    .error (.internal ("not enough bind parameters: need at least " ++
      toString (scan.nextPositional + 1)))
  | some value => inlineValue formats scan scan.nextPositional value (scan.nextPositional + 1)

/-- A placeholder with a number; `usize` has 64 bits. -/
def numbered (scan : Scan) (digits : List Char) : Except DriverError Scan :=
  let number := digitsValue digits
  if 18446744073709551616 ≤ number then
    .error (.internal ("bad placeholder $" ++ String.ofList digits))
  else if number = 0 then .error (.internal "bind placeholders start at $1")
  else
    match params[number - 1]? with
    | none =>
      .error (.internal ("bind parameter $" ++ toString number ++ " out of range (have " ++
        toString params.length ++ ")"))
    | some value => inlineValue formats scan (number - 1) value scan.nextPositional

def copy (scan : Scan) (ch : Char) (rest : List Char) (position : Nat) : Nat × Scan :=
  let turn := advance scan.state ch rest.head?
  match turn.1, rest with
  | true, next :: _ =>
    (1, { scan with
      state := turn.2
      out := scan.out ++ [.copied position ch, .copied (position + 1) next] })
  | _, _ =>
    (0, { scan with
      state := turn.2
      out := scan.out ++ [.copied position ch] })

/-- One turn of the loop: how many of the characters behind the first it takes. -/
def turn (ch : Char) (rest : List Char) (position : Nat) (scan : Scan) :
    Except DriverError (Nat × Scan) :=
  if scan.state = .sql ∧ ch = '?' then do
    let scan ← positional formats params scan
    .ok (0, scan)
  else if scan.state = .sql ∧ ch = '$' ∧ (rest.takeWhile Char.isDigit) ≠ [] then do
    let scan ← numbered formats params scan (rest.takeWhile Char.isDigit)
    .ok ((rest.takeWhile Char.isDigit).length, scan)
  else .ok (copy scan ch rest position)

def bindFrom : List Char → (skip position : Nat) → Scan → Except DriverError Scan
  | [], _, _, scan => .ok scan
  | _ :: rest, skip + 1, position, scan => bindFrom rest skip (position + 1) scan
  | ch :: rest, 0, position, scan => do
      let (skip, scan) ← turn formats params ch rest position scan
      bindFrom rest skip (position + 1) scan

def bindSegments (sql : List Char) : Except DriverError (List Segment) := do
  let scan ← bindFrom formats params sql 0 0
    { state := .sql
      nextPositional := 0
      used := List.replicate params.length false
      out := [] }
  match scan.used.findIdx? (!·) with
  | some unused =>
    .error (.internal ("bind parameter " ++ toString (unused + 1) ++ " of " ++
      toString params.length ++ " was never referenced"))
  | none => .ok scan.out

def bindPlaceholders (sql : List Char) : Except DriverError (List Char) :=
  (bindSegments formats params sql).map render

end Binding

end Bookie.ClickHouse
