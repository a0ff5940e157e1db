/-
Which semicolons end a statement, and the lines that are no SQL. A routine body or a
trigger body holds semicolons of its own; a GO line ends a batch, and a DELIMITER
line changes what ends a statement.
-/

import Bookie.Script.Lexer

namespace Bookie.Script

def asciiLower (b : UInt8) : UInt8 :=
  if 'A'.toUInt8 ≤ b && b ≤ 'Z'.toUInt8 then b + 32 else b

def eqIgnoreAsciiCase (word : List UInt8) (known : String) : Bool :=
  word.map asciiLower == (ascii known.toList).map asciiLower

inductive TriggerState where
  | start
  | normal
  | explain
  | create
  | trigger
  | semi
  | done
  deriving DecidableEq, Repr

inductive TriggerToken where
  | other
  | explain
  | create
  | temp
  | trigger
  | done
  deriving DecidableEq, Repr

structure CompoundTracker where
  rule : CompoundRule
  parensHoldSemicolons : Bool
  parenDepth : Nat
  identifierCount : Nat
  identifiers : List UInt8
  beginDepth : Nat
  trigger : TriggerState
  deriving DecidableEq, Repr

namespace CompoundTracker

def new (rule : CompoundRule) (parensHoldSemicolons : Bool) : CompoundTracker :=
  { rule := rule
    parensHoldSemicolons := parensHoldSemicolons
    parenDepth := 0
    identifierCount := 0
    identifiers := [0, 0, 0, 0]
    beginDepth := 0
    trigger := .start }

variable (tracker : CompoundTracker)

def reset : CompoundTracker :=
  new tracker.rule tracker.parensHoldSemicolons

def routineWords : List String := ["create", "function", "procedure", "or", "replace"]

def createsRoutine (identifiers : List UInt8) : Bool :=
  match identifiers with
  | [first, second, third, fourth] =>
    let routine (b : UInt8) : Bool := b == 'f'.toUInt8 || b == 'p'.toUInt8
    first == 'c'.toUInt8 &&
      (routine second || (second == 'o'.toUInt8 && third == 'r'.toUInt8 && routine fourth))
  | _ => false

def countIdentifier (word : List UInt8) : CompoundTracker :=
  let identifiers :=
    if routineWords.any (eqIgnoreAsciiCase word) then
      tracker.identifiers.set tracker.identifierCount ((word.head?.map asciiLower).getD 0)
    else tracker.identifiers
  { tracker with identifiers := identifiers, identifierCount := tracker.identifierCount + 1 }

def observeRoutineWord (word : List UInt8) : CompoundTracker :=
  let tracker := tracker.countIdentifier word
  if !createsRoutine tracker.identifiers || tracker.parenDepth != 0 then tracker
  else if eqIgnoreAsciiCase word "begin" then { tracker with beginDepth := tracker.beginDepth + 1 }
  else if eqIgnoreAsciiCase word "case" then
    if 1 ≤ tracker.beginDepth then
      { tracker with beginDepth := tracker.beginDepth + 1 }
    else tracker
  else if eqIgnoreAsciiCase word "end" then { tracker with beginDepth := tracker.beginDepth - 1 }
  else tracker

def classifyTrigger (kind : ScriptTokenKind) (text : List UInt8) : TriggerToken :=
  if kind != .word then .other
  else if eqIgnoreAsciiCase text "create" then .create
  else if eqIgnoreAsciiCase text "trigger" then .trigger
  else if eqIgnoreAsciiCase text "temp" || eqIgnoreAsciiCase text "temporary" then .temp
  else if eqIgnoreAsciiCase text "end" then .done
  else if eqIgnoreAsciiCase text "explain" then .explain
  else .other

def advanceTrigger : TriggerState → TriggerToken → TriggerState
  | .start, .explain => .explain
  | .start, .create | .explain, .create => .create
  | .explain, .other => .explain
  | .create, .temp => .create
  | .create, .trigger => .trigger
  | .semi, .done => .done
  | .trigger, _ | .semi, _ | .done, _ => .trigger
  | _, _ => .normal

def countParens : ScriptTokenKind → CompoundTracker
  | .openParen => { tracker with parenDepth := tracker.parenDepth + 1 }
  | .closeParen => { tracker with parenDepth := tracker.parenDepth - 1 }
  | _ => tracker

def observe (kind : ScriptTokenKind) (text : List UInt8) : CompoundTracker :=
  let tracker := tracker.countParens kind
  match tracker.rule with
  | .none => tracker
  | .routineBody => if kind == .word then tracker.observeRoutineWord text else tracker
  | .triggerBody =>
    { tracker with trigger := advanceTrigger tracker.trigger (classifyTrigger kind text) }

def endsStatement : Bool :=
  let held := tracker.parensHoldSemicolons && decide (0 < tracker.parenDepth)
  match tracker.rule with
  | .none => !held
  | .routineBody => !held && tracker.beginDepth == 0
  | .triggerBody => !(tracker.trigger == .trigger || tracker.trigger == .semi)

/-- Whether a semicolon ends the statement, and the tracker behind it. -/
def semicolonEndsStatement : Bool × CompoundTracker :=
  if tracker.endsStatement then (true, tracker.reset)
  else if tracker.rule == .triggerBody then (false, { tracker with trigger := .semi })
  else (false, tracker)

end CompoundTracker

def isLineSpace (b : UInt8) : Bool :=
  b == ' '.toUInt8 || b == '\t'.toUInt8 || b == '\r'.toUInt8 || b == 0x0b || b == 0x0c

def lineOf (bytes : List UInt8) : List UInt8 := bytes.takeWhile (· != '\n'.toUInt8)

def dashes : List UInt8 := ascii ['-', '-']

/-- The line behind a keyword that stands alone. -/
def stripKeyword (line : List UInt8) (keyword : String) : Option (List UInt8) :=
  let length := keyword.toList.length
  if line.length < length || !eqIgnoreAsciiCase (line.take length) keyword then none
  else
    let rest := line.drop length
    if rest.isEmpty || rest.head?.any isLineSpace || dashes.isPrefixOf rest then some rest else none

/-- Positions are counted from the start of the line. -/
structure GoLine where
  start : Nat
  stop : Nat
  repeats : Nat
  deriving DecidableEq, Repr

structure DelimiterLine where
  start : Nat
  stop : Nat
  delimiter : Option (List UInt8)
  deriving DecidableEq, Repr

def decimalValue (digits : List UInt8) : Nat :=
  digits.foldl (fun value digit => 10 * value + (digit.toNat - 48)) 0

/-- The count of a GO line and what is behind it; a count must fit 32 bits and not be 0. -/
def goCount (rest : List UInt8) : Option (Nat × List UInt8) :=
  let afterSpaces := rest.dropWhile isLineSpace
  let digits := afterSpaces.takeWhile isAsciiDigit
  if 0 < digits.length && decide (afterSpaces.length < rest.length) then
    let count := decimalValue digits
    if count = 0 || 4294967296 ≤ count then none else some (count, afterSpaces.drop digits.length)
  else some (1, rest)

def goLine (bytes : List UInt8) : Option GoLine := do
  let line := lineOf bytes
  let trimmed := line.dropWhile isLineSpace
  let rest ← stripKeyword trimmed "go"
  let (repeats, tail) ← goCount rest
  let tail := tail.dropWhile isLineSpace
  if tail.isEmpty || dashes.isPrefixOf tail then
    some { start := line.length - trimmed.length, stop := line.length, repeats := repeats }
  else none

def isQuote (b : UInt8) : Bool := b == '\''.toUInt8 || b == '"'.toUInt8 || b == '`'.toUInt8

def delimiterArgument (argument : List UInt8) : Option (List UInt8) :=
  let delimiter : Option (List UInt8) :=
    match argument with
    | [] => none
    | first :: rest =>
      if isQuote first then some (rest.takeWhile (· != first))
      else some (argument.takeWhile fun b => !isLineSpace b)
  delimiter.filter fun delimiter => !delimiter.isEmpty && !delimiter.contains '\\'.toUInt8

def delimiterLine (bytes : List UInt8) : Option DelimiterLine := do
  let line := lineOf bytes
  let trimmed := line.dropWhile isLineSpace
  let rest ← (stripKeyword trimmed "delimiter").or (stripKeyword trimmed "\\d")
  some
    { start := line.length - trimmed.length
      stop := line.length
      delimiter := delimiterArgument (rest.dropWhile isLineSpace) }

end Bookie.Script
