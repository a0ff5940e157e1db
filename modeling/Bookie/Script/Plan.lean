/-
The plan of a script: its tokens, its statements and its batches. The builder
reads one directive or one token a step; a statement reaches from its first token
to its last.
-/

import Bookie.Script.Tracker

namespace Bookie.Script

open Text

structure ScriptStatement where
  start : Nat
  stop : Nat
  extentStart : Nat
  extentStop : Nat
  deriving DecidableEq, Repr

structure ScriptBatch where
  start : Nat
  stop : Nat
  repeats : Nat
  firstStatement : Nat
  lastStatement : Nat
  deriving DecidableEq, Repr

inductive ScriptDiagnostic where
  | unterminated (construct : OpenConstruct) (start : Nat)
  deriving DecidableEq, Repr

structure ScriptPlan where
  tokens : List ScriptToken
  statements : List ScriptStatement
  batches : List ScriptBatch
  diagnostics : List ScriptDiagnostic
  batchError : BatchErrorPolicy
  deriving DecidableEq, Repr

/-- The builder's state. `opened` is the range of the statement being read; `terminators`
records the tokens that ended a statement, which the plan does not keep. -/
structure Builder where
  rules : ScriptRules
  lexer : Lexer
  tracker : CompoundTracker
  delimiter : List UInt8
  opened : Option (Nat × Nat)
  tokens : List ScriptToken
  statements : List ScriptStatement
  batches : List ScriptBatch
  diagnostics : List ScriptDiagnostic
  terminators : List ScriptToken
  deriving DecidableEq, Repr

namespace Builder

def new (text : List Char) (rules : ScriptRules) (settings : LexicalSettings) : Builder :=
  { rules := rules
    lexer := Lexer.new text rules.lexical settings
    tracker := CompoundTracker.new rules.compound rules.parensHoldSemicolons
    delimiter := ascii [';']
    opened := none
    tokens := []
    statements := []
    batches := []
    diagnostics := []
    terminators := [] }

variable (builder : Builder)

def pushToken (token : ScriptToken) : Builder :=
  { builder with tokens := builder.tokens ++ [token] }

def finishStatement (terminatorEnd : Option Nat) (repeats : Nat) : Builder :=
  let builder := { builder with tracker := builder.tracker.reset }
  match builder.opened with
  | none => builder
  | some (start, stop) =>
    let index := builder.statements.length
    { builder with
      opened := none
      statements := builder.statements ++
        [{ start := start
           stop := stop
           extentStart := start
           extentStop := terminatorEnd.getD stop }]
      batches := builder.batches ++
        [{ start := start
           stop := stop
           repeats := repeats
           firstStatement := index
           lastStatement := index + 1 }] }

/-- A directive line: the space before it and the directive, positions counted from the
start of the line. -/
def pushDirective (start stop : Nat) : Builder :=
  let lineStart := builder.lexer.pos
  let builder :=
    if 0 < start then
      builder.pushToken { kind := .whitespace, start := lineStart, stop := lineStart + start }
    else builder
  let builder :=
    builder.pushToken { kind := .directive, start := lineStart + start, stop := lineStart + stop }
  { builder with lexer := builder.lexer.skipTo (lineStart + stop) }

def acceptDirective : Option Builder :=
  match builder.rules.boundary with
  | .goBatch =>
    (goLine builder.lexer.rest).map fun line =>
      (builder.pushDirective line.start line.stop).finishStatement none line.repeats
  | .delimiterDirectives =>
    if builder.opened.isSome then none
    else
      (delimiterLine builder.lexer.rest).map fun line =>
        { builder.pushDirective line.start line.stop with
          delimiter := line.delimiter.getD builder.delimiter }
  | .semicolon => none

def diagnose (token : LexedToken) (start : Nat) : Builder :=
  match token.opened with
  | none => builder
  | some construct =>
    { builder with diagnostics := builder.diagnostics ++ [.unterminated construct start] }

/-- The statement being read reaches to the end of the token. -/
def extend (start stop : Nat) : Builder :=
  { builder with
    opened :=
      match builder.opened with
      | some (first, _) => some (first, stop)
      | none => some (start, stop) }

def isDelimiter (kind : ScriptTokenKind) : Bool :=
  kind == .semicolon && builder.rules.boundary != .goBatch

def terminate (token : ScriptToken) : Builder :=
  { builder.finishStatement (some token.stop) 1 with
    terminators := builder.terminators ++ [token] }

def acceptContent (token : ScriptToken) (text : List UInt8) : Builder :=
  if builder.isDelimiter token.kind then
    let (ends, tracker) := builder.tracker.semicolonEndsStatement
    let builder := { builder with tracker := tracker }
    if ends then builder.terminate token else builder.extend token.start token.stop
  else if token.kind == .semicolon then builder.extend token.start token.stop
  else
    { builder with tracker := builder.tracker.observe token.kind text }.extend token.start
      token.stop

def accept (token : LexedToken) (start : Nat) : Builder :=
  let range : ScriptToken := { kind := token.kind, start := start, stop := start + token.length }
  let builder := builder.diagnose token start
  let builder :=
    if token.kind.isTrivia then builder
    else
      builder.acceptContent range ((builder.lexer.bytes.drop start).take token.length)
  builder.pushToken range

def currentDelimiter : Option (List UInt8) :=
  if builder.rules.boundary = .delimiterDirectives then some builder.delimiter else none

/-- One turn of the loop; none when it has ended. -/
def step : Option Builder :=
  if builder.lexer.pos < builder.lexer.bytes.length then
    match if builder.lexer.atLineStart then builder.acceptDirective else none with
    | some next => some next
    | none =>
      (builder.lexer.nextToken builder.currentDelimiter).map fun (token, lexer) =>
        { builder with lexer := lexer }.accept token builder.lexer.pos
  else none

/-- As many turns as the loop takes, but no more than allowed. -/
def drive : Nat → Builder → Builder
  | 0, builder => builder
  | turns + 1, builder =>
    match builder.step with
    | none => builder
    | some next => drive turns next

/-- The end of a statement's extent: up to the end of the line if only trivia follows. -/
def extendedStop (bytes : List UInt8) : List ScriptToken → Nat → Nat
  | [], stop => stop
  | token :: tokens, stop =>
    if !token.kind.isTrivia then stop
    else
      match ((bytes.drop token.start).take (token.stop - token.start)).findIdx?
          (· == '\n'.toUInt8) with
      | some offset => if token.kind == .whitespace then token.start + offset else stop
      | none => extendedStop bytes tokens token.stop

def extendExtents : List ScriptStatement :=
  builder.statements.map fun statement =>
    { statement with
      extentStop :=
        extendedStop builder.lexer.bytes
          (builder.tokens.dropWhile fun token => token.start < statement.extentStop)
          statement.extentStop }

def finish : ScriptPlan :=
  let builder := builder.finishStatement none 1
  { tokens := builder.tokens
    statements := builder.extendExtents
    batches := builder.batches
    diagnostics := builder.diagnostics
    batchError := builder.rules.batchError }

/-- The builder at the end of its loop. Every turn reads at least one byte. -/
def run (text : List Char) (grammar : SqlGrammar) (settings : LexicalSettings) : Builder :=
  drive (encode text).length (new text (rulesFor grammar) settings)

end Builder

def ScriptPlan.build (text : String) (grammar : SqlGrammar) (settings : LexicalSettings) :
    ScriptPlan :=
  (Builder.run text.toList grammar settings).finish

end Bookie.Script
