/-
What the policy reads from a parsed text. The parser and the tokenizer are outside
code; from their answers the facts of a text and the transaction control in it are
computed here, and together they are a front end for the rules.
-/

import Bookie.Policy.Classify
import Bookie.Policy.Rules
import Bookie.Text.Chars

namespace Bookie.Policy

open Sql Text

def transactionStart (modes : List TransactionMode) : Option TransactionControl :=
  if modes.contains (.accessMode .readWrite) then some .beginReadWrite
  else if !modes.contains (.accessMode .readOnly) then some .begin
  else if modes.any fun mode =>
      mode == .isolationLevel .repeatableRead || mode == .isolationLevel .serializable then
    some .beginReadOnlySnapshot
  else some .beginReadOnly

def controlOf : Statement → Option TransactionControl
  | .startTransaction modes false => transactionStart modes
  | .commit chain => some (.commit chain)
  | .rollback chain none => some (.rollback chain)
  | _ => none

inductive TsqlPhrase where
  | begin
  | commit
  | rollback
  | namedRollback
  | save
  deriving DecidableEq, Repr

/-- The phrases of a Transact-SQL batch, as its scanner reports them. -/
structure TsqlScan where
  onlyPhrase : Option TsqlPhrase
  hidesControl : Bool
  leavesSharedTransactionUnclosed : Bool
  deriving DecidableEq, Repr

/-- The parser and the token scans of a text; the driver id comes first. -/
structure SqlParser where
  parse : String → String → Except String (List Statement)
  tokens : String → String → Option (List SqlToken)
  refusal : String → String → Option String
  hasLockingClause : String → String → Bool
  tsqlScan : String → TsqlScan
  lookups : Lookups

namespace SqlParser

variable (parser : SqlParser) (sql driverId : String)

def parsedTransactionControl : Option TransactionControl :=
  match parser.parse driverId (trim sql) with
  | .ok [statement] => controlOf statement
  | _ => none

def tsqlTransactionControl (sql : String) : Option TransactionControl :=
  match (parser.tsqlScan sql).onlyPhrase with
  | none => parser.parsedTransactionControl sql "mssql"
  | some .begin => (parser.parsedTransactionControl sql "mssql").or (some .begin)
  | some .commit => some (.commit false)
  | some .rollback => some (.rollback false)
  | some .namedRollback | some .save => none

def transactionControl : Option TransactionControl :=
  if driverId = "mssql" then parser.tsqlTransactionControl sql
  else parser.parsedTransactionControl sql driverId

def hidesTransactionControl : Bool :=
  if driverId == "mssql" && (parser.tsqlScan sql).hidesControl then true
  else
    match parser.parse driverId (trim sql) with
    | .error _ => false
    | .ok statements =>
      decide (1 < statements.length) && statements.any fun statement => (controlOf statement).isSome

def leavesTsqlTransactionUnclosed : Bool :=
  driverId == "mssql" && (parser.tsqlScan sql).leavesSharedTransactionUnclosed

/-- Locking clauses that the parser drops still make a read a write. -/
def withLockingBackstop (facts : StatementFacts) (driverId sql : String) : StatementFacts :=
  if facts.cls == .select && parser.hasLockingClause driverId sql then
    { facts with cls := .other, effects := facts.effects.union .writesRows }
  else facts

def factsOf (driverId trimmed : String) (statements : List Statement) : StatementFacts :=
  let (effects, call) := sqlEffectsFromTokens driverId (parser.tokens driverId trimmed)
  parser.withLockingBackstop (classifyStatements parser.lookups statements effects call) driverId
    trimmed

def classify : StatementFacts :=
  let trimmed := trim sql
  if trimmed.isEmpty then .unparseable "empty SQL"
  else
    match parser.refusal driverId trimmed with
    | some reason => .unparseable reason
    | none =>
      match parser.parse driverId trimmed with
      | .error message => .unparseable message
      | .ok [] => .unparseable "no statements parsed"
      | .ok statements => parser.factsOf driverId trimmed statements

/-- The front end of a parser; what the rules ask besides facts and transaction
control is taken from another one. -/
def front (base : SqlFrontEnd) : SqlFrontEnd :=
  { base with
    classify := parser.classify
    transactionControl := parser.transactionControl
    hidesTransactionControl := parser.hidesTransactionControl
    leavesTsqlTransactionUnclosed := parser.leavesTsqlTransactionUnclosed }

end SqlParser

end Bookie.Policy
