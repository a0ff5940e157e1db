/-
The driver interface of the core crate as the policy guard sees it: errors,
results, parameters and operation controls. Values of outside types (decimals,
dates) are kept as their text, and a column keeps only its name.
-/

import Bookie.Core.Json
import Bookie.Policy.AuditEvent
import Bookie.Text.Chars

namespace Bookie.Core

open Policy Text

inductive DriverError where
  | connectionRefused
  | authFailed
  | tls (detail : String)
  | query (message : String) (sqlstate : Option String) (position : Option Nat)
  | disconnected
  | readOnly
  | policyDenied (detail : String)
  | unsupported (detail : String)
  | internal (detail : String)
  | cancelled
  | timedOut
  | concurrentModification
  | operationOutcomeUnknown (source : DriverError)
  | integratedAuth (detail : String)
  | transaction (statementIndex : Nat) (source : DriverError)
  | partiallyApplied (statementIndex : Nat) (source : DriverError)
  | transactionRollbackFailed (statementIndex : Nat) (source rollbackError : DriverError)
  deriving DecidableEq, Repr

def DriverError.text : DriverError → String
  | .connectionRefused => "connection refused"
  | .authFailed => "authentication failed"
  | .tls detail => "TLS handshake failed: " ++ detail
  | .query message _ _ => "query failed: " ++ message
  | .disconnected => "connection closed unexpectedly"
  | .readOnly => "connection is read-only; mutations are not permitted"
  | .policyDenied detail => "policy denied: " ++ detail
  | .unsupported detail => "unsupported operation: " ++ detail
  | .internal detail => "driver internal error: " ++ detail
  | .cancelled => "operation cancelled"
  | .timedOut => "operation timed out"
  | .concurrentModification => "row changed since it was loaded"
  | .operationOutcomeUnknown source =>
    "operation outcome is unknown after interruption: " ++ source.text
  | .integratedAuth detail => "integrated authentication failed: " ++ detail
  | .transaction statementIndex source =>
    s!"transaction failed at statement {statementIndex}: " ++ source.text
  | .partiallyApplied statementIndex source =>
    s!"batch failed at statement {statementIndex} after the statements before it were applied: "
      ++ source.text
  | .transactionRollbackFailed statementIndex source rollbackError =>
    s!"transaction failed at statement {statementIndex}: " ++ source.text ++
      "; rollback also failed: " ++ rollbackError.text

inductive Value where
  | null
  | bool (value : Bool)
  | int (value : Int)
  | float (bits : UInt64)
  | text (value : String)
  | bytes (value : List UInt8)
  | date (text : String)
  | time (text : String)
  | dateTime (text : String)
  | timestampTz (text : String)
  | decimal (text : String)
  | uuid (value : Uuid)
  | json (value : Json)
  | jsonText (text : String)
  | undecodable (typeName : String)
  deriving DecidableEq, Repr

def isNull : Value → Bool
  | .null => true
  | _ => false

structure ColumnInfo where
  name : String
  deriving DecidableEq, Repr

structure QueryResult where
  columns : List ColumnInfo
  rows : List (List Value)
  truncated : Bool
  deriving DecidableEq, Repr

structure QueryResultBatch where
  resultSets : List QueryResult
  truncated : Bool
  deriving DecidableEq, Repr

def QueryResultBatch.retainedRows (batch : QueryResultBatch) : Nat :=
  (batch.resultSets.map fun set => set.rows.length).sum

structure ExecResult where
  rowsAffected : Nat
  deriving DecidableEq, Repr

abbrev QueryCursorId := Uuid

structure QueryCursorPage where
  result : QueryResult
  hasNextPage : Bool
  deriving DecidableEq, Repr

inductive SessionCommitOutcome where
  | committed
  | rolledBack
  deriving DecidableEq, Repr

structure LexicalSettings where
  backslashEscapes : Bool
  ansiQuotes : Bool
  deriving DecidableEq, Repr

inductive CatalogObjectKind where
  | routine
  | trigger
  | sequence
  | extension
  | role
  | type
  | grant
  deriving DecidableEq, Repr

def CatalogObjectKind.asStr : CatalogObjectKind → String
  | .routine => "routine"
  | .trigger => "trigger"
  | .sequence => "sequence"
  | .extension => "extension"
  | .role => "role"
  | .type => "type"
  | .grant => "grant"

def CatalogObjectKind.isSchemaScoped : CatalogObjectKind → Bool
  | .extension | .role => false
  | _ => true

/-- The reads of a connection's catalog and tables that carry no SQL text. -/
inductive MetadataRead where
  | listDatabases
  | listTables
  | listViews
  | listObjects (kind : CatalogObjectKind) (schema : Option String)
  | fetchColumns (schema : Option String) (table : String)
  | fetchRows (schema : Option String) (table : String) (offset limit : Nat)
  | fetchIndexes (schema : Option String) (table : String)
  | fetchForeignKeys (schema : Option String) (table : String)
  | fetchInboundForeignKeys (schema : Option String) (table : String)
  | fetchEnumLabels (schema name : String)
  | serverVersion
  deriving DecidableEq, Repr

def MetadataRead.Result : MetadataRead → Type
  | .fetchRows _ _ _ _ => QueryResult
  | .serverVersion => Option String
  | _ => List String

/-- `str::parse::<u64>`: an optional plus sign and at least one digit. -/
def parseU64 (text : String) : Option Nat :=
  let digits :=
    match text.toList with
    | '+' :: rest => rest
    | all => all
  if digits.isEmpty || !digits.all Char.isDigit then none
  else
    let number := digitsValue digits
    if number < 18446744073709551616 then some number else none

/-- The row count a cell of a counting query stands for. -/
def Value.asRowCount : Value → Option Nat
  | .int value => if value < 0 then none else some value.toNat
  | .decimal shown => parseU64 shown
  | .text shown => parseU64 shown
  | _ => none

def QueryResult.rowCount (result : QueryResult) : Option Nat :=
  (result.rows.head?.bind List.head?).bind Value.asRowCount

def batchText (statements : List (String × List Value)) : String :=
  String.intercalate "\n;\n" (statements.map fun statement =>
    String.ofList ((trim statement.1).toList.rdropWhile (· == ';')))

/-- The cancellation token is a name; whether it is cancelled is up to its owner. -/
structure OperationControl where
  token : Nat
  deadline : Option Nat
  deriving DecidableEq, Repr

end Bookie.Core
