/-
An outside that never gets in the way. It shows that a statement can get through,
where nothing in the guard stops it.
-/

import Bookie.Chain.Sha256
import Bookie.Guard.Session

namespace Bookie.Guard

open Bookie.Core Policy Async Async.Future

def emptyQueryResult : QueryResult :=
  { columns := []
    rows := []
    truncated := false }

def emptyMetadata : (read : MetadataRead) → read.Result
  | .fetchRows _ _ _ _ => emptyQueryResult
  | .serverVersion => none
  | .listDatabases | .listTables | .listViews | .listObjects _ _ | .fetchColumns _ _
  | .fetchIndexes _ _ | .fetchForeignKeys _ _ | .fetchInboundForeignKeys _ _
  | .fetchEnumLabels _ _ => ([] : List String)

def DriverCall.emptyResult : (call : DriverCall) → call.Result
  | .query _ _ _ _ _ => emptyQueryResult
  | .queryResultSets _ _ _ _ => { resultSets := [], truncated := false : QueryResultBatch }
  | .execute _ _ _ _ => { rowsAffected := 0 : ExecResult }
  | .executeInTransaction statements _ _ => statements.map fun _ => 0
  | .openQueryCursor _ _ _ => Uuid.nil
  | .fetchQueryCursorPage _ _ =>
    { result := emptyQueryResult, hasNextPage := false : QueryCursorPage }
  | .fetchCompletionColumns _ _ _ => ([] : List String)
  | .lexicalSettings _ _ => (none : Option LexicalSettings)
  | .metadata read _ => emptyMetadata read
  | .synchronizeSequences _ _ _ _ | .begin _ | .commit | .rollback _ | .openSession
  | .closeQueryCursor _ _ | .closeSession | .ping => ()

def Outside.cooperative : Outside :=
  { others := fun _ => AuditState.new
    record := fun _ _ => .accepted
    request := fun _ _ => .answered .allowOnce
    call := fun _ call => .returned call.emptyResult
    isUsable := fun _ => some true
    newUuid := fun step => BitVec.ofNat 128 step
    now := fun _ => "1970-01-01T00:00:00Z"
    elapsedMs := fun _ => 0
    instant := fun _ => 0
    isCancelled := fun _ _ => false
    sha256 := Chain.sha256 }

structure KnownStatement where
  sql : String
  facts : StatementFacts
  rollsBackToSavepoint : Bool
  blastRadius : Option BlastRadiusRewrite
  control : Option TransactionControl

/-- A single statement that changes no rows without a condition. -/
def KnownStatement.single (sql : String) (cls : StatementClass) (effects : Effects)
    (tables : List String) : KnownStatement where
  sql
  facts :=
    { cls
      effects
      tables
      hasWhere := true
      containsUnscopedDml := false
      isMultiStatement := false
      parseError := none }
  rollsBackToSavepoint := false
  blastRadius := none
  control := none

/-- A front end that knows these statements and cannot parse any other. -/
def frontEndKnowing (statements : List KnownStatement) : SqlFrontEnd :=
  let find := fun sql => statements.find? fun statement => statement.sql == sql
  { classify := fun sql _ => ((find sql).map KnownStatement.facts).getD
      (.unparseable "unknown statement")
    rollsBackToSavepoint := fun sql _ =>
      ((find sql).map KnownStatement.rollsBackToSavepoint).getD false
    blastRadius := fun sql _ => (find sql).bind KnownStatement.blastRadius
    sensitivePositions := fun _ _ _ => none
    knownStatementRows := fun sql _ => match (find sql).bind KnownStatement.blastRadius with
      | some (.known rows) => [some rows]
      | _ => [none]
    implicitTransactionStarter := fun _ _ => none
    transactionControl := fun sql _ => (find sql).bind KnownStatement.control
    hidesTransactionControl := fun _ _ => false
    leavesTsqlTransactionUnclosed := fun _ _ => false
    mysqlStatementIsTransactionSafe := fun sql => (find sql).isSome
    scriptStatements := fun sql _ => [sql]
    statementTarget := fun _ _ => none
    validIdentifier := fun _ => true
    printable := asciiPrintable
    mask := fun _ result _ => result }

def guardOver (front : SqlFrontEnd) (outside : Outside) (driverId : String)
    (environment : Environment) (principal : Principal) : PolicyGuard :=
  .new
    { connectionId := 1
      connectionName := "orders"
      driverId := driverId
      environment := environment
      readOnly := false
      principal := principal
      policy := { environments := [], connectionOverrides := [], maskPatterns := [] } }
    front outside false

def insertUser : KnownStatement :=
  { KnownStatement.single "INSERT INTO users(id) VALUES (1)" .insert (.union .reads .writesRows)
      ["users"] with
    blastRadius := some (.known 1) }

end Bookie.Guard
