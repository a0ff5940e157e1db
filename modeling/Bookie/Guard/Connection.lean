/-
The guarded connection and its transactions. Every SQL operation is authorised, then
run as a governed read or as a write whose intent is recorded first. The forms of one
operation differ in the driver call and in how its result is audited.
-/

import Bookie.Guard.Authorize

namespace Bookie.Guard

open Bookie.Core Policy Async Async.Future

structure PolicyTransaction where
  batchId : Uuid
  deriving DecidableEq, Repr

namespace PolicyGuard

variable {σ : Type} (guard : PolicyGuard) (sql : String)

def authorizedOperation (batchId : Option Uuid) (authorization : Authorization) :
    Guarded σ AuditOperation :=
  guard.operation sql batchId authorization.analysis.facts authorization.decision
    authorization.approvalOutcome authorization.previewState

section Runs

variable {α β : Type}

def runRead (operation : AuditOperation) (label : String) (execute : Guarded σ β)
    (finish : β → α) (rows : α → Option Nat)
    (audit : AuditOperation → Except DriverError α → Option Nat → Guarded σ Unit) :
    Guarded σ α := do
  guard.prepareGovernedRead operation
  let result ← guard.caughtRead label execute
  let result := result.map finish
  audit operation result (result.toOption.bind rows)
  ofExcept result

def runWrite (operation : AuditOperation) (label : String) (execute : Guarded σ β)
    (finish : β → α) (rows : α → Option Nat)
    (audit : AuditOperation → Except DriverError α → Option Nat → Guarded σ Unit) :
    Guarded σ α := do
  ofExcept (guard.handleIntentFailure (← guard.recordIntent operation))
  let result ← pendingWrite do
    let result ← guard.caughtWrite label execute
    let result := result.map finish
    audit operation result (result.toOption.bind rows)
    pure result
  ofExcept result

end Runs

def catalogTarget (kind : CatalogObjectKind) (schema : Option String) : List String :=
  match schema.filter fun _ => kind.isSchemaScoped with
  | some schema => [kind.asStr ++ ":" ++ schema]
  | none => [kind.asStr]

def tableTarget (schema : Option String) (table : String) : List String :=
  match schema with
  | none => [table]
  | some schema => [schema ++ "." ++ table]

def metadataName : MetadataRead → String
  | .listDatabases => "LIST DATABASES"
  | .listTables => "LIST TABLES"
  | .listViews => "LIST VIEWS"
  | .listObjects _ _ => "LIST OBJECTS"
  | .fetchColumns _ _ => "FETCH COLUMNS"
  | .fetchRows _ _ _ _ => "FETCH ROWS"
  | .fetchIndexes _ _ => "FETCH INDEXES"
  | .fetchForeignKeys _ _ => "FETCH FOREIGN KEYS"
  | .fetchInboundForeignKeys _ _ => "FETCH INBOUND FOREIGN KEYS"
  | .fetchEnumLabels _ _ => "FETCH ENUM LABELS"
  | .serverVersion => "SERVER VERSION"

def metadataTargets : MetadataRead → List String
  | .listDatabases | .listTables | .listViews | .serverVersion => []
  | .listObjects kind schema => catalogTarget kind schema
  | .fetchColumns schema table | .fetchRows schema table _ _ | .fetchIndexes schema table
  | .fetchForeignKeys schema table | .fetchInboundForeignKeys schema table =>
    tableTarget schema table
  | .fetchEnumLabels schema name => [schema ++ "." ++ name]

/-- Rows of a table are masked by column name; other metadata is passed on. -/
def maskMetadata : (read : MetadataRead) → read.Result → read.Result
  | .fetchRows _ _ _ _, result => guard.maskResult result
  | .listDatabases, names | .listTables, names | .listViews, names | .listObjects _ _, names
  | .fetchColumns _ _, names | .fetchIndexes _ _, names | .fetchForeignKeys _ _, names
  | .fetchInboundForeignKeys _ _, names | .fetchEnumLabels _ _, names => names
  | .serverVersion, version => version

def metadataRows : (read : MetadataRead) → read.Result → Option Nat
  | .fetchRows _ _ _ _, result => some (QueryResult.rows result).length
  | .serverVersion, _ => none
  | .listDatabases, names | .listTables, names | .listViews, names | .listObjects _ _, names
  | .fetchColumns _ _, names | .fetchIndexes _ _, names | .fetchForeignKeys _ _, names
  | .fetchInboundForeignKeys _ _, names | .fetchEnumLabels _ _, names =>
    some (show List String from names).length

def readMetadata (read : MetadataRead) (control : Option OperationControl) :
    Guarded σ read.Result := do
  whenSome control guard.checkPreDispatch
  let operation ← guard.metadataOperation (metadataName read) (metadataTargets read)
  guard.runRead operation (metadataName read) (guard.dispatch (.metadata read control))
    (guard.maskMetadata read)
    (metadataRows read)
    (if control.isSome then guard.auditControlledReadResult else guard.auditReadResult)

def ping : Guarded σ Unit := do
  ofExcept (← guard.caughtRead "PING" (guard.dispatch .ping))

def lexicalSettingsControlled (control : OperationControl) :
    Guarded σ (Option LexicalSettings) := do
  ofExcept (← guard.caughtRead "LEXICAL SETTINGS"
    (guard.dispatch (.lexicalSettings .connection control)))

def executeQueryWrite (batchId : Option Uuid) (authorization : Authorization)
    (params : Option (List Value)) (control : Option OperationControl) : Guarded σ QueryResult := do
  guard.requireGovernedWriteAvailable
  let operation ← guard.authorizedOperation sql batchId authorization
  guard.runWrite operation "a write statement"
    (guard.dispatch (.query .connection .statement sql params control))
    (guard.maskResultForAnalysis (some authorization.analysis))
    (fun value : QueryResult => some value.rows.length) guard.auditWriteResult

/-- The four single-result query forms. -/
def queryForm (label sql : String) (params : Option (List Value))
    (control : Option OperationControl) : Guarded σ QueryResult := do
  let authorization ← guard.authorize sql control
  if authorization.analysis.facts.writes then
    guard.executeQueryWrite sql none authorization params control
  else
    let operation ← guard.authorizedOperation sql none authorization
    guard.runRead operation label
      (guard.dispatch (.query .connection .statement sql params control))
      (guard.maskResultForAnalysis (some authorization.analysis))
      (fun value : QueryResult => some value.rows.length)
      (if control.isSome then guard.auditControlledReadResult else guard.auditReadResult)

def query : Guarded σ QueryResult := guard.queryForm "QUERY" sql none none

def queryControlled (control : OperationControl) : Guarded σ QueryResult :=
  guard.queryForm "QUERY" sql none (some control)

variable (params : List Value)

def queryParams : Guarded σ QueryResult :=
  guard.queryForm "QUERY PARAMS" sql (some params) none

def queryParamsControlled (control : OperationControl) : Guarded σ QueryResult :=
  guard.queryForm "QUERY PARAMS" sql (some params) (some control)

def queryResultSetsControlled (control : OperationControl) :
    Guarded σ QueryResultBatch := do
  let authorization ← guard.authorize sql (some control)
  let operation ← guard.authorizedOperation sql none authorization
  let call : Guarded σ QueryResultBatch :=
    guard.dispatch (.queryResultSets .connection sql params control)
  let mask := guard.maskResultBatchForAnalysis authorization.analysis
  let rows := fun batch : QueryResultBatch => some batch.retainedRows
  if authorization.analysis.facts.writes then
    guard.requireGovernedWriteAvailable
    guard.runWrite operation "a write statement" call mask rows guard.auditWriteResult
  else
    guard.runRead operation "QUERY RESULT SETS" call mask rows guard.auditControlledReadResult

def executeWrite (batchId : Option Uuid) (authorization : Authorization)
    (params : Option (List Value)) (control : Option OperationControl) : Guarded σ ExecResult := do
  guard.requireGovernedWriteAvailable
  let operation ← guard.authorizedOperation sql batchId authorization
  guard.runWrite operation "a write statement"
    (guard.dispatch (.execute .connection sql params control))
    (fun value => value) (fun value : ExecResult => some value.rowsAffected) guard.auditWriteResult

def executeForm (params : Option (List Value)) (control : Option OperationControl) :
    Guarded σ ExecResult := do
  let authorization ← guard.authorize sql control
  guard.executeWrite sql none authorization params control

def execute : Guarded σ ExecResult := guard.executeForm sql none none

def executeControlled (control : OperationControl) : Guarded σ ExecResult :=
  guard.executeForm sql none (some control)

def executeParams : Guarded σ ExecResult :=
  guard.executeForm sql (some params) none

def executeParamsControlled (control : OperationControl) : Guarded σ ExecResult :=
  guard.executeForm sql (some params) (some control)

/-- An atomic batch; `expectOne` lists the statements that must change exactly one row. -/
def batchForm (label : String) (statements : List (String × List Value))
    (expectOne : Option (List Nat)) (control : Option OperationControl) : Guarded σ (List Nat) := do
  whenSome control guard.checkPreDispatch
  let combined := batchText statements
  let analysis := guard.analyzeStatement combined
  let enforcedRows := expectOne.bind (enforcedBatchRows analysis)
  let authorization ← guard.authorizeAnalysis combined analysis enforcedRows control
  guard.requireGovernedWriteAvailable
  let batchId ← guard.newUuid
  let operation ← guard.authorizedOperation combined (some batchId) authorization
  guard.runWrite operation label
    (guard.dispatch (.executeInTransaction statements expectOne control))
    (fun values => values) (fun values : List Nat => some values.sum)
    (guard.auditTransactionResult .atomicBatch)

variable (statements : List (String × List Value))

def executeInTransaction : Guarded σ (List Nat) :=
  guard.batchForm "EXECUTE IN TRANSACTION" statements none none

def executeInTransactionControlled (control : OperationControl) : Guarded σ (List Nat) :=
  guard.batchForm "EXECUTE IN TRANSACTION" statements none (some control)

def executeInTransactionChecked (expectOne : List Nat) : Guarded σ (List Nat) :=
  if expectOne.isEmpty then guard.executeInTransaction statements
  else guard.batchForm "EXECUTE CHECKED TRANSACTION" statements (some expectOne) none

def executeInTransactionCheckedControlled (expectOne : List Nat) (control : OperationControl) :
    Guarded σ (List Nat) :=
  if expectOne.isEmpty then guard.executeInTransactionControlled statements control
  else guard.batchForm "EXECUTE CHECKED TRANSACTION" statements (some expectOne) (some control)

/-! ### Interactive transactions -/

def outcomeUnknown : Except DriverError Unit → Bool
  | .error (.operationOutcomeUnknown _) => true
  | _ => false

def wrapBegin (inner : Except DriverError Unit) : Guarded σ PolicyTransaction := do
  when (outcomeUnknown inner) disableGovernedWrites
  ofExcept inner
  let batchId ← guard.newUuid
  pure { batchId := batchId }

def beginForm (control : Option OperationControl) : Guarded σ PolicyTransaction := do
  let inner ← guard.caughtWrite "BEGIN" (guard.dispatch (.begin control))
  guard.wrapBegin inner

def begin : Guarded σ PolicyTransaction := guard.beginForm none

def beginControlled (control : OperationControl) : Guarded σ PolicyTransaction :=
  guard.beginForm (some control)

end PolicyGuard

namespace PolicyTransaction

open PolicyGuard

variable {σ : Type} (guard : PolicyGuard) (transaction : PolicyTransaction) (sql : String)

def runTransactionQuery (authorization : Authorization) (label : String)
    (params : Option (List Value)) (control : Option OperationControl) : Guarded σ QueryResult := do
  let operation ← guard.authorizedOperation sql (some transaction.batchId) authorization
  let call : Guarded σ QueryResult :=
    guard.dispatch (.query .transaction .statement sql params control)
  let mask := guard.maskResultForAnalysis (some authorization.analysis)
  let rows := fun value : QueryResult => some value.rows.length
  if authorization.analysis.facts.writes then
    guard.requireGovernedWriteAvailable
    guard.runWrite operation label call mask rows (guard.auditTransactionResult .interactive)
  else
    guard.runRead operation label call mask rows (guard.auditTransactionResult .interactive)

def queryForm (label sql : String) (params : Option (List Value))
    (control : Option OperationControl) : Guarded σ QueryResult := do
  let authorization ← guard.authorizeInTransaction sql control
  transaction.runTransactionQuery guard sql authorization label params control

def query : Guarded σ QueryResult := transaction.queryForm guard "QUERY" sql none none

def queryControlled (control : OperationControl) : Guarded σ QueryResult :=
  transaction.queryForm guard "QUERY" sql none (some control)

def queryParams (params : List Value) : Guarded σ QueryResult :=
  transaction.queryForm guard "QUERY PARAMS" sql (some params) none

def queryParamsControlled (params : List Value) (control : OperationControl) :
    Guarded σ QueryResult :=
  transaction.queryForm guard "QUERY PARAMS" sql (some params) (some control)

def executeForm (label sql : String) (params : Option (List Value))
    (control : Option OperationControl) : Guarded σ ExecResult := do
  let authorization ← guard.authorizeInTransaction sql control
  guard.requireGovernedWriteAvailable
  let operation ← guard.authorizedOperation sql (some transaction.batchId) authorization
  guard.runWrite operation label (guard.dispatch (.execute .transaction sql params control))
    (fun value => value)
    (fun value : ExecResult => some value.rowsAffected) (guard.auditTransactionResult .interactive)

def execute : Guarded σ ExecResult :=
  transaction.executeForm guard "EXECUTE" sql none none

def executeControlled (control : OperationControl) : Guarded σ ExecResult :=
  transaction.executeForm guard "EXECUTE" sql none (some control)

def executeParams (params : List Value) : Guarded σ ExecResult :=
  transaction.executeForm guard "EXECUTE PARAMS" sql (some params) none

def executeParamsControlled (params : List Value) (control : OperationControl) :
    Guarded σ ExecResult :=
  transaction.executeForm guard "EXECUTE PARAMS" sql (some params) (some control)

/-- An error that may hide a commit or rollback is recorded as unknown. -/
def finishFailure (error : DriverError) : AuditTerminalStatus × AuditTransactionOutcome × Bool :=
  if isAmbiguousPostDispatch error then (.unknown, .unknown, true) else (.failed, .failed, false)

def unknownFailure (_ : DriverError) : AuditTerminalStatus × AuditTransactionOutcome × Bool :=
  (.unknown, .unknown, true)

/-- The end of a transaction; its own intent is always required. -/
def runFinish (operation : AuditOperation) (denied : String) (call : DriverCall)
    (finish : call.Result → Unit) (success : AuditTransactionOutcome)
    (failure : DriverError → AuditTerminalStatus × AuditTransactionOutcome × Bool) :
    Guarded σ Unit := do
  ofExcept (auditRefusal (fun error => .policyDenied
    (denied ++ " denied because audit intent could not be persisted: " ++ error.text))
    (← guard.recordIntent operation))
  let result ← pendingWrite do
    let result ← guard.caughtWrite operation.sql (guard.dispatch call)
    let recorded ← guard.recordVerdict operation (resultVerdict success none failure result)
    handleWriteOutcomeFailure recorded
    pure (result.map finish)
  ofExcept result

def commit : Guarded σ Unit := do
  guard.requireGovernedWriteAvailable
  let operation ← guard.commitOperation transaction.batchId
  runFinish guard operation "commit" .commit (fun _ => ()) .committed finishFailure

def rollback : Guarded σ Unit := do
  let operation ← guard.rollbackOperation transaction.batchId
  runFinish guard operation "rollback" (.rollback none) (fun _ => ()) .rolledBack finishFailure

def rollbackControlled (control : OperationControl) : Guarded σ Unit := do
  let operation ← guard.rollbackOperation transaction.batchId
  runFinish guard operation "rollback" (.rollback (some control)) (fun _ => ()) .rolledBack
    unknownFailure

end PolicyTransaction

end Bookie.Guard
