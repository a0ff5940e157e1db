/-
Bulk imports: one approval for one INSERT shape, table and row budget, spent batch
by batch. The scope is what the caller owns; dropping it while it is open locks
governed writes.
-/

import Bookie.Guard.Connection

namespace Bookie.Guard

open Bookie.Core Policy Text Async Async.Future PolicyGuard

def maxBulkRowBudget : Nat := 1000000

def maxImportColumns : Nat := 512

structure BulkInsertRequest where
  schema : Option String
  table : String
  statement : String
  rowBudget : Nat
  sequenceColumns : List String
  deriving DecidableEq, Repr

structure BulkBatch where
  schema : Option String
  table : String
  statement : String
  rows : List (List Value)
  deriving DecidableEq, Repr

inductive BulkInsertEnd where
  | completed
  | cancelled
  | failed (error : DriverError)
  deriving DecidableEq, Repr

structure BulkInsertScope where
  connectionId : Uuid
  operationId : Uuid
  batchId : Uuid
  schema : Option String
  table : String
  statement : String
  target : String
  cls : AuditOperationClass
  decisionRule : String
  approvalOutcome : AuditApprovalOutcome
  previewState : AuditPreviewState
  rowBudget : Nat
  sequenceColumns : List String
  committed : Nat
  isOpen : Bool
  deriving DecidableEq, Repr

structure GrantedBulkDecision where
  decisionRule : String
  approvalOutcome : AuditApprovalOutcome
  previewState : AuditPreviewState

abbrev InImport (α : Type) := Guarded BulkInsertScope α

def denied (message : String) : DriverError := .policyDenied message

def qualifiedTarget (schema : Option String) (table : String) : String :=
  match schema with
  | none => table
  | some schema => schema ++ "." ++ table

namespace BulkInsertScope

def remainingRows (scope : BulkInsertScope) : Nat := scope.rowBudget - scope.committed

def operation (scope : BulkInsertScope) : AuditOperation :=
  { operationId := scope.operationId
    batchId := some scope.batchId
    sql := scope.statement
    cls := scope.cls
    targets := [scope.target]
    decisionRule := scope.decisionRule
    approvalOutcome := scope.approvalOutcome
    previewState := scope.previewState }

def verdict (scope : BulkInsertScope) (connectionId : Uuid) (batch : BulkBatch) :
    Except DriverError Unit :=
  if !scope.isOpen then
    .error (denied "the import approval has already been spent or ended")
  else if connectionId ≠ scope.connectionId then
    .error (denied "the import approval was granted for another connection")
  else if batch.table ≠ scope.table ∨ batch.schema ≠ scope.schema then
    .error (denied "the import approval was granted for another table")
  else if batch.statement ≠ scope.statement then
    .error (denied "the import approval was granted for another statement")
  else if scope.remainingRows < batch.rows.length then
    .error (denied "the import would write more rows than were approved")
  else .ok ()

end BulkInsertScope

def closeScope : InImport Unit := modifyOwn fun scope => { scope with isOpen := false }

/-- Fails with the error of a refused batch, which also spends the scope. -/
def closingScope {α : Type} (result : Except DriverError α) : InImport α := do
  when (!result.isOk) closeScope
  ofExcept result

def dropScope : InImport Unit := do
  let scope ← own
  when scope.isOpen disableGovernedWrites

def partialTransactionOutcome (committed : Nat) : AuditTransactionOutcome :=
  if committed = 0 then .rolledBack else .committed

def bulkTerminal (finished : BulkInsertEnd) (committed : Nat) :
    AuditTerminalStatus × AuditTransactionOutcome × Option AuditErrorCategory :=
  match finished with
  | .completed => (.succeeded, .committed, none)
  | .cancelled => (.cancelled, partialTransactionOutcome committed, some .cancelled)
  | .failed error =>
    if isAmbiguousPostDispatch error then (.unknown, .unknown, some (errorCategory error))
    else
      match error with
      | .partiallyApplied _ _ =>
        (controlledErrorTerminalStatus error, .failed, some (errorCategory error))
      | _ =>
        (controlledErrorTerminalStatus error, partialTransactionOutcome committed,
          some (errorCategory error))

namespace PolicyGuard

variable {σ : Type} (guard : PolicyGuard)

def validSequenceColumns (columns : List String) : Bool :=
  columns.length ≤ maxImportColumns &&
    (columns.isEmpty || guard.ctx.driverId.map Char.toLower == "postgres") &&
    columns.all guard.front.validIdentifier && decide columns.Nodup

def approvalPreview (target : String) (rows : Nat) (statement : String) : String :=
  s!"Import {rows} rows into {target}\n\n" ++
    s!"Every row runs this statement with its own bound values:\n{statement}"

variable (request : BulkInsertRequest)

def bulkFacts : Except DriverError StatementFacts :=
  if (trim request.table).isEmpty then .error (denied "an import needs a target table")
  else if request.rowBudget = 0 ∨ maxBulkRowBudget < request.rowBudget then
    .error (denied "an import must name between one row and the import row limit")
  else
    let facts := guard.front.classify request.statement guard.ctx.driverId
    if facts.isMultiStatement || facts.cls != .insert || !facts.writes then
      .error (denied "an import approval covers one INSERT statement and nothing else")
    else .ok facts

/-- The parser gives the name of the table a single INSERT writes to, unquoted parts in
lower case for PostgreSQL. -/
def statementTargetMatchesRequest : Bool :=
  guard.front.statementTarget request.statement guard.ctx.driverId ==
    some (request.schema.toList ++ [request.table])

def recordBulkRefusal (facts : StatementFacts) (rule : String)
    (approvalOutcome : AuditApprovalOutcome) (preview : Option String) : Guarded σ Unit := do
  let operationId ← guard.newUuid
  let recorded ← guard.recordOutcome
    { operationId := operationId
      batchId := none
      sql := request.statement
      cls := .fromStatement facts.cls facts.writes
      targets := facts.tables
      decisionRule := rule
      approvalOutcome := approvalOutcome
      previewState := preview.elim .notRequested .available } deniedOutcome
  ofExcept (handleNonExecutionAuditFailure recorded)

def bulkPreview : String :=
  approvalPreview (qualifiedTarget request.schema request.table) request.rowBudget request.statement

def bulkApproval (facts : StatementFacts) (rule : String) : ApprovalRequest :=
  let target := qualifiedTarget request.schema request.table
  let budget := request.rowBudget
  { principal := guard.ctx.principal
    environment := guard.ctx.environment
    connectionId := guard.ctx.connectionId
    connectionName := guard.ctx.connectionName
    sql := request.statement
    facts := facts
    rule := rule
    reason := s!"import {budget} rows into {target}"
    preview := some (bulkPreview request)
    estimatedRows := some request.rowBudget
    cancellation := none }

def settleBulkDecision (facts : StatementFacts) (decision : Decision) :
    Guarded σ GrantedBulkDecision := do
  match decision with
  | .allow rule =>
    pure
      { decisionRule := rule
        approvalOutcome := .notRequired
        previewState := .notRequested }
  | .deny rule message => do
      guard.recordBulkRefusal request facts rule .notRequired none
      fail (denied message)
  | .requireApproval rule _ _ => do
      let answer ← guard.requestApproval (guard.bulkApproval request facts rule) none
      match ← ofExcept answer with
      | .deny => do
          guard.recordBulkRefusal request facts rule .denied (some (bulkPreview request))
          fail (denied "the import was not approved")
      | .allowOnce =>
        pure
          { decisionRule := rule ++ ":approved"
            approvalOutcome := .approved
            previewState := .available (bulkPreview request) }

def bulkScope (facts : StatementFacts) (granted : GrantedBulkDecision)
    (operationId batchId : Uuid) :
    BulkInsertScope :=
  { connectionId := guard.ctx.connectionId
    operationId := operationId
    batchId := batchId
    schema := request.schema
    table := request.table
    statement := request.statement
    target := qualifiedTarget request.schema request.table
    cls := .fromStatement facts.cls facts.writes
    decisionRule := granted.decisionRule
    approvalOutcome := granted.approvalOutcome
    previewState := granted.previewState
    rowBudget := request.rowBudget
    sequenceColumns := request.sequenceColumns
    committed := 0
    isOpen := true }

def newScope (facts : StatementFacts) (granted : GrantedBulkDecision) :
    Guarded σ BulkInsertScope := do
  let operationId ← guard.newUuid
  let batchId ← guard.newUuid
  pure (guard.bulkScope request facts granted operationId batchId)

def bulkDecision (facts : StatementFacts) : Decision :=
  evaluateWithEffects guard.front.printable guard.ctx.principal guard.ctx.environment facts
    guard.ctx.readOnly guard.envPolicy (some request.rowBudget)

def beginBulkInsert : Guarded σ BulkInsertScope := do
  guard.requireGovernedWriteAvailable
  let facts ← ofExcept (guard.bulkFacts request)
  if !guard.validSequenceColumns request.sequenceColumns then
    guard.recordBulkRefusal request facts "invalid_import_sequence_columns" .notRequired none
    fail (denied "the import sequence columns are invalid")
  else if !guard.statementTargetMatchesRequest request then
    guard.recordBulkRefusal request facts "bulk_target_mismatch" .notRequired none
    fail (denied "the INSERT target does not match the approved import target")
  else
    let granted ← guard.settleBulkDecision request facts (guard.bulkDecision request facts)
    let scope ← guard.newScope request facts granted
    -- the new scope is dropped open when the intent is refused
    pendingWrite do
      ofExcept (guard.handleIntentFailure (← guard.recordIntent scope.operation))
      pure scope

def sequenceSyncTimeoutMs : Nat := 5000

def executeBulkBatch (batch : BulkBatch) (control : OperationControl) : InImport Nat := do
  let scope ← own
  closingScope (scope.verdict guard.ctx.connectionId batch)
  closingScope (← (do
    guard.requireGovernedWriteAvailable
    guard.checkPreDispatch control : InImport Unit).attempt)
  if batch.rows.isEmpty then pure 0
  else
    let statements := batch.rows.map fun row => (scope.statement, row)
    let result ← guard.caughtWrite "BULK INSERT BATCH"
      (guard.dispatch (.executeInTransaction statements none (some control)))
    let _ ← closingScope result
    let rows := statements.length
    modifyOwn fun scope => { scope with committed := scope.committed + rows }
    if scope.sequenceColumns.isEmpty then pure rows
    else
      let control ← guard.controlWithTimeout sequenceSyncTimeoutMs
      let synced ← guard.caughtWrite "IMPORT SEQUENCE SYNC"
        (guard.dispatch (.synchronizeSequences scope.schema scope.table scope.sequenceColumns
          control))
      let _ ← ofExcept synced
      pure rows

def finishBulkInsert (finished : BulkInsertEnd) : InImport Nat := do
  closeScope
  let scope ← own
  let (terminalStatus, transactionOutcome, category) := bulkTerminal finished scope.committed
  let recorded ← guard.recordVerdict scope.operation
    { terminalStatus := terminalStatus
      transactionOutcome := transactionOutcome
      rowsAffected := some scope.committed
      errorCategory := category
      locks := terminalStatus == .unknown }
  handleWriteOutcomeFailure recorded
  pure scope.committed

end PolicyGuard

end Bookie.Guard
