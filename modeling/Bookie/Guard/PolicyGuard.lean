/-
The policy guard's own operations: audit records, lockdown, the panic boundary around
driver calls, and terminal records. A future dropped or panicking between an intent
and its outcome leaves the scope of a `PendingWrite`, which locks governed writes.
-/

import Bookie.Guard.World

namespace Bookie.Guard

open Bookie.Core Policy Async Async.Future Text

structure GuardContext where
  connectionId : Uuid
  connectionName : String
  driverId : String
  environment : Environment
  readOnly : Bool
  principal : Principal
  policy : PolicyConfig

/-- The guard; `fault` says whether a fault sink is attached. -/
structure PolicyGuard where
  ctx : GuardContext
  front : SqlFrontEnd
  outside : Outside
  fault : Bool
  maskPatterns : Option (List String)

structure AuditOperation where
  operationId : Uuid
  batchId : Option Uuid
  sql : String
  cls : AuditOperationClass
  targets : List String
  decisionRule : String
  approvalOutcome : AuditApprovalOutcome
  previewState : AuditPreviewState

structure AuditOutcome where
  terminalStatus : AuditTerminalStatus
  transactionOutcome : AuditTransactionOutcome
  rowsAffected : Option Nat
  errorCategory : Option AuditErrorCategory
  durationMs : Nat

/-! ### Errors and what they say about an operation -/

def sanitizedErrorDetail : AuditErrorCategory → String
  | .policy => "policy_denied"
  | .audit => "audit_error"
  | .connection => "connection_error"
  | .authentication => "authentication_error"
  | .tls => "tls_error"
  | .query => "query_error"
  | .readOnly => "read_only"
  | .unsupported => "unsupported"
  | .internal => "internal_error"
  | .transaction => "transaction_error"
  | .cancelled => "cancelled"
  | .timeout => "timeout"
  | .unknown => "unknown_error"

def controlledErrorTerminalStatus : DriverError → AuditTerminalStatus
  | .cancelled => .cancelled
  | .timedOut => .timedOut
  | .operationOutcomeUnknown _ => .unknown
  | _ => .failed

/-- Whether a failed call may nevertheless have taken effect. -/
def isAmbiguousPostDispatch : DriverError → Bool
  | .connectionRefused | .disconnected | .authFailed | .integratedAuth _ | .tls _ | .internal _
  | .operationOutcomeUnknown _ => true
  | .transaction _ source | .partiallyApplied _ source => isAmbiguousPostDispatch source
  | .transactionRollbackFailed _ _ _ => true
  | .query _ _ _ | .concurrentModification | .readOnly | .policyDenied _ | .unsupported _
  | .cancelled | .timedOut => false

def writeErrorOutcome (error : DriverError) : AuditTerminalStatus × Bool :=
  match error with
  | .cancelled => (.cancelled, false)
  | .timedOut => (.timedOut, false)
  | .operationOutcomeUnknown _ => (.unknown, true)
  | _ => if isAmbiguousPostDispatch error then (.unknown, true) else (.failed, false)

def transactionErrorOutcome (error : DriverError) :
    AuditTerminalStatus × AuditTransactionOutcome × Bool :=
  match error with
  | .cancelled => (.cancelled, .pending, false)
  | .timedOut => (.timedOut, .pending, false)
  | .transaction _ source =>
    if isAmbiguousPostDispatch source then (.unknown, .unknown, true)
    else (.failed, .rolledBack, false)
  | .partiallyApplied _ source =>
    if isAmbiguousPostDispatch source then (.unknown, .unknown, true)
    else (.failed, .failed, false)
  | _ => (.unknown, .unknown, true)

def interactiveTransactionErrorOutcome (error : DriverError) :
    AuditTerminalStatus × AuditTransactionOutcome × Bool :=
  match error with
  | .query _ _ _ | .readOnly => (.failed, .failed, false)
  | _ => transactionErrorOutcome error

def errorCategory : DriverError → AuditErrorCategory
  | .connectionRefused | .disconnected => .connection
  | .authFailed | .integratedAuth _ => .authentication
  | .tls _ => .tls
  | .query _ _ _ => .query
  | .concurrentModification => .transaction
  | .readOnly => .readOnly
  | .policyDenied _ => .policy
  | .unsupported _ => .unsupported
  | .internal _ => .internal
  | .cancelled => .cancelled
  | .timedOut => .timeout
  | .operationOutcomeUnknown _ => .unknown
  | .transaction _ _ | .partiallyApplied _ _ => .transaction
  | .transactionRollbackFailed _ _ _ => .unknown

def Outside.hexDigest (outside : Outside) (text : String) : String :=
  String.ofList ((hexEncode (outside.sha256 text.toUTF8.toList)).map fun byte =>
    Char.ofNat byte.toNat)

def sanitizedPrincipal (outside : Outside) : Principal → Principal
  | .human session => .human session
  | .agent token client model =>
    .agent ("sha256:" ++ String.ofList ((outside.hexDigest token).toList.take 16)) client model

namespace PolicyGuard

variable {σ : Type} (guard : PolicyGuard)

/-- `PolicyGuard::new`: only agents get masked results. -/
def new (ctx : GuardContext) (front : SqlFrontEnd) (outside : Outside) (fault : Bool) :
    PolicyGuard :=
  let masksResults := ctx.principal.isAgent &&
    (ctx.policy.forConnection ctx.connectionId.toText ctx.environment).maskAgentResults
  { ctx := ctx
    front := front
    outside := outside
    fault := fault
    maskPatterns := if masksResults then some ctx.policy.effectiveMaskPatterns else none }

def envPolicy : EnvPolicy :=
  guard.ctx.policy.forConnection guard.ctx.connectionId.toText guard.ctx.environment

def analyzeStatement (sql : String) : StatementAnalysis :=
  guard.front.analyzeStatement sql guard.ctx.driverId guard.maskPatterns

def facts (sql : String) : StatementFacts := guard.front.classify sql guard.ctx.driverId

def newUuid : Guarded σ Uuid := askOutside guard.outside guard.outside.newUuid

def elapsed : Guarded σ Nat := askOutside guard.outside guard.outside.elapsedMs

def controlWithTimeout (timeoutMs : Nat) : Guarded σ OperationControl :=
  askOutside guard.outside fun step =>
    { token := step, deadline := some (guard.outside.instant step + timeoutMs) }

def controlOr (control : Option OperationControl) (timeoutMs : Nat) : Guarded σ OperationControl :=
  match control with
  | some control => pure control
  | none => guard.controlWithTimeout timeoutMs

def checkPreDispatch (control : OperationControl) : Guarded σ Unit := do
  let cancelled ← askOutside guard.outside fun step => guard.outside.isCancelled step control
  if cancelled then fail .cancelled
  else
    let now ← askOutside guard.outside guard.outside.instant
    match control.deadline with
    | some deadline => if deadline ≤ now then fail .timedOut else pure ()
    | none => pure ()

def disableGovernedWrites : Guarded σ Unit :=
  modify fun world => { world with audit := world.audit.disableGovernedWrites }

def disableGlobally : Guarded σ Unit :=
  modify fun world => { world with audit := world.audit.disableGlobally }

def pendingWrite {α : Type} (run : Guarded σ α) : Guarded σ α :=
  run.releasing fun world => { world with audit := world.audit.disableGovernedWrites }

def governedWritesDisabled : Guarded σ Bool := do
  let _ ← askOutside guard.outside fun _ => ()
  let world ← get
  pure world.audit.governedWritesDisabled

def lockdownMessage : String :=
  "governed writes are disabled because a prior audit outcome could not be persisted"

def requireGovernedWriteAvailable : Guarded σ Unit := do
  let disabled ← guard.governedWritesDisabled
  when disabled (fail (.policyDenied lockdownMessage))

def governedWriteRefusal : Guarded σ (Option Decision) := do
  let disabled ← guard.governedWritesDisabled
  pure (if disabled then some (.deny "governed_write_lockdown" lockdownMessage) else none)

def auditEvent (operation : AuditOperation) (phase : AuditRecordPhase)
    (outcome : AuditOutcome) (durationMs : Option Nat) (timestamp : Timestamp) : AuditEvent :=
  { timestamp := timestamp
    operationId := operation.operationId
    batchId := operation.batchId
    phase := phase
    principal := sanitizedPrincipal guard.outside guard.ctx.principal
    connectionId := guard.ctx.connectionId
    connectionName := guard.ctx.connectionName
    environment := guard.ctx.environment
    driverId := guard.ctx.driverId
    operationClass := operation.cls
    redactedSql := "[REDACTED]"
    sqlHash := guard.outside.hexDigest operation.sql
    targets := operation.targets
    decisionRule := operation.decisionRule
    approvalOutcome := operation.approvalOutcome
    previewState := operation.previewState
    terminalStatus := outcome.terminalStatus
    transactionOutcome := outcome.transactionOutcome
    errorCategory := outcome.errorCategory
    error := outcome.errorCategory.map sanitizedErrorDetail
    rowsAffected := outcome.rowsAffected
    durationMs := durationMs
    transportAttempt := none
    administrativeAction := none }

def record (operation : AuditOperation) (phase : AuditRecordPhase) (outcome : AuditOutcome)
    (durationMs : Option Nat) : Guarded σ (Except AuditError Unit) := do
  let timestamp ← askOutside guard.outside guard.outside.now
  let event := guard.auditEvent operation phase outcome durationMs timestamp
  let reply ← askOutside guard.outside fun step => guard.outside.record step event
  emit (.recorded event reply)
  match reply with
  | .accepted => pure (.ok ())
  | .refused error => pure (.error error)
  | .panicked => crash
  | .dropped => abandon

def recordOutcome (operation : AuditOperation) (outcome : AuditOutcome) :
    Guarded σ (Except AuditError Unit) :=
  guard.record operation .outcome outcome (some outcome.durationMs)

def deniedOutcome : AuditOutcome :=
  { terminalStatus := .denied
    transactionOutcome := .notApplicable
    rowsAffected := none
    errorCategory := some .policy
    durationMs := 0 }

def pendingOutcome (cls : AuditOperationClass) : AuditOutcome :=
  { terminalStatus := .pending
    transactionOutcome :=
      if cls = .transactionCommit ∨ cls = .transactionRollback then .pending else .notApplicable
    rowsAffected := none
    errorCategory := none
    durationMs := 0 }

def recordIntent (operation : AuditOperation) : Guarded σ (Except AuditError Unit) := do
  let result ← guard.record operation .intent (pendingOutcome operation.cls) none
  when (result == .error .unresolvedWrite) disableGovernedWrites
  when (result == .error .unresolvedWrite || result == .error .writeInFlight) do
    let recorded ← guard.recordOutcome operation deniedOutcome
    when (!recorded.isOk) disableGlobally
  pure result

def operation (sql : String) (batchId : Option Uuid) (facts : StatementFacts)
    (decision : Decision) (approvalOutcome : AuditApprovalOutcome)
    (previewState : AuditPreviewState) : Guarded σ AuditOperation := do
  let operationId ← guard.newUuid
  pure
    { operationId := operationId
      batchId := batchId
      sql := sql
      cls := .fromStatement facts.cls facts.writes
      targets := facts.tables
      decisionRule := decision.ruleName
      approvalOutcome := approvalOutcome
      previewState := previewState }

def metadataOperation (name : String) (targets : List String) : Guarded σ AuditOperation := do
  let operationId ← guard.newUuid
  pure
    { operationId := operationId
      batchId := none
      sql := name
      cls := .read
      targets := targets
      decisionRule := "metadata_read"
      approvalOutcome := .notRequired
      previewState := .notRequested }

def finishOperation (sql rule : String) (cls : AuditOperationClass) (batchId : Uuid) :
    Guarded σ AuditOperation := do
  let operationId ← guard.newUuid
  pure
    { operationId := operationId
      batchId := some batchId
      sql := sql
      cls := cls
      targets := []
      decisionRule := rule
      approvalOutcome := .notRequired
      previewState := .notRequested }

def commitOperation (batchId : Uuid) : Guarded σ AuditOperation :=
  guard.finishOperation "COMMIT" "transaction_commit" .transactionCommit batchId

def rollbackOperation (batchId : Uuid) : Guarded σ AuditOperation :=
  guard.finishOperation "ROLLBACK" "transaction_rollback" .transactionRollback batchId

def auditRefusal {α : Type} (complaint : AuditError → DriverError) (result : Except AuditError α) :
    Except DriverError α :=
  match result with
  | .ok value => .ok value
  | .error error => .error (complaint error)

def isLocalHuman : Bool :=
  !guard.ctx.principal.isAgent && (guard.ctx.environment == .local || guard.ctx.environment == .dev)

def intentNotPersisted (error : AuditError) : DriverError :=
  .policyDenied ("operation denied because audit intent could not be persisted: " ++ error.text)

def prepareGovernedRead (operation : AuditOperation) : Guarded σ Unit := do
  if guard.isLocalHuman then pure ()
  else ofExcept (auditRefusal intentNotPersisted (← guard.recordIntent operation))

def allowsUnauditedLocalWrite : Bool :=
  guard.isLocalHuman && guard.envPolicy.humanAllowUnauditedWrites

def intentIsRequired : Bool := !guard.allowsUnauditedLocalWrite

def handleIntentFailure (result : Except AuditError Unit) : Except DriverError Unit :=
  match result with
  | .ok _ => .ok ()
  | .error .unresolvedWrite =>
    .error (.policyDenied
      ("operation denied because an unresolved write outcome blocks this connection: " ++
        AuditError.unresolvedWrite.text))
  | .error .writeInFlight =>
    .error (.policyDenied
      ("operation denied because another write is still in flight for this connection: " ++
        AuditError.writeInFlight.text))
  | .error error =>
    if guard.intentIsRequired then .error (intentNotPersisted error) else .ok ()

def handleNonExecutionAuditFailure (result : Except AuditError Unit) : Except DriverError Unit :=
  auditRefusal (fun error =>
    .policyDenied ("operation denied because audit recording failed: " ++ error.text)) result

def handleReadAuditFailure (result : Except AuditError Unit) : Except DriverError Unit :=
  match result with
  | .ok _ => .ok ()
  | .error error =>
    if guard.ctx.principal.isAgent then
      .error (.internal ("audit recording failed after read execution: " ++ error.text))
    else .ok ()

def handleWriteOutcomeFailure (result : Except AuditError Unit) : Guarded σ Unit := do
  match result with
  | .ok _ => pure ()
  | .error error => do
      disableGlobally
      fail (.internal ("audit outcome could not be persisted; the operation may have succeeded " ++
        "and further governed writes are disabled: " ++ error.text))

def shouldMask : Bool := guard.maskPatterns.isSome

def maskResultForAnalysis (analysis : Option StatementAnalysis) (result : QueryResult) :
    QueryResult :=
  match guard.maskPatterns with
  | none => result
  | some patterns =>
    guard.front.mask patterns result <| analysis.map fun analysis =>
      (analysis.sensitivePositions.filter fun positions =>
        positions.length == result.columns.length).getD (List.replicate result.columns.length true)

def maskResult (result : QueryResult) : QueryResult := guard.maskResultForAnalysis none result

def maskResultBatchForAnalysis (analysis : StatementAnalysis) (batch : QueryResultBatch) :
    QueryResultBatch :=
  if guard.shouldMask then
    { batch with resultSets := batch.resultSets.map (guard.maskResultForAnalysis (some analysis)) }
  else batch

def dispatch (call : DriverCall) : Guarded σ call.Result := do
  let reply ← askOutside guard.outside fun step => guard.outside.call step call
  emit (.dispatched call (call.summary reply))
  match reply with
  | .returned value => pure value
  | .failed error _ => fail error
  | .panicked _ => crash
  | .dropped _ => abandon

def report (operation : String) : Guarded σ String := do
  when guard.fault (emit (.faulted operation))
  pure ("the driver stopped unexpectedly during " ++ operation)

def reportIfDisconnected (operation : String) (error : DriverError) : Guarded σ Unit :=
  when (error == .disconnected && guard.fault) (emit (.faulted operation))

def withheldDetails : DriverError → DriverError
  | .query _ sqlstate position =>
    .query "query failed; details withheld for masked agent" sqlstate position
  | .transaction index source => .transaction index (withheldDetails source)
  | .partiallyApplied index source => .partiallyApplied index (withheldDetails source)
  | .transactionRollbackFailed index source rollbackError =>
    .transactionRollbackFailed index (withheldDetails source) (withheldDetails rollbackError)
  | .operationOutcomeUnknown source => .operationOutcomeUnknown (withheldDetails source)
  | error => error

def sanitizeAgentError (error : DriverError) : DriverError :=
  if guard.shouldMask then withheldDetails error else error

/-- A caught driver call; `stopped` turns the report of a panic into an error. -/
def caught {α : Type} (stopped : String → DriverError) (operation : String)
    (execute : Guarded σ α) :
    Guarded σ (Except DriverError α) := do
  match ← execute.attempt.catchUnwind with
  | none => do
      let message ← guard.report operation
      pure (.error (stopped message))
  | some (.ok value) => pure (.ok value)
  | some (.error error) => do
      guard.reportIfDisconnected operation error
      pure (.error (guard.sanitizeAgentError error))

def caughtRead {α : Type} (operation : String) (execute : Guarded σ α) :
    Guarded σ (Except DriverError α) :=
  guard.caught .internal operation execute

def caughtWrite {α : Type} (operation : String) (execute : Guarded σ α) :
    Guarded σ (Except DriverError α) :=
  guard.caught (fun message => .operationOutcomeUnknown (.internal message)) operation execute

/-- What an operation came to, and whether that locks governed writes before it is
recorded. -/
structure Verdict where
  terminalStatus : AuditTerminalStatus
  transactionOutcome : AuditTransactionOutcome
  rowsAffected : Option Nat
  errorCategory : Option AuditErrorCategory
  locks : Bool
  deriving DecidableEq, Repr

def recordVerdict (operation : AuditOperation) (verdict : Verdict) :
    Guarded σ (Except AuditError Unit) := do
  when verdict.locks disableGovernedWrites
  let elapsed ← guard.elapsed
  guard.recordOutcome operation
    { terminalStatus := verdict.terminalStatus
      transactionOutcome := verdict.transactionOutcome
      rowsAffected := verdict.rowsAffected
      errorCategory := verdict.errorCategory
      durationMs := elapsed }

/-- The verdict on a result; `failure` gives the status of an error and whether it locks. -/
def resultVerdict {α : Type} (success : AuditTransactionOutcome) (rows : Option Nat)
    (failure : DriverError → AuditTerminalStatus × AuditTransactionOutcome × Bool)
    (result : Except DriverError α) : Verdict :=
  match result with
  | .ok _ =>
    { terminalStatus := .succeeded
      transactionOutcome := success
      rowsAffected := rows
      errorCategory := none
      locks := false }
  | .error error =>
    { terminalStatus := (failure error).1
      transactionOutcome := (failure error).2.1
      rowsAffected := none
      errorCategory := some (errorCategory error)
      locks := (failure error).2.2 }

def readFailure (_ : DriverError) : AuditTerminalStatus × AuditTransactionOutcome × Bool :=
  (.failed, .notApplicable, false)

def controlledReadFailure (error : DriverError) :
    AuditTerminalStatus × AuditTransactionOutcome × Bool :=
  (controlledErrorTerminalStatus error, .notApplicable, false)

def writeFailure (error : DriverError) : AuditTerminalStatus × AuditTransactionOutcome × Bool :=
  ((writeErrorOutcome error).1, .notApplicable, (writeErrorOutcome error).2)

def auditReadResult {α : Type} (operation : AuditOperation) (result : Except DriverError α)
    (rows : Option Nat) : Guarded σ Unit := do
  let recorded ← guard.recordVerdict operation
    (resultVerdict .notApplicable rows readFailure result)
  ofExcept (guard.handleReadAuditFailure recorded)

def auditControlledReadResult {α : Type} (operation : AuditOperation)
    (result : Except DriverError α) (rows : Option Nat) : Guarded σ Unit := do
  let recorded ← guard.recordVerdict operation
    (resultVerdict .notApplicable rows controlledReadFailure result)
  ofExcept (guard.handleReadAuditFailure recorded)

inductive TransactionAuditMode where
  | atomicBatch
  | interactive
  deriving DecidableEq, Repr

def TransactionAuditMode.errorOutcome :
    TransactionAuditMode → DriverError → AuditTerminalStatus × AuditTransactionOutcome × Bool
  | .atomicBatch => transactionErrorOutcome
  | .interactive => interactiveTransactionErrorOutcome

def auditTransactionResult {α : Type} (mode : TransactionAuditMode) (operation : AuditOperation)
    (result : Except DriverError α) (rows : Option Nat) : Guarded σ Unit := do
  let recorded ← guard.recordVerdict operation
    (resultVerdict .notApplicable rows mode.errorOutcome result)
  if !result.isOk || operation.cls.isWrite then handleWriteOutcomeFailure recorded
  else ofExcept (guard.handleReadAuditFailure recorded)

def auditWriteResult {α : Type} (operation : AuditOperation) (result : Except DriverError α)
    (rows : Option Nat) : Guarded σ Unit := do
  let recorded ← guard.recordVerdict operation
    (resultVerdict .notApplicable rows writeFailure result)
  handleWriteOutcomeFailure recorded

end PolicyGuard

end Bookie.Guard
