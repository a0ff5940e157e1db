/-
Authorization. The categorical rules decide first and need no row estimate; only
an eligible write is refused under lockdown, estimated with a counting query of
the guard's own, and then decided. A refusal is recorded before it is returned.
-/

import Bookie.Guard.PolicyGuard

namespace Bookie.Guard

open Bookie.Core Policy Async Async.Future

structure Authorization where
  decision : Decision
  analysis : StatementAnalysis
  approvalOutcome : AuditApprovalOutcome
  previewState : AuditPreviewState

/-- Where the guard counts the rows of a write; without one it uses the connection. -/
inductive Counter where
  | session
  | transaction
  deriving DecidableEq, Repr

namespace PolicyGuard

variable {σ : Type} (guard : PolicyGuard)

def requestApproval (request : ApprovalRequest) (control : Option OperationControl) :
    Guarded σ (Except DriverError ApprovalOutcome) := do
  let reply ← askOutside guard.outside fun step => guard.outside.request step request
  emit (.asked request reply)
  match reply, control with
  | .answered outcome, _ => pure (.ok outcome)
  | .cancelled, some _ => pure (.error .cancelled)
  | .timedOut, some _ => pure (.error .timedOut)
  | .panicked, _ => crash
  -- without a control nothing but an answer ends the wait
  | _, _ => abandon

def refuseOperation {α : Type} (operation : AuditOperation) (outcome : AuditOutcome)
    (error : DriverError) : Guarded σ α := do
  let recorded ← guard.recordOutcome operation outcome
  ofExcept (handleNonExecutionAuditFailure recorded)
  fail error

def lostApproval : DriverError → AuditApprovalOutcome
  | .cancelled => .cancelled
  | .timedOut => .timedOut
  | _ => .denied

variable (sql : String) (analysis : StatementAnalysis)

def resolveApproval (decision : Decision) (rule reason : String) (preview : Option String)
    (estimatedRows : Option Nat) (control : Option OperationControl) :
    Guarded σ Authorization := do
  let answer ← guard.requestApproval
    { principal := guard.ctx.principal
      environment := guard.ctx.environment
      connectionId := guard.ctx.connectionId
      connectionName := guard.ctx.connectionName
      sql := sql
      facts := analysis.facts
      rule := rule
      reason := reason
      preview := preview
      estimatedRows := estimatedRows
      cancellation := control.map fun control => control.token } control
  let previewState : AuditPreviewState := match preview with
    | some value => .available value
    | none => .unavailable
  match answer with
  | .error error => do
      let operation ← guard.operation sql none analysis.facts decision (lostApproval error)
        previewState
      guard.refuseOperation operation
        { terminalStatus := controlledErrorTerminalStatus error
          transactionOutcome := .notApplicable
          rowsAffected := none
          errorCategory := some (errorCategory error)
          durationMs := 0 } error
  | .ok .allowOnce =>
    pure
      { decision := .allow (rule ++ ":approved")
        analysis := analysis
        approvalOutcome := .approved
        previewState := previewState }
  | .ok .deny => do
      let operation ← guard.operation sql none analysis.facts decision .denied previewState
      guard.refuseOperation operation deniedOutcome (.policyDenied ("approval denied: " ++ reason))

def resolveAuthorization (decision : Decision) (estimatedRows : Option Nat)
    (control : Option OperationControl) : Guarded σ Authorization :=
  match decision with
  | .allow _ =>
    pure
      { decision := decision
        analysis := analysis
        approvalOutcome := .notRequired
        previewState := .notRequested }
  | .deny _ message => do
      let operation ← guard.operation sql none analysis.facts decision .notRequired .notRequested
      guard.refuseOperation operation deniedOutcome (.policyDenied message)
  | .requireApproval rule reason preview =>
    guard.resolveApproval sql analysis decision rule reason preview estimatedRows control

/-- The rows of a batch whose listed statements must each change one row; `none` if the
rows of another statement are not known. -/
def enforcedBatchRows (expectOne : List Nat) : Option Nat :=
  (analysis.knownStatementRows.zipIdx.mapM fun (rows, index) =>
    if expectOne.contains index then some 1 else rows).map List.sum

def blastRadiusTimeoutMs : Nat := 30000

def countCall (counter : Option Counter) (sql : String) (control : OperationControl) : DriverCall :=
  match counter with
  | some .session => .query .session .count sql (some []) (some control)
  | some .transaction => .query .transaction .count sql none (some control)
  | none => .query .connection .count sql none (some control)

def countQuery (counter : Option Counter) (sql : String) (control : OperationControl) :
    Guarded σ QueryResult :=
  match counter with
  | some .session => guard.dispatch (countCall (some .session) sql control)
  | some .transaction => guard.dispatch (countCall (some .transaction) sql control)
  | none => guard.dispatch (countCall none sql control)

def countNotPersisted (error : AuditError) : DriverError :=
  .policyDenied ("operation denied because blast-radius audit outcome could not be persisted: " ++
    error.text)

def countedRows (result : Except DriverError QueryResult) : Option Nat :=
  match result with
  | .error _ => none
  | .ok value => value.rowCount

variable (control : Option OperationControl)

def estimateBlastRadius (counter : Option Counter) :
    Guarded σ (Option Nat) := do
  match analysis.blastRadius with
  | none => pure none
  | some (.known rows) => pure (some rows)
  | some (.countQuery rewrite) => do
      let operation ← guard.metadataOperation "BLAST RADIUS ESTIMATE" analysis.facts.tables
      ofExcept (auditRefusal intentNotPersisted (← guard.recordIntent operation))
      let control ← guard.controlOr control blastRadiusTimeoutMs
      let result ← guard.caughtRead "BLAST RADIUS COUNT"
        (guard.countQuery counter rewrite.countSql control)
      let rows := result.toOption.map fun value => value.rows.length
      let recorded ← guard.recordVerdict operation
        (resultVerdict .notApplicable rows controlledReadFailure result)
      ofExcept (auditRefusal countNotPersisted recorded)
      pure (countedRows result)

variable (facts : StatementFacts)

def categorical : Option Decision :=
  evaluateCategorical guard.front.printable guard.ctx.principal guard.ctx.environment facts
    guard.ctx.readOnly guard.envPolicy

def joinedDecision : Decision :=
  evaluateWithEffects guard.front.printable guard.ctx.principal guard.ctx.environment facts
    guard.ctx.readOnly guard.envPolicy none

def eligibleDecision (estimatedRows : Option Nat) : Decision :=
  evaluateEligibleWrite guard.front.printable guard.ctx.principal guard.ctx.environment facts
    guard.envPolicy estimatedRows

def needsEstimate : Bool :=
  facts.containsMutatingDml && facts.cls != .administrative && !facts.effects.contains .admin &&
    !facts.effects.contains .unknown && guard.envPolicy.blastRadiusMaxRows.isSome

def estimateRows (enforcedRows : Option Nat) (control : Option OperationControl)
    (counter : Option Counter) : Guarded σ (Option Nat) :=
  if guard.needsEstimate analysis.facts then
    match enforcedRows with
    | some rows => pure (some rows)
    | none => guard.estimateBlastRadius analysis control counter
  else pure none

def authorizeWithBound (enforcedRows : Option Nat) (control : Option OperationControl)
    (counter : Option Counter) : Guarded σ Authorization := do
  if (guard.categorical analysis.facts).isSome then
    guard.resolveAuthorization sql analysis (guard.joinedDecision analysis.facts) none control
  else
    match ← guard.governedWriteRefusal with
    | some decision => guard.resolveAuthorization sql analysis decision none control
    | none => do
        let estimatedRows ← guard.estimateRows analysis enforcedRows control counter
        guard.resolveAuthorization sql analysis
          (guard.eligibleDecision analysis.facts estimatedRows) estimatedRows control

def authorizeAnalysis (enforcedRows : Option Nat) (control : Option OperationControl) :
    Guarded σ Authorization :=
  match sharedConnectionDecision guard.front sql guard.ctx.driverId analysis.facts with
  | some decision => guard.resolveAuthorization sql analysis decision none control
  | none => guard.authorizeWithBound sql analysis enforcedRows control none

def authorize : Guarded σ Authorization :=
  guard.authorizeAnalysis sql (guard.analyzeStatement sql) none control

/-- The refusals of an interactive transaction; MySQL has only those of its own. -/
def transactionDecision : Option Decision :=
  match interactiveTransactionDecision guard.front guard.ctx.driverId sql facts with
  | some decision => some decision
  | none =>
    if guard.ctx.driverId != "mysql" then
      sharedConnectionDecision guard.front sql guard.ctx.driverId facts
    else none

def authorizeInTransaction : Guarded σ Authorization :=
  let analysis := guard.analyzeStatement sql
  match guard.transactionDecision sql analysis.facts with
  | some decision => guard.resolveAuthorization sql analysis decision none control
  | none => guard.authorizeWithBound sql analysis none control (some .transaction)

def authorizeClassified (counter : Option Counter) : Guarded σ Authorization :=
  guard.authorizeWithBound sql analysis none control counter

end PolicyGuard

end Bookie.Guard
