/-
Backups and restores. The work is a future of the caller's own that runs outside
the guarded connection, and `dispatched` is a flag it may set once a restore has
begun to replace data.
-/

import Bookie.Guard.Authorize

namespace Bookie.Guard

open Bookie.Core Policy Async Async.Future PolicyGuard

inductive AdministrativeOperation where
  | backup
  | restore
  deriving DecidableEq, Repr

namespace AdministrativeOperation

def label : AdministrativeOperation → String
  | .backup => "BACKUP DATABASE"
  | .restore => "RESTORE DATABASE"

def rule : AdministrativeOperation → String
  | .backup => "administrative_backup"
  | .restore => "administrative_restore"

def replacesData : AdministrativeOperation → Bool
  | .backup => false
  | .restore => true

end AdministrativeOperation

/-- How the wait for the work ends; the control's two arms are tried first. -/
inductive WorkReply where
  | cancelled
  | timedOut
  | returned (result : Except DriverError Unit)
  | panicked
  | dropped

/-- The caller's dispatch flag, before the work starts and when the wait for it ends. -/
structure DispatchFlag where
  before : Bool
  after : Bool
  deriving DecidableEq, Repr

structure AdministrativeWork where
  operation : AdministrativeOperation
  control : OperationControl
  dispatched : Option DispatchFlag
  reply : WorkReply

def AdministrativeWork.flagged (work : AdministrativeWork) : Bool :=
  work.dispatched.any fun flag => flag.after

def administrativeAnalysis (operation : AdministrativeOperation) : StatementAnalysis :=
  { facts :=
      { cls := .administrative
        effects :=
          if operation.replacesData then
            (Effects.writesRows.union .writesSchema).union .admin
          else Effects.reads.union .admin
        tables := []
        hasWhere := true
        containsUnscopedDml := false
        isMultiStatement := false
        parseError := none }
    rollsBackToSavepoint := false
    blastRadius := none
    sensitivePositions := none
    knownStatementRows := [] }

namespace PolicyGuard

variable {σ : Type} (guard : PolicyGuard) (operation : AdministrativeOperation)

def administrativeDecision : Guarded σ Decision := do
  if guard.ctx.principal.isAgent then
    pure (.deny "agent_administrative_operation" "agents cannot run backups or restores")
  else if !operation.replacesData then pure (.allow operation.rule)
  else if guard.ctx.readOnly then
    pure (.deny "connection_read_only"
      "connection is marked read-only; a restore would replace its data")
  else
    match ← guard.governedWriteRefusal with
    | some refusal => pure refusal
    | none =>
      pure (.requireApproval operation.rule "restoring replaces the data in this database" none)

variable (work : AdministrativeWork)

def awaitWork : Guarded σ (Except DriverError Unit) := do
  let _ ← askOutside guard.outside fun _ => ()
  match work.reply with
  | .cancelled => pure (.error .cancelled)
  | .timedOut => pure (.error .timedOut)
  | .returned result => pure result
  | .panicked => crash
  | .dropped => abandon

def resolveRestoreOutcome (result : Except DriverError Unit) :
    Guarded σ (Except DriverError Unit) := do
  match result with
  | .ok value => pure (.ok value)
  | .error error =>
    if work.operation.replacesData && work.flagged then
      disableGovernedWrites
      match error with
      | .operationOutcomeUnknown _ => pure (.error error)
      | _ => pure (.error (.operationOutcomeUnknown error))
    else pure (.error error)

/-- The scope of the `PendingWrite` of a restore, armed by its dispatch flag. -/
def pendingRestore {α : Type} (work : AdministrativeWork) (flag : DispatchFlag → Bool)
    (run : Guarded σ α) : Guarded σ α :=
  if work.operation.replacesData && work.dispatched.any flag then pendingWrite run else run

def administrativeAudit (authorization : Authorization) :
    Guarded σ AuditOperation := do
  let operationId ← guard.newUuid
  pure
    { operationId := operationId
      batchId := none
      sql := operation.label
      cls := .administrative
      targets := []
      decisionRule := authorization.decision.ruleName
      approvalOutcome := authorization.approvalOutcome
      previewState := authorization.previewState }

def runAuthorizedAdministrative (authorization : Authorization) :
    Guarded σ Unit := do
  let audit ← guard.administrativeAudit work.operation authorization
  pendingRestore work (fun flag => flag.before) do
    ofExcept (auditRefusal intentNotPersisted (← guard.recordIntent audit))
  let result ← pendingRestore work (fun flag => flag.after) do
    let result ← guard.awaitWork work
    let result ← resolveRestoreOutcome work result
    let recorded ← guard.recordVerdict audit
      (resultVerdict .notApplicable none controlledReadFailure result)
    handleWriteOutcomeFailure recorded
    pure result
  ofExcept result

def runAdministrativeInner : Guarded σ Unit := do
  guard.checkPreDispatch work.control
  let decision ← guard.administrativeDecision work.operation
  let authorization ← guard.resolveAuthorization work.operation.label
    (administrativeAnalysis work.operation) decision none (some work.control)
  guard.runAuthorizedAdministrative work authorization

end PolicyGuard

end Bookie.Guard
