/-
What the guard meets at run time. The driver, the approver, the audit sink, the clock
and other tasks answer in any way they like: an `Outside` answers the n-th question.
What the guard did is a list of events; the lockdown flags are shared state.
-/

import Bookie.Async.Future
import Bookie.Policy.Rules

namespace Bookie.Guard

open Bookie.Core Policy Async

structure AuditState where
  globallyDisabled : Bool
  connectionUncertain : Bool
  deriving DecidableEq, Repr

namespace AuditState

def new : AuditState :=
  { globallyDisabled := false, connectionUncertain := false }

def governedWritesDisabled (state : AuditState) : Bool :=
  state.globallyDisabled || state.connectionUncertain

def disableGovernedWrites (state : AuditState) : AuditState :=
  { state with connectionUncertain := true }

def disableGlobally (state : AuditState) : AuditState :=
  { state with globallyDisabled := true }

/-- The flags after another task has set some of them; nothing clears a flag. -/
def join (state other : AuditState) : AuditState :=
  { globallyDisabled := state.globallyDisabled || other.globallyDisabled
    connectionUncertain := state.connectionUncertain || other.connectionUncertain }

end AuditState

structure ApprovalRequest where
  principal : Principal
  environment : Environment
  connectionId : Uuid
  connectionName : String
  sql : String
  facts : StatementFacts
  rule : String
  reason : String
  preview : Option String
  estimatedRows : Option Nat
  cancellation : Option Nat
  deriving DecidableEq, Repr

inductive ApprovalOutcome where
  | allowOnce
  | deny
  deriving DecidableEq, Repr

/-- How waiting for an approver ends; `cancelled` and `timedOut` are the two other
arms of the wait. -/
inductive ApproverReply where
  | answered (outcome : ApprovalOutcome)
  | cancelled
  | timedOut
  | panicked
  | dropped
  deriving DecidableEq, Repr

inductive SinkReply where
  | accepted
  | refused (error : AuditError)
  | panicked
  | dropped
  deriving DecidableEq, Repr

inductive Handle where
  | connection
  | transaction
  | session
  deriving DecidableEq, Repr

/-- Which part of the guard makes a query: a caller's statement, the guard's own row
count, or a session's transaction control. -/
inductive Purpose where
  | statement
  | count
  | begin
  | finish
  deriving DecidableEq, Repr

inductive DriverCall where
  | query (handle : Handle) (purpose : Purpose) (sql : String) (params : Option (List Value))
      (control : Option OperationControl)
  | queryResultSets (handle : Handle) (sql : String) (params : List Value)
      (control : OperationControl)
  | execute (handle : Handle) (sql : String) (params : Option (List Value))
      (control : Option OperationControl)
  | executeInTransaction (statements : List (String × List Value)) (expectOne : Option (List Nat))
      (control : Option OperationControl)
  | synchronizeSequences (schema : Option String) (table : String) (columns : List String)
      (control : OperationControl)
  | begin (control : Option OperationControl)
  | commit
  | rollback (control : Option OperationControl)
  | openSession
  | openQueryCursor (sql : String) (params : List Value) (control : OperationControl)
  | fetchQueryCursorPage (cursorId : QueryCursorId) (control : OperationControl)
  | closeQueryCursor (cursorId : QueryCursorId) (control : OperationControl)
  | fetchCompletionColumns (schema : Option String) (table : String) (control : OperationControl)
  | lexicalSettings (handle : Handle) (control : OperationControl)
  | closeSession
  | metadata (read : MetadataRead) (control : Option OperationControl)
  | ping
  deriving DecidableEq, Repr

def DriverCall.Result : DriverCall → Type
  | .query _ _ _ _ _ => QueryResult
  | .queryResultSets _ _ _ _ => QueryResultBatch
  | .execute _ _ _ _ => ExecResult
  | .executeInTransaction _ _ _ => List Nat
  | .openQueryCursor _ _ _ => QueryCursorId
  | .fetchQueryCursorPage _ _ => QueryCursorPage
  | .fetchCompletionColumns _ _ _ => List String
  | .lexicalSettings _ _ => Option LexicalSettings
  | .metadata read _ => read.Result
  | .synchronizeSequences _ _ _ _ | .begin _ | .commit | .rollback _ | .openSession
  | .closeQueryCursor _ _ | .closeSession | .ping => Unit

/-- How a driver call ends. `onServer` says that the call reached the server and
failed there; the guard does not see it. -/
inductive DriverReply (α : Type) where
  | returned (value : α)
  | failed (error : DriverError) (onServer : Bool)
  | panicked (onServer : Bool)
  | dropped (onServer : Bool)
  deriving DecidableEq, Repr

def DriverCall.counted : (call : DriverCall) → call.Result → Option Nat
  | .query _ .count _ _ _ => QueryResult.rowCount
  | _ => fun _ => none

def DriverCall.summary (call : DriverCall) : DriverReply call.Result → DriverReply (Option Nat)
  | .returned value => .returned (call.counted value)
  | .failed error onServer => .failed error onServer
  | .panicked onServer => .panicked onServer
  | .dropped onServer => .dropped onServer

def DriverCall.carries : DriverCall → Option String
  | .query _ .statement sql _ _ | .query _ .begin sql _ _ | .query _ .finish sql _ _ => some sql
  | .query _ .count _ _ _ => none
  | .queryResultSets _ sql _ _ | .execute _ sql _ _ | .openQueryCursor sql _ _ => some sql
  | .executeInTransaction statements _ _ => some (batchText statements)
  | _ => none

inductive GuardEvent where
  | recorded (event : AuditEvent) (reply : SinkReply)
  | asked (request : ApprovalRequest) (reply : ApproverReply)
  | dispatched (call : DriverCall) (reply : DriverReply (Option Nat))
  | faulted (operation : String)
  deriving DecidableEq, Repr

structure Outside where
  others : Nat → AuditState
  record : Nat → AuditEvent → SinkReply
  request : Nat → ApprovalRequest → ApproverReply
  call : Nat → (call : DriverCall) → DriverReply call.Result
  isUsable : Nat → Option Bool
  newUuid : Nat → Uuid
  now : Nat → Timestamp
  elapsedMs : Nat → Nat
  instant : Nat → Nat
  isCancelled : Nat → OperationControl → Bool
  sha256 : List UInt8 → List UInt8

/-- The state of a run: the shared flags, the number of questions asked so far, and
what the caller of the guard owns (a session, an import scope, or nothing). -/
structure World (σ : Type) where
  audit : AuditState
  step : Nat
  own : σ
  deriving DecidableEq, Repr

abbrev Guarded (σ α : Type) := Future (World σ) GuardEvent DriverError α

/-- One question to the outside. Other tasks may have set lockdown flags meanwhile. -/
def askOutside {σ α : Type} (outside : Outside) (question : Nat → α) : Guarded σ α := fun world =>
  { exit := .done (question world.step)
    state :=
      { world with
        audit := world.audit.join (outside.others world.step)
        step := world.step + 1 }
    events := [] }

def own {σ : Type} : Guarded σ σ := do
  let world ← Future.get
  pure world.own

def modifyOwn {σ : Type} (change : σ → σ) : Guarded σ Unit :=
  Future.modify fun world => { world with own := change world.own }

end Bookie.Guard
