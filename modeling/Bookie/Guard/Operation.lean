/-
Every entry point of the guard as data: the operations of a connection and its
transactions, those of a session, and those of a bulk import. An operation is
indexed by what its caller owns while it runs.
-/

import Bookie.Guard.Administrative
import Bookie.Guard.Bulk
import Bookie.Guard.Session

namespace Bookie.Guard

open Bookie.Core Policy Async Async.Future

inductive SqlOperation where
  | query (sql : String)
  | queryControlled (sql : String) (control : OperationControl)
  | queryParams (sql : String) (params : List Value)
  | queryParamsControlled (sql : String) (params : List Value) (control : OperationControl)
  | queryResultSetsControlled (sql : String) (params : List Value) (control : OperationControl)
  | execute (sql : String)
  | executeControlled (sql : String) (control : OperationControl)
  | executeParams (sql : String) (params : List Value)
  | executeParamsControlled (sql : String) (params : List Value) (control : OperationControl)
  | executeInTransaction (statements : List (String × List Value))
  | executeInTransactionControlled (statements : List (String × List Value))
      (control : OperationControl)
  | executeInTransactionChecked (statements : List (String × List Value)) (expectOne : List Nat)
  | executeInTransactionCheckedControlled (statements : List (String × List Value))
      (expectOne : List Nat) (control : OperationControl)
  | transactionQuery (transaction : PolicyTransaction) (sql : String)
  | transactionQueryControlled (transaction : PolicyTransaction) (sql : String)
      (control : OperationControl)
  | transactionQueryParams (transaction : PolicyTransaction) (sql : String) (params : List Value)
  | transactionQueryParamsControlled (transaction : PolicyTransaction) (sql : String)
      (params : List Value) (control : OperationControl)
  | transactionExecute (transaction : PolicyTransaction) (sql : String)
  | transactionExecuteControlled (transaction : PolicyTransaction) (sql : String)
      (control : OperationControl)
  | transactionExecuteParams (transaction : PolicyTransaction) (sql : String) (params : List Value)
  | transactionExecuteParamsControlled (transaction : PolicyTransaction) (sql : String)
      (params : List Value) (control : OperationControl)
  deriving DecidableEq, Repr

def discard {σ α : Type} (run : Guarded σ α) : Guarded σ Unit := do
  let _ ← run
  pure ()

def SqlOperation.run {σ : Type} (guard : PolicyGuard) : SqlOperation → Guarded σ Unit
  | .query sql => discard (guard.query sql)
  | .queryControlled sql control => discard (guard.queryControlled sql control)
  | .queryParams sql params => discard (guard.queryParams sql params)
  | .queryParamsControlled sql params control =>
    discard (guard.queryParamsControlled sql params control)
  | .queryResultSetsControlled sql params control =>
    discard (guard.queryResultSetsControlled sql params control)
  | .execute sql => discard (guard.execute sql)
  | .executeControlled sql control => discard (guard.executeControlled sql control)
  | .executeParams sql params => discard (guard.executeParams sql params)
  | .executeParamsControlled sql params control =>
    discard (guard.executeParamsControlled sql params control)
  | .executeInTransaction statements => discard (guard.executeInTransaction statements)
  | .executeInTransactionControlled statements control =>
    discard (guard.executeInTransactionControlled statements control)
  | .executeInTransactionChecked statements expectOne =>
    discard (guard.executeInTransactionChecked statements expectOne)
  | .executeInTransactionCheckedControlled statements expectOne control =>
    discard (guard.executeInTransactionCheckedControlled statements expectOne control)
  | .transactionQuery transaction sql => discard (transaction.query guard sql)
  | .transactionQueryControlled transaction sql control =>
    discard (transaction.queryControlled guard sql control)
  | .transactionQueryParams transaction sql params =>
    discard (transaction.queryParams guard sql params)
  | .transactionQueryParamsControlled transaction sql params control =>
    discard (transaction.queryParamsControlled guard sql params control)
  | .transactionExecute transaction sql => discard (transaction.execute guard sql)
  | .transactionExecuteControlled transaction sql control =>
    discard (transaction.executeControlled guard sql control)
  | .transactionExecuteParams transaction sql params =>
    discard (transaction.executeParams guard sql params)
  | .transactionExecuteParamsControlled transaction sql params control =>
    discard (transaction.executeParamsControlled guard sql params control)

inductive SessionOperation where
  | queryParamsControlled (sql : String) (params : List Value) (control : OperationControl)
  | queryResultSetsParamsControlled (sql : String) (params : List Value)
      (control : OperationControl)
  | commitControlled (control : OperationControl)
  | openQueryCursorControlled (sql : String) (params : List Value) (control : OperationControl)
  | fetchQueryCursorPageControlled (cursorId : QueryCursorId) (control : OperationControl)
  | closeQueryCursorControlled (cursorId : QueryCursorId) (control : OperationControl)
  | lexicalSettingsControlled (control : OperationControl)
  | fetchCompletionColumnsControlled (schema : Option String) (table : String)
      (control : OperationControl)
  | close
  deriving DecidableEq, Repr

def SessionOperation.run (guard : PolicyGuard) : SessionOperation → InSession Unit
  | .queryParamsControlled sql params control =>
    discard (PolicySession.queryParamsControlled guard sql params control)
  | .queryResultSetsParamsControlled sql params control =>
    discard (PolicySession.queryResultSetsParamsControlled guard sql params control)
  | .commitControlled control => discard (PolicySession.commitControlled guard control)
  | .openQueryCursorControlled sql params control =>
    discard (PolicySession.openQueryCursorControlled guard sql params control)
  | .fetchQueryCursorPageControlled cursorId control =>
    discard (PolicySession.fetchQueryCursorPageControlled guard cursorId control)
  | .closeQueryCursorControlled cursorId control =>
    discard (PolicySession.closeQueryCursorControlled guard cursorId control)
  | .lexicalSettingsControlled control =>
    discard (PolicySession.lexicalSettingsControlled guard control)
  | .fetchCompletionColumnsControlled schema table control =>
    discard (PolicySession.fetchCompletionColumnsControlled guard schema table control)
  | .close => PolicySession.close guard

inductive ImportOperation where
  | executeBulkBatch (batch : BulkBatch) (control : OperationControl)
  | finishBulkInsert (finished : BulkInsertEnd)
  | dropScope
  deriving DecidableEq, Repr

def ImportOperation.run (guard : PolicyGuard) : ImportOperation → InImport Unit
  | .executeBulkBatch batch control => discard (guard.executeBulkBatch batch control)
  | .finishBulkInsert finished => discard (guard.finishBulkInsert finished)
  | .dropScope => Bookie.Guard.dropScope

/-! ### All operations -/

inductive GuardOperation : Type → Type 1 where
  | sql {σ : Type} (operation : SqlOperation) : GuardOperation σ
  | metadata {σ : Type} (read : MetadataRead) (control : Option OperationControl) : GuardOperation σ
  | ping {σ : Type} : GuardOperation σ
  | lexicalSettings {σ : Type} (control : OperationControl) : GuardOperation σ
  | begin {σ : Type} (control : Option OperationControl) : GuardOperation σ
  | commit {σ : Type} (transaction : PolicyTransaction) : GuardOperation σ
  | rollback {σ : Type} (transaction : PolicyTransaction) : GuardOperation σ
  | rollbackControlled {σ : Type} (transaction : PolicyTransaction) (control : OperationControl) :
      GuardOperation σ
  | openSession {σ : Type} : GuardOperation σ
  | administrative {σ : Type} (work : AdministrativeWork) : GuardOperation σ
  | beginBulkInsert {σ : Type} (request : BulkInsertRequest) : GuardOperation σ
  | session (operation : SessionOperation) : GuardOperation PolicySession
  | bulk (operation : ImportOperation) : GuardOperation BulkInsertScope

def GuardOperation.run (guard : PolicyGuard) : {σ : Type} → GuardOperation σ → Guarded σ Unit
  | _, .sql operation => operation.run guard
  | _, .metadata read control => discard (guard.readMetadata read control)
  | _, .ping => guard.ping
  | _, .lexicalSettings control => discard (guard.lexicalSettingsControlled control)
  | _, .begin none => discard guard.begin
  | _, .begin (some control) => discard (guard.beginControlled control)
  | _, .commit transaction => transaction.commit guard
  | _, .rollback transaction => transaction.rollback guard
  | _, .rollbackControlled transaction control => transaction.rollbackControlled guard control
  | _, .openSession => discard guard.openSession
  | _, .administrative work => guard.runAdministrativeInner work
  | _, .beginBulkInsert request => discard (guard.beginBulkInsert request)
  | _, .session operation => operation.run guard
  | _, .bulk operation => operation.run guard

end Bookie.Guard
