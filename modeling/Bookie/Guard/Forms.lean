/-
The forms of an SQL operation. Each clears its statement and then reads or writes it.
What keeps an assertion through the clearing, the read and the write keeps it through
every operation.
-/

import Bookie.Guard.Frame
import Bookie.Guard.Operation

namespace Bookie.Guard

open Bookie.Core Policy Async Async.Future PolicyGuard

def DriverCall.executes : DriverCall → Bool
  | .execute _ _ _ _ | .executeInTransaction _ _ _ => true
  | _ => false

def PolicyGuard.enforcedRows (guard : PolicyGuard) : DriverCall → Option Nat
  | .executeInTransaction statements (some expectOne) _ =>
    enforcedBatchRows (guard.analyzeStatement (batchText statements)) expectOne
  | _ => none

def PolicyGuard.sharedRefusal (guard : PolicyGuard) (sql : String) : Option Decision :=
  sharedConnectionDecision guard.front sql guard.ctx.driverId (guard.analyzeStatement sql).facts

def PolicyGuard.transactionRefusal (guard : PolicyGuard) (sql : String) : Option Decision :=
  guard.transactionDecision sql (guard.analyzeStatement sql).facts

def SqlOperation.text : SqlOperation → String
  | .query sql | .queryControlled sql _ | .queryParams sql _ | .queryParamsControlled sql _ _
  | .queryResultSetsControlled sql _ _ | .execute sql | .executeControlled sql _
  | .executeParams sql _ | .executeParamsControlled sql _ _ | .transactionQuery _ sql
  | .transactionQueryControlled _ sql _ | .transactionQueryParams _ sql _
  | .transactionQueryParamsControlled _ sql _ _ | .transactionExecute _ sql
  | .transactionExecuteControlled _ sql _ | .transactionExecuteParams _ sql _
  | .transactionExecuteParamsControlled _ sql _ _ => sql
  | .executeInTransaction statements | .executeInTransactionControlled statements _
  | .executeInTransactionChecked statements _
  | .executeInTransactionCheckedControlled statements _ _ => batchText statements

def SqlOperation.inTransaction : SqlOperation → Bool
  | .transactionQuery _ _ | .transactionQueryControlled _ _ _ | .transactionQueryParams _ _ _
  | .transactionQueryParamsControlled _ _ _ _ | .transactionExecute _ _
  | .transactionExecuteControlled _ _ _ | .transactionExecuteParams _ _ _
  | .transactionExecuteParamsControlled _ _ _ _ => true
  | _ => false

def SqlOperation.isExecution : SqlOperation → Bool
  | .query _ | .queryControlled _ _ | .queryParams _ _ | .queryParamsControlled _ _ _
  | .queryResultSetsControlled _ _ _ | .transactionQuery _ _ | .transactionQueryControlled _ _ _
  | .transactionQueryParams _ _ _ | .transactionQueryParamsControlled _ _ _ _ => false
  | _ => true

def SqlOperation.refusal (guard : PolicyGuard) (operation : SqlOperation) : Option Decision :=
  if operation.inTransaction then guard.transactionRefusal operation.text
  else guard.sharedRefusal operation.text

/-- Somewhere along the assertion governed writes are not locked. -/
def Unlocked {σ : Type} (inv : List GuardEvent → World σ → Prop) : Prop :=
  ∃ past world, inv past world ∧ world.audit.governedWritesDisabled = false

def AuditsWrite {σ α : Type} (guard : PolicyGuard)
    (audit : AuditOperation → Except DriverError α → Option Nat → Guarded σ Unit) : Prop :=
  audit = guard.auditWriteResult ∨ ∃ mode, audit = guard.auditTransactionResult mode

/-- A statement that is cleared is `ready`, and a write or a read that starts there keeps the
assertion. Only a text that is not executed is read. -/
structure Clearing {σ : Type} (guard : PolicyGuard) (terms : Terms σ) (inv : Assertion σ)
    (refusal : Option Decision) (sql : String) (isExecution : Bool)
    (ready : Option Nat → Assertion σ) : Prop where
  framed : Framed guard terms inv
  named : ∀ id, Named terms inv id
  counts : ∀ counter, terms.Counts inv counter
  starts : ∀ bound, Framed guard terms (ready bound)
  leaves : ∀ bound past world, ready bound past world → inv past world
  clears : ∀ bound past world, inv past world → refusal = none →
    PolicyClears guard inv sql (guard.analyzeStatement sql) bound past → ready bound past world
  writes : ∀ {α : Type} {operation : AuditOperation} {call : DriverCall} {label : String}
    {finish : call.Result → α} {rows : α → Option Nat}
    {audit : AuditOperation → Except DriverError α → Option Nat → Guarded σ Unit},
    Unlocked inv → operation.sql = sql → call.carries = some sql → AuditsWrite guard audit →
      ∀ bound, guard.enforcedRows call = bound → Leads (ready bound) inv
        (guard.runWrite operation label (guard.dispatch call) finish rows audit)
  reads : ∀ {α : Type} {operation : AuditOperation} {call : DriverCall} {label : String}
    {finish : call.Result → α} {rows : α → Option Nat}
    {audit : AuditOperation → Except DriverError α → Option Nat → Guarded σ Unit},
    isExecution = false → (guard.analyzeStatement sql).facts.writes = false →
      call.carries = some sql → call.executes = false →
      (∀ result count, Keeps inv (audit operation result count)) →
      Leads (ready none) inv
        (guard.runRead operation label (guard.dispatch call) finish rows audit)

namespace Clearing

variable {σ α : Type} {guard : PolicyGuard} {terms : Terms σ} {inv : Assertion σ}
  {refusal : Option Decision} {sql : String} {isExecution : Bool}
  {ready : Option Nat → Assertion σ} {bound : Option Nat} {batchId : Option Uuid}
  {authorization : Authorization}
  (clearing : Clearing guard terms inv refusal sql isExecution ready)
include clearing

private theorem authorized {authorize : Guarded σ Authorization}
    {next : Authorization → Guarded σ α}
    (authorizes : Triple inv authorize fun authorization past _ =>
      authorization.analysis = guard.analyzeStatement sql ∧ refusal = none ∧
        PolicyClears guard inv sql (guard.analyzeStatement sql) bound past)
    (continues : ∀ authorization, authorization.analysis = guard.analyzeStatement sql →
      Leads (ready bound) inv (next authorization)) :
    Keeps inv (authorize >>= next) := by
  refine Spec.bind authorizes fun authorization => ?_
  refine Spec.assuming _ (fun _ _ holds => holds.2.1) fun same => ?_
  exact (continues authorization same).before fun past world holds =>
    clearing.clears bound past world holds.1 holds.2.2.1 holds.2.2.2

private theorem checked {next : Guarded σ α}
    (continues : Unlocked inv → Leads (ready bound) inv next) :
    Leads (ready bound) inv (do guard.requireGovernedWriteAvailable; next) := by
  refine .bind ((clearing.starts bound).requireGovernedWriteAvailable.leaving
    (clearing.leaves bound)) fun _ => ?_
  refine .assuming (Unlocked inv) (fun past world holds =>
    ⟨past, world, clearing.leaves bound past world holds.1, holds.2⟩) fun unlocked => ?_
  exact (continues unlocked).besides

private theorem operated {next : AuditOperation → Guarded σ α}
    (continues : ∀ operation, operation.sql = sql →
      operation.cls.isWrite = authorization.analysis.facts.writes →
      Leads (ready bound) inv (next operation)) :
    Leads (ready bound) inv (do
      let operation ← guard.authorizedOperation sql batchId authorization
      next operation) := by
  refine .bind (Triple.leaving (clearing.starts bound).operation (clearing.leaves bound))
    fun operation => ?_
  refine .assuming _ (fun _ _ holds => holds.2.2) fun facts => ?_
  exact (continues operation facts.1 facts.2).besides

private theorem write {call : DriverCall} (carries : call.carries = some sql) {label : String}
    {finish : call.Result → α} {rows : α → Option Nat}
    {audit : AuditOperation → Except DriverError α → Option Nat → Guarded σ Unit}
    (audits : AuditsWrite guard audit) (bounds : guard.enforcedRows call = bound) :
    Leads (ready bound) inv (do
      guard.requireGovernedWriteAvailable
      let operation ← guard.authorizedOperation sql batchId authorization
      guard.runWrite operation label (guard.dispatch call) finish rows audit) :=
  clearing.checked fun unlocked => clearing.operated fun _ about _ =>
    clearing.writes unlocked about carries audits bound bounds

end Clearing

section Forms

variable {σ : Type} {guard : PolicyGuard} {terms : Terms σ} {inv : Assertion σ} {sql : String}
  {isExecution : Bool} {ready : Option Nat → Assertion σ} {label : String}
  {params : Option (List Value)} {control : Option OperationControl}

private theorem Clearing.queryForm (queries : isExecution = false)
    (clearing : Clearing guard terms inv (guard.sharedRefusal sql) sql isExecution ready) :
    Keeps inv (guard.queryForm label sql params control) := by
  refine clearing.authorized (clearing.framed.authorizeAnalysis (clearing.counts _))
    fun authorization same => ?_
  split
  · exact clearing.write (by rfl) (.inl rfl) (by rfl)
  rename_i reads
  have isRead := Bool.eq_false_iff.mpr reads
  refine clearing.operated fun operation _ cls => ?_
  refine clearing.reads queries (same ▸ isRead) (by rfl) (by rfl) fun result count => ?_
  have bears := @Terms.bears_of_read σ terms inv operation (cls.trans isRead)
  split
  · exact clearing.framed.auditControlledReadResult (clearing.named _) bears result count
  · exact clearing.framed.auditReadResult (clearing.named _) bears result count

private theorem Clearing.queryResultSetsControlled (queries : isExecution = false)
    (clearing : Clearing guard terms inv (guard.sharedRefusal sql) sql isExecution ready)
    {params : List Value} {control : OperationControl} :
    Keeps inv (guard.queryResultSetsControlled sql params control) := by
  refine clearing.authorized (clearing.framed.authorizeAnalysis (clearing.counts _))
    fun authorization same => ?_
  refine clearing.operated fun operation about cls => ?_
  split
  · exact clearing.checked fun unlocked =>
      clearing.writes unlocked about (by rfl) (.inl rfl) none (by rfl)
  rename_i reads
  have isRead := Bool.eq_false_iff.mpr reads
  exact clearing.reads queries (same ▸ isRead) (by rfl) (by rfl)
    (clearing.framed.auditControlledReadResult (clearing.named _)
      (Terms.bears_of_read (cls.trans isRead)))

private theorem Clearing.executeForm
    (clearing : Clearing guard terms inv (guard.sharedRefusal sql) sql isExecution ready) :
    Keeps inv (guard.executeForm sql params control) :=
  clearing.authorized (clearing.framed.authorizeAnalysis (clearing.counts _))
    fun _ _ => clearing.write (by rfl) (.inl rfl) (by rfl)

private theorem Clearing.batchForm {statements : List (String × List Value)}
    {expectOne : Option (List Nat)} (clearing : Clearing guard terms inv
      (guard.sharedRefusal (batchText statements)) (batchText statements) isExecution ready) :
    Keeps inv (guard.batchForm label statements expectOne control) := by
  refine .bind (keeps_whenSome fun _ _ => clearing.framed.checkPreDispatch) fun _ => ?_
  refine clearing.authorized (clearing.framed.authorizeAnalysis (clearing.counts _))
    fun authorization _ => ?_
  refine clearing.checked fun unlocked => ?_
  refine .bind (((clearing.starts _).ask _).leaving (clearing.leaves _)) fun batchId => ?_
  refine clearing.operated fun operation about _ => ?_
  refine clearing.writes unlocked about (by rfl) (.inr ⟨_, rfl⟩) _ ?_
  cases expectOne <;> rfl

variable {transaction : PolicyTransaction}

private theorem Clearing.transactionQueryForm (queries : isExecution = false)
    (clearing : Clearing guard terms inv (guard.transactionRefusal sql) sql isExecution ready) :
    Keeps inv (transaction.queryForm guard label sql params control) := by
  refine clearing.authorized (clearing.framed.authorizeInTransaction (clearing.counts _))
    fun authorization same => ?_
  refine clearing.operated fun operation about cls => ?_
  split
  · exact clearing.checked fun unlocked =>
      clearing.writes unlocked about (by rfl) (.inr ⟨_, rfl⟩) none (by rfl)
  rename_i reads
  have isRead := Bool.eq_false_iff.mpr reads
  exact clearing.reads queries (same ▸ isRead) (by rfl) (by rfl)
    (clearing.framed.auditTransactionResult (clearing.named _)
      (.inr (Terms.bears_of_read (cls.trans isRead))) .interactive)

private theorem Clearing.transactionExecuteForm
    (clearing : Clearing guard terms inv (guard.transactionRefusal sql) sql isExecution ready) :
    Keeps inv (transaction.executeForm guard label sql params control) :=
  clearing.authorized (clearing.framed.authorizeInTransaction (clearing.counts _))
    fun _ _ => clearing.write (by rfl) (.inr ⟨_, rfl⟩) (by rfl)

theorem keeps_discard {α : Type} {run : Guarded σ α} (keeps : Keeps inv run) :
    Keeps inv (discard run) :=
  keeps.map

theorem Clearing.sqlOperation {operation : SqlOperation}
    (clearing : Clearing guard terms inv (operation.refusal guard) operation.text
      operation.isExecution ready) :
    Keeps inv (operation.run guard) := by
  cases operation with
  | query | queryControlled | queryParams | queryParamsControlled =>
    exact keeps_discard (clearing.queryForm rfl)
  | queryResultSetsControlled => exact keeps_discard (clearing.queryResultSetsControlled rfl)
  | execute | executeControlled | executeParams | executeParamsControlled =>
    exact keeps_discard clearing.executeForm
  | executeInTransaction | executeInTransactionControlled =>
    exact keeps_discard clearing.batchForm
  | executeInTransactionChecked | executeInTransactionCheckedControlled =>
    refine keeps_discard ?_
    first
    | unfold PolicyGuard.executeInTransactionChecked
    | unfold PolicyGuard.executeInTransactionCheckedControlled
    split <;> exact clearing.batchForm
  | transactionQuery | transactionQueryControlled | transactionQueryParams
  | transactionQueryParamsControlled =>
    exact keeps_discard (clearing.transactionQueryForm rfl)
  | transactionExecute | transactionExecuteControlled | transactionExecuteParams
  | transactionExecuteParamsControlled =>
    exact keeps_discard clearing.transactionExecuteForm

end Forms

end Bookie.Guard
