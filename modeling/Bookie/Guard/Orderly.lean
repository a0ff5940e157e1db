/-
One rule for every entry point. An orderly assertion survives all that the guard does
on its own; for each operation we state which checks a statement has passed when the
driver gets it.
-/

import Bookie.Guard.Forms

namespace Bookie.Guard

open Bookie.Core Policy Async Async.Future PolicyGuard PolicyTransaction

/-! ### Orderly assertions -/

/-- The work of a caller ended without telling its outcome, and nothing says that a restore
had begun. -/
def AdministrativeWork.unresolved (work : AdministrativeWork) : Bool :=
  match work.reply with
  | .returned (.error (.operationOutcomeUnknown _)) =>
    !(work.operation.replacesData && work.flagged)
  | _ => false

/-- A stable assertion that also survives any record of a guard that is locked, and the
dispatch of permitted statements. -/
structure Orderly {σ : Type} (guard : PolicyGuard) (permits : String → Prop)
    (inv : List GuardEvent → World σ → Prop) : Prop extends Stable guard inv where
  settled : ∀ past world event reply, world.audit.governedWritesDisabled = true →
    inv past world → inv (past ++ [.recorded event reply]) world
  called : ∀ past world call reply, (∀ sql, call.carries = some sql → permits sql) →
    inv past world → inv (past ++ [.dispatched call reply]) world

/-- An orderly assertion that does not depend on what the caller owns. -/
structure Detached {σ : Type} (guard : PolicyGuard) (permits : String → Prop)
    (inv : List GuardEvent → World σ → Prop) : Prop extends Orderly guard permits inv where
  owned : ∀ past world own, inv past world → inv past { world with own := own }

def Terms.permitting (σ : Type) (permits : String → Prop) : Terms σ where
  allows := fun _ call => ∀ sql, call.carries = some sql → permits sql
  writes := fun _ _ => True
  tolerates := fun audit => audit.governedWritesDisabled = true

/-- The policy does not deny the statement, and what it leaves to the lock finds it open. -/
def Passes {σ : Type} (guard : PolicyGuard) (inv : List GuardEvent → World σ → Prop)
    (facts : StatementFacts) : Prop :=
  (guard.categorical facts).isSome = true ∧ (guard.joinedDecision facts).isDeny = false ∨
    guard.categorical facts = none ∧ Unlocked inv

variable {guard : PolicyGuard}

theorem passes_of_clears {σ : Type} {inv : Assertion σ} {sql : String}
    {analysis : StatementAnalysis} {bound : Option Nat} {past : List GuardEvent}
    (clears : PolicyClears guard inv sql analysis bound past) :
    Passes guard inv analysis.facts := by
  rcases clears with ⟨decided, cleared⟩ | ⟨undecided, unlocked, _⟩
  · exact .inl ⟨decided, cleared.not_deny⟩
  · exact .inr ⟨undecided, unlocked⟩

/-- The checks before a statement is sent: its connection does not refuse it, the policy lets
it pass, and if it is a governed write the lock is open. -/
structure Admitted {σ : Type} (guard : PolicyGuard) (inv : List GuardEvent → World σ → Prop)
    (refusal : Option Decision) (sql : String) (governed : Bool) : Prop where
  accepted : refusal = none
  passes : Passes guard inv (guard.analyzeStatement sql).facts
  unlocked : governed = true → Unlocked inv

namespace Orderly

variable {σ α β : Type} {guard : PolicyGuard} {permits : String → Prop}
  {inv : Assertion σ} {operation : AuditOperation} {sql : String} {call : DriverCall}
  {work : AdministrativeWork}

theorem framed (orderly : Orderly guard permits inv) :
    Framed guard (.permitting σ permits) inv where
  grows := fun past world audit step le _ => orderly.grows past world audit step le
  stays := fun _ _ _ _ => id
  names := fun _ _ _ => trivial
  recorded := fun past world event reply _ tolerated answered holds => by
    by_cases unknown : event.operationClass.isWrite = true ∧ event.terminalStatus = .unknown
    · exact orderly.settled past world event reply (tolerated unknown.1 unknown.2) holds
    · exact orderly.event past world _ ⟨answered, fun write same => unknown ⟨write, same⟩⟩ holds
  asked := fun past world _ _ => orderly.event past world _ trivial
  faulted := fun past world _ => orderly.event past world _ trivial
  called := fun past world call reply permitted _ => orderly.called past world call reply permitted

private theorem named {id : Uuid} : Named (.permitting σ permits) inv id := fun _ _ _ => trivial

theorem locks : (Terms.permitting σ permits).Locks := fun _ => id

private theorem counts (counter : Option Counter) :
    (Terms.permitting σ permits).Counts inv counter := by
  intro sql control past world _ text carries
  rcases counter with _ | ⟨⟨⟩⟩ <;> cases carries

/-! ### Driver calls and records -/

variable (orderly : Orderly guard permits inv)
include orderly

private theorem bareDispatch {call : DriverCall} (bare : call.carries = none) :
    Keeps inv (guard.dispatch call : Guarded σ call.Result) :=
  orderly.framed.dispatch fun _ _ _ sql carries => by
    rw [bare] at carries
    cases carries

private theorem recordVerdict {verdict : Verdict}
    (locked : verdict.terminalStatus = .unknown → verdict.locks = true) :
    Keeps inv (guard.recordVerdict operation verdict) :=
  orderly.framed.recordVerdict named (Terms.records (.inl locks) locked)

private theorem writeCheck :
    Triple inv guard.requireGovernedWriteAvailable fun _ _ _ => Unlocked inv :=
  orderly.framed.requireGovernedWriteAvailable.weaken fun _ past world holds unlocked =>
    ⟨past, world, holds, unlocked⟩

private theorem statementDispatch (carries : call.carries = some sql) (permitted : permits sql) :
    Keeps inv (guard.dispatch call : Guarded σ call.Result) :=
  orderly.framed.dispatch fun _ _ _ text same => by
    rw [carries] at same
    cases same
    exact permitted

theorem beginForm (control : Option OperationControl) : Keeps inv (guard.beginForm control) := by
  refine .bind (orderly.framed.caught (orderly.bareDispatch rfl)) fun inner => ?_
  refine .bind (keeps_when fun _ => orderly.framed.disableGovernedWrites) fun _ => ?_
  refine (keeps_ofExcept _).bind fun _ => ?_
  exact (orderly.framed.ask _).map

/-- A failure that is recorded as unknown only if it locks. -/
private theorem runFinish {denied : String} (bare : call.carries = none)
    {finish : call.Result → Unit} {success : AuditTransactionOutcome}
    {failure : DriverError → AuditTerminalStatus × AuditTransactionOutcome × Bool}
    (settles : Settles failure) :
    Keeps inv (runFinish guard operation denied call finish success failure) := by
  refine (orderly.framed.recordIntent named).keeps.bind fun intent => ?_
  refine (keeps_ofExcept _).bind fun _ => ?_
  refine .result (orderly.framed.pendingWrite ?_)
  refine .bind (orderly.framed.caught (orderly.bareDispatch bare)) fun result => ?_
  refine .bind (orderly.recordVerdict
    (resultVerdict_settles success none settles result).2) fun recorded => ?_
  exact orderly.framed.handleWriteOutcomeFailure.map

omit orderly in
private theorem finishFailure_settles : Settles finishFailure := by
  intro error
  unfold finishFailure
  split <;> simp

omit orderly in
private theorem unknownFailure_settles : Settles unknownFailure := by
  intro error
  simp [unknownFailure]

variable (transaction : PolicyTransaction)

theorem commit : Keeps inv (transaction.commit guard) := by
  refine orderly.writeCheck.knowing fun _ _ => ?_
  refine .bind ((orderly.framed.ask _).map) fun operation => ?_
  exact orderly.runFinish rfl finishFailure_settles

theorem rollback : Keeps inv (transaction.rollback guard) := by
  refine .bind ((orderly.framed.ask _).map) fun operation => ?_
  exact orderly.runFinish rfl finishFailure_settles

theorem rollbackControlled (control : OperationControl) :
    Keeps inv (transaction.rollbackControlled guard control) := by
  refine .bind ((orderly.framed.ask _).map) fun operation => ?_
  exact orderly.runFinish rfl unknownFailure_settles

theorem bareRead {label : String} (bare : call.carries = none) :
    Keeps inv (do ofExcept (← guard.caughtRead label (guard.dispatch call)) :
      Guarded σ call.Result) :=
  .result (orderly.framed.caught (orderly.bareDispatch bare))

theorem readMetadata (read : MetadataRead) (control : Option OperationControl) :
    Keeps inv (guard.readMetadata read control) := by
  refine .bind (keeps_whenSome fun control _ => orderly.framed.checkPreDispatch)
    fun _ => ?_
  refine (orderly.framed.metadataOperation.weaken fun _ _ _ _ about => about.2).knowing
    fun operation isRead => ?_
  refine orderly.framed.runRead orderly.framed le_rfl named (orderly.bareDispatch rfl)
    fun result count => ?_
  split
  · exact orderly.framed.auditControlledReadResult named (Terms.bears_of_read isRead) result count
  · exact orderly.framed.auditReadResult named (Terms.bears_of_read isRead) result count

theorem openSession : Keeps inv guard.openSession := by
  refine .bind (orderly.framed.caught (orderly.bareDispatch rfl)) fun inner => ?_
  exact (keeps_ofExcept _).map

/-! ### Backups and restores -/

def AdmitsWork (guard : PolicyGuard) (inv : List GuardEvent → World σ → Prop)
    (operation : AdministrativeOperation) : Prop :=
  guard.ctx.principal.isAgent = false ∧
    (operation.replacesData = true → guard.ctx.readOnly = false ∧ Unlocked inv)

private theorem administrativeDecision (work : AdministrativeOperation) :
    Triple inv (guard.administrativeDecision work) fun decision _ _ =>
      decision.isDeny = false → AdmitsWork guard inv work := by
  unfold PolicyGuard.administrativeDecision
  split
  · exact spec_pure fun past world holds => ⟨holds, fun allowed => by cases allowed⟩
  rename_i human
  have isHuman := Bool.eq_false_iff.mpr human
  split
  · rename_i keepsData
    refine spec_pure fun past world holds => ⟨holds, fun _ => ⟨isHuman, fun replaces => ?_⟩⟩
    rw [replaces] at keepsData
    cases keepsData
  split
  · exact spec_pure fun past world holds => ⟨holds, fun allowed => by cases allowed⟩
  rename_i writable
  refine .bind orderly.framed.governedWriteRefusal fun refusal => ?_
  cases refusal with
  | some decision =>
    refine spec_pure fun past world holds => ⟨holds.1, fun allowed => ?_⟩
    rw [holds.2.2 decision rfl] at allowed
    cases allowed
  | none =>
    exact spec_pure fun past world holds => ⟨holds.1, fun _ => ⟨isHuman, fun _ =>
      ⟨Bool.eq_false_iff.mpr writable, past, world, holds.1, holds.2.1 rfl⟩⟩⟩

def LeavesUnknown : Except DriverError Unit → Prop
  | .error (.operationOutcomeUnknown _) => True
  | _ => False

private theorem awaitWork (work : AdministrativeWork) :
    Triple inv (guard.awaitWork work) fun result _ _ =>
      LeavesUnknown result → work.unresolved = false →
        (work.operation.replacesData && work.flagged) = true := by
  refine .bind (orderly.framed.ask _) fun _ => ?_
  split
  · exact spec_pure fun past world holds => ⟨holds, fun unknown => unknown.elim⟩
  · exact spec_pure fun past world holds => ⟨holds, fun unknown => unknown.elim⟩
  · rename_i result reply
    refine spec_pure fun past world holds => ⟨holds, fun unknown resolved => ?_⟩
    unfold LeavesUnknown at unknown
    split at unknown
    · simpa [AdministrativeWork.unresolved, reply] using resolved
    · exact unknown.elim
  · exact spec_crash le_rfl
  · exact spec_abandon le_rfl

/-- Unknown work locks, unless it is unresolved. -/
private theorem resolveRestoreOutcome {result : Except DriverError Unit}
    (known : LeavesUnknown result → work.unresolved = false →
      (work.operation.replacesData && work.flagged) = true)
    (locked : work.unresolved = true →
      ∀ past world, inv past world → world.audit.governedWritesDisabled = true) :
    Triple inv (resolveRestoreOutcome work result : Guarded σ _) fun result _ world =>
      LeavesUnknown result → world.audit.governedWritesDisabled = true := by
  unfold PolicyGuard.resolveRestoreOutcome
  cases result with
  | ok value => exact spec_pure fun past world holds => ⟨holds, fun unknown => unknown.elim⟩
  | error error =>
  dsimp only
  split
  · have locks : Triple inv (disableGovernedWrites : Guarded σ Unit)
        fun _ _ world => world.audit.governedWritesDisabled = true :=
      spec_modify fun past world holds =>
        ⟨orderly.framed.locking holds, AuditState.locked_disableGovernedWrites _⟩
    refine .bind locks fun _ => ?_
    split
    · exact spec_pure fun past world holds => ⟨holds.1, fun _ => holds.2⟩
    · exact spec_pure fun past world holds => ⟨holds.1, fun _ => holds.2⟩
  rename_i unflagged
  refine spec_pure fun past world holds => ⟨holds, fun unknown => ?_⟩
  cases unresolved : work.unresolved with
  | true => exact locked unresolved past world holds
  | false => exact absurd (known unknown unresolved) unflagged

private theorem pendingRestore {flag : DispatchFlag → Bool} {run : Guarded σ α}
    (keeps : Keeps inv run) : Keeps inv (pendingRestore work flag run) := by
  unfold PolicyGuard.pendingRestore
  split
  · exact orderly.framed.pendingWrite keeps
  · exact keeps

private theorem recordWork (result : Except DriverError Unit) :
    Leads (fun past world => inv past world ∧
        (LeavesUnknown result → world.audit.governedWritesDisabled = true)) inv
      (guard.recordVerdict operation
        (resultVerdict .notApplicable none controlledReadFailure result)) := by
  have framed : Framed guard (.permitting σ permits) fun past world => inv past world ∧
      (LeavesUnknown result → world.audit.governedWritesDisabled = true) :=
    orderly.framed.and (fun _ _ _ _ le _ holds unknown => le.locked (holds unknown)) fun _ _ _ => id
  have leaves : (resultVerdict .notApplicable none controlledReadFailure result).terminalStatus =
      .unknown → LeavesUnknown result := by
    intro unknown
    cases result with
    | ok value => cases unknown
    | error error => cases error <;> simp_all [resultVerdict, controlledReadFailure,
        controlledErrorTerminalStatus, LeavesUnknown]
  exact .weaken (framed.recordVerdict named fun _ unknown _ _ holds _ =>
    holds.2 (leaves unknown)) le_rfl and_le_left

private theorem runAuthorizedAdministrative (authorization : Authorization)
    (locked : work.unresolved = true →
      ∀ past world, inv past world → world.audit.governedWritesDisabled = true) :
    Keeps inv (guard.runAuthorizedAdministrative work authorization) := by
  refine .bind ((orderly.framed.ask _).map) fun audit => ?_
  refine .bind (orderly.pendingRestore ((orderly.framed.recordIntent named).keeps.result))
    fun _ => ?_
  refine .result (orderly.pendingRestore ?_)
  refine Spec.bind (orderly.awaitWork work) fun result => ?_
  refine .given fun known => ?_
  refine .bind (orderly.resolveRestoreOutcome known locked) fun resolved => ?_
  refine .bind (orderly.recordWork resolved) fun recorded => ?_
  exact orderly.framed.handleWriteOutcomeFailure.map

theorem runAdministrativeInner
    (locked : AdmitsWork guard inv work.operation → work.unresolved = true →
      ∀ past world, inv past world → world.audit.governedWritesDisabled = true) :
    Keeps inv (guard.runAdministrativeInner work) := by
  refine orderly.framed.checkPreDispatch.bind fun _ => ?_
  refine Spec.bind (orderly.administrativeDecision work.operation) fun decision => ?_
  refine .given fun admits => ?_
  refine .bind orderly.framed.resolveAuthorization fun authorization => ?_
  refine .assuming (AdmitsWork guard inv work.operation)
    (fun _ _ holds => admits holds.2.2.not_deny) fun admitted => ?_
  exact (orderly.runAuthorizedAdministrative authorization (locked admitted)).besides

/-! ### Imports -/

variable (request : BulkInsertRequest) (facts : StatementFacts)

private theorem recordBulkRefusal (rule : String) (approvalOutcome : AuditApprovalOutcome)
    (preview : Option String) :
    Keeps inv (guard.recordBulkRefusal request facts rule approvalOutcome preview) := by
  refine (orderly.framed.ask _).bind fun operationId => ?_
  refine .bind (orderly.framed.recordOutcome named fun _ unknown => by cases unknown)
    fun recorded => ?_
  exact keeps_ofExcept _

private theorem settleBulkDecision (decision : Decision) :
    Keeps inv (guard.settleBulkDecision request facts decision) := by
  cases decision with
  | allow rule => exact keeps_pure _
  | deny rule message =>
    exact (orderly.recordBulkRefusal request facts rule _ _).bind fun _ => keeps_fail _
  | requireApproval rule reason preview =>
  refine orderly.framed.requestApproval.keeps.bind fun answer => ?_
  refine (keeps_ofExcept _).bind fun outcome => ?_
  cases outcome with
  | allowOnce => exact keeps_pure _
  | deny => exact (orderly.recordBulkRefusal request facts rule _ _).bind fun _ => keeps_fail _

theorem beginBulkInsert : Keeps inv (guard.beginBulkInsert request) := by
  refine orderly.writeCheck.knowing fun _ _ => ?_
  refine (keeps_ofExcept _).bind fun facts => ?_
  split
  · exact (orderly.recordBulkRefusal request facts _ _ _).bind fun _ => keeps_fail _
  split
  · exact (orderly.recordBulkRefusal request facts _ _ _).bind fun _ => keeps_fail _
  refine (orderly.settleBulkDecision request facts _).bind fun granted => ?_
  refine .bind ((orderly.framed.ask _).bind fun _ =>
    (orderly.framed.ask _).map) fun scope => ?_
  refine orderly.framed.pendingWrite ?_
  refine (orderly.framed.recordIntent named).keeps.bind fun intent => ?_
  exact (keeps_ofExcept _).map

end Orderly

def BulkInsertScope.text (scope : BulkInsertScope) (batch : BulkBatch) : String :=
  batchText (batch.rows.map fun row => (scope.statement, row))

variable {permits : String → Prop}

private theorem Detached.modifyOwn {σ : Type} {inv : Assertion σ}
    (detached : Detached guard permits inv)
    (change : σ → σ) : Keeps inv (modifyOwn change : Guarded σ Unit) :=
  spec_modify fun past world holds => detached.owned past world _ holds

namespace Detached

variable {guard : PolicyGuard} {permits : String → Prop}
  {inv : Assertion BulkInsertScope} {scope : BulkInsertScope} {call : DriverCall}

variable (detached : Detached guard permits inv)
include detached

private theorem closingScope {α : Type} (result : Except DriverError α) :
    Keeps inv (Guard.closingScope result) :=
  .result (keeps_when fun _ => detached.modifyOwn _)

theorem executeBulkBatch (batch : BulkBatch) (control : OperationControl)
    (permitted : Unlocked inv → permits (scope.text batch)) :
    Leads (fun past world => inv past world ∧ world.own = scope) inv
      (guard.executeBulkBatch batch control) := by
  refine spec_own (.besides ?_)
  refine .bind (detached.closingScope _) fun _ => ?_
  have checks : Triple inv (do
      guard.requireGovernedWriteAvailable
      guard.checkPreDispatch control : InImport Unit) fun _ _ _ => Unlocked inv := by
    refine .bind detached.writeCheck fun _ => ?_
    refine .given fun unlocked => ?_
    exact .returning detached.framed.checkPreDispatch fun _ _ _ holds => ⟨holds, unlocked⟩
  refine .bind checks.attempt fun checked => ?_
  refine .through (fun _ past world => inv past world ∧ Unlocked inv) ?_ fun _ => ?_
  · cases checked with
    | error error =>
      refine .bind (detached.modifyOwn fun scope => { scope with isOpen := false }) fun _ => ?_
      exact spec_fail le_rfl
    | ok value => exact spec_pure le_rfl
  refine .given fun unlocked => ?_
  split
  · exact keeps_pure _
  refine .bind (detached.framed.caught (detached.statementDispatch rfl
    (permitted unlocked))) fun result => ?_
  refine .bind (detached.closingScope result) fun _ => ?_
  refine (detached.modifyOwn _).bind fun _ => ?_
  split
  · exact keeps_pure _
  refine (detached.framed.ask _).bind fun control => ?_
  refine .bind (detached.framed.caught (detached.bareDispatch rfl)) fun synced => ?_
  exact (keeps_ofExcept _).map

theorem finishBulkInsert (finished : BulkInsertEnd) :
    Keeps inv (guard.finishBulkInsert finished) := by
  refine (detached.modifyOwn _).bind fun _ => ?_
  refine .bind keeps_own fun scope => ?_
  refine .bind (detached.recordVerdict ?_) fun recorded => ?_
  · intro unknown
    exact beq_iff_eq.mpr unknown
  · exact detached.framed.handleWriteOutcomeFailure.map

theorem dropScope : Keeps inv Guard.dropScope := by
  refine .bind keeps_own fun scope => ?_
  exact keeps_when fun _ => detached.framed.disableGovernedWrites

end Detached

/-! ### SQL operations -/

/-- The checks the text of an operation has passed when the driver gets it. -/
def SqlOperation.Admits {σ : Type} (guard : PolicyGuard) (inv : List GuardEvent → World σ → Prop)
    (operation : SqlOperation) : Prop :=
  Admitted guard inv (operation.refusal guard) operation.text
    (operation.isExecution || (guard.analyzeStatement operation.text).facts.writes)

theorem Orderly.sqlOperation {σ : Type} {inv : Assertion σ} (orderly : Orderly guard permits inv)
    (operation : SqlOperation) (permitted : operation.Admits guard inv → permits operation.text) :
    Keeps inv (operation.run guard) := by
  have clearing : Clearing guard (.permitting σ permits) inv (operation.refusal guard)
      operation.text operation.isExecution fun _ past world => inv past world ∧
        operation.refusal guard = none ∧
        Passes guard inv (guard.analyzeStatement operation.text).facts := by
    refine ⟨orderly.framed, fun _ => named, counts, fun _ => orderly.framed.also fun _ _ => id,
      fun _ _ _ holds => holds.1, fun _ _ _ holds accepted clears =>
        ⟨holds, accepted, passes_of_clears clears⟩, ?_, ?_⟩
    · intro _ _ _ _ _ _ _ unlocked _ carries audits _ _
      refine .given fun facts => ?_
      have sends := orderly.statementDispatch carries
        (permitted ⟨facts.1, facts.2, fun _ => unlocked⟩)
      rcases audits with rfl | ⟨mode, rfl⟩
      all_goals refine orderly.framed.runWrite orderly.framed le_rfl named sends ?_
      · exact orderly.framed.auditWriteResult named locks
      · exact orderly.framed.auditTransactionResult named (.inl locks) mode
    intro _ _ _ _ _ _ _ queries reads carries _ audits
    refine .given fun facts => ?_
    have sends := orderly.statementDispatch carries (permitted ⟨facts.1, facts.2, fun governed =>
      absurd governed (by rw [queries, reads]; decide)⟩)
    exact orderly.framed.runRead orderly.framed le_rfl named sends audits
  exact clearing.sqlOperation

end Bookie.Guard
