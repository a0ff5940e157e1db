/-
Frames. A framed assertion survives whatever the guard does around a driver call.
Each function of the guard is shown once to keep every framed assertion, with what it
says of its result.
-/

import Bookie.Guard.Logic

namespace Bookie.Guard

open Bookie.Core Policy Async Async.Future PolicyGuard AuditState

/-- What an assertion grants: the driver calls it allows, given what the caller owns, the
operation ids records may be written under, given the questions asked so far, and the flags
under which a write may be recorded as unknown. -/
structure Terms (σ : Type) where
  allows : σ → DriverCall → Prop
  writes : Nat → Uuid → Prop
  tolerates : AuditState → Prop

def Terms.lenient {σ : Type} (allows : σ → DriverCall → Prop) : Terms σ where
  allows := allows
  writes := fun _ _ => True
  tolerates := fun _ => True

/-- An id that was just drawn may be written under, and it stays so. -/
structure Framed {σ : Type} (guard : PolicyGuard) (terms : Terms σ)
    (inv : List GuardEvent → World σ → Prop) : Prop where
  grows : ∀ past world audit step, world.audit.Le audit → world.step ≤ step → inv past world →
    inv past { world with audit := audit, step := step }
  stays : ∀ id step later, step ≤ later → terms.writes step id → terms.writes later id
  names : ∀ past world, inv past world →
    terms.writes (world.step + 1) (guard.outside.newUuid world.step)
  recorded : ∀ past world event reply, terms.writes world.step event.operationId →
    (event.operationClass.isWrite = true → event.terminalStatus = .unknown →
      terms.tolerates world.audit) →
    (∃ step, reply = guard.outside.record step event) → inv past world →
      inv (past ++ [.recorded event reply]) world
  asked : ∀ past world request reply, inv past world → inv (past ++ [.asked request reply]) world
  faulted : ∀ past world operation, inv past world → inv (past ++ [.faulted operation]) world
  called : ∀ past world call reply, terms.allows world.own call →
    (∃ step, reply = call.summary (guard.outside.call step call)) → inv past world →
      inv (past ++ [.dispatched call reply]) world

/-- A frame under lenient terms: what events do to the assertion is asked for once. -/
theorem Framed.ofEvents {σ : Type} {guard : PolicyGuard} {allows : σ → DriverCall → Prop}
    {inv : List GuardEvent → World σ → Prop}
    (grows : ∀ past world audit step, world.audit.Le audit → inv past world →
      inv past { world with audit := audit, step := step })
    (event : ∀ past world event, (∀ call reply, event = .dispatched call reply →
      allows world.own call) → inv past world → inv (past ++ [event]) world) :
    Framed guard (.lenient allows) inv where
  grows := fun past world audit step le _ => grows past world audit step le
  stays := fun _ _ _ _ _ => trivial
  names := fun _ _ _ => trivial
  recorded := fun past world _ _ _ _ _ => event past world _ fun _ _ => nofun
  asked := fun past world _ _ => event past world _ fun _ _ => nofun
  faulted := fun past world _ => event past world _ fun _ _ => nofun
  called := fun past world _ _ allowed _ => event past world _ fun _ _ same => by
    cases same
    exact allowed

section Assertions

variable {σ : Type} (terms : Terms σ) (inv : Assertion σ)

def Named (id : Uuid) : Prop := ∀ past world, inv past world → terms.writes world.step id

/-- The assertion, once records may be written under this id. -/
def Naming (id : Uuid) (past : List GuardEvent) (world : World σ) : Prop :=
  inv past world ∧ terms.writes world.step id

/-- The assertion, while what the caller owns satisfies a condition. -/
def Holding (kept : σ → Prop) (past : List GuardEvent) (world : World σ) : Prop :=
  inv past world ∧ kept world.own

abbrev Owning (own : σ) : List GuardEvent → World σ → Prop := Holding inv (· = own)

/-- The assertion outlasts a run that starts with this owned. -/
abbrev Lasts {α : Type} (own : σ) (run : Guarded σ α) : Prop := Leads (Owning inv own) inv run

/-- Locked flags let a write be recorded as unknown. -/
def Terms.Locks : Prop := ∀ audit, audit.governedWritesDisabled = true → terms.tolerates audit

def Terms.Bears (operation : AuditOperation) : Prop :=
  operation.cls.isWrite = true → ∀ past world, inv past world → terms.tolerates world.audit

/-- The verdict may be recorded, after the lock it asks for. -/
def Terms.Records (operation : AuditOperation) (verdict : Verdict) : Prop :=
  operation.cls.isWrite = true → verdict.terminalStatus = .unknown → ∀ past world,
    inv past world → (verdict.locks = true → world.audit.governedWritesDisabled = true) →
      terms.tolerates world.audit

def Terms.Counts (counter : Option Counter) : Prop :=
  ∀ sql control past world, inv past world → terms.allows world.own (countCall counter sql control)

end Assertions

section Records

variable {σ : Type} {terms : Terms σ} {inv : Assertion σ}
  {operation : AuditOperation} {verdict : Verdict}

theorem named_naming {id : Uuid} : Named terms (Naming terms inv id) id := fun _ _ holds => holds.2

theorem Terms.bears_of_read (reads : operation.cls.isWrite = false) : terms.Bears inv operation :=
  fun write => absurd (reads.symm.trans write) Bool.false_ne_true

theorem Terms.Bears.records (bears : terms.Bears inv operation) :
    terms.Records inv operation verdict :=
  fun write _ past world holds _ => bears write past world holds

theorem Terms.records (settles : terms.Locks ∨ terms.Bears inv operation)
    (locks : verdict.terminalStatus = .unknown → verdict.locks = true) :
    terms.Records inv operation verdict := by
  rcases settles with tolerates | bears
  · exact fun _ unknown _ world _ locked => tolerates world.audit (locked (locks unknown))
  · exact bears.records

end Records

/-! ### What the caller owns -/

section Own

variable {σ α : Type} {inv stops : Assertion σ} {run : Guarded σ α}
  {post : α → Assertion σ}
  {fails : DriverError → Assertion σ}

theorem keeps_own : Keeps inv (own : Guarded σ σ) := .map keeps_get

theorem spec_own {start : σ} {next : σ → Guarded σ α}
    (continues : Spec (fun past world => inv past world ∧ world.own = start) (next start) post fails
      stops) :
    Spec (fun past world => inv past world ∧ world.own = start) (own >>= next) post fails
      stops := by
  intro past world holds
  have rest := continues past world holds
  rw [← holds.2] at rest
  exact rest

theorem spec_of_owning {kept : σ → Prop}
    (each : ∀ own, kept own → Spec (Owning inv own) run post fails stops) :
    Spec (Holding inv kept) run post fails stops :=
  fun past world holds => each world.own holds.2 past world ⟨holds.1, rfl⟩

theorem keeps_of_owning (each : ∀ own, Lasts inv own run) : Keeps inv run :=
  fun past world holds => each world.own past world ⟨holds, rfl⟩

end Own

namespace Framed

variable {σ α β : Type} {guard : PolicyGuard} {terms : Terms σ} {inv stops : Assertion σ}
  {audited : AuditOperation} {fails : DriverError → Assertion σ} {sql rule reason label : String}
  {facts : StatementFacts} {analysis : StatementAnalysis} {decision : Decision}
  {estimatedRows enforcedRows durationMs : Option Nat} {control : Option OperationControl}
  {counter : Option Counter} {batchId : Option Uuid} {approvalOutcome : AuditApprovalOutcome}
  {previewState : AuditPreviewState} {phase : AuditRecordPhase} {outcome : AuditOutcome}
  {verdict : Verdict} {error : DriverError} {call : DriverCall}

variable (framed : Framed guard terms inv)
include framed

/-! ### More about an assertion -/

/-- A framed assertion together with what flags, questions and events leave alone. -/
theorem and {extra : Assertion σ}
    (grows : ∀ past world audit step, world.audit.Le audit → world.step ≤ step →
      extra past world → extra past { world with audit := audit, step := step })
    (mono : ∀ past world event, extra past world → extra (past ++ [event]) world) :
    Framed guard terms fun past world => inv past world ∧ extra past world where
  grows := fun past world audit step le later holds =>
    ⟨framed.grows past world audit step le later holds.1,
      grows past world audit step le later holds.2⟩
  stays := framed.stays
  names := fun past world holds => framed.names past world holds.1
  recorded := fun past world event reply named tolerated answered holds =>
    ⟨framed.recorded past world event reply named tolerated answered holds.1,
      mono past world _ holds.2⟩
  asked := fun past world request reply holds =>
    ⟨framed.asked past world request reply holds.1, mono past world _ holds.2⟩
  faulted := fun past world operation holds =>
    ⟨framed.faulted past world operation holds.1, mono past world _ holds.2⟩
  called := fun past world call reply allowed answered holds =>
    ⟨framed.called past world call reply allowed answered holds.1, mono past world _ holds.2⟩

theorem also {known : List GuardEvent → Prop}
    (mono : ∀ past event, known past → known (past ++ [event])) :
    Framed guard terms fun past world => inv past world ∧ known past :=
  framed.and (fun _ _ _ _ _ _ => id) fun past _ => mono past

theorem naming (id : Uuid) : Framed guard terms (Naming terms inv id) :=
  framed.and (fun _ _ _ _ _ later => framed.stays id _ _ later) fun _ _ _ holds => holds

theorem holding (kept : σ → Prop) : Framed guard terms (Holding inv kept) :=
  framed.and (fun _ _ _ _ _ _ => id) fun _ _ _ => id

theorem locked : Framed guard terms fun past world =>
    inv past world ∧ world.audit.governedWritesDisabled = true :=
  framed.and (fun _ _ _ _ le _ => le.locked) fun _ _ _ => id

/-! ### Flags and questions -/

theorem asking (question : Nat → α) :
    Spec inv (askOutside guard.outside question)
      (fun answer past world => inv past world ∧ ∃ step, answer = question step) fails stops :=
  spec_of_silent (fun _ => rfl) fun past world holds =>
    ⟨framed.grows past world _ _ (le_join _ _) (Nat.le_succ _) holds, world.step, rfl⟩

theorem ask (question : Nat → α) : Keeps inv (askOutside guard.outside question) :=
  Triple.keeps (framed.asking question)

theorem newUuid :
    Triple inv (guard.newUuid : Guarded σ Uuid) fun id _ world => terms.writes world.step id :=
  spec_of_silent (fun _ => rfl) fun past world holds =>
    ⟨framed.grows past world _ _ (le_join _ _) (Nat.le_succ _) holds,
      framed.names past world holds⟩

theorem locking {past : List GuardEvent} {world : World σ} (holds : inv past world) :
    inv past { world with audit := world.audit.disableGovernedWrites } :=
  framed.grows past world _ _ (le_disableGovernedWrites _) (Nat.le_refl _) holds

theorem disableGovernedWrites : Keeps inv (disableGovernedWrites : Guarded σ Unit) :=
  spec_modify fun _ _ holds => framed.locking holds

private theorem disableGlobally : Keeps inv (disableGlobally : Guarded σ Unit) :=
  spec_modify fun past world holds =>
    framed.grows past world _ _ (le_disableGlobally _) (Nat.le_refl _) holds

theorem pendingWrite {run : Guarded σ α} (keeps : Keeps inv run) :
    Keeps inv (pendingWrite run) :=
  keeps.releasing fun _ _ holds => framed.locking holds

private theorem controlOr {timeoutMs : Nat} :
    Keeps inv (guard.controlOr control timeoutMs) := by
  cases control with
  | some control => exact keeps_pure control
  | none => exact framed.ask _

theorem checkPreDispatch {control : OperationControl} :
    Keeps inv (guard.checkPreDispatch control) := by
  refine .bind (framed.ask _) fun cancelled => ?_
  split
  · exact keeps_fail _
  refine .bind (framed.ask _) fun now => ?_
  split
  · split
    · exact keeps_fail _
    · exact keeps_pure _
  · exact keeps_pure _

theorem governedWritesDisabled :
    Triple inv (guard.governedWritesDisabled : Guarded σ Bool) fun disabled _ world =>
      disabled = world.audit.governedWritesDisabled := by
  refine .bind (framed.ask _) fun _ => ?_
  refine .bind triple_get fun value => ?_
  refine spec_pure fun past world holds => ⟨holds.1, ?_⟩
  have same : value = world := holds.2
  rw [same]

theorem requireGovernedWriteAvailable :
    Triple inv (guard.requireGovernedWriteAvailable : Guarded σ Unit) fun _ _ world =>
      world.audit.governedWritesDisabled = false := by
  refine .bind framed.governedWritesDisabled fun disabled => ?_
  refine spec_when (fun _ => spec_fail and_le_left) fun free past world holds => ?_
  exact ⟨holds.1, holds.2.symm.trans free⟩

theorem governedWriteRefusal :
    Triple inv (guard.governedWriteRefusal : Guarded σ (Option Decision)) fun refusal _ world =>
      (refusal = none → world.audit.governedWritesDisabled = false) ∧
        ∀ decision, refusal = some decision → decision.isDeny = true := by
  refine .bind framed.governedWritesDisabled fun disabled => ?_
  refine spec_pure fun past world holds => ⟨holds.1, ?_⟩
  cases disabled with
  | true => exact ⟨by simp, by rintro decision ⟨⟩; rfl⟩
  | false => exact ⟨fun _ => holds.2.symm, by simp⟩

/-! ### Records -/

/-- The general rule for a record: it is emitted whatever the sink does. -/
private theorem recordSpec {emitted : Assertion σ}
    (emits : ∀ past world timestamp step, inv past world →
      emitted (past ++ [.recorded (guard.auditEvent audited phase outcome durationMs timestamp)
        (guard.outside.record step
          (guard.auditEvent audited phase outcome durationMs timestamp))]) world) :
    Spec inv (guard.record audited phase outcome durationMs)
      (fun result past world => emitted past world ∧
        Answered guard audited phase outcome durationMs result past) fails emitted := by
  refine .bind (framed.asking _) fun timestamp => ?_
  refine .bind ((framed.asking _).besides) fun reply => ?_
  refine .through (fun _ past world => emitted past world ∧
    .recorded (guard.auditEvent audited phase outcome durationMs timestamp) reply ∈ past)
    (spec_emit fun past world holds => ?_) fun _ => ?_
  · obtain ⟨step, rfl⟩ := holds.2
    exact ⟨emits past world timestamp step holds.1,
      List.mem_append_right _ (List.mem_singleton_self _)⟩
  cases reply with
  | accepted | refused => exact spec_pure fun past world holds => ⟨holds.1, timestamp, holds.2⟩
  | panicked => exact spec_crash and_le_left
  | dropped => exact spec_abandon and_le_left

variable (named : Named terms inv audited.operationId)
include named

section

variable (tolerated : audited.cls.isWrite = true → outcome.terminalStatus = .unknown →
  ∀ past world, inv past world → terms.tolerates world.audit)
include tolerated

private theorem record :
    Spec inv (guard.record audited phase outcome durationMs) (fun result past world =>
      inv past world ∧ Answered guard audited phase outcome durationMs result past) fails inv :=
  framed.recordSpec fun past world _ step holds => framed.recorded past world _ _
    (named past world holds) (fun write unknown => tolerated write unknown past world holds)
    ⟨step, rfl⟩ holds

theorem recordOutcome : Keeps inv (guard.recordOutcome audited outcome) :=
  Triple.keeps (framed.record named tolerated)

end

/-- An intent is answered, or the run stops. -/
private theorem recordIntentSpec :
    Spec inv (guard.recordIntent audited) (fun result past world => inv past world ∧
      Answered guard audited .intent (pendingOutcome audited.cls) none result past) fails inv := by
  refine .bind (framed.record named fun _ unknown => by cases unknown) fun result => ?_
  let known : Assertion σ := fun past world => inv past world ∧
    Answered guard audited .intent (pendingOutcome audited.cls) none result past
  have answered : Framed guard terms known := framed.also fun _ event found => found.append event
  refine .through (fun _ => known) (spec_when (fun _ => spec_modify fun _ _ holds =>
    answered.locking holds) fun _ _ _ => id) fun _ => ?_
  refine .through (fun _ => known) (spec_when (fun _ => ?_) fun _ _ _ => id) fun _ =>
    spec_pure le_rfl
  refine .bind (.weaken (answered.record (fun past world holds => named past world holds.1)
    fun _ unknown => by cases unknown) le_rfl (fun _ _ _ holds => holds.1)
    le_rfl and_le_left) fun recorded => ?_
  exact spec_when (fun _ => spec_modify fun past world holds => answered.grows past world _ _
    (le_disableGlobally _) (Nat.le_refl _) holds) fun _ _ _ => id

theorem recordIntent : Triple inv (guard.recordIntent audited) fun result past _ =>
      Answered guard audited .intent (pendingOutcome audited.cls) none result past :=
  framed.recordIntentSpec named

private theorem refuseOperation {post : α → Assertion σ}
    (known : outcome.terminalStatus ≠ .unknown) :
    Spec inv (guard.refuseOperation audited outcome error : Guarded σ α) post (fun _ => inv)
      inv := by
  refine .bind (framed.recordOutcome named fun _ unknown => absurd unknown known)
    fun recorded => ?_
  exact .bind (keeps_ofExcept _) fun _ => spec_fail le_rfl

omit named in
theorem operation :
    Triple inv (guard.operation sql batchId facts decision approvalOutcome previewState)
      fun operation _ world => terms.writes world.step operation.operationId ∧
        operation.sql = sql ∧ operation.cls.isWrite = facts.writes :=
  .bind framed.newUuid fun _ => spec_pure fun _ _ holds =>
    ⟨holds.1, holds.2, rfl, isWrite_fromStatement facts⟩

omit named in
theorem metadataOperation {name : String} {targets : List String} :
    Triple inv (guard.metadataOperation name targets) fun operation _ world =>
      terms.writes world.step operation.operationId ∧ operation.cls.isWrite = false :=
  .bind framed.newUuid fun _ => spec_pure fun _ _ holds => ⟨holds.1, holds.2, rfl⟩

omit named in
theorem finishOperation {cls : AuditOperationClass} {batchId : Uuid} :
    Triple inv (guard.finishOperation sql rule cls batchId) fun operation _ world =>
      terms.writes world.step operation.operationId ∧ True :=
  .bind framed.newUuid fun _ => spec_pure fun _ _ holds => ⟨holds.1, holds.2, trivial⟩

omit named in
/-- A run that names an operation and keeps an assertion while it writes under it. -/
theorem under {first : Guarded σ AuditOperation} {next : AuditOperation → Guarded σ α}
    {about : AuditOperation → Prop}
    (begins : Triple inv first fun operation _ world =>
      terms.writes world.step operation.operationId ∧ about operation)
    (continues : ∀ operation, about operation →
      Framed guard terms (Naming terms inv operation.operationId) →
      Keeps (Naming terms inv operation.operationId) (next operation)) :
    Keeps inv (first >>= next) := by
  refine Spec.bind begins fun operation => ?_
  refine .assuming (about operation) (fun _ _ holds => holds.2.2) fun fact => ?_
  exact Leads.weaken (continues operation fact (framed.naming _))
    (fun _ _ holds => ⟨holds.1, holds.2.1⟩) and_le_left

theorem prepareGovernedRead : Keeps inv (guard.prepareGovernedRead audited) := by
  unfold PolicyGuard.prepareGovernedRead
  split
  · exact keeps_pure _
  · exact .bind (framed.recordIntent named).keeps fun _ => keeps_ofExcept _

omit named in
theorem recordVerdictSpec {final : Assertion σ}
    (emits : ∀ past world outcome durationMs timestamp step,
      outcome.terminalStatus = verdict.terminalStatus →
      (verdict.locks = true → world.audit.governedWritesDisabled = true) → inv past world →
      final (past ++ [.recorded (guard.auditEvent audited .outcome outcome durationMs timestamp)
        (guard.outside.record step
          (guard.auditEvent audited .outcome outcome durationMs timestamp))]) world) :
    Spec inv (guard.recordVerdict audited verdict) (fun recorded past world =>
      final past world ∧ VerdictAnswered guard audited verdict recorded past) fails final := by
  have locked : Framed guard terms fun past world => inv past world ∧
      (verdict.locks = true → world.audit.governedWritesDisabled = true) :=
    framed.and (fun _ _ _ _ le _ holds locks => le.locked (holds locks)) fun _ _ _ => id
  refine .through (fun _ past world => inv past world ∧
    (verdict.locks = true → world.audit.governedWritesDisabled = true)) ?_ fun _ => ?_
  · refine spec_when (fun locks => ?_) fun free past world holds => ?_
    · refine spec_modify fun past world holds => ⟨framed.locking holds, fun _ => ?_⟩
      exact locked_disableGovernedWrites _
    · exact ⟨holds, fun locks => absurd (free.symm.trans locks) Bool.false_ne_true⟩
  refine .bind (locked.asking _) fun elapsed => ?_
  refine .weaken (locked.recordSpec fun past world timestamp step holds =>
    emits past world _ _ timestamp step rfl holds.2 holds.1) and_le_left
    (fun _ _ _ holds => ⟨holds.1, elapsed, holds.2⟩) le_rfl
    le_rfl

theorem recordVerdictAnswered (records : terms.Records inv audited verdict) :
    Triple inv (guard.recordVerdict audited verdict) fun recorded past _ =>
      VerdictAnswered guard audited verdict recorded past :=
  framed.recordVerdictSpec fun past world _ _ _ step same locked holds =>
    framed.recorded past world _ _ (named past world holds)
      (fun write unknown => records write (same.symm.trans unknown) past world holds locked)
      ⟨step, rfl⟩ holds

theorem recordVerdict (records : terms.Records inv audited verdict) :
    Keeps inv (guard.recordVerdict audited verdict) :=
  (framed.recordVerdictAnswered named records).keeps

omit named in
theorem handleWriteOutcomeFailure {result : Except AuditError Unit} :
    Keeps inv (handleWriteOutcomeFailure result : Guarded σ Unit) := by
  cases result with
  | ok _ => exact keeps_pure _
  | error error => exact .bind framed.disableGlobally fun _ => keeps_fail _

theorem auditReadResult (bears : terms.Bears inv audited) (result : Except DriverError α)
    (rows : Option Nat) :
    Keeps inv (guard.auditReadResult audited result rows) :=
  .result (framed.recordVerdict named bears.records)

theorem auditControlledReadResult (bears : terms.Bears inv audited) (result : Except DriverError α)
    (rows : Option Nat) :
    Keeps inv (guard.auditControlledReadResult audited result rows) :=
  .result (framed.recordVerdict named bears.records)

theorem auditTransactionResult (settles : terms.Locks ∨ terms.Bears inv audited)
    (mode : TransactionAuditMode) (result : Except DriverError α) (rows : Option Nat) :
    Keeps inv (guard.auditTransactionResult mode audited result rows) := by
  refine .bind (framed.recordVerdict named (Terms.records settles
    (resultVerdict_settles .notApplicable rows (errorOutcome_settles mode) result).2))
      fun recorded => ?_
  split
  · exact framed.handleWriteOutcomeFailure
  · exact keeps_ofExcept _

theorem auditWriteResult (locks : terms.Locks) (result : Except DriverError α) (rows : Option Nat) :
    Keeps inv (guard.auditWriteResult audited result rows) :=
  .bind (framed.recordVerdict named (Terms.records (.inl locks)
    (resultVerdict_settles .notApplicable rows writeFailure_settles result).2)) fun _ =>
      framed.handleWriteOutcomeFailure

omit named

theorem ignoresFaults : IgnoresFaults inv := framed.faulted

theorem caught {pre : Assertion σ} {stopped : String → DriverError}
    {execute : Guarded σ α} (spec : Leads pre inv execute) :
    Spec pre (guard.caught stopped label execute) (fun _ => inv) fails inv := by
  refine (caught_result spec framed.ignoresFaults).returning fun result past world holds => ?_
  cases result with
  | ok | error => exact holds

theorem dispatchSpec {next : Assertion σ}
    (emits : ∀ past world step, inv past world →
      next (past ++ [.dispatched call (call.summary (guard.outside.call step call))]) world) :
    Leads inv next (guard.dispatch call : Guarded σ call.Result) := by
  refine dispatch_at fun past world audit le holds => ?_
  have moved := emits past _ world.step
    (framed.grows past world audit (world.step + 1) le (Nat.le_succ _) holds)
  cases answer : guard.outside.call world.step call <;> rw [answer] at moved <;> exact moved

theorem dispatch (allowed : ∀ past world, inv past world → terms.allows world.own call) :
    Keeps inv (guard.dispatch call : Guarded σ call.Result) :=
  framed.dispatchSpec fun past world step holds =>
    framed.called past world call _ (allowed past world holds) ⟨step, rfl⟩ holds

theorem requestApproval {request : ApprovalRequest} :
    Triple inv (guard.requestApproval request control) fun answer past _ =>
      (answer = .ok .allowOnce → .asked request (.answered .allowOnce) ∈ past) ∧
        ∀ error, answer = .error error → error = .cancelled ∨ error = .timedOut := by
  refine .bind (framed.ask _) fun reply => ?_
  have emitted : Triple inv (Future.emit (.asked request reply) : Guarded σ Unit) fun _ past _ =>
      .asked request reply ∈ past :=
    spec_emit fun past world holds => ⟨framed.asked past world _ _ holds, by simp⟩
  refine .bind emitted fun _ => ?_
  split
  · refine spec_pure fun past world holds => ⟨holds.1, ?_, by simp⟩
    rintro ⟨⟩
    exact holds.2
  · exact spec_pure fun past world holds => ⟨holds.1, by simp, by simp⟩
  · exact spec_pure fun past world holds => ⟨holds.1, by simp, by simp⟩
  · exact spec_crash fun past world holds => holds.1
  · exact spec_abandon fun past world holds => holds.1

theorem refusal {post : α → Assertion σ} (known : outcome.terminalStatus ≠ .unknown) :
    Spec inv (do
      let operation ← guard.operation sql batchId facts decision approvalOutcome previewState
      guard.refuseOperation operation outcome error : Guarded σ α) post (fun _ => inv) inv := by
  refine .bind framed.operation fun operation => ?_
  exact .weaken ((framed.naming operation.operationId).refuseOperation named_naming known)
    (fun _ _ holds => ⟨holds.1, holds.2.1⟩) le_rfl (fun _ _ _ holds => holds.1)
    and_le_left

private theorem resolveApproval {preview : Option String} :
    Triple inv
      (guard.resolveApproval sql analysis decision rule reason preview estimatedRows control)
      fun authorization past _ => authorization.analysis = analysis ∧
        Approved guard sql analysis.facts past := by
  refine .bind framed.requestApproval fun answer => ?_
  match answer with
  | .error error =>
    refine .assuming _ (fun _ _ holds => holds.2.2 error rfl) fun lost => ?_
    refine (framed.refusal ?_).besides
    rcases lost with rfl | rfl <;> simp [controlledErrorTerminalStatus]
  | .ok .allowOnce =>
    exact spec_pure fun past world holds =>
      ⟨holds.1, rfl, _, holds.2.1 rfl, rfl, rfl, rfl, rfl⟩
  | .ok .deny =>
    exact (framed.refusal (by simp [deniedOutcome])).besides

theorem resolveAuthorization :
    Triple inv (guard.resolveAuthorization sql analysis decision estimatedRows control)
      fun authorization past _ => authorization.analysis = analysis ∧
        Cleared guard sql analysis.facts decision past := by
  cases decision with
  | allow rule => exact spec_pure fun past world holds => ⟨holds, rfl, .inl rfl⟩
  | deny rule message => exact framed.refusal (by simp [deniedOutcome])
  | requireApproval rule reason preview =>
    exact framed.resolveApproval.weaken fun _ _ _ _ holds => ⟨holds.1, .inr ⟨rfl, holds.2⟩⟩

private theorem resolveAuthorization_deny {post : Authorization → Assertion σ}
    (denied : decision.isDeny = true) :
    Spec inv (guard.resolveAuthorization sql analysis decision estimatedRows control) post
      (fun _ => inv) inv := by
  refine framed.resolveAuthorization.returning fun authorization past world holds => ?_
  have allowed := holds.2.2.not_deny
  rw [denied] at allowed
  exact absurd allowed (by decide)

section

variable (counts : terms.Counts inv counter)
include counts

private theorem countQuery {control : OperationControl} :
    Spec inv (guard.countQuery counter sql control)
      (fun value past world => inv past world ∧ Counted sql value.rowCount past)
      (fun _ past world => inv past world ∧ Counted sql none past)
      (fun past world => inv past world ∧ Counted sql none past) := by
  have last : ∀ past reply, Counted sql (DriverReply.rows reply)
      (past ++ [.dispatched (countCall counter sql control) reply]) := fun past reply =>
    ⟨counter, control, reply, List.mem_append_right _ (List.mem_singleton_self _), rfl⟩
  rcases counter with _ | ⟨⟨⟩⟩ <;>
  · refine dispatch_at fun past world audit le holds => ?_
    have grown := framed.grows past world audit (world.step + 1) le (Nat.le_succ _) holds
    split
    all_goals
      rename_i answer
      exact ⟨framed.called past _ _ _ (counts sql control past world holds)
        ⟨world.step, by rw [answer]; rfl⟩ grown, last past _⟩

private theorem estimateBlastRadius :
    Triple inv (guard.estimateBlastRadius analysis control counter) fun rows past _ =>
      match analysis.blastRadius with
      | none => rows = none
      | some (.known count) => rows = some count
      | some (.countQuery rewrite) => Counted rewrite.countSql rows past := by
  unfold PolicyGuard.estimateBlastRadius
  cases analysis.blastRadius with
  | none => exact spec_pure fun _ _ holds => ⟨holds, rfl⟩
  | some radius =>
  cases radius with
  | known rows => exact spec_pure fun _ _ holds => ⟨holds, rfl⟩
  | countQuery rewrite =>
  refine .bind framed.metadataOperation fun operation => ?_
  refine .assuming _ (fun _ _ holds => holds.2.2) fun isRead => ?_
  have naming := framed.naming operation.operationId
  refine .before (show Spec (Naming terms inv operation.operationId) _ _ _ _ from ?_)
    fun _ _ holds => ⟨holds.1, holds.2.1⟩
  have leaves : ∀ past world, Naming terms inv operation.operationId past world →
      inv past world := and_le_left
  refine .bind ((naming.recordIntent named_naming).keeps.leaving leaves) fun intent => ?_
  refine .bind ((keeps_ofExcept _).leaving leaves) fun _ => ?_
  refine .bind (naming.controlOr.leaving leaves) fun control => ?_
  refine .through (fun result past world => Naming terms inv operation.operationId
    past world ∧ Counted rewrite.countSql (countedRows result) past) ?_ fun result => ?_
  · have ignores : ∀ rows, IgnoresFaults fun past world =>
        Naming terms inv operation.operationId past world ∧
          Counted rewrite.countSql rows past := fun rows past world operation holds =>
      ⟨naming.ignoresFaults past world operation holds.1, holds.2.append _⟩
    refine .weaken (caught_result (naming.countQuery
      (fun sql control past world holds => counts sql control past world holds.1)) (ignores none))
      le_rfl (fun result past world holds => ?_)
      le_rfl fun _ _ holds => holds.1.1
    cases result with
    | ok | error => exact holds
  have counted := naming.also fun past event (found : Counted rewrite.countSql
    (countedRows result) past) => found.append event
  refine .bind (Keeps.leaving (counted.recordVerdict (fun _ _ holds => holds.1.2)
    (Terms.bears_of_read isRead).records) fun _ _ holds => holds.1.1) fun recorded => ?_
  refine Spec.bind (Keeps.leaving (keeps_ofExcept _) fun _ _ holds => holds.1.1) fun _ => ?_
  exact spec_pure fun _ _ holds => ⟨holds.1.1, holds.2⟩

private theorem estimateRows :
    Triple inv (guard.estimateRows analysis enforcedRows control counter) fun rows past _ =>
      Estimated guard analysis enforcedRows rows past := by
  unfold PolicyGuard.estimateRows Estimated
  split
  · cases enforcedRows with
    | some bound => exact spec_pure fun _ _ holds => ⟨holds, rfl⟩
    | none =>
      refine (framed.estimateBlastRadius counts).weaken ?_
      split <;> simp_all
  · exact spec_pure fun _ _ holds => ⟨holds, rfl⟩

theorem authorizeWithBound :
    Triple inv (guard.authorizeWithBound sql analysis enforcedRows control counter)
      fun authorization past _ => authorization.analysis = analysis ∧
        PolicyClears guard inv sql analysis enforcedRows past := by
  unfold PolicyGuard.authorizeWithBound
  split
  · rename_i decided
    exact framed.resolveAuthorization.weaken fun _ _ _ _ holds =>
      ⟨holds.1, .inl ⟨decided, holds.2⟩⟩
  rename_i undecided
  refine .bind framed.governedWriteRefusal fun refusal => ?_
  cases refusal with
  | some decision =>
    refine .assuming _ (fun _ _ holds => holds.2.2 decision rfl) fun denied => ?_
    exact (framed.resolveAuthorization_deny denied).besides
  | none =>
  refine .assuming
    (∃ past world, inv past world ∧ world.audit.governedWritesDisabled = false)
    (fun past world holds => ⟨past, world, holds.1, holds.2.1 rfl⟩) fun unlocked => ?_
  refine .besides ?_
  refine .bind (framed.estimateRows counts) fun rows => ?_
  have known := framed.also fun past event
    (estimated : Estimated guard analysis enforcedRows rows past) => estimated.append event
  refine .weaken known.resolveAuthorization le_rfl (fun _ past world holds => ?_)
    (fun _ _ _ holds => holds.1)
    and_le_left
  refine ⟨holds.1.1, holds.2.1, .inr ⟨?_, unlocked, rows, holds.1.2, holds.2.2⟩⟩
  simpa using undecided

end

theorem authorizeAnalysis (counts : terms.Counts inv none) :
    Triple inv (guard.authorizeAnalysis sql analysis enforcedRows control)
      fun authorization past _ => authorization.analysis = analysis ∧
        sharedConnectionDecision guard.front sql guard.ctx.driverId analysis.facts = none ∧
        PolicyClears guard inv sql analysis enforcedRows past := by
  unfold PolicyGuard.authorizeAnalysis
  split
  · rename_i decision shared
    exact framed.resolveAuthorization_deny (sharedConnectionDecision_deny shared)
  · rename_i shared
    exact (framed.authorizeWithBound counts).weaken fun _ _ _ _ holds => ⟨holds.1, shared, holds.2⟩

theorem authorizeInTransaction (counts : terms.Counts inv (some .transaction)) :
    Triple inv (guard.authorizeInTransaction sql control)
      fun authorization past _ => authorization.analysis = guard.analyzeStatement sql ∧
        guard.transactionDecision sql (guard.analyzeStatement sql).facts = none ∧
        PolicyClears guard inv sql (guard.analyzeStatement sql) none past := by
  unfold PolicyGuard.authorizeInTransaction
  dsimp only
  split
  · rename_i decision refused
    exact framed.resolveAuthorization_deny (transactionDecision_deny refused)
  · rename_i allowed
    exact (framed.authorizeWithBound counts).weaken fun _ _ _ _ holds => ⟨holds.1, allowed, holds.2⟩

/-! ### Governed reads and writes -/

variable {execute : Guarded σ β} {finish : β → α} {rows : α → Option Nat}
  {audit : AuditOperation → Except DriverError α → Option Nat → Guarded σ Unit}
  {start ready : Assertion σ} (starts : Framed guard terms start)
include starts

theorem runRead (leaves : start ≤ inv)
    (named : Named terms inv audited.operationId) (executes : Leads start inv execute)
    (audits : ∀ result count, Keeps inv (audit audited result count)) :
    Leads start inv (guard.runRead audited label execute finish rows audit) := by
  refine .bind ((starts.prepareGovernedRead fun past world holds =>
    named past world (leaves past world holds)).leaving leaves) fun _ => ?_
  refine .bind (framed.caught executes) fun result => ?_
  exact .result (audits _ _)

/-- A write leaves `final` if the intent makes it `ready`, the dispatch leaves it open, the
terminal record gives `final`, and so does the lock a pending write leaves behind. -/
theorem runWriteSpec {final : Assertion σ}
    (refused : start ≤ final)
    (named : Named terms start audited.operationId) (intends : ∀ result, guard.handleIntentFailure
      result = .ok () → ∀ past world, start past world → Answered guard audited .intent
      (pendingOutcome audited.cls) none result past → ready past world)
    (executes : Leads ready inv execute) (audits : ∀ result count, Spec inv (audit audited result
      count) (fun _ => final) (fun _ => inv) inv) (releases : ∀ past world, inv past world → final
      past { world with audit := world.audit.disableGovernedWrites }) :
    Leads start final (guard.runWrite audited label execute finish rows audit) := by
  refine .bind ((starts.recordIntent named).leaving refused) fun intent => ?_
  refine .through (fun _ => ready) (spec_ofExcept (fun value accepted past world holds => ?_)
    fun _ _ past world holds => refused past world holds.1) fun _ => ?_
  · exact intends intent accepted past world holds.1 holds.2
  refine .result (.releasing ?_ (fun _ => releases) releases)
  refine .bind (framed.caught executes) fun result => ?_
  exact .map (audits _ _)

theorem runWrite (leaves : start ≤ inv)
    (named : Named terms inv audited.operationId) (executes : Leads start inv execute)
    (audits : ∀ result count, Keeps inv (audit audited result count)) :
    Leads start inv (guard.runWrite audited label execute finish rows audit) :=
  framed.runWriteSpec starts leaves
    (fun past world holds => named past world (leaves past world holds))
    (fun _ _ _ _ holds _ => holds) executes audits fun _ _ holds => framed.locking holds

end Framed

/-! ### Stable assertions -/

/-- The events of a guard that only decides. Every reply is one the outside gives. -/
def Quiet (guard : PolicyGuard) : GuardEvent → Prop
  | .recorded event reply =>
    (∃ step, reply = guard.outside.record step event) ∧
      (event.operationClass.isWrite = true → event.terminalStatus ≠ .unknown)
  | .asked _ _ | .faulted _ => True
  | .dispatched call reply =>
    call.isCount = true ∧ ∃ step, reply = call.summary (guard.outside.call step call)

/-- An assertion that survives lockdown flags being set and the events a guard emits while it
only decides. -/
structure Stable {σ : Type} (guard : PolicyGuard) (inv : List GuardEvent → World σ → Prop) :
    Prop where
  grows : ∀ past world audit step, world.audit.Le audit → inv past world →
    inv past { world with audit := audit, step := step }
  event : ∀ past world event, Quiet guard event → inv past world → inv (past ++ [event]) world

/-- The terms of a guard that only decides. -/
def Terms.deciding (σ : Type) : Terms σ where
  allows := fun _ call => call.isCount = true
  writes := fun _ _ => True
  tolerates := fun _ => False

namespace Stable

variable {σ : Type} {guard : PolicyGuard} {inv : Assertion σ}

theorem framed (stable : Stable guard inv) : Framed guard (.deciding σ) inv where
  grows := fun past world audit step le _ => stable.grows past world audit step le
  stays := fun _ _ _ _ => id
  names := fun _ _ _ => trivial
  recorded := fun past world _ _ _ tolerated answered =>
    stable.event past world _ ⟨answered, tolerated⟩
  asked := fun past world _ _ => stable.event past world _ trivial
  faulted := fun past world _ => stable.event past world _ trivial
  called := fun past world _ _ counts answered => stable.event past world _ ⟨counts, answered⟩

theorem counts (counter : Option Counter) : (Terms.deciding σ).Counts inv counter := by
  intro sql control past world _
  rcases counter with _ | ⟨⟨⟩⟩ <;> rfl

theorem and {extra : Assertion σ} (stable : Stable guard inv) (other : Stable guard extra) :
    Stable guard fun past world => inv past world ∧ extra past world where
  grows := fun past world audit step le holds =>
    ⟨stable.grows past world audit step le holds.1, other.grows past world audit step le holds.2⟩
  event := fun past world event quiet holds =>
    ⟨stable.event past world event quiet holds.1, other.event past world event quiet holds.2⟩

theorem ofPast (known : List GuardEvent → Prop)
    (mono : ∀ past event, known past → known (past ++ [event])) :
    Stable guard fun past (_ : World σ) => known past where
  grows := fun _ _ _ _ _ => id
  event := fun past _ event _ holds => mono past event holds

end Stable

end Bookie.Guard
