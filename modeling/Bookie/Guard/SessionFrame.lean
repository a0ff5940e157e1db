/-
Frames for sessions. Each rule asks only for the changes its operation can make to
what a session owns, and states which checks a text has passed when the driver gets
it.
-/

import Bookie.Guard.Orderly

namespace Bookie.Guard

open Bookie.Core Policy Async Async.Future PolicyGuard PolicySession Bool

/-! ### What a session lets through -/

/-- The checks of a statement that does not control the transaction. -/
structure StatementAdmits (guard : PolicyGuard)
    (inv : List GuardEvent → World PolicySession → Prop) (session : PolicySession) (sql : String) :
    Prop where
  visible : guard.front.hidesTransactionControl sql guard.ctx.driverId = false
  snapshot : session.inReadOnlyBatch = true →
    refusedInSnapshot (guard.analyzeStatement sql).facts.effects = false
  admitted : Admitted guard inv none sql (guard.analyzeStatement sql).facts.writes

def TextAdmits (guard : PolicyGuard) (inv : List GuardEvent → World PolicySession → Prop)
    (session : PolicySession) (sql : String) : Prop :=
  match guard.front.transactionControl sql guard.ctx.driverId with
  | some .beginReadWrite => guard.ctx.readOnly = false ∧ session.batch = none
  | some .begin => session.batch = none
  | some .beginReadOnly => False
  | some .beginReadOnlySnapshot => guard.ctx.driverId = "postgres" ∧ session.batch = none
  | some (.commit _) => session.batch.isSome = true ∧ Unlocked inv
  | some (.rollback _) => session.batch.isSome = true
  | none => StatementAdmits guard inv session sql

variable {session : PolicySession}

theorem TextAdmits.ofExtra {guard : PolicyGuard} {inv : Assertion PolicySession} {sql : String}
    {extra : ExtraSets} (admits : TextAdmits guard inv { session with extra := extra } sql) :
    TextAdmits guard inv session sql := by
  unfold TextAdmits at admits ⊢
  split
  case h_7 kind =>
    rw [kind] at admits
    exact ⟨admits.visible, admits.snapshot, admits.admitted⟩
  all_goals
    rename_i kind
    rw [kind] at admits
    exact admits

def PolicySession.isReady (session : PolicySession) : Prop :=
  session.cursor = none ∧ session.retired = false

/-- The start of a snapshot is audited as a read; if its text is classified as a write, its
unknown outcome is recorded without a lock. -/
def SnapshotSettles (guard : PolicyGuard) (inv : List GuardEvent → World PolicySession → Prop)
    (session : PolicySession) (sql : String) : Prop :=
  guard.front.transactionControl sql guard.ctx.driverId = some .beginReadOnlySnapshot →
    guard.ctx.driverId = "postgres" → session.batch = none →
    (guard.analyzeStatement sql).facts.writes = true → ∀ past world, inv past world →
      world.audit.governedWritesDisabled = true

/-- The texts an operation of a session may send, with the checks they have passed. -/
def SessionOperation.Sends (guard : PolicyGuard)
    (inv : List GuardEvent → World PolicySession → Prop) (session : PolicySession) :
    SessionOperation → String → Prop
  | .queryParamsControlled sql _ _, text | .queryResultSetsParamsControlled sql _ _, text =>
    text = sql ∧ session.isReady ∧ TextAdmits guard inv session sql
  | .commitControlled _, text =>
    text = "COMMIT" ∧ session.isReady ∧ session.batch.isSome = true ∧ Unlocked inv
  | .openQueryCursorControlled sql _ _, text =>
    text = sql ∧ session.isReady ∧ session.inReadOnlyBatch = true ∧
      (guard.analyzeStatement sql).facts.isSingleRead = true ∧
      Passes guard inv (guard.analyzeStatement sql).facts
  | .close, text =>
    text = "ROLLBACK" ∧ session.retired = false ∧
      session.batch.any (fun batch => !batch.uncertain) = true
  | _, _ => False

def SessionOperation.Settles (guard : PolicyGuard)
    (inv : List GuardEvent → World PolicySession → Prop) (session : PolicySession) :
    SessionOperation → Prop
  | .queryParamsControlled sql _ _ | .queryResultSetsParamsControlled sql _ _ =>
    session.isReady → SnapshotSettles guard inv session sql
  | _ => True

/-- The start of a snapshot is audited as a read; if its text is classified as a write, any
outcome of it may be recorded. -/
def SnapshotBorne (guard : PolicyGuard) (terms : Terms PolicySession)
    (inv : List GuardEvent → World PolicySession → Prop) (session : PolicySession) (sql : String) :
    Prop :=
  guard.front.transactionControl sql guard.ctx.driverId = some .beginReadOnlySnapshot →
    guard.ctx.driverId = "postgres" → session.batch = none →
    (guard.analyzeStatement sql).facts.writes = true → ∀ past world, inv past world →
      terms.tolerates world.audit

/-! ### Changes of a session -/

def Survives {σ : Type} (inv : List GuardEvent → World σ → Prop) (change : σ → σ) : Prop :=
  ∀ past world, inv past world → inv past { world with own := change world.own }

private theorem Survives.modifyOwn {σ : Type} {inv : Assertion σ} {change : σ → σ}
    (survives : Survives inv change) : Keeps inv (Guard.modifyOwn change : Guarded σ Unit) :=
  spec_modify survives

/-- A note about a batch leaves its identity. -/
def IsNote (change : OpenBatch → OpenBatch) : Prop :=
  ∀ batch, (change batch).id = batch.id ∧ (change batch).readOnly = batch.readOnly

/-- A frame that does not depend on the retirement of a session and its result sets. -/
structure SessionFramed (guard : PolicyGuard) (terms : Terms PolicySession)
    (inv : List GuardEvent → World PolicySession → Prop) : Prop
    extends Framed guard terms inv where
  locks : terms.Locks
  retires : Survives inv fun session => { session with retired := true }
  collects : ∀ extra : ExtraSets → ExtraSets,
    Survives inv fun session => { session with extra := extra session.extra }

section Changes

variable (inv : Assertion PolicySession)

def Notes : Prop :=
  ∀ change, IsNote change →
    Survives inv fun session => { session with batch := session.batch.map change }

def Batches : Prop :=
  ∀ change : Option OpenBatch → Option OpenBatch,
    Survives inv fun session => { session with batch := change session.batch }

def Cursors : Prop :=
  ∀ change : Option ActiveCursor → Option ActiveCursor,
    Survives inv fun session => { session with cursor := change session.cursor }

end Changes

/-- A session once it was asked whether it is usable. Only one that is not retired says so,
and asking may retire it. -/
def PolicySession.Asked (session : PolicySession) (usable : Bool) (own : PolicySession) : Prop :=
  (own = session ∨ usable = false ∧ own = { session with retired := true }) ∧
    (usable = true → session.retired = false)

private theorem PolicySession.Asked.of_usable {session own : PolicySession} {usable : Bool}
    (asked : session.Asked usable own) (isUsable : usable = true) :
    own = session ∧ session.retired = false := by
  rcases asked.1 with same | ⟨unusable, _⟩
  · exact ⟨same, asked.2 isUsable⟩
  · rw [isUsable] at unusable
    cases unusable

private theorem PolicySession.finishVerdict_locks {kind : Finish} {batch : OpenBatch}
    {result : Except DriverError QueryResult}
    (unknown : (finishVerdict kind batch result).terminalStatus = .unknown) :
    (finishVerdict kind batch result).locks = true := by
  unfold finishVerdict at unknown ⊢
  dsimp only at unknown ⊢
  split at unknown
  · cases unknown
  rename_i kept
  rw [if_neg kept]
  unfold finishOutcome at unknown ⊢
  split at unknown
  · cases unknown
  · cases unknown
  · cases unknown
  split at unknown
  · rename_i ambiguous
    rw [if_pos ambiguous]
  · cases unknown

section Assertions

variable {terms : Terms PolicySession} {inv : Assertion PolicySession}

private theorem Survives.naming {change : PolicySession → PolicySession}
    (survives : Survives inv change) (id : Uuid) : Survives (Naming terms inv id) change :=
  fun past world holds => ⟨survives past world holds.1, holds.2⟩

theorem Batches.notes (batches : Batches inv) : Notes inv :=
  fun change _ => batches fun batch => batch.map change

private theorem Cursors.keeping {kept : PolicySession → Prop} (cursors : Cursors inv)
    (free : ∀ (change : Option ActiveCursor → Option ActiveCursor) own, kept own →
      kept { own with cursor := change own.cursor }) :
    Cursors (Holding inv kept) :=
  fun change past world holds => ⟨cursors change past world holds.1, free change _ holds.2⟩

private theorem named_owning {id : Uuid} : Named terms (Owning (Naming terms inv id) session) id :=
  fun _ _ holds => holds.1.2

private theorem Unlocked.ofOwning (unlocked : Unlocked (Owning inv session)) : Unlocked inv := by
  obtain ⟨past, world, holds, free⟩ := unlocked
  exact ⟨past, world, holds.1, free⟩

private theorem Passes.ofOwning {guard : PolicyGuard} {facts : StatementFacts}
    (passes : Passes guard (Owning inv session) facts) : Passes guard inv facts :=
  passes.imp_right fun eligible => ⟨eligible.1, eligible.2.ofOwning⟩

end Assertions

namespace SessionFramed

variable {α β : Type} {guard : PolicyGuard} {terms : Terms PolicySession}
  {inv assertion : Assertion PolicySession} {session : PolicySession}
  {sql : String} {params : List Value} {control : OperationControl}
  {analysis : StatementAnalysis} {authorization : Authorization} {batchId : Uuid}
  {cursorId : QueryCursorId} {fails : DriverError → Assertion PolicySession}
  {stops : Assertion PolicySession}

def statementCalls (sql : String) (params : List Value) (control : OperationControl) :
    List DriverCall :=
  [.query .session .statement sql (some params) (some control),
    .queryResultSets .session sql params control]

theorem forall_statementCalls {allowed : DriverCall → Prop}
    (one : allowed (.query .session .statement sql (some params) (some control)))
    (other : allowed (.queryResultSets .session sql params control)) :
    ∀ call ∈ statementCalls sql params control, allowed call :=
  List.forall_mem_cons.mpr ⟨one, List.forall_mem_singleton.mpr other⟩

def beginCall (sql : String) (control : OperationControl) : DriverCall :=
  .query .session .begin sql (some []) (some control)

def finishCall (sql : String) (control : OperationControl) : DriverCall :=
  .query .session .finish sql (some []) (some control)

variable {post : α → Assertion PolicySession}

section

variable (framed : Framed guard terms assertion)
include framed

private theorem refuse {rule : String} {error : DriverError} :
    Spec assertion (refuse guard sql rule error : InSession α) post
      (fun _ => assertion) assertion :=
  .bind keeps_own fun _ => framed.refusal (by simp [deniedOutcome])

theorem requireWritable :
    Triple assertion (requireWritable guard sql) fun _ _ _ =>
      Unlocked assertion := by
  refine .bind framed.governedWritesDisabled fun disabled => ?_
  refine spec_when (fun _ => (refuse framed).besides)
    fun free past world holds => ⟨holds.1, past, world, holds.1, ?_⟩
  exact holds.2.symm.trans free

private theorem finishOperation (kind : Finish) :
    Triple assertion (finishOperation guard kind batchId) fun operation _ world =>
      terms.writes world.step operation.operationId ∧ True := by
  cases kind with
  | commit | rollback => exact framed.finishOperation

theorem auditCursorResult {audit : CursorAudit} (named : Named terms assertion audit.operationId)
    (result : Except DriverError α) (rows : Option Nat) (status : AuditTerminalStatus) :
    Keeps assertion (auditCursorResult guard audit result rows status) :=
  .result (Framed.recordVerdict framed named (Terms.bears_of_read rfl).records)

theorem recordEnd {outcome : AuditOutcome} (tolerated : outcome.terminalStatus = .unknown → ∀ past
      world, assertion past world → terms.tolerates world.audit) :
    Keeps assertion (recordEnd guard batchId outcome) := by
  refine framed.under (finishOperation framed .rollback) fun operation _ naming => ?_
  refine .bind (naming.recordIntent named_naming).keeps fun _ => ?_
  refine .bind (naming.recordOutcome named_naming fun _ unknown past world holds =>
    tolerated unknown past world holds.1) fun recorded => ?_
  exact .map naming.handleWriteOutcomeFailure.attempt

end

/-- A query for result sets is the query, with the sets it collects taken away behind it. -/
theorem resultSets_leads
    (before : ∀ extra : ExtraSets → ExtraSets, Survives assertion fun session =>
      { session with extra := extra session.extra })
    (behind : ∀ extra : ExtraSets → ExtraSets, Survives inv fun session =>
      { session with extra := extra session.extra })
    (first : ∀ extra, Leads (Owning assertion { session with extra := extra }) inv
      (PolicySession.queryParamsControlled guard sql params control)) :
    Leads (Owning assertion session) inv
      (queryResultSetsParamsControlled guard sql params control) := by
  refine .through
    (fun _ => Owning assertion { session with extra := { collect := true, sets := [] } })
    (spec_modify fun past world holds => ?_) fun _ => ?_
  · exact ⟨before (fun _ => _) past world holds.1, by rw [holds.2]⟩
  refine .through (fun _ => inv) (.attemptAll (first _)) fun first => ?_
  refine .bind keeps_own fun _ => .bind (behind fun _ => _).modifyOwn fun _ => ?_
  exact .map (keeps_ofExcept _)

variable (framed : SessionFramed guard terms inv)
include framed

theorem owning (session : PolicySession) : Framed guard terms (Owning inv session) :=
  framed.toFramed.holding _

private theorem keeping {kept : PolicySession → Prop}
    (retired : ∀ own, kept own → kept { own with retired := true })
    (collected : ∀ (extra : ExtraSets → ExtraSets) own, kept own →
      kept { own with extra := extra own.extra }) :
    SessionFramed guard terms (Holding inv kept) where
  toFramed := framed.toFramed.holding _
  locks := framed.locks
  retires := fun past world holds => ⟨framed.retires past world holds.1, retired _ holds.2⟩
  collects := fun extra past world holds =>
    ⟨framed.collects extra past world holds.1, collected extra _ holds.2⟩

theorem keepingBatch (batch : Option OpenBatch) :
    SessionFramed guard terms (Holding inv fun own => own.batch = batch) :=
  framed.keeping (fun _ => id) fun _ _ => id

private theorem naming (id : Uuid) : SessionFramed guard terms (Naming terms inv id) where
  toFramed := framed.toFramed.naming id
  locks := framed.locks
  retires := framed.retires.naming id
  collects := fun extra => (framed.collects extra).naming id

theorem refuseOwning {rule : String} {error : DriverError} :
    Spec (Owning inv session) (PolicySession.refuse guard sql rule error : InSession α) post
      (fun _ => inv) inv :=
  .besides (refuse framed.toFramed)

private theorem retire : Keeps inv retire := framed.retires.modifyOwn

private theorem isUsable :
    Spec (Owning inv session) (isUsable guard)
      (fun usable past world => inv past world ∧ session.Asked usable world.own) fails stops := by
  refine spec_own ?_
  split
  · exact spec_pure fun past world holds =>
      ⟨holds.1, .inl holds.2, fun usable => absurd usable false_ne_true⟩
  rename_i active
  refine .bind ((framed.owning session).asking _) fun answer => ?_
  refine .besides ?_
  cases answer with
  | some usable =>
    exact spec_pure fun past world holds =>
      ⟨holds.1, .inl holds.2, fun _ => eq_false_iff.mpr active⟩
  | none =>
  refine .bind (report_spec (framed.owning session).ignoresFaults _) fun _ => ?_
  refine .through (fun _ past world => inv past world ∧
    world.own = { session with retired := true }) (spec_modify fun past world holds => ?_)
    fun _ => ?_
  · exact ⟨framed.retires past world holds.1, by rw [holds.2]⟩
  · exact spec_pure fun past world holds =>
      ⟨holds.1, .inr ⟨rfl, holds.2⟩, fun usable => absurd usable false_ne_true⟩

theorem usability : Spec inv (PolicySession.isUsable guard) (fun _ => inv) fails stops := by
  intro past world holds
  exact framed.isUsable.returning (fun _ _ _ holds => holds.1) past world ⟨holds, rfl⟩

theorem requireQueryReady :
    Spec (Owning inv session) (requireQueryReady guard sql)
      (fun _ past world => Owning inv session past world ∧ session.isReady) (fun _ => inv) inv := by
  refine spec_own ?_
  split
  · exact framed.refuseOwning
  rename_i free
  refine .bind framed.isUsable fun usable => ?_
  split
  · exact (refuse framed.toFramed).besides
  rename_i usable
  refine spec_pure fun past world holds => ?_
  have isUsable := holds.2.of_usable (by simpa using usable)
  exact ⟨⟨holds.1, isUsable.1⟩, by simpa using free, isUsable.2⟩

private theorem requireWritableIf (condition : Bool) :
    Spec (Owning inv session) (when condition (PolicySession.requireWritable guard sql))
      (fun _ past world => Owning inv session past world ∧ (condition = true → Unlocked inv))
      (fun _ => inv) inv := by
  have leaves : ∀ past world, Owning inv session past world → inv past world :=
    and_le_left
  refine spec_when (fun _ => ?_) fun off past world holds => ⟨holds, fun on => ?_⟩
  · exact Triple.leaving ((requireWritable (framed.owning session)).weaken
      fun _ _ _ _ unlocked _ => unlocked.ofOwning) leaves
  · rw [off] at on
    cases on

private theorem sending {call : DriverCall} (allowed : terms.allows session call) :
    Lasts inv session (guard.dispatch call : InSession call.Result) := by
  refine .weaken ((framed.owning session).dispatch fun past world holds => ?_) le_rfl and_le_left
  rw [holds.2]
  exact allowed

private theorem underOwning {first : InSession AuditOperation} {next : AuditOperation → InSession α}
    {about : AuditOperation → Prop}
    (begins : Triple (Owning inv session) first fun operation _ world =>
      terms.writes world.step operation.operationId ∧ about operation)
    (continues : ∀ operation, about operation →
      SessionFramed guard terms (Naming terms inv operation.operationId) →
      Lasts (Naming terms inv operation.operationId) session (next operation)) :
    Lasts inv session (first >>= next) := by
  refine .bind (begins.leaving and_le_left) fun operation => ?_
  refine .assuming (about operation) (fun _ _ holds => holds.2.2) fun fact => ?_
  exact Leads.weaken (continues operation fact (framed.naming _))
    (fun _ _ holds => ⟨⟨holds.1.1, holds.2.1⟩, holds.1.2⟩) and_le_left

private theorem countedStatement
    (allowed : ∀ call ∈ statementCalls sql params control, terms.allows session call) :
    Lasts inv session (countedStatement guard analysis sql params control) := by
  refine .through (fun _ => inv) (spec_own ?_) fun first =>
    .map keeps_own
  obtain ⟨_, _, _, collect, _⟩ := session
  cases collect with
  | false => exact framed.sending (allowed _ (.head _))
  | true =>
    refine .bind (framed.sending (allowed _ (.tail _ (.head _)))) fun batch => ?_
    exact .bind (framed.collects fun extra => { extra with sets := extra.sets ++ _ }).modifyOwn
      fun _ => keeps_pure _

theorem noteDisconnect (result : Except DriverError α) :
    Keeps inv (noteDisconnect result) := by
  unfold PolicySession.noteDisconnect
  split
  · exact framed.retire
  · exact keeps_pure _

private theorem noteStatement (notes : Notes inv) (writing rollsBack : Bool)
    (result : Except DriverError QueryResult) :
    Keeps inv (noteStatement guard writing rollsBack result) :=
  .bind (framed.noteDisconnect result) fun _ => (notes (fun batch =>
    { batch with
      wrote := batch.wrote || writing
      uncertain := batch.uncertain || leavesUncertain result
      aborted :=
        if guard.ctx.driverId == "postgres" && (!result.isOk || rollsBack) then !result.isOk
        else batch.aborted }) fun _ => ⟨rfl, rfl⟩).modifyOwn

private theorem batchStatement
    (allowed : (authorization.analysis.facts.writes = true → Unlocked inv) →
      ∀ call ∈ statementCalls sql params control, terms.allows session call) :
    Lasts inv session
      (PolicySession.batchStatement guard sql params control authorization batchId) := by
  refine .bind (framed.requireWritableIf _) fun _ => ?_
  refine .given fun unlocked => ?_
  refine framed.underOwning (framed.owning session).operation
    fun operation _ naming => ?_
  refine .map ?_
  split
  · exact naming.runWrite (naming.owning session) and_le_left named_naming
      (naming.countedStatement (allowed unlocked))
      (naming.auditTransactionResult named_naming (.inl naming.locks) _)
  · exact naming.runRead (naming.owning session) and_le_left named_naming
      (naming.countedStatement (allowed unlocked))
      (naming.auditTransactionResult named_naming (.inl naming.locks) _)

private theorem loneWrite
    (allowed : Unlocked inv → ∀ call ∈ statementCalls sql params control,
      terms.allows session call) :
    Lasts inv session (loneWrite guard sql params control authorization) := by
  refine .bind ((requireWritable (framed.owning session)).leaving and_le_left)
    fun _ => ?_
  refine .assuming _ (fun _ _ holds => holds.2.ofOwning) fun unlocked => ?_
  refine .besides ?_
  refine framed.underOwning (framed.owning session).operation
    fun operation _ naming => ?_
  refine .map ?_
  exact naming.runWrite (naming.owning session) and_le_left named_naming
    (naming.countedStatement (allowed unlocked))
    (naming.auditWriteResult named_naming naming.locks)

private theorem loneRead (reads : authorization.analysis.facts.writes = false)
    (allowed : ∀ call ∈ statementCalls sql params control, terms.allows session call) :
    Lasts inv session (loneRead guard sql params control authorization) := by
  refine framed.underOwning (framed.owning session).operation
    fun operation about naming => ?_
  refine .map ?_
  exact naming.runRead (naming.owning session) and_le_left named_naming
    (naming.countedStatement allowed)
    (naming.auditControlledReadResult named_naming (Terms.bears_of_read (about.2.trans reads)))

private theorem authorizeClassified (counter : Option Counter)
    (counts : ∀ sql control, terms.allows session (countCall counter sql control)) :
    Spec (Owning inv session) (guard.authorizeClassified sql analysis (some control) counter)
      (fun authorization past world => Owning inv session past world ∧
        authorization.analysis = analysis ∧ Passes guard inv analysis.facts)
      (fun _ => inv) inv := by
  refine Triple.leaving
    (((framed.owning session).authorizeWithBound fun sql control past world holds => ?_).weaken
      fun _ _ _ _ cleared => ⟨cleared.1, (passes_of_clears cleared.2).ofOwning⟩)
    and_le_left
  rw [holds.2]
  exact counts sql control

theorem statement (notes : Notes inv)
    (counts : ∀ sql control, terms.allows session (countCall (some .session) sql control))
    (allowed : (session.inReadOnlyBatch = true →
        refusedInSnapshot (guard.analyzeStatement sql).facts.effects = false) →
      Admitted guard inv none sql (guard.analyzeStatement sql).facts.writes →
      ∀ call ∈ statementCalls sql params control, terms.allows session call) :
    Lasts inv session (statement guard sql params control) := by
  refine spec_own ?_
  split
  · exact framed.refuseOwning
  rename_i accepted
  refine .bind (framed.authorizeClassified _ counts) fun authorization => ?_
  refine .given fun ⟨same, passes⟩ => ?_
  refine spec_own ?_
  have admits : (authorization.analysis.facts.writes = true → Unlocked inv) →
      ∀ call ∈ statementCalls sql params control, terms.allows session call := by
    intro unlocked
    refine allowed (fun inside => ?_) ⟨rfl, passes, ?_⟩
    · simpa [inside] using accepted
    · rw [← same]
      exact unlocked
  refine .through (fun _ => inv) (.attemptAll ?_) fun result => ?_
  · split
    · exact framed.batchStatement admits
    split
    · exact framed.loneWrite fun unlocked =>
        admits fun _ => unlocked
    rename_i reads
    have isRead := eq_false_iff.mpr reads
    refine framed.loneRead isRead (admits fun writes => ?_)
    rw [isRead] at writes
    cases writes
  · exact .result (framed.noteStatement notes _ _ result)

section

variable (batches : Batches inv)
include batches

private theorem openBatch (readOnly : Bool) : Keeps inv (openBatch guard readOnly) :=
  .bind framed.newUuid.keeps fun id =>
    (batches fun _ => some (OpenBatch.new id readOnly)).modifyOwn

theorem begin (allowed : session.batch = none → terms.allows session (beginCall sql control)) :
    Lasts inv session (begin guard sql control) := by
  refine spec_own ?_
  split
  · exact framed.refuseOwning
  rename_i closed
  refine .bind (framed.caught (framed.sending (allowed (by simpa using closed))))
    fun result => ?_
  refine .bind (framed.noteDisconnect result) fun _ => ?_
  exact .result (keeps_when fun _ => framed.openBatch batches false)

theorem beginReadOnly (allowed : guard.ctx.driverId = "postgres" → session.batch = none →
      terms.allows session (beginCall sql control)) (borne : guard.ctx.driverId = "postgres" →
      session.batch = none → (guard.analyzeStatement sql).facts.writes = true → ∀ past world, inv
      past world → terms.tolerates world.audit) :
    Lasts inv session (beginReadOnly guard sql control) := by
  unfold PolicySession.beginReadOnly
  split
  · exact framed.refuseOwning
  rename_i engine
  have isPostgres : guard.ctx.driverId = "postgres" := by simpa using engine
  refine spec_own ?_
  split
  · exact framed.refuseOwning
  rename_i closed
  have noBatch : session.batch = none := by simpa using closed
  refine framed.underOwning (framed.owning session).operation
    fun operation about naming => ?_
  refine .bind (((naming.owning session).prepareGovernedRead named_owning).leaving
    and_le_left) fun _ => ?_
  refine .bind (naming.caught (naming.sending (allowed isPostgres noBatch))) fun result => ?_
  refine .bind (naming.noteDisconnect result) fun _ => ?_
  refine .bind (keeps_when fun _ => naming.openBatch (fun change => (batches change).naming _)
    true) fun _ => ?_
  exact .result (naming.auditControlledReadResult named_naming (fun write past world holds =>
    borne isPostgres noBatch (about.2.symm.trans write) past world holds.1) result _)

private theorem finish (kind : Finish) (chain : Bool)
    (allowed : session.batch.isSome = true → (kind =
      .commit → Unlocked inv) → terms.allows session (finishCall sql control)) :
    Lasts inv session (finish guard sql control kind chain) := by
  refine spec_own ?_
  cases isOpen : session.batch with
  | none => exact framed.refuseOwning
  | some batch =>
  refine .bind (framed.requireWritableIf _) fun _ => ?_
  refine .given fun unlocked => ?_
  have permitted := allowed (by rw [isOpen]; rfl) fun commits =>
    unlocked (beq_iff_eq.mpr commits)
  refine framed.underOwning (finishOperation (framed.owning session) kind)
    fun operation _ naming => ?_
  have drop : ∀ past world, Owning (Naming terms inv operation.operationId) session past world →
      Naming terms inv operation.operationId past world := and_le_left
  refine .bind (((naming.owning session).recordIntent named_owning).keeps.leaving drop)
    fun _ => ?_
  refine .bind ((keeps_ofExcept _).leaving drop) fun _ => ?_
  refine .through (fun _ => Naming terms inv operation.operationId) (.releasing ?_
    (fun _ _ _ holds => naming.locking holds) fun _ _ holds => naming.locking holds)
    fun result => .map (keeps_ofExcept _)
  refine .bind (naming.caught (naming.sending permitted)) fun result => ?_
  refine .bind (naming.noteDisconnect result) fun _ => ?_
  refine .bind (naming.recordVerdict named_naming (Terms.records (.inl naming.locks)
    finishVerdict_locks)) fun recorded => ?_
  refine .bind naming.newUuid.keeps fun nextId => ?_
  refine .bind ((batches fun _ => _).naming _).modifyOwn fun _ => ?_
  exact .map naming.handleWriteOutcomeFailure

end

omit framed in
/-- What a text given to a session may become for the driver. -/
structure TextAllowed (guard : PolicyGuard) (terms : Terms PolicySession)
    (inv : List GuardEvent → World PolicySession → Prop) (session : PolicySession) (sql : String)
    (params : List Value) (control : OperationControl) : Prop where
  counts : ∀ sql control, terms.allows session (countCall (some .session) sql control)
  statements : guard.front.transactionControl sql guard.ctx.driverId = none →
    guard.front.hidesTransactionControl sql guard.ctx.driverId = false →
    TextAdmits guard inv session sql →
    ∀ call ∈ statementCalls sql params control, terms.allows session call
  begins : ∀ kind, guard.front.transactionControl sql guard.ctx.driverId = some kind →
    kind.isBegin = true → session.batch = none → TextAdmits guard inv session sql →
    terms.allows session (beginCall sql control)
  finishes : ∀ kind, guard.front.transactionControl sql guard.ctx.driverId = some kind →
    kind.isBegin = false → session.batch.isSome = true → TextAdmits guard inv session sql →
    terms.allows session (finishCall sql control)

theorem queryParamsControlled (batches : Batches inv)
    (allowed : session.isReady → TextAllowed guard terms inv session sql params control)
    (borne : session.isReady → SnapshotBorne guard terms inv session sql) :
    Lasts inv session (PolicySession.queryParamsControlled guard sql params control) := by
  refine .bind framed.requireQueryReady fun _ => ?_
  refine .given fun ready => ?_
  have permitted := allowed ready
  have admits : TextAdmits guard inv session sql ↔ TextAdmits guard inv session sql := Iff.rfl
  conv at admits => lhs; unfold TextAdmits
  cases kind : guard.front.transactionControl sql guard.ctx.driverId with
  | none =>
    rw [kind] at admits
    dsimp only
    split
    · exact framed.refuseOwning
    rename_i hidden
    have visible := eq_false_iff.mpr hidden
    exact framed.statement batches.notes permitted.counts
      fun snapshot admitted => permitted.statements kind visible
        (admits.mp ⟨visible, snapshot, admitted⟩)
  | some control' =>
    rw [kind] at admits
    cases control' with
    | beginReadWrite =>
      dsimp only
      split
      · exact framed.refuseOwning
      · rename_i writable
        exact framed.begin batches fun closed => permitted.begins _ kind rfl closed
          (admits.mp ⟨eq_false_iff.mpr writable, closed⟩)
    | begin =>
      exact framed.begin batches fun closed =>
        permitted.begins _ kind rfl closed (admits.mp closed)
    | beginReadOnly => exact framed.refuseOwning
    | beginReadOnlySnapshot =>
      exact framed.beginReadOnly batches (fun engine closed =>
        permitted.begins _ kind rfl closed (admits.mp ⟨engine, closed⟩)) (borne ready kind)
    | commit chain =>
      exact .map (framed.finish batches .commit chain fun isOpen unlocked =>
        permitted.finishes _ kind rfl isOpen (admits.mp ⟨isOpen, unlocked rfl⟩))
    | rollback chain =>
      exact .map (framed.finish batches .rollback chain fun isOpen _ =>
        permitted.finishes _ kind rfl isOpen (admits.mp isOpen))

theorem commitControlled (batches : Batches inv)
    (allowed : session.isReady → session.batch.isSome = true → Unlocked inv →
      terms.allows session (finishCall "COMMIT" control)) :
    Lasts inv session (commitControlled guard control) := by
  refine .bind framed.requireQueryReady fun _ => ?_
  refine .given fun ready => ?_
  refine .bind (framed.finish batches .commit false fun isOpen unlocked =>
    allowed ready isOpen (unlocked rfl)) fun ended => ?_
  dsimp only
  split
  · exact keeps_pure _
  · exact keeps_pure _
  · exact keeps_fail _

theorem queryResultSetsParamsControlled (batches : Batches inv)
    (allowed : ∀ extra, session.isReady →
      TextAllowed guard terms inv { session with extra := extra } sql params control)
    (borne : session.isReady → SnapshotBorne guard terms inv session sql) :
    Lasts inv session
      (queryResultSetsParamsControlled guard sql params control) :=
  resultSets_leads framed.collects framed.collects fun extra =>
    framed.queryParamsControlled batches (allowed extra) borne

theorem noteCursorError (notes : Notes inv) (error : DriverError) :
    Spec inv (noteCursorError guard error) (fun _ => inv) fails stops :=
  .through (fun _ => inv)
    (spec_when (fun _ => spec_modify framed.retires) fun _ _ _ => id) fun _ =>
      spec_modify (notes (fun batch =>
        { batch with
          uncertain := batch.uncertain || (!batch.readOnly && _)
          aborted := batch.aborted || guard.ctx.driverId == "postgres" }) fun _ => ⟨rfl, rfl⟩)

private theorem openAuthorizedCursor (notes : Notes inv) (cursors : Cursors inv)
    {audit : CursorAudit} (named : Named terms inv audit.operationId)
    (allowed : terms.allows session (.openQueryCursor sql params control)) :
    Lasts inv session (openAuthorizedCursor guard sql params control audit) := by
  refine .bind ((Framed.prepareGovernedRead (framed.owning session) fun past world holds =>
    named past world holds.1).leaving and_le_left) fun _ => ?_
  refine .bind (framed.caught (framed.sending allowed)) fun result => ?_
  cases result with
  | ok id => exact .bind (cursors fun _ => _).modifyOwn fun _ => keeps_pure _
  | error error =>
    refine .bind (auditCursorResult framed.toFramed named _ _ _).attempt fun _ => ?_
    refine .bind (framed.noteCursorError notes error) fun _ => ?_
    exact .bind (keeps_ofExcept _) fun _ => keeps_fail _

/-- The start of a cursor up to the point where its operation is named. -/
theorem openingCursor {outer : Assertion PolicySession}
    (leaves : inv ≤ outer)
    (counts : session.isReady → ∀ sql control, terms.allows session (countCall none sql control))
    (opens : ∀ audit : Uuid → CursorAudit, (∀ id, (audit id).operationId = id) →
      (∀ id, (audit id).sql = sql ∧ (audit id).analysis = guard.analyzeStatement sql) →
      session.isReady → session.inReadOnlyBatch = true →
      (guard.analyzeStatement sql).facts.isSingleRead = true →
      Passes guard inv (guard.analyzeStatement sql).facts →
      Leads (Owning inv session) outer (do
        let operationId ← guard.newUuid
        PolicySession.openAuthorizedCursor guard sql params control (audit operationId))) :
    Leads (Owning inv session) outer (openQueryCursorControlled guard sql params control) := by
  have refuses : ∀ {rule : String} {error : DriverError}, Leads (Owning inv session) outer
      (PolicySession.refuse guard sql rule error : InSession QueryCursorId) :=
    framed.refuseOwning.leaving (fun _ => leaves) leaves
  refine .bind framed.isUsable fun usable => ?_
  split
  · exact .weaken (refuse framed.toFramed) and_le_left le_rfl
      (fun _ => leaves) leaves
  rename_i usable
  refine .assuming (session.retired = false)
    (fun _ _ holds => (holds.2.of_usable (by simpa using usable)).2) fun active => ?_
  refine .before (spec_own ?_) fun past world holds =>
    ⟨holds.1, (holds.2.of_usable (by simpa using usable)).1⟩
  cases snapshot : session.batch.filter fun batch => batch.readOnly with
  | none => exact refuses
  | some batch =>
  refine spec_own ?_
  split
  · exact refuses
  rename_i free
  dsimp only
  split
  · exact refuses
  rename_i single
  have ready : session.isReady := ⟨by simpa using free, active⟩
  have readOnly : session.inReadOnlyBatch = true := by
    obtain ⟨isOpen, readOnly⟩ := Option.filter_eq_some_iff.mp snapshot
    simp [inReadOnlyBatch, isOpen, readOnly]
  refine .bind ((framed.authorizeClassified _ (counts ready)).leaving (fun _ => leaves) leaves)
    fun authorization => ?_
  refine .given fun ⟨analysed, passes⟩ => ?_
  exact opens (fun operationId =>
    { operationId := operationId
      batchId := batch.id
      sql := sql
      targets := authorization.analysis.facts.tables
      decisionRule := authorization.decision.ruleName
      approvalOutcome := authorization.approvalOutcome
      previewState := authorization.previewState
      analysis := authorization.analysis }) (fun _ => rfl) (fun _ => ⟨rfl, analysed⟩) ready
    readOnly (by simpa using single) passes

theorem openQueryCursorControlled (notes : Notes inv) (cursors : Cursors inv)
    (counts : session.isReady → ∀ sql control, terms.allows session (countCall none sql control))
    (allowed : session.isReady → session.inReadOnlyBatch = true →
      (guard.analyzeStatement sql).facts.isSingleRead = true →
      Passes guard inv (guard.analyzeStatement sql).facts →
      terms.allows session (.openQueryCursor sql params control)) :
    Lasts inv session (openQueryCursorControlled guard sql params control) := by
  refine framed.openingCursor (fun _ _ => id) counts
    fun audit names _ ready readOnly single passes => ?_
  refine .bind ((framed.owning session).newUuid.leaving and_le_left)
    fun operationId => ?_
  have naming := framed.naming operationId
  refine Leads.weaken (naming.openAuthorizedCursor
    (fun change note => (notes change note).naming _) (fun change => (cursors change).naming _)
    (fun past world holds => ?_) (allowed ready readOnly single passes))
    (fun _ _ holds => ⟨⟨holds.1.1, holds.2⟩, holds.1.2⟩) and_le_left
  rw [names]
  exact holds.2

private theorem closeCursorDriver (cursors : Cursors inv)
    (allowed : ∀ own control, terms.allows own (.closeQueryCursor cursorId control)) :
    Keeps inv (closeCursorDriver guard cursorId) := by
  refine .bind (framed.ask _) fun control => ?_
  refine .bind (framed.caught (framed.dispatch fun _ world _ => allowed world.own control))
    fun result => ?_
  refine .bind (cursors fun _ => none).modifyOwn fun _ => ?_
  split
  · exact framed.retire
  · exact .bind framed.usability fun _ => keeps_when fun _ => framed.retire

theorem fetchQueryCursorPageControlled (notes : Notes inv) (cursors : Cursors inv)
    (named : ∀ step id, terms.writes step id)
    (fetches : ∀ own, terms.allows own (.fetchQueryCursorPage cursorId control))
    (closes : ∀ own control, terms.allows own (.closeQueryCursor cursorId control)) :
    Keeps inv (fetchQueryCursorPageControlled guard cursorId control) := by
  refine .bind keeps_own fun own => ?_
  cases own.cursor.filter fun cursor => cursor.id == cursorId with
  | none => exact keeps_fail _
  | some cursor =>
  refine .bind (framed.caught (framed.dispatch fun _ world _ => fetches world.own))
    fun fetched => ?_
  refine .bind (auditCursorResult framed.toFramed (fun _ _ _ => named _ _) _ _ _).attempt
    fun audited => ?_
  split
  · refine .bind (framed.noteCursorError notes _) fun _ => ?_
    refine .bind (framed.closeCursorDriver cursors closes) fun _ => ?_
    exact .bind (keeps_ofExcept _) fun _ => keeps_fail _
  split
  · exact .bind (framed.closeCursorDriver cursors closes) fun _ => keeps_fail _
  · exact .map (keeps_when fun _ => (cursors fun cursor => cursor.map fun cursor =>
      { cursor with complete := true }).modifyOwn)

theorem closeActiveCursor (cursors : Cursors inv) (named : ∀ step id, terms.writes step id)
    (status : Option AuditTerminalStatus)
    (closes : ∀ own cursorId control, terms.allows own (.closeQueryCursor cursorId control)) :
    Keeps inv (closeActiveCursor guard cursorId status) := by
  refine .bind keeps_own fun own => ?_
  cases own.cursor with
  | none => exact keeps_fail _
  | some cursor =>
  dsimp only
  split
  · exact keeps_fail _
  refine .bind (cursors fun _ => none).modifyOwn fun _ => ?_
  refine .bind (framed.ask _) fun control => ?_
  refine .bind (framed.caught (framed.dispatch fun _ world _ => closes world.own _ _))
    fun result => ?_
  refine .bind (keeps_whenSome fun status _ => ?_) fun _ => ?_
  · refine .bind (auditCursorResult framed.toFramed (fun _ _ _ => named _ _) _ _ _).attempt
      fun _ => ?_
    exact .result (keeps_when fun _ => framed.retire)
  · refine .bind (keeps_when fun _ => framed.retire) fun _ => ?_
    exact .map (keeps_ofExcept _)

theorem lexicalSettingsControlled
    (allowed : ∀ own, terms.allows own (.lexicalSettings .session control)) :
    Keeps inv (PolicySession.lexicalSettingsControlled guard control) := by
  refine .bind keeps_own fun own => ?_
  split
  · exact keeps_fail _
  · exact .result (framed.caught (framed.dispatch fun _ world _ => allowed world.own))

theorem fetchCompletionColumnsControlled (schema : Option String) (table : String)
    (allowed : ∀ own, terms.allows own (.fetchCompletionColumns schema table control)) :
    Keeps inv (fetchCompletionColumnsControlled guard schema table control) := by
  refine .bind framed.checkPreDispatch fun _ => ?_
  refine .bind keeps_own fun own => ?_
  split
  · exact refuse framed.toFramed
  refine .bind framed.usability fun usable => ?_
  split
  · exact refuse framed.toFramed
  refine framed.toFramed.under framed.metadataOperation fun operation isRead _ => ?_
  have naming := framed.naming operation.operationId
  refine .bind (naming.prepareGovernedRead named_naming) fun _ => ?_
  refine .bind (naming.caught (naming.dispatch fun _ world _ => allowed world.own))
    fun result => ?_
  refine .bind (naming.noteDisconnect result) fun _ => ?_
  exact .result (naming.auditControlledReadResult named_naming (Terms.bears_of_read isRead)
    result _)

private theorem recordAbandonedTransaction :
    Keeps inv (recordAbandonedTransaction guard batchId) := by
  refine .through (fun _ past world => inv past world ∧
    world.audit.governedWritesDisabled = true) (spec_modify fun past world holds =>
      ⟨framed.locking holds, AuditState.locked_disableGovernedWrites _⟩) fun _ => ?_
  exact Leads.weaken (recordEnd framed.toFramed.locked fun _ _ world holds =>
    framed.locks world.audit holds.2) le_rfl and_le_left

theorem closeBatch (batches : Batches inv) (batch : OpenBatch) {kept : PolicySession → Prop}
    (keeping : SessionFramed guard terms (Holding inv kept))
    (allowed : ∀ own control, kept own → own.retired = false → batch.uncertain = false →
      own.batch.isSome = true → terms.allows own (finishCall "ROLLBACK" control)) :
    Leads (Holding inv kept) inv (PolicySession.closeBatch guard batch) := by
  refine .bind keeping.usability fun usable => ?_
  split
  · exact (recordEnd framed.toFramed fun unknown => by cases unknown).besides
  refine spec_of_owning fun own kept => .bind framed.isUsable fun usable => ?_
  split
  · rename_i ends
    obtain ⟨usable, certain⟩ := and_eq_true_iff.mp ends
    refine .assuming (own.retired = false) (fun _ _ holds => (holds.2.of_usable usable).2)
      fun active => ?_
    refine (show Spec (Owning inv own) _ _ _ _ from ?_).before fun past world holds =>
      ⟨holds.1, (holds.2.of_usable usable).1⟩
    refine .bind (((framed.owning own).ask _).leaving and_le_left)
      fun control => ?_
    refine .through (fun _ => inv) (.attemptAll ?_) fun rollback => ?_
    · exact framed.finish batches .rollback false fun isOpen _ =>
        allowed own control kept active (by simpa using certain) isOpen
    refine .bind keeps_own fun session => ?_
    refine .bind (keeps_whenSome fun left _ => ?_) fun _ =>
      .map (keeps_ofExcept _)
    split
    · exact recordEnd framed.toFramed fun unknown => by cases unknown
    · exact framed.recordAbandonedTransaction
  · exact .besides (.bind (framed.recordAbandonedTransaction) fun _ => keeps_fail _)

private theorem close (batches : Batches inv) (cursors : Cursors inv)
    (named : ∀ step id, terms.writes step id)
    (closes : ∀ own cursorId control, terms.allows own (.closeQueryCursor cursorId control))
    (allowed : ∀ own control, own.batch = session.batch → session.retired = false →
      session.batch.any (fun batch => !batch.uncertain) = true →
      terms.allows own (finishCall "ROLLBACK" control))
    (ends : ∀ own, terms.allows own .closeSession) :
    Lasts inv session (close guard) := by
  -- closing a cursor keeps the batch and can only retire the session
  let kept : PolicySession → Prop := fun own =>
    own.batch = session.batch ∧ (own.retired = false → session.retired = false)
  have keeping : SessionFramed guard terms (Holding inv kept) :=
    framed.keeping (fun _ same => ⟨same.1, fun active => by cases active⟩) fun _ _ => id
  refine spec_own ?_
  refine .through (fun _ => Holding inv kept) ?_ fun cursorCleanup => ?_
  · refine Spec.before (Keeps.leaving (Keeps.attempt ?_) and_le_left)
      fun past world holds => ⟨holds.1, by rw [holds.2]; exact ⟨rfl, id⟩⟩
    split
    · exact keeping.closeActiveCursor (cursors.keeping fun _ _ => id) named _ closes
    · exact keeps_pure _
  refine spec_of_owning fun own same => spec_own ?_
  refine .through (fun _ => inv) (.attemptAll ?_) fun cleanup => ?_
  · split
    · rename_i batch isOpen
      refine (framed.closeBatch batches batch keeping fun later control still active certain _ =>
        allowed later control still.1 (still.2 active) ?_).before
        fun past world holds => ⟨holds.1, by rw [holds.2]; exact same⟩
      rw [← same.1, isOpen]
      simp [certain]
    · exact spec_pure and_le_left
  refine .bind (framed.caught (framed.dispatch fun _ world _ => ends world.own))
    fun closed => ?_
  exact .bind (keeps_ofExcept _) fun _ => .result (keeps_ofExcept _)

/-! ### All operations -/

omit framed in
/-- The calls with a text that an operation may make on a session. -/
def Admits (guard : PolicyGuard) (terms : Terms PolicySession)
    (inv : List GuardEvent → World PolicySession → Prop) (session : PolicySession) :
    SessionOperation → Prop
  | .queryParamsControlled sql params control
  | .queryResultSetsParamsControlled sql params control => session.isReady →
      SnapshotBorne guard terms inv session sql ∧ ∀ extra,
        TextAllowed guard terms inv { session with extra := extra } sql params control
  | .commitControlled control => session.isReady → session.batch.isSome = true → Unlocked inv →
      terms.allows session (finishCall "COMMIT" control)
  | .openQueryCursorControlled sql params control => session.isReady →
      session.inReadOnlyBatch = true → (guard.analyzeStatement sql).facts.isSingleRead = true →
      Passes guard inv (guard.analyzeStatement sql).facts →
      terms.allows session (.openQueryCursor sql params control)
  | .close => ∀ own control, own.batch = session.batch → session.retired = false →
      session.batch.any (fun batch => !batch.uncertain) = true →
      terms.allows own (finishCall "ROLLBACK" control)
  | _ => True

/-- An operation keeps an assertion that does not depend on the batch or the cursor. -/
theorem run (batches : Batches inv) (cursors : Cursors inv)
    (named : ∀ step id, terms.writes step id)
    (bare : ∀ own call, call.carries = none → terms.allows own call) (operation : SessionOperation)
    (admits : Admits guard terms inv session operation) :
    Lasts inv session (operation.run guard) := by
  have counts : ∀ own counter sql control, terms.allows own (countCall counter sql control) :=
    fun own counter sql control => bare own _ (by rcases counter with _ | ⟨⟨⟩⟩ <;> rfl)
  have anywhere : ∀ {α : Type} {run : InSession α}, Keeps inv run →
      Lasts inv session (discard run) :=
    fun keeps => .besides (.map keeps)
  cases operation with
  | queryParamsControlled sql params control =>
    exact .map (framed.queryParamsControlled batches
      (fun ready => (admits ready).2 session.extra) fun ready => (admits ready).1)
  | queryResultSetsParamsControlled sql params control =>
    exact .map (framed.queryResultSetsParamsControlled batches
      (fun extra ready => (admits ready).2 extra) fun ready => (admits ready).1)
  | commitControlled control =>
    exact .map (framed.commitControlled batches admits)
  | openQueryCursorControlled sql params control =>
    exact .map (framed.openQueryCursorControlled batches.notes cursors
      (fun _ => counts session none) admits)
  | fetchQueryCursorPageControlled cursorId control =>
    exact anywhere
      (framed.fetchQueryCursorPageControlled batches.notes cursors named (fun own => bare own _ rfl)
        fun own _ => bare own _ rfl)
  | closeQueryCursorControlled cursorId control =>
    exact anywhere (framed.closeActiveCursor cursors named _ fun own _ _ => bare own _ rfl)
  | lexicalSettingsControlled control =>
    exact anywhere (framed.lexicalSettingsControlled fun own => bare own _ rfl)
  | fetchCompletionColumnsControlled schema table control =>
    exact anywhere (framed.fetchCompletionColumnsControlled schema table
      fun own => bare own _ rfl)
  | close =>
    exact framed.close batches cursors named (fun own _ _ => bare own _ rfl) admits
      fun own => bare own _ rfl

end SessionFramed

end Bookie.Guard
