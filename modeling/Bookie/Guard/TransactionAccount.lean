/-
The account of session transactions. A read-write batch does not get lost: from the
moment it is open it stays open, or its end is on record, or governed writes are
locked.
-/

import Bookie.Guard.SessionFrame

namespace Bookie.Guard

open Bookie.Core Policy Async Async.Future PolicyGuard SessionFramed PolicySession

/-! ### Which texts reach the driver -/

/-- The calls a session makes: only without a batch a text that starts a transaction, only
with one a text that ends it, and any other statement neither is nor hides such a text. -/
def PolicySession.Lets (guard : PolicyGuard) (session : PolicySession) : DriverCall → Prop
  | .query .session .begin sql _ _ =>
    session.batch = none ∧
      ∃ kind, guard.front.transactionControl sql guard.ctx.driverId = some kind ∧
        kind.isBegin = true
  | .query .session .finish sql _ _ =>
    session.batch.isSome = true ∧ (sql = "COMMIT" ∨ sql = "ROLLBACK" ∨
      ∃ kind, guard.front.transactionControl sql guard.ctx.driverId = some kind ∧
        kind.isBegin = false)
  | .query .session .statement sql _ _ | .queryResultSets .session sql _ _ =>
    guard.front.transactionControl sql guard.ctx.driverId = none ∧
      guard.front.hidesTransactionControl sql guard.ctx.driverId = false
  | .openQueryCursor sql _ _ => (guard.analyzeStatement sql).facts.isSingleRead = true
  | call => call.carries = none

variable {call : DriverCall} {past : List GuardEvent} {world : World PolicySession}
  {batch : OpenBatch}

private theorem PolicySession.lets_of_bare {guard : PolicyGuard} {session : PolicySession}
    (bare : call.carries = none) : session.Lets guard call := by
  cases call with
  | query handle purpose sql params control =>
    cases purpose with
    | count => cases handle <;> rfl
    | statement | begin | finish => cases bare
  | queryResultSets | openQueryCursor => cases bare
  | _ => exact bare

def LetThrough (guard : PolicyGuard) (session : PolicySession) (past : List GuardEvent)
    (_ : World PolicySession) : Prop :=
  ∀ call reply, .dispatched call reply ∈ past → session.Lets guard call

private theorem letThrough_framed (guard : PolicyGuard) (session : PolicySession) :
    SessionFramed guard (.lenient fun _ => session.Lets guard) (LetThrough guard session) where
  toFramed := .ofEvents (fun _ _ _ _ _ holds => holds) fun _ _ _ allowed holds call reply sent => by
    rcases List.mem_append.mp sent with sent | sent
    · exact holds call reply sent
    · exact allowed call reply (List.mem_singleton.mp sent).symm
  locks := fun _ _ => trivial
  retires := fun _ _ holds => holds
  collects := fun _ _ _ holds => holds

variable {inv : Assertion PolicySession}

private theorem admits_lets (guard : PolicyGuard) (session : PolicySession)
    (operation : SessionOperation) :
    Admits guard (.lenient fun _ => session.Lets guard) inv session operation := by
  have texts : ∀ sql params control, session.isReady →
      SnapshotBorne guard (.lenient fun _ => session.Lets guard) inv session sql ∧ ∀ extra,
        TextAllowed guard (.lenient fun _ => session.Lets guard) inv
          { session with extra := extra } sql params control := by
    intro sql params control _
    refine ⟨fun _ _ _ _ _ _ _ => trivial, fun extra => ?_⟩
    constructor
    · intro text control
      change session.Lets guard (countCall (some .session) text control)
      exact lets_of_bare rfl
    · exact fun plain visible _ => forall_statementCalls ⟨plain, visible⟩ ⟨plain, visible⟩
    · exact fun kind control begins closed _ => ⟨closed, kind, control, begins⟩
    · exact fun kind control ends isOpen _ => ⟨isOpen, .inr (.inr ⟨kind, control, ends⟩)⟩
  cases operation with
  | queryParamsControlled sql params control
  | queryResultSetsParamsControlled sql params control => exact texts sql params control
  | commitControlled control => exact fun _ isOpen _ => ⟨isOpen, .inl rfl⟩
  | openQueryCursorControlled sql params control => exact fun _ _ single _ => single
  | close =>
    intro _ _ _ _ certain
    cases isOpen : session.batch with
    | none =>
      rw [isOpen] at certain
      cases certain
    | some batch => exact ⟨by rw [isOpen]; rfl, .inr (.inl rfl)⟩
  | fetchQueryCursorPageControlled | closeQueryCursorControlled | lexicalSettingsControlled
  | fetchCompletionColumnsControlled => exact trivial

/-- Every call an operation makes is one the session lets through. -/
private theorem lets_of_dispatched (guard : PolicyGuard) (operation : SessionOperation)
    (world : World PolicySession) {reply : DriverReply (Option Nat)}
    (sent : .dispatched call reply ∈ (operation.run guard world).events) :
    world.own.Lets guard call := by
  have keeps := (letThrough_framed guard world.own).run (fun _ _ _ holds => holds)
    (fun _ _ _ holds => holds) (fun _ _ => trivial)
    (fun _ _ bare => lets_of_bare bare) operation (admits_lets guard world.own operation)
  exact keeps.everywhere [] world ⟨fun _ _ member => absurd member List.not_mem_nil, rfl⟩ call
    reply sent

/-! ### The account of a batch -/

/-- The record of an end that leaves nothing open. -/
def Finishes (id : Uuid) (event : AuditEvent) : Prop :=
  event.batchId = some id ∧ event.phase = .outcome ∧
    (event.operationClass = .transactionCommit ∨ event.operationClass = .transactionRollback) ∧
    (event.transactionOutcome = .committed ∨ event.transactionOutcome = .rolledBack ∨
      event.transactionOutcome = .failed)

/-- The end of the batch is on record, or governed writes are locked. -/
def Accounted (id : Uuid) (past : List GuardEvent) (world : World PolicySession) : Prop :=
  (∃ event, .recorded event .accepted ∈ past ∧ Finishes id event) ∨
    world.audit.governedWritesDisabled = true

def OpenBatch.Is (id : Uuid) (batch : OpenBatch) : Prop := batch.id = id ∧ batch.readOnly = false

def Tracked (id : Uuid) (past : List GuardEvent) (world : World PolicySession) : Prop :=
  (∃ batch, world.own.batch = some batch ∧ batch.Is id) ∨ Accounted id past world

variable {α : Type} {guard : PolicyGuard} {session : PolicySession} {sql : String}
  {params : List Value} {control : OperationControl} {kind : Finish} {chain : Bool} {id : Uuid}

private theorem Accounted.append (accounted : Accounted id past world) (event : GuardEvent) :
    Accounted id (past ++ [event]) world := by
  rcases accounted with ⟨record, found, finishes⟩ | locked
  · exact .inl ⟨record, List.mem_append_left _ found, finishes⟩
  · exact .inr locked

private theorem Accounted.grows (accounted : Accounted id past world) {audit : AuditState}
    {step : Nat} (le : world.audit.Le audit) :
    Accounted id past { world with audit := audit, step := step } := by
  rcases accounted with recorded | locked
  · exact .inl recorded
  · exact .inr (le.locked locked)

private theorem Tracked.append (tracked : Tracked id past world) (event : GuardEvent) :
    Tracked id (past ++ [event]) world := by
  rcases tracked with isOpen | accounted
  · exact .inl isOpen
  · exact .inr (accounted.append event)

/-- Without an open batch, or with one that only reads, the batch is accounted for. -/
private theorem Tracked.accounted (tracked : Tracked id past world)
    (other : ∀ batch, world.own.batch = some batch → batch.readOnly = true) :
    Accounted id past world := by
  rcases tracked with ⟨batch, isOpen, isBatch⟩ | accounted
  · have readOnly := other batch isOpen
    rw [isBatch.2] at readOnly
    cases readOnly
  · exact accounted

private theorem accounted_framed (guard : PolicyGuard) (id : Uuid) :
    SessionFramed guard (.lenient fun _ _ => True) (Accounted id) where
  toFramed := .ofEvents (fun _ _ _ _ le holds => holds.grows le) fun _ _ event _ holds =>
    holds.append event
  locks := fun _ _ => trivial
  retires := fun _ _ holds => holds
  collects := fun _ _ _ holds => holds

private theorem tracked_framed (guard : PolicyGuard) (id : Uuid) :
    SessionFramed guard (.lenient fun _ _ => True) (Tracked id) where
  toFramed := .ofEvents (fun _ _ _ _ le holds => holds.imp_right fun accounted =>
    accounted.grows le) fun _ _ event _ holds => holds.append event
  locks := fun _ _ => trivial
  retires := fun _ _ holds => holds
  collects := fun _ _ _ holds => holds

private theorem tracked_notes (id : Uuid) : Notes (Tracked id) := by
  intro change note past world holds
  rcases holds with ⟨batch, isOpen, isBatch⟩ | accounted
  · refine .inl ⟨change batch, ?_, (note batch).1.trans isBatch.1, (note batch).2.trans isBatch.2⟩
    change world.own.batch.map change = _
    rw [isOpen]
    rfl
  · exact .inr accounted

private theorem tracked_cursors (id : Uuid) : Cursors (Tracked id) := fun _ _ _ holds => holds

private theorem tracked_begin {run : InSession α}
    (refuses : session.batch.isSome = true →
      Lasts (Tracked id) session run)
    (opens : session.batch = none →
      Lasts (Accounted id) session run) :
    Lasts (Tracked id) session run := by
  cases isOpen : session.batch with
  | some batch => exact refuses (by rw [isOpen]; rfl)
  | none =>
  refine .weaken (opens isOpen) (fun past world holds => ?_) fun _ _ holds => .inr holds
  refine ⟨holds.1.accounted fun batch found => ?_, holds.2⟩
  rw [holds.2, isOpen] at found
  cases found

private theorem begin_tracked :
    Lasts (Tracked id) session (begin guard sql control) := by
  refine tracked_begin (fun isOpen => spec_own ?_) fun _ =>
    (accounted_framed guard id).begin (fun _ _ _ holds => holds) fun _ => trivial
  rw [if_pos isOpen]
  exact (tracked_framed guard id).refuseOwning

private theorem beginReadOnly_tracked :
    Lasts (Tracked id) session (beginReadOnly guard sql control) := by
  refine tracked_begin (fun isOpen => ?_) fun _ =>
    (accounted_framed guard id).beginReadOnly (fun _ _ _ holds => holds) (fun _ _ => trivial)
      fun _ _ _ _ _ _ => trivial
  unfold PolicySession.beginReadOnly
  split
  · exact (tracked_framed guard id).refuseOwning
  · refine spec_own ?_
    rw [if_pos isOpen]
    exact (tracked_framed guard id).refuseOwning

/-! ### The end of a batch -/

private theorem readOnlyEnded_of_is (isBatch : batch.Is id) (verdict : Verdict) :
    readOnlyEnded batch verdict = false := by
  unfold readOnlyEnded
  rw [isBatch.2, Bool.and_false, Bool.false_and]

private theorem finishVerdict_of_is (isBatch : batch.Is id) (kind : Finish)
    (result : Except DriverError QueryResult) :
    finishVerdict kind batch result =
      finishOutcome kind batch.aborted result := by
  unfold finishVerdict
  dsimp only
  rw [readOnlyEnded_of_is isBatch]
  rfl

/-- An outcome after which the batch is not open any more. -/
def Settled (outcome : AuditTransactionOutcome) : Prop :=
  outcome = .committed ∨ outcome = .rolledBack ∨ outcome = .failed

private theorem settled_of_ok (kind : Finish) (aborted : Bool) (value : QueryResult) :
    Settled (finishOutcome kind aborted (.ok value)).transactionOutcome := by
  cases kind with
  | rollback => exact .inr (.inl rfl)
  | commit =>
    cases aborted with
    | false => exact .inl rfl
    | true => exact .inr (.inl rfl)

private theorem settled_of_error (kind : Finish) (aborted : Bool) {error : DriverError}
    (unlocked : (finishOutcome kind aborted (.error error)).locks = false)
    (final : isRetryable (.error error) = false) :
    Settled (finishOutcome kind aborted (.error error)).transactionOutcome := by
  unfold finishOutcome at unlocked ⊢
  cases error with
  | cancelled | timedOut => cases final
  | _ =>
    dsimp only at unlocked ⊢
    split at unlocked
    · cases unlocked
    · rename_i known
      rw [if_neg known]
      exact .inr (.inr rfl)

/-- An attempt to end a batch leaves it open unless its end is settled. -/
private theorem tracked_ended {next : OpenBatch} {kind : Finish} {chain : Bool}
    {result : Except DriverError QueryResult} (tracked : Tracked id past world)
    (isOpen : world.own.batch = some batch)
    (recorded : Settled (finishVerdict kind batch result).transactionOutcome → batch.id = id →
      Accounted id past world) :
    Tracked id past { world with own := { world.own with
      batch := batchAfter kind batch next chain result } } := by
  rcases tracked with ⟨opened, found, isBatch⟩ | accounted
  · rw [isOpen] at found
    cases found
    have verdict := finishVerdict_of_is isBatch kind result
    rw [verdict] at recorded
    cases result with
    | ok value => exact .inr (recorded (settled_of_ok kind _ value) isBatch.1)
    | error error =>
    by_cases settled : kind = .commit ∧
        (finishOutcome kind batch.aborted (.error error)).locks = false ∧
        isRetryable (.error error) = false
    · exact .inr (recorded (settled_of_error kind _ settled.2.1 settled.2.2) isBatch.1)
    refine .inl ⟨{ batch with uncertain := batch.uncertain ||
      (finishOutcome kind batch.aborted (.error error)).locks }, ?_, isBatch⟩
    unfold batchAfter
    rw [readOnlyEnded_of_is isBatch, verdict]
    cases kind with
    | rollback => rfl
    | commit =>
      refine if_neg fun ends => settled ⟨rfl, ?_⟩
      simpa using ends
  · exact .inr accounted

private theorem finishOperation_about {terms : Terms PolicySession}
    {assertion : Assertion PolicySession}
    (framed : Framed guard terms assertion) (kind : Finish) (batchId : Uuid) :
    Triple assertion (finishOperation guard kind batchId) fun operation _ _ =>
      operation.batchId = some batchId ∧
        (operation.cls = .transactionCommit ∨ operation.cls = .transactionRollback) := by
  cases kind with
  | commit =>
    exact .bind framed.newUuid.keeps fun _ =>
      spec_pure fun _ _ holds => ⟨holds, rfl, .inl rfl⟩
  | rollback =>
    exact .bind framed.newUuid.keeps fun _ =>
      spec_pure fun _ _ holds => ⟨holds, rfl, .inr rfl⟩

private theorem tracked_of_lock (world : World PolicySession) :
    Tracked id past { world with audit := world.audit.disableGovernedWrites } :=
  .inr (.inr (AuditState.locked_disableGovernedWrites world.audit))

/-- An attempt to end a batch. After a returned one that does not chain no batch is open. -/
private theorem finish_tracked :
    Spec (Owning (Tracked id) session) (finish guard sql control kind chain)
      (fun _ past world => Tracked id past world ∧ (chain = false → world.own.batch = none))
      (fun _ => Tracked id) (Tracked id) := by
  have framed := tracked_framed guard id
  have leaves : ∀ past world, Owning (Tracked id) session past world → Tracked id past world :=
    and_le_left
  refine spec_own ?_
  cases isOpen : session.batch with
  | none => exact framed.refuseOwning
  | some batch =>
  have keeping := framed.keepingBatch (some batch)
  refine .bind ((keeps_when fun _ =>
    (requireWritable (framed.owning session)).keeps).leaving leaves)
    fun _ => ?_
  refine .bind ((finishOperation_about (framed.owning session) kind batch.id).leaving leaves)
    fun operation => ?_
  refine .given fun about => ?_
  refine .bind (((framed.owning session).recordIntent
    fun _ _ _ => trivial).keeps.leaving leaves) fun _ => ?_
  refine .bind ((keeps_ofExcept _).leaving leaves) fun _ => ?_
  refine .through (fun result past world => Tracked id past world ∧
    (result.isOk = true → chain = false → world.own.batch = none)) (.releasing ?_
      (fun _ _ world (_ : True) => tracked_of_lock world)
      fun _ world (_ : True) => tracked_of_lock world)
    fun result => ?_
  · have drop : ∀ past world, Holding (Tracked id) (fun own => own.batch = some batch)
        past world → True := fun _ _ _ => trivial
    refine (show Spec (Holding (Tracked id) fun own => own.batch = some batch) _ _ _ _ from
      ?_).before fun past world holds => ⟨holds.1, by rw [holds.2]; exact isOpen⟩
    refine .bind (Keeps.leaving (keeping.caught (keeping.dispatch fun _ _ _ => trivial))
      drop) fun result => ?_
    refine .bind ((keeping.noteDisconnect result).leaving drop) fun _ => ?_
    refine .bind ((keeping.recordVerdictAnswered (fun _ _ _ => trivial)
      fun _ _ _ _ _ _ => trivial).leaving drop) fun recorded => ?_
    have known := keeping.toFramed.also fun past event (answered : VerdictAnswered guard
      operation (finishVerdict kind batch result) recorded past) =>
        answered.append event
    refine .bind (known.newUuid.leaving fun _ _ _ => trivial) fun nextId => ?_
    refine .through (fun _ past world => recorded = .ok () → Tracked id past world ∧
      (result.isOk = true → chain = false → world.own.batch = none))
      (spec_modify fun past world holds accepted => ?_) fun _ => ?_
    · have answered := holds.1.2
      rw [accepted] at answered
      obtain ⟨_, timestamp, found⟩ := answered
      refine ⟨tracked_ended holds.1.1.1 holds.1.1.2 fun settled same =>
        .inl ⟨_, found, by rw [← same]; exact about.1, rfl, about.2, settled⟩, ?_⟩
      intro ok chained
      cases result with
      | error error => cases ok
      | ok value => simp [chained, batchAfter]
    refine .through (fun _ past world => Tracked id past world ∧
      (result.isOk = true → chain = false → world.own.batch = none)) ?_
      fun _ => spec_pure le_rfl
    cases recorded with
    | ok _ => exact spec_pure fun _ _ holds => holds rfl
    | error error =>
      exact .through (fun _ _ _ => True) (spec_modify fun _ _ _ => trivial) fun _ =>
        spec_fail fun _ _ _ => trivial
  refine .through (fun _ past world => Tracked id past world ∧
    (chain = false → world.own.batch = none)) (spec_ofExcept (fun value ok past world holds =>
      ⟨holds.1, holds.2 (by rw [ok]; rfl)⟩) fun _ _ _ _ holds => holds.1) fun _ =>
        spec_pure le_rfl

/-! ### Operations -/

private theorem queryParamsControlled_tracked :
    Lasts (Tracked id) session (PolicySession.queryParamsControlled guard sql params control) := by
  have framed := tracked_framed guard id
  refine .bind framed.requireQueryReady fun _ => ?_
  refine .besides ?_
  split
  · split
    · exact framed.refuseOwning
    · exact begin_tracked
  · exact begin_tracked
  · exact framed.refuseOwning
  · exact beginReadOnly_tracked
  · exact .bind finish_tracked fun _ => spec_pure and_le_left
  · exact .bind finish_tracked fun _ => spec_pure and_le_left
  split
  · exact framed.refuseOwning
  · exact framed.statement (tracked_notes id) (fun _ _ => trivial)
      fun _ _ _ _ => trivial

private theorem commitControlled_tracked :
    Lasts (Tracked id) session (commitControlled guard control) := by
  refine .bind (tracked_framed guard id).requireQueryReady fun _ => ?_
  refine .besides ?_
  refine .bind finish_tracked fun ended => ?_
  refine .besides ?_
  dsimp only
  split
  · exact keeps_pure _
  · exact keeps_pure _
  · exact keeps_fail _

/-! ### The end of the session -/

/-- A session gives up a batch only with a lock. -/
private theorem recordAbandoned_accounts {pre : Assertion PolicySession} {batchId : Uuid} :
    Leads pre (Accounted id) (recordAbandonedTransaction guard batchId) :=
  .through (fun _ => Accounted id)
    (spec_modify fun _ world _ => .inr (AuditState.locked_disableGovernedWrites world.audit))
    fun _ => recordEnd (accounted_framed guard id).toFramed fun _ _ _ _ => trivial

private theorem closeBatch_accounts (batch : OpenBatch) :
    Spec (Holding (Tracked id) fun own => own.batch = some batch)
      (closeBatch guard batch) (fun _ => Accounted id) (fun _ => Accounted id)
      (Tracked id) := by
  have keeping := (tracked_framed guard id).keepingBatch (some batch)
  have framed := accounted_framed guard id
  have readsOnly : ∀ left : OpenBatch, (left.readOnly && !left.wrote) = true → ∀ past world,
      Holding (Tracked id) (fun own => own.batch = some left) past world →
        Accounted id past world := by
    intro left ended past world holds
    refine holds.1.accounted fun found isOpen => ?_
    rw [holds.2] at isOpen
    cases isOpen
    exact (Bool.and_eq_true_iff.mp ended).1
  refine .bind keeping.usability fun usable => ?_
  split
  · rename_i ended
    refine .weaken (recordEnd framed.toFramed fun _ _ _ _ => trivial) (readsOnly batch ?_)
      le_rfl le_rfl fun _ _ => .inr
    rw [Bool.and_assoc] at ended
    exact (Bool.and_eq_true_iff.mp ended).2
  refine .bind keeping.usability fun usable => ?_
  split
  · refine .bind (keeping.asking _) fun control => ?_
    refine .besides ?_
    refine .through (fun rollback => Holding (Tracked id) fun own =>
      rollback.isOk = true → own.batch = none) ?_ fun rollback => ?_
    · refine spec_of_owning fun own same => ?_
      refine (Spec.attempt finish_tracked).returning fun rollback past world holds => ?_
      cases rollback with
      | ok value => exact ⟨holds.1, fun _ => holds.2 rfl⟩
      | error error => exact ⟨holds, nofun⟩
    refine spec_of_owning fun session closed => spec_own ?_
    refine .through (fun _ => Accounted id) ?_ fun _ =>
      .map (spec_ofExcept (fun _ _ _ _ holds => holds)
        fun _ _ _ _ holds => holds)
    cases found : (if rollback.isOk then none else session.batch : Option OpenBatch) with
    | none =>
      refine spec_pure fun past now holding => holding.1.accounted fun batch isOpen => ?_
      rw [holding.2] at isOpen
      split at found
      · rename_i ok
        rw [closed ok] at isOpen
        cases isOpen
      · rw [found] at isOpen
        cases isOpen
    | some left =>
      have isOpen : session.batch = some left := by
        split at found
        · cases found
        · exact found
      dsimp only [whenSome]
      split
      · rename_i ended
        exact .weaken (recordEnd framed.toFramed fun _ _ _ _ => trivial)
          (fun past now holding =>
          readsOnly left ended past now ⟨holding.1, by rw [holding.2]; exact isOpen⟩)
          le_rfl le_rfl fun _ _ => .inr
      · exact recordAbandoned_accounts.leaving le_rfl fun _ _ => .inr
  · refine .through (fun _ => Accounted id) ?_ fun _ => spec_fail le_rfl
    exact recordAbandoned_accounts.leaving le_rfl fun _ _ => .inr

private theorem close_accounts :
    Spec (Owning (Tracked id) session) (close guard) (fun _ => Accounted id)
      (fun _ => Accounted id) (Tracked id) := by
  have framed := tracked_framed guard id
  have accounted := accounted_framed guard id
  refine spec_own ?_
  refine .through (fun _ => Holding (Tracked id) fun _ => True) ?_ fun cursorCleanup => ?_
  · refine .weaken (.attemptAll (?_ : Keeps (Tracked id) _)) and_le_left
      (fun _ _ _ holds => ⟨holds, trivial⟩) le_rfl le_rfl
    split
    · exact framed.closeActiveCursor (tracked_cursors id) (fun _ _ => trivial) _
        fun _ _ _ => trivial
    · exact keeps_pure _
  refine spec_of_owning fun own _ => spec_own ?_
  refine .through (fun _ => Accounted id) (.attemptAll ?_) fun cleanup => ?_
  · cases isOpen : own.batch with
    | some batch =>
      exact (closeBatch_accounts batch).before fun past world holds =>
        ⟨holds.1, by rw [holds.2]; exact isOpen⟩
    | none =>
      refine spec_pure fun past world holds => holds.1.accounted fun batch found => ?_
      rw [holds.2, isOpen] at found
      cases found
  · refine .weaken (.bind (accounted.caught (accounted.dispatch fun _ _ _ => trivial))
      fun closed => .bind (keeps_ofExcept _) fun _ => .result (keeps_ofExcept _))
      le_rfl le_rfl le_rfl fun _ _ => .inr

variable (operation : SessionOperation)

private theorem run_tracked : Keeps (Tracked id) (operation.run guard) := by
  have framed := tracked_framed guard id
  refine keeps_of_owning fun session => ?_
  have anywhere : ∀ {β : Type} {run : InSession β}, Keeps (Tracked id) run →
      Lasts (Tracked id) session (discard run) := fun keeps =>
    Spec.besides (Spec.map keeps)
  cases operation with
  | queryParamsControlled sql params control =>
    exact Spec.map queryParamsControlled_tracked
  | queryResultSetsParamsControlled sql params control =>
    exact Spec.map (resultSets_leads framed.collects framed.collects fun _ =>
      queryParamsControlled_tracked)
  | commitControlled control =>
    exact Spec.map commitControlled_tracked
  | openQueryCursorControlled sql params control =>
    exact Spec.map (framed.openQueryCursorControlled (tracked_notes id) (tracked_cursors id)
      (fun _ _ _ => trivial) fun _ _ _ _ => trivial)
  | fetchQueryCursorPageControlled cursorId control =>
    exact anywhere (framed.fetchQueryCursorPageControlled (tracked_notes id) (tracked_cursors id)
      (fun _ _ => trivial) (fun _ => trivial) fun _ _ => trivial)
  | closeQueryCursorControlled cursorId control =>
    exact anywhere (framed.closeActiveCursor (tracked_cursors id) (fun _ _ => trivial) _
      fun _ _ _ => trivial)
  | lexicalSettingsControlled control =>
    exact anywhere (framed.lexicalSettingsControlled fun _ => trivial)
  | fetchCompletionColumnsControlled schema table control =>
    exact anywhere (framed.fetchCompletionColumnsControlled schema table fun _ => trivial)
  | close =>
    exact Spec.weaken close_accounts le_rfl (fun _ _ _ => Or.inr) (fun _ _ _ => Or.inr)
      le_rfl

/-! ### Transactions that were begun -/

def PolicyGuard.StartsWriting (guard : PolicyGuard) (sql : String) : Prop :=
  guard.front.transactionControl sql guard.ctx.driverId = some .begin ∨
    guard.front.transactionControl sql guard.ctx.driverId = some .beginReadWrite

def Begins (guard : PolicyGuard) : GuardEvent → Prop
  | .dispatched (.query .session .begin sql _ _) (.returned _) => guard.StartsWriting sql
  | _ => False

def Unbegun (guard : PolicyGuard) (past : List GuardEvent) (_ : World PolicySession) : Prop :=
  ∀ event ∈ past, ¬ Begins guard event

/-- A transaction that was begun is open as a batch. -/
def BegunIsOpen (guard : PolicyGuard) (past : List GuardEvent) (world : World PolicySession) :
    Prop :=
  (∃ event ∈ past, Begins guard event) →
    ∃ batch, world.own.batch = some batch ∧ batch.readOnly = false

private theorem Unbegun.isOpen (unbegun : Unbegun guard past world) :
    BegunIsOpen guard past world :=
  fun ⟨event, found, begins⟩ => absurd begins (unbegun event found)

private theorem Unbegun.append {event : GuardEvent} (unbegun : Unbegun guard past world)
    (other : ¬ Begins guard event) :
    Unbegun guard (past ++ [event]) world := by
  intro found member
  rcases List.mem_append.mp member with earlier | last
  · exact unbegun found earlier
  · rw [List.mem_singleton.mp last]
    exact other

def PolicyGuard.StartsNoWriting (guard : PolicyGuard) : DriverCall → Prop
  | .query .session .begin sql _ _ => ¬ guard.StartsWriting sql
  | _ => True

private theorem not_begins_of_call (other : guard.StartsNoWriting call)
    (reply : DriverReply (Option Nat)) : ¬ Begins guard (.dispatched call reply) := by
  intro begins
  unfold Begins at begins
  split at begins
  · rename_i same
    cases same
    exact other begins
  · exact begins

private theorem unbegun_framed (guard : PolicyGuard) :
    SessionFramed guard (.lenient fun _ => guard.StartsNoWriting) (Unbegun guard) where
  toFramed := .ofEvents (fun _ _ _ _ _ holds => holds) fun _ _ event allowed holds =>
    holds.append fun begins => by
      cases event with
      | dispatched call reply => exact not_begins_of_call (allowed call reply rfl) reply begins
      | recorded | asked | faulted => exact begins
  locks := fun _ _ => trivial
  retires := fun _ _ holds => holds
  collects := fun _ _ _ holds => holds

private theorem begin_opens :
    Leads (Owning (Unbegun guard) session) (BegunIsOpen guard) (begin guard sql control) := by
  have framed := unbegun_framed guard
  refine spec_own ?_
  split
  · exact framed.refuseOwning.leaving (fun _ _ _ => Unbegun.isOpen) fun _ _ => Unbegun.isOpen
  refine .through (fun result past world => result.isOk = false → Unbegun guard past world) ?_
    fun result => ?_
  · have unreturned : ∀ past world reply, Unbegun guard past world →
        (∀ rows, reply ≠ .returned rows) →
        Unbegun guard (past ++ [.dispatched (beginCall sql control) reply]) world := by
      intro past world reply holds other
      refine holds.append fun begins => ?_
      cases reply with
      | returned rows => exact other rows rfl
      | failed | panicked | dropped => exact begins
    refine caughtDispatch (fun _ past world operation holds failed =>
      framed.ignoresFaults past world operation (holds failed)) fun past world audit le holds => ?_
    dsimp only
    split
    · exact nofun
    · exact fun _ => unreturned past _ _ holds.1 fun _ => nofun
    · exact fun _ _ => unreturned past _ _ holds.1 fun _ => nofun
    · exact Unbegun.isOpen (unreturned past _ _ holds.1 fun _ => nofun)
  cases result with
  | error error =>
    refine Leads.weaken (Keeps.bind (framed.noteDisconnect (.error error)) fun _ =>
      Spec.result (keeps_pure ())) (fun _ _ holds => holds rfl) fun _ _ holds => holds.isOpen
  | ok value =>
  refine .through (fun _ _ _ => True) (spec_pure fun _ _ _ => trivial) fun _ => ?_
  refine .through (fun _ _ world => ∃ batch, world.own.batch = some batch ∧
    batch.readOnly = false) ?_ fun _ => spec_pure fun _ _ isOpen _ => isOpen
  exact .through (fun _ _ _ => True) (fun _ _ _ => trivial) fun batchId =>
    spec_modify fun _ world _ => ⟨_, rfl, rfl⟩

private theorem queryParamsControlled_opens :
    Leads (Owning (Unbegun guard) session) (BegunIsOpen guard)
      (PolicySession.queryParamsControlled guard sql params control) := by
  have framed := unbegun_framed guard
  have weaken : ∀ {run : InSession QueryResult}, Lasts (Unbegun guard) session run →
      Leads (Owning (Unbegun guard) session) (BegunIsOpen guard) run := fun spec =>
    .weaken spec le_rfl fun _ _ => Unbegun.isOpen
  by_cases starts : guard.StartsWriting sql
  · refine .bind (.weaken framed.requireQueryReady le_rfl
      (fun _ _ _ holds => holds.1) (fun _ _ _ => Unbegun.isOpen) fun _ _ => Unbegun.isOpen)
      fun _ => ?_
    rcases starts with starts | starts
    · rw [starts]
      exact begin_opens
    rw [starts]
    dsimp only
    split
    · exact weaken framed.refuseOwning
    · exact begin_opens
  refine weaken (framed.queryParamsControlled (fun _ _ _ holds => holds) (fun _ => ?_)
    fun _ _ _ _ _ _ _ _ => trivial)
  exact ⟨fun _ _ => trivial, fun _ _ _ => forall_statementCalls trivial trivial,
    fun _ _ _ _ _ => starts, fun _ _ _ _ _ => trivial⟩

private theorem run_opens :
    Leads (Owning (Unbegun guard) session) (BegunIsOpen guard) (operation.run guard) := by
  have others :
      Admits guard (.lenient fun _ => guard.StartsNoWriting) (Unbegun guard) session operation →
      Leads (Owning (Unbegun guard) session) (BegunIsOpen guard) (operation.run guard) :=
    fun admits =>
    .weaken ((unbegun_framed guard).run (fun _ _ _ holds => holds) (fun _ _ _ holds => holds)
      (fun _ _ => trivial) (fun _ call bare => by
        change guard.StartsNoWriting call
        unfold PolicyGuard.StartsNoWriting
        split
        · cases bare
        · exact trivial) operation admits) le_rfl fun _ _ => Unbegun.isOpen
  cases operation with
  | queryParamsControlled sql params control =>
    exact .map queryParamsControlled_opens
  | queryResultSetsParamsControlled sql params control =>
    exact .map (resultSets_leads (unbegun_framed guard).collects (fun _ _ _ holds => holds)
      fun _ => queryParamsControlled_opens)
  | commitControlled control => exact others fun _ _ _ => trivial
  | openQueryCursorControlled sql params control => exact others fun _ _ _ _ => trivial
  | fetchQueryCursorPageControlled | closeQueryCursorControlled | lexicalSettingsControlled
  | fetchCompletionColumnsControlled => exact others trivial
  | close => exact others fun _ _ _ _ _ => trivial

/-! ### Runs of a session -/

def sessionRun (guard : PolicyGuard) (operations : List SessionOperation)
    (world : World PolicySession) : List GuardEvent × World PolicySession :=
  history (operations.map fun operation => operation.run guard) world

theorem sessionRun_cons (guard : PolicyGuard) (operation : SessionOperation)
    (later : List SessionOperation) (world : World PolicySession) :
    sessionRun guard (operation :: later) world =
      ((operation.run guard world).events ++
        (sessionRun guard later (operation.run guard world).state).1,
        (sessionRun guard later (operation.run guard world).state).2) :=
  history_cons _ _ world

private theorem sessionRun_keeps
    (keeps : ∀ operation : SessionOperation, Keeps inv (operation.run guard))
    (operations : List SessionOperation) (holds : inv [] world) :
    inv (sessionRun guard operations world).1 (sessionRun guard operations world).2 := by
  refine Keeps.history (fun call member => ?_) holds
  obtain ⟨operation, _, rfl⟩ := List.mem_map.mp member
  exact keeps operation

/-- Every session transaction is accounted for. At any point of a run the next operation makes
only calls the session lets through, so no text that starts a transaction reaches the driver
while a batch is open, and none that ends one while no batch is. A read-write transaction the
driver confirms is then open as a batch, and a read-write batch that is open at any point has
a recorded end when `close` returns, or governed writes are locked. -/
theorem session_transactions_accounted (guard : PolicyGuard) (audit : AuditState) (step : Nat)
    (before after : List SessionOperation) (operation : SessionOperation) :
    let start : World PolicySession := { audit := audit, step := step, own := .fresh }
    let reached := (sessionRun guard before start).2
    let next := operation.run guard reached
    (∀ call reply, .dispatched call reply ∈ next.events → reached.own.Lets guard call) ∧
      ((∃ event ∈ next.events, Begins guard event) →
        ∃ batch, next.state.own.batch = some batch ∧ batch.readOnly = false) ∧
      ∀ batch, next.state.own.batch = some batch → batch.readOnly = false →
        let left := sessionRun guard after next.state
        let closed := PolicySession.close guard left.2
        closed.exit.Returned → Accounted batch.id (left.1 ++ closed.events) closed.state := by
  intro start reached next
  refine ⟨fun call reply sent => lets_of_dispatched guard operation reached sent,
    (run_opens operation).everywhere [] reached
      ⟨fun _ member => absurd member List.not_mem_nil, rfl⟩,
    ?_⟩
  · intro batch isOpen writes left closed returned
    have tracked : Tracked batch.id left.1 left.2 :=
      sessionRun_keeps run_tracked after (.inl ⟨batch, isOpen, rfl, writes⟩)
    exact close_accounts.returned left.1 left.2 ⟨tracked, rfl⟩ returned

end Bookie.Guard
