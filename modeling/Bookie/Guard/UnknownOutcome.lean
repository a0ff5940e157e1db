/-
Unknown outcomes and the lock. A write recorded with an unknown outcome has to lock
governed writes. A backup or restore whose work reports it itself and the start of a
snapshot do not; for every operation we state exactly when the lock is missing.
-/

import Bookie.Guard.Obliging

namespace Bookie.Guard

open Bookie.Core Policy Async Async.Future PolicyGuard PolicySession

/-! ### Which operations leave the lock open -/

/-- The work of a caller reports an unknown outcome and is allowed to run. A deadline at the
start of the clock has always passed. -/
def AdministrativeWork.LeavesOpen (guard : PolicyGuard) (work : AdministrativeWork) : Prop :=
  work.unresolved = true ∧ guard.ctx.principal.isAgent = false ∧
    (work.operation.replacesData = true → guard.ctx.readOnly = false) ∧
    work.control.deadline ≠ some 0

def PolicySession.LeavesOpen (guard : PolicyGuard) (session : PolicySession) (sql : String) :
    Prop :=
  guard.front.transactionControl sql guard.ctx.driverId = some .beginReadOnlySnapshot ∧
    guard.ctx.driverId = "postgres" ∧ (guard.facts sql).writes = true ∧ session.isReady ∧
    session.batch = none

def SessionOperation.LeavesOpen (guard : PolicyGuard) (session : PolicySession) :
    SessionOperation → Prop
  | .queryParamsControlled sql _ _ | .queryResultSetsParamsControlled sql _ _ =>
    session.LeavesOpen guard sql
  | _ => False

/-- The operation can record an unknown write and leave governed writes enabled. -/
def GuardOperation.LeavesOpen (guard : PolicyGuard) : {σ : Type} → GuardOperation σ → σ → Prop
  | _, .administrative work, _ => work.LeavesOpen guard
  | _, .session operation, own => operation.LeavesOpen guard own
  | _, _, _ => False

/-! ### Unknown writes lock -/

def UnknownWrite (past : List GuardEvent) : Prop :=
  ∃ event reply, .recorded event reply ∈ past ∧ event.operationClass.isWrite = true ∧
    event.terminalStatus = .unknown

def UnknownLocks {σ : Type} (past : List GuardEvent) (world : World σ) : Prop :=
  UnknownWrite past → world.audit.governedWritesDisabled = true

private theorem unknownWrite_append {past : List GuardEvent} {event : GuardEvent}
    (unknown : UnknownWrite (past ++ [event])) : UnknownWrite past ∨
      ∃ record reply, event = .recorded record reply ∧ record.operationClass.isWrite = true ∧
        record.terminalStatus = .unknown := by
  obtain ⟨record, reply, found, write, status⟩ := unknown
  rcases List.mem_append.mp found with found | found
  · exact .inl ⟨record, reply, found, write, status⟩
  · exact .inr ⟨record, reply, (List.mem_singleton.mp found).symm, write, status⟩

variable {σ : Type} {guard : PolicyGuard}

private theorem unknownLocks_detached (guard : PolicyGuard) :
    Detached guard (fun _ => True) (UnknownLocks : Assertion σ) where
  grows := fun _ _ _ _ le locks unknown => le.locked (locks unknown)
  event := fun past world event quiet locks unknown => by
    rcases unknownWrite_append unknown with before | ⟨record, reply, rfl, write, status⟩
    · exact locks before
    · exact absurd status (quiet.2 write)
  settled := fun _ _ _ _ locked _ _ => locked
  called := fun past world call reply _ locks unknown => by
    rcases unknownWrite_append unknown with before | ⟨record, _, other, _⟩
    · exact locks before
    · cases other
  owned := fun _ _ _ => id

/-! ### Work whose time is over -/

variable {control : OperationControl}

private theorem checkPreDispatch_expired {inv : Assertion σ} (stable : Stable guard inv)
    (expired : control.deadline = some 0) {post : Unit → Assertion σ} :
    Spec inv (guard.checkPreDispatch control) post (fun _ => inv) inv := by
  refine .bind (stable.framed.ask _) fun cancelled => ?_
  split
  · exact spec_fail le_rfl
  · refine .bind (stable.framed.ask _) fun now => ?_
    rw [expired]
    exact spec_fail le_rfl

private theorem settles_unlessOpen {operation : SessionOperation} {session : PolicySession}
    (safe : ¬ operation.LeavesOpen guard session) :
    operation.Settles guard UnknownLocks session := by
  cases operation with
  | queryParamsControlled | queryResultSetsParamsControlled =>
    intro ready begins postgres idle writes
    exact absurd ⟨begins, postgres, writes, ready, idle⟩ safe
  | _ => trivial

private theorem unknownLocks_run {operation : GuardOperation σ} {own : σ}
    (safe : ¬ operation.LeavesOpen guard own) :
    Lasts UnknownLocks own (operation.run guard) := by
  have detached := unknownLocks_detached (σ := σ) guard
  have permitted : ∀ text, operation.Sends guard UnknownLocks own text → True := fun _ _ => trivial
  cases operation with
  | administrative work =>
    by_cases expired : work.control.deadline = some 0
    · refine .bind ((checkPreDispatch_expired detached.toStable expired).besides) fun _ =>
        spec_of_never
    · refine detached.run _ own permitted fun admits unresolved => ?_
      exact absurd ⟨unresolved, admits.1, fun replaces => (admits.2 replaces).1, expired⟩ safe
  | session operation => exact detached.run _ own permitted (settles_unlessOpen safe)
  | _ => exact detached.run _ own permitted trivial

/-! ### The lock stays open -/

def Exposed {σ : Type} (past : List GuardEvent) (world : World σ) : Prop :=
  world.audit = AuditState.new ∧ UnknownWrite past

private theorem exposed_modify (change : σ → σ) :
    Keeps Exposed (modifyOwn change : Guarded σ Unit) :=
  spec_modify fun _ _ => id

section Exposes

variable {σ α : Type} {guard : PolicyGuard} {own : σ} {operation : AuditOperation}

section

variable (obliging : guard.outside.Obliging)
include obliging

private theorem recordVerdict_exposes {verdict : Verdict} (write : operation.cls.isWrite = true)
    (unknown : verdict.terminalStatus = .unknown) (unlocking : verdict.locks = false) :
    Returns (At .new own) (guard.recordVerdict operation verdict) fun result past world =>
      Exposed past world ∧ result = .ok () := by
  unfold recordVerdict
  rw [unlocking]
  refine .skip ?_
  refine Returns.step (obliging.ask _) fun elapsed _ => ?_
  refine Returns.step (obliging.ask _) fun timestamp _ => ?_
  refine Returns.step (obliging.ask _) fun reply answered => ?_
  obtain ⟨step, rfl⟩ := answered
  rw [obliging.records]
  refine .through (fun _ => Exposed) (spec_emit fun past world here => ⟨here.1, ?_⟩) fun _ =>
    spec_pure fun _ _ exposed => ⟨exposed, rfl⟩
  exact ⟨_, _, List.mem_append_right _ (List.mem_singleton_self _), write, unknown⟩

private theorem checkPreDispatch_passes (ahead : control.deadline ≠ some 0) :
    Stays .new own (guard.checkPreDispatch control) := by
  refine .step (obliging.ask _) fun cancelled answered => ?_
  obtain ⟨step, rfl⟩ := answered
  rw [obliging.uncancelled]
  refine Returns.step (obliging.ask _) fun now answered => ?_
  obtain ⟨step, rfl⟩ := answered
  rw [obliging.early]
  cases deadline : control.deadline with
  | none => exact spec_pure le_rfl
  | some instant =>
  have later : ¬ instant ≤ 0 := by
    intro passed
    rw [deadline, Nat.le_zero.mp passed] at ahead
    exact ahead rfl
  simp only [later]
  exact spec_pure le_rfl

private theorem administrativeDecision_allows {work : AdministrativeOperation}
    (human : guard.ctx.principal.isAgent = false)
    (writable : work.replacesData = true → guard.ctx.readOnly = false) :
    Gives .new own (guard.administrativeDecision work) (·.isDeny = false) := by
  unfold administrativeDecision
  rw [human]
  cases work with
  | backup => exact spec_pure fun _ _ here => ⟨here, rfl⟩
  | restore =>
  rw [writable rfl]
  have enabled : Gives .new own guard.governedWriteRefusal (· = none) := by
    refine .step obliging.governedWritesDisabled fun disabled read => ?_
    rw [read]
    exact spec_pure fun _ _ here => ⟨here, rfl⟩
  refine .step enabled fun refusal granted => ?_
  rw [granted]
  exact spec_pure fun _ _ here => ⟨here, rfl⟩

end

variable {work : AdministrativeWork} {session : PolicySession} {sql label : String}
  {params : List Value} {control : OperationControl}

private theorem pendingRestore_returns {flag : DispatchFlag → Bool} {run : Guarded σ α}
    {pre : Assertion σ} {post : α → Assertion σ}
    (returns : Returns pre run post) :
    Returns pre (pendingRestore work flag run) post := by
  unfold pendingRestore
  split
  · exact .releasing returns (fun _ _ _ => id) fun _ _ => id
  · exact returns

/-- The error an unresolved work reports, which nothing turns into a lock. -/
private theorem reply_of_unresolved (unresolved : work.unresolved = true) :
    (∃ source, work.reply = .returned (.error (.operationOutcomeUnknown source))) ∧
      (work.operation.replacesData && work.flagged) = false := by
  unfold AdministrativeWork.unresolved at unresolved
  split at unresolved
  · rename_i source reply
    exact ⟨⟨source, reply⟩, by rwa [Bool.not_eq_true'] at unresolved⟩
  · cases unresolved

section

variable (obliging : guard.outside.Obliging)
include obliging

private theorem administrativeAudit_returns (work : AdministrativeOperation)
    (authorization : Authorization) :
    Gives .new own (guard.administrativeAudit work authorization) (·.cls = .administrative) :=
  .step (obliging.ask _) fun _ _ => spec_pure fun _ _ here => ⟨here, rfl⟩

/-- The work is awaited and its unknown outcome recorded as that of a read. -/
private theorem awaitWork_exposes {source : DriverError}
    (reply : work.reply = .returned (.error (.operationOutcomeUnknown source)))
    (unflagged : (work.operation.replacesData && work.flagged) = false)
    (administrative : operation.cls = .administrative) :
    Returns (At .new own) (pendingRestore work (fun flag => flag.after) (do
      let result ← guard.awaitWork work
      let result ← resolveRestoreOutcome work result
      let recorded ← guard.recordVerdict operation
        (resultVerdict .notApplicable none controlledReadFailure result)
      handleWriteOutcomeFailure recorded
      pure result : Guarded σ (Except DriverError Unit))) fun result past world =>
        Exposed past world ∧ result = .error (.operationOutcomeUnknown source) := by
  have awaited : Gives .new own (guard.awaitWork work)
      (· = .error (.operationOutcomeUnknown source)) := by
    refine .step (obliging.ask _) fun _ _ => ?_
    rw [reply]
    exact spec_pure fun _ _ here => ⟨here, rfl⟩
  refine pendingRestore_returns (.step awaited fun result replied => ?_)
  have unchanged : resolveRestoreOutcome work result = (pure result : Guarded σ _) := by
    unfold resolveRestoreOutcome
    rw [replied, unflagged]
    rfl
  rw [unchanged, replied]
  refine .skip ?_
  refine Returns.step (recordVerdict_exposes obliging (by rw [administrative]; rfl) rfl rfl)
    fun recorded accepted => ?_
  rw [accepted]
  exact spec_pure fun _ _ exposed => ⟨exposed, rfl⟩

private theorem administrative_exposes (leavesOpen : work.LeavesOpen guard) :
    Leads (At .new own) Exposed (guard.runAdministrativeInner work) := by
  obtain ⟨unresolved, human, writable, ahead⟩ := leavesOpen
  obtain ⟨⟨source, reply⟩, unflagged⟩ := reply_of_unresolved unresolved
  refine Returns.bind (checkPreDispatch_passes obliging ahead) fun _ => ?_
  refine Returns.step (administrativeDecision_allows obliging human writable)
    fun decision allowed => ?_
  refine Returns.step (obliging.resolveAuthorization allowed) fun authorization _ => ?_
  refine Returns.step (administrativeAudit_returns obliging _ authorization)
    fun operation administrative => ?_
  have intended : Stays .new own (pendingRestore work (fun flag => flag.before) (do
      ofExcept (auditRefusal intentNotPersisted (← guard.recordIntent operation)))) := by
    refine pendingRestore_returns (.step obliging.recordIntent
      fun result accepted => ?_)
    rw [accepted]
    exact spec_pure le_rfl
  refine Returns.bind intended fun _ => ?_
  refine Returns.step (awaitWork_exposes obliging reply unflagged administrative)
    fun result failed => ?_
  rw [failed]
  exact spec_fail le_rfl

end

def losing : Outside :=
  { Outside.cooperative with
    call := fun _ _ => .failed (.operationOutcomeUnknown .disconnected) true }

private theorem losing_obliging : losing.Obliging :=
  { Outside.cooperative_obliging with steady := fun _ _ => rfl }

variable (loses : guard.outside = losing)
include loses

private theorem caughtRead_loses {call : DriverCall} :
    Gives .new own (guard.caughtRead label (guard.dispatch call)) fun result =>
      ∃ source, result = .error (.operationOutcomeUnknown source) := by
  have obliging : guard.outside.Obliging := loses ▸ losing_obliging
  have dispatched : Spec (At .new own) (guard.dispatch call : Guarded σ _) (fun _ _ _ => False)
      (fun error past world => At .new own past world ∧
        error = .operationOutcomeUnknown .disconnected) fun _ _ => False := by
    refine Returns.step (obliging.ask _) fun reply answered => ?_
    obtain ⟨step, rfl⟩ := answered
    rw [loses]
    refine .through (fun _ => At .new own) (spec_emit fun _ _ => id) fun _ => ?_
    exact spec_fail fun _ _ here => ⟨here, rfl⟩
  refine (caught_spec dispatched (fun _ _ _ _ => id) fun _ _ _ => id).returning
    fun result past world holds => ?_
  cases result with
  | ok value => exact holds.elim
  | error error =>
  rcases holds with ⟨raw, rfl, here, rfl⟩ | ⟨_, never⟩
  · refine ⟨here, ?_⟩
    unfold sanitizeAgentError
    split
    · exact ⟨_, rfl⟩
    · exact ⟨_, rfl⟩
  · exact never.elim

private theorem beginReadOnly_exposes (postgres : guard.ctx.driverId = "postgres")
    (idle : session.batch = none) (writes : (guard.facts sql).writes = true) :
    Leads (At .new session) Exposed (beginReadOnly guard sql control) := by
  have obliging : guard.outside.Obliging := loses ▸ losing_obliging
  unfold beginReadOnly
  rw [postgres]
  refine Outside.Obliging.reading ?_
  rw [idle]
  refine Returns.step obliging.auditOperation fun operation write => ?_
  refine Returns.bind obliging.prepareGovernedRead fun _ => ?_
  refine Returns.step (caughtRead_loses loses) fun result lost => ?_
  obtain ⟨source, rfl⟩ := lost
  refine .skip ?_
  refine .skip ?_
  refine .through (fun _ => Exposed) ?_ fun _ => spec_fail le_rfl
  refine Returns.step (recordVerdict_exposes obliging (write.trans writes) rfl rfl)
    fun recorded accepted => ?_
  rw [accepted]
  exact spec_pure le_rfl

variable (leavesOpen : session.LeavesOpen guard sql)
include leavesOpen

private theorem queryParamsControlled_exposes :
    Leads (At .new session) Exposed
      (PolicySession.queryParamsControlled guard sql params control) := by
  have obliging : guard.outside.Obliging := loses ▸ losing_obliging
  obtain ⟨begins, postgres, writes, ready, idle⟩ := leavesOpen
  refine Returns.bind (obliging.requireQueryReady ready) fun _ => ?_
  rw [begins]
  exact beginReadOnly_exposes loses postgres idle writes

private theorem queryResultSets_exposes :
    Leads (At .new session) Exposed
      (PolicySession.queryResultSetsParamsControlled guard sql params control) := by
  refine Returns.bind (Outside.Obliging.modifyOwn _) fun _ => ?_
  have collecting : LeavesOpen guard
      { session with extra := { collect := true, sets := [] } } sql := leavesOpen
  refine .bind (.attemptAll (queryParamsControlled_exposes loses collecting)) fun first => ?_
  refine .bind keeps_own fun _ => .bind (exposed_modify _) fun _ => ?_
  exact .map (keeps_ofExcept first)

end Exposes

private theorem leavesOpen_outside {σ : Type} (guard : PolicyGuard) (outside : Outside)
    (operation : GuardOperation σ) (own : σ) :
    operation.LeavesOpen { guard with outside := outside } own ↔
      operation.LeavesOpen guard own := by
  cases operation with
  | session operation => cases operation <;> exact Iff.rfl
  | _ => exact Iff.rfl

private theorem leavesOpen_exposes {σ : Type} {guard : PolicyGuard} (loses : guard.outside = losing)
    {operation : GuardOperation σ} {own : σ} (leavesOpen : operation.LeavesOpen guard own) :
    Leads (At .new own) Exposed (operation.run guard) := by
  cases operation with
  | administrative work => exact administrative_exposes (loses ▸ losing_obliging) leavesOpen
  | session operation =>
    cases operation with
    | queryParamsControlled sql params control =>
      exact .map (queryParamsControlled_exposes loses leavesOpen)
    | queryResultSetsParamsControlled sql params control =>
      exact .map (queryResultSets_exposes loses leavesOpen)
    | _ => cases leavesOpen
  | _ => cases leavesOpen

/-- For every behaviour of the driver, the approver, the sink and other tasks: a write that is
recorded as unknown leaves governed writes disabled when its call ends, exactly if the
operation is not one of those that leave the lock open. -/
theorem unknown_write_locks_iff {σ : Type} (guard : PolicyGuard) (operation : GuardOperation σ)
    (own : σ) :
    (∀ (outside : Outside) (world : World σ), world.own = own →
      UnknownWrite (operation.run { guard with outside := outside } world).events →
        (operation.run { guard with outside := outside }
          world).state.audit.governedWritesDisabled = true) ↔
      ¬ operation.LeavesOpen guard own := by
  constructor
  · intro locks leavesOpen
    have loses : ({ guard with outside := losing } : PolicyGuard).outside = losing := rfl
    have exposes := leavesOpen_exposes loses ((leavesOpen_outside guard _ operation own).mpr
      leavesOpen)
    let world : World σ := { audit := .new, step := 0, own := own }
    obtain ⟨enabled, unknown⟩ := exposes.everywhere [] world ⟨rfl, rfl⟩
    have disabled := locks losing world rfl unknown
    rw [enabled] at disabled
    cases disabled
  intro safe outside world owned
  have kept := unknownLocks_run (mt (leavesOpen_outside guard outside operation own).mp safe)
  refine kept.everywhere [] world ⟨fun unknown => ?_, owned⟩
  obtain ⟨_, _, impossible, _⟩ := unknown
  cases impossible

def lostBackup : AdministrativeWork :=
  { operation := .backup
    control := { token := 0, deadline := none }
    dispatched := none
    reply := .returned (.error (.operationOutcomeUnknown .disconnected)) }

theorem unknown_backup_leaves_writes_enabled :
    UnknownWrite ((GuardOperation.administrative lostBackup).run
        (guardOver (frontEndKnowing []) .cooperative "postgres" .prod .humanGui)
        { audit := .new, step := 0, own := () }).events ∧
      ((GuardOperation.administrative lostBackup).run
        (guardOver (frontEndKnowing []) .cooperative "postgres" .prod .humanGui)
        { audit := .new, step := 0, own := () }).state.audit.governedWritesDisabled = false :=
  ⟨⟨_, _, .tail _ (.head _), rfl, rfl⟩, rfl⟩

end Bookie.Guard
