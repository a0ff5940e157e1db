/-
Write lockdown. While governed writes are disabled, a statement that writes by its
effects still gets through where only its class is looked at. For every operation we
state exactly when that happens.
-/

import Bookie.Guard.Obliging
import Bookie.Policy.Outcomes

namespace Bookie.Guard

open Bookie.Core Policy Async Async.Future PolicyGuard Bool

/-! ### Which operations slip past the lock -/

/-- The statement is a read by its class and a write by its effects, and a person on a
writable connection is only asked to confirm it. -/
def PolicyGuard.Overlooks (guard : PolicyGuard) (sql : String) : Prop :=
  (guard.facts sql).writes = false ∧ (guard.facts sql).effects.writes = true ∧
    isDangerous (guard.facts sql).effects = true ∧
    guard.ctx.principal.isAgent = false ∧ guard.ctx.readOnly = false

def PolicySession.Overlooks (guard : PolicyGuard) (session : PolicySession) (sql : String) :
    Prop :=
  match guard.front.transactionControl sql guard.ctx.driverId with
  | some .beginReadWrite => guard.ctx.readOnly = false ∧ session.batch = none
  | some .begin => session.batch = none
  | some .beginReadOnlySnapshot => guard.ctx.driverId = "postgres" ∧ session.batch = none
  | some (.rollback _) => session.batch.isSome = true
  | some .beginReadOnly | some (.commit _) => False
  | none =>
    guard.front.hidesTransactionControl sql guard.ctx.driverId = false ∧
      session.inReadOnlyBatch = false ∧ guard.Overlooks sql

def SessionOperation.Slips (guard : PolicyGuard) (session : PolicySession) :
    SessionOperation → Prop
  | .queryParamsControlled sql _ _ | .queryResultSetsParamsControlled sql _ _ =>
    (guard.facts sql).effects.writes = true ∧ session.isReady ∧ session.Overlooks guard sql
  | .close =>
    (guard.facts "ROLLBACK").effects.writes = true ∧ session.retired = false ∧
      session.batch.any (fun batch => !batch.uncertain) = true
  | _ => False

def GuardOperation.Slips (guard : PolicyGuard) : {σ : Type} → GuardOperation σ → σ → Prop
  | _, .sql operation, _ =>
    operation.isExecution = false ∧ operation.refusal guard = none ∧ guard.Overlooks operation.text
  | _, .session operation, own => operation.Slips guard own
  | _, _, _ => False

/-! ### Under the lock -/

def Sealed {σ : Type} (guard : PolicyGuard) (past : List GuardEvent) (world : World σ) : Prop :=
  world.audit.governedWritesDisabled = true ∧
    ∀ sql, (guard.facts sql).effects.writes = true → ¬ Sent sql past

variable {σ : Type} {guard : PolicyGuard} {sql : String}

private theorem sealed_detached (guard : PolicyGuard) :
    Detached guard (fun sql => (guard.facts sql).effects.writes = false)
      (Sealed guard : Assertion σ) where
  grows := fun _ _ _ _ le holds => ⟨le.locked holds.1, holds.2⟩
  event := fun past world event quiet holds => by
    refine ⟨holds.1, fun sql writes => not_sent_append (holds.2 sql writes) ?_⟩
    rintro call reply rfl
    rw [DriverCall.carries_of_isCount quiet.1]
    simp
  settled := fun past world event reply _ holds =>
    ⟨holds.1, fun sql writes => not_sent_append (holds.2 sql writes) fun _ _ other => by
      cases other⟩
  called := fun past world call reply permitted holds => by
    refine ⟨holds.1, fun sql writes => not_sent_append (holds.2 sql writes) ?_⟩
    rintro other reply same carries
    cases same
    rw [permitted sql carries] at writes
    cases writes
  owned := fun _ _ _ => id

private theorem sealed_locked : ¬ Unlocked (Sealed guard : Assertion σ) := by
  rintro ⟨past, world, holds, unlocked⟩
  rw [holds.1] at unlocked
  cases unlocked

/-- What passes the policy under the lock was decided before the lock is looked at. -/
private theorem passes_sealed_iff (reads : (guard.facts sql).writes = false)
    (writes : (guard.facts sql).effects.writes = true) :
    Passes guard (Sealed guard : Assertion σ) (guard.facts sql) ↔ guard.Overlooks sql := by
  have decided : (guard.categorical (guard.facts sql)).isSome = true ∧
      (guard.joinedDecision (guard.facts sql)).isDeny = false ↔
      guard.ctx.principal.isAgent = false ∧ guard.ctx.readOnly = false ∧
        isDangerous (guard.facts sql).effects = true :=
    hiddenWrite_decided_iff reads writes
  constructor
  · rintro (passes | ⟨_, unlocked⟩)
    · obtain ⟨human, writable, dangerous⟩ := decided.mp passes
      exact ⟨reads, writes, dangerous, human, writable⟩
    · exact absurd unlocked sealed_locked
  · rintro ⟨_, _, dangerous, human, writable⟩
    exact Or.inl (decided.mpr ⟨human, writable, dangerous⟩)

private theorem overlooks_of_admitted {refusal : Option Decision} {governed : Bool}
    (admitted : Admitted guard (Sealed guard : Assertion σ) refusal sql governed)
    (class_governed : governed = (guard.facts sql).writes)
    (writes : (guard.facts sql).effects.writes = true) : guard.Overlooks sql := by
  have reads : (guard.facts sql).writes = false := by
    rw [← class_governed, eq_false_iff]
    exact fun locked => sealed_locked (admitted.unlocked locked)
  exact (passes_sealed_iff reads writes).mp admitted.passes

variable {session : PolicySession}

private theorem session_overlooks (admits : TextAdmits guard (Sealed guard) session sql)
    (writes : (guard.facts sql).effects.writes = true) : session.Overlooks guard sql := by
  unfold TextAdmits at admits
  unfold PolicySession.Overlooks
  cases recognised : guard.front.transactionControl sql guard.ctx.driverId with
  | none =>
    rw [recognised] at admits
    refine ⟨admits.visible, ?_, overlooks_of_admitted admits.admitted rfl writes⟩
    rw [eq_false_iff]
    intro readOnly
    have refused := admits.snapshot readOnly
    rw [PolicySession.refusedInSnapshot, show (guard.analyzeStatement sql).facts.effects.writes =
      true from writes] at refused
    cases refused
  | some control =>
    rw [recognised] at admits
    cases control with
    | begin | beginReadWrite | beginReadOnly | beginReadOnlySnapshot => exact admits
    | commit chain => exact sealed_locked admits.2
    | rollback chain => exact admits

/-- Whatever an operation sends under the lock does not write, unless the operation slips. -/
private theorem sends_sealed {operation : GuardOperation σ} {own : σ}
    (holds : ¬ operation.Slips guard own)
    {text : String} (sends : operation.Sends guard (Sealed guard) own text) :
    (guard.facts text).effects.writes = false := by
  rw [eq_false_iff]
  intro writes
  apply holds
  cases operation with
  | sql operation =>
    obtain ⟨rfl, admits⟩ := sends
    have queries : operation.isExecution = false := by
      rw [eq_false_iff]
      exact fun executes => sealed_locked (admits.unlocked (by rw [executes, Bool.true_or]))
    refine ⟨queries, admits.accepted, overlooks_of_admitted admits ?_ writes⟩
    rw [queries]
    rfl
  | session operation =>
    cases operation with
    | queryParamsControlled | queryResultSetsParamsControlled =>
      obtain ⟨rfl, ready, admits⟩ := sends
      exact ⟨writes, ready, session_overlooks admits writes⟩
    | commitControlled control => exact absurd sends.2.2.2 sealed_locked
    | openQueryCursorControlled sql params control =>
      obtain ⟨rfl, _, _, single, _⟩ := sends
      have quiet : (guard.facts text).effects.writes = false := by
        have parts := single
        simp only [StatementFacts.isSingleRead, and_eq_true, not_eq_true'] at parts
        exact parts.1.2
      rw [quiet] at writes
      cases writes
    | close =>
      obtain ⟨rfl, active, certain⟩ := sends
      exact ⟨writes, active, certain⟩
    | fetchQueryCursorPageControlled | closeQueryCursorControlled | lexicalSettingsControlled
    | fetchCompletionColumnsControlled => cases sends
  | bulk operation =>
    cases operation with
    | executeBulkBatch batch control => exact absurd sends.2 sealed_locked
    | finishBulkInsert | dropScope => cases sends
  | _ => cases sends

private theorem settles_sealed (operation : GuardOperation σ) (own : σ) :
    operation.Settles guard (Sealed guard) own := by
  cases operation with
  | administrative work => exact fun _ _ _ _ holds => holds.1
  | session operation =>
    cases operation with
    | queryParamsControlled | queryResultSetsParamsControlled =>
      exact fun _ _ _ _ _ _ _ holds => holds.1
    | _ => trivial
  | _ => trivial

/-! ### Past the lock -/

def lockedAudit : AuditState := AuditState.new.disableGovernedWrites

private theorem overlooked_decided (overlooks : guard.Overlooks sql) :
    (guard.categorical (guard.facts sql)).isSome = true ∧
      (guard.joinedDecision (guard.facts sql)).isDeny = false := by
  obtain ⟨reads, writes, dangerous, human, writable⟩ := overlooks
  exact (hiddenWrite_decided_iff reads writes).mpr ⟨human, writable, dangerous⟩

private theorem lets_of_overlooks (overlooks : session.Overlooks guard sql) :
    Outside.Obliging.Lets guard lockedAudit session sql := by
  unfold PolicySession.Overlooks at overlooks
  unfold Outside.Obliging.Lets
  cases recognised : guard.front.transactionControl sql guard.ctx.driverId with
  | none =>
    rw [recognised] at overlooks
    obtain ⟨visible, writable, overlooks⟩ := overlooks
    have decided := overlooked_decided overlooks
    refine ⟨visible, by rw [writable, Bool.false_and], decided.1, decided.2, fun writes => ?_⟩
    rw [overlooks.1] at writes
    cases writes
  | some control =>
  rw [recognised] at overlooks
  cases control with
  | commit chain => cases overlooks
  | _ => exact overlooks

section Delivered

variable {σ : Type} {guard : PolicyGuard}

private theorem sqlOperation_delivers (obliging : guard.outside.Obliging) {operation : SqlOperation}
    (queries : operation.isExecution = false) (accepted : operation.refusal guard = none)
    (overlooks : guard.Overlooks operation.text) (own : σ) :
    Delivers (At lockedAudit own) (operation.run guard) operation.text := by
  obtain ⟨decided, allowed⟩ := overlooked_decided overlooks
  have reads := overlooks.1
  have shared : ∀ label params control sql, operation.text = sql →
      guard.sharedRefusal sql = none →
      Delivers (At lockedAudit own) (discard (guard.queryForm label sql params control)) sql := by
    rintro label params control sql rfl accepted
    exact Delivers.bind (delivers_of_reaches (by rfl)
      (obliging.queryForm decided allowed reads accepted))
  have inside : ∀ (transaction : PolicyTransaction) label params control sql,
      operation.text = sql → guard.transactionRefusal sql = none →
      Delivers (At lockedAudit own)
        (discard (transaction.queryForm guard label sql params control)) sql := by
    rintro transaction label params control sql rfl accepted
    exact Delivers.bind (delivers_of_reaches (by rfl)
      (obliging.transactionQueryForm decided allowed reads accepted))
  cases operation with
  | query | queryControlled | queryParams | queryParamsControlled =>
    exact shared _ _ _ _ rfl accepted
  | queryResultSetsControlled sql params control =>
    exact Delivers.bind (delivers_of_reaches (by rfl)
      (obliging.queryResultSetsControlled decided allowed reads accepted))
  | transactionQuery | transactionQueryControlled | transactionQueryParams
  | transactionQueryParamsControlled => exact inside _ _ _ _ _ rfl accepted
  | _ => cases queries

private theorem sessionOperation_delivers (obliging : guard.outside.Obliging)
    (answers : ∀ call, guard.outside.call 0 call = .returned call.emptyResult)
    {operation : SessionOperation} (slips : operation.Slips guard session) :
    ∃ sql, (guard.facts sql).effects.writes = true ∧
      Delivers (At lockedAudit session) (operation.run guard) sql := by
  cases operation with
  | queryParamsControlled sql params control =>
    obtain ⟨writes, ready, overlooks⟩ := slips
    obtain ⟨call, carries, reaches⟩ :=
      obliging.queryParamsControlled ready (lets_of_overlooks overlooks)
    exact ⟨sql, writes, Delivers.bind (delivers_of_reaches carries reaches)⟩
  | queryResultSetsParamsControlled sql params control =>
    obtain ⟨writes, ready, overlooks⟩ := slips
    obtain ⟨call, carries, reaches⟩ :=
      obliging.queryResultSetsParamsControlled ready (lets_of_overlooks overlooks)
    exact ⟨sql, writes, Delivers.bind (delivers_of_reaches carries reaches)⟩
  | close =>
    obtain ⟨writes, active, certain⟩ := slips
    cases running : session.batch with
    | none => simp [running] at certain
    | some batch =>
      rw [running, Option.any_some, not_eq_true'] at certain
      exact ⟨_, writes, obliging.close answers active running certain⟩
  | _ => cases slips

private theorem slips_delivers (obliging : guard.outside.Obliging)
    (answers : ∀ call, guard.outside.call 0 call = .returned call.emptyResult)
    {operation : GuardOperation σ} {own : σ} (slips : operation.Slips guard own) :
    ∃ sql, (guard.facts sql).effects.writes = true ∧
      Delivers (At lockedAudit own) (operation.run guard) sql := by
  cases operation with
  | sql operation =>
    obtain ⟨queries, accepted, overlooks⟩ := slips
    exact ⟨_, overlooks.2.1, sqlOperation_delivers obliging queries accepted overlooks own⟩
  | session operation => exact sessionOperation_delivers obliging answers slips
  | _ => cases slips

end Delivered

private theorem slips_outside {σ : Type} (guard : PolicyGuard) (outside : Outside)
    (operation : GuardOperation σ) (own : σ) :
    operation.Slips { guard with outside := outside } own ↔ operation.Slips guard own := by
  cases operation with
  | session operation => cases operation <;> exact Iff.rfl
  | _ => exact Iff.rfl

/-- Governed writes stay locked for every behaviour of the driver, the approver, the sink and
other tasks, exactly if the operation is not one that slips. -/
theorem lockdown_holds_iff {σ : Type} (guard : PolicyGuard) (operation : GuardOperation σ)
    (own : σ) :
    (∀ (outside : Outside) (world : World σ), world.own = own →
      world.audit.governedWritesDisabled = true →
      ∀ sql, (guard.facts sql).effects.writes = true →
        ¬ Sent sql (operation.run { guard with outside := outside } world).events) ↔
      ¬ operation.Slips guard own := by
  constructor
  · intro held slips
    have obliging : ({ guard with outside := .cooperative } : PolicyGuard).outside.Obliging :=
      Outside.cooperative_obliging
    obtain ⟨sql, writes, delivers⟩ := slips_delivers obliging (fun _ => rfl)
      ((slips_outside guard _ operation own).mpr slips)
    let world : World σ := { audit := lockedAudit, step := 0, own := own }
    have sent := delivers.everywhere [] world ⟨rfl, rfl⟩
    exact held .cooperative world rfl rfl sql writes sent
  intro safe outside world owned locked sql writes
  have kept := (sealed_detached { guard with outside := outside }).run operation own
    (fun text sends => sends_sealed (mt (slips_outside guard outside operation own).mp safe) sends)
    (settles_sealed operation own)
  exact (kept.everywhere [] world ⟨⟨locked, fun sql _ sent => by
    obtain ⟨_, _, impossible, _⟩ := sent
    cases impossible⟩, owned⟩).2 sql writes

/-- A MySQL advisory lock is taken by a query. -/
def getLock : KnownStatement :=
  .single "SELECT GET_LOCK('bookie', 1)" .select ((Effects.reads.union .sessionState).union .admin)
    []

def advisoryGuard : PolicyGuard :=
  guardOver (frontEndKnowing [getLock]) .cooperative "mysql" .prod .humanGui

def lockedWorld : World Unit :=
  { audit := lockedAudit
    step := 0
    own := () }

theorem lockdown_overlooks_get_lock :
    lockedWorld.audit.governedWritesDisabled = true ∧
      (advisoryGuard.facts getLock.sql).effects.writes = true ∧
      Sent getLock.sql
        ((GuardOperation.sql (.query getLock.sql)).run advisoryGuard lockedWorld).events := by
  refine ⟨rfl, rfl, .query .connection .statement getLock.sql none none, .returned none, ?_, rfl⟩
  exact .tail _ (.tail _ (.head _))

/-- **A denial is final.** Whatever driver, approver and sink do, no history of SQL operations
sends a statement that the rules deny without a row estimate. -/
theorem denied_never_sent (operations : List SqlOperation) (world : World σ)
    (decided : (guard.categorical (guard.facts sql)).isSome = true)
    (denied : (guard.joinedDecision (guard.facts sql)).isDeny = true) :
    ¬ Sent sql (Future.history (operations.map (SqlOperation.run guard)) world).1 := by
  have orderly : Orderly guard (· ≠ sql) fun past (_ : World σ) => ¬ Sent sql past :=
    { grows := fun _ _ _ _ _ => id
      event := fun _ _ _ quiet unsent => not_sent_append unsent fun _ _ same => by
        subst same
        rw [DriverCall.carries_of_isCount quiet.1]
        nofun
      settled := fun _ _ _ _ _ unsent => not_sent_append unsent nofun
      called := fun _ _ _ _ permitted unsent => not_sent_append unsent fun _ _ same carries => by
        cases same
        exact permitted sql carries rfl }
  refine Keeps.history (List.forall_mem_map.mpr fun operation _ =>
    orderly.sqlOperation operation ?_) (by rintro ⟨_, _, ⟨⟩, _⟩)
  rintro admits rfl
  rcases admits.passes with ⟨_, passes⟩ | ⟨undecided, _⟩
  · cases denied.symm.trans passes
  · cases decided.symm.trans (congrArg Option.isSome undecided)

theorem unparsed_never_sent : ¬ Sent "?" (Future.history ([.query "?"].map (SqlOperation.run
    (guardOver (frontEndKnowing []) .cooperative "mysql" .prod (.agent "" none none))))
    lockedWorld).1 :=
  denied_never_sent _ _ rfl rfl

end Bookie.Guard
