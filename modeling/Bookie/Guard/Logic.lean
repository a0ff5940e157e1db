/-
Reasoning about guarded runs: what the history says of a record, an approval and a
count, and the rules for the panic boundary and for a driver call.
-/

import Bookie.Guard.Connection

namespace Bookie.Guard

open Bookie.Core Policy Async Async.Future PolicyGuard

/-- What is said of the events so far and of the state they left. -/
abbrev Assertion (σ : Type) : Type := List GuardEvent → World σ → Prop

/-! ### Lockdown only grows -/

def AuditState.Le (before after : AuditState) : Prop :=
  (before.globallyDisabled = true → after.globallyDisabled = true) ∧
    (before.connectionUncertain = true → after.connectionUncertain = true)

theorem AuditState.le_join (state other : AuditState) : state.Le (state.join other) := by
  constructor <;> intro set <;> simp [AuditState.join, set]

variable (state : AuditState)

theorem AuditState.le_disableGovernedWrites :
    state.Le state.disableGovernedWrites := ⟨id, fun _ => rfl⟩

theorem AuditState.le_disableGlobally : state.Le state.disableGlobally :=
  ⟨fun _ => rfl, id⟩

theorem AuditState.Le.locked {before after : AuditState} (grows : before.Le after)
    (locked : before.governedWritesDisabled = true) : after.governedWritesDisabled = true := by
  simp only [AuditState.governedWritesDisabled, Bool.or_eq_true] at locked ⊢
  rcases locked with globally | uncertain
  · exact .inl (grows.1 globally)
  · exact .inr (grows.2 uncertain)

theorem AuditState.locked_disableGovernedWrites :
    state.disableGovernedWrites.governedWritesDisabled = true := by
  simp [AuditState.governedWritesDisabled, AuditState.disableGovernedWrites]

/-! ### What the history says -/

variable {σ α : Type} {guard : PolicyGuard} {call : DriverCall} {operation : AuditOperation}
  {result : Except AuditError Unit} {sql : String} {facts : StatementFacts} {decision : Decision}
  {past : List GuardEvent}

def DriverCall.isCount : DriverCall → Bool
  | .query _ .count _ _ _ => true
  | _ => false

theorem DriverCall.carries_of_isCount (counts : call.isCount = true) :
    call.carries = none := by
  unfold DriverCall.isCount at counts
  split at counts
  · rfl
  · cases counts

def SinkReply.ofResult : Except AuditError Unit → SinkReply
  | .ok _ => .accepted
  | .error error => .refused error

def Answered (guard : PolicyGuard) (operation : AuditOperation) (phase : AuditRecordPhase)
    (outcome : AuditOutcome) (durationMs : Option Nat) (result : Except AuditError Unit)
    (past : List GuardEvent) : Prop :=
  ∃ timestamp, .recorded (guard.auditEvent operation phase outcome durationMs timestamp)
    (.ofResult result) ∈ past

theorem Answered.append {phase : AuditRecordPhase} {outcome : AuditOutcome}
    {durationMs : Option Nat}
    (answered : Answered guard operation phase outcome durationMs result past)
    (event : GuardEvent) :
    Answered guard operation phase outcome durationMs result (past ++ [event]) := by
  obtain ⟨timestamp, found⟩ := answered
  exact ⟨timestamp, List.mem_append_left _ found⟩

def VerdictAnswered (guard : PolicyGuard) (operation : AuditOperation) (verdict : Verdict)
    (result : Except AuditError Unit) (past : List GuardEvent) : Prop :=
  ∃ elapsed, Answered guard operation .outcome
    { terminalStatus := verdict.terminalStatus
      transactionOutcome := verdict.transactionOutcome
      rowsAffected := verdict.rowsAffected
      errorCategory := verdict.errorCategory
      durationMs := elapsed } (some elapsed) result past

theorem VerdictAnswered.append {verdict : Verdict}
    (answered : VerdictAnswered guard operation verdict result past) (event : GuardEvent) :
    VerdictAnswered guard operation verdict result (past ++ [event]) := by
  obtain ⟨elapsed, answered⟩ := answered
  exact ⟨elapsed, answered.append event⟩

/-- The approver was asked about this statement and granted it. -/
def Approved (guard : PolicyGuard) (sql : String) (facts : StatementFacts)
    (past : List GuardEvent) : Prop :=
  ∃ request, .asked request (.answered .allowOnce) ∈ past ∧ request.sql = sql ∧
    request.facts = facts ∧ request.principal = guard.ctx.principal ∧
      request.connectionId = guard.ctx.connectionId

/-- A decision that lets a statement run: it allows it, or it was approved. -/
def Cleared (guard : PolicyGuard) (sql : String) (facts : StatementFacts) (decision : Decision)
    (past : List GuardEvent) : Prop :=
  decision.isAllow = true ∨ decision.isDeny = false ∧ Approved guard sql facts past

theorem Cleared.not_deny (cleared : Cleared guard sql facts decision past) :
    decision.isDeny = false := by
  rcases cleared with allowed | approved
  · cases decision <;> simp_all [Decision.isAllow, Decision.isDeny]
  · exact approved.1

def DriverReply.rows : DriverReply (Option Nat) → Option Nat
  | .returned rows => rows
  | _ => none

def Counted (countSql : String) (rows : Option Nat) (past : List GuardEvent) : Prop :=
  ∃ counter control reply,
    .dispatched (countCall counter countSql control) reply ∈ past ∧ rows = reply.rows

/-- The rows a write is judged by: a bound its caller enforces, the rows its text lists, or
what a counting query answered. -/
def Estimated (guard : PolicyGuard) (analysis : StatementAnalysis) (enforcedRows : Option Nat)
    (rows : Option Nat) (past : List GuardEvent) : Prop :=
  if guard.needsEstimate analysis.facts then
    match enforcedRows, analysis.blastRadius with
    | some bound, _ => rows = some bound
    | none, none => rows = none
    | none, some (.known count) => rows = some count
    | none, some (.countQuery rewrite) => Counted rewrite.countSql rows past
  else rows = none

theorem Counted.append {countSql : String} {rows : Option Nat}
    (counted : Counted countSql rows past) (event : GuardEvent) :
    Counted countSql rows (past ++ [event]) := by
  obtain ⟨counter, control, reply, found, same⟩ := counted
  exact ⟨counter, control, reply, List.mem_append_left _ found, same⟩

theorem Estimated.append {analysis : StatementAnalysis} {enforcedRows rows : Option Nat}
    (estimated : Estimated guard analysis enforcedRows rows past) (event : GuardEvent) :
    Estimated guard analysis enforcedRows rows (past ++ [event]) := by
  unfold Estimated at estimated ⊢
  split at estimated
  · rename_i needed
    rw [if_pos needed]
    split at estimated
    case h_4 => exact estimated.append event
    all_goals exact estimated
  · rename_i needless
    rw [if_neg needless]
    exact estimated

/-- How the policy itself lets a statement through. The second case needs writes not to be
locked at some point at which the assertion holds. -/
def PolicyClears {σ : Type} (guard : PolicyGuard) (inv : List GuardEvent → World σ → Prop)
    (sql : String) (analysis : StatementAnalysis) (enforcedRows : Option Nat)
    (past : List GuardEvent) : Prop :=
  (guard.categorical analysis.facts).isSome = true ∧
      Cleared guard sql analysis.facts (guard.joinedDecision analysis.facts) past ∨
    guard.categorical analysis.facts = none ∧
      (∃ past world, inv past world ∧ world.audit.governedWritesDisabled = false) ∧
      ∃ rows, Estimated guard analysis enforcedRows rows past ∧
        Cleared guard sql analysis.facts (guard.eligibleDecision analysis.facts rows) past

theorem transactionDecision_deny (refused : guard.transactionDecision sql facts = some decision) :
    decision.isDeny = true := by
  unfold transactionDecision at refused
  split at refused
  · rename_i interactive
    cases refused
    exact interactiveTransactionDecision_deny interactive
  · split at refused
    · exact sharedConnectionDecision_deny refused
    · cases refused

/-- The status of a failure is final, and a failure recorded as unknown locks governed
writes. -/
def Settles (failure : DriverError → AuditTerminalStatus × AuditTransactionOutcome × Bool) :
    Prop :=
  ∀ error, (failure error).1 ≠ .pending ∧
    ((failure error).1 = .unknown → (failure error).2.2 = true)

theorem writeFailure_settles : Settles writeFailure := by
  intro error
  unfold writeFailure writeErrorOutcome
  split
  · simp
  · simp
  · simp
  · split <;> simp

private theorem transactionErrorOutcome_settles : Settles transactionErrorOutcome := by
  intro error
  unfold transactionErrorOutcome
  split
  · simp
  · simp
  · split <;> simp
  · split <;> simp
  · simp

private theorem interactiveTransactionErrorOutcome_settles :
    Settles interactiveTransactionErrorOutcome := by
  intro error
  unfold interactiveTransactionErrorOutcome
  split
  · simp
  · simp
  · exact transactionErrorOutcome_settles error

theorem errorOutcome_settles (mode : TransactionAuditMode) : Settles mode.errorOutcome := by
  cases mode with
  | atomicBatch => exact transactionErrorOutcome_settles
  | interactive => exact interactiveTransactionErrorOutcome_settles

theorem resultVerdict_settles (success : AuditTransactionOutcome) (rows : Option Nat)
    {failure : DriverError → AuditTerminalStatus × AuditTransactionOutcome × Bool}
    (settles : Settles failure) (result : Except DriverError α) :
    (resultVerdict success rows failure result).terminalStatus ≠ .pending ∧
      ((resultVerdict success rows failure result).terminalStatus = .unknown →
        (resultVerdict success rows failure result).locks = true) := by
  cases result with
  | ok value => simp [resultVerdict]
  | error error => exact settles error

/-! ### The panic boundary -/

def IgnoresFaults {σ : Type} (assertion : List GuardEvent → World σ → Prop) : Prop :=
  ∀ past world operation, assertion past world → assertion (past ++ [.faulted operation]) world

section Caught

variable {pre stops : Assertion σ} {good : α → Assertion σ} {bad fails : DriverError → Assertion σ}
  {stopped : String → DriverError} {operation : String} {execute : Guarded σ α} {world : World σ}

theorem report_spec (ignores : IgnoresFaults pre) (operation : String) :
    Spec pre (guard.report operation : Guarded σ String) (fun _ => pre) fails stops := by
  have emitted : Spec pre (when guard.fault (Future.emit (.faulted operation)) : Guarded σ Unit)
      (fun _ => pre) fails stops :=
    spec_when (fun _ => spec_emit fun past world holds => ignores past world operation holds)
      fun _ _ _ => id
  exact .map emitted

theorem caught_of {good : Except DriverError α → Assertion σ}
    (ignores : ∀ error, IgnoresFaults (good (.error error)))
    (runs : Spec pre execute.attempt.catchUnwind (fun result past world => match result with
      | some (.ok value) => good (.ok value) past world
      | some (.error error) => good (.error (guard.sanitizeAgentError error)) past world
      | none => ∀ message, good (.error (stopped message)) past world) fails stops) :
    Spec pre (guard.caught stopped operation execute) good fails stops := by
  refine .bind runs fun caught => ?_
  match caught with
  | none =>
    have quiet : IgnoresFaults fun past world => ∀ message, good (.error (stopped message)) past
        world := fun past world operation holds message =>
      ignores _ past world operation (holds message)
    exact .bind (report_spec quiet operation) fun message =>
      spec_pure fun past world holds => holds message
  | some (.ok value) => exact spec_pure le_rfl
  | some (.error error) =>
    refine .through (fun _ => good (.error (guard.sanitizeAgentError error)))
      (spec_when (fun _ => spec_emit fun past world holds => ignores _ past world operation holds)
        fun _ _ _ => id) fun _ => spec_pure le_rfl

/-- What a caught run leaves: a returned error is passed on, sanitised for masked agents,
and a panic becomes an error of the guard's own. -/
theorem caught_spec (spec : Spec pre execute good bad stops)
    (badIgnores : ∀ error, IgnoresFaults (bad error)) (stopsIgnores : IgnoresFaults stops) :
    Spec pre (guard.caught stopped operation execute) (fun result past world => match result with
        | .ok value => good value past world
        | .error error =>
          (∃ raw, error = guard.sanitizeAgentError raw ∧ bad raw past world) ∨
            (∃ message, error = stopped message) ∧ stops past world) fails stops := by
  refine caught_of (fun error past world operation => ?_)
    ((Spec.catchUnwind spec.attempt).returning fun caught past world holds => ?_)
  · exact .imp (fun ⟨raw, same, holds⟩ => ⟨raw, same, badIgnores raw past world operation holds⟩)
      (.imp_right (stopsIgnores past world operation))
  match caught with
  | none => exact fun message => .inr ⟨⟨message, rfl⟩, holds⟩
  | some (.ok value) => exact holds
  | some (.error error) => exact .inl ⟨error, rfl, holds⟩

theorem caught_result {kept : Assertion σ} (spec : Spec pre execute good (fun _ => kept) kept)
    (ignores : IgnoresFaults kept) :
    Spec pre (guard.caught stopped operation execute) (fun result past world => match result with
        | .ok value => good value past world
        | .error _ => kept past world) fails kept := by
  refine (caught_spec spec (fun _ => ignores) ignores).returning fun result past world holds => ?_
  cases result with
  | ok value => exact holds
  | error error => rcases holds with ⟨_, _, holds⟩ | ⟨_, holds⟩ <;> exact holds

theorem dispatch_at {good : call.Result → Assertion σ}
    (replied : ∀ past world audit, world.audit.Le audit → pre past world →
      let next : World σ := { world with audit := audit, step := world.step + 1 }
      match guard.outside.call world.step call with
      | .returned value =>
        good value (past ++ [.dispatched call (.returned (call.counted value))]) next
      | .failed error onServer =>
        bad error (past ++ [.dispatched call (.failed error onServer)]) next
      | .panicked onServer => stops (past ++ [.dispatched call (.panicked onServer)]) next
      | .dropped onServer => stops (past ++ [.dispatched call (.dropped onServer)]) next) :
    Spec pre (guard.dispatch call : Guarded σ call.Result) good bad stops := by
  intro past world holds
  have reply := replied past world _
    (AuditState.le_join world.audit (guard.outside.others world.step)) holds
  simp only [dispatch, bind, Future.bind, askOutside]
  cases answer : guard.outside.call world.step call with
  | returned | failed | panicked | dropped =>
    rw [answer] at reply
    exact reply

/-- What comes back through the panic boundary, by the driver's answer. -/
theorem caughtDispatch {good : Except DriverError call.Result → Assertion σ}
    (ignores : ∀ error, IgnoresFaults (good (.error error)))
    (replied : ∀ past world audit, world.audit.Le audit → pre past world →
      let next : World σ := { world with audit := audit, step := world.step + 1 }
      match guard.outside.call world.step call with
      | .returned value =>
        good (.ok value) (past ++ [.dispatched call (.returned (call.counted value))]) next
      | .failed error onServer => good (.error (guard.sanitizeAgentError error))
        (past ++ [.dispatched call (.failed error onServer)]) next
      | .panicked onServer => ∀ message, good (.error (stopped message))
        (past ++ [.dispatched call (.panicked onServer)]) next
      | .dropped onServer => stops (past ++ [.dispatched call (.dropped onServer)]) next) :
    Spec pre (guard.caught stopped operation (guard.dispatch call)) good fails stops := by
  refine caught_of ignores fun past world holds => ?_
  have reply := replied past world _
    (AuditState.le_join world.audit (guard.outside.others world.step)) holds
  simp only [Future.catchUnwind, Future.attempt, dispatch, bind, Future.bind, askOutside]
  cases answer : guard.outside.call world.step call with
  | returned | failed | panicked | dropped =>
    rw [answer] at reply
    exact reply

end Caught

end Bookie.Guard
