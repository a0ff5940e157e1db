/-
No unaudited write. Over any sequence of SQL operations and whatever happens
outside: a write reaches the driver only after it was authorized and its intent
recorded, and then its outcome was submitted or governed writes are locked.
-/

import Bookie.Guard.Cooperative
import Bookie.Guard.Forms

namespace Bookie.Guard

open Bookie.Core Policy Async Async.Future PolicyGuard

/-- A driver call that carries a write: a statement whose class is a write, and anything
that is executed rather than queried. -/
def Governed (guard : PolicyGuard) (call : DriverCall) (sql : String) : Prop :=
  call.carries = some sql ∧ ((guard.facts sql).writes = true ∨ call.executes = true)

/-- The policy allows the statement without asking, for the rows it was judged by. -/
def PolicyAllows (guard : PolicyGuard) (bound : Option Nat) (sql : String)
    (past : List GuardEvent) : Prop :=
  (guard.categorical (guard.facts sql)).isSome = true ∧
      (guard.joinedDecision (guard.facts sql)).isAllow = true ∨
    guard.categorical (guard.facts sql) = none ∧
      ∃ rows, Estimated guard (guard.analyzeStatement sql) bound rows past ∧
        (guard.eligibleDecision (guard.facts sql) rows).isAllow = true

def Authorized (guard : PolicyGuard) (bound : Option Nat) (sql : String) (past : List GuardEvent) :
    Prop :=
  PolicyAllows guard bound sql past ∨ Approved guard sql (guard.facts sql) past

/-- A human's local or development connection whose policy accepts unaudited writes. -/
def MayGoUnaudited (guard : PolicyGuard) : Prop :=
  guard.ctx.principal.isAgent = false ∧
    (guard.ctx.environment = .local ∨ guard.ctx.environment = .dev) ∧
    guard.envPolicy.humanAllowUnauditedWrites = true

def IntentTaken (guard : PolicyGuard) (reply : SinkReply) : Prop :=
  reply = .accepted ∨ MayGoUnaudited guard ∧
    ∃ error, reply = .refused error ∧ error ≠ .unresolvedWrite ∧ error ≠ .writeInFlight

def Intended (guard : PolicyGuard) (sql : String) (id : Uuid) (past : List GuardEvent) : Prop :=
  ∃ event reply, .recorded event reply ∈ past ∧ event.operationId = id ∧ event.phase = .intent ∧
    event.sqlHash = guard.outside.hexDigest sql ∧ IntentTaken guard reply

def OutcomeSubmitted (id : Uuid) (after : List GuardEvent) : Prop :=
  ∃ event reply, .recorded event reply ∈ after ∧ event.operationId = id ∧ event.phase = .outcome ∧
    event.terminalStatus ≠ .pending

/-- Every write of a history is accounted for, but for operations that are still open. -/
def AccountedBut {σ : Type} (guard : PolicyGuard) (isOpen : Uuid → Prop) (past : List GuardEvent)
    (world : World σ) : Prop :=
  ∀ before call reply after sql, past = before ++ .dispatched call reply :: after →
    Governed guard call sql →
    Authorized guard (guard.enforcedRows call) sql before ∧ ∃ id, Intended guard sql id before ∧
      (OutcomeSubmitted id after ∨ world.audit.governedWritesDisabled = true ∨ isOpen id)

def noneOpen (_ : Uuid) : Prop := False

/-- The split of a history at an event, seen from the history without its last event. -/
private theorem split_before_last {past before after : List GuardEvent} {last event : GuardEvent}
    (split : past ++ [last] = before ++ event :: after) :
    (past = before ∧ last = event ∧ after = []) ∨
      ∃ earlier, past = before ++ event :: earlier ∧ after = earlier ++ [last] := by
  rcases List.append_eq_append_iff.mp split with ⟨more, rfl, tail⟩ | ⟨rest, rfl, tail⟩
  · cases more with
    | nil =>
      cases tail
      exact .inl ⟨(List.append_nil past).symm, rfl, rfl⟩
    | cons head more => simp at tail
  cases rest with
  | nil =>
    cases tail
    exact .inl ⟨List.append_nil before, rfl, rfl⟩
  | cons head earlier =>
    cases tail
    exact .inr ⟨earlier, rfl, rfl⟩

section Accounting

variable {σ : Type} {guard : PolicyGuard} {isOpen : Uuid → Prop} {past : List GuardEvent}
  {world : World σ}

private theorem OutcomeSubmitted.append {id : Uuid} {after : List GuardEvent}
    (submitted : OutcomeSubmitted id after) (event : GuardEvent) :
    OutcomeSubmitted id (after ++ [event]) := by
  obtain ⟨record, reply, found, rest⟩ := submitted
  exact ⟨record, reply, List.mem_append_left _ found, rest⟩

/-- An event keeps the account if it is no write, or a write that is authorized,
intended and open. -/
private theorem AccountedBut.event (accounted : AccountedBut guard isOpen past world)
    (event : GuardEvent)
    (last : ∀ call reply sql, event = .dispatched call reply → Governed guard call sql →
      Authorized guard (guard.enforcedRows call) sql past ∧
        ∃ id, Intended guard sql id past ∧ isOpen id) :
    AccountedBut guard isOpen (past ++ [event]) world := by
  intro before call reply after sql same governed
  rcases split_before_last same with ⟨rfl, isLast, rfl⟩ | ⟨rest, earlier, rfl⟩
  · obtain ⟨authorized, id, intended, stillOpen⟩ := last call reply sql isLast governed
    exact ⟨authorized, id, intended, .inr (.inr stillOpen)⟩
  · obtain ⟨authorized, id, intended, settled⟩ :=
      accounted before call reply rest sql earlier governed
    exact ⟨authorized, id, intended, settled.imp_left fun submitted => submitted.append event⟩

private theorem AccountedBut.locked (accounted : AccountedBut guard isOpen past world)
    (audit : AuditState) (locked : audit.governedWritesDisabled = true) :
    AccountedBut guard noneOpen past { world with audit := audit } := by
  intro before call reply after sql same governed
  obtain ⟨authorized, id, intended, _⟩ := accounted before call reply after sql same governed
  exact ⟨authorized, id, intended, .inr (.inl locked)⟩

private theorem AccountedBut.settle {id : Uuid} (accounted : AccountedBut guard (· = id) past world)
    {event : AuditEvent} {reply : SinkReply} (same : event.operationId = id)
    (phase : event.phase = .outcome) (final : event.terminalStatus ≠ .pending) :
    AccountedBut guard noneOpen (past ++ [.recorded event reply]) world := by
  intro before call answer after sql split governed
  rcases split_before_last split with ⟨_, isLast, _⟩ | ⟨rest, earlier, rfl⟩
  · cases isLast
  obtain ⟨authorized, other, intended, settled⟩ :=
    accounted before call answer rest sql earlier governed
  refine ⟨authorized, other, intended, ?_⟩
  rcases settled with submitted | locked | rfl
  · exact .inl (submitted.append _)
  · exact .inr (.inl locked)
  · exact .inl ⟨event, reply, by simp, same, phase, final⟩

private theorem accountedBut_stable (guard : PolicyGuard) (isOpen : Uuid → Prop) :
    Stable guard fun past (world : World σ) => AccountedBut guard isOpen past world where
  grows := by
    intro past world audit step le accounted before call reply after sql same governed
    obtain ⟨authorized, id, intended, settled⟩ :=
      accounted before call reply after sql same governed
    exact ⟨authorized, id, intended, settled.imp_right fun rest => rest.imp_left le.locked⟩
  event := by
    intro past world event quiet accounted
    refine accounted.event event fun call reply sql isCount governed => ?_
    subst isCount
    have carriesNone := DriverCall.carries_of_isCount quiet.1
    rw [governed.1] at carriesNone
    cases carriesNone

end Accounting

variable {guard : PolicyGuard}

private theorem intentTaken_of_handled {result : Except AuditError Unit}
    (handled : guard.handleIntentFailure result = .ok ()) :
    IntentTaken guard (.ofResult result) := by
  cases result with
  | ok value => exact .inl rfl
  | error error =>
  refine .inr ?_
  have optional : guard.intentIsRequired = false ∧ error ≠ .unresolvedWrite ∧
      error ≠ .writeInFlight := by
    cases error <;> simp_all [handleIntentFailure]
  refine ⟨?_, error, rfl, optional.2⟩
  have allows : guard.allowsUnauditedLocalWrite = true := by
    simpa [intentIsRequired] using optional.1
  simpa [allowsUnauditedLocalWrite, isLocalHuman, MayGoUnaudited, and_assoc] using allows

variable {past : List GuardEvent}

private theorem Authorized.append {bound : Option Nat} {sql : String}
    (authorized : Authorized guard bound sql past) (event : GuardEvent) :
    Authorized guard bound sql (past ++ [event]) := by
  rcases authorized with (decided | ⟨undecided, rows, estimated, allowed⟩) |
    ⟨request, found, rest⟩
  · exact .inl (.inl decided)
  · exact .inl (.inr ⟨undecided, rows, estimated.append event, allowed⟩)
  · exact .inr ⟨request, List.mem_append_left _ found, rest⟩

private theorem Intended.append {sql : String} {id : Uuid} (intended : Intended guard sql id past)
    (event : GuardEvent) : Intended guard sql id (past ++ [event]) := by
  obtain ⟨record, reply, found, rest⟩ := intended
  exact ⟨record, reply, List.mem_append_left _ found, rest⟩

section Writes

variable {σ α β : Type} {guard : PolicyGuard} {operation : AuditOperation} {sql : String}

private theorem AccountedBut.weaken {isOpen : Uuid → Prop} {world : World σ}
    (accounted : AccountedBut guard noneOpen past world) :
    AccountedBut guard isOpen past world := by
  intro before call reply after text same governed
  obtain ⟨authorized, id, intended, settled⟩ := accounted before call reply after text same governed
  exact ⟨authorized, id, intended, settled.imp_right fun rest => rest.imp_right False.elim⟩

/-- The account and the authorization of a statement, which a governed write starts from. -/
def Ready (guard : PolicyGuard) (bound : Option Nat) (sql : String) (past : List GuardEvent)
    (world : World σ) : Prop :=
  AccountedBut guard noneOpen past world ∧ Authorized guard bound sql past

private theorem ready_stable (guard : PolicyGuard) (bound : Option Nat) (sql : String) :
    Stable guard fun past (world : World σ) => Ready guard bound sql past world :=
  (accountedBut_stable guard noneOpen).and
    (Stable.ofPast (Authorized guard bound sql) fun _ event holds => holds.append event)

variable {call : DriverCall}

private theorem dispatch_opens (carries : call.carries = some sql) :
    Leads (fun past (world : World σ) => Ready guard (guard.enforcedRows call) sql past world ∧
        Intended guard sql operation.operationId past)
      (AccountedBut guard (· = operation.operationId))
      (guard.dispatch call : Guarded σ call.Result) := by
  have stable : Stable guard fun past (world : World σ) =>
      Ready guard (guard.enforcedRows call) sql past world ∧
        Intended guard sql operation.operationId past :=
    (ready_stable guard _ sql).and (Stable.ofPast (Intended guard sql operation.operationId)
      fun _ event holds => holds.append event)
  refine stable.framed.dispatchSpec fun past world step holds => ?_
  refine holds.1.1.weaken.event _ fun other reply text same governed => ?_
  cases same
  have sameText : text = sql := Option.some.inj (governed.1.symm.trans carries)
  rw [sameText]
  exact ⟨holds.1.2, operation.operationId, holds.2, rfl⟩

private theorem recordVerdict_settles {verdict : Verdict}
    (final : verdict.terminalStatus ≠ .pending) {fails : DriverError → Assertion σ} :
    Spec (AccountedBut guard (· = operation.operationId))
      (guard.recordVerdict operation verdict : Guarded σ (Except AuditError Unit))
      (fun _ => AccountedBut guard noneOpen) fails (AccountedBut guard noneOpen) := by
  refine .returning ((accountedBut_stable guard _).framed.recordVerdictSpec
    fun past world outcome durationMs timestamp step same _ opened => ?_)
    (fun _ _ _ holds => holds.1)
  refine AccountedBut.settle opened rfl rfl ?_
  change outcome.terminalStatus ≠ .pending
  rw [same]
  exact final

/-- An audit that settles the operation it is about. -/
def SettlesOperation (guard : PolicyGuard) (operation : AuditOperation) (audit : Guarded σ Unit) :
    Prop :=
  Spec (AccountedBut guard (· = operation.operationId)) audit
    (fun _ => AccountedBut guard noneOpen)
    (fun _ => AccountedBut guard (· = operation.operationId))
    (AccountedBut guard (· = operation.operationId))

private theorem settlesOperation_of_verdict {verdict : Verdict}
    (final : verdict.terminalStatus ≠ .pending) {next : Except AuditError Unit → Guarded σ Unit}
    (keeps : ∀ recorded, Keeps (AccountedBut guard noneOpen) (next recorded)) :
    SettlesOperation guard operation (do
      let recorded ← guard.recordVerdict operation verdict
      next recorded) :=
  .leaving (.bind (recordVerdict_settles final) keeps) (fun _ _ _ holds => holds.weaken)
    fun _ _ holds => holds.weaken

private theorem auditWriteResult_settles (result : Except DriverError α) (rows : Option Nat) :
    SettlesOperation guard operation
      (guard.auditWriteResult operation result rows : Guarded σ Unit) :=
  settlesOperation_of_verdict
    (resultVerdict_settles .notApplicable rows writeFailure_settles result).1
    fun _ => (accountedBut_stable guard noneOpen).framed.handleWriteOutcomeFailure

private theorem auditTransactionResult_settles (mode : TransactionAuditMode)
    (result : Except DriverError α) (rows : Option Nat) :
    SettlesOperation guard operation
      (guard.auditTransactionResult mode operation result rows : Guarded σ Unit) := by
  refine settlesOperation_of_verdict
    (resultVerdict_settles .notApplicable rows (errorOutcome_settles mode) result).1
    fun recorded => ?_
  split
  · exact (accountedBut_stable guard noneOpen).framed.handleWriteOutcomeFailure
  · exact keeps_ofExcept _

private theorem runWrite_accounted (carries : call.carries = some operation.sql) {label : String}
    {finish : call.Result → α} {rows : α → Option Nat}
    {audit : AuditOperation → Except DriverError α → Option Nat → Guarded σ Unit}
    (settles : ∀ result count, SettlesOperation guard operation (audit operation result count)) :
    Leads (Ready guard (guard.enforcedRows call) operation.sql) (AccountedBut guard noneOpen)
      (guard.runWrite operation label (guard.dispatch call) finish rows audit) := by
  refine (accountedBut_stable guard _).framed.runWriteSpec (ready_stable guard _ _).framed
    and_le_left (fun _ _ _ => trivial)
    (fun result handled past world holds answered => ⟨holds, ?_⟩) (dispatch_opens carries) settles
    fun past world opened => opened.locked _ (AuditState.locked_disableGovernedWrites _)
  obtain ⟨timestamp, found⟩ := answered
  exact ⟨_, _, found, rfl, rfl, rfl, intentTaken_of_handled handled⟩

private theorem dispatch_ungoverned (free : ∀ text, ¬ Governed guard call text) :
    Keeps (AccountedBut guard noneOpen) (guard.dispatch call : Guarded σ call.Result) :=
  (accountedBut_stable guard noneOpen).framed.dispatchSpec fun past world step holds =>
    holds.event _ fun other reply text same governed => by
      cases same
      exact absurd governed (free text)

private theorem authorized_of_clears {inv : Assertion σ} {bound : Option Nat}
    (clears : PolicyClears guard inv sql (guard.analyzeStatement sql) bound past) :
    Authorized guard bound sql past := by
  rcases clears with ⟨decided, allowed | approved⟩ |
    ⟨undecided, _, rows, estimated, allowed | approved⟩
  · exact .inl (.inl ⟨decided, allowed⟩)
  · exact .inr approved.2
  · exact .inl (.inr ⟨undecided, rows, estimated, allowed⟩)
  · exact .inr approved.2

private theorem not_governed (reads : (guard.facts sql).writes = false)
    (carries : call.carries = some sql)
    (queries : call.executes = false) (text : String) : ¬ Governed guard call text := by
  rintro ⟨carried, writes | executes⟩
  · rw [carries] at carried
    cases carried
    rw [reads] at writes
    cases writes
  · rw [queries] at executes
    cases executes

private theorem accounted_clearing (guard : PolicyGuard) (refusal : Option Decision) (sql : String)
    (isExecution : Bool) :
    Clearing guard (.deciding σ) (AccountedBut guard noneOpen) refusal sql isExecution
      fun bound => Ready guard bound sql where
  framed := (accountedBut_stable guard noneOpen).framed
  named := fun _ _ _ _ => trivial
  counts := Stable.counts
  starts := fun bound => (ready_stable guard bound sql).framed
  leaves := fun _ _ _ holds => holds.1
  clears := fun _ _ _ holds _ clears => ⟨holds, authorized_of_clears clears⟩
  writes := by
    rintro _ operation call _ _ _ _ _ rfl carries (rfl | ⟨mode, rfl⟩) _ rfl
    · exact runWrite_accounted carries auditWriteResult_settles
    · exact runWrite_accounted carries (auditTransactionResult_settles mode)
  reads := fun _ reads carries queries audits =>
    ((accountedBut_stable guard noneOpen).framed.runRead (accountedBut_stable guard noneOpen).framed
      (fun _ _ => id) (fun _ _ _ => trivial)
      (dispatch_ungoverned (not_governed reads carries queries)) audits).besides

end Writes

/-- Whatever sequence of SQL operations a guarded connection is asked for: a write in its
history was authorized and intended before, and its outcome was submitted after, or governed
writes are locked at the end. -/
theorem no_unaudited_write {σ : Type} (guard : PolicyGuard) (operations : List SqlOperation)
    (world : World σ) {before after : List GuardEvent} {call : DriverCall}
    {reply : DriverReply (Option Nat)} {sql : String}
    (happened : (history (operations.map (SqlOperation.run guard)) world).1 =
      before ++ .dispatched call reply :: after)
    (write : Governed guard call sql) :
    Authorized guard (guard.enforcedRows call) sql before ∧
      ∃ id, Intended guard sql id before ∧
        (OutcomeSubmitted id after ∨
          (history (operations.map (SqlOperation.run guard)) world).2.audit.governedWritesDisabled =
            true) := by
  have keeps : ∀ run ∈ operations.map (SqlOperation.run guard),
      Keeps (AccountedBut (σ := σ) guard noneOpen) run := by
    intro run member
    obtain ⟨operation, _, rfl⟩ := List.mem_map.mp member
    exact (accounted_clearing guard _ _ _).sqlOperation
  have start : AccountedBut guard noneOpen [] world := by
    intro before call reply after sql empty
    simp at empty
  obtain ⟨authorized, id, intended, submitted | locked | isOpen⟩ :=
    Keeps.history keeps start before call reply after sql happened write
  · exact ⟨authorized, id, intended, Or.inl submitted⟩
  · exact ⟨authorized, id, intended, Or.inr locked⟩
  · exact isOpen.elim

def devGuard : PolicyGuard :=
  guardOver (frontEndKnowing [insertUser]) .cooperative "postgres" .dev .humanGui

def devWorld : World Unit :=
  { audit := .new
    step := 0
    own := () }

theorem no_unaudited_write_insert : ∃ before call reply after,
    (history ([.execute insertUser.sql].map (SqlOperation.run devGuard)) devWorld).1 =
        before ++ .dispatched call reply :: after ∧
      Governed devGuard call insertUser.sql ∧
      Authorized devGuard (devGuard.enforcedRows call) insertUser.sql before ∧
      ∃ id, Intended devGuard insertUser.sql id before ∧
        (OutcomeSubmitted id after ∨
          (history ([.execute insertUser.sql].map (SqlOperation.run devGuard))
            devWorld).2.audit.governedWritesDisabled = true) := by
  have happened := (List.take_append_drop 1
    (history ([.execute insertUser.sql].map (SqlOperation.run devGuard)) devWorld).1).symm
  have write : Governed devGuard (.execute .connection insertUser.sql none none)
      insertUser.sql := ⟨rfl, .inl rfl⟩
  exact ⟨_, _, .returned none, _, happened, write,
    no_unaudited_write devGuard [.execute insertUser.sql] devWorld happened write⟩

end Bookie.Guard
