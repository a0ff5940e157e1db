/-
Runs in which nothing outside the guard gets in the way. What such a run does is up
to the guard alone, so it shows which statements the guard itself lets through.
-/

import Bookie.Guard.Cooperative
import Bookie.Guard.SessionOrderly

namespace Bookie.Guard

open Bookie.Core Policy Async Async.Future PolicyGuard PolicySession

/-! ### Obliging outsides -/

/-- The driver of an obliging outside may fail, but not change its mind. -/
structure Outside.Obliging (outside : Outside) : Prop where
  alone : ∀ step, outside.others step = AuditState.new
  records : ∀ step event, outside.record step event = .accepted
  grants : ∀ step request, outside.request step request = .answered .allowOnce
  usable : ∀ step, outside.isUsable step = some true
  early : ∀ step, outside.instant step = 0
  uncancelled : ∀ step control, outside.isCancelled step control = false
  steady : ∀ step call, outside.call step call = outside.call 0 call

theorem Outside.cooperative_obliging : Outside.cooperative.Obliging where
  alone := fun _ => rfl
  records := fun _ _ => rfl
  grants := fun _ _ => rfl
  usable := fun _ => rfl
  early := fun _ => rfl
  uncancelled := fun _ _ => rfl
  steady := fun _ _ => rfl

def At {σ : Type} (audit : AuditState) (own : σ) (_ : List GuardEvent) (world : World σ) : Prop :=
  world.audit = audit ∧ world.own = own

section At

variable {σ α : Type} (audit : AuditState) (own : σ) (run : Guarded σ α)

abbrev Stays : Prop := Returns (At audit own) run fun _ => At audit own

/-- The run returns such a value and leaves the state as it was. -/
abbrev Gives (fact : α → Prop) : Prop :=
  Returns (At audit own) run fun value past world => At audit own past world ∧ fact value

end At

private theorem AuditState.join_new (state : AuditState) : state.join AuditState.new = state := by
  simp [AuditState.join, AuditState.new]

def PolicyGuard.sent (guard : PolicyGuard) (call : DriverCall) : GuardEvent :=
  .dispatched call (call.summary (guard.outside.call 0 call))

def Sent (sql : String) (past : List GuardEvent) : Prop :=
  ∃ call reply, .dispatched call reply ∈ past ∧ call.carries = some sql

theorem not_sent_append {sql : String} {past : List GuardEvent} {event : GuardEvent}
    (unsent : ¬ Sent sql past)
    (other : ∀ call reply, event = .dispatched call reply → call.carries ≠ some sql) :
    ¬ Sent sql (past ++ [event]) := by
  rintro ⟨call, reply, found, carries⟩
  rcases List.mem_append.mp found with found | found
  · exact unsent ⟨call, reply, found, carries⟩
  · exact other call reply (List.mem_singleton.mp found).symm carries

/-- However the run ends, the driver was given this text by then. -/
abbrev Delivers {σ α : Type} (pre : List GuardEvent → World σ → Prop) (run : Guarded σ α)
    (sql : String) : Prop :=
  Spec pre run (fun _ past _ => Sent sql past) (fun _ past _ => Sent sql past)
    fun past _ => Sent sql past

section Delivers

variable {σ α β : Type} {pre : Assertion σ} {sql : String}

theorem keeps_sent (sql : String) (run : Guarded σ α) :
    Keeps (fun past _ => Sent sql past) run := by
  rintro past world ⟨call, reply, found, carries⟩
  have stays : Sent sql (past ++ (run world).events) :=
    ⟨call, reply, List.mem_append_left _ found, carries⟩
  cases (run world).exit <;> exact stays

theorem delivers_of_reaches {guard : PolicyGuard} {run : Guarded σ α} {call : DriverCall}
    (carries : call.carries = some sql) (reaches : Reaches pre run (guard.sent call)) :
    Delivers pre run sql :=
  Leads.weaken reaches le_rfl fun _ _ found => ⟨call, _, found, carries⟩

theorem Delivers.bind {first : Guarded σ β} {next : β → Guarded σ α}
    (delivers : Delivers pre first sql) : Delivers pre (first >>= next) sql :=
  Spec.bind delivers fun value => keeps_sent sql (next value)

private theorem Delivers.attempt {run : Guarded σ α} (delivers : Delivers pre run sql) :
    Delivers pre run.attempt sql :=
  .attemptAll delivers

end Delivers

namespace Outside.Obliging

variable {σ α β : Type} {guard : PolicyGuard} {audit : AuditState} {own : σ}
  {operation : AuditOperation} {authorization : Authorization} {analysis : StatementAnalysis}
  {sql label : String} {batchId : Option Uuid} {limit : Option OperationControl}

variable (obliging : guard.outside.Obliging)
include obliging

theorem ask (question : Nat → α) :
    Gives audit own (askOutside guard.outside question) fun answer =>
      ∃ step, answer = question step := by
  intro past world here
  refine ⟨⟨?_, here.2⟩, world.step, rfl⟩
  change world.audit.join (guard.outside.others world.step) = audit
  rw [obliging.alone, AuditState.join_new]
  exact here.1

private theorem record {phase : AuditRecordPhase} {outcome : AuditOutcome}
    {durationMs : Option Nat} :
    Gives audit own (guard.record operation phase outcome durationMs) (· = .ok ()) := by
  refine .step (obliging.ask _) fun timestamp _ => ?_
  refine Returns.step (obliging.ask _) fun reply answered => ?_
  obtain ⟨step, rfl⟩ := answered
  rw [obliging.records]
  refine .through (fun _ => At audit own) (spec_emit fun _ _ => id) fun _ => ?_
  exact spec_pure fun _ _ here => ⟨here, rfl⟩

theorem recordIntent : Gives audit own (guard.recordIntent operation) (· = .ok ()) := by
  refine .step obliging.record fun result accepted => ?_
  rw [accepted]
  exact spec_pure fun _ _ here => ⟨here, rfl⟩

private theorem recordVerdict {verdict : Verdict} (unlocking : verdict.locks = false) :
    Gives audit own (guard.recordVerdict operation verdict) (· = .ok ()) := by
  unfold PolicyGuard.recordVerdict
  rw [unlocking]
  refine .skip ?_
  refine Returns.step (obliging.ask _) fun elapsed _ => ?_
  exact obliging.record

theorem auditOperation {facts : StatementFacts} {decision : Decision}
    {approvalOutcome : AuditApprovalOutcome} {previewState : AuditPreviewState} :
    Gives audit own (guard.operation sql batchId facts decision approvalOutcome previewState)
      (·.cls.isWrite = facts.writes) := by
  refine .step (obliging.ask _) fun operationId _ => ?_
  exact spec_pure fun _ _ here => ⟨here, isWrite_fromStatement facts⟩

theorem prepareGovernedRead : Stays audit own (guard.prepareGovernedRead operation) := by
  unfold PolicyGuard.prepareGovernedRead
  split
  · exact spec_pure le_rfl
  · refine .step obliging.recordIntent fun result accepted => ?_
    rw [accepted]
    exact spec_pure le_rfl

theorem governedWritesDisabled :
    Gives audit own guard.governedWritesDisabled (· = audit.governedWritesDisabled) := by
  refine .step (obliging.ask _) fun _ _ => ?_
  refine .through (fun value past world => At audit own past world ∧ value = world)
    (spec_get fun _ _ here => ⟨here, rfl⟩) fun value => ?_
  exact spec_pure fun _ _ holds => ⟨holds.1, by rw [holds.2, holds.1.1]⟩

private theorem dispatch (call : DriverCall) :
    Reaches (At audit own) (guard.dispatch call : Guarded σ call.Result) (guard.sent call) := by
  refine Returns.step (obliging.ask _) fun reply answered => ?_
  obtain ⟨step, rfl⟩ := answered
  rw [obliging.steady]
  exact Reaches.bind (reaches_emit _)

variable {event : GuardEvent}

omit obliging in
private theorem caught {pre : Assertion σ} {stopped : String → DriverError}
    {execute : Guarded σ α} (reaches : Reaches pre execute event) :
    Reaches pre (guard.caught stopped label execute) event := by
  exact .bind reaches.attempt.catchUnwind

variable {execute : Guarded σ β} {done : β → α} {rows : α → Option Nat}
  {auditing : AuditOperation → Except DriverError α → Option Nat → Guarded σ Unit}
  (reaches : Reaches (At audit own) execute event)
include reaches

private theorem runRead :
    Reaches (At audit own) (guard.runRead operation label execute done rows auditing) event := by
  refine Returns.bind obliging.prepareGovernedRead fun _ => ?_
  exact Reaches.bind (caught reaches)

private theorem runWrite :
    Reaches (At audit own) (guard.runWrite operation label execute done rows auditing) event := by
  refine Returns.step obliging.recordIntent fun result accepted => ?_
  rw [accepted]
  refine .skip ?_
  exact Reaches.bind (Reaches.releasing (Reaches.bind (caught reaches)))

omit reaches

private theorem requestApproval {request : ApprovalRequest} :
    Gives audit own (guard.requestApproval request limit) (· = .ok .allowOnce) := by
  refine .step (obliging.ask _) fun reply answered => ?_
  obtain ⟨step, rfl⟩ := answered
  rw [obliging.grants]
  refine .through (fun _ => At audit own) (spec_emit fun _ _ => id) fun _ => ?_
  exact spec_pure fun _ _ here => ⟨here, rfl⟩

theorem resolveAuthorization {decision : Decision} {estimatedRows : Option Nat}
    (allowed : decision.isDeny = false) :
    Gives audit own (guard.resolveAuthorization sql analysis decision estimatedRows limit)
      (·.analysis = analysis) := by
  cases decision with
  | allow rule => exact spec_pure fun _ _ here => ⟨here, rfl⟩
  | deny rule message => cases allowed
  | requireApproval rule reason preview =>
  refine .step obliging.requestApproval fun answer granted => ?_
  rw [granted]
  exact spec_pure fun _ _ here => ⟨here, rfl⟩

private theorem authorizeWithBound {enforcedRows : Option Nat} {counter : Option Counter}
    (decided : (guard.categorical analysis.facts).isSome = true)
    (allowed : (guard.joinedDecision analysis.facts).isDeny = false) :
    Gives audit own (guard.authorizeWithBound sql analysis enforcedRows limit counter)
      (·.analysis = analysis) := by
  unfold PolicyGuard.authorizeWithBound
  rw [if_pos decided]
  exact obliging.resolveAuthorization allowed

private theorem authorizedOperation :
    Gives audit own (guard.authorizedOperation sql batchId authorization)
      (·.cls.isWrite = authorization.analysis.facts.writes) :=
  obliging.auditOperation

/-! ### Queries of the connection and of transactions -/

section Queries

variable (obliging : guard.outside.Obliging)
  (decided : (guard.categorical (guard.analyzeStatement sql).facts).isSome = true)
  (allowed : (guard.joinedDecision (guard.analyzeStatement sql).facts).isDeny = false)
  (reads : (guard.analyzeStatement sql).facts.writes = false)
include obliging decided allowed reads

variable (accepted : sharedConnectionDecision guard.front sql guard.ctx.driverId
  (guard.analyzeStatement sql).facts = none)
include accepted

private theorem authorize :
    Gives audit own (guard.authorize sql limit) (·.analysis.facts.writes = false) := by
  unfold PolicyGuard.authorize PolicyGuard.authorizeAnalysis
  rw [accepted]
  refine (obliging.authorizeWithBound decided allowed).returning fun authorization _ _ holds =>
    ⟨holds.1, ?_⟩
  dsimp only at holds ⊢
  rw [holds.2]
  exact reads

variable {values : Option (List Value)}

theorem queryForm :
    Reaches (At audit own) (guard.queryForm label sql values limit)
      (guard.sent (.query .connection .statement sql values limit)) := by
  refine Returns.step (obliging.authorize decided allowed reads accepted)
    fun authorization isRead => ?_
  rw [isRead]
  refine Returns.step obliging.authorizedOperation fun operation _ => ?_
  exact obliging.runRead (obliging.dispatch _)

theorem queryResultSetsControlled {params : List Value} {control : OperationControl} :
    Reaches (At audit own) (guard.queryResultSetsControlled sql params control)
      (guard.sent (.queryResultSets .connection sql params control)) := by
  refine Returns.step (obliging.authorize decided allowed reads accepted)
    fun authorization isRead => ?_
  refine Returns.step obliging.authorizedOperation fun operation _ => ?_
  rw [isRead]
  exact obliging.runRead (obliging.dispatch _)

omit accepted

theorem transactionQueryForm {transaction : PolicyTransaction}
    (accepted : guard.transactionDecision sql (guard.analyzeStatement sql).facts = none) :
    Reaches (At audit own) (transaction.queryForm guard label sql values limit)
      (guard.sent (.query .transaction .statement sql values limit)) := by
  unfold PolicyTransaction.queryForm PolicyGuard.authorizeInTransaction
  simp only [accepted]
  refine Returns.step (obliging.authorizeWithBound decided allowed) fun authorization same => ?_
  refine Returns.step obliging.authorizedOperation fun operation _ => ?_
  rw [same, reads]
  exact obliging.runRead (obliging.dispatch _)

end Queries

/-! ### Sessions -/

section Sessions

variable {session : PolicySession} {params : List Value} {control : OperationControl}

omit obliging in
/-- The state is known, so reading it tells nothing new. -/
theorem reading {next : σ → Guarded σ α} {post : α → Assertion σ}
    {fails : DriverError → Assertion σ} {stops : Assertion σ}
    (known : Spec (At audit own) (next own) post fails stops) :
    Spec (At audit own) (Guard.own >>= next) post fails stops :=
  spec_own (known.besides) |>.before fun _ _ here => ⟨here, here.2⟩

omit obliging in
theorem modifyOwn (change : σ → σ) :
    Returns (At audit own) (Guard.modifyOwn change : Guarded σ Unit) fun _ =>
      At audit (change own) :=
  spec_modify fun _ world here => ⟨here.1, by rw [← here.2]⟩

private theorem isUsable (active : session.retired = false) :
    Gives audit session (PolicySession.isUsable guard) (· = true) := by
  refine reading ?_
  rw [active]
  refine Returns.step (obliging.ask _) fun reply answered => ?_
  obtain ⟨step, rfl⟩ := answered
  rw [obliging.usable]
  exact spec_pure fun _ _ here => ⟨here, rfl⟩

theorem requireQueryReady (ready : session.isReady) :
    Stays audit session (requireQueryReady guard sql) := by
  refine reading ?_
  rw [ready.1]
  refine Returns.step (obliging.isUsable ready.2) fun usable isUsable => ?_
  rw [isUsable]
  exact spec_pure le_rfl

private theorem requireWritable (unlocked : audit.governedWritesDisabled = false) :
    Stays audit session (requireWritable guard sql) := by
  refine .step obliging.governedWritesDisabled fun disabled read => ?_
  rw [read, unlocked]
  exact spec_pure le_rfl

def sessionCall (session : PolicySession) (sql : String) (params : List Value)
    (control : OperationControl) : DriverCall :=
  if session.extra.collect then .queryResultSets .session sql params control
  else .query .session .statement sql (some params) (some control)

omit obliging in
private theorem carries_sessionCall :
    (sessionCall session sql params control).carries = some sql := by
  unfold sessionCall
  split <;> rfl

private theorem countedStatement :
    Reaches (At audit session)
      (countedStatement guard analysis sql params control)
      (guard.sent (sessionCall session sql params control)) := by
  unfold PolicySession.countedStatement PolicySession.innerStatement sessionCall
  refine .bind (reading ?_)
  cases session.extra.collect with
  | false => exact obliging.dispatch _
  | true => exact Reaches.bind (obliging.dispatch (.queryResultSets .session sql params control))

private theorem batchStatement {batchId : Uuid}
    (unlocked : authorization.analysis.facts.writes = true → audit.governedWritesDisabled = false) :
    Reaches (At audit session)
      (batchStatement guard sql params control authorization batchId)
      (guard.sent (sessionCall session sql params control)) := by
  have checked : Stays audit session
      (when authorization.analysis.facts.writes (PolicySession.requireWritable guard sql)) :=
    spec_when (fun writes => obliging.requireWritable (unlocked writes)) fun _ _ _ => id
  refine checked.bind fun _ => ?_
  refine Returns.step obliging.authorizedOperation fun operation _ => ?_
  refine Reaches.bind ?_
  cases authorization.analysis.facts.writes with
  | false => exact obliging.runRead obliging.countedStatement
  | true => exact obliging.runWrite obliging.countedStatement

private theorem loneStatement {writes : Bool}
    (unlocked : writes = true → audit.governedWritesDisabled = false) :
    Reaches (At audit session)
      (if writes then loneWrite guard sql params control authorization
        else loneRead guard sql params control authorization)
      (guard.sent (sessionCall session sql params control)) := by
  cases writes with
  | false =>
    refine Returns.step obliging.authorizedOperation fun operation _ => ?_
    exact Reaches.bind (obliging.runRead obliging.countedStatement)
  | true =>
    refine Returns.bind (obliging.requireWritable (unlocked rfl)) fun _ => ?_
    refine Returns.step obliging.authorizedOperation fun operation _ => ?_
    exact Reaches.bind (obliging.runWrite obliging.countedStatement)

private theorem statement
    (decided : (guard.categorical (guard.analyzeStatement sql).facts).isSome = true)
    (allowed : (guard.joinedDecision (guard.analyzeStatement sql).facts).isDeny = false)
    (unlocked : (guard.analyzeStatement sql).facts.writes = true →
      audit.governedWritesDisabled = false)
    (admitted : (session.inReadOnlyBatch &&
      refusedInSnapshot (guard.analyzeStatement sql).facts.effects) = false) :
    Reaches (At audit session) (statement guard sql params control)
      (guard.sent (sessionCall session sql params control)) := by
  refine reading ?_
  rw [admitted]
  refine Returns.step (obliging.authorizeWithBound decided allowed) fun authorization same => ?_
  refine reading (Reaches.bind (Reaches.attempt ?_))
  cases session.batch with
  | some batch => exact obliging.batchStatement (by rw [same]; exact unlocked)
  | none => exact obliging.loneStatement (by rw [same]; exact unlocked)

private theorem begin (idle : session.batch = none) :
    Reaches (At audit session) (begin guard sql control)
      (guard.sent (.query .session .begin sql (some []) (some control))) := by
  refine reading ?_
  rw [idle]
  exact Reaches.bind (caught (obliging.dispatch _))

private theorem beginReadOnly (postgres : guard.ctx.driverId = "postgres")
    (idle : session.batch = none) : Reaches (At audit session) (beginReadOnly guard sql control)
      (guard.sent (.query .session .begin sql (some []) (some control))) := by
  unfold PolicySession.beginReadOnly
  rw [postgres]
  refine reading ?_
  rw [idle]
  refine Returns.step obliging.auditOperation fun operation _ => ?_
  refine Returns.bind obliging.prepareGovernedRead fun _ => ?_
  exact Reaches.bind (caught (obliging.dispatch _))

private theorem finishOperation {kind : Finish} {batchId : Uuid} :
    Stays audit session (finishOperation guard kind batchId) := by
  cases kind with
  | commit | rollback => exact .step (obliging.ask _) fun _ _ => spec_pure le_rfl

variable {batch : OpenBatch}

private theorem finish {kind : Finish} {chain : Bool} (running : session.batch = some batch)
    (unlocked : kind = .commit → audit.governedWritesDisabled = false) :
    Reaches (At audit session) (finish guard sql control kind chain)
      (guard.sent (.query .session .finish sql (some []) (some control))) := by
  refine reading ?_
  rw [running]
  have checked : Stays audit session
      (when (kind == .commit) (PolicySession.requireWritable guard sql)) :=
    spec_when (fun commits => obliging.requireWritable (unlocked (eq_of_beq commits)))
      fun _ _ _ => id
  refine checked.bind fun _ => ?_
  refine Returns.bind obliging.finishOperation fun operation => ?_
  refine Returns.step obliging.recordIntent fun result accepted => ?_
  rw [accepted]
  refine .skip ?_
  exact Reaches.bind (Reaches.releasing (Reaches.bind (caught (obliging.dispatch _))))

/-! ### Texts given to a session -/

/-- What the guard itself lets a session send while the flags are these. -/
def Lets (guard : PolicyGuard) (audit : AuditState) (session : PolicySession) (sql : String) :
    Prop :=
  match guard.front.transactionControl sql guard.ctx.driverId with
  | some .beginReadWrite => guard.ctx.readOnly = false ∧ session.batch = none
  | some .begin => session.batch = none
  | some .beginReadOnly => False
  | some .beginReadOnlySnapshot => guard.ctx.driverId = "postgres" ∧ session.batch = none
  | some (.commit _) => session.batch.isSome = true ∧ audit.governedWritesDisabled = false
  | some (.rollback _) => session.batch.isSome = true
  | none =>
    guard.front.hidesTransactionControl sql guard.ctx.driverId = false ∧
      (session.inReadOnlyBatch && refusedInSnapshot (guard.facts sql).effects) =
        false ∧
      (guard.categorical (guard.facts sql)).isSome = true ∧
      (guard.joinedDecision (guard.facts sql)).isDeny = false ∧
      ((guard.facts sql).writes = true → audit.governedWritesDisabled = false)

theorem queryParamsControlled (ready : session.isReady) (lets : Lets guard audit session sql) :
    ∃ call, call.carries = some sql ∧ Reaches (At audit session)
      (PolicySession.queryParamsControlled guard sql params control) (guard.sent call) := by
  have checked : ∀ {next : InSession QueryResult} {event : GuardEvent},
      Reaches (At audit session) next event → Reaches (At audit session)
        (PolicySession.requireQueryReady guard sql >>= fun _ => next) event :=
    fun reaches => Returns.bind (obliging.requireQueryReady ready) fun _ => reaches
  unfold Lets at lets
  unfold PolicySession.queryParamsControlled
  cases recognised : guard.front.transactionControl sql guard.ctx.driverId with
  | none =>
    rw [recognised] at lets
    obtain ⟨visible, admitted, decided, allowed, unlocked⟩ := lets
    refine ⟨sessionCall session sql params control, carries_sessionCall, checked ?_⟩
    rw [visible]
    exact obliging.statement decided allowed unlocked admitted
  | some found =>
  rw [recognised] at lets
  cases found with
  | begin => exact ⟨_, rfl, checked (obliging.begin lets)⟩
  | beginReadWrite =>
    refine ⟨.query .session .begin sql (some []) (some control), rfl, checked ?_⟩
    rw [lets.1]
    exact obliging.begin lets.2
  | beginReadOnly => cases lets
  | beginReadOnlySnapshot =>
    exact ⟨_, rfl, checked (obliging.beginReadOnly lets.1 lets.2)⟩
  | commit chain =>
    obtain ⟨batch, running⟩ := Option.isSome_iff_exists.mp lets.1
    exact ⟨_, rfl, checked (.bind (obliging.finish running fun _ => lets.2))⟩
  | rollback chain =>
    obtain ⟨batch, running⟩ := Option.isSome_iff_exists.mp lets
    exact ⟨_, rfl, checked (.bind (obliging.finish running nofun))⟩

theorem queryResultSetsParamsControlled (ready : session.isReady)
    (lets : Lets guard audit session sql) :
    ∃ call, call.carries = some sql ∧ Reaches (At audit session)
      (queryResultSetsParamsControlled guard sql params control)
      (guard.sent call) := by
  have collecting : isReady
      { session with extra := { collect := true, sets := [] } } := ready
  obtain ⟨call, carries, reaches⟩ :=
    obliging.queryParamsControlled collecting (show Lets guard audit _ sql from lets)
  refine ⟨call, carries, ?_⟩
  refine Returns.bind (modifyOwn _) fun _ => ?_
  exact Reaches.bind reaches.attempt

private theorem dispatchReturns {call : DriverCall} {value : call.Result}
    (answers : guard.outside.call 0 call = .returned value) :
    Stays audit session (guard.dispatch call) := by
  refine .step (obliging.ask _) fun reply answered => ?_
  obtain ⟨step, rfl⟩ := answered
  rw [obliging.steady, answers]
  refine .through (fun _ => At audit session) (spec_emit fun _ _ => id) fun _ => ?_
  exact spec_pure le_rfl

omit obliging in
private theorem caughtReturns {pre inv : Assertion σ} {stopped : String → DriverError}
    {execute : Guarded σ α} (returns : Returns pre execute fun _ => inv) :
    Returns pre (guard.caught stopped label execute) fun result past world =>
      inv past world ∧ ∃ value, result = .ok value := by
  refine caught_of (fun _ _ _ _ holds => absurd holds.2 nofun)
    ((Spec.catchUnwind (Spec.attempt returns)).returning fun result past world holds => ?_)
  match result with
  | some (.ok value) => exact ⟨holds, value, rfl⟩
  | some (.error _) | none => exact holds.elim

private theorem auditCursorResult {cursorAudit : CursorAudit} {value : α} {rows : Option Nat}
    {status : AuditTerminalStatus} :
    Stays audit session (auditCursorResult guard cursorAudit (.ok value) rows status) := by
  refine .step (obliging.recordVerdict rfl) fun recorded accepted => ?_
  rw [accepted]
  exact spec_pure le_rfl

private theorem closeActiveCursor
    (answers : ∀ call, guard.outside.call 0 call = .returned call.emptyResult)
    {cursor : ActiveCursor} {status : Option AuditTerminalStatus}
    (isOpen : session.cursor = some cursor) :
    Returns (At audit session) (closeActiveCursor guard cursor.id status) fun _ =>
      At audit { session with cursor := none } := by
  unfold PolicySession.closeActiveCursor
  refine reading ?_
  rw [isOpen]
  simp only [bne_self_eq_false]
  refine .bind (modifyOwn _) fun _ => ?_
  refine Returns.step (obliging.ask _) fun control _ => ?_
  refine Returns.step (caughtReturns (obliging.dispatchReturns (answers _))) fun result known => ?_
  obtain ⟨value, rfl⟩ := known
  refine .map ?_
  split
  · exact spec_pure le_rfl
  cases status with
  | none => exact spec_pure le_rfl
  | some status =>
  refine Returns.step (Returns.attempt obliging.auditCursorResult) fun audited known => ?_
  obtain ⟨_, rfl⟩ := known
  exact spec_pure le_rfl

private theorem closeBatch (active : session.retired = false) (running : session.batch = some batch)
    (certain : batch.uncertain = false) :
    Delivers (At audit session) (PolicySession.closeBatch guard batch) "ROLLBACK" := by
  refine Returns.step (obliging.isUsable active) fun usable isUsable => ?_
  rw [isUsable]
  refine Returns.step (obliging.isUsable active) fun usable isUsable => ?_
  rw [isUsable, certain]
  refine Returns.step (obliging.ask _) fun control _ => ?_
  exact Delivers.bind (Delivers.attempt (delivers_of_reaches (by rfl)
    (obliging.finish running nofun)))

theorem close (answers : ∀ call, guard.outside.call 0 call = .returned call.emptyResult)
    (active : session.retired = false) (running : session.batch = some batch)
    (certain : batch.uncertain = false) :
    Delivers (At audit session) (close guard) "ROLLBACK" := by
  refine reading ?_
  -- an open cursor is closed first, which leaves the batch as it is
  refine Returns.step (Returns.attempt (show Returns (At audit session) _ fun _ =>
    At audit { session with cursor := none } from ?_)) fun _ _ => ?_
  · split
    · rename_i isOpen
      exact obliging.closeActiveCursor answers isOpen
    · rename_i closed
      exact spec_pure fun _ _ here => ⟨here.1, here.2.trans (by rw [← closed])⟩
  refine reading ?_
  refine Delivers.bind (Delivers.attempt ?_)
  split
  · rename_i found present
    cases running.symm.trans present
    exact obliging.closeBatch active present certain
  · rename_i missing
    cases running.symm.trans missing

end Sessions

end Outside.Obliging

end Bookie.Guard
