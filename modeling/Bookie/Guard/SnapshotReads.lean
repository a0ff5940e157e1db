/-
Read-only snapshots. A session under a snapshot has to refuse statements that write
or that affect the session or the host. Statements and cursors test this
differently; for every effect set we state exactly what gets through.
-/

import Bookie.Guard.Obliging
import Bookie.Policy.Outcomes

namespace Bookie.Guard

open Bookie.Core Policy Async Async.Future PolicyGuard PolicySession Effects

/-! ### Calls that return have sent their text -/

abbrev Yields {σ α : Type} (run : Guarded σ α) (post : α → Assertion σ) : Prop :=
  Spec (fun _ _ => True) run post (fun _ _ _ => True) fun _ _ => True

/-- A run that returns a value has given this text to the driver. -/
abbrev Confirms {σ α : Type} (run : Guarded σ α) (sql : String) : Prop :=
  Yields run fun _ past _ => Sent sql past

section Confirms

variable {σ α β : Type} {guard : PolicyGuard} {sql : String} {post : α → Assertion σ}

private theorem spec_true (run : Guarded σ α) :
    Yields run fun _ _ _ => True := by
  intro past world _
  cases (run world).exit <;> trivial

variable {next : β → Guarded σ α}

private theorem Yields.after {first : Guarded σ β} (continues : ∀ value, Yields (next value) post) :
    Yields (first >>= next) post :=
  .through (fun _ _ _ => True) (spec_true first) continues

private theorem yields_fail {error : DriverError} : Yields (fail error : Guarded σ α) post :=
  spec_fail fun _ _ _ => trivial

private theorem Confirms.stays {first : Guarded σ β} (begins : Confirms first sql) :
    Confirms (first >>= next) sql :=
  .bind begins fun value => .leaving (keeps_sent sql (next value))
    (fun _ _ _ _ => trivial) fun _ _ _ => trivial

private theorem confirms_dispatch {call : DriverCall} (carries : call.carries = some sql) :
    Confirms (guard.dispatch call : Guarded σ call.Result) sql := by
  refine .after fun reply => Confirms.stays ?_
  exact spec_emit fun _ _ _ =>
    ⟨call, _, List.mem_append_right _ (List.mem_singleton_self _), carries⟩

/-- The same for a run that returns its result as a value. -/
abbrev Vouches (run : Guarded σ (Except DriverError β)) (sql : String) : Prop :=
  Yields run fun result past _ => result.isOk = true → Sent sql past

variable {label : String} {execute : Guarded σ β}

private theorem vouches_caught {stopped : String → DriverError} (confirms : Confirms execute sql) :
    Vouches (guard.caught stopped label execute) sql := by
  refine (caught_spec confirms (fun _ _ _ _ _ => trivial) fun _ _ _ _ => trivial).returning
    fun result past world holds => ?_
  cases result with
  | ok value => exact fun _ => holds
  | error error => exact nofun

private theorem Confirms.attempt {run : Guarded σ β} (confirms : Confirms run sql) :
    Vouches run.attempt sql :=
  (Spec.attempt confirms).returning fun result _ _ holds => by
    cases result with
    | ok value => exact fun _ => holds
    | error error => exact nofun

private theorem Vouches.bind {first : Guarded σ (Except DriverError β)}
    {next : Except DriverError β → Guarded σ α} (begins : Vouches first sql)
    (sent : ∀ value past world, Sent sql past → post value past world)
    (failed : ∀ error, Yields (next (.error error)) post) : Yields (first >>= next) post := by
  refine .bind begins fun result => ?_
  cases result with
  | ok value =>
    exact .weaken (keeps_sent sql (next (.ok value))) (fun _ _ holds => holds rfl)
      sent (fun _ _ _ _ => trivial) fun _ _ _ => trivial
  | error error => exact (failed error).before fun _ _ _ => trivial

private theorem Vouches.pendingWrite {run : Guarded σ (Except DriverError β)}
    (vouches : Vouches run sql) : Vouches (PolicyGuard.pendingWrite run) sql :=
  .releasing vouches (fun _ _ _ _ => trivial) fun _ _ _ => trivial

variable {operation : AuditOperation} {finish : β → α} {rows : α → Option Nat}
  {audit : AuditOperation → Except DriverError α → Option Nat → Guarded σ Unit}

private theorem confirms_runRead (confirms : Confirms execute sql) :
    Confirms (guard.runRead operation label execute finish rows audit) sql := by
  refine .after fun _ => Vouches.bind (vouches_caught confirms) (fun _ _ _ => id)
    fun error => .after fun _ => yields_fail

private theorem confirms_runWrite (confirms : Confirms execute sql) :
    Confirms (guard.runWrite operation label execute finish rows audit) sql := by
  refine .after fun _ => .after fun _ => ?_
  have written : Vouches (pendingWrite do
      let result ← guard.caughtWrite label execute
      let result := result.map finish
      audit operation result (result.toOption.bind rows)
      pure result) sql := by
    refine Vouches.pendingWrite ?_
    refine Vouches.bind (vouches_caught confirms) (fun _ _ _ sent _ => sent) fun error => ?_
    exact .after fun _ => spec_pure fun _ _ _ => nofun
  exact Vouches.bind written (fun _ _ _ => id) fun error => yields_fail

end Confirms

namespace PolicySession

variable {α : Type} {guard : PolicyGuard} {sql : String} {params : List Value}
  {control : OperationControl}

private theorem confirms_refuse {rule : String} {error : DriverError} :
    Confirms (refuse guard sql rule error : InSession α) sql :=
  .after fun _ => .after fun _ => .after fun _ => .after fun _ =>
    yields_fail

private theorem confirms_countedStatement {analysis : StatementAnalysis} :
    Confirms (countedStatement guard analysis sql params control) sql := by
  refine Confirms.stays (.after fun session => ?_)
  have both : Confirms (guard.dispatch (.queryResultSets .session sql params control) :
      InSession QueryResultBatch) sql := confirms_dispatch rfl
  cases session.extra.collect with
  | false => exact confirms_dispatch rfl
  | true => exact both.stays

private theorem confirms_statement :
    Confirms (statement guard sql params control) sql := by
  refine .after fun session => ?_
  split
  · exact confirms_refuse
  refine .after fun authorization => .after fun session => ?_
  refine Vouches.bind (Confirms.attempt ?_) (fun _ _ _ => id) fun error =>
    .after fun _ => yields_fail
  cases session.batch with
  | some batch =>
    refine .after fun _ => .after fun operation => Confirms.stays ?_
    cases authorization.analysis.facts.writes with
    | true => exact confirms_runWrite confirms_countedStatement
    | false => exact confirms_runRead confirms_countedStatement
  | none =>
  cases authorization.analysis.facts.writes with
  | true =>
    exact .after fun _ => .after fun operation =>
      Confirms.stays (confirms_runWrite confirms_countedStatement)
  | false =>
    exact .after fun operation =>
      Confirms.stays (confirms_runRead confirms_countedStatement)

private theorem confirms_begin : Confirms (begin guard sql control) sql := by
  refine .after fun session => ?_
  split
  · exact confirms_refuse
  · exact Vouches.bind (vouches_caught (confirms_dispatch rfl)) (fun _ _ _ => id)
      fun error => .after fun _ => .after fun _ => yields_fail

private theorem confirms_beginReadOnly :
    Confirms (beginReadOnly guard sql control) sql := by
  unfold beginReadOnly
  split
  · exact confirms_refuse
  refine .after fun session => ?_
  split
  · exact confirms_refuse
  refine .after fun operation => .after fun _ => ?_
  exact Vouches.bind (vouches_caught (confirms_dispatch rfl)) (fun _ _ _ => id)
    fun error => .after fun _ => .after fun _ => .after fun _ =>
      yields_fail

private theorem confirms_finish {kind : Finish} {chain : Bool} :
    Confirms (finish guard sql control kind chain) sql := by
  refine .after fun session => ?_
  split
  · exact confirms_refuse
  refine .after fun _ => .after fun operation => .after fun _ =>
    .after fun _ => ?_
  refine Vouches.bind (Vouches.pendingWrite (Vouches.bind (vouches_caught (confirms_dispatch rfl))
    (fun _ _ _ sent _ => sent) fun error => ?_)) (fun _ _ _ => id) fun error =>
      yields_fail
  exact .after fun _ => .after fun recorded => .after fun _ =>
    .after fun _ => .after fun _ => spec_pure fun _ _ _ => nofun

private theorem confirms_queryParamsControlled :
    Confirms (queryParamsControlled guard sql params control) sql := by
  refine .after fun _ => ?_
  split
  · split
    · exact confirms_refuse
    · exact confirms_begin
  · exact confirms_begin
  · exact confirms_refuse
  · exact confirms_beginReadOnly
  · exact Confirms.stays confirms_finish
  · exact Confirms.stays confirms_finish
  · split
    · exact confirms_refuse
    · exact confirms_statement

private theorem confirms_queryResultSets :
    Confirms (queryResultSetsParamsControlled guard sql params control) sql := by
  refine .after fun _ => ?_
  exact Vouches.bind confirms_queryParamsControlled.attempt
    (fun _ _ _ => id) fun error => .after fun _ => .after fun _ =>
      Confirms.stays (yields_fail)

private theorem confirms_openQueryCursor :
    Confirms (openQueryCursorControlled guard sql params control) sql := by
  refine .after fun usable => ?_
  split
  · exact confirms_refuse
  refine .after fun session => ?_
  split
  · exact confirms_refuse
  refine .after fun session => ?_
  split
  · exact confirms_refuse
  dsimp only
  split
  · exact confirms_refuse
  refine .after fun authorization => .after fun operationId => ?_
  refine .after fun _ => ?_
  exact Vouches.bind (vouches_caught (confirms_dispatch rfl)) (fun _ _ _ => id)
    fun error => .after fun _ => .after fun _ => .after fun _ =>
      yields_fail

end PolicySession

/-! ### What gets into a snapshot -/

/-- The effects a read-only snapshot has to refuse. -/
def ForbiddenInSnapshot (effects : Effects) : Prop :=
  effects.writes = true ∨ effects.contains .sessionState = true ∨
    effects.contains .hostOrFileAccess = true

/-- The statement is offered to the session, by itself or as a cursor's. -/
def SessionOperation.Offers (sql : String) : SessionOperation → Prop
  | .queryParamsControlled text _ _ | .queryResultSetsParamsControlled text _ _
  | .openQueryCursorControlled text _ _ => text = sql
  | _ => False

/-- A text with forbidden effects that a ready session sends all the same: the end of the
snapshot itself, or a statement without a writing effect and without both of the other two. -/
def PolicySession.SlipsIn (guard : PolicyGuard) (session : PolicySession) (sql : String) : Prop :=
  session.isReady ∧
    match guard.front.transactionControl sql guard.ctx.driverId with
    | some (.commit _) | some (.rollback _) => True
    | some _ => False
    | none =>
      guard.front.hidesTransactionControl sql guard.ctx.driverId = false ∧
        (guard.facts sql).effects.writes = false ∧
        ((guard.facts sql).effects.contains .sessionState &&
          (guard.facts sql).effects.contains .hostOrFileAccess) = false ∧
        (guard.ctx.principal.isAgent = false ∨
          agentMayRead guard.envPolicy (guard.facts sql) = true)

private theorem refusedInSnapshot_eq (effects : Effects) :
    refusedInSnapshot effects =
      (effects.writes || effects.contains .sessionState && effects.contains .hostOrFileAccess) := by
  rw [refusedInSnapshot, contains_union]

private theorem isSingleRead_allowed {facts : StatementFacts} (single : facts.isSingleRead = true) :
    ¬ ForbiddenInSnapshot facts.effects := by
  simp only [StatementFacts.isSingleRead, intersects_union, Bool.and_eq_true,
    Bool.not_eq_true', Bool.or_eq_false_iff, sessionState, hostOrFileAccess] at single
  obtain ⟨⟨_, quiet⟩, ⟨session, host⟩, _⟩ := single
  rw [intersects_bit _ (by decide)] at session host
  rintro (writes | touches | reaches)
  · rw [quiet] at writes
    cases writes
  · rw [sessionState, contains_bit _ (by decide), session] at touches
    cases touches
  · rw [hostOrFileAccess, contains_bit _ (by decide), host] at reaches
    cases reaches

section Snapshot

variable {guard : PolicyGuard} {session : PolicySession} {sql : String}

variable (snapshot : session.inReadOnlyBatch = true)
include snapshot

private theorem batch_of_snapshot : session.batch.isSome = true := by
  unfold inReadOnlyBatch at snapshot
  cases running : session.batch with
  | none => simp [running] at snapshot
  | some batch => rfl

def Withheld (sql : String) (past : List GuardEvent) (_ : World PolicySession) : Prop :=
  ¬ Sent sql past

omit snapshot in
private theorem withheld_detached (guard : PolicyGuard) (sql : String) :
    Detached guard (fun text => text ≠ sql) (Withheld sql) where
  grows := fun _ _ _ _ _ => id
  event := fun past world event quiet unsent => by
    refine not_sent_append unsent ?_
    rintro call reply rfl
    rw [DriverCall.carries_of_isCount quiet.1]
    simp
  settled := fun _ _ _ _ _ unsent => not_sent_append unsent fun _ _ other => by cases other
  called := fun past world call reply permitted unsent => by
    refine not_sent_append unsent ?_
    rintro other reply same carries
    cases same
    exact permitted sql carries rfl
  owned := fun _ _ _ => id

/-- The checks of a text under a snapshot, with forbidden effects, leave only what slips in. -/
private theorem slipsIn_of_admits (ready : session.isReady)
    (admits : TextAdmits guard (Withheld sql) session sql) : session.SlipsIn guard sql := by
  refine ⟨ready, ?_⟩
  have running := batch_of_snapshot snapshot
  unfold TextAdmits at admits
  cases recognised : guard.front.transactionControl sql guard.ctx.driverId with
  | none =>
    rw [recognised] at admits
    have admitted := admits.snapshot snapshot
    rw [refusedInSnapshot_eq, Bool.or_eq_false_iff] at admitted
    refine ⟨admits.visible, admitted.1, admitted.2, ?_⟩
    have decided : (guard.categorical (guard.facts sql)).isSome = true :=
      categorical_isSome_iff.mpr (quiet_decided admitted.1)
    rcases admits.admitted.passes with ⟨_, allowed⟩ | ⟨undecided, _⟩
    · exact (quiet_allowed_iff admitted.1).mp allowed
    · rw [show guard.categorical (guard.facts sql) = none from undecided] at decided
      cases decided
  | some control =>
    rw [recognised] at admits
    cases control with
    | commit | rollback => trivial
    | begin => simp [show session.batch = none from admits] at running
    | beginReadWrite => simp [admits.2] at running
    | beginReadOnly => cases admits
    | beginReadOnlySnapshot => simp [admits.2] at running

private theorem lets_of_slipsIn (slips : session.SlipsIn guard sql) :
    Outside.Obliging.Lets guard .new session sql := by
  have running := batch_of_snapshot snapshot
  obtain ⟨_, slips⟩ := slips
  unfold Outside.Obliging.Lets
  cases recognised : guard.front.transactionControl sql guard.ctx.driverId with
  | none =>
    rw [recognised] at slips
    obtain ⟨visible, quiet, single, mayRead⟩ := slips
    refine ⟨visible, ?_, categorical_isSome_iff.mpr (quiet_decided quiet),
      (quiet_allowed_iff quiet).mpr mayRead, fun _ => rfl⟩
    rw [refusedInSnapshot_eq, quiet, single, Bool.or_self, Bool.and_false]
  | some control =>
  rw [recognised] at slips
  cases control with
  | commit chain => exact ⟨running, rfl⟩
  | rollback chain => exact running
  | begin | beginReadWrite | beginReadOnly | beginReadOnlySnapshot => cases slips

variable {operation : SessionOperation}

private theorem sends_withheld (forbidden : ForbiddenInSnapshot (guard.facts sql).effects)
    (safe : ¬ session.SlipsIn guard sql) (offers : operation.Offers sql) {text : String}
    (sends : operation.Sends guard (Withheld sql) session text) : text ≠ sql := by
  rintro rfl
  cases operation with
  | queryParamsControlled | queryResultSetsParamsControlled =>
    obtain ⟨rfl, ready, admits⟩ := sends
    exact safe (slipsIn_of_admits snapshot ready admits)
  | openQueryCursorControlled sql params control =>
    obtain ⟨rfl, _, _, single, _⟩ := sends
    exact isSingleRead_allowed single forbidden
  | _ => cases offers

private theorem settles_withheld (operation : SessionOperation) :
    operation.Settles guard (Withheld sql) session := by
  have running := batch_of_snapshot snapshot
  cases operation with
  | queryParamsControlled | queryResultSetsParamsControlled =>
    intro _ _ _ idle
    simp [idle] at running
  | _ => trivial

omit snapshot

private theorem confirms_offered (offers : operation.Offers sql) :
    Confirms (operation.run guard) sql := by
  cases operation with
  | queryParamsControlled text params control =>
    cases offers
    exact confirms_queryParamsControlled.stays
  | queryResultSetsParamsControlled text params control =>
    cases offers
    exact confirms_queryResultSets.stays
  | openQueryCursorControlled text params control =>
    cases offers
    exact confirms_openQueryCursor.stays
  | _ => cases offers

end Snapshot

/-- A statement with a forbidden effect is refused by a session under a read-only snapshot and
never sent, however it is offered and whatever the outside does, exactly if it is not one of
those that slip in. -/
theorem snapshot_refuses_iff (guard : PolicyGuard) (session : PolicySession) (sql : String)
    (snapshot : session.inReadOnlyBatch = true)
    (forbidden : ForbiddenInSnapshot (guard.facts sql).effects) :
    (∀ (outside : Outside) (world : World PolicySession), world.own = session →
      ∀ operation : SessionOperation, operation.Offers sql →
        (operation.run { guard with outside := outside } world).exit ≠ .done () ∧
          ¬ Sent sql (operation.run { guard with outside := outside } world).events) ↔
      ¬ session.SlipsIn guard sql := by
  constructor
  · intro refused slips
    have obliging : ({ guard with outside := .cooperative } : PolicyGuard).outside.Obliging :=
      Outside.cooperative_obliging
    have control : OperationControl := { token := 0, deadline := none }
    obtain ⟨call, carries, reaches⟩ := @Outside.Obliging.queryParamsControlled _ _ _ obliging
      session [] control slips.1
      (show Outside.Obliging.Lets { guard with outside := .cooperative } .new session sql from
        lets_of_slipsIn snapshot slips)
    let world : World PolicySession := { audit := .new, step := 0, own := session }
    have delivers : Delivers (At .new session) ((SessionOperation.queryParamsControlled sql []
        control).run { guard with outside := .cooperative }) sql :=
      (delivers_of_reaches carries reaches).bind
    exact (refused .cooperative world rfl (.queryParamsControlled sql [] control) rfl).2
      (delivers.everywhere [] world ⟨rfl, rfl⟩)
  intro safe outside world owned operation offers
  have stillSafe : ¬ session.SlipsIn { guard with outside := outside } sql := safe
  have stillForbidden : ForbiddenInSnapshot
      (PolicyGuard.facts { guard with outside := outside } sql).effects := forbidden
  have kept := (withheld_detached { guard with outside := outside } sql).sessionOperation
    operation (fun text sends => sends_withheld snapshot stillForbidden stillSafe offers sends)
    (settles_withheld snapshot operation)
  have unsent : ¬ Sent sql (operation.run { guard with outside := outside } world).events := by
    refine kept.everywhere [] world ⟨?_, owned⟩
    rintro ⟨_, _, impossible, _⟩
    cases impossible
  refine ⟨fun returned => unsent ?_, unsent⟩
  have confirms : Confirms (operation.run { guard with outside := outside }) sql :=
    confirms_offered offers
  have confirmed := confirms [] world trivial
  rw [returned] at confirmed
  exact confirmed

/-- A query of a function that keeps something for its session, by its name. -/
def advisoryReport : KnownStatement :=
  .single "SELECT pg_advisory_report(1)" .select (reads.union .sessionState) []

def truncateUsers : KnownStatement :=
  { KnownStatement.single "TRUNCATE users" .ddl .writesRows ["users"] with
    facts.containsUnscopedDml := true }

def snapshotGuard : PolicyGuard :=
  guardOver (frontEndKnowing [advisoryReport, truncateUsers]) .cooperative "postgres" .prod
    .humanGui

def snapshotSession : PolicySession :=
  { fresh with batch := some (OpenBatch.new 7 true) }

theorem snapshot_lets_advisory_report_in :
    snapshotSession.inReadOnlyBatch = true ∧
      ForbiddenInSnapshot (snapshotGuard.facts advisoryReport.sql).effects ∧
      Sent advisoryReport.sql ((SessionOperation.queryParamsControlled advisoryReport.sql []
        { token := 0, deadline := none }).run snapshotGuard
          { audit := .new, step := 0, own := snapshotSession }).events := by
  refine ⟨rfl, .inr (.inl rfl), .query .session .statement advisoryReport.sql (some [])
    (some { token := 0, deadline := none }), .returned none, ?_, rfl⟩
  exact .tail _ (.head _)

theorem snapshot_refuses_iff_truncate :
    (∀ (outside : Outside) (world : World PolicySession), world.own = snapshotSession →
      ∀ operation : SessionOperation, operation.Offers truncateUsers.sql →
        (operation.run { snapshotGuard with outside := outside } world).exit ≠ .done () ∧
          ¬ Sent truncateUsers.sql
            (operation.run { snapshotGuard with outside := outside } world).events) ↔
      ¬ snapshotSession.SlipsIn snapshotGuard truncateUsers.sql :=
  snapshot_refuses_iff snapshotGuard snapshotSession truncateUsers.sql rfl (.inl rfl)

end Bookie.Guard
