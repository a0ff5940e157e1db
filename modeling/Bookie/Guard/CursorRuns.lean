/-
Runs of a session with query cursors. Each page is masked for the statement that
opened its cursor, and in a run that asks for no page after the last a cursor has one
terminal record once the session is closed.
-/

import Bookie.Guard.Cooperative
import Bookie.Guard.CursorProtocol

namespace Bookie.Guard

open Bookie.Core Policy Async Async.Future PolicyGuard SessionFramed PolicySession

section Runs

variable {guard : PolicyGuard} {session : PolicySession} {followed : Uuid → Prop}
  {past : List GuardEvent} {world : World PolicySession}

/-- In this run no page is asked for after the last page of its cursor. -/
def Paced (guard : PolicyGuard) : List SessionOperation → World PolicySession → Prop
  | [], _ => True
  | operation :: later, world =>
    operation.Paces world.own ∧ Paced guard later (operation.run guard world).state

private theorem sessionRun_protocol (attentive : guard.outside.Attentive)
    (operations : List SessionOperation) (past : List GuardEvent) (world : World PolicySession)
    (paced : Paced guard operations world) (holds : Protocol guard followed past world) :
    Protocol guard followed (past ++ (sessionRun guard operations world).1)
      (sessionRun guard operations world).2 := by
  induction operations generalizing past world with
  | nil =>
    rw [show (sessionRun guard [] world).1 = [] from rfl, List.append_nil]
    exact holds
  | cons operation later ih =>
    have next := (run_protocol attentive operation paced.1).everywhere past world ⟨holds, rfl⟩
    have rest := ih _ _ paced.2 next
    rw [List.append_assoc] at rest
    rw [sessionRun_cons]
    exact rest

private theorem Protocol.follow (protocol : Protocol guard followed past world)
    {active : ActiveCursor} (isActive : world.own.cursor = some active) :
    Protocol guard (fun id => id = active.audit.operationId) past world := by
  refine ⟨protocol.books.reading (fun id used => ⟨.inr ⟨active, isActive, ?_⟩, fun _ => rfl⟩)
    (.inl rfl), protocol.known⟩
  rcases used with isFollowed | ⟨found, isFound, isId⟩
  · exact isFollowed.symm
  · rw [isActive] at isFound
    cases isFound
    exact isId

def Unopened (past : List GuardEvent) (_ : World PolicySession) : Prop :=
  ∀ sql params control rows,
    .dispatched (.openQueryCursor sql params control) (.returned rows) ∉ past

/-- A cursor the driver confirmed for a statement is the session's. -/
def OpenedIsActive (past : List GuardEvent) (world : World PolicySession) : Prop :=
  ∀ sql params control rows,
    .dispatched (.openQueryCursor sql params control) (.returned rows) ∈ past →
      ∃ active, world.own.cursor = some active ∧ active.audit.sql = sql

private theorem Unopened.isActive (unopened : Unopened past world) : OpenedIsActive past world :=
  fun sql params control rows found => absurd found (unopened sql params control rows)

private theorem Unopened.append (unopened : Unopened past world) {event : GuardEvent}
    (other : ∀ sql params control rows,
      event ≠ .dispatched (.openQueryCursor sql params control) (.returned rows)) :
    Unopened (past ++ [event]) world := by
  intro sql params control rows found
  rcases List.mem_append.mp found with earlier | last
  · exact unopened sql params control rows earlier
  · exact other sql params control rows (List.mem_singleton.mp last).symm

def OpensNothing (call : DriverCall) : Prop :=
  ∀ sql params control, call ≠ .openQueryCursor sql params control

private theorem unopened_framed (guard : PolicyGuard) :
    SessionFramed guard (.lenient fun _ => OpensNothing) Unopened where
  toFramed := .ofEvents (fun _ _ _ _ _ => id) fun _ _ _ allowed holds =>
    holds.append fun sql params control _ same => allowed _ _ same sql params control rfl
  locks := fun _ _ => trivial
  retires := fun _ _ => id
  collects := fun _ _ _ => id

variable {control : OperationControl}

private theorem openAuthorizedCursor_opens {sql : String} {params : List Value}
    {audit : CursorAudit} (about : audit.sql = sql) :
    Leads Unopened OpenedIsActive (openAuthorizedCursor guard sql params control audit) := by
  have framed := unopened_framed guard
  have leaves : ∀ past world, Unopened past world → OpenedIsActive past world :=
    fun _ _ unopened => unopened.isActive
  refine .bind ((framed.prepareGovernedRead fun _ _ _ => trivial).leaving leaves) fun _ => ?_
  have unreturned : ∀ past world reply, Unopened past world → (∀ rows, reply ≠ .returned rows) →
      Unopened (past ++ [.dispatched (.openQueryCursor sql params control) reply]) world :=
    fun past world reply holds other => holds.append fun _ _ _ rows same =>
      other rows (GuardEvent.dispatched.inj same).2
  refine .through (fun result past world => match result with
    | .ok _ => ∀ text params control rows,
      .dispatched (.openQueryCursor text params control) (.returned rows) ∈ past → text = sql
    | .error _ => Unopened past world)
    (caughtDispatch (fun _ => framed.ignoresFaults) fun past world audit le holds => ?_)
    fun result => ?_
  · dsimp only
    split
    · intro text _ _ rows found
      rcases List.mem_append.mp found with earlier | last
      · exact absurd earlier (holds _ _ _ rows)
      · cases List.mem_singleton.mp last
        rfl
    · exact unreturned past _ _ holds fun _ => nofun
    · exact fun _ => unreturned past _ _ holds fun _ => nofun
    · exact leaves _ _ (unreturned past _ _ holds fun _ => nofun)
  cases result with
  | ok id =>
    refine .map (spec_modify fun past world holds => ?_)
    exact fun text params control rows found =>
      ⟨_, rfl, about.trans (holds text params control rows found).symm⟩
  | error error =>
  refine Leads.weaken (?_ : Keeps Unopened _) le_rfl leaves
  refine .bind (.attempt (auditCursorResult framed.toFramed
    (fun _ _ _ => trivial) _ _ _)) fun audited => ?_
  refine .bind (framed.noteCursorError (fun _ _ _ _ => id) error) fun _ => ?_
  exact .bind (keeps_ofExcept _) fun _ => keeps_fail _

private theorem run_opensCursor (operation : SessionOperation) :
    Leads (Owning Unopened session) OpenedIsActive (operation.run guard) := by
  have framed := unopened_framed guard
  have leaves : ∀ past world, Unopened past world → OpenedIsActive past world :=
    fun _ _ unopened => unopened.isActive
  have others : Admits guard (.lenient fun _ => OpensNothing) Unopened session operation →
      Leads (Owning Unopened session) OpenedIsActive (operation.run guard) := fun admits =>
    .weaken (framed.run (fun _ _ _ => id) (fun _ _ _ => id)
      (fun _ _ => trivial) (fun _ call bare sql params control same => by
        rw [same] at bare
        cases bare) operation admits) le_rfl leaves
  have texts : ∀ sql params control, session.isReady →
      SnapshotBorne guard (.lenient fun _ => OpensNothing) Unopened session sql ∧ ∀ extra,
        TextAllowed guard (.lenient fun _ => OpensNothing) Unopened
          { session with extra := extra } sql params control := fun sql params control _ =>
    ⟨fun _ _ _ _ _ _ _ => trivial, fun extra =>
    { counts := fun _ _ _ _ _ => nofun
      statements := fun _ _ _ => forall_statementCalls (fun _ _ _ => nofun) fun _ _ _ => nofun
      begins := fun _ _ _ _ _ _ _ _ => nofun
      finishes := fun _ _ _ _ _ _ _ _ => nofun }⟩
  cases operation with
  | queryParamsControlled sql params control
  | queryResultSetsParamsControlled sql params control => exact others (texts sql params control)
  | commitControlled control => exact others fun _ _ _ _ _ _ => nofun
  | openQueryCursorControlled sql params control =>
    refine .map (framed.openingCursor leaves (fun _ _ _ _ _ _ => nofun)
      fun audit named about ready readOnly single _ => ?_)
    refine .bind (.weaken framed.newUuid and_le_left
      (fun _ _ _ holds => holds.1) (fun _ => leaves) leaves) fun id => ?_
    exact openAuthorizedCursor_opens (about id).1
  | fetchQueryCursorPageControlled | closeQueryCursorControlled | lexicalSettingsControlled
  | fetchCompletionColumnsControlled => exact others trivial
  | close => exact others fun _ _ _ _ _ _ _ _ => nofun

private theorem cursor_opened_isActive (guard : PolicyGuard) (operation : SessionOperation)
    (world : World PolicySession) :
    OpenedIsActive (operation.run guard world).events (operation.run guard world).state :=
  (run_opensCursor operation).everywhere [] world
    ⟨fun _ _ _ _ member => absurd member List.not_mem_nil, rfl⟩

/-- The page as a cursor of this statement hands it to the caller. -/
def PolicyGuard.maskPage (guard : PolicyGuard) (analysis : StatementAnalysis)
    (page : QueryCursorPage) : QueryCursorPage :=
  { page with result := guard.maskResultForAnalysis (some analysis) page.result }

def PolicyGuard.Fetched (guard : PolicyGuard) (cursorId : QueryCursorId)
    (control : OperationControl) (page : QueryCursorPage) : Prop :=
  ∃ step, guard.outside.call step (.fetchQueryCursorPage cursorId control) = .returned page

private theorem fetch_masks (cursorId : QueryCursorId) (control : OperationControl) :
    Spec (Owning (fun _ _ => True) session)
      (fetchQueryCursorPageControlled guard cursorId control)
      (fun page _ _ => ∃ active fetched, session.cursor = some active ∧ active.id = cursorId ∧
        guard.Fetched cursorId control fetched ∧
        page = guard.maskPage active.audit.analysis fetched)
      (fun _ _ _ => True) (fun _ _ => True) := by
  refine spec_own ?_
  cases found : session.cursor.filter fun cursor => cursor.id == cursorId with
  | none => exact spec_fail fun _ _ _ => trivial
  | some active =>
  obtain ⟨isCursor, sameId⟩ := Option.filter_eq_some_iff.mp found
  refine .through (fun fetched _ _ => ∀ page, fetched = .ok page →
    guard.Fetched cursorId control page)
    (caughtDispatch (fun _ _ _ _ => id) fun _ world _ _ _ => ?_)
    fun fetched => ?_
  · dsimp only
    split
    · rename_i answer
      rintro _ ⟨⟩
      exact ⟨world.step, answer⟩
    · nofun
    · exact fun _ => nofun
    · trivial
  cases fetched with
  | error error =>
    refine .bind spec_anything fun audited => ?_
    refine .bind spec_anything fun _ => .bind spec_anything fun _ => ?_
    exact .bind spec_anything fun _ => spec_fail fun _ _ _ => trivial
  | ok page =>
  refine .assuming _ (fun _ _ holds => holds page rfl) fun isFetched => ?_
  refine .bind spec_anything fun audited => ?_
  cases audited with
  | error error => exact .bind spec_anything fun _ => spec_fail fun _ _ _ => trivial
  | ok _ =>
    refine .bind spec_anything fun _ => spec_pure fun _ _ _ => ?_
    exact ⟨active, page, isCursor, by simpa using sameId, isFetched, rfl⟩

/-- A page for the caller is one the driver returned for the session's cursor, masked for the
statement for which the driver opened that cursor. -/
private theorem page_masked (protocol : Protocol guard followed past world)
    {cursorId : QueryCursorId}
    {page : QueryCursorPage} (handed : (fetchQueryCursorPageControlled guard cursorId
      control world).exit = .done page) :
    ∃ active params opening rows fetched, world.own.cursor = some active ∧
      active.id = cursorId ∧ guard.Opened active.audit.sql params opening cursorId ∧
      .dispatched (.openQueryCursor active.audit.sql params opening) (.returned rows) ∈ past ∧
      guard.Fetched cursorId control fetched ∧
      page = guard.maskPage (guard.analyzeStatement active.audit.sql) fetched := by
  have masks := @fetch_masks guard world.own cursorId control past world ⟨trivial, rfl⟩
  rw [handed] at masks
  obtain ⟨active, fetched, isActive, rfl, isFetched, masked⟩ := masks
  obtain ⟨analysed, params, opening, rows, opened, confirmed⟩ := protocol.known active isActive
  rw [analysed] at masked
  exact ⟨active, params, opening, rows, fetched, isActive, rfl, opened, confirmed,
    isFetched, masked⟩

/-! ### The protocol over a run -/

private theorem paced_append {before later : List SessionOperation}
    (paced : Paced guard (before ++ later) world) :
    Paced guard before world ∧ Paced guard later (sessionRun guard before world).2 := by
  induction before generalizing world with
  | nil => exact ⟨trivial, paced⟩
  | cons operation before ih =>
    obtain ⟨paces, rest⟩ := paced
    obtain ⟨first, last⟩ := ih rest
    rw [sessionRun_cons]
    exact ⟨⟨paces, first⟩, last⟩

private theorem protocol_fresh (guard : PolicyGuard) (audit : AuditState) (step : Nat) :
    Protocol guard (fun _ => False) [] { audit := audit, step := step, own := .fresh } where
  books :=
    { reached := Nat.le_refl step
      apart := statementsApart_nil
      counted := .inl rfl
      drawn := fun _ _ found => absurd found List.not_mem_nil
      settled := fun _ used => by
        rcases used with impossible | ⟨_, impossible, _⟩
        · exact impossible.elim
        · cases impossible }
  known := fun _ impossible => by cases impossible

/-- The cursor protocol. In a run that asks for no page after the last page of its cursor, and
whose driver calls that close a cursor are not dropped, no statement is sent while a cursor is
open and at most one cursor is open at a time. A page that could be fetched at any point is
one the driver returned for the session's active cursor, which has the id that was asked for,
masked for the statement for which the driver gave that id. A cursor that the driver confirms
is the session's when its operation ends, and a cursor the session has at any
point has exactly one terminal record when `close` returns. -/
theorem cursor_protocol_of_paced (guard : PolicyGuard) (audit : AuditState) (step : Nat)
    (before after : List SessionOperation) (operation : SessionOperation)
    (attentive : guard.outside.Attentive) :
    let start : World PolicySession := { audit := audit, step := step, own := .fresh }
    let reached := sessionRun guard before start
    let next := operation.run guard reached.2
    let left := sessionRun guard after next.state
    let closed := PolicySession.close guard left.2
    let events := reached.1 ++ next.events ++ left.1 ++ closed.events
    Paced guard (before ++ operation :: after) start →
      StatementsApart events ∧
      (∀ count, openCursors (events.take count) ≤ 1) ∧
      (∀ cursorId control page,
        (PolicySession.fetchQueryCursorPageControlled guard cursorId control reached.2).exit =
          .done page →
        ∃ active params opening rows fetched, reached.2.own.cursor = some active ∧
          active.id = cursorId ∧ guard.Opened active.audit.sql params opening cursorId ∧
          .dispatched (.openQueryCursor active.audit.sql params opening) (.returned rows) ∈
            reached.1 ∧
          guard.Fetched cursorId control fetched ∧
          page = guard.maskPage (guard.analyzeStatement active.audit.sql) fetched) ∧
      (∀ sql params control rows,
        .dispatched (.openQueryCursor sql params control) (.returned rows) ∈ next.events →
          ∃ active, next.state.own.cursor = some active ∧ active.audit.sql = sql) ∧
      ∀ active, next.state.own.cursor = some active → closed.exit.Returned →
        FreshUntil guard closed.state.step → terminals active.audit.operationId events = 1 := by
  intro start reached next left closed events paced
  obtain ⟨pacedBefore, paces, pacedAfter⟩ := paced_append paced
  have protocol : Protocol guard (fun _ => False) reached.1 reached.2 :=
    sessionRun_protocol attentive before [] start pacedBefore (protocol_fresh guard audit step)
  have stepped : Protocol guard (fun _ => False) (reached.1 ++ next.events) next.state :=
    (run_protocol attentive operation paces).everywhere reached.1 reached.2 ⟨protocol, rfl⟩
  have ended : Protocol guard (fun _ => False) events closed.state := by
    have rest := sessionRun_protocol attentive after _ next.state pacedAfter stepped
    have ends := (run_protocol attentive .close trivial).everywhere _ left.2 ⟨rest, rfl⟩
    exact ends
  refine ⟨ended.books.apart, ended.books.apart.one_cursor, fun cursorId control page handed =>
    page_masked protocol handed, cursor_opened_isActive guard operation reached.2, ?_⟩
  intro active isActive returned fresh
  have followed := stepped.follow isActive
  have rest := sessionRun_protocol attentive after _ next.state pacedAfter followed
  have ends := (close_protocol attentive).returned _ left.2 ⟨rest, rfl⟩ returned
  have settled := (ends.1.books.settled active.audit.operationId (.inl rfl)).2 fresh
  rw [ends.2] at settled
  exact settled

end Runs

def beginSnapshot : KnownStatement :=
  { KnownStatement.single "BEGIN ISOLATION LEVEL REPEATABLE READ READ ONLY" .transaction
      .transactionControl [] with
    control := some .beginReadOnlySnapshot }

def selectUsers : KnownStatement :=
  .single "SELECT id FROM users" .select .reads ["users"]

def cursorGuard : PolicyGuard :=
  guardOver (frontEndKnowing [beginSnapshot, selectUsers]) .cooperative "postgres" .prod .humanGui

def newSession : World PolicySession := { audit := .new, step := 0, own := .fresh }

def anyControl : OperationControl := { token := 0, deadline := none }

def beginning : SessionOperation := .queryParamsControlled beginSnapshot.sql [] anyControl

def opening : SessionOperation := .openQueryCursorControlled selectUsers.sql [] anyControl

def fetching : SessionOperation := .fetchQueryCursorPageControlled Uuid.nil anyControl

def cursorOperation : Uuid := 10

private theorem attentive_cooperative : Outside.cooperative.Attentive where
  accepts := fun _ _ => rfl
  undropped := fun _ _ _ _ => nofun

private theorem cooperative_fresh {guard : PolicyGuard} (cooperative : guard.outside = .cooperative)
    {limit : Nat} (small : limit ≤ 2 ^ 128) : FreshUntil guard limit := by
  intro first second isFirst isSecond same
  rw [cooperative] at same
  have numbers : first % 2 ^ 128 = second % 2 ^ 128 := congrArg BitVec.toNat same
  rw [Nat.mod_eq_of_lt (by omega), Nat.mod_eq_of_lt (by omega)] at numbers
  exact numbers

/-- A page asked for after the last page is recorded as another end of the cursor. -/
theorem cursor_ends_twice :
    let opened := sessionRun cursorGuard [beginning, opening] newSession
    let run := sessionRun cursorGuard [beginning, opening, fetching, fetching] newSession
    let closed := PolicySession.close cursorGuard run.2
    opened.2.own.cursor.map (fun active => active.audit.operationId) = some cursorOperation ∧
      closed.exit.Returned ∧ terminals cursorOperation (run.1 ++ closed.events) = 2 :=
  ⟨rfl, trivial, rfl⟩

theorem cursor_protocol_of_paced_once :
    let run := sessionRun cursorGuard [beginning, opening, fetching] newSession
    let closed := PolicySession.close cursorGuard run.2
    terminals cursorOperation (run.1 ++ closed.events) = 1 := by
  have paced : Paced cursorGuard [beginning, opening, fetching] newSession :=
    ⟨trivial, trivial, fun _ found _ => by cases found; rfl, trivial⟩
  obtain ⟨_, _, _, _, settled⟩ := cursor_protocol_of_paced cursorGuard .new 0 [beginning] [fetching]
    opening attentive_cooperative paced
  exact settled _ rfl trivial (cooperative_fresh rfl (by decide))

end Bookie.Guard
