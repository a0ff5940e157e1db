/-
The protocol of query cursors. While the driver has a session's cursor open no
statement is sent, its pages are masked for the statement that opened it, and it gets
one terminal record. A fetch after the last page records another end, and a drop
while a cursor is closed loses it.
-/

import Bookie.Guard.CursorBooks
import Bookie.Guard.TransactionAccount

namespace Bookie.Guard

open Bookie.Core Policy Async Async.Future PolicyGuard SessionFramed PolicySession
  AuditTerminalStatus Nat

/-! ### What a session owes its cursor -/

/-- The terminal record of the cursor is still to be written. -/
def awaits (cursor : Option ActiveCursor) (id : Uuid) : Bool :=
  cursor.any fun cursor => cursor.audit.operationId == id && !cursor.complete

def owes (cursor : Option ActiveCursor) (id : Uuid) : Nat :=
  if awaits cursor id then 0 else 1

def openCount (cursor : Option ActiveCursor) : Nat :=
  if cursor.isSome then 1 else 0

/-- The ids in use: those of the cursors we follow and of the active one. -/
def Uses (followed : Uuid → Prop) (cursor : Option ActiveCursor) (id : Uuid) : Prop :=
  followed id ∨ ∃ active, cursor = some active ∧ active.audit.operationId = id

/-- The driver's answer when it was asked to open a cursor. -/
def PolicyGuard.Opened (guard : PolicyGuard) (sql : String) (params : List Value)
    (control : OperationControl) (id : QueryCursorId) : Prop :=
  ∃ step, guard.outside.call step (.openQueryCursor sql params control) = .returned id

/-- The driver gave the cursor's id for this statement, and the cursor keeps its analysis. -/
def Known (guard : PolicyGuard) (cursor : ActiveCursor) (past : List GuardEvent) : Prop :=
  cursor.audit.analysis = guard.analyzeStatement cursor.audit.sql ∧
    ∃ params control rows, guard.Opened cursor.audit.sql params control cursor.id ∧
      .dispatched (.openQueryCursor cursor.audit.sql params control) (.returned rows) ∈ past

/-- Between operations: the books agree with the cursor of the session. -/
structure Protocol (guard : PolicyGuard) (followed : Uuid → Prop) (past : List GuardEvent)
    (world : World PolicySession) : Prop where
  books : Books guard world.step (Uses followed world.own.cursor) (owes world.own.cursor)
    (openCount world.own.cursor) past world
  known : ∀ cursor, world.own.cursor = some cursor → Known guard cursor past

/-- Inside an operation: the books, the cursor the session has, and events seen so far. -/
structure Ledger (guard : PolicyGuard) (base : Nat) (ids : Uuid → Prop) (owed : Uuid → Nat)
    (isOpen : Nat) (cursor : Option ActiveCursor) (seen : List GuardEvent)
    (past : List GuardEvent) (world : World PolicySession) : Prop where
  books : Books guard base ids owed isOpen past world
  cursor : world.own.cursor = cursor
  seen : seen ⊆ past

/-- The sink accepts records, and no driver call that closes a cursor is dropped while it
waits. -/
structure Outside.Attentive (outside : Outside) : Prop where
  accepts : ∀ step event, outside.record step event = .accepted
  undropped : ∀ step cursorId control onServer,
    outside.call step (.closeQueryCursor cursorId control) ≠ .dropped onServer

section Ledger

variable {α : Type} {guard : PolicyGuard} {base : Nat} {ids : Uuid → Prop} {owed : Uuid → Nat}
  {isOpen : Nat} {cursor : Option ActiveCursor} {seen past : List GuardEvent}
  {world : World PolicySession} {followed : Uuid → Prop} {session : PolicySession}

theorem Books.reading {idsAfter : Uuid → Prop} {owedAfter : Uuid → Nat} {isOpenAfter : Nat}
    (books : Books guard base ids owed isOpen past world)
    (settled : ∀ id, idsAfter id → ids id ∧ (FreshUntil guard base → owed id = owedAfter id))
    (counted : isOpen = isOpenAfter ∨ world.own.retired = true) :
    Books guard base idsAfter owedAfter isOpenAfter past world where
  reached := books.reached
  apart := books.apart
  counted := by
    rcases books.counted with count | retired
    · rcases counted with same | retired
      · exact .inl (count.trans same)
      · exact .inr retired
    · exact .inr retired
  drawn := books.drawn
  settled := fun id used =>
    ⟨(books.settled id (settled id used).1).1, fun fresh =>
      ((books.settled id (settled id used).1).2 fresh).trans
        ((settled id used).2 (fresh.earlier books.reached))⟩

private theorem ledger_framed :
    SessionFramed guard (booking guard base isOpen)
      (Ledger guard base ids owed isOpen cursor seen) := by
  have framed := books_framed guard base ids owed isOpen
  have sees : ∀ {past : List GuardEvent} (event : GuardEvent), seen ⊆ past →
      seen ⊆ past ++ [event] := fun event seen =>
    List.subset_append_of_subset_left [event] seen
  exact
    { grows := fun past world audit step le later holds =>
        ⟨framed.grows past world audit step le later holds.books, holds.cursor, holds.seen⟩
      stays := framed.stays
      names := fun past world holds => framed.names past world holds.books
      recorded := fun past world event reply named settles answered holds =>
        ⟨framed.recorded past world event reply named settles answered holds.books, holds.cursor,
          sees _ holds.seen⟩
      asked := fun past world request reply holds =>
        ⟨framed.asked past world request reply holds.books, holds.cursor, sees _ holds.seen⟩
      faulted := fun past world operation holds =>
        ⟨framed.faulted past world operation holds.books, holds.cursor, sees _ holds.seen⟩
      called := fun past world call reply allowed answered holds =>
        ⟨framed.called past world call reply allowed answered holds.books, holds.cursor,
          sees _ holds.seen⟩
      locks := framed.locks
      retires := fun past world holds =>
        ⟨framed.retires past world holds.books, holds.cursor, holds.seen⟩
      collects := fun extra past world holds =>
        ⟨framed.collects extra past world holds.books, holds.cursor, holds.seen⟩ }

private theorem ledger_batches :
    Batches (Ledger guard base ids owed isOpen cursor seen) := fun change past world holds =>
  ⟨books_batches guard base ids owed isOpen change past world holds.books, holds.cursor, holds.seen⟩

/-- What a record under an id adds to what is owed. -/
def recordedUnder (owed : Uuid → Nat) (id : Uuid) (status : AuditTerminalStatus) (other : Uuid) :
    Nat :=
  owed other + if id == other && status != .pending then 1 else 0

private theorem recordedUnder_pending (owed : Uuid → Nat) (id : Uuid) :
    recordedUnder owed id .pending = owed := by
  funext other
  unfold recordedUnder
  rw [show (pending != .pending) = false from rfl, Bool.and_false]
  rfl

variable {operation : AuditOperation} {sql label : String} {params : List Value}
  {control : OperationControl} {cursorId : QueryCursorId}
  {fails : DriverError → Assertion PolicySession}
  {stops : Assertion PolicySession} {audit : CursorAudit}
  {active : ActiveCursor} {id : Uuid} {status : AuditTerminalStatus}

variable (attentive : guard.outside.Attentive)
include attentive

private theorem record_ledger (used : ids operation.operationId) (phase : AuditRecordPhase)
    (outcome : AuditOutcome) (durationMs : Option Nat) :
    Spec (Ledger guard base ids owed isOpen cursor seen)
      (guard.record operation phase outcome durationMs)
      (fun result past world => Ledger guard base ids
        (recordedUnder owed operation.operationId outcome.terminalStatus) isOpen cursor seen
        past world ∧ result = .ok ()) fails stops := by
  refine .bind (ledger_framed.asking _) fun timestamp => ?_
  refine .besides (.bind (ledger_framed.asking _) fun reply => ?_)
  refine .assuming (reply = .accepted) (fun past world holds => ?_) fun accepted => ?_
  · obtain ⟨step, answered⟩ := holds.2
    rw [answered]
    exact attentive.accepts step _
  rw [accepted]
  refine .through (fun _ past world => Ledger guard base ids
    (recordedUnder owed operation.operationId outcome.terminalStatus) isOpen cursor seen past world)
    (spec_emit fun past world holds => ?_) fun _ => spec_pure fun _ _ holds => ⟨holds, rfl⟩
  have named := (holds.1.books.settled _ used).1.later holds.1.books.reached
  have books : Books guard base ids _ isOpen (past ++ [.recorded (guard.auditEvent operation phase
    outcome durationMs timestamp) .accepted]) world := holds.1.books.record named
  exact ⟨books, holds.1.cursor, List.subset_append_of_subset_left _ holds.1.seen⟩

private theorem recordVerdict_ledger (used : ids operation.operationId) {verdict : Verdict}
    (unlocked : verdict.locks = false) :
    Spec (Ledger guard base ids owed isOpen cursor seen) (guard.recordVerdict operation verdict)
      (fun result past world => Ledger guard base ids
        (recordedUnder owed operation.operationId verdict.terminalStatus) isOpen cursor seen
        past world ∧ result = .ok ()) fails stops := by
  refine .through (fun _ => Ledger guard base ids owed isOpen cursor seen)
    (spec_when (fun locks => ?_) fun _ _ _ => id) fun _ => ?_
  · rw [unlocked] at locks
    cases locks
  · refine .bind (ledger_framed.asking _) fun elapsed => ?_
    exact (record_ledger attentive used _ _ _).besides

def cursorStatus (result : Except DriverError α) (status : AuditTerminalStatus) :
    AuditTerminalStatus :=
  match result with
  | .ok _ => status
  | .error error => controlledErrorTerminalStatus error

private theorem auditCursorResult_ledger (used : ids audit.operationId)
    (result : Except DriverError α) (rows : Option Nat) (status : AuditTerminalStatus) :
    Spec (Ledger guard base ids owed isOpen cursor seen)
      (auditCursorResult guard audit result rows status)
      (fun _ => Ledger guard base ids
        (recordedUnder owed audit.operationId (cursorStatus result status)) isOpen cursor seen)
      fails stops := by
  have records : ∀ verdict : Verdict, verdict.locks = false →
      verdict.terminalStatus = cursorStatus result status →
      Spec (Ledger guard base ids owed isOpen cursor seen) (do
        let recorded ← guard.recordVerdict audit.operation verdict
        ofExcept (guard.handleReadAuditFailure recorded))
        (fun _ => Ledger guard base ids
          (recordedUnder owed audit.operationId (cursorStatus result status)) isOpen cursor seen)
        fails stops := by
    intro verdict unlocked same
    refine .bind (recordVerdict_ledger attentive used unlocked) fun recorded => ?_
    refine .given fun accepted => ?_
    rw [accepted, same]
    exact spec_pure le_rfl
  cases result with
  | ok | error => exact records _ rfl rfl

private theorem auditAttempt_ledger (used : ids audit.operationId) (result : Except DriverError α)
    (rows : Option Nat) (status : AuditTerminalStatus) :
    Spec (Ledger guard base ids owed isOpen cursor seen)
      (auditCursorResult guard audit result rows status).attempt
      (fun audited past world => Ledger guard base ids
        (recordedUnder owed audit.operationId (cursorStatus result status)) isOpen cursor seen
        past world ∧ audited = .ok ()) fails stops := by
  have returns : Spec (Ledger guard base ids owed isOpen cursor seen)
      (auditCursorResult guard audit result rows status)
      (fun _ => Ledger guard base ids
        (recordedUnder owed audit.operationId (cursorStatus result status)) isOpen cursor seen)
      (fun _ _ _ => False) stops := auditCursorResult_ledger attentive used result rows status
  refine returns.attempt.returning fun audited past world holds => ?_
  cases audited with
  | ok _ => exact ⟨holds, rfl⟩
  | error error => exact False.elim holds

private theorem prepareGovernedRead_ledger (used : ids operation.operationId) :
    Spec (Ledger guard base ids owed isOpen cursor seen) (guard.prepareGovernedRead operation)
      (fun _ => Ledger guard base ids owed isOpen cursor seen) fails stops := by
  unfold PolicyGuard.prepareGovernedRead
  split
  · exact spec_pure le_rfl
  refine .through (fun result past world => Ledger guard base ids owed isOpen cursor seen past
    world ∧ result = .ok ()) ?_ fun result => ?_
  · refine .bind (record_ledger attentive used _ _ _) fun result => ?_
    refine .given fun accepted => ?_
    have pending : (pendingOutcome operation.cls).terminalStatus = .pending := rfl
    rw [accepted, pending, recordedUnder_pending]
    exact .skip (.skip (spec_pure fun _ _ holds => ⟨holds, rfl⟩))
  · refine .given fun accepted => ?_
    rw [accepted]
    exact spec_pure le_rfl

omit attentive in
private theorem Ledger.call {call : DriverCall} {reply : DriverReply (Option Nat)}
    {audit : AuditState}
    {after : Nat} (ledger : Ledger guard base ids owed isOpen cursor seen past world)
    (le : world.audit.Le audit)
    (apart : call.isStatement = true → isOpen = 0 ∧ world.own.retired = false)
    (counts : cursorsAfter isOpen (.dispatched call reply) = after) :
    Ledger guard base ids owed after cursor seen (past ++ [.dispatched call reply])
      { world with audit := audit, step := world.step + 1 } := by
  have grown := ledger_framed.grows past world audit (world.step + 1) le (le_succ _) ledger
  exact ⟨grown.books.call apart counts, grown.cursor,
    List.subset_append_of_subset_left _ grown.seen⟩

/-- The driver is asked to close the cursor; only its confirmation closes it. -/
private theorem closeCall_ledger :
    Spec (Ledger guard base ids owed isOpen cursor seen)
      (guard.caughtRead label (guard.dispatch (.closeQueryCursor cursorId control)))
      (fun result => Ledger guard base ids owed (if result.isOk then isOpen - 1 else isOpen) cursor
        seen) fails stops := by
  refine caughtDispatch (fun _ => ledger_framed.ignoresFaults) fun past world audit le holds => ?_
  dsimp only
  split
  case h_3 => exact fun _ => holds.call le nofun rfl
  case h_4 dropped => exact absurd dropped (attentive.undropped world.step cursorId control _)
  all_goals exact holds.call le nofun rfl

omit attentive

private theorem Ledger.protocol (ledger : Ledger guard base ids owed isOpen cursor seen past world)
    (settled : ∀ id, Uses followed cursor id →
      ids id ∧ (FreshUntil guard base → owed id = owes cursor id))
    (counted : isOpen = openCount cursor)
    (known : ∀ active, cursor = some active → Known guard active past) :
    Protocol guard followed past world := by
  have same := ledger.cursor
  subst same
  have books := ledger.books.reading settled (.inl counted)
  exact ⟨⟨le_refl _, books.apart, books.counted, books.drawn, fun id used =>
    (books.settled id used).imp_left (·.later books.reached)⟩, known⟩

private theorem Ledger.withCursor
    (ledger : Ledger guard base ids owed isOpen cursor seen past world)
    (next : Option ActiveCursor) :
    Ledger guard base ids owed isOpen next seen past
      { world with own := { world.own with cursor := next } } :=
  ⟨ledger.books.own fun retired => retired, rfl, ledger.seen⟩

private theorem retire_ledger {isOpenAfter : Nat} :
    Spec (Ledger guard base ids owed isOpen cursor seen) retire
      (fun _ => Ledger guard base ids owed isOpenAfter cursor seen) fails stops :=
  spec_modify fun _ world holds =>
    have books : Books guard base ids owed isOpen _
      { world with own := { world.own with retired := true } } := holds.books.own fun _ => rfl
    ⟨books.reading (fun _ used => ⟨used, fun _ => rfl⟩) (.inr rfl), holds.cursor, holds.seen⟩

private theorem closeCursorDriver_ledger (attentive : guard.outside.Attentive) :
    Spec (Ledger guard base ids owed 1 cursor seen) (closeCursorDriver guard cursorId)
      (fun _ => Ledger guard base ids owed 0 none seen) fails stops := by
  refine .bind (ledger_framed.asking _) fun control => ?_
  refine .besides ?_
  refine .bind (closeCall_ledger attentive) fun result => ?_
  refine .through (fun _ => Ledger guard base ids owed (if result.isOk then 1 - 1 else 1) none
    seen) (spec_modify fun _ _ holds => holds.withCursor none) fun _ => ?_
  cases result with
  | error error => exact retire_ledger
  | ok value =>
    refine .bind ledger_framed.usability fun usable => ?_
    exact spec_when (fun _ => retire_ledger) fun _ _ _ => id

private theorem awaits_other (other : active.audit.operationId ≠ id) :
    awaits (some active) id = false := by
  change (active.audit.operationId == id && _) = false
  rw [beq_false_of_ne other, Bool.false_and]

private theorem awaits_complete (complete : active.complete = true) (id : Uuid) :
    awaits (some active) id = false := by
  change (_ && !active.complete) = false
  rw [complete, Bool.not_true, Bool.and_false]

private theorem awaits_active (incomplete : active.complete = false) :
    awaits (some active) active.audit.operationId = true := by
  change (_ == _ && !active.complete) = true
  rw [beq_self_eq_true, incomplete]
  rfl

private theorem recordedUnder_settles (incomplete : active.complete = false)
    (final : status ≠ .pending) (id : Uuid) :
    recordedUnder (owes (some active)) active.audit.operationId status id = 1 := by
  unfold recordedUnder owes
  by_cases same : active.audit.operationId = id
  · subst same
    rw [awaits_active incomplete, beq_self_eq_true, bne_iff_ne.mpr final]
    rfl
  · rw [awaits_other same, beq_false_of_ne same]
    rfl

private theorem cursorStatus_final (final : status ≠ .pending) (result : Except DriverError α) :
    cursorStatus result status ≠ .pending := by
  cases result with
  | ok value => exact final
  | error error => cases error <;> exact nofun

private theorem Ledger.closed (ledger : Ledger guard base ids owed 0 none seen past world)
    (settled : ∀ id, ids id → owed id = 1) (uses : ∀ id, followed id → ids id) :
    Protocol guard followed past world := by
  refine ledger.protocol (fun id used => ?_) rfl fun active impossible => by cases impossible
  rcases used with isFollowed | ⟨active, impossible, _⟩
  · exact ⟨uses id isFollowed, fun _ => settled id (uses id isFollowed)⟩
  · cases impossible

/-! ### The operations of a cursor -/

def Starting (guard : PolicyGuard) (base : Nat) (followed : Uuid → Prop)
    (cursor : Option ActiveCursor) (seen : List GuardEvent) :
    List GuardEvent → World PolicySession → Prop :=
  Ledger guard base (Uses followed cursor) (owes cursor) (openCount cursor) cursor seen

/-- The events seen tell where the cursor of the session comes from. -/
def Knows (guard : PolicyGuard) (cursor : Option ActiveCursor) (seen : List GuardEvent) : Prop :=
  ∀ active, cursor = some active → ∀ past, seen ⊆ past → Known guard active past

private theorem Starting.protocol (starting : Starting guard base followed cursor seen past world)
    (knows : Knows guard cursor seen) : Protocol guard followed past world :=
  Ledger.protocol starting (fun _ used => ⟨used, fun _ => rfl⟩) rfl fun active isActive =>
    knows active isActive past (Ledger.seen starting)

private theorem closeCursor_protocol (attentive : guard.outside.Attentive)
    (final : status ≠ .pending) : Spec (Starting guard base followed (some active) seen) (do
      modifyOwn fun session => { session with cursor := none }
      let control ← guard.controlWithTimeout closeCursorTimeoutMs
      let result ← guard.caughtRead "SESSION CLOSE QUERY CURSOR"
        (guard.dispatch (.closeQueryCursor active.id control))
      whenSome (if active.complete then none else some status) fun status => do
        let audited ← (auditCursorResult guard active.audit result none status).attempt
        when (!audited.isOk) retire
        ofExcept audited
      when (!result.isOk) retire
      let _ ← ofExcept result
      pure ())
      (fun _ past world => Protocol guard followed past world ∧ world.own.cursor = none)
      (fun _ past world => Protocol guard followed past world ∧ world.own.cursor = none) stops := by
  have used : Uses followed (some active) active.audit.operationId := .inr ⟨active, rfl, rfl⟩
  refine .through (fun _ => Ledger guard base (Uses followed (some active)) (owes (some active))
    1 none seen) (spec_modify fun _ _ holds => Ledger.withCursor holds none) fun _ => ?_
  refine .bind (ledger_framed.asking _) fun control => ?_
  refine .besides ?_
  refine .bind (closeCall_ledger attentive) fun result => ?_
  refine .through (fun _ => Ledger guard base (Uses followed (some active)) (fun _ => 1)
    (if result.isOk then 1 - 1 else 1) none seen) ?_ fun _ => ?_
  · cases complete : active.complete with
    | true =>
      refine spec_pure fun past world holds => ?_
      refine ⟨holds.books.reading (fun id isUsed => ⟨isUsed, fun _ => ?_⟩) (.inl rfl),
        holds.cursor, holds.seen⟩
      unfold owes
      rw [awaits_complete complete]
      rfl
    | false =>
    refine .bind (auditAttempt_ledger attentive used result none status) fun audited => ?_
    refine .given fun accepted => ?_
    rw [accepted]
    refine .map (spec_pure fun past world holds => ?_)
    exact ⟨holds.books.reading (fun id isUsed => ⟨isUsed, fun _ => recordedUnder_settles
      complete (cursorStatus_final final result) id⟩) (.inl rfl), holds.cursor, holds.seen⟩
  refine .through (fun _ => Ledger guard base (Uses followed (some active)) (fun _ => 1) 0 none
    seen) ?_ fun _ => ?_
  · cases result with
    | ok value => exact spec_pure le_rfl
    | error error => exact retire_ledger
  have closes : ∀ past world, Ledger guard base (Uses followed (some active)) (fun _ => 1) 0 none
      seen past world → Protocol guard followed past world ∧ world.own.cursor = none :=
    fun past world holds => ⟨holds.closed (fun _ _ => rfl) fun _ isFollowed => .inl isFollowed,
      holds.cursor⟩
  refine .through (fun _ past world => Protocol guard followed past world ∧
    world.own.cursor = none) (spec_ofExcept (fun _ _ => closes) fun _ _ => closes) fun _ =>
      spec_pure le_rfl

private theorem closeActiveCursor_protocol (attentive : guard.outside.Attentive)
    (knows : Knows guard session.cursor seen) (final : status ≠ .pending) :
    Spec (Owning (Starting guard base followed session.cursor seen) session)
      (closeActiveCursor guard cursorId (some status))
      (fun _ past world => Protocol guard followed past world ∧ world.own.cursor = none)
      (fun _ past world => Protocol guard followed past world ∧
        ((∀ active, session.cursor = some active → active.id = cursorId) → world.own.cursor = none))
      stops := by
  refine spec_own ?_
  cases isCursor : session.cursor with
  | none =>
    refine spec_fail fun past world holds => ⟨holds.1.protocol (isCursor ▸ knows), fun _ => ?_⟩
    exact Ledger.cursor holds.1
  | some active =>
  dsimp only
  split
  · rename_i other
    refine spec_fail fun past world holds => ⟨holds.1.protocol (isCursor ▸ knows), fun same => ?_⟩
    have equal := same active rfl
    rw [equal] at other
    simp at other
  · exact .weaken (closeCursor_protocol attentive final) and_le_left
      le_rfl (fun _ _ _ holds => ⟨holds.1, fun _ => holds.2⟩)
      le_rfl

private theorem allowsApart_of_plain {call : DriverCall} (plain : call.isCursor = false)
    (unsaid : call.isStatement = false) (own : PolicySession) : AllowsApart isOpen own call := by
  refine ⟨plain, fun isStatement => ?_⟩
  rw [unsaid] at isStatement
  cases isStatement

private theorem completeCursor_protocol (incomplete : active.complete = false)
    (knows : Knows guard (some active) seen) :
    Spec (Ledger guard base (Uses followed (some active))
        (recordedUnder (owes (some active)) active.audit.operationId .succeeded) 1 (some active)
          seen)
      (modifyOwn fun session =>
        { session with cursor := session.cursor.map fun cursor =>
          { cursor with complete := true } })
      (fun _ => Protocol guard followed) fails stops := by
  refine spec_modify fun past world holds => ?_
  have moved := holds.withCursor (some { active with complete := true })
  have same : world.own.cursor.map (fun cursor => { cursor with complete := true }) =
      some { active with complete := true } := by
    rw [holds.cursor]
    rfl
  rw [← same] at moved
  refine Ledger.protocol moved (fun id used => ?_) (by rw [same]; rfl) fun found isFound => ?_
  · rw [same] at used ⊢
    refine ⟨?_, fun _ => ?_⟩
    · rcases used with isFollowed | ⟨found, isFound, isId⟩
      · exact .inl isFollowed
      · cases isFound
        exact .inr ⟨active, rfl, isId⟩
    rw [recordedUnder_settles incomplete (by decide)]
    unfold owes
    rw [awaits_complete rfl]
    rfl
  · rw [same] at isFound
    cases isFound
    exact knows active rfl past holds.seen

private theorem fetchPage_protocol (attentive : guard.outside.Attentive)
    (knows : Knows guard session.cursor seen)
    (paced : ∀ active, session.cursor = some active → active.id = cursorId →
      active.complete = false) :
    Leads (Owning (Starting guard base followed session.cursor seen) session)
      (Protocol guard followed)
      (fetchQueryCursorPageControlled guard cursorId control) := by
  refine spec_own ?_
  cases found : session.cursor.filter fun cursor => cursor.id == cursorId with
  | none => exact spec_fail fun past world holds => holds.1.protocol knows
  | some active =>
  obtain ⟨isCursor, sameId⟩ := Option.filter_eq_some_iff.mp found
  have incomplete := paced active isCursor (by simpa using sameId)
  rw [isCursor] at knows ⊢
  have used : Uses followed (some active) active.audit.operationId := .inr ⟨active, rfl, rfl⟩
  have fetches : Keeps (Ledger guard base (Uses followed (some active)) (owes (some active)) 1
      (some active) seen) (guard.caughtRead "SESSION FETCH QUERY CURSOR PAGE"
        (guard.dispatch (.fetchQueryCursorPage cursorId control))) :=
    ledger_framed.caught (ledger_framed.dispatch fun _ world _ =>
      allowsApart_of_plain rfl rfl world.own)
  refine .besides (.bind (fetches.leaving fun _ _ holds =>
    Starting.protocol holds knows) fun fetched => ?_)
  refine .bind (auditAttempt_ledger attentive used _ _ _) fun audited => ?_
  refine .given fun accepted => ?_
  rw [accepted]
  cases fetched with
  | error error =>
    have settles := recordedUnder_settles incomplete (cursorStatus_final
      (show failed ≠ .pending by decide) (.error error : Except _ Unit))
    have closes : ∀ past world, Ledger guard base (Uses followed (some active))
        (recordedUnder (owes (some active)) active.audit.operationId
          (controlledErrorTerminalStatus error)) 0 none seen past world →
        Protocol guard followed past world := fun past world holds =>
      holds.closed (fun id _ => settles id) fun _ isFollowed => .inl isFollowed
    refine .bind (ledger_framed.noteCursorError ledger_batches.notes error) fun _ => ?_
    refine .bind (closeCursorDriver_ledger attentive) fun _ => ?_
    exact .through (fun _ => Protocol guard followed) (spec_pure closes) fun _ =>
      spec_fail le_rfl
  | ok page =>
    obtain ⟨result, hasNextPage⟩ := page
    cases hasNextPage with
    | true =>
      refine .map (spec_pure fun past world holds =>
        ?_)
      change Ledger guard base (Uses followed (some active)) (recordedUnder
        (owes (some active)) active.audit.operationId .pending) 1 (some active) seen past
        world at holds
      rw [recordedUnder_pending] at holds
      exact Starting.protocol holds knows
    | false =>
      exact .map (completeCursor_protocol incomplete knows)

/-! ### Opening a cursor -/

/-- The ids in use with one that was just drawn. -/
def WithNew (ids : Uuid → Prop) (new other : Uuid) : Prop := ids other ∨ other = new

/-- Nothing is recorded under an id that was just drawn. -/
def owedWithNew (owed : Uuid → Nat) (new other : Uuid) : Nat :=
  if other = new then 0 else owed other

private theorem Books.draw (books : Books guard base ids owed isOpen past world)
    (audit : AuditState) :
    Books guard (world.step + 1) (WithNew ids (guard.outside.newUuid world.step))
      (owedWithNew owed (guard.outside.newUuid world.step)) isOpen past
      { world with audit := audit, step := world.step + 1 } where
  reached := le_refl _
  apart := books.apart
  counted := books.counted
  drawn := fun event reply found => (books.drawn event reply found).later (le_succ _)
  settled := by
    intro id used
    by_cases new : id = guard.outside.newUuid world.step
    · refine ⟨⟨world.step, lt_succ_self _, new⟩, fun fresh => ?_⟩
      rw [owedWithNew, if_pos new]
      refine List.countP_eq_zero.mpr fun event found => ?_
      cases event with
      | recorded record reply =>
        obtain ⟨step, earlier, same⟩ := books.drawn record reply found
        have differs : record.operationId ≠ id := by
          rw [same, new]
          intro equal
          have steps := fresh step world.step (lt_succ_of_lt earlier) (lt_succ_self _) equal
          omega
        change ¬ (record.operationId == id && _) = true
        rw [beq_false_of_ne differs]
        exact Bool.false_ne_true
      | _ => exact Bool.false_ne_true
    have old := books.settled id (used.resolve_right new)
    refine ⟨old.1.later (le_trans books.reached (le_succ _)), fun fresh => ?_⟩
    rw [owedWithNew, if_neg new]
    exact old.2 (fresh.earlier (le_succ _))

private theorem owned_framed (guard : PolicyGuard) (session : PolicySession) :
    Framed guard (.lenient fun _ _ => True)
      (fun _ (world : World PolicySession) => world.own = session) :=
  .ofEvents (fun _ _ _ _ _ => id) fun _ _ _ _ => id

private theorem openCall_ledger (active : session.retired = false) {outer : Assertion PolicySession}
    (leaves : ∀ past world, Ledger guard base ids owed 0 cursor seen past world →
      outer past world) :
    Spec (fun past world => Ledger guard base ids owed 0 cursor seen past world ∧
        world.own = session)
      (guard.caughtRead label (guard.dispatch (.openQueryCursor sql params control)))
      (fun result past world => Ledger guard base ids owed (if result.isOk then 1 else 0) cursor
        (if result.isOk then
          .dispatched (.openQueryCursor sql params control) (.returned none) :: seen
          else seen) past world ∧ ∀ id, result = .ok id → guard.Opened sql params control id)
      fails outer := by
  refine caughtDispatch (fun _ past world operation holds =>
    holds.imp_left (ledger_framed.ignoresFaults past world operation))
    fun past world audit le holds => ?_
  have called {reply : DriverReply (Option Nat)} {after : Nat}
      (counts : cursorsAfter 0 (.dispatched (.openQueryCursor sql params control) reply) = after) :=
    holds.1.call le (fun _ => ⟨rfl, by rw [holds.2]; exact active⟩) counts
  dsimp only
  split
  case h_1 id answer =>
    have opened := @called (.returned none) 1 rfl
    refine ⟨⟨opened.books, opened.cursor,
      List.cons_subset.mpr ⟨List.mem_append_right _ (List.mem_singleton_self _), opened.seen⟩⟩, ?_⟩
    rintro _ ⟨⟩
    exact ⟨world.step, answer⟩
  case h_2 => exact ⟨called rfl, nofun⟩
  case h_3 => exact fun _ => ⟨called rfl, nofun⟩
  case h_4 => exact leaves _ _ (called rfl)

private theorem newUuid_ledger :
    Spec (Owning (Ledger guard base ids owed isOpen cursor seen) session) guard.newUuid
      (fun id past world => ∃ base, (Ledger guard base (WithNew ids id) (owedWithNew owed id) isOpen
        cursor seen past world ∧ world.own = session) ∧
          ∀ other, ids other → FreshUntil guard base → other ≠ id)
      fails stops := by
  refine spec_of_silent (fun _ => rfl) fun past world holds =>
    ⟨world.step + 1, ⟨⟨holds.1.books.draw _, holds.1.cursor, holds.1.seen⟩, holds.2⟩,
    fun other used fresh equal => ?_⟩
  obtain ⟨step, earlier, drawn⟩ := (holds.1.books.settled other used).1
  have reached := holds.1.books.reached
  have steps := fresh step world.step (by omega) (lt_succ_self _) (drawn.symm.trans equal)
  omega

private theorem Ledger.unopened
    (ledger : Ledger guard base (WithNew (Uses followed none) id) owed 0 none seen past world)
    (settled : ∀ other, other ≠ id → owed other = 1)
    (distinct : ∀ other, Uses followed none other → FreshUntil guard base → other ≠ id) :
    Protocol guard followed past world :=
  ledger.protocol (fun other used => ⟨.inl used, fun fresh =>
    settled other (distinct other used fresh)⟩) rfl fun _ impossible => by cases impossible

private theorem owedWithNew_other {other : Uuid} (differs : other ≠ id) :
    owedWithNew (owes none) id other = 1 := if_neg differs

private theorem openAuthorizedCursor_protocol (attentive : guard.outside.Attentive)
    (active : session.retired = false)
    (about : audit.sql = sql ∧ audit.analysis = guard.analyzeStatement sql)
    (distinct : ∀ other, Uses followed none other → FreshUntil guard base →
      other ≠ audit.operationId) :
    Leads (fun past world => Ledger guard base (WithNew (Uses followed none) audit.operationId)
        (owedWithNew (owes none) audit.operationId) 0 none seen past world ∧ world.own = session)
      (Protocol guard followed) (openAuthorizedCursor guard sql params control audit) := by
  have used : WithNew (Uses followed none) audit.operationId audit.operationId := .inr rfl
  have gives : ∀ past world, Ledger guard base (WithNew (Uses followed none) audit.operationId)
      (owedWithNew (owes none) audit.operationId) 0 none seen past world →
      Protocol guard followed past world := fun past world holds =>
    holds.unopened (fun _ => owedWithNew_other) distinct
  refine .bind (.both (prepareGovernedRead_ledger attentive used)
    ((owned_framed guard session).prepareGovernedRead fun _ _ _ => trivial)) fun _ => ?_
  refine .bind (openCall_ledger active gives) fun result => ?_
  cases result with
  | ok id =>
    refine .map (spec_modify fun past world ⟨holds, opens⟩ => ?_)
    refine (holds.withCursor (some { id := id, audit := audit, complete := false })).protocol
      (fun other isUsed => ?_) rfl fun opened isOpened => ?_
    · by_cases same : other = audit.operationId
      · subst same
        refine ⟨used, fun _ => ?_⟩
        rw [owedWithNew, if_pos rfl, owes, awaits_active rfl]
        rfl
      rw [owedWithNew_other same, owes, awaits_other (Ne.symm same)]
      rcases isUsed with isFollowed | ⟨opened, isOpened, isId⟩
      · exact ⟨.inl (.inl isFollowed), fun _ => rfl⟩
      · cases isOpened
        exact absurd isId.symm same
    cases isOpened
    refine ⟨by rw [about.1]; exact about.2, params, control, none, ?_⟩
    rw [about.1]
    exact ⟨opens id rfl, holds.seen (List.mem_cons_self ..)⟩
  | error error =>
    refine .besides ?_
    refine .bind (auditAttempt_ledger attentive used _ _ _) fun audited => ?_
    refine .given fun accepted => ?_
    rw [accepted]
    refine .bind (ledger_framed.noteCursorError ledger_batches.notes error) fun _ => ?_
    refine .through (fun _ => Protocol guard followed) (spec_pure fun past world holds => ?_)
      fun _ => spec_fail le_rfl
    refine holds.unopened (fun other differs => ?_) distinct
    rw [recordedUnder, owedWithNew_other differs, beq_false_of_ne (Ne.symm differs)]
    rfl

/-- A ready session has no cursor, so it may send what it likes. -/
private theorem allowsApart_of_ready {own : PolicySession} {call : DriverCall}
    (ready : session.isReady)
    (same : own.retired = session.retired) (plain : call.isCursor = false) :
    AllowsApart (openCount session.cursor) own call := by
  refine ⟨plain, fun _ => ⟨?_, ?_⟩⟩
  · rw [ready.1]
    rfl
  · rw [same]
    exact ready.2

private theorem openQueryCursorControlled_protocol (attentive : guard.outside.Attentive)
    (knows : Knows guard session.cursor seen) :
    Leads (Owning (Starting guard base followed session.cursor seen) session)
      (Protocol guard followed)
      (openQueryCursorControlled guard sql params control) := by
  refine ledger_framed.openingCursor (fun past world holds => Starting.protocol holds knows)
    (fun ready _ _ => allowsApart_of_ready ready rfl rfl)
    fun audit named about ready readOnly single _ => ?_
  rw [ready.1]
  refine .bind newUuid_ledger fun id => ?_
  intro past world holds
  obtain ⟨drawn, ledger, distinct⟩ := holds
  rw [← named id] at ledger distinct
  exact openAuthorizedCursor_protocol attentive ready.2 (about id) distinct past world ledger

/-! ### Every operation of a session -/

private theorem spec_of_starting {run : InSession α} {post : α → Assertion PolicySession}
    (each : ∀ base seen, Knows guard session.cursor seen →
      Spec (Owning (Starting guard base followed session.cursor seen) session) run post fails
        stops) :
    Spec (Owning (Protocol guard followed) session) run post fails stops := by
  intro past world holds
  have owned := holds.2
  subst owned
  refine each world.step past (fun active isActive later grown => ?_) past world
    ⟨⟨holds.1.books, rfl, List.Subset.refl past⟩, rfl⟩
  obtain ⟨analysed, params, control, rows, opened, confirmed⟩ := holds.1.known active isActive
  exact ⟨analysed, params, control, rows, opened, grown confirmed⟩

/-- When a session is closed, its cursor is closed first. -/
theorem close_protocol (attentive : guard.outside.Attentive) :
    Spec (Owning (Protocol guard followed) session) (close guard)
      (fun _ past world => Protocol guard followed past world ∧ world.own.cursor = none)
      (fun _ past world => Protocol guard followed past world ∧ world.own.cursor = none)
      (Protocol guard followed) := by
  refine spec_own ?_
  refine .through (fun _ => Holding (Protocol guard followed) fun own => own.cursor = none) ?_
    fun cursorCleanup => ?_
  · refine .attemptAll ?_
    cases isCursor : session.cursor with
    | none =>
      refine spec_pure fun past world holds => ⟨holds.1, ?_⟩
      rw [holds.2]
      exact isCursor
    | some active =>
    refine spec_of_starting fun base seen knows => ?_
    refine .leaving (closeActiveCursor_protocol attentive knows
      (show cancelled ≠ .pending by decide))
      (fun _ _ _ holds => ⟨holds.1, holds.2 fun found isFound => ?_⟩) le_rfl
    rw [isCursor] at isFound
    cases isFound
    rfl
  refine spec_of_owning fun own closed => spec_own ?_
  refine spec_of_starting fun base seen knows => ?_
  rw [closed] at knows ⊢
  -- without a cursor the batch may be rolled back, and the session stays without one
  refine .weaken (.through (fun _ => Starting guard base followed none seen)
    (.attemptAll ?_) fun cleanup => (show Keeps (Starting guard base followed none seen) _ from
      ?_)) le_rfl (fun _ _ _ holds => ⟨holds.protocol knows, Ledger.cursor holds⟩)
    (fun _ _ _ holds => ⟨holds.protocol knows, Ledger.cursor holds⟩)
    fun _ _ holds => holds.protocol knows
  · split
    · refine (ledger_framed.closeBatch ledger_batches _ (ledger_framed.keepingBatch own.batch)
        fun own control _ active _ _ => ⟨rfl, fun _ => ⟨rfl, active⟩⟩).before
          fun past world holds => ⟨holds.1, by rw [holds.2]⟩
    · exact spec_pure and_le_left
  refine .bind (ledger_framed.caught (ledger_framed.dispatch fun _ world _ =>
    allowsApart_of_plain rfl rfl world.own)) fun closed => ?_
  exact .bind (keeps_ofExcept _) fun _ => .result (keeps_ofExcept _)

private theorem textAllowed_of_ready {inv : Assertion PolicySession} (ready : session.isReady)
    (extra : ExtraSets) :
    TextAllowed guard (booking guard base (openCount session.cursor)) inv
      { session with extra := extra } sql params control where
  counts := fun _ _ => allowsApart_of_ready ready rfl rfl
  statements := fun _ _ _ => forall_statementCalls (allowsApart_of_ready ready rfl rfl)
    (allowsApart_of_ready ready rfl rfl)
  begins := fun _ _ _ _ _ => allowsApart_of_ready ready rfl rfl
  finishes := fun _ _ _ _ _ => allowsApart_of_ready ready rfl rfl

/-- No page is asked for after the last page of the cursor. -/
def SessionOperation.Paces (session : PolicySession) : SessionOperation → Prop
  | .fetchQueryCursorPageControlled cursorId _ =>
    ∀ active, session.cursor = some active → active.id = cursorId → active.complete = false
  | _ => True

theorem run_protocol (attentive : guard.outside.Attentive) (operation : SessionOperation)
    (paces : operation.Paces session) :
    Lasts (Protocol guard followed) session (operation.run guard) := by
  have started : ∀ {β : Type} {run : InSession β}, (∀ base seen, Knows guard session.cursor seen →
      Leads (Owning (Starting guard base followed session.cursor seen) session)
        (Protocol guard followed) run) →
      Lasts (Protocol guard followed) session (discard run) := fun each =>
    Spec.map (spec_of_starting each)
  have leaving : ∀ {β : Type} {run : InSession β}, (∀ base seen,
      Lasts (Starting guard base followed session.cursor seen) session run) →
      Lasts (Protocol guard followed) session (discard run) := fun each =>
    started fun base seen knows =>
      Leads.weaken (each base seen) le_rfl fun _ _ holds => holds.protocol knows
  cases operation with
  | queryParamsControlled sql params control =>
    exact leaving fun base seen => ledger_framed.queryParamsControlled ledger_batches
      (fun ready => textAllowed_of_ready ready session.extra) fun _ _ _ _ _ _ _ _ => trivial
  | queryResultSetsParamsControlled sql params control =>
    exact leaving fun base seen => ledger_framed.queryResultSetsParamsControlled ledger_batches
      (fun extra ready => textAllowed_of_ready ready extra) fun _ _ _ _ _ _ _ _ => trivial
  | commitControlled control =>
    exact leaving fun base seen => ledger_framed.commitControlled ledger_batches
      fun ready _ _ => allowsApart_of_ready ready rfl rfl
  | openQueryCursorControlled sql params control =>
    exact started fun base seen knows => openQueryCursorControlled_protocol attentive knows
  | fetchQueryCursorPageControlled cursorId control =>
    exact started fun base seen knows => fetchPage_protocol attentive knows paces
  | closeQueryCursorControlled cursorId control =>
    exact started fun base seen knows => Spec.weaken
      (closeActiveCursor_protocol attentive knows
        (show cancelled ≠ .pending by decide))
      le_rfl (fun _ _ _ holds => holds.1) (fun _ _ _ holds => holds.1)
      le_rfl
  | lexicalSettingsControlled control =>
    exact leaving fun base seen => (ledger_framed.lexicalSettingsControlled
      fun own => allowsApart_of_plain rfl rfl own).besides
  | fetchCompletionColumnsControlled schema table control =>
    exact leaving fun base seen => (ledger_framed.fetchCompletionColumnsControlled schema
      table fun own => allowsApart_of_plain rfl rfl own).besides
  | close =>
    exact Spec.weaken (close_protocol attentive) le_rfl
      (fun _ _ _ holds => holds.1) (fun _ _ _ holds => holds.1) le_rfl

end Ledger

end Bookie.Guard
