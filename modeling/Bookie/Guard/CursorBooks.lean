/-
The books of query cursors: how many the driver has open, and how many terminal
records there are under each operation id. What a session owes a cursor is kept apart
from the session, so that the books stay valid while one is opened or closed.
-/

import Bookie.Guard.SessionFrame

namespace Bookie.Guard

open Bookie.Core Policy Async Async.Future PolicyGuard SessionFramed List

/-- The number of open cursors after one more event. A cursor is open until the driver
confirms that it was closed. -/
def cursorsAfter (isOpen : Nat) : GuardEvent → Nat
  | .dispatched (.openQueryCursor _ _ _) (.returned _) => isOpen + 1
  | .dispatched (.closeQueryCursor _ _) (.returned _) => isOpen - 1
  | _ => isOpen

def openCursors (past : List GuardEvent) : Nat := past.foldl cursorsAfter 0

private theorem openCursors_append (past : List GuardEvent) (event : GuardEvent) :
    openCursors (past ++ [event]) = cursorsAfter (openCursors past) event := by
  unfold openCursors
  rw [foldl_append]
  rfl

/-- Calls that carry a statement of the caller, and the guard's own counting queries. -/
def DriverCall.isStatement (call : DriverCall) : Bool := call.carries.isSome || call.isCount

def StatementsApart (past : List GuardEvent) : Prop :=
  ∀ (index : Nat) call reply, past[index]? = some (.dispatched call reply) →
    call.isStatement = true → openCursors (past.take index) = 0

theorem statementsApart_nil : StatementsApart [] := by
  intro index call reply found
  cases found

variable {past : List GuardEvent} {event : GuardEvent}

private theorem StatementsApart.append (apart : StatementsApart past) (last : ∀ call reply, event =
      .dispatched call reply → call.isStatement = true → openCursors past = 0) :
    StatementsApart (past ++ [event]) := by
  intro index call reply found isStatement
  by_cases earlier : index < past.length
  · rw [getElem?_append_left earlier] at found
    rw [take_append_of_le_length (Nat.le_of_lt earlier)]
    exact apart index call reply found isStatement
  rw [getElem?_append_right (by omega)] at found
  have atEnd : index = past.length := by
    by_contra other
    rw [getElem?_eq_none (by simp; omega)] at found
    cases found
  subst atEnd
  rw [Nat.sub_self] at found
  rw [take_left]
  exact last call reply (Option.some.inj found) isStatement

theorem StatementsApart.one_cursor (apart : StatementsApart past) (count : Nat) :
    openCursors (past.take count) ≤ 1 := by
  induction count with
  | zero => exact Nat.zero_le 1
  | succ count ih =>
    by_cases inside : count < past.length
    · rw [take_succ_eq_append_getElem inside, openCursors_append]
      have found : past[count]? = some past[count] := getElem?_eq_getElem inside
      unfold cursorsAfter
      split
      · rename_i same
        rw [same] at found
        rw [apart count _ _ found rfl]
      · omega
      · exact ih
    · rw [take_of_length_le (by omega)] at ih ⊢
      exact ih

def isTerminal (id : Uuid) : GuardEvent → Bool
  | .recorded event _ => event.operationId == id && event.terminalStatus != .pending
  | _ => false

def terminals (id : Uuid) (past : List GuardEvent) : Nat := past.countP (isTerminal id)

private theorem terminals_append (id : Uuid) (past : List GuardEvent) (event : GuardEvent) :
    terminals id (past ++ [event]) = terminals id past + if isTerminal id event then 1 else 0 := by
  unfold terminals
  rw [countP_append, countP_singleton]

private theorem terminals_other {id : Uuid} (other : isTerminal id event = false) :
    terminals id (past ++ [event]) = terminals id past := by
  rw [terminals_append, other]
  rfl

def Drawn (guard : PolicyGuard) (limit : Nat) (id : Uuid) : Prop :=
  ∃ step, step < limit ∧ id = guard.outside.newUuid step

theorem Drawn.later {guard : PolicyGuard} {limit later : Nat} {id : Uuid}
    (drawn : Drawn guard limit id) (le : limit ≤ later) : Drawn guard later id := by
  obtain ⟨step, before, same⟩ := drawn
  exact ⟨step, by omega, same⟩

/-- No id was drawn twice before this question. -/
def FreshUntil (guard : PolicyGuard) (limit : Nat) : Prop :=
  ∀ first second, first < limit → second < limit →
    guard.outside.newUuid first = guard.outside.newUuid second → first = second

theorem FreshUntil.earlier {guard : PolicyGuard} {limit earlier : Nat}
    (fresh : FreshUntil guard limit) (le : earlier ≤ limit) : FreshUntil guard earlier :=
  fun first second isFirst isSecond => fresh first second (by omega) (by omega)

/-- The ids an operation that starts at this question draws for itself. -/
def DrawnSince (guard : PolicyGuard) (base step : Nat) (id : Uuid) : Prop :=
  ∃ drawn, base ≤ drawn ∧ drawn < step ∧ id = guard.outside.newUuid drawn

/-- What the history says at some point of an operation that started at question `base`:
how many cursors are open, unless the session is retired, and how many terminal records
there are under the ids that were in use then, if no id was drawn twice. -/
structure Books (guard : PolicyGuard) (base : Nat) (ids : Uuid → Prop) (owed : Uuid → Nat)
    (isOpen : Nat) (past : List GuardEvent) (world : World PolicySession) : Prop where
  reached : base ≤ world.step
  apart : StatementsApart past
  counted : openCursors past = isOpen ∨ world.own.retired = true
  drawn : ∀ event reply, .recorded event reply ∈ past → Drawn guard world.step event.operationId
  settled : ∀ id, ids id →
    Drawn guard base id ∧ (FreshUntil guard world.step → terminals id past = owed id)

def DriverCall.isCursor : DriverCall → Bool
  | .openQueryCursor _ _ _ | .closeQueryCursor _ _ => true
  | _ => false

def AllowsApart (isOpen : Nat) (own : PolicySession) (call : DriverCall) : Prop :=
  call.isCursor = false ∧ (call.isStatement = true → isOpen = 0 ∧ own.retired = false)

section Books

variable {guard : PolicyGuard} {base : Nat} {ids : Uuid → Prop} {owed : Uuid → Nat} {isOpen : Nat}
  {past : List GuardEvent} {world : World PolicySession}

variable (books : Books guard base ids owed isOpen past world)
include books

private theorem Books.other (unrecorded : ∀ record reply, event ≠ .recorded record reply)
    (unsent : ∀ call reply, event ≠ .dispatched call reply) :
    Books guard base ids owed isOpen (past ++ [event]) world where
  reached := books.reached
  apart := books.apart.append fun call reply sent => absurd sent (unsent call reply)
  counted := by
    rw [openCursors_append]
    have same : cursorsAfter (openCursors past) event = openCursors past := by
      cases event with
      | dispatched call reply => exact absurd rfl (unsent call reply)
      | _ => rfl
    rw [same]
    exact books.counted
  drawn := by
    intro record reply found
    rcases mem_append.mp found with earlier | last
    · exact books.drawn record reply earlier
    · exact absurd (mem_singleton.mp last).symm (unrecorded record reply)
  settled := by
    intro id used
    refine ⟨(books.settled id used).1, ?_⟩
    rw [terminals_other]
    · exact (books.settled id used).2
    · cases event with
      | recorded record reply => exact absurd rfl (unrecorded record reply)
      | _ => rfl

theorem Books.record {event : AuditEvent} {reply : SinkReply}
    (named : Drawn guard world.step event.operationId) :
    Books guard base ids
      (fun id => owed id + if isTerminal id (.recorded event reply) then 1 else 0)
      isOpen (past ++ [.recorded event reply]) world where
  reached := books.reached
  apart := books.apart.append fun _ _ => nofun
  counted := by
    rw [openCursors_append]
    exact books.counted
  drawn := by
    intro record answer found
    rcases mem_append.mp found with earlier | last
    · exact books.drawn record answer earlier
    · cases mem_singleton.mp last
      exact named
  settled := by
    intro id used
    refine ⟨(books.settled id used).1, ?_⟩
    intro fresh
    rw [terminals_append, (books.settled id used).2 fresh]

theorem Books.call {call : DriverCall} {reply : DriverReply (Option Nat)} {isOpenAfter : Nat}
    (apart : call.isStatement = true → isOpen = 0 ∧ world.own.retired = false)
    (after : cursorsAfter isOpen (.dispatched call reply) = isOpenAfter) :
    Books guard base ids owed isOpenAfter (past ++ [.dispatched call reply]) world where
  reached := books.reached
  apart := books.apart.append fun sent answer same isStatement => by
    cases same
    obtain ⟨none, active⟩ := apart isStatement
    rcases books.counted with counted | retired
    · exact counted.trans none
    · rw [active] at retired
      cases retired
  counted := by
    rw [openCursors_append]
    rcases books.counted with counted | retired
    · rw [counted]
      exact .inl after
    · exact .inr retired
  drawn := by
    intro record answer found
    rcases mem_append.mp found with earlier | last
    · exact books.drawn record answer earlier
    · cases mem_singleton.mp last
  settled := by
    intro id used
    refine ⟨(books.settled id used).1, ?_⟩
    rw [terminals_other rfl]
    exact (books.settled id used).2

theorem Books.own {own : PolicySession} (retired : world.own.retired = true → own.retired = true) :
    Books guard base ids owed isOpen past { world with own := own } where
  reached := books.reached
  apart := books.apart
  counted := by
    rcases books.counted with counted | isRetired
    · exact .inl counted
    · exact .inr (retired isRetired)
  drawn := books.drawn
  settled := books.settled

omit books

private theorem cursorsAfter_other {call : DriverCall} (other : call.isCursor = false)
    (reply : DriverReply (Option Nat)) : cursorsAfter isOpen (.dispatched call reply) = isOpen := by
  unfold cursorsAfter
  split
  · rename_i same
    cases same
    cases other
  · rename_i same
    cases same
    cases other
  · rfl

/-- Calls apart from the cursors, and records under the ids drawn since. -/
def booking (guard : PolicyGuard) (base isOpen : Nat) : Terms PolicySession :=
  { Terms.lenient (AllowsApart isOpen) with writes := DrawnSince guard base }

/-- The books under the ids an operation draws itself. The ids in use when it started are
others, if no id is drawn twice. -/
theorem books_framed (guard : PolicyGuard) (base : Nat) (ids : Uuid → Prop) (owed : Uuid → Nat)
    (isOpen : Nat) :
    SessionFramed guard (booking guard base isOpen) (Books guard base ids owed isOpen) where
  grows := fun past world audit step _ later books =>
    { reached := Nat.le_trans books.reached later
      apart := books.apart
      counted := books.counted
      drawn := fun event reply found => (books.drawn event reply found).later later
      settled := fun id used => ⟨(books.settled id used).1, fun fresh =>
        (books.settled id used).2 (fresh.earlier later)⟩ }
  stays := by
    intro id step later le drawn
    obtain ⟨first, since, before, same⟩ := drawn
    exact ⟨first, since, by omega, same⟩
  names := fun _ world books => ⟨world.step, books.reached, Nat.lt_succ_self _, rfl⟩
  recorded := by
    intro past world event reply named _ _ books
    obtain ⟨drawn, since, before, same⟩ := named
    have added : Books guard base ids _ isOpen (past ++ [.recorded event reply]) world :=
      books.record ⟨drawn, before, same⟩
    refine { added with settled := fun id used => ⟨(added.settled id used).1, fun fresh => ?_⟩ }
    obtain ⟨⟨earlier, old, isId⟩, _⟩ := books.settled id used
    have other : isTerminal id (.recorded event reply) = false := by
      have differs : event.operationId ≠ id := by
        intro equal
        have steps : drawn = earlier :=
          fresh drawn earlier before (by have := books.reached; omega) (by rw [← same, equal, isId])
        omega
      change (event.operationId == id && _) = false
      rw [beq_false_of_ne differs, Bool.false_and]
    rw [terminals_other other]
    exact (books.settled id used).2 fresh
  asked := fun _ _ _ _ books => books.other (fun _ _ => nofun) fun _ _ => nofun
  faulted := fun _ _ _ books => books.other (fun _ _ => nofun) fun _ _ => nofun
  called := fun _ _ _ reply allowed _ books =>
    books.call allowed.2 (cursorsAfter_other allowed.1 reply)
  locks := fun _ _ => trivial
  retires := fun _ _ books => books.own fun _ => rfl
  collects := fun _ _ _ books => books.own fun retired => retired

theorem books_batches (guard : PolicyGuard) (base : Nat) (ids : Uuid → Prop) (owed : Uuid → Nat)
    (isOpen : Nat) : Batches (Books guard base ids owed isOpen) :=
  fun _ _ _ books => books.own fun retired => retired

end Books

end Bookie.Guard
