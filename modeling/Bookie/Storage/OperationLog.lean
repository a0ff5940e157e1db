/-
The journal as a log of events. `pending` holds the intents not yet closed,
`unresolved` the operations whose latest outcome is an unknown write. The admission
rule keeps the write scopes of the pending intents apart.
-/

import Bookie.Storage.JournalState

namespace Bookie.Storage

open Policy List JournalState

/-- The state after `events`; the tail is left where it was. -/
def operationState (state : JournalState) (events : List AuditEvent) : JournalState :=
  events.foldl trackOperationState state

variable (state : JournalState)

variable (events : List AuditEvent)

theorem operationState_snoc (event : AuditEvent) :
    operationState state (events ++ [event]) =
      trackOperationState (operationState state events) event :=
  foldl_append

theorem operationState_withTail (tail : JournalTail) (events : List AuditEvent) :
    operationState (state.withTail tail) events =
      (operationState state events).withTail tail := by
  induction events generalizing state with
  | nil => rfl
  | cons event events ih =>
    rw [operationState, foldl_cons, trackOperationState_withTail]
    exact ih (trackOperationState state event)

/-! ### The records of one operation -/

def lastRecord (id : Uuid) : Option AuditEvent :=
  events.reverse.find? fun event => event.operationId == id

def latestOutcome (id : Uuid) : Option AuditEvent :=
  events.reverse.find? fun event => event.operationId == id && event.phase == .outcome

variable (events : List AuditEvent)

private theorem lastRecord_snoc (event : AuditEvent) (id : Uuid) :
    lastRecord (events ++ [event]) id =
      if event.operationId = id then some event else lastRecord events id := by
  simp only [lastRecord]
  split <;> simp_all

private theorem latestOutcome_snoc (event : AuditEvent) (id : Uuid) :
    latestOutcome (events ++ [event]) id =
      if event.phase = .outcome ∧ event.operationId = id then some event
      else latestOutcome events id := by
  simp only [latestOutcome, reverse_append, reverse_singleton, singleton_append, find?_cons]
  by_cases here : event.phase = .outcome ∧ event.operationId = id
  · simp [here]
  rw [if_neg here]
  have skipped : (event.operationId == id && event.phase == .outcome) = false := by
    simp only [Bool.and_eq_false_iff, beq_eq_false_iff_ne]
    tauto
  rw [skipped]

def isUnknownWrite (event : AuditEvent) : Bool :=
  event.operationClass.isWrite && event.terminalStatus == .unknown

private theorem unresolved_operationState (id : Uuid) :
    (operationState genesis events).unresolved[id]? =
      (latestOutcome events id).bind fun outcome =>
        if isUnknownWrite outcome then some outcome.connectionId else none := by
  induction events using reverseRecOn with
  | nil => simp [genesis, latestOutcome, operationState]
  | append_singleton events event ih =>
    rw [operationState_snoc, unresolved_trackOperationState, latestOutcome_snoc, ih]
    split <;> rfl

private theorem pending_of_lastRecord (id : Uuid) (event : AuditEvent)
    (last : lastRecord events id = some event) (opened : event.phase = .intent) :
    (operationState genesis events).pending[id]? = some event := by
  induction events using reverseRecOn with
  | nil => simp [lastRecord] at last
  | append_singleton events added ih =>
    rw [operationState_snoc, pending_trackOperationState]
    rw [lastRecord_snoc] at last
    split at last
    case isTrue same =>
      cases last
      simp [same, opened]
    case isFalse different =>
      rw [if_neg different]
      exact ih last

/-- A write left open: its last record is an intent, or its latest outcome is unknown. -/
def OpenWrite (id : Uuid) : Prop :=
  (∃ intent, lastRecord events id = some intent ∧ intent.phase = .intent ∧
    intent.operationClass.isWrite = true) ∨
  ∃ outcome, latestOutcome events id = some outcome ∧ isUnknownWrite outcome = true

theorem unresolved_isSome_iff (id : Uuid) (closed : (operationState genesis events).pending = ∅) :
    (operationState genesis events).unresolved[id]?.isSome = true ↔
      OpenWrite events id := by
  rw [unresolved_operationState]
  constructor
  · intro found
    cases latest : latestOutcome events id with
    | none => simp [latest] at found
    | some outcome =>
      refine .inr ⟨outcome, latest, ?_⟩
      by_contra known
      simp [latest, known] at found
  rintro (⟨intent, last, opened, _⟩ | ⟨outcome, latest, unknown⟩)
  · have pending := pending_of_lastRecord events id intent last opened
    simp [closed] at pending
  · simp [latest, unknown]

/-! ### Pending intents -/

/-- The pending map is keyed by the operation ids of the intents it holds. -/
def Keyed (state : JournalState) : Prop :=
  ∀ (id : Uuid) (intent : AuditEvent), state.pending[id]? = some intent →
    intent.operationId = id ∧ intent.phase = .intent

private theorem keyed_genesis : Keyed genesis := by
  intro id intent found
  simp [genesis] at found

private theorem Keyed.track {state : JournalState} (keyed : Keyed state) (event : AuditEvent) :
    Keyed (trackOperationState state event) := by
  intro id intent found
  rw [pending_trackOperationState] at found
  split at found
  case isTrue same =>
    cases phase : event.phase with
    | intent =>
      simp only [phase, Option.some.injEq] at found
      exact found ▸ ⟨same, phase⟩
    | outcome =>
    simp only [phase] at found
    split at found
    · cases found
    · exact keyed id intent found
  case isFalse => exact keyed id intent found

theorem keyed_operationState : Keyed (operationState genesis events) := by
  induction events using reverseRecOn with
  | nil => exact keyed_genesis
  | append_singleton events event ih =>
    rw [operationState_snoc]
    exact ih.track event

/-! ### Exclusion -/

/-- Of the pending intents that claim a write scope, no two overlap. -/
def ExclusiveWrites (state : JournalState) : Prop :=
  ∀ (first second : Uuid) (left right : AuditEvent), state.pending[first]? = some left →
    state.pending[second]? = some right → claimsWriteScope left = true →
      claimsWriteScope right = true →
        writeScopeBlocks left.connectionId right.connectionId = true → first = second

private theorem exclusiveWrites_genesis : ExclusiveWrites genesis := by
  intro first second left right found
  simp [genesis] at found

/-- The step: a tracked event changes one key, and an admitted write intent
overlaps nothing that stays. -/
private theorem ExclusiveWrites.track {state : JournalState} (exclusive : ExclusiveWrites state)
    {event : AuditEvent} (admitted : rejectNewWriteIntent event state = .ok ()) :
    ExclusiveWrites (trackOperationState state event) := by
  have free := (rejectNewWriteIntent_eq_ok_iff event state).mp admitted
  have origin : ∀ (id : Uuid) (intent : AuditEvent),
      (trackOperationState state event).pending[id]? = some intent →
        state.pending[id]? = some intent ∨ event.operationId = id ∧ intent = event := by
    intro id intent found
    rw [pending_trackOperationState] at found
    split at found
    case isTrue same =>
      cases phase : event.phase with
      | intent => simp [phase] at found; exact .inr ⟨same, found.symm⟩
      | outcome => simp only [phase] at found; split at found <;> simp_all
    case isFalse => exact .inl found
  have write : ∀ intent : AuditEvent, claimsWriteScope intent = true →
      intent.operationClass.isWrite = true := by
    intro intent claims
    simp only [claimsWriteScope, Bool.and_eq_true] at claims
    exact claims.1.2
  intro first second left right foundLeft foundRight claimsLeft claimsRight overlap
  rcases origin first left foundLeft with oldLeft | ⟨sameLeft, rfl⟩ <;>
    rcases origin second right foundRight with oldRight | ⟨sameRight, rfl⟩
  · exact exclusive first second left right oldLeft oldRight claimsLeft claimsRight overlap
  · have apart := (free claimsRight).pending first left oldLeft (write left claimsLeft)
    rw [writeScopeBlocks_comm, apart] at overlap
    cases overlap
  · have apart := (free claimsLeft).pending second right oldRight (write right claimsRight)
    rw [apart] at overlap
    cases overlap
  · exact sameLeft.symm.trans sameRight

/-- A log every event of which was admitted in the state before it. -/
inductive Admitted : List AuditEvent → Prop
  | nil : Admitted []
  | snoc {log : List AuditEvent} {event : AuditEvent} (before : Admitted log)
      (admitted : rejectNewWriteIntent event (operationState genesis log) = .ok ()) :
      Admitted (log ++ [event])

theorem Admitted.exclusive {log : List AuditEvent} (admitted : Admitted log) :
    ExclusiveWrites (operationState genesis log) := by
  induction admitted with
  | nil => exact exclusiveWrites_genesis
  | snoc before admission ih =>
    rw [operationState_snoc]
    exact ih.track admission

end Bookie.Storage
