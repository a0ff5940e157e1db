/-
The state a journal scan carries: the chain tail, the intents still pending and the
operations whose outcome is unresolved, with the admission rule for write intents.
-/

import Mathlib.Data.List.Destutter
import Bookie.Policy.AuditEvent

namespace Bookie.Storage

open Text Policy

/-- The failures of the journal. A `serde_json` or I/O error is kept as its text. -/
inductive StorageError where
  | io (detail : String)
  | serde (detail : String)
  | schema (detail : String)
  | unresolvedWrite
  | writeInFlight
  deriving DecidableEq, Repr

/-- `HashMap<Uuid, _>`. Equality of these maps is equality of their lookups, and
the only iterations of the source either sort by key or ask for `any`. -/
instance : Std.TransCmp (compare : Uuid → Uuid → Ordering) := inferInstance

abbrev UuidMap (β : Type) := Std.ExtTreeMap Uuid β

def genesisHash : Bytes := List.replicate 64 48

structure JournalTail where
  seq : Nat
  hash : Bytes
  deriving DecidableEq, Repr

structure JournalState where
  tail : JournalTail
  pending : UuidMap AuditEvent
  unresolved : UuidMap Uuid

def JournalState.genesis : JournalState :=
  { tail := { seq := 0, hash := genesisHash }
    pending := ∅
    unresolved := ∅ }

def JournalState.withTail (state : JournalState) (tail : JournalTail) : JournalState :=
  { state with tail := tail }

/-! ### Operation state -/

def trackOperationState (state : JournalState) (event : AuditEvent) : JournalState :=
  match event.phase with
  | .intent => { state with pending := state.pending.insert event.operationId event }
  | .outcome =>
    { state with
      pending :=
        if event.terminalStatus ≠ .pending then state.pending.erase event.operationId
        else state.pending
      unresolved :=
        if event.operationClass.isWrite && event.terminalStatus == .unknown then
          state.unresolved.insert event.operationId event.connectionId
        else state.unresolved.erase event.operationId }

variable (state : JournalState) (event : AuditEvent)

@[simp] theorem trackOperationState_tail : (trackOperationState state event).tail = state.tail := by
  unfold trackOperationState
  split <;> rfl

theorem trackOperationState_withTail (tail : JournalTail) (event : AuditEvent) :
    trackOperationState (state.withTail tail) event =
      (trackOperationState state event).withTail tail := by
  unfold trackOperationState
  split <;> rfl

theorem pending_trackOperationState (id : Uuid) :
    (trackOperationState state event).pending[id]? =
      if event.operationId = id then
        match event.phase with
        | .intent => some event
        | .outcome => if event.terminalStatus ≠ .pending then none else state.pending[id]?
      else state.pending[id]? := by
  unfold trackOperationState
  cases event.phase with
  | intent => simp [Std.ExtTreeMap.getElem?_insert]
  | outcome =>
    by_cases progress : event.terminalStatus = .pending
    · simp [progress]
    · simp [progress, Std.ExtTreeMap.getElem?_erase]

theorem unresolved_trackOperationState (id : Uuid) :
    (trackOperationState state event).unresolved[id]? =
      if event.phase = .outcome ∧ event.operationId = id then
        if event.operationClass.isWrite && event.terminalStatus == .unknown then
          some event.connectionId
        else none
      else state.unresolved[id]? := by
  unfold trackOperationState
  cases event.phase with
  | intent => simp
  | outcome =>
  by_cases unknown : (event.operationClass.isWrite && event.terminalStatus == .unknown) = true
  · simp only [unknown]
    simp [Std.ExtTreeMap.getElem?_insert]
  · simp only [unknown]
    simp [Std.ExtTreeMap.getElem?_erase]

/-! ### Admission of a write intent -/

def writeScopeBlocks (requestConnectionId blockingConnectionId : Uuid) : Bool :=
  requestConnectionId.isNil || blockingConnectionId.isNil ||
    requestConnectionId == blockingConnectionId

theorem writeScopeBlocks_comm (left right : Uuid) :
    writeScopeBlocks left right = writeScopeBlocks right left := by
  unfold writeScopeBlocks
  rw [Bool.or_comm left.isNil, BEq.comm]

/-- The intents the admission rule is about. -/
def claimsWriteScope (event : AuditEvent) : Bool :=
  event.phase == .intent && event.operationClass.isWrite &&
    event.operationClass != .transactionRollback

def UuidMap.values {β : Type} (map : UuidMap β) : List β := map.toList.map Prod.snd

theorem UuidMap.mem_values {β : Type} (map : UuidMap β) (value : β) :
    value ∈ map.values ↔ ∃ id : Uuid, map[id]? = some value := by
  simp [UuidMap.values]

/-- Both refusals are computed before either is reported; the unresolved one wins. -/
def rejectNewWriteIntent (event : AuditEvent) (state : JournalState) : Except StorageError Unit :=
  if event.phase ≠ .intent || !event.operationClass.isWrite ||
      event.operationClass = .transactionRollback then .ok ()
  else
    let blockedByPendingWrite := state.pending.values.any fun intent =>
      intent.operationClass.isWrite && writeScopeBlocks event.connectionId intent.connectionId
    let blockedByUnresolvedWrite := state.unresolved.values.any fun connectionId =>
      writeScopeBlocks event.connectionId connectionId
    if blockedByUnresolvedWrite then .error .unresolvedWrite
    else if blockedByPendingWrite then .error .writeInFlight
    else .ok ()

/-- No operation in the two maps has a scope that overlaps the one of `connectionId`. -/
structure ScopeFree (state : JournalState) (connectionId : Uuid) : Prop where
  unresolved : ∀ id blocking : Uuid, state.unresolved[id]? = some blocking →
    writeScopeBlocks connectionId blocking = false
  pending : ∀ (id : Uuid) (intent : AuditEvent), state.pending[id]? = some intent →
    intent.operationClass.isWrite = true → writeScopeBlocks connectionId intent.connectionId = false

theorem rejectNewWriteIntent_eq_ok_iff (state : JournalState) :
    rejectNewWriteIntent event state = .ok () ↔
      (claimsWriteScope event = true → ScopeFree state event.connectionId) := by
  unfold rejectNewWriteIntent claimsWriteScope
  by_cases exempt : (event.phase ≠ .intent || !event.operationClass.isWrite ||
      event.operationClass = .transactionRollback) = true
  · rw [if_pos exempt]
    simp only [true_iff]
    grind
  rw [if_neg exempt]
  have claims : (event.phase == .intent && event.operationClass.isWrite &&
      event.operationClass != .transactionRollback) = true := by
    grind
  simp only [claims, forall_true_left]
  constructor
  · intro admitted
    split at admitted
    · cases admitted
    split at admitted
    · cases admitted
    rename_i noUnresolved noPending
    simp only [List.any_eq_true, UuidMap.mem_values, not_exists, not_and] at noUnresolved noPending
    exact
      { unresolved := fun id blocking found => by
          simpa using noUnresolved blocking ⟨id, found⟩
        pending := fun id intent found write => by
          simpa [write] using noPending intent ⟨id, found⟩ }
  intro free
  rw [if_neg, if_neg]
  · simp only [List.any_eq_true, UuidMap.mem_values, not_exists, not_and]
    rintro intent ⟨id, found⟩ blocked
    simp only [Bool.and_eq_true] at blocked
    simp [free.pending id intent found blocked.1] at blocked
  · simp only [List.any_eq_true, UuidMap.mem_values, not_exists, not_and]
    rintro blocking ⟨id, found⟩
    simp [free.unresolved id blocking found]

end Bookie.Storage
