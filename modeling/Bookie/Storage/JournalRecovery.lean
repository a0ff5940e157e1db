/-
Crash recovery. `initialize` with the exclusive lease closes every pending intent
with an unknown outcome. The records it appends and the map it keeps in memory agree
exactly when no pending read reuses the id of an unresolved operation.
-/

import Bookie.Storage.JournalJson
import Bookie.Storage.JournalReplay

namespace Bookie.Storage

open Std Text Policy List JournalState

/-! ### The pending intents as a list -/

@[simp] theorem verifiedJournal_tail (state : JournalState) :
    (verifiedJournal state).tail = state.tail := rfl

@[simp] theorem verifiedJournal_unresolved (state : JournalState) :
    (verifiedJournal state).unresolvedOperationConnections = state.unresolved := rfl

variable {state : JournalState}

private theorem mem_pendingIntents (keyed : Keyed state) (intent : AuditEvent) :
    intent ∈ (verifiedJournal state).pendingIntents ↔
      state.pending[intent.operationId]? = some intent := by
  rw [verifiedJournal, (mergeSort_perm _ _).mem_iff, UuidMap.mem_values]
  constructor
  · rintro ⟨id, found⟩
    rw [(keyed id intent found).1]
    exact found
  · intro found
    exact ⟨_, found⟩

private theorem ofList_of_perm_toList {β : Type} (map : UuidMap β) {pairs : List (Uuid × β)}
    (perm : pairs.Perm map.toList) : ExtTreeMap.ofList pairs compare = map := by
  have distinct := perm.symm.pairwise ExtTreeMap.distinct_keys_toList
    (fun different same => different (Std.OrientedCmp.eq_symm same))
  refine ExtTreeMap.ext_getElem? fun id => ?_
  cases found : map[id]? with
  | some value =>
    refine ExtTreeMap.getElem?_ofList_of_mem ReflCmp.compare_self distinct
      (perm.mem_iff.mpr ?_)
    exact ExtTreeMap.mem_toList_iff_getElem?_eq_some.mpr found
  | none =>
  refine ExtTreeMap.getElem?_ofList_of_contains_eq_false ?_
  rw [contains_eq_mem, decide_eq_false_iff_not, mem_map]
  rintro ⟨⟨key, value⟩, member, rfl⟩
  have present := ExtTreeMap.mem_toList_iff_getElem?_eq_some.mp (perm.mem_iff.mp member)
  rw [found] at present
  cases present

/-- Writing the pending map out and collecting it again changes nothing. -/
theorem fromVerified_verifiedJournal (keyed : Keyed state) :
    fromVerified (verifiedJournal state) = state := by
  have pairs : (state.pending.values.map fun event => (event.operationId, event)) =
      state.pending.toList := by
    rw [UuidMap.values, map_map]
    conv_rhs => rw [← map_id state.pending.toList]
    refine map_congr_left fun pair member => ?_
    have found := ExtTreeMap.mem_toList_iff_getElem?_eq_some.mp member
    exact Prod.ext (keyed _ _ found).1 rfl
  have collected := ofList_of_perm_toList state.pending
    (pairs ▸ (mergeSort_perm state.pending.values
      fun left right => left.operationId.toNat ≤ right.operationId.toNat).map _)
  rw [fromVerified, verifiedJournal, collected]

/-! ### What the loop does -/

def recoveryEvents (clock : Uuid → Timestamp) (intents : List AuditEvent) : List AuditEvent :=
  intents.map fun intent => recoveryOutcome (clock intent.operationId) intent

def rememberWrites (unresolved : UuidMap Uuid) (intents : List AuditEvent) : UuidMap Uuid :=
  intents.foldl (fun kept intent =>
    if intent.operationClass.isWrite then kept.insert intent.operationId intent.connectionId
    else kept) unresolved

def sequenceRoom (tail : JournalTail) : Nat := u64Bound - 1 - tail.seq

/-- With room for the sequence numbers the loop succeeds. It extends the journal by
the recovery records; its map is the remembered one. -/
private theorem recoverPendingIntents_spec {wire : JournalWire} (laws : wire.Laws)
    (clock : Uuid → Timestamp) (intents : List AuditEvent) {file : Bytes}
    (valid : Replays wire file state) (unresolved : UuidMap Uuid)
    (room : intents.length ≤ sequenceRoom state.tail) :
    ∃ recovered added, recoverPendingIntents wire clock intents state.tail unresolved file =
        (.ok (recovered.tail, rememberWrites unresolved intents), file ++ added) ∧
      Replays wire (file ++ added) recovered ∧
      recovered = (operationState state (recoveryEvents clock intents)).withTail recovered.tail ∧
      fileEvents wire (file ++ added) = fileEvents wire file ++ recoveryEvents clock intents := by
  induction intents generalizing file state unresolved with
  | nil => exact ⟨state, [], by simp [recoverPendingIntents, rememberWrites],
      by simpa using valid, rfl,
      by simp [recoveryEvents]⟩
  | cons intent intents ih =>
    rw [length_cons, sequenceRoom] at room
    obtain ⟨tail, line, next, seq⟩ := nextLine_of_room wire state.tail
      (recoveryOutcome (clock intent.operationId) intent) (by omega)
    have grown := valid.append laws next
    obtain ⟨recovered, added, loop, replays, folded, events⟩ := ih grown
      (if intent.operationClass.isWrite then
        unresolved.insert intent.operationId intent.connectionId else unresolved)
      (by rw [advance_tail, sequenceRoom]; omega)
    refine ⟨recovered, line ++ added, ?_, by rw [← append_assoc]; exact replays, ?_, ?_⟩
    · rw [recoverPendingIntents, appendToFile_eq_ok_iff.mpr ⟨line, next, rfl⟩, ← append_assoc]
      exact loop
    · rw [advance, operationState_withTail] at folded
      exact folded
    · rw [← append_assoc, events, fileEvents_append laws valid.ends next]
      simp [recoveryEvents]

variable {intents : List AuditEvent}

private theorem room_of_recoverPendingIntents {wire : JournalWire} {clock : Uuid → Timestamp}
    {tail : JournalTail} {unresolved : UuidMap Uuid} {file : Bytes}
    {result : JournalTail × UuidMap Uuid}
    (succeeded : (recoverPendingIntents wire clock intents tail unresolved file).1 = .ok result) :
    intents.length ≤ sequenceRoom tail := by
  induction intents generalizing tail unresolved file with
  | nil => exact Nat.zero_le _
  | cons intent intents ih =>
    by_cases room : tail.seq + 1 < u64Bound
    · obtain ⟨next, line, writing, seq⟩ := nextLine_of_room wire tail
        (recoveryOutcome (clock intent.operationId) intent) room
      rw [recoverPendingIntents, appendToFile_eq_ok_iff.mpr ⟨line, writing, rfl⟩] at succeeded
      have rest := ih succeeded
      rw [sequenceRoom] at rest
      rw [length_cons, sequenceRoom]
      omega
    · simp [recoverPendingIntents, appendToFile, nextLine, nextRecord, nextSeq, room] at succeeded

/-! ### The two accounts compared -/

/-- A read is pending under the id of an operation that is already unresolved. -/
def StaleRead (state : JournalState) : Prop :=
  ∃ (id : Uuid) (intent : AuditEvent), state.pending[id]? = some intent ∧
    intent.operationClass.isWrite = false ∧ state.unresolved[id]?.isSome = true

section

variable (clock : Uuid → Timestamp)

private theorem pending_recovered (state : JournalState) (intents : List AuditEvent) (id : Uuid) :
    (operationState state (recoveryEvents clock intents)).pending[id]? =
      if id ∈ intents.map AuditEvent.operationId then none else state.pending[id]? := by
  induction intents generalizing state with
  | nil => rfl
  | cons intent intents ih =>
    rw [recoveryEvents, map_cons, ← recoveryEvents, operationState, foldl_cons,
      ← operationState, ih, pending_trackOperationState]
    by_cases here : intent.operationId = id
    · simp [recoveryOutcome, here]
    · simp [recoveryOutcome, here, Ne.symm here]

def closing (intents : List AuditEvent) (id : Uuid) : Option AuditEvent :=
  intents.find? fun intent => intent.operationId == id

def OnePerId (intents : List AuditEvent) : Prop :=
  ∀ first ∈ intents, ∀ second ∈ intents, first.operationId = second.operationId → first = second

variable {intents : List AuditEvent}

private theorem closing_cons {intent : AuditEvent} (unique : OnePerId (intent :: intents))
    (id : Uuid) :
    closing (intent :: intents) id = (closing intents id).or
      (if intent.operationId = id then some intent else none) := by
  by_cases here : intent.operationId = id
  · cases later : closing intents id with
    | none => simp [closing, here]
    | some other =>
    have member := mem_of_find?_eq_some later
    have same : other.operationId = id := by simpa using find?_some later
    rw [unique intent mem_cons_self other (mem_cons_of_mem _ member)
      (here.trans same.symm)]
    simp [closing, same]
  · simp [closing, here]

private theorem OnePerId.tail {intent : AuditEvent} (unique : OnePerId (intent :: intents)) :
    OnePerId intents :=
  fun first firstMember second secondMember =>
    unique first (mem_cons_of_mem _ firstMember) second (mem_cons_of_mem _ secondMember)

/-- The records decide every closed id: a write becomes unresolved, a read is cleared. -/
private theorem unresolved_recovered (unique : OnePerId intents) (state : JournalState)
    (id : Uuid) : (operationState state (recoveryEvents clock intents)).unresolved[id]? =
      match closing intents id with
      | some intent => if intent.operationClass.isWrite then some intent.connectionId else none
      | none => state.unresolved[id]? := by
  induction intents generalizing state with
  | nil => rfl
  | cons intent intents ih =>
    rw [recoveryEvents, map_cons, ← recoveryEvents, operationState, foldl_cons,
      ← operationState, ih unique.tail, unresolved_trackOperationState, closing_cons unique]
    cases closing intents id with
    | some later => rfl
    | none =>
      by_cases here : intent.operationId = id
      · simp [recoveryOutcome, here]
      · simp [recoveryOutcome, here]

private theorem getElem?_rememberWrites (unique : OnePerId intents) (unresolved : UuidMap Uuid)
    (id : Uuid) :
    (rememberWrites unresolved intents)[id]? =
      match closing intents id with
      | some intent =>
        if intent.operationClass.isWrite then some intent.connectionId else unresolved[id]?
      | none => unresolved[id]? := by
  induction intents generalizing unresolved with
  | nil => rfl
  | cons intent intents ih =>
    rw [rememberWrites, foldl_cons, ← rememberWrites, ih unique.tail, closing_cons unique]
    cases found : closing intents id with
    | some later =>
      by_cases here : intent.operationId = id
      · have member := mem_of_find?_eq_some found
        have same : later.operationId = id := by simpa using find?_some found
        have equal := unique intent mem_cons_self later
          (mem_cons_of_mem _ member) (here.trans same.symm)
        subst equal
        by_cases write : intent.operationClass.isWrite <;> simp [write]
      · by_cases write : intent.operationClass.isWrite <;> 
          simp [write, ExtTreeMap.getElem?_insert, here]
    | none =>
      by_cases write : intent.operationClass.isWrite <;>
        by_cases here : intent.operationId = id <;>
          simp [write, here, ExtTreeMap.getElem?_insert]

end

variable {state : JournalState} {wire : JournalWire} {disk : JournalDisk} {scan : Scan}
  {after : JournalDisk} {legacy : Option Nat} {clock : Uuid → Timestamp} {opened : OpenedJournal}

private theorem onePerId_pendingIntents (keyed : Keyed state) :
    OnePerId (verifiedJournal state).pendingIntents := by
  intro first firstMember second secondMember same
  rw [mem_pendingIntents keyed] at firstMember secondMember
  rw [same, secondMember] at firstMember
  exact (Option.some.inj firstMember).symm

private theorem closing_pendingIntents (keyed : Keyed state) (id : Uuid) :
    closing (verifiedJournal state).pendingIntents id = state.pending[id]? := by
  cases found : closing (verifiedJournal state).pendingIntents id with
  | some intent =>
    have member := (mem_pendingIntents keyed intent).mp (mem_of_find?_eq_some found)
    have same : intent.operationId = id := by simpa using find?_some found
    rw [← same, member]
  | none =>
  cases pending : state.pending[id]? with
  | none => rfl
  | some intent =>
  have same := (keyed id intent pending).1
  have member := (mem_pendingIntents keyed intent).mpr (same ▸ pending)
  have absent := find?_eq_none.mp found intent member
  simp [same] at absent

private theorem pending_recovered_eq_empty (clock : Uuid → Timestamp) (keyed : Keyed state) :
    (operationState state (recoveryEvents clock (verifiedJournal state).pendingIntents)).pending =
      ∅ := by
  refine ExtTreeMap.ext_getElem? fun id => ?_
  rw [pending_recovered, ExtTreeMap.getElem?_empty]
  split
  case isTrue => rfl
  case isFalse absent =>
    rw [← closing_pendingIntents keyed, closing, find?_eq_none]
    intro intent member same
    exact absent (mem_map.mpr ⟨intent, member, by simpa using same⟩)

/-! ### Rotation on a valid journal -/

private theorem parseRecord_first {lines : List Line} {reached : JournalState}
    (accepted : acceptLines wire lines state = .ok reached) {content : Bytes}
    (first : ((lines.map Line.content).find? fun line => !isBlank line) = some content) :
    ∃ record, parseRecord wire content = .ok record := by
  induction lines generalizing state with
  | nil => cases first
  | cons line lines ih =>
    obtain ⟨next, head, rest⟩ := ok_of_bind accepted
    rcases acceptLine_eq_ok head with
      ⟨blank, rfl⟩ | ⟨raw, event, solid, parsed, decoded, _, _⟩
    · exact ih rest (by simpa [blank] using first)
    · have here : line.content = content := by simpa [solid] using first
      simp [parseRecord, ← here, parsed, decoded]

private theorem acceptLines_blank {lines : List Line}
    (none : ((lines.map Line.content).find? fun line => !isBlank line) = none)
    (state : JournalState) : acceptLines wire lines state = .ok state := by
  induction lines generalizing state with
  | nil => rfl
  | cons line lines ih =>
    have blank : isBlank line.content = true := by
      by_contra solid
      simp [solid] at none
    simp only [acceptLines, acceptLine, blank]
    exact ih (by simpa [blank] using none) state

private theorem rotateLegacyJournal_of_replays (valid : Replays wire disk.file.bytes state) :
    rotateLegacyJournal wire disk = .ok (none, disk) := by
  unfold rotateLegacyJournal
  cases first : firstRecordLine disk.file.bytes with
  | none => rfl
  | some line =>
    obtain ⟨record, parsed⟩ := parseRecord_first valid.accepted first
    simp [parsed]

/-- If the first line that is not blank is no record, the scan found no record. -/
private theorem state_of_unparsed_first {file line : Bytes} {error : String}
    (scanned : fullScan wire true file = .ok scan) (first : firstRecordLine file = some line)
    (unparsed : parseRecord wire line = .error error) :
    scan.state = genesis := by
  obtain ⟨lines, last, reached, rfl, ends, plain, accepted, outcome⟩ := fullScan_cases scanned
  rw [firstRecordLine, readLines_append _ _ ends, map_append, find?_append] at first
  cases found : ((readLines lines).map Line.content).find? fun line => !isBlank line with
  | some content =>
    obtain ⟨record, parsed⟩ := parseRecord_first accepted found
    rw [found, Option.some_or, Option.some.injEq] at first
    rw [← first, parsed] at unparsed
    cases unparsed
  | none =>
  rw [acceptLines_blank found, Except.ok.injEq] at accepted
  rw [found] at first
  rcases outcome with ⟨-, state, -⟩ | ⟨taken, -⟩
  · rw [state, accepted]
  rcases acceptLine_eq_ok taken with ⟨-, same⟩ | ⟨raw, event, solid, parsed, decoded, -, -⟩
  · rw [same, accepted]
  have nonempty : last ≠ [] := by
    rintro rfl
    cases first
  rw [readLines_unterminated last plain nonempty] at first
  have here : last = line := by simpa [solid] using first
  simp [parseRecord, ← here, parsed, decoded] at unparsed

/-- The disk after a rotation that took the whole file away. -/
structure Emptied (scan : Scan) (disk after : JournalDisk) : Prop where
  state : scan.state = genesis
  bytes : after.file.bytes = []
  inode : after.file.inode = disk.nextInode
  nextInode : after.nextInode = disk.nextInode + 1

/-- A journal that scans is rotated away only if it holds no record at all. -/
theorem rotateLegacyJournal_of_fullScan (scanned : fullScan wire true disk.file.bytes = .ok scan)
    (rotated : rotateLegacyJournal wire disk = .ok (legacy, after)) :
    after = disk ∨ Emptied scan disk after := by
  unfold rotateLegacyJournal at rotated
  cases first : firstRecordLine disk.file.bytes with
  | none =>
    simp only [first, Except.ok.injEq, Prod.mk.injEq] at rotated
    exact .inl rotated.2.symm
  | some line =>
  cases parsed : parseRecord wire line with
  | ok record =>
    simp only [first, parsed, Except.ok.injEq, Prod.mk.injEq] at rotated
    exact .inl rotated.2.symm
  | error error =>
  simp only [first, parsed] at rotated
  split at rotated
  · cases rotated
  split at rotated
  · cases rotated
  cases rotated
  exact .inr
    { state := state_of_unparsed_first scanned first parsed
      bytes := rfl
      inode := rfl
      nextInode := rfl }

/-! ### Opening with the exclusive lease -/

/-- The journal, its state and what the process holds once the intents pending in `state`
are closed. -/
structure Recovered (wire : JournalWire) (clock : Uuid → Timestamp) (state : JournalState)
    (opened : OpenedJournal) (file : JournalFile) (recovered : JournalState) : Prop where
  replays : Replays wire file.bytes recovered
  folded : recovered = (operationState state
    (recoveryEvents clock (verifiedJournal state).pendingIntents)).withTail recovered.tail
  unresolved : opened.unresolved =
    rememberWrites state.unresolved (verifiedJournal state).pendingIntents
  cursor : opened.cursor = JournalCursor.atEndOf file
    { tail := recovered.tail, pending := ∅, unresolved := opened.unresolved }

section Recovered

variable {recovered : JournalState} {file : JournalFile} (keyed : Keyed state)
  (done : Recovered wire clock state opened file recovered)
include keyed done

theorem Recovered.pending : recovered.pending = ∅ := by
  rw [done.folded]
  exact pending_recovered_eq_empty clock keyed

theorem Recovered.remembered (id : Uuid) : opened.unresolved[id]? =
    match state.pending[id]? with
    | some intent =>
      if intent.operationClass.isWrite then some intent.connectionId else state.unresolved[id]?
    | none => state.unresolved[id]? := by
  rw [done.unresolved, getElem?_rememberWrites (onePerId_pendingIntents keyed),
    closing_pendingIntents keyed]

theorem Recovered.recorded (id : Uuid) : recovered.unresolved[id]? =
    match state.pending[id]? with
    | some intent => if intent.operationClass.isWrite then some intent.connectionId else none
    | none => state.unresolved[id]? := by
  rw [done.folded, ← closing_pendingIntents keyed]
  exact unresolved_recovered clock (onePerId_pendingIntents keyed) state id

theorem Recovered.unresolved_eq_iff :
    opened.unresolved = recovered.unresolved ↔ ¬StaleRead state := by
  constructor
  · rintro same ⟨id, intent, pending, read, unresolved⟩
    have remembered := done.remembered keyed id
    rw [same, done.recorded keyed id] at remembered
    simp only [pending, read, Bool.false_eq_true, if_false] at remembered
    simp [← remembered] at unresolved
  intro fresh
  refine ExtTreeMap.ext_getElem? fun id => ?_
  rw [done.remembered keyed, done.recorded keyed]
  cases pending : state.pending[id]? with
  | none => rfl
  | some intent =>
  by_cases write : intent.operationClass.isWrite = true
  · simp [write]
  have absent : state.unresolved[id]? = none := by
    by_contra present
    exact fresh ⟨id, intent, pending, by simpa using write,
      Option.isSome_iff_ne_none.mpr present⟩
  simp [absent]

end Recovered

/-- Everything the recovering half of `initialize` has done when it returns. -/
theorem recoverJournal_spec (laws : wire.Laws)
    (scanned : fullScan wire true disk.file.bytes = .ok scan)
    (ran : recoverJournal wire clock legacy disk = (.ok opened, after)) :
    ∃ recovered added, after = disk.withBytes (scan.file ++ added) ∧
      Recovered wire clock scan.state opened after.file recovered ∧
      fileEvents wire after.file.bytes = fileEvents wire scan.file ++
        recoveryEvents clock (verifiedJournal scan.state).pendingIntents := by
  simp only [recoverJournal, scanned] at ran
  have room : (verifiedJournal scan.state).pendingIntents.length ≤
      sequenceRoom scan.state.tail := by
    split at ran
    case h_1 => cases ran
    case h_2 succeeded => exact room_of_recoverPendingIntents succeeded
  obtain ⟨recovered, added, loop, replays, folded, events⟩ :=
    recoverPendingIntents_spec laws clock _
    (replays_of_fullScan scanned) scan.state.unresolved room
  simp only [verifiedJournal_tail, verifiedJournal_unresolved, loop] at ran
  obtain ⟨rfl, rfl⟩ := ran
  exact ⟨recovered, added, rfl, ⟨replays, folded, rfl, rfl⟩, events⟩

/-- The same for the whole of `initialize`, where a rotated journal held no record. -/
theorem initializeExclusive_spec (laws : wire.Laws)
    (scanned : fullScan wire true disk.file.bytes = .ok scan)
    (ran : initializeExclusive wire clock disk = (.ok opened, after)) :
    ∃ recovered earlier, Recovered wire clock scan.state opened after.file recovered ∧
      fileEvents wire after.file.bytes =
        earlier ++ recoveryEvents clock (verifiedJournal scan.state).pendingIntents := by
  unfold initializeExclusive at ran
  cases rotated : rotateLegacyJournal wire disk with
  | error error => simp [rotated] at ran
  | ok result =>
  obtain ⟨legacy, moved⟩ := result
  simp only [rotated] at ran
  have rescanned : ∃ again, fullScan wire true moved.file.bytes = .ok again ∧
      again.state = scan.state := by
    rcases rotateLegacyJournal_of_fullScan scanned rotated with rfl | emptied
    · exact ⟨scan, scanned, rfl⟩
    · rw [emptied.bytes]
      exact ⟨_, (replays_nil wire).fullScan true, emptied.state.symm⟩
  obtain ⟨again, scannedAgain, sameState⟩ := rescanned
  obtain ⟨recovered, added, -, done, events⟩ := recoverJournal_spec laws scannedAgain ran
  rw [sameState] at done events
  exact ⟨recovered, fileEvents wire again.file, done, events⟩

private theorem initializeExclusive_of_room (laws : wire.Laws) (clock : Uuid → Timestamp)
    (scanned : fullScan wire true disk.file.bytes = .ok scan)
    (kept : rotateLegacyJournal wire disk = .ok (none, disk))
    (room : (verifiedJournal scan.state).pendingIntents.length ≤ sequenceRoom scan.state.tail) :
    ∃ opened after, initializeExclusive wire clock disk = (.ok opened, after) := by
  obtain ⟨recovered, added, loop, _, _, _⟩ := recoverPendingIntents_spec laws clock _
    (replays_of_fullScan scanned) scan.state.unresolved room
  simp only [initializeExclusive, kept, recoverJournal, scanned, verifiedJournal_tail,
    verifiedJournal_unresolved, loop]
  exact ⟨_, _, rfl⟩

private theorem lastRecord_recovered (clock : Uuid → Timestamp) (earlier : List AuditEvent)
    (unique : OnePerId intents) {intent : AuditEvent} (member : intent ∈ intents) :
    lastRecord (earlier ++ recoveryEvents clock intents) intent.operationId =
      some (recoveryOutcome (clock intent.operationId) intent) := by
  rw [lastRecord, reverse_append, find?_append]
  cases found : (recoveryEvents clock intents).reverse.find?
      fun event => event.operationId == intent.operationId with
  | none =>
    have absent := find?_eq_none.mp found (recoveryOutcome (clock intent.operationId) intent)
      (mem_reverse.mpr (mem_map.mpr ⟨intent, member, rfl⟩))
    simp [recoveryOutcome] at absent
  | some event =>
    obtain ⟨other, otherMember, rfl⟩ :=
      mem_map.mp (mem_reverse.mp (mem_of_find?_eq_some found))
    have same : other.operationId = intent.operationId := by
      simpa [recoveryOutcome] using find?_some found
    rw [unique other otherMember intent member same]
    rfl

/-- What recovery is for, read off the journal it leaves. -/
structure RecoveryComplete (wire : JournalWire) (scan : Scan) (opened : OpenedJournal)
    (after : JournalDisk) : Prop where
  nothingPending : ∃ state, Replays wire after.file.bytes state ∧ state.pending = ∅
  cursorPending : opened.cursor.state.pending = ∅
  unresolvedExact : ∀ id : Uuid, opened.unresolved[id]?.isSome = true ↔
    OpenWrite (fileEvents wire after.file.bytes) id
  writesKept : ∀ (id : Uuid) (intent : AuditEvent), scan.state.pending[id]? = some intent →
    intent.operationClass.isWrite = true → opened.unresolved[id]? = some intent.connectionId
  readsClosed : ∀ (id : Uuid) (intent : AuditEvent), scan.state.pending[id]? = some intent →
    intent.operationClass.isWrite = false → opened.unresolved[id]? = none ∧
      ∃ outcome, lastRecord (fileEvents wire after.file.bytes) id = some outcome ∧
        outcome.phase = .outcome ∧ outcome.terminalStatus = .unknown
  idempotent : ∀ clock : Uuid → Timestamp, ∃ reopened,
    initializeExclusive wire clock after = (.ok reopened, after) ∧
      reopened.unresolved = opened.unresolved

private theorem initializeExclusive_of_closed (clock : Uuid → Timestamp)
    (valid : Replays wire disk.file.bytes state) (closed : state.pending = ∅) :
    ∃ opened, initializeExclusive wire clock disk = (.ok opened, disk) ∧
      opened.unresolved = state.unresolved := by
  have none : (verifiedJournal state).pendingIntents = [] := by
    have empty : state.pending.toList = [] := ExtTreeMap.toList_eq_nil_iff.mpr closed
    simp [verifiedJournal, UuidMap.values, empty]
  simp only [initializeExclusive, rotateLegacyJournal_of_replays valid, recoverJournal,
    valid.fullScan true, none]
  exact ⟨_, rfl, rfl⟩

private theorem recoveryComplete_iff_fresh (laws : wire.Laws)
    (scanned : fullScan wire true disk.file.bytes = .ok scan)
    (ran : initializeExclusive wire clock disk = (.ok opened, after)) :
    RecoveryComplete wire scan opened after ↔ ¬StaleRead scan.state := by
  have keyed := keyed_of_fullScan scanned
  obtain ⟨recovered, earlier, done, events⟩ := initializeExclusive_spec laws scanned ran
  have replays := done.replays
  have closed := done.pending keyed
  have lookup := done.remembered keyed
  constructor
  · rintro complete ⟨id, intent, pending, read, present⟩
    have cleared := (complete.readsClosed id intent pending read).1
    rw [lookup, pending] at cleared
    simp [read] at cleared
    simp [cleared] at present
  intro fresh
  have agree := (done.unresolved_eq_iff keyed).mpr fresh
  exact
    { nothingPending := ⟨recovered, replays, closed⟩
      cursorPending := by rw [done.cursor]; rfl
      unresolvedExact := by
        intro id
        have logged := replays.operationState
        rw [agree, logged]
        refine unresolved_isSome_iff _ id ?_
        rw [logged] at closed
        exact closed
      writesKept := by
        intro id intent pending write
        rw [lookup, pending]
        simp [write]
      readsClosed := by
        intro id intent pending read
        constructor
        · rw [lookup, pending]
          by_contra present
          exact fresh ⟨id, intent, pending, read, by
            simpa [read] using present⟩
        have same := (keyed id intent pending).1
        have member := (mem_pendingIntents keyed intent).mpr (same ▸ pending)
        refine ⟨recoveryOutcome (clock intent.operationId) intent, ?_, rfl, rfl⟩
        rw [events, ← same]
        exact lastRecord_recovered clock earlier (onePerId_pendingIntents keyed) member
      idempotent := by
        intro later
        obtain ⟨reopened, ran', same⟩ := initializeExclusive_of_closed later replays closed
        exact ⟨reopened, ran', same.trans agree.symm⟩ }

/-- Recovery is complete and idempotent exactly when no read is pending under the
id of an unresolved operation; given sequence numbers it does return. -/
theorem recovery_complete_iff {wire : JournalWire} (laws : wire.Laws) (clock : Uuid → Timestamp)
    {disk : JournalDisk} {scan : Scan} (scanned : fullScan wire true disk.file.bytes = .ok scan) :
    (rotateLegacyJournal wire disk = .ok (none, disk) →
      (verifiedJournal scan.state).pendingIntents.length ≤ sequenceRoom scan.state.tail →
        ∃ opened after, initializeExclusive wire clock disk = (.ok opened, after)) ∧
    ∀ opened after, initializeExclusive wire clock disk = (.ok opened, after) →
      (RecoveryComplete wire scan opened after ↔ ¬StaleRead scan.state) :=
  ⟨initializeExclusive_of_room laws clock scanned,
    fun _ _ ran => recoveryComplete_iff_fresh laws scanned ran⟩

private theorem length_pendingIntents (state : JournalState) :
    (verifiedJournal state).pendingIntents.length = state.pending.size := by
  simp [verifiedJournal, UuidMap.values]

def journalDisk (bytes : Bytes) : JournalDisk :=
  { legacyPath := "audit.jsonl.phase1"
    file := { device := 0, inode := 1, bytes := bytes }
    legacyBackup := none
    nextInode := 2 }

theorem initializeExclusive_writeLog (laws : wire.Laws) (clock : Uuid → Timestamp)
    (events : List AuditEvent) (room : events.length + 1 < u64Bound)
    (single : (operationState genesis events).pending.size ≤ 1) :
    ∃ tail bytes opened after, writeLog wire events = .ok (tail, bytes) ∧
      Replays wire bytes ((operationState genesis events).withTail tail) ∧
      initializeExclusive wire clock (journalDisk bytes) = (.ok opened, after) := by
  obtain ⟨tail, bytes, written, seq, valid, _⟩ := writeLog_replays laws (Nat.lt_of_succ_lt room)
  have small : (verifiedJournal ((operationState genesis events).withTail
      tail)).pendingIntents.length ≤ sequenceRoom tail := by
    rw [length_pendingIntents, sequenceRoom]
    exact single.trans (by omega)
  have scanned : fullScan wire true (journalDisk bytes).file.bytes = _ := valid.fullScan true
  obtain ⟨opened, after, ran⟩ := initializeExclusive_of_room laws clock scanned
    (rotateLegacyJournal_of_replays valid) small
  exact ⟨tail, bytes, opened, after, written, valid, ran⟩

/-- One write whose outcome never came. -/
theorem recovery_complete_iff_lost_write :
    ∃ tail bytes scan opened after,
      writeLog jsonWire [sampleWriteEvent .intent .pending] = .ok (tail, bytes) ∧
      initializeExclusive jsonWire (fun _ => "2026-01-02T00:00:00Z") (journalDisk bytes) =
        (.ok opened, after) ∧
      RecoveryComplete jsonWire scan opened after := by
  obtain ⟨tail, bytes, opened, after, written, valid, ran⟩ := initializeExclusive_writeLog
    jsonWire_laws (fun _ => "2026-01-02T00:00:00Z") [sampleWriteEvent .intent .pending]
    (by decide) (by decide)
  have scanned : fullScan jsonWire true (journalDisk bytes).file.bytes = _ := valid.fullScan true
  have complete := (recovery_complete_iff jsonWire_laws (fun _ => "2026-01-02T00:00:00Z")
    scanned).2 opened after ran
  refine ⟨tail, bytes, _, opened, after, written, ran, complete.mpr ?_⟩
  rintro ⟨id, intent, pending, read, present⟩
  simp [operationState, JournalState.withTail, unresolved_trackOperationState, sampleWriteEvent,
    JournalState.genesis] at present

/-- The record that closes a stale read clears the operation it shares its id with,
while the cursor keeps it. -/
theorem cursor_of_staleRead (laws : wire.Laws)
    (scanned : fullScan wire true disk.file.bytes = .ok scan)
    (ran : initializeExclusive wire clock disk = (.ok opened, after)) (id : Uuid)
    (intent : AuditEvent) (pending : scan.state.pending[id]? = some intent)
    (read : intent.operationClass.isWrite = false) :
    ∃ recovered, Replays wire after.file.bytes recovered ∧ recovered.pending = ∅ ∧
      recovered.unresolved[id]? = none ∧ opened.unresolved[id]? = scan.state.unresolved[id]? ∧
      opened.cursor = JournalCursor.atEndOf after.file
        { tail := recovered.tail, pending := ∅, unresolved := opened.unresolved } := by
  have keyed := keyed_of_fullScan scanned
  obtain ⟨recovered, _, done, _⟩ := initializeExclusive_spec laws scanned ran
  refine ⟨recovered, done.replays, done.pending keyed, ?_, ?_, done.cursor⟩
  · rw [done.recorded keyed, pending]
    simp [read]
  · rw [done.remembered keyed, pending]
    simp [read]

/-- A read left pending under the id of an unresolved write: the first open still
reports the write as unresolved, and the second one no longer does. -/
theorem recovery_forgets_stale_read :
    ∃ tail bytes opened reopened after,
      writeLog jsonWire [sampleWriteEvent .outcome .unknown, sampleReadIntent] = .ok (tail, bytes) ∧
      initializeExclusive jsonWire (fun _ => "2026-01-02T00:00:00Z") (journalDisk bytes) =
        (.ok opened, after) ∧
      initializeExclusive jsonWire (fun _ => "2026-01-02T00:00:00Z") after = (.ok reopened, after) ∧
      opened.unresolved[(1 : Uuid)]? = some 7 ∧ reopened.unresolved[(1 : Uuid)]? = none := by
  obtain ⟨tail, bytes, opened, after, written, valid, ran⟩ := initializeExclusive_writeLog
    jsonWire_laws (fun _ => "2026-01-02T00:00:00Z")
    [sampleWriteEvent .outcome .unknown, sampleReadIntent] (by decide) (by decide)
  have scanned : fullScan jsonWire true (journalDisk bytes).file.bytes = _ := valid.fullScan true
  obtain ⟨recovered, replays, closed, cleared, kept, _⟩ :=
    cursor_of_staleRead jsonWire_laws scanned ran 1 sampleReadIntent rfl rfl
  obtain ⟨reopened, again, same⟩ := initializeExclusive_of_closed _ replays closed
  exact ⟨tail, bytes, opened, reopened, after, written, ran, again, kept, by rw [same, cleared]⟩

end Bookie.Storage
