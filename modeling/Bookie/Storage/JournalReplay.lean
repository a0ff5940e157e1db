/-
What the scan says about a file. `Replays`: the file is newline-terminated and its
lines fold to a state. The scan establishes it by its own repairs, appending keeps
it, and a write that stops part way is brought back to it.
-/

import Bookie.Storage.AuditJournal
import Bookie.Storage.OperationLog

namespace Bookie.Storage

open Text Policy List JournalState

structure Replays (wire : JournalWire) (file : Bytes) (state : JournalState) : Prop where
  ends : EndsLine file
  accepted : acceptLines wire (readLines file) genesis = .ok state

variable (wire : JournalWire)

theorem replays_nil : Replays wire [] genesis :=
  { ends := endsLine_nil
    accepted := rfl }

def JournalState.advance (state : JournalState) (event : AuditEvent) (tail : JournalTail) :
    JournalState :=
  (trackOperationState state event).withTail tail

variable (state : JournalState) (event : AuditEvent)

@[simp] theorem JournalState.advance_tail (tail : JournalTail) :
    (state.advance event tail).tail = tail := rfl

@[simp] theorem JournalState.advance_pending (tail : JournalTail) :
    (state.advance event tail).pending = (trackOperationState state event).pending := rfl

@[simp] theorem JournalState.advance_unresolved (tail : JournalTail) :
    (state.advance event tail).unresolved = (trackOperationState state event).unresolved := rfl

variable {tail next : JournalTail} {event : AuditEvent}

theorem nextLine_eq_ok_iff {wire : JournalWire} {line : Bytes} :
    nextLine wire tail event = .ok (next, line) ↔
      ∃ record, nextRecord wire tail event = .ok record ∧ record.tail = next ∧
        wire.recordBytes record ++ [newline] = line := by
  unfold nextLine
  cases nextRecord wire tail event with
  | error | ok => simp

theorem nextLine_of_room (tail : JournalTail) (event : AuditEvent)
    (room : tail.seq + 1 < u64Bound) :
    ∃ next line, nextLine wire tail event = .ok (next, line) ∧ next.seq = tail.seq + 1 := by
  simp only [nextLine, nextRecord, nextSeq, if_pos room]
  exact ⟨_, _, rfl, rfl⟩

theorem appendToFile_eq_ok_iff {wire : JournalWire} {file bytes : Bytes} :
    appendToFile wire file tail event = .ok (next, bytes) ↔
      ∃ line, nextLine wire tail event = .ok (next, line) ∧ bytes = file ++ line := by
  unfold appendToFile
  cases nextLine wire tail event with
  | error error => simp
  | ok result =>
  simp only [Except.ok.injEq, Prod.mk.injEq]
  constructor
  · rintro ⟨rfl, rfl⟩
    exact ⟨result.2, rfl, rfl⟩
  · rintro ⟨line, same, rfl⟩
    subst same
    exact ⟨rfl, rfl⟩

section Laws

variable {wire : JournalWire} (laws : wire.Laws)
include laws

theorem recordBytes_not_blank (record : JournalRecord) :
    isBlank (wire.recordBytes record) = false := by
  obtain ⟨rest, content⟩ := head?_eq_some_iff.mp (laws.recordBytes_open record)
  simp [content, isBlank, isAsciiWhitespace]

variable {state : JournalState} {event : AuditEvent} {record : JournalRecord}

theorem trackVerifiedRecord_next (next : nextRecord wire state.tail event = .ok record) :
    trackVerifiedRecord wire
        { seq := record.seq
          prevHash := record.prevHash
          hash := record.hash
          event := wire.eventBytes record.event } state =
      .ok (state.advance event record.tail, event) := by
  unfold nextRecord nextSeq at next
  split at next
  · cases next
  rename_i seq found
  split at found
  case isFalse => cases found
  case isTrue room =>
    cases found
    cases next
    have chain := (validateChainFields_eq_ok_iff wire (state.tail.seq + 1) state.tail.hash
      (recordHash wire state.tail.hash (state.tail.seq + 1) (wire.eventBytes event))
      state.tail (wire.eventBytes event)).mpr ⟨room, rfl, rfl, rfl⟩
    simp only [trackVerifiedRecord, chain, laws.parseEvent_eventBytes]
    rfl

private theorem acceptLine_next (next : nextRecord wire state.tail event = .ok record)
    (terminated : Bool) : acceptLine wire ⟨wire.recordBytes record, terminated⟩ state =
      .ok (state.advance event record.tail) := by
  simp [acceptLine, recordBytes_not_blank laws, laws.parseRaw_recordBytes,
    trackVerifiedRecord_next laws next, Except.map]

theorem Replays.append {file line : Bytes} {tail : JournalTail} (valid : Replays wire file state)
    (next : nextLine wire state.tail event = .ok (tail, line)) :
    Replays wire (file ++ line) (state.advance event tail) := by
  obtain ⟨record, written, rfl, rfl⟩ := nextLine_eq_ok_iff.mp next
  exact
    { ends := valid.ends.append (endsLine_append_newline _)
      accepted := by
        rw [readLines_append _ _ valid.ends, acceptLines_append, valid.accepted,
          readLines_line _ [] (laws.recordBytes_plain record)]
        simp [Except.bind, acceptLines, acceptLine_next laws written] }

end Laws

/-! ### The scan and its repairs -/

variable {wire : JournalWire} {file : Bytes} {state : JournalState} {recoverPartial : Bool}
  {scan : Scan} {reached : JournalState}

theorem Replays.fullScan (valid : Replays wire file state) (recoverPartial : Bool) :
    fullScan wire recoverPartial file = .ok { state := state, recent := [], file := file } := by
  have split := fullScan_eq wire recoverPartial file [] valid.ends (by simp)
  rw [append_nil, valid.accepted] at split
  rw [split]
  cases recoverPartial <;> simp [scanLast, isBlank, Except.bind, Except.map]

theorem replays_of_endsLine (ends : EndsLine file)
    (scanned : fullScan wire recoverPartial file = .ok scan) :
    Replays wire file scan.state := by
  have split := fullScan_eq wire recoverPartial file [] ends (by simp)
  rw [append_nil, scanned] at split
  obtain ⟨state, accepted, split⟩ := ok_of_bind split.symm
  simp only [scanLast, isBlank, all_nil, if_true, Except.map, Except.ok.injEq] at split
  exact { ends := ends, accepted := by rw [accepted, ← split] }

/-- The record a line holds. A blank line and a cut last line hold none. -/
def lineRecord (wire : JournalWire) (line : Line) : Option JournalRecordRaw :=
  if isBlank line.content then none
  else
    match wire.parseRaw line.content with
    | .error _ => none
    | .ok raw => some raw

/-- A repairing scan drops a last line that holds no record. Any other last line is
accepted like a terminated one. -/
theorem scanLast_eq (recoverPartial : Bool) (lines last : Bytes) (state : JournalState) :
    scanLast wire recoverPartial lines last state =
      if recoverPartial = true ∧ lineRecord wire ⟨last, false⟩ = none then .ok (state, lines)
      else (acceptLine wire ⟨last, false⟩ state).map fun reached =>
        (reached, if recoverPartial then lines ++ last ++ [newline] else lines ++ last) := by
  unfold scanLast acceptLine lineRecord
  by_cases blank : isBlank last = true
  · cases recoverPartial <;> simp [blank, Except.map]
  simp only [blank]
  cases wire.parseRaw last with
  | error error => cases recoverPartial <;> simp [Except.map]
  | ok raw => cases tracked : trackVerifiedRecord wire raw state <;> simp [tracked, Except.map]

/-- What a scan that accepted a file has done. -/
theorem fullScan_cases (scanned : fullScan wire recoverPartial file = .ok scan) :
    ∃ lines last reached, file = lines ++ last ∧ EndsLine lines ∧ newline ∉ last ∧
      acceptLines wire (readLines lines) genesis = .ok reached ∧
      (lineRecord wire ⟨last, false⟩ = none ∧ scan.state = reached ∧ scan.file = lines ∨
        acceptLine wire ⟨last, false⟩ reached = .ok scan.state ∧
          scan.file = if recoverPartial then lines ++ last ++ [newline] else lines ++ last) := by
  obtain ⟨lines, last, rfl, ends, plain⟩ := exists_terminated_split file
  rw [fullScan_eq wire recoverPartial lines last ends plain] at scanned
  obtain ⟨reached, accepted, scanned⟩ := ok_of_bind scanned
  obtain ⟨result, treated, rfl⟩ := ok_of_map scanned
  refine ⟨lines, last, reached, rfl, ends, plain, accepted, ?_⟩
  rw [scanLast_eq] at treated
  split at treated
  case isTrue dropped =>
    cases treated
    exact .inl ⟨dropped.2, rfl, rfl⟩
  case isFalse =>
    obtain ⟨state, taken, rfl⟩ := ok_of_map treated
    exact .inr ⟨taken, rfl⟩

theorem replays_of_fullScan (scanned : fullScan wire true file = .ok scan) :
    Replays wire scan.file scan.state := by
  obtain ⟨lines, last, reached, rfl, ends, plain, accepted, ⟨-, state, file⟩ | ⟨taken, file⟩⟩ :=
    fullScan_cases scanned
  · rw [state, file]
    exact { ends := ends, accepted := accepted }
  rw [file, if_pos rfl]
  exact
    { ends := endsLine_append_newline _
      accepted := by
        rw [append_assoc, readLines_append _ _ ends, acceptLines_append,
          accepted, readLines_line last [] plain]
        exact congrArg (·.bind (acceptLines wire [])) taken }

/-! ### The records and events of a file -/

def rawRecords (wire : JournalWire) (lines : List Line) : List JournalRecordRaw :=
  lines.filterMap (lineRecord wire)

def fileRecords (wire : JournalWire) (file : Bytes) : List JournalRecordRaw :=
  rawRecords wire (readLines file)

def recordEvent (wire : JournalWire) (raw : JournalRecordRaw) : Option AuditEvent :=
  match wire.parseEvent raw.event with
  | .error _ => none
  | .ok event => some event

def fileEvents (wire : JournalWire) (file : Bytes) : List AuditEvent :=
  (fileRecords wire file).filterMap (recordEvent wire)

/-- An accepted line is blank, or it holds a record that tracks. -/
theorem acceptLine_eq_ok {line : Line} (accepted : acceptLine wire line state = .ok reached) :
    isBlank line.content = true ∧ reached = state ∨
      ∃ raw event, isBlank line.content = false ∧ wire.parseRaw line.content = .ok raw ∧
        wire.parseEvent raw.event = .ok event ∧
        validateChainFields wire raw.seq raw.prevHash raw.hash state.tail raw.event = .ok () ∧
        reached = state.advance event { seq := raw.seq, hash := raw.hash } := by
  unfold acceptLine at accepted
  split at accepted
  case isTrue blank =>
    cases accepted
    exact .inl ⟨blank, rfl⟩
  case isFalse solid =>
    cases parsed : wire.parseRaw line.content with
    | error error => simp [parsed] at accepted
    | ok raw =>
    simp only [parsed, trackVerifiedRecord] at accepted
    split at accepted
    · cases accepted
    rename_i chain
    cases decoded : wire.parseEvent raw.event with
    | error error => simp [decoded, Except.map] at accepted
    | ok event =>
      simp only [decoded, Except.map, Except.ok.injEq] at accepted
      exact .inr ⟨raw, event, by simpa using solid, rfl, decoded, chain, accepted.symm⟩

/-- The fold over lines is the fold over the events they hold. -/
private theorem operationState_of_acceptLines {lines : List Line}
    (accepted : acceptLines wire lines state = .ok reached) :
    reached = (operationState state
      ((rawRecords wire lines).filterMap (recordEvent wire))).withTail reached.tail := by
  induction lines generalizing state with
  | nil => cases accepted; rfl
  | cons line lines ih =>
    obtain ⟨next, first, accepted⟩ := ok_of_bind accepted
    have rest := ih accepted
    rcases acceptLine_eq_ok first with
      ⟨blank, rfl⟩ | ⟨raw, event, solid, parsed, decoded, _, rfl⟩
    · simpa [rawRecords, lineRecord, blank] using rest
    have events : (rawRecords wire (line :: lines)).filterMap (recordEvent wire) =
        event :: (rawRecords wire lines).filterMap (recordEvent wire) := by
      simp [rawRecords, lineRecord, solid, parsed, recordEvent, decoded]
    rw [advance, operationState_withTail] at rest
    rw [events]
    exact rest

/-- Whatever the mode, an accepted file is the fold over its own records. -/
theorem acceptLines_of_fullScan (scanned : fullScan wire recoverPartial file = .ok scan) :
    ∃ lines, acceptLines wire lines genesis = .ok scan.state ∧
      rawRecords wire lines = fileRecords wire file := by
  obtain ⟨lines, last, reached, rfl, ends, plain, accepted, outcome⟩ := fullScan_cases scanned
  have files : fileRecords wire (lines ++ last) =
      rawRecords wire (readLines lines) ++ rawRecords wire [⟨last, false⟩] := by
    rw [fileRecords, readLines_append _ _ ends, rawRecords, filterMap_append]
    by_cases empty : last = []
    · simp [empty, rawRecords, lineRecord, isBlank]
    · rw [readLines_unterminated last plain empty]
      rfl
  rw [files]
  rcases outcome with ⟨unread, state, -⟩ | ⟨taken, -⟩
  · exact ⟨readLines lines, by rw [accepted, state], by simp [rawRecords, unread]⟩
  · refine ⟨readLines lines ++ [⟨last, false⟩], ?_, by rw [rawRecords, filterMap_append]; rfl⟩
    rw [acceptLines_append, accepted]
    exact congrArg (·.bind (acceptLines wire [])) taken

theorem Replays.operationState (valid : Replays wire file state) :
    state = (operationState genesis (fileEvents wire file)).withTail state.tail :=
  operationState_of_acceptLines valid.accepted

theorem keyed_of_fullScan (scanned : fullScan wire recoverPartial file = .ok scan) :
    Keyed scan.state := by
  obtain ⟨lines, accepted, _⟩ := acceptLines_of_fullScan scanned
  rw [operationState_of_acceptLines accepted]
  exact keyed_operationState _

theorem fileRecords_append (laws : wire.Laws) (ends : EndsLine file) (record : JournalRecord) :
    fileRecords wire (file ++ (wire.recordBytes record ++ [newline])) =
      fileRecords wire file ++
        [{ seq := record.seq
           prevHash := record.prevHash
           hash := record.hash
           event := wire.eventBytes record.event }] := by
  rw [fileRecords, readLines_append _ _ ends, readLines_line _ [] (laws.recordBytes_plain record)]
  simp [fileRecords, rawRecords, lineRecord, recordBytes_not_blank laws, laws.parseRaw_recordBytes]

theorem fileEvents_append (laws : wire.Laws) {line : Bytes} (ends : EndsLine file)
    (writing : nextLine wire tail event = .ok (next, line)) :
    fileEvents wire (file ++ line) = fileEvents wire file ++ [event] := by
  obtain ⟨record, written, rfl, rfl⟩ := nextLine_eq_ok_iff.mp writing
  have same : record.event = event := by
    unfold nextRecord at written
    split at written <;> cases written
    rfl
  rw [fileEvents, fileRecords_append laws ends, filterMap_append, ← fileEvents]
  simp [recordEvent, laws.parseEvent_eventBytes, same]

/-! ### The journal of a log -/

def writeLog (wire : JournalWire) (events : List AuditEvent) :
    Except StorageError (JournalTail × Bytes) :=
  events.foldlM (fun written event => appendToFile wire written.2 written.1 event)
    (genesis.tail, [])

/-- Every log that fits the sequence numbers is the log of the file it is written to. -/
theorem writeLog_replays (laws : wire.Laws) {events : List AuditEvent}
    (room : events.length < u64Bound) :
    ∃ tail bytes, writeLog wire events = .ok (tail, bytes) ∧ tail.seq = events.length ∧
      Replays wire bytes ((Storage.operationState genesis events).withTail tail) ∧
      fileEvents wire bytes = events := by
  induction events using reverseRecOn with
  | nil => exact ⟨_, [], rfl, rfl, replays_nil wire, rfl⟩
  | append_singleton events event ih =>
    rw [length_append, length_singleton] at room
    obtain ⟨tail, bytes, written, seq, replays, logged⟩ := ih (by omega)
    obtain ⟨next, line, writing, nextSeq⟩ := nextLine_of_room wire tail event (by omega)
    have appended := appendToFile_eq_ok_iff.mpr ⟨line, writing, Eq.refl (bytes ++ line)⟩
    refine ⟨next, bytes ++ line, ?_, ?_, ?_, ?_⟩
    · rw [writeLog] at written ⊢
      rw [foldlM_append, written]
      simp [bind, Except.bind, appended, pure, Except.pure]
    · rw [nextSeq, seq, length_append, length_singleton]
    · have grown := replays.append laws writing
      rwa [advance, trackOperationState_withTail, ← operationState_snoc] at grown
    · rw [fileEvents_append laws replays.ends writing, logged]

end Bookie.Storage
