/-
Crash atomicity of one append. Whatever prefix of the line reaches the disk, the next
repairing scan finds the journal before the append or after it, and the file can be
appended to again.
-/

import Bookie.Storage.JournalJson
import Bookie.Storage.JournalReplay

namespace Bookie.Storage

open Text Policy

section

variable {wire : JournalWire} (laws : wire.Laws)
include laws

/-- A proper prefix of the record is cut off again, whether or not it is empty. -/
private theorem scanLast_cut (lines : Bytes) (state : JournalState) (record : JournalRecord)
    {cut : Nat} (short : cut < (wire.recordBytes record).length) :
    scanLast wire true lines ((wire.recordBytes record).take cut) state = .ok (state, lines) := by
  obtain ⟨error, rejected⟩ := laws.parseRaw_cut record cut short
  unfold scanLast
  split
  · rfl
  · rw [rejected]
    rfl

/-- The byte between the closing brace and the terminator: the record is kept. -/
private theorem scanLast_whole (lines : Bytes) {state : JournalState} {event : AuditEvent}
    {record : JournalRecord} (next : nextRecord wire state.tail event = .ok record) :
    scanLast wire true lines (wire.recordBytes record) state =
      .ok (state.advance event record.tail, lines ++ wire.recordBytes record ++ [newline]) := by
  simp [scanLast, recordBytes_not_blank laws, laws.parseRaw_recordBytes,
    trackVerifiedRecord_next laws next, Except.map]

theorem fullScan_torn {file line : Bytes} {state : JournalState} {event : AuditEvent}
    {tail : JournalTail} (valid : Replays wire file state)
    (writing : nextLine wire state.tail event = .ok (tail, line)) (cut : Nat) :
    fullScan wire true (file ++ line.take cut) =
      .ok (if cut + 1 < line.length then { state := state, recent := [], file := file }
        else { state := state.advance event tail, recent := [], file := file ++ line }) := by
  obtain ⟨record, next, rfl, rfl⟩ := nextLine_eq_ok_iff.mp writing
  have plain := laws.recordBytes_plain record
  simp only [List.length_append, List.length_singleton, Nat.add_lt_add_iff_right]
  by_cases short : cut < (wire.recordBytes record).length
  · have torn : (wire.recordBytes record ++ [newline]).take cut =
        (wire.recordBytes record).take cut := List.take_append_of_le_length short.le
    have tornPlain : newline ∉ (wire.recordBytes record).take cut :=
      fun member => plain (List.mem_of_mem_take member)
    rw [torn, fullScan_eq wire true _ _ valid.ends tornPlain, valid.accepted, if_pos short]
    simp [Except.bind, scanLast_cut laws file state record short, Except.map]
  rw [if_neg short]
  by_cases whole : cut = (wire.recordBytes record).length
  · rw [whole, List.take_left, fullScan_eq wire true _ _ valid.ends plain, valid.accepted]
    simp [Except.bind, scanLast_whole laws file next, Except.map]
  rw [List.take_of_length_le (by
    rw [List.length_append, List.length_singleton]
    omega)]
  exact (valid.append laws writing).fullScan true

end

/-- Crash atomicity of an append: whatever prefix of the line reached the disk,
the next scan finds the state before or the state after, and never drops a
complete record; the file it leaves is valid and takes the next append. -/
theorem append_crash_atomic {wire : JournalWire} (laws : wire.Laws) {original : Bytes}
    {before : Scan} (valid : fullScan wire true original = .ok before) {event : AuditEvent}
    {tail : JournalTail} {line : Bytes}
    (writing : nextLine wire before.state.tail event = .ok (tail, line)) (cut : Nat) :
    ∃ after, fullScan wire true (before.file ++ line.take cut) = .ok after ∧
      (cut + 1 < line.length ∧ after.state = before.state ∧ after.file = before.file ∨
        line.length ≤ cut + 1 ∧ after.state = before.state.advance event tail ∧
          after.file = before.file ++ line) ∧
      Replays wire after.file after.state ∧
      ∀ following : AuditEvent, after.state.tail.seq + 1 < u64Bound →
        ∃ followingTail bytes,
          appendToFile wire after.file after.state.tail following = .ok (followingTail, bytes) ∧
          Replays wire bytes (after.state.advance following followingTail) := by
  have replays := replays_of_fullScan valid
  have scanned := fullScan_torn laws replays writing cut
  refine ⟨_, scanned, ?_, replays_of_fullScan scanned, ?_⟩
  · split
    case isTrue short => exact .inl ⟨short, rfl, rfl⟩
    case isFalse reached => exact .inr ⟨Nat.not_lt.mp reached, rfl, rfl⟩
  intro following room
  obtain ⟨followingTail, added, next, _⟩ := nextLine_of_room wire _ following room
  exact ⟨followingTail, _, appendToFile_eq_ok_iff.mpr ⟨added, next, rfl⟩,
    (replays_of_fullScan scanned).append laws next⟩

/-- The first record of a journal, torn after forty bytes. -/
theorem append_crash_atomic_first_record :
    ∃ tail line, nextLine jsonWire JournalState.genesis.tail (sampleWriteEvent .intent .pending) =
        .ok (tail, line) ∧
      ∃ after, fullScan jsonWire true (line.take 40) = .ok after ∧
        Replays jsonWire after.file after.state := by
  obtain ⟨tail, line, writing, _⟩ := nextLine_of_room jsonWire JournalState.genesis.tail
    (sampleWriteEvent .intent .pending) (by decide)
  obtain ⟨after, scanned, _, valid, _⟩ :=
    append_crash_atomic jsonWire_laws ((replays_nil jsonWire).fullScan true) writing 40
  exact ⟨tail, line, writing, after, scanned, valid⟩

/-- **A log reads back.** Torn at any byte of the next append, it is accepted and holds the events
in order; the last is among them as soon as its record is whole. -/
theorem torn_log_reads_back {wire : JournalWire} (laws : wire.Laws) (events : List AuditEvent)
    (next : AuditEvent) (room : events.length + 1 < u64Bound) (cut : Nat) :
    ∃ tail bytes line last scan, writeLog wire events = .ok (tail, bytes) ∧
      nextLine wire tail next = .ok (last, line) ∧
      fullScan wire true (bytes ++ line.take cut) = .ok scan ∧
      fileEvents wire scan.file =
        if cut + 1 < line.length then events else events ++ [next] := by
  obtain ⟨tail, bytes, written, seq, valid, logged⟩ :=
    writeLog_replays laws (Nat.lt_of_succ_lt room)
  obtain ⟨last, line, writing, _⟩ := nextLine_of_room wire tail next (by omega)
  refine ⟨tail, bytes, line, last, _, written, writing, fullScan_torn laws valid writing cut, ?_⟩
  split
  · exact logged
  · rw [fileEvents_append laws valid.ends writing, logged]

/-- The first line as it was meant to be written, read back whole. -/
theorem torn_read_reads_back : ∃ tail line scan,
    nextLine jsonWire JournalState.genesis.tail sampleReadIntent = .ok (tail, line) ∧
    fullScan jsonWire true (line.take line.length) = .ok scan ∧
    fileEvents jsonWire scan.file = [sampleReadIntent] := by
  obtain ⟨tail, line, writing, _⟩ := nextLine_of_room jsonWire JournalState.genesis.tail
    sampleReadIntent (by decide)
  obtain ⟨_, _, _, last, scan, ⟨⟩, written, scanned, read⟩ :=
    torn_log_reads_back jsonWire_laws [] sampleReadIntent (by decide) line.length
  obtain ⟨rfl, rfl⟩ := Prod.mk.inj (Except.ok.inj (writing.symm.trans written))
  exact ⟨tail, line, scan, writing, scanned, read.trans (if_neg (by omega))⟩

end Bookie.Storage
