/-
Incremental verification. Resuming from a cursor agrees with a scan of the whole file
whenever its state is the fold of the bytes before its offset; this module follows
the three ways a process obtains a cursor.
-/

import Bookie.Storage.JournalRecovery

namespace Bookie.Storage

open Text Policy JournalCursor

def JournalFile.extend (file : JournalFile) (extension : Bytes) : JournalFile :=
  { file with bytes := file.bytes ++ extension }

/-- However the file grew since the cursor was taken, resuming gives the result of
a full scan: the same state and repaired file, or the same failure. -/
def AgreesWithFullScan (wire : JournalWire) (taken : JournalFile) (cursor : JournalCursor) : Prop :=
  ∀ extension, resumeVerifiedState wire (taken.extend extension) (some cursor) =
    fullScan wire true (taken.extend extension).bytes

theorem startsALine_append (bytes extension : Bytes) :
    startsALine (bytes ++ extension) bytes.length = true ↔ EndsLine bytes := by
  induction bytes using List.reverseRecOn with
  | nil => simp [startsALine, EndsLine]
  | append_singleton bytes last _ =>
    rw [List.length_append, List.length_singleton, startsALine, List.append_assoc]
    simp [EndsLine]

/-- A cursor at the end of a file is used again exactly if the file ended a line. -/
private theorem resumable_atEndOf (file : JournalFile) (state : JournalState) (extension : Bytes) :
    resumable (file.extend extension) (some (atEndOf file state)) = true ↔
      EndsLine file.bytes := by
  rw [← startsALine_append file.bytes extension]
  simp [resumable, stillDescribes, atEndOf, JournalFile.extend]

variable {wire : JournalWire} {file : JournalFile}

/-- A cursor at the end of a file agrees if its state is the file's own, which only
matters when the file ends a line. -/
private theorem agreesWithFullScan_atEndOf {state : JournalState}
    (own : EndsLine file.bytes → Replays wire file.bytes state) :
    AgreesWithFullScan wire file (atEndOf file state) := by
  intro extension
  by_cases ends : EndsLine file.bytes
  · rw [resumeVerifiedState_of_usable wire ((resumable_atEndOf file state extension).mpr ends)]
    obtain ⟨lines, last, rfl, linesEnd, plain⟩ := exists_terminated_split extension
    have resumed := scanRecords_eq wire true file.bytes lines last state linesEnd plain
    have full := fullScan_eq wire true (file.bytes ++ lines) last (ends.append linesEnd) plain
    rw [readLines_append _ _ ends, acceptLines_append, (own ends).accepted] at full
    rw [List.append_assoc] at resumed full
    exact resumed.trans full.symm
  · refine resumeVerifiedState_of_unusable wire ?_
    rw [← Bool.not_eq_true, resumable_atEndOf]
    exact ends

private theorem resumeVerifiedState_atEndOf (wire : JournalWire) (ends : EndsLine file.bytes)
    (cached : JournalState) :
    resumeVerifiedState wire file (some (atEndOf file cached)) =
      .ok { state := cached, recent := [], file := file.bytes } := by
  have usable := (resumable_atEndOf file cached []).mpr ends
  have resumed := scanRecords_eq wire true file.bytes [] [] cached endsLine_nil (by simp)
  simp only [JournalFile.extend, List.append_nil] at usable resumed
  rw [resumeVerifiedState_of_usable wire usable]
  simpa [atEndOf, acceptLines, Except.bind, scanLast, isBlank, Except.map]
    using resumed

private theorem state_of_agreesWithFullScan {state cached : JournalState}
    (valid : Replays wire file.bytes state)
    (agrees : AgreesWithFullScan wire file (atEndOf file cached)) :
    cached = state := by
  have here := agrees []
  simp only [JournalFile.extend, List.append_nil, valid.fullScan true] at here
  rw [resumeVerifiedState_atEndOf wire valid.ends, Except.ok.injEq] at here
  exact congrArg Scan.state here

/-! ### Where cursors come from -/

/-- The cursors a process can hold, with the file each was taken from. Recovery is
restricted to journals without a stale read. -/
inductive CursorTaken (wire : JournalWire) : JournalFile → JournalCursor → Prop
  | shared {disk : JournalDisk} {opened : OpenedJournal}
      (ran : initializeShared wire disk = .ok opened) : CursorTaken wire disk.file opened.cursor
  | exclusive {clock : Uuid → Timestamp} {disk after : JournalDisk} {opened : OpenedJournal}
      {scan : Scan} (scanned : fullScan wire true disk.file.bytes = .ok scan)
      (fresh : ¬StaleRead scan.state)
      (ran : initializeExclusive wire clock disk = (.ok opened, after)) :
      CursorTaken wire after.file opened.cursor
  | appended {file after : JournalFile} {event : AuditEvent} {cursor : Option JournalCursor}
      {next : JournalCursor} (unusable : resumable file cursor = false)
      (ran : appendLocked wire file event cursor = (.ok next, after)) :
      CursorTaken wire after next
  | resumed {earlier after : JournalFile} {cursor next : JournalCursor} {event : AuditEvent}
      {extension : Bytes} (held : CursorTaken wire earlier cursor)
      (ran : appendLocked wire (earlier.extend extension) event (some cursor) = (.ok next, after)) :
      CursorTaken wire after next

private theorem appendLocked_exact (laws : wire.Laws) {after : JournalFile} {event : AuditEvent}
    {cursor : Option JournalCursor} {next : JournalCursor}
    (verified : resumeVerifiedState wire file cursor = fullScan wire true file.bytes)
    (ran : appendLocked wire file event cursor = (.ok next, after)) :
    ∃ state, Replays wire after.bytes state ∧ next = atEndOf after state := by
  unfold appendLocked at ran
  rw [verified] at ran
  cases scanned : fullScan wire true file.bytes with
  | error error => simp [scanned] at ran
  | ok scan =>
  simp only [scanned] at ran
  split at ran
  · cases ran
  split at ran
  · cases ran
  rename_i tail bytes written
  obtain ⟨line, writing, rfl⟩ := appendToFile_eq_ok_iff.mp written
  cases ran
  rw [trackOperationState_tail] at writing
  exact ⟨_, (replays_of_fullScan scanned).append laws writing, rfl⟩

private theorem agreesWithFullScan_exclusive_iff (laws : wire.Laws) {clock : Uuid → Timestamp}
    {disk after : JournalDisk} {opened : OpenedJournal} {scan : Scan}
    (scanned : fullScan wire true disk.file.bytes = .ok scan)
    (ran : initializeExclusive wire clock disk = (.ok opened, after)) :
    AgreesWithFullScan wire after.file opened.cursor ↔ ¬StaleRead scan.state := by
  have keyed := keyed_of_fullScan scanned
  obtain ⟨recovered, _, done, _⟩ := initializeExclusive_spec laws scanned ran
  rw [← done.unresolved_eq_iff keyed, done.cursor]
  constructor
  · intro agrees
    exact congrArg JournalState.unresolved (state_of_agreesWithFullScan done.replays agrees)
  · intro same
    rw [same, ← done.pending keyed]
    exact agreesWithFullScan_atEndOf fun _ => done.replays

private theorem CursorTaken.agrees (laws : wire.Laws) {cursor : JournalCursor}
    (taken : CursorTaken wire file cursor) :
    AgreesWithFullScan wire file cursor := by
  induction taken with
  | @shared disk opened ran =>
    unfold initializeShared at ran
    cases scanned : fullScan wire false disk.file.bytes with
    | error error => simp [scanned] at ran
    | ok scan =>
      simp only [scanned, Except.ok.injEq] at ran
      rw [← ran, fromVerified_verifiedJournal (keyed_of_fullScan scanned)]
      exact agreesWithFullScan_atEndOf fun ends => replays_of_endsLine ends scanned
  | exclusive scanned fresh ran =>
    exact (agreesWithFullScan_exclusive_iff laws scanned ran).mpr fresh
  | appended unusable ran =>
    obtain ⟨state, replays, rfl⟩ :=
      appendLocked_exact laws (resumeVerifiedState_of_unusable wire unusable) ran
    exact agreesWithFullScan_atEndOf fun _ => replays
  | resumed held ran ih =>
    obtain ⟨state, replays, rfl⟩ := appendLocked_exact laws (ih _) ran
    exact agreesWithFullScan_atEndOf fun _ => replays

/-- Incremental verification agrees with a full scan for every cursor, if every
recovery ran on a journal without a stale read; and each recovery that did not
hands out a cursor that disagrees. -/
theorem resume_agrees_with_full_scan {wire : JournalWire} (laws : wire.Laws) :
    (∀ file cursor, CursorTaken wire file cursor → AgreesWithFullScan wire file cursor) ∧
    ∀ clock disk after opened scan, fullScan wire true disk.file.bytes = .ok scan →
      initializeExclusive wire clock disk = (.ok opened, after) →
        (AgreesWithFullScan wire after.file opened.cursor ↔ ¬StaleRead scan.state) :=
  ⟨fun _ _ taken => taken.agrees laws,
    fun _ _ _ _ _ scanned ran => agreesWithFullScan_exclusive_iff laws scanned ran⟩

/-- The cursor of a process that recovered one lost write. -/
theorem resume_agrees_with_full_scan_lost_write :
    ∃ tail bytes opened after,
      writeLog jsonWire [sampleWriteEvent .intent .pending] = .ok (tail, bytes) ∧
      initializeExclusive jsonWire (fun _ => "2026-01-02T00:00:00Z") (journalDisk bytes) =
        (.ok opened, after) ∧
      AgreesWithFullScan jsonWire after.file opened.cursor := by
  obtain ⟨tail, bytes, opened, after, written, valid, ran⟩ := initializeExclusive_writeLog
    jsonWire_laws (fun _ => "2026-01-02T00:00:00Z") [sampleWriteEvent .intent .pending]
    (by decide) (by decide)
  refine ⟨tail, bytes, opened, after, written, ran,
    ((resume_agrees_with_full_scan jsonWire_laws).2 _ _ _ _ _ (valid.fullScan true) ran).mpr ?_⟩
  rintro ⟨id, intent, pending, read, present⟩
  simp [operationState, JournalState.withTail, unresolved_trackOperationState, sampleWriteEvent,
    JournalState.genesis] at present

/-- After recovery met a read under the id of an unresolved write, its own cursor and
a scan of the file it wrote disagree about that write. -/
theorem resume_remembers_stale_read :
    ∃ tail bytes opened after resumed scanned,
      writeLog jsonWire [sampleWriteEvent .outcome .unknown, sampleReadIntent] = .ok (tail, bytes) ∧
      initializeExclusive jsonWire (fun _ => "2026-01-02T00:00:00Z") (journalDisk bytes) =
        (.ok opened, after) ∧
      resumeVerifiedState jsonWire after.file (some opened.cursor) = .ok resumed ∧
      fullScan jsonWire true after.file.bytes = .ok scanned ∧
      resumed.state.unresolved[(1 : Uuid)]? = some 7 ∧
      scanned.state.unresolved[(1 : Uuid)]? = none := by
  obtain ⟨tail, bytes, opened, after, written, valid, ran⟩ := initializeExclusive_writeLog
    jsonWire_laws (fun _ => "2026-01-02T00:00:00Z")
    [sampleWriteEvent .outcome .unknown, sampleReadIntent] (by decide) (by decide)
  obtain ⟨recovered, replays, _, cleared, kept, cursor⟩ :=
    cursor_of_staleRead jsonWire_laws (valid.fullScan true) ran 1 sampleReadIntent rfl rfl
  let cached : JournalState :=
    { tail := recovered.tail, pending := ∅, unresolved := opened.unresolved }
  refine ⟨tail, bytes, opened, after, { state := cached, recent := [], file := after.file.bytes },
    _, written, ran, ?_, replays.fullScan true, kept, cleared⟩
  rw [cursor]
  exact resumeVerifiedState_atEndOf jsonWire replays.ends _

end Bookie.Storage
