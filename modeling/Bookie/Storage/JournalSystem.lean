/-
The journal as a system of processes. Every step is one critical section of the
file lock, or one stopped by a crash at any byte. Along every run the settled file
is an admitted log, and a cursor that would still be used covers its journal.
-/

import Bookie.Storage.JournalSettle

namespace Bookie.Storage

open Text Policy List JournalState

/-- The disk and every cursor handed out so far. Which process holds a cursor does
not matter: any of them may be used at any later step, or lost. -/
structure JournalSystem where
  disk : JournalDisk
  cursors : List JournalCursor

def handOut : Except StorageError JournalCursor → List JournalCursor
  | .ok cursor => [cursor]
  | .error _ => []

def Held (system : JournalSystem) (cursor : Option JournalCursor) : Prop :=
  ∀ held, cursor = some held → held ∈ system.cursors

/-- `append_locked` has verified and admitted the event and is about to write `line`. -/
structure BeginsWrite (wire : JournalWire) (file : JournalFile) (event : AuditEvent)
    (cursor : Option JournalCursor) (scan : Scan) (tail : JournalTail) (line : Bytes) : Prop where
  resumed : resumeVerifiedState wire file cursor = .ok scan
  admitted : rejectNewWriteIntent event scan.state = .ok ()
  writing : nextLine wire scan.state.tail event = .ok (tail, line)

inductive Step (wire : JournalWire) : JournalSystem → JournalSystem → Prop
  | append (system : JournalSystem) (event : AuditEvent) (cursor : Option JournalCursor)
      (held : Held system cursor) :
      Step wire system
        { disk := { system.disk with
            file := (appendLocked wire system.disk.file event cursor).2 }
          cursors := handOut (appendLocked wire system.disk.file event cursor).1 ++ system.cursors }
  | appendTorn (system : JournalSystem) {event : AuditEvent} {cursor : Option JournalCursor}
      {scan : Scan} {tail : JournalTail} {line : Bytes} (cut : Nat) (held : Held system cursor)
      (begins : BeginsWrite wire system.disk.file event cursor scan tail line) :
      Step wire system { system with disk := system.disk.withBytes (scan.file ++ line.take cut) }
  | openShared (system : JournalSystem) {opened : OpenedJournal}
      (ran : initializeShared wire system.disk = .ok opened) :
      Step wire system { system with cursors := opened.cursor :: system.cursors }
  | openExclusive (system : JournalSystem) (clock : Uuid → Timestamp) :
      Step wire system
        { disk := (initializeExclusive wire clock system.disk).2
          cursors := handOut ((initializeExclusive wire clock system.disk).1.map
            OpenedJournal.cursor) ++ system.cursors }
  | openTorn (system : JournalSystem) (clock : Uuid → Timestamp) {legacy : Option Nat}
      {moved : JournalDisk} {scan : Scan} (cut : Nat)
      (rotated : rotateLegacyJournal wire system.disk = .ok (legacy, moved))
      (scanned : fullScan wire true moved.file.bytes = .ok scan) :
      Step wire system
        { system with
          disk := moved.withBytes
            ((recoverPendingIntents wire clock (verifiedJournal scan.state).pendingIntents
              scan.state.tail scan.state.unresolved scan.file).2.take (scan.file.length + cut)) }

inductive Reachable (wire : JournalWire) : JournalSystem → Prop
  | initial (disk : JournalDisk) (empty : disk.file.bytes = [])
      (named : disk.file.inode < disk.nextInode) : Reachable wire { disk := disk, cursors := [] }
  | step {before after : JournalSystem} (reached : Reachable wire before)
      (next : Step wire before after) : Reachable wire after

/-! ### The invariant -/

/-- The cursor stands in `file`, and if it stands at a line start it covers what is
before it. -/
structure CursorCovers (wire : JournalWire) (file : Bytes) (cursor : JournalCursor) : Prop where
  within : cursor.offset ≤ file.length
  covers : EndsLine (file.take cursor.offset) →
    ∃ state, Replays wire (file.take cursor.offset) state ∧ Covers cursor.state state

structure Sound (wire : JournalWire) (system : JournalSystem) (file : Bytes)
    (state : JournalState) : Prop where
  settles : Settles wire system.disk.file.bytes file state
  admitted : Admitted (fileEvents wire file)
  cursors : ∀ cursor ∈ system.cursors, cursor.inode = system.disk.file.inode →
    CursorCovers wire file cursor
  named : system.disk.file.inode < system.disk.nextInode
  cursorsNamed : ∀ cursor ∈ system.cursors, cursor.inode < system.disk.nextInode

variable {wire : JournalWire} {file : Bytes} {state : JournalState} {cursor : JournalCursor}

private theorem CursorCovers.mono {grown : Bytes} (stands : CursorCovers wire file cursor)
    (grows : file <+: grown) : CursorCovers wire grown cursor := by
  obtain ⟨added, rfl⟩ := grows
  have same : (file ++ added).take cursor.offset = file.take cursor.offset :=
    take_append_of_le_length stands.within
  exact
    { within := by
        rw [length_append]
        exact stands.within.trans (Nat.le_add_right _ _)
      covers := by
        rw [same]
        exact stands.covers }

private theorem cursorCovers_end (atEnd : cursor.offset = file.length)
    (valid : Replays wire file state)
    (covers : Covers cursor.state state) : CursorCovers wire file cursor :=
  { within := atEnd.le
    covers := fun _ => ⟨state, by rw [atEnd, take_length]; exact valid, covers⟩ }

private theorem take_eq_of_settles {bytes : Bytes} (settles : Settles wire bytes file state)
    {count : Nat} (inBytes : count ≤ bytes.length) (inFile : count ≤ file.length) :
    bytes.take count = file.take count := by
  rcases fullScan_file settles.scanned with ⟨rest, grown⟩ | ⟨rest, grown⟩
  · rw [← grown]
    exact take_append_of_le_length inFile
  · change bytes ++ rest = file at grown
    rw [← grown]
    exact (take_append_of_le_length inBytes).symm

/-- Resuming from a cursor that covers its place finds the settled file, and a state
that covers the journal's. -/
private theorem resumeVerifiedState_covers {file : JournalFile} {settled : Bytes}
    (settles : Settles wire file.bytes settled state) {cursor : Option JournalCursor}
    (stands : ∀ held, cursor = some held → held.inode = file.inode →
      CursorCovers wire settled held) :
    ∃ cached, resumeVerifiedState wire file cursor =
        .ok { state := cached, recent := [], file := settled } ∧ Covers cached state := by
  by_cases usable : resumable file cursor = true
  · cases cursor with
    | none => cases usable
    | some held =>
    rw [resumeVerifiedState_of_usable wire usable]
    simp only [resumable, JournalCursor.stillDescribes, Bool.and_eq_true, beq_iff_eq,
      decide_eq_true_eq] at usable
    obtain ⟨⟨⟨_, sameInode⟩, inBytes⟩, starts⟩ := usable
    have place := stands held rfl sameInode
    have front := take_eq_of_settles settles inBytes place.within
    obtain ⟨lines, last, split, linesEnd, plain⟩ :=
      exists_terminated_split (file.bytes.drop held.offset)
    have whole : file.bytes = settled.take held.offset ++ lines ++ last := by
      rw [← front, append_assoc, ← split, take_append_drop]
    have width : (settled.take held.offset).length = held.offset :=
      length_take_of_le place.within
    have ends : EndsLine (settled.take held.offset) := by
      refine (startsALine_append (settled.take held.offset) (lines ++ last)).mp ?_
      rw [width, ← append_assoc, ← whole]
      exact starts
    obtain ⟨before, valid, covers⟩ := place.covers ends
    have full := settles.scanned
    rw [whole, fullScan_eq wire true _ last (ends.append linesEnd) plain,
      readLines_append _ _ ends, acceptLines_append, valid.accepted] at full
    have resumed := scanRecords_eq wire true (settled.take held.offset) lines last held.state
      linesEnd plain
    rw [width, ← whole] at resumed
    rw [resumed]
    obtain ⟨reached, accepted, full⟩ := ok_of_bind full
    obtain ⟨⟨last, rest⟩, scanned, same⟩ := ok_of_map full
    cases same
    obtain ⟨cachedReached, cachedAccepted, coversReached⟩ := covers_acceptLines covers accepted
    obtain ⟨cached, cachedScanned, coversLast⟩ := covers_scanLast coversReached scanned
    refine ⟨cached, ?_, coversLast⟩
    simp [cachedAccepted, Except.bind, cachedScanned, Except.map]
  · refine ⟨state, ?_, Covers.refl state⟩
    rw [resumeVerifiedState_of_unusable wire (by simpa using usable)]
    exact settles.scanned

/-! ### Every step keeps it -/

/-- Outcomes are never refused. -/
private theorem Admitted.recover {log : List AuditEvent} (admitted : Admitted log)
    (clock : Uuid → Timestamp) (closed : List AuditEvent) :
    Admitted (log ++ recoveryEvents clock closed) := by
  induction closed generalizing log with
  | nil => simpa [recoveryEvents] using admitted
  | cons intent closed ih =>
    have next := @Admitted.snoc log (recoveryOutcome (clock intent.operationId) intent)
      admitted (by simp [rejectNewWriteIntent, recoveryOutcome])
    simpa [recoveryEvents] using ih next

section

variable {wire : JournalWire} {system : JournalSystem} {file : Bytes} {state : JournalState}

/-- Growing the settled file keeps the invariant, with any cursors that cover it. -/
private theorem Sound.grow (sound : Sound wire system file state) {bytes grown : Bytes}
    {reached : JournalState} (settles : Settles wire bytes grown reached) (grows : file <+: grown)
    (admitted : Admitted (fileEvents wire grown)) (fresh : List JournalCursor)
    (covers : ∀ cursor ∈ fresh, cursor.inode = system.disk.file.inode ∧
      CursorCovers wire grown cursor) :
    Sound wire { disk := system.disk.withBytes bytes, cursors := fresh ++ system.cursors }
      grown reached :=
  { settles := settles
    admitted := admitted
    cursors := by
      intro cursor member sameInode
      rcases mem_append.mp member with new | old
      · exact (covers cursor new).2
      · exact (sound.cursors cursor old sameInode).mono grows
    named := sound.named
    cursorsNamed := by
      intro cursor member
      rcases mem_append.mp member with new | old
      · rw [(covers cursor new).1]
        exact sound.named
      · exact sound.cursorsNamed cursor old }

private theorem Sound.settled (sound : Sound wire system file state) :
    Sound wire { disk := system.disk.withBytes file, cursors := system.cursors } file state :=
  sound.grow sound.settles.replays.settles (prefix_refl _) sound.admitted [] (by simp)

variable {event : AuditEvent} {cursor : Option JournalCursor} {tail : JournalTail} {line : Bytes}

private theorem Sound.begins (sound : Sound wire system file state) (held : Held system cursor)
    {scan : Scan} (begins : BeginsWrite wire system.disk.file event cursor scan tail line) :
    scan.file = file ∧ Covers scan.state state ∧
      nextLine wire state.tail event = .ok (tail, line) ∧
      rejectNewWriteIntent event state = .ok () := by
  obtain ⟨cached, resumed, covers⟩ := resumeVerifiedState_covers sound.settles
    (fun used same inode => sound.cursors used (held used same) inode)
  rw [begins.resumed] at resumed
  cases resumed
  refine ⟨rfl, covers, ?_, covers.admits begins.admitted⟩
  rw [← covers.tail]
  exact begins.writing

private theorem Admitted.write (laws : wire.Laws) (log : Admitted (fileEvents wire file))
    (valid : Replays wire file state) (writing : nextLine wire state.tail event = .ok (tail, line))
    (admitted : rejectNewWriteIntent event state = .ok ()) :
    Admitted (fileEvents wire (file ++ line)) := by
  rw [fileEvents_append laws valid.ends writing]
  rw [valid.operationState] at admitted
  exact log.snoc admitted

private theorem Sound.append (laws : wire.Laws) (sound : Sound wire system file state)
    (event : AuditEvent) (held : Held system cursor) :
    ∃ file state, Sound wire
      { disk := { system.disk with file := (appendLocked wire system.disk.file event cursor).2 }
        cursors := handOut (appendLocked wire system.disk.file event cursor).1 ++ system.cursors }
      file state := by
  obtain ⟨cached, resumed, covers⟩ := resumeVerifiedState_covers sound.settles
    (fun used same inode => sound.cursors used (held used same) inode)
  have valid := sound.settles.replays
  simp only [appendLocked, resumed]
  cases admitted : rejectNewWriteIntent event cached with
  | error error => exact ⟨file, state, sound.settled⟩
  | ok _ =>
  cases written : appendToFile wire file (trackOperationState cached event).tail event with
  | error error => exact ⟨file, state, sound.settled⟩
  | ok result =>
  obtain ⟨tail, bytes⟩ := result
  obtain ⟨line, writing, rfl⟩ := appendToFile_eq_ok_iff.mp written
  rw [trackOperationState_tail, covers.tail] at writing
  have grown := valid.append laws writing
  refine ⟨file ++ line, state.advance event tail, sound.grow grown.settles
    (prefix_append _ _) (sound.admitted.write laws valid writing
      (covers.admits admitted)) _ ?_⟩
  intro cursor member
  cases mem_singleton.mp member
  exact ⟨rfl, cursorCovers_end rfl grown (covers.advance event tail)⟩

private theorem Sound.appendTorn (laws : wire.Laws) (sound : Sound wire system file state)
    {scan : Scan} (cut : Nat) (held : Held system cursor)
    (begins : BeginsWrite wire system.disk.file event cursor scan tail line) :
    ∃ file state, Sound wire
      { system with disk := system.disk.withBytes (scan.file ++ line.take cut) } file state := by
  obtain ⟨rfl, _, writing, admitted⟩ := sound.begins held begins
  have valid := sound.settles.replays
  rcases settles_torn laws valid writing cut with before | after
  · exact ⟨_, _, sound.grow before (prefix_refl _) sound.admitted [] (by simp)⟩
  · exact ⟨_, _, sound.grow after (prefix_append _ _)
      (sound.admitted.write laws valid writing admitted) [] (by simp)⟩

variable {opened : OpenedJournal}

/-- A journal that the strict scan accepts is at its settled end, or misses only the
last terminator; either way the cursor covers it. -/
private theorem Sound.openShared (sound : Sound wire system file state)
    (ran : initializeShared wire system.disk = .ok opened) :
    Sound wire { system with cursors := opened.cursor :: system.cursors } file state := by
  unfold initializeShared at ran
  cases scanned : fullScan wire false system.disk.file.bytes with
  | error error => simp [scanned] at ran
  | ok scan =>
  simp only [scanned, Except.ok.injEq] at ran
  have grows := sound.settles.strict scan scanned
  have stands : CursorCovers wire file opened.cursor := by
    rw [← ran, fromVerified_verifiedJournal (keyed_of_fullScan scanned)]
    exact
      { within := grows.length_le
        covers := by
          obtain ⟨rest, rfl⟩ := grows
          rw [JournalCursor.atEndOf, take_left]
          exact fun ends => ⟨scan.state, replays_of_endsLine ends scanned, Covers.refl _⟩ }
  refine sound.grow sound.settles (prefix_refl _) sound.admitted [opened.cursor] ?_
  intro cursor member
  cases mem_singleton.mp member
  exact ⟨by rw [← ran]; rfl, stands⟩

/-- A rotation leaves the journal alone or replaces it by an empty file under a new
inode, where no cursor can stand. -/
private theorem Sound.rotate (sound : Sound wire system file state) {legacy : Option Nat}
    {moved : JournalDisk} (rotated : rotateLegacyJournal wire system.disk = .ok (legacy, moved)) :
    ∃ file state, Sound wire { system with disk := moved } file state := by
  rcases rotateLegacyJournal_of_fullScan sound.settles.scanned rotated with rfl | emptied
  · exact ⟨file, state, sound⟩
  refine ⟨[], genesis, ?_⟩
  exact
    { settles := by
        rw [emptied.bytes]
        exact (replays_nil wire).settles
      admitted := Admitted.nil
      cursors := by
        intro cursor member sameInode
        have older := sound.cursorsNamed cursor member
        rw [emptied.inode] at sameInode
        omega
      named := by
        rw [emptied.inode, emptied.nextInode]
        exact Nat.lt_succ_self _
      cursorsNamed := by
        intro cursor member
        have older := sound.cursorsNamed cursor member
        rw [emptied.nextInode]
        omega }

private theorem Sound.recoverTorn (laws : wire.Laws) (sound : Sound wire system file state)
    (clock : Uuid → Timestamp) (cut : Nat) :
    ∃ grown reached, Sound wire
      { system with
        disk := system.disk.withBytes
          ((recoverPendingIntents wire clock (verifiedJournal state).pendingIntents state.tail
            state.unresolved file).2.take (file.length + cut)) } grown reached := by
  obtain ⟨added, loop, torn⟩ := settles_recovery laws clock (verifiedJournal state).pendingIntents
    sound.settles.replays state.unresolved
  obtain ⟨grown, reached, closed, settles, grows, events⟩ := torn cut
  refine ⟨grown, reached, ?_⟩
  rw [loop, take_length_add_append]
  refine sound.grow settles grows ?_ [] (by simp)
  rw [events]
  exact sound.admitted.recover clock closed

private theorem Recovered.covers {clock : Uuid → Timestamp} {file : JournalFile}
    {state recovered : JournalState} (keyed : Keyed state)
    (done : Recovered wire clock state opened file recovered) :
    Covers opened.cursor.state recovered := by
  rw [done.cursor]
  exact
    { tail := rfl
      pending := (done.pending keyed).symm
      unresolved := by
        intro id connection found
        rw [done.recorded keyed] at found
        refine (done.remembered keyed id).trans ?_
        cases pending : state.pending[id]? with
        | none => simpa [pending] using found
        | some intent =>
          by_cases write : intent.operationClass.isWrite = true
          · simpa [pending, write] using found
          · simp [pending, write] at found }

private theorem Sound.openExclusive (laws : wire.Laws) (sound : Sound wire system file state)
    (clock : Uuid → Timestamp) :
    ∃ file state, Sound wire
      { disk := (initializeExclusive wire clock system.disk).2
        cursors := handOut ((initializeExclusive wire clock system.disk).1.map
          OpenedJournal.cursor) ++ system.cursors } file state := by
  cases rotated : rotateLegacyJournal wire system.disk with
  | error error =>
    simp only [initializeExclusive, rotated]
    exact ⟨file, state, sound⟩
  | ok result =>
  obtain ⟨legacy, moved⟩ := result
  obtain ⟨file, state, sound⟩ := sound.rotate rotated
  have scanned := sound.settles.scanned
  simp only [initializeExclusive, rotated]
  cases ran : recoverJournal wire clock legacy moved with
  | mk outcome after =>
  cases outcome with
  | error error =>
    simp only [recoverJournal, scanned] at ran
    split at ran <;> cases ran
    obtain ⟨grown, reached, torn⟩ := sound.recoverTorn laws clock
      (recoverPendingIntents wire clock (verifiedJournal state).pendingIntents state.tail
        state.unresolved file).2.length
    rw [take_of_length_le (Nat.le_add_left _ _)] at torn
    exact ⟨grown, reached, torn⟩
  | ok opened =>
  obtain ⟨recovered, added, rfl, done, events⟩ := recoverJournal_spec laws scanned ran
  refine ⟨file ++ added, recovered, sound.grow done.replays.settles
    (prefix_append _ _) ?_ [opened.cursor] ?_⟩
  · exact events ▸ sound.admitted.recover clock _
  intro fresh member
  cases mem_singleton.mp member
  have covers := done.covers (keyed_of_fullScan scanned)
  rw [done.cursor] at covers ⊢
  exact ⟨rfl, cursorCovers_end rfl done.replays covers⟩

private theorem Sound.step (laws : wire.Laws) {after : JournalSystem}
    (sound : Sound wire system file state) (next : Step wire system after) :
    ∃ file state, Sound wire after file state := by
  cases next with
  | append event cursor held => exact sound.append laws event held
  | appendTorn cut held begins => exact sound.appendTorn laws cut held begins
  | openShared ran => exact ⟨file, state, sound.openShared ran⟩
  | openExclusive clock => exact sound.openExclusive laws clock
  | openTorn clock cut rotated scanned =>
  obtain ⟨file, state, sound⟩ := sound.rotate rotated
  have same := sound.settles.scanned.symm.trans scanned
  cases same
  exact sound.recoverTorn laws clock cut

end

private theorem Reachable.sound {wire : JournalWire} (laws : wire.Laws) {system : JournalSystem}
    (reachable : Reachable wire system) : ∃ file state, Sound wire system file state := by
  induction reachable with
  | initial disk empty named =>
    refine ⟨[], genesis, ?_⟩
    exact
      { settles := by
          rw [empty]
          exact (replays_nil wire).settles
        admitted := Admitted.nil
        cursors := by simp
        named := named
        cursorsNamed := by simp }
  | step _ next ih =>
    obtain ⟨file, state, sound⟩ := ih
    exact sound.step laws next

/-- Journal write exclusion. In every reachable state of the journal the pending
write intents have disjoint scopes, and an append that gets as far as writing a
write intent finds its scope free in the journal itself, whichever cursor it
started from. -/
theorem journal_write_exclusion {wire : JournalWire} (laws : wire.Laws) {system : JournalSystem}
    (reachable : Reachable wire system) :
    ∃ scan, fullScan wire true system.disk.file.bytes = .ok scan ∧ ExclusiveWrites scan.state ∧
      ∀ event cursor resumed tail line, Held system cursor → claimsWriteScope event = true →
        BeginsWrite wire system.disk.file event cursor resumed tail line →
          ScopeFree scan.state event.connectionId := by
  obtain ⟨file, state, sound⟩ := reachable.sound laws
  refine ⟨_, sound.settles.scanned, ?_, ?_⟩
  · rw [sound.settles.replays.operationState]
    exact sound.admitted.exclusive
  · intro event cursor resumed tail line held claims begins
    obtain ⟨_, _, _, admitted⟩ := sound.begins held begins
    exact (rejectNewWriteIntent_eq_ok_iff event state).mp admitted claims

/-- The state after one write intent was appended to an empty journal. -/
theorem journal_write_exclusion_one_intent :
    ∃ system scan, Reachable jsonWire system ∧
      fullScan jsonWire true system.disk.file.bytes = .ok scan ∧ ExclusiveWrites scan.state ∧
      scan.state.pending[(1 : Uuid)]? = some (sampleWriteEvent .intent .pending) := by
  have start : Reachable jsonWire { disk := journalDisk [], cursors := [] } :=
    Reachable.initial _ rfl (by decide)
  have reached :=
    start.step (Step.append _ (sampleWriteEvent .intent .pending) none (by simp [Held]))
  obtain ⟨scan, scanned, exclusive, _⟩ := journal_write_exclusion jsonWire_laws reached
  obtain ⟨tail, line, writing, _⟩ := nextLine_of_room jsonWire JournalState.genesis.tail
    (sampleWriteEvent .intent .pending) (by decide)
  have valid := (replays_nil jsonWire).append jsonWire_laws writing
  have opened : resumeVerifiedState jsonWire (journalDisk []).file none = _ :=
    (replays_nil jsonWire).fullScan true
  have admitted : rejectNewWriteIntent (sampleWriteEvent .intent .pending) JournalState.genesis =
      .ok () := rfl
  have appended := appendToFile_eq_ok_iff.mpr ⟨line, writing, Eq.refl ([] ++ line)⟩
  have bytes : (appendLocked jsonWire (journalDisk []).file (sampleWriteEvent .intent .pending)
      none).2.bytes = [] ++ line := by
    simp [appendLocked, opened, admitted, appended]
  refine ⟨_, scan, reached, scanned, exclusive, ?_⟩
  simp only [bytes, valid.fullScan true, Except.ok.injEq] at scanned
  rw [← scanned]
  rfl

end Bookie.Storage
