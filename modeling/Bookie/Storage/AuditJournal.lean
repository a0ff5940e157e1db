/-
The operations of the audit journal on its file. The locks are not modelled as
objects: each operation is one atomic step on the disk. I/O failures are left out; a
write that stops part way is a crash, treated with the system of steps.
-/

import Bookie.Storage.JournalScan

namespace Bookie.Storage

open Text Policy

/-- The journal file. Device and inode identify it across a rename. -/
structure JournalFile where
  bytes : Bytes
  device : Nat
  inode : Nat

structure JournalCursor where
  state : JournalState
  offset : Nat
  device : Nat
  inode : Nat

def JournalCursor.atEndOf (file : JournalFile) (state : JournalState) : JournalCursor :=
  { state := state
    offset := file.bytes.length
    device := file.device
    inode := file.inode }

def JournalCursor.stillDescribes (cursor : JournalCursor) (file : JournalFile) : Bool :=
  cursor.device == file.device && cursor.inode == file.inode && cursor.offset ≤ file.bytes.length

def startsALine (bytes : Bytes) : Nat → Bool
  | 0 => true
  | previous + 1 => bytes[previous]? == some newline

def resumable (file : JournalFile) : Option JournalCursor → Bool
  | some cursor => cursor.stillDescribes file && startsALine file.bytes cursor.offset
  | none => false

variable (wire : JournalWire)

def resumeVerifiedState (file : JournalFile) (cursor : Option JournalCursor) :
    Except StorageError Scan :=
  match cursor, resumable file cursor with
  | some cursor, true => scanRecords wire file.bytes cursor.state cursor.offset true none
  | _, _ => fullScan wire true file.bytes

theorem resumeVerifiedState_of_usable {file : JournalFile} {cursor : JournalCursor}
    (usable : resumable file (some cursor) = true) :
    resumeVerifiedState wire file (some cursor) =
      scanRecords wire file.bytes cursor.state cursor.offset true none := by
  unfold resumeVerifiedState
  rw [usable]

theorem resumeVerifiedState_of_unusable {file : JournalFile} {cursor : Option JournalCursor}
    (unusable : resumable file cursor = false) :
    resumeVerifiedState wire file cursor = fullScan wire true file.bytes := by
  unfold resumeVerifiedState
  rw [unusable]
  cases cursor <;> rfl

/-- `append_locked`. The file is returned also on failure, since the scan may
have repaired its last line before the event is refused. -/
def appendLocked (file : JournalFile) (event : AuditEvent) (cursor : Option JournalCursor) :
    Except StorageError JournalCursor × JournalFile :=
  match resumeVerifiedState wire file cursor with
  | .error error => (.error error, file)
  | .ok scan =>
    let repaired := { file with bytes := scan.file }
    match rejectNewWriteIntent event scan.state with
    | .error error => (.error error, repaired)
    | .ok () =>
      let state := trackOperationState scan.state event
      match appendToFile wire repaired.bytes state.tail event with
      | .error error => (.error error, repaired)
      | .ok (tail, bytes) =>
        let written := { file with bytes := bytes }
        (.ok (JournalCursor.atEndOf written { state with tail := tail }), written)

structure VerifiedJournal where
  tail : JournalTail
  pendingIntents : List AuditEvent
  unresolvedOperationConnections : UuidMap Uuid

def verifiedJournal (state : JournalState) : VerifiedJournal :=
  { tail := state.tail
    pendingIntents := state.pending.values.mergeSort
      fun left right => left.operationId.toNat ≤ right.operationId.toNat
    unresolvedOperationConnections := state.unresolved }

def JournalState.fromVerified (verified : VerifiedJournal) : JournalState :=
  { tail := verified.tail
    pending := Std.ExtTreeMap.ofList
      (verified.pendingIntents.map fun event => (event.operationId, event))
    unresolved := verified.unresolvedOperationConnections }

def recoveryOutcome (now : Timestamp) (intent : AuditEvent) : AuditEvent :=
  { intent with
    timestamp := now
    phase := .outcome
    terminalStatus := .unknown
    transactionOutcome :=
      match intent.operationClass with
      | .transactionCommit | .transactionRollback => .unknown
      | _ => .notApplicable
    errorCategory := some .audit
    error := some "operation outcome was unknown after audit journal recovery"
    rowsAffected := none
    durationMs := none }

/-- The loop of `recover_pending_intents`; `clock` gives the time read for each intent. -/
def recoverPendingIntents (wire : JournalWire) (clock : Uuid → Timestamp) :
    List AuditEvent → JournalTail → UuidMap Uuid → Bytes →
      Except StorageError (JournalTail × UuidMap Uuid) × Bytes
  | [], tail, unresolved, file => (.ok (tail, unresolved), file)
  | intent :: intents, tail, unresolved, file =>
    match appendToFile wire file tail (recoveryOutcome (clock intent.operationId) intent) with
    | .error error => (.error error, file)
    | .ok (tail, file) =>
      recoverPendingIntents wire clock intents tail
        (if intent.operationClass.isWrite then
          unresolved.insert intent.operationId intent.connectionId
        else unresolved) file

/-- `bytes.split` also delivers the empty piece after a final terminator, which
is blank and skipped like any other. -/
def firstRecordLine (bytes : Bytes) : Option Bytes :=
  ((readLines bytes).map Line.content).find? fun line => !isBlank line

def parseRecord (line : Bytes) : Except String JournalRecord :=
  match wire.parseRaw line with
  | .error error => .error error
  | .ok raw =>
    match wire.parseEvent raw.event with
    | .error error => .error error
    | .ok event =>
      .ok { seq := raw.seq, prevHash := raw.prevHash, hash := raw.hash, event := event }

def verifyLegacyLines (wire : JournalWire) :
    List Line → JournalTail → Except StorageError JournalTail
  | [], tail => .ok tail
  | line :: lines, tail =>
    if isBlank line.content then verifyLegacyLines wire lines tail
    else
      match wire.parseLegacy line.content with
      | .error error => .error (.serde error)
      | .ok record =>
        match validateChainFields wire record.seq record.prevHash record.hash tail
            record.payload with
        | .error error => .error error
        | .ok () =>
          verifyLegacyLines wire lines { seq := record.seq, hash := record.hash }

def verifyLegacyChain (bytes : Bytes) : Except StorageError Nat :=
  (verifyLegacyLines wire (readLines bytes) { seq := 0, hash := genesisHash }).map JournalTail.seq

/-- The journal with the backup an earlier rotation may have left beside it. A
missing file is an empty one: opening creates it. -/
structure JournalDisk where
  legacyPath : String
  file : JournalFile
  legacyBackup : Option Bytes
  nextInode : Nat

def JournalDisk.withBytes (disk : JournalDisk) (bytes : Bytes) : JournalDisk :=
  { disk with file := { disk.file with bytes := bytes } }

/-- The number of legacy records moved aside, with the disk after the rename. -/
def rotateLegacyJournal (disk : JournalDisk) : Except StorageError (Option Nat × JournalDisk) :=
  match firstRecordLine disk.file.bytes with
  | none => .ok (none, disk)
  | some line =>
    match parseRecord wire line with
    | .ok _ => .ok (none, disk)
    | .error _ =>
      match verifyLegacyChain wire disk.file.bytes with
      | .error error => .error error
      | .ok records =>
        if disk.legacyBackup.isSome then
          .error (.schema s!"legacy audit journal backup already exists at {disk.legacyPath}")
        else
          .ok (some records,
            { disk with
              file := { disk.file with bytes := [], inode := disk.nextInode }
              legacyBackup := some disk.file.bytes
              nextInode := disk.nextInode + 1 })

structure AuditJournalRecovery where
  legacyJournal : Option Nat
  recoveredOperationIds : List Uuid
  unresolvedOperationIds : List Uuid
  unresolvedConnectionIds : List Uuid
  unresolvedGlobalWrite : Bool

def sortUuids (ids : List Uuid) : List Uuid :=
  ids.mergeSort fun left right => left.toNat ≤ right.toNat

def sortedOperationIds (unresolved : UuidMap Uuid) : List Uuid := sortUuids unresolved.keys

def unresolvedConnectionIds (verified : VerifiedJournal) : List Uuid :=
  (sortUuids ((verified.unresolvedOperationConnections.values ++
      (verified.pendingIntents.filter fun event => event.operationClass.isWrite).map
        AuditEvent.connectionId).filter fun id => !id.isNil)).destutter (· ≠ ·)

def hasUnresolvedGlobalWrite (verified : VerifiedJournal) : Bool :=
  verified.unresolvedOperationConnections.values.any Uuid.isNil ||
    verified.pendingIntents.any fun event =>
      event.operationClass.isWrite && event.connectionId.isNil

/-- What `initialize` hands out; `unresolved` is the map its report is made from. -/
structure OpenedJournal where
  recovery : AuditJournalRecovery
  unresolved : UuidMap Uuid
  cursor : JournalCursor

/-- `initialize` when another process holds the lease: nothing is repaired. -/
def initializeShared (disk : JournalDisk) : Except StorageError OpenedJournal :=
  match fullScan wire false disk.file.bytes with
  | .error error => .error error
  | .ok scan =>
    let verified := verifiedJournal scan.state
    .ok { recovery :=
            { legacyJournal := none
              recoveredOperationIds := []
              unresolvedOperationIds := sortedOperationIds verified.unresolvedOperationConnections
              unresolvedConnectionIds := unresolvedConnectionIds verified
              unresolvedGlobalWrite := hasUnresolvedGlobalWrite verified }
          unresolved := verified.unresolvedOperationConnections
          cursor := JournalCursor.atEndOf disk.file (JournalState.fromVerified verified) }

/-- The second half of an exclusive `initialize`: repair, recover and report. -/
def recoverJournal (clock : Uuid → Timestamp) (legacyJournal : Option Nat) (disk : JournalDisk) :
    Except StorageError OpenedJournal × JournalDisk :=
  match fullScan wire true disk.file.bytes with
  | .error error => (.error error, disk)
  | .ok scan =>
    let verified := verifiedJournal scan.state
    let recovered := recoverPendingIntents wire clock verified.pendingIntents verified.tail
      verified.unresolvedOperationConnections scan.file
    let after := disk.withBytes recovered.2
    match recovered.1 with
    | .error error => (.error error, after)
    | .ok (tail, unresolved) =>
      let verified : VerifiedJournal :=
        { tail := tail
          pendingIntents := []
          unresolvedOperationConnections := unresolved }
      let unresolvedOperationIds := sortedOperationIds unresolved
      (.ok { recovery :=
              { legacyJournal := legacyJournal
                recoveredOperationIds := unresolvedOperationIds
                unresolvedOperationIds := unresolvedOperationIds
                unresolvedConnectionIds := unresolvedConnectionIds verified
                unresolvedGlobalWrite := hasUnresolvedGlobalWrite verified }
             unresolved := unresolved
             cursor := JournalCursor.atEndOf after.file (JournalState.fromVerified verified) },
        after)

/-- `initialize` with the exclusive lease, the only path that repairs and recovers. -/
def initializeExclusive (clock : Uuid → Timestamp) (disk : JournalDisk) :
    Except StorageError OpenedJournal × JournalDisk :=
  match rotateLegacyJournal wire disk with
  | .error error => (.error error, disk)
  | .ok (legacyJournal, rotated) => recoverJournal wire clock legacyJournal rotated

end Bookie.Storage
