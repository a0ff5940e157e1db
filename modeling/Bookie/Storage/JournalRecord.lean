/-
The on-disk form of a journal record and its hash chain. `serde_json` and `sha2` enter
as a `JournalWire` with the `JournalWire.Laws`. A Rust string is its UTF-8 bytes here,
which is what the hash is taken over.
-/

import Bookie.Text.Reader
import Bookie.Storage.JournalState

namespace Bookie.Storage

open Text Policy

structure JournalRecord where
  seq : Nat
  prevHash : Bytes
  hash : Bytes
  event : AuditEvent

/-- A parsed line whose event is still the bytes found on disk. -/
structure JournalRecordRaw where
  seq : Nat
  prevHash : Bytes
  hash : Bytes
  event : Bytes
  deriving DecidableEq

/-- A line of the older journal format; `payload` is its event serialised again. -/
structure LegacyJournalRecord where
  seq : Nat
  prevHash : Bytes
  hash : Bytes
  payload : Bytes

structure JournalWire where
  eventBytes : AuditEvent → Bytes
  recordBytes : JournalRecord → Bytes
  parseRaw : Bytes → Except String JournalRecordRaw
  parseEvent : Bytes → Except String AuditEvent
  parseLegacy : Bytes → Except String LegacyJournalRecord
  sha256 : Bytes → Bytes

/-- What the libraries promise: a record is written as one compact JSON object
that holds the event's own bytes, both forms parse back, a cut object does not
parse, and a digest has 32 bytes. -/
structure JournalWire.Laws (wire : JournalWire) : Prop where
  parseRaw_recordBytes : ∀ record, wire.parseRaw (wire.recordBytes record) =
    .ok { seq := record.seq
          prevHash := record.prevHash
          hash := record.hash
          event := wire.eventBytes record.event }
  parseEvent_eventBytes : ∀ event, wire.parseEvent (wire.eventBytes event) = .ok event
  recordBytes_open : ∀ record, (wire.recordBytes record).head? = some 123
  recordBytes_plain : ∀ record, newline ∉ wire.recordBytes record
  parseRaw_cut : ∀ record cut, cut < (wire.recordBytes record).length →
    ∃ error, wire.parseRaw ((wire.recordBytes record).take cut) = .error error
  sha256_length : ∀ input, (wire.sha256 input).length = 32

/-! ### The hash chain -/

def u64Bound : Nat := 2 ^ 64

/-- `checked_add(1)` on a sequence number. -/
def nextSeq (tail : JournalTail) : Except StorageError Nat :=
  if tail.seq + 1 < u64Bound then .ok (tail.seq + 1)
  else .error (.schema "audit journal sequence exhausted")

def hashInput (previousHash : Bytes) (seq : Nat) (payload : Bytes) : Bytes :=
  previousHash ++ decimalBytes seq ++ payload

def recordHash (wire : JournalWire) (previousHash : Bytes) (seq : Nat) (payload : Bytes) : Bytes :=
  hexEncode (wire.sha256 (hashInput previousHash seq payload))

def validateChainFields (wire : JournalWire) (seq : Nat) (previousHash hash : Bytes)
    (tail : JournalTail) (payload : Bytes) : Except StorageError Unit :=
  match nextSeq tail with
  | .error error => .error error
  | .ok expectedSeq =>
    if seq ≠ expectedSeq then
      .error (.schema s!"audit journal sequence mismatch: expected {expectedSeq}, found {seq}")
    else if previousHash ≠ tail.hash then
      .error (.schema s!"audit journal chain break at seq {seq}")
    else if recordHash wire tail.hash seq payload ≠ hash then
      .error (.schema s!"audit journal hash mismatch at seq {seq}")
    else .ok ()

/-- The three chain fields of an accepted record are forced by the tail and the payload. -/
theorem validateChainFields_eq_ok_iff (wire : JournalWire) (seq : Nat) (previousHash hash : Bytes)
    (tail : JournalTail) (payload : Bytes) :
    validateChainFields wire seq previousHash hash tail payload = .ok () ↔
      tail.seq + 1 < u64Bound ∧ seq = tail.seq + 1 ∧ previousHash = tail.hash ∧
        hash = recordHash wire tail.hash seq payload := by
  unfold validateChainFields nextSeq
  by_cases room : tail.seq + 1 < u64Bound
  · simp only [room, if_true]
    split
    · simp_all
    split
    · simp_all
    split
    · rename_i different
      simp [Ne.symm different]
    · simp_all
  · simp [room]

/-- The record `append_to_file` writes after `tail`. -/
def nextRecord (wire : JournalWire) (tail : JournalTail) (event : AuditEvent) :
    Except StorageError JournalRecord :=
  match nextSeq tail with
  | .error error => .error error
  | .ok seq =>
    .ok { seq := seq
          prevHash := tail.hash
          hash := recordHash wire tail.hash seq (wire.eventBytes event)
          event := event }

def JournalRecord.tail (record : JournalRecord) : JournalTail :=
  { seq := record.seq, hash := record.hash }

end Bookie.Storage
