/-
States that err on the safe side, and files between a write and its repair. A cached
state may keep operations the journal has cleared, and admits no more than the
journal's own. A file a crash left behind settles to a valid journal.
-/

import Bookie.Storage.JournalCrash
import Bookie.Storage.JournalResume

namespace Bookie.Storage

open Text Policy List JournalState

/-! ### Cached states that err on the safe side -/

/-- `cached` has the tail and the pending intents of `state` and at least its
unresolved operations. -/
structure Covers (cached state : JournalState) : Prop where
  tail : cached.tail = state.tail
  pending : cached.pending = state.pending
  unresolved : ∀ id connection : Uuid, state.unresolved[id]? = some connection →
    cached.unresolved[id]? = some connection

theorem Covers.refl (state : JournalState) : Covers state state :=
  { tail := rfl
    pending := rfl
    unresolved := fun _ _ => id }

variable {cached state : JournalState} {wire : JournalWire} {reached : JournalState} {file : Bytes}

section

variable (covers : Covers cached state)
include covers

theorem Covers.advance (event : AuditEvent) (tail : JournalTail) :
    Covers (cached.advance event tail) (state.advance event tail) :=
  { tail := rfl
    pending := by
      refine Std.ExtTreeMap.ext_getElem? fun id => ?_
      rw [advance_pending, advance_pending, pending_trackOperationState,
        pending_trackOperationState, covers.pending]
    unresolved := by
      intro id connection
      rw [advance_unresolved, advance_unresolved,
        unresolved_trackOperationState, unresolved_trackOperationState]
      split
      · exact fun found => found
      · exact covers.unresolved id connection }

theorem Covers.admits {event : AuditEvent} (admitted : rejectNewWriteIntent event cached = .ok ()) :
    rejectNewWriteIntent event state = .ok () := by
  rw [rejectNewWriteIntent_eq_ok_iff] at admitted ⊢
  intro claims
  have free := admitted claims
  exact
    { unresolved := fun id blocking found =>
        free.unresolved id blocking (covers.unresolved id blocking found)
      pending := by rw [← covers.pending]; exact free.pending }

private theorem covers_acceptLine {line : Line}
    (accepted : acceptLine wire line state = .ok reached) :
    ∃ cachedReached, acceptLine wire line cached = .ok cachedReached ∧
      Covers cachedReached reached := by
  rcases acceptLine_eq_ok accepted with
    ⟨blank, rfl⟩ | ⟨raw, event, solid, parsed, decoded, chain, rfl⟩
  · exact ⟨cached, by simp [acceptLine, blank], covers⟩
  rw [← covers.tail] at chain
  refine ⟨cached.advance event { seq := raw.seq, hash := raw.hash }, ?_, covers.advance event _⟩
  simp [acceptLine, solid, parsed, trackVerifiedRecord, chain, decoded, Except.map,
    advance, withTail]

theorem covers_acceptLines {lines : List Line}
    (accepted : acceptLines wire lines state = .ok reached) :
    ∃ cachedReached, acceptLines wire lines cached = .ok cachedReached ∧
      Covers cachedReached reached := by
  induction lines generalizing cached state with
  | nil =>
    cases accepted
    exact ⟨cached, rfl, covers⟩
  | cons line lines ih =>
    obtain ⟨next, first, accepted⟩ := ok_of_bind accepted
    obtain ⟨cachedNext, cachedFirst, coversNext⟩ := covers_acceptLine covers first
    obtain ⟨cachedReached, cachedRest, coversReached⟩ := ih coversNext accepted
    refine ⟨cachedReached, ?_, coversReached⟩
    rw [acceptLines, cachedFirst]
    exact cachedRest

theorem covers_scanLast {lines last : Bytes}
    (scanned : scanLast wire true lines last state = .ok (reached, file)) :
    ∃ cachedReached, scanLast wire true lines last cached = .ok (cachedReached, file) ∧
      Covers cachedReached reached := by
  rw [scanLast_eq] at scanned ⊢
  split at scanned
  case isTrue dropped =>
    cases scanned
    exact ⟨cached, if_pos dropped, covers⟩
  case isFalse kept =>
    obtain ⟨reached, accepted, same⟩ := ok_of_map scanned
    cases same
    obtain ⟨cachedReached, cachedAccepted, coversReached⟩ := covers_acceptLine covers accepted
    exact ⟨cachedReached, by rw [if_neg kept, cachedAccepted]; rfl, coversReached⟩

end

/-! ### Files between a write and its repair -/

/-- The repairing scan brings `bytes` to the valid journal `file`, and a strict scan
accepts nothing that the repair would take away. -/
structure Settles (wire : JournalWire) (bytes file : Bytes) (state : JournalState) : Prop where
  scanned : fullScan wire true bytes = .ok { state := state, recent := [], file := file }
  strict : ∀ scan, fullScan wire false bytes = .ok scan → bytes <+: file

theorem Settles.replays {bytes : Bytes} (settles : Settles wire bytes file state) :
    Replays wire file state :=
  replays_of_fullScan settles.scanned

theorem Replays.settles (valid : Replays wire file state) : Settles wire file file state :=
  { scanned := valid.fullScan true
    strict := fun _ _ => prefix_refl _ }

theorem fullScan_file {bytes : Bytes} {scan : Scan}
    (scanned : fullScan wire true bytes = .ok scan) :
    scan.file <+: bytes ∨ bytes <+: scan.file := by
  obtain ⟨lines, last, reached, rfl, -, -, -, ⟨-, -, file⟩ | ⟨-, file⟩⟩ := fullScan_cases scanned
  · rw [file]
    exact .inl (prefix_append _ _)
  · rw [file]
    exact .inr (prefix_append _ _)

section

variable {wire : JournalWire} (laws : wire.Laws)
include laws

variable {state : JournalState}

private theorem fullScan_strict_cut {file : Bytes} (valid : Replays wire file state)
    (record : JournalRecord) {cut : Nat} (positive : 0 < cut)
    (short : cut < (wire.recordBytes record).length) (scan : Scan) :
    fullScan wire false (file ++ (wire.recordBytes record).take cut) ≠ .ok scan := by
  have plain : newline ∉ (wire.recordBytes record).take cut :=
    fun member => laws.recordBytes_plain record (mem_of_mem_take member)
  have solid : isBlank ((wire.recordBytes record).take cut) = false := by
    obtain ⟨rest, content⟩ := head?_eq_some_iff.mp (laws.recordBytes_open record)
    cases cut with
    | zero => omega
    | succ cut => simp [content, isBlank, isAsciiWhitespace]
  obtain ⟨error, rejected⟩ := laws.parseRaw_cut record cut short
  rw [fullScan_eq wire false _ _ valid.ends plain, valid.accepted]
  simp [Except.bind, scanLast, solid, rejected, Except.map]

theorem settles_torn {file line : Bytes} {event : AuditEvent} {tail : JournalTail}
    (valid : Replays wire file state) (writing : nextLine wire state.tail event = .ok (tail, line))
    (cut : Nat) :
    Settles wire (file ++ line.take cut) file state ∨
      Settles wire (file ++ line.take cut) (file ++ line) (state.advance event tail) := by
  have scanned := fullScan_torn laws valid writing cut
  by_cases short : cut + 1 < line.length
  · rw [if_pos short] at scanned
    refine .inl { scanned := scanned, strict := ?_ }
    intro scan accepted
    by_cases none : cut = 0
    · simp [none]
    obtain ⟨record, _, _, rfl⟩ := nextLine_eq_ok_iff.mp writing
    rw [length_append, length_singleton, Nat.add_lt_add_iff_right] at short
    rw [take_append_of_le_length short.le] at accepted
    exact absurd accepted
      (fullScan_strict_cut laws valid record (Nat.pos_of_ne_zero none) short scan)
  rw [if_neg short] at scanned
  have torn : line.take cut <+: line := take_prefix cut line
  exact .inr
    { scanned := scanned
      strict := fun _ _ => (prefix_append_right_inj file).mpr torn }

/-- However far recovery got before it stopped, the file settles to the journal
with the first few recovery records. -/
theorem settles_recovery (clock : Uuid → Timestamp) (intents : List AuditEvent) {file : Bytes}
    (valid : Replays wire file state) (unresolved : UuidMap Uuid) :
    ∃ added, (recoverPendingIntents wire clock intents state.tail unresolved file).2 =
        file ++ added ∧
      ∀ cut, ∃ settled reached closed, Settles wire (file ++ added.take cut) settled reached ∧
        file <+: settled ∧
        fileEvents wire settled = fileEvents wire file ++ recoveryEvents clock closed := by
  induction intents generalizing file state unresolved with
  | nil =>
    exact ⟨[], by simp [recoverPendingIntents],
      fun cut => ⟨file, state, [], by simpa using valid.settles, prefix_refl _,
        by simp [recoveryEvents]⟩⟩
  | cons intent intents ih =>
    cases writing : nextLine wire state.tail
        (recoveryOutcome (clock intent.operationId) intent) with
    | error error =>
      exact ⟨[], by simp [recoverPendingIntents, appendToFile, writing],
        fun cut => ⟨file, state, [], by simpa using valid.settles, prefix_refl _,
          by simp [recoveryEvents]⟩⟩
    | ok result =>
      obtain ⟨tail, line⟩ := result
      have grown := valid.append laws writing
      have events := fileEvents_append laws valid.ends writing
      obtain ⟨added, loop, rest⟩ := ih grown
        (if intent.operationClass.isWrite then
          unresolved.insert intent.operationId intent.connectionId else unresolved)
      refine ⟨line ++ added, ?_, ?_⟩
      · rw [recoverPendingIntents, appendToFile_eq_ok_iff.mpr ⟨line, writing, rfl⟩, ← append_assoc]
        exact loop
      intro cut
      by_cases within : cut ≤ line.length
      · rw [take_append_of_le_length within]
        rcases settles_torn laws valid writing cut with before | after
        · exact ⟨file, state, [], before, prefix_refl _, by simp [recoveryEvents]⟩
        · exact ⟨_, _, [intent], after, prefix_append _ _, events⟩
      obtain ⟨settled, reached, closed, settles, grows, logged⟩ := rest (cut - line.length)
      rw [take_append, take_of_length_le (Nat.le_of_not_le within), ← append_assoc]
      refine ⟨settled, reached, intent :: closed, settles,
        (prefix_append file line).trans grows, ?_⟩
      rw [logged, events, append_assoc]
      rfl

end

end Bookie.Storage
