/-
Reading and extending the journal file. `scanRecords` is the source's loop over
`read_until` with its two repairs of the last line. It runs in two parts at any line
boundary, and it accepts the line `appendToFile` writes.
-/

import Bookie.Storage.JournalRecord

namespace Bookie.Storage

open Text Policy List

def isAsciiWhitespace (byte : UInt8) : Bool :=
  byte == 32 || byte == 9 || byte == 10 || byte == 12 || byte == 13

def isBlank (content : Bytes) : Bool := content.all isAsciiWhitespace

/-- `recent` keeps the last events, at most `limit` of them. -/
def keepRecent (recent : List AuditEvent) (limit : Option Nat) (event : AuditEvent) :
    List AuditEvent :=
  match limit with
  | some (count + 1) =>
    let pushed := recent ++ [event]
    if pushed.length > count + 1 then pushed.drop 1 else pushed
  | _ => recent

variable (wire : JournalWire)

def trackVerifiedRecord (raw : JournalRecordRaw) (state : JournalState) :
    Except StorageError (JournalState × AuditEvent) :=
  match validateChainFields wire raw.seq raw.prevHash raw.hash state.tail raw.event with
  | .error error => .error error
  | .ok () =>
    match wire.parseEvent raw.event with
    | .error error => .error (.serde error)
    | .ok event =>
      .ok ({ trackOperationState state event with
              tail := { seq := raw.seq, hash := raw.hash } }, event)

/-- The outcome of a scan, with the content the file has after it. -/
structure Scan where
  state : JournalState
  recent : List AuditEvent
  file : Bytes

def scanLines (wire : JournalWire) (recoverPartial : Bool) (recentLimit : Option Nat) :
    List Line → Nat → Scan → Except StorageError Scan
  | [], _, scan => .ok scan
  | line :: lines, offset, scan =>
    let nextOffset := offset + line.bytes.length
    if isBlank line.content then
      scanLines wire recoverPartial recentLimit lines nextOffset
        (if !line.terminated && recoverPartial then { scan with file := scan.file.take offset }
          else scan)
    else
      match wire.parseRaw line.content with
      | .error error =>
        if !line.terminated && recoverPartial then
          .ok { scan with file := scan.file.take offset }
        else .error (.serde error)
      | .ok raw =>
        match trackVerifiedRecord wire raw scan.state with
        | .error error => .error error
        | .ok (state, event) =>
          scanLines wire recoverPartial recentLimit lines nextOffset
            { state := state
              recent := keepRecent scan.recent recentLimit event
              file :=
                if !line.terminated && recoverPartial then scan.file ++ [newline]
                else scan.file }

def scanRecords (file : Bytes) (state : JournalState) (start : Nat) (recoverPartial : Bool)
    (recentLimit : Option Nat) : Except StorageError Scan :=
  scanLines wire recoverPartial recentLimit (readLines (file.drop start)) start
    { state := state, recent := [], file := file }

def fullScan (recoverPartial : Bool) (file : Bytes) : Except StorageError Scan :=
  scanRecords wire file JournalState.genesis 0 recoverPartial none

/-- What `append_to_file_with_sync` writes: the record and its terminator. -/
def nextLine (tail : JournalTail) (event : AuditEvent) :
    Except StorageError (JournalTail × Bytes) :=
  match nextRecord wire tail event with
  | .error error => .error error
  | .ok record => .ok (record.tail, wire.recordBytes record ++ [newline])

/-- `durable` only adds a `sync_data`, which leaves the content as it is. -/
def appendToFile (file : Bytes) (tail : JournalTail) (event : AuditEvent) :
    Except StorageError (JournalTail × Bytes) :=
  match nextLine wire tail event with
  | .error error => .error error
  | .ok (tail, line) => .ok (tail, file ++ line)

/-! ### What a scan accepts -/

/-- The effect of one line on the carried state, without the repairs. -/
def acceptLine (line : Line) (state : JournalState) : Except StorageError JournalState :=
  if isBlank line.content then .ok state
  else
    match wire.parseRaw line.content with
    | .error error => .error (.serde error)
    | .ok raw => (trackVerifiedRecord wire raw state).map Prod.fst

def acceptLines (wire : JournalWire) : List Line → JournalState → Except StorageError JournalState
  | [], state => .ok state
  | line :: lines, state => (acceptLine wire line state).bind (acceptLines wire lines)

variable (wire : JournalWire)

theorem acceptLines_append (first second : List Line) (state : JournalState) :
    acceptLines wire (first ++ second) state =
      (acceptLines wire first state).bind (acceptLines wire second) := by
  induction first generalizing state with
  | nil => rfl
  | cons line first ih =>
    simp only [cons_append, acceptLines]
    cases acceptLine wire line state with
    | error error => rfl
    | ok next => exact ih next

variable (recoverPartial : Bool)

private theorem scanLines_terminated (lines rest : List Line)
    (terminated : ∀ line ∈ lines, line.terminated = true) (offset : Nat) (scan : Scan) :
    scanLines wire recoverPartial none (lines ++ rest) offset scan =
      (acceptLines wire lines scan.state).bind fun state =>
        scanLines wire recoverPartial none rest (offset + (lines.flatMap Line.bytes).length)
          { scan with state := state } := by
  induction lines generalizing offset scan with
  | nil => rfl
  | cons line lines ih =>
    have here := terminated line mem_cons_self
    have there : ∀ later ∈ lines, later.terminated = true :=
      fun later member => terminated later (mem_cons_of_mem _ member)
    simp only [cons_append, scanLines, acceptLines, acceptLine, here, flatMap_cons, length_append,
      ← Nat.add_assoc]
    by_cases blank : isBlank line.content = true
    · simp only [blank]
      exact ih there _ _
    simp only [blank]
    cases wire.parseRaw line.content with
    | error error => rfl
    | ok raw =>
    cases tracked : trackVerifiedRecord wire raw scan.state with
    | error error => simp [tracked, Except.map, Except.bind]
    | ok result =>
      simp only [tracked]
      exact ih there _ _

/-- The scan of what stands after the last terminator, and the content it leaves. -/
def scanLast (recoverPartial : Bool) (lines last : Bytes) (state : JournalState) :
    Except StorageError (JournalState × Bytes) :=
  if isBlank last then .ok (state, if recoverPartial then lines else lines ++ last)
  else
    match wire.parseRaw last with
    | .error error =>
      if recoverPartial then .ok (state, lines) else .error (.serde error)
    | .ok raw =>
      (trackVerifiedRecord wire raw state).map fun tracked =>
        (tracked.1, if recoverPartial then lines ++ last ++ [newline] else lines ++ last)

/-- The scan from a line boundary, as one equation: fold the terminated lines,
then treat the rest. -/
theorem scanRecords_eq (front lines last : Bytes) (state : JournalState) (ends : EndsLine lines)
    (plain : newline ∉ last) :
    scanRecords wire (front ++ lines ++ last) state front.length recoverPartial none =
      (acceptLines wire (readLines lines) state).bind fun reached =>
        (scanLast wire recoverPartial (front ++ lines) last reached).map fun result =>
          { state := result.1, recent := [], file := result.2 } := by
  have dropped : (front ++ lines ++ last).drop front.length = lines ++ last := by
    rw [append_assoc, drop_left]
  rw [scanRecords, dropped, readLines_append lines last ends,
    scanLines_terminated wire recoverPartial _ _ (readLines_terminated ends),
    flatMap_bytes_readLines]
  cases accepted : acceptLines wire (readLines lines) state with
  | error error => rfl
  | ok reached =>
  simp only [Except.bind]
  have cut : (front ++ lines ++ last).take (front.length + lines.length) = front ++ lines := by
    rw [← length_append, take_left]
  by_cases empty : last = []
  · subst empty
    cases recoverPartial <;> simp [scanLines, scanLast, isBlank, Except.map]
  rw [readLines_unterminated last plain empty]
  simp only [scanLines, scanLast, cut]
  by_cases blank : isBlank last = true
  · simp only [blank]
    cases recoverPartial <;> rfl
  simp only [blank]
  cases wire.parseRaw last with
  | error error => cases recoverPartial <;> rfl
  | ok raw =>
    cases tracked : trackVerifiedRecord wire raw reached with
    | error error => simp [tracked, Except.map]
    | ok result => simp [tracked, Except.map, keepRecent]

theorem exists_terminated_split (file : Bytes) :
    ∃ lines last, file = lines ++ last ∧ EndsLine lines ∧ newline ∉ last := by
  induction file using reverseRecOn with
  | nil => exact ⟨[], [], rfl, endsLine_nil, by simp⟩
  | append_singleton file byte ih =>
    by_cases atNewline : byte = newline
    · exact ⟨file ++ [byte], [], by simp, atNewline ▸ endsLine_append_newline file, by simp⟩
    · obtain ⟨lines, last, rfl, ends, plain⟩ := ih
      exact ⟨lines, last ++ [byte], by simp, ends, by simp [plain, Ne.symm atNewline]⟩

theorem fullScan_eq (lines last : Bytes) (ends : EndsLine lines) (plain : newline ∉ last) :
    fullScan wire recoverPartial (lines ++ last) =
      (acceptLines wire (readLines lines) JournalState.genesis).bind fun reached =>
        (scanLast wire recoverPartial lines last reached).map fun result =>
          { state := result.1, recent := [], file := result.2 } :=
  scanRecords_eq wire recoverPartial [] lines last JournalState.genesis ends plain

end Bookie.Storage
