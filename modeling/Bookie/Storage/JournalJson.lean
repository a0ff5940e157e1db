/-
The journal's wire format as `serde_json` writes it: compact objects, fields in
declaration order, the two trailing fields of an event left out when absent. It is a
`JournalWire` with all the laws, so nothing proved from them is vacuous; its parser
accepts exactly this form.
-/

import Bookie.Text.Codec
import Bookie.Chain.Sha256
import Bookie.Storage.JournalRecord

namespace Bookie.Storage

open Text Policy List Codec

def readUuid (text : Bytes) : Uuid :=
  BitVec.ofNat 128 (readHex (text.filter fun byte => byte != 45))

private theorem readUuid_uuidText (id : Uuid) : readUuid (uuidText id) = id := by
  have plain := hyphen_not_mem_fixedHex 32 id.toNat
  have kept : ∀ part : Bytes, (∀ byte ∈ part, byte ∈ fixedHex 32 id.toNat) →
      (part.filter fun byte => byte != 45) = part := by
    intro part inside
    rw [filter_eq_self]
    intro byte member
    simp only [bne_iff_ne]
    rintro rfl
    exact plain (inside _ member)
  have digits : (uuidText id).filter (fun byte => byte != 45) = fixedHex 32 id.toNat := by
    have hyphen : ([45] : Bytes).filter (fun byte => byte != 45) = [] := by decide
    simp only [uuidText, filter_append, hyphen, append_nil]
    rw [kept _ fun _ => mem_of_mem_take,
      kept _ fun _ member => mem_of_mem_drop (mem_of_mem_take member),
      kept _ fun _ member => mem_of_mem_drop (mem_of_mem_take member),
      kept _ fun _ member => mem_of_mem_drop (mem_of_mem_take member),
      kept _ fun _ => mem_of_mem_drop]
    have joined : ∀ (start count : Nat) (all : Bytes),
        (all.drop start).take count ++ all.drop (start + count) = all.drop start := by
      intro start count all
      rw [← drop_drop, take_append_drop]
    rw [append_assoc, joined 16 4, append_assoc, joined 12 4, append_assoc,
      joined 8 4, take_append_drop]
  rw [readUuid, digits, readHex_fixedHex, Nat.mod_eq_of_lt (by exact id.isLt)]
  simp

def uuidCodec : Codec Uuid :=
  quoted.through uuidText (fun text => some (readUuid text)) fun id => by
    rw [readUuid_uuidText]

private theorem uuidCodec_first (id : Uuid) : (uuidCodec.print id)[0]? = some 34 := rfl

/-- A value that prints as a string is told apart from `null` and from a closing bracket. -/
private theorem string_opens {α : Type} {codec : Codec α} {other : UInt8}
    (first : ∀ value, (codec.print value)[0]? = some 34) (different : other ≠ 34) (value : α) :
    ∃ byte, (codec.print value)[0]? = some byte ∧ byte ≠ other :=
  ⟨34, first value, Ne.symm different⟩

private theorem natural_opens (number : Nat) :
    ∃ byte, (natural.print number)[0]? = some byte ∧ byte ≠ 110 := by
  obtain ⟨first, rest, printed, digit⟩ := decimalBytes_cons number
  refine ⟨first, by simp [natural, printed], ?_⟩
  rintro rfl
  revert digit
  decide

def optionalNumber : Codec (Option Nat) := natural.nullable natural_opens

def optionalString : Codec (Option String) :=
  string.nullable (string_opens (fun _ => rfl) (by decide))

def optionalUuid : Codec (Option Uuid) :=
  uuidCodec.nullable (string_opens uuidCodec_first (by decide))

def stringList : Codec (List String) := string.list (string_opens (fun _ => rfl) (by decide))

def environmentCodec : Codec Environment :=
  enumeration
    (fun
      | .local => "local"
      | .dev => "dev"
      | .staging => "staging"
      | .prod => "prod")
    [.local, .dev, .staging, .prod] (by intro value; cases value <;> rfl)

def phaseCodec : Codec AuditRecordPhase :=
  enumeration
    (fun
      | .intent => "intent"
      | .outcome => "outcome")
    [.intent, .outcome] (by intro value; cases value <;> rfl)

def operationClassCodec : Codec AuditOperationClass :=
  enumeration
    (fun
      | .read => "read"
      | .mutation => "mutation"
      | .ddl => "ddl"
      | .administrative => "administrative"
      | .transactionCommit => "transaction_commit"
      | .transactionRollback => "transaction_rollback"
      | .unknownWrite => "unknown_write")
    [.read, .mutation, .ddl, .administrative, .transactionCommit, .transactionRollback,
      .unknownWrite] (by intro value; cases value <;> rfl)

def approvalOutcomeCodec : Codec AuditApprovalOutcome :=
  enumeration
    (fun
      | .notRequired => "not_required"
      | .approved => "approved"
      | .denied => "denied"
      | .cancelled => "cancelled"
      | .timedOut => "timed_out")
    [.notRequired, .approved, .denied, .cancelled, .timedOut]
    (by intro value; cases value <;> rfl)

def terminalStatusCodec : Codec AuditTerminalStatus :=
  enumeration
    (fun
      | .pending => "pending"
      | .succeeded => "succeeded"
      | .failed => "failed"
      | .denied => "denied"
      | .cancelled => "cancelled"
      | .timedOut => "timed_out"
      | .unknown => "unknown")
    [.pending, .succeeded, .failed, .denied, .cancelled, .timedOut, .unknown]
    (by intro value; cases value <;> rfl)

def transactionOutcomeCodec : Codec AuditTransactionOutcome :=
  enumeration
    (fun
      | .notApplicable => "not_applicable"
      | .pending => "pending"
      | .committed => "committed"
      | .rolledBack => "rolled_back"
      | .failed => "failed"
      | .unknown => "unknown")
    [.notApplicable, .pending, .committed, .rolledBack, .failed, .unknown]
    (by intro value; cases value <;> rfl)

def errorCategoryCodec : Codec AuditErrorCategory :=
  enumeration
    (fun
      | .policy => "policy"
      | .audit => "audit"
      | .connection => "connection"
      | .authentication => "authentication"
      | .tls => "tls"
      | .query => "query"
      | .readOnly => "read_only"
      | .unsupported => "unsupported"
      | .internal => "internal"
      | .transaction => "transaction"
      | .cancelled => "cancelled"
      | .timeout => "timeout"
      | .unknown => "unknown")
    [.policy, .audit, .connection, .authentication, .tls, .query, .readOnly, .unsupported,
      .internal, .transaction, .cancelled, .timeout, .unknown]
    (by intro value; cases value <;> rfl)

def optionalErrorCategory : Codec (Option AuditErrorCategory) :=
  errorCategoryCodec.nullable (string_opens (fun _ => rfl) (by decide))

def transportClientCodec : Codec AuditTransportClient :=
  enumeration
    (fun
      | .builtinSsh => "builtin_ssh"
      | .systemOpenSsh => "system_open_ssh")
    [.builtinSsh, .systemOpenSsh] (by intro value; cases value <;> rfl)

def transportOutcomeCodec : Codec AuditTransportOutcome :=
  enumeration
    (fun
      | .connected => "connected"
      | .hostKeyRefused => "host_key_refused"
      | .hostKeyChanged => "host_key_changed"
      | .hostKeyRevoked => "host_key_revoked"
      | .authenticationFailed => "authentication_failed"
      | .cancelled => "cancelled"
      | .timedOut => "timed_out"
      | .tlsFailed => "tls_failed"
      | .connectionFailed => "connection_failed"
      | .otherFailure => "other_failure")
    [.connected, .hostKeyRefused, .hostKeyChanged, .hostKeyRevoked, .authenticationFailed,
      .cancelled, .timedOut, .tlsFailed, .connectionFailed, .otherFailure]
    (by intro value; cases value <;> rfl)

def administrativeActionCodec : Codec AuditAdministrativeAction :=
  enumeration
    (fun
      | .connectionBundleExport => "connection_bundle_export"
      | .connectionBundleImport => "connection_bundle_import")
    [.connectionBundleExport, .connectionBundleImport] (by intro value; cases value <;> rfl)

def principalCodec : Codec Principal :=
  (either
    (after (utf8 "\x7b\"kind\":\"human\",\"session\":") (by decide)
      (string.closed (utf8 "\x7d") (by decide)))
    (after (utf8 "\x7b\"kind\":\"agent\",\"token\":") (by decide)
      ((string.andThen (utf8 ",\"client\":") (by decide)
        (optionalString.andThen (utf8 ",\"model\":") (by decide) optionalString)).closed
          (utf8 "\x7d") (by decide)))
    9 104 (fun _ => rfl) (fun _ => ⟨97, rfl, by decide⟩)).through
    (fun
      | .human session => .inl session
      | .agent token client model => .inr (token, client, model))
    (fun
      | .inl session => some (.human session)
      | .inr (token, client, model) => some (.agent token client model))
    (by intro value; cases value <;> rfl)

/-- Adjacently tagged: only an available preview has a `detail`. -/
def previewStateCodec : Codec AuditPreviewState :=
  (either (text (utf8 "\x7b\"state\":\"not_requested\"\x7d") (by decide))
    (either
      (after (utf8 "\x7b\"state\":\"available\",\"detail\":") (by decide)
        (string.closed (utf8 "\x7d") (by decide)))
      (text (utf8 "\x7b\"state\":\"unavailable\"\x7d") (by decide))
      10 97 (fun _ => rfl) (fun _ => ⟨117, rfl, by decide⟩))
    10 110 (fun _ => rfl) (by
      rintro (value | value)
      · exact ⟨97, rfl, by decide⟩
      · exact ⟨117, rfl, by decide⟩)).through
    (fun
      | .notRequested => .inl ()
      | .available detail => .inr (.inl detail)
      | .unavailable => .inr (.inr ()))
    (fun
      | .inl () => some .notRequested
      | .inr (.inl detail) => some (.available detail)
      | .inr (.inr ()) => some .unavailable)
    (by intro value; cases value <;> rfl)

def transportMetadataCodec : Codec AuditTransportMetadata :=
  (after (utf8 "\x7b\"client\":") (by decide)
    ((transportClientCodec.andThen (utf8 ",\"outcome\":") (by decide)
      transportOutcomeCodec).closed (utf8 "\x7d") (by decide))).through
    (fun metadata => (metadata.client, metadata.outcome))
    (fun parts => some { client := parts.1, outcome := parts.2 }) (fun _ => rfl)

def administrativeMetadataCodec : Codec AuditAdministrativeMetadata :=
  (after (utf8 "\x7b\"action\":") (by decide)
    ((administrativeActionCodec.andThen (utf8 ",\"affected_count\":") (by decide)
      natural).closed (utf8 "\x7d") (by decide))).through
    (fun metadata => (metadata.action, metadata.affectedCount))
    (fun parts => some { action := parts.1, affectedCount := parts.2 }) (fun _ => rfl)

/-- The end of an event, from the administrative action on. -/
def administrativeTail : Codec (Unit ⊕ AuditAdministrativeMetadata) :=
  either (text (utf8 "\x7d") (by decide))
    (after (utf8 ",\"administrative_action\":") (by decide)
      (administrativeMetadataCodec.closed (utf8 "\x7d") (by decide)))
    0 125 (fun _ => rfl) (fun _ => ⟨44, rfl, by decide⟩)

/-- The end of an event: each of the two last fields is present or left out. -/
def eventTail : Codec (Option AuditTransportMetadata × Option AuditAdministrativeMetadata) :=
  (either (text (utf8 "\x7d") (by decide))
    (either
      (after (utf8 ",\"transport_attempt\":") (by decide)
        (transportMetadataCodec.both administrativeTail (by
          rintro (value | value)
          · exact ⟨125, [], rfl, rfl⟩
          · exact ⟨44, _, rfl, rfl⟩)))
      (after (utf8 ",\"administrative_action\":") (by decide)
        (administrativeMetadataCodec.closed (utf8 "\x7d") (by decide)))
      2 116 (fun _ => rfl) (fun _ => ⟨97, rfl, by decide⟩))
    0 125 (fun _ => rfl) (by
      rintro (value | value)
      · exact ⟨44, rfl, by decide⟩
      · exact ⟨44, rfl, by decide⟩)).through
    (fun
      | (none, none) => .inl ()
      | (some transport, none) => .inr (.inl (transport, .inl ()))
      | (some transport, some action) => .inr (.inl (transport, .inr action))
      | (none, some action) => .inr (.inr action))
    (fun
      | .inl () => some (none, none)
      | .inr (.inl (transport, .inl ())) => some (some transport, none)
      | .inr (.inl (transport, .inr action)) => some (some transport, some action)
      | .inr (.inr action) => some (none, some action))
    (by rintro ⟨_ | transport, _ | action⟩ <;> rfl)

private theorem eventTail_opens
    (value : Option AuditTransportMetadata × Option AuditAdministrativeMetadata) :
    Stops (eventTail.print value) := by
  obtain ⟨_ | transport, _ | action⟩ := value
  · exact ⟨125, [], rfl, rfl⟩
  · exact ⟨44, _, rfl, rfl⟩
  · exact ⟨44, _, rfl, rfl⟩
  · exact ⟨44, _, rfl, rfl⟩

/-- The members of an event up to the decision, and those after it. -/
def eventCodec : Codec AuditEvent :=
  ((after (utf8 "\x7b\"timestamp\":") (by decide)
    (string.andThen (utf8 ",\"operation_id\":") (by decide)
    (uuidCodec.andThen (utf8 ",\"batch_id\":") (by decide)
    (optionalUuid.andThen (utf8 ",\"phase\":") (by decide)
    (phaseCodec.andThen (utf8 ",\"principal\":") (by decide)
    (principalCodec.andThen (utf8 ",\"connection_id\":") (by decide)
    (uuidCodec.andThen (utf8 ",\"connection_name\":") (by decide)
    (string.andThen (utf8 ",\"environment\":") (by decide)
    (environmentCodec.andThen (utf8 ",\"driver_id\":") (by decide)
    (string.andThen (utf8 ",\"operation_class\":") (by decide)
    (operationClassCodec.andThen (utf8 ",\"redacted_sql\":") (by decide)
    (string.andThen (utf8 ",\"sql_hash\":") (by decide)
    (string.andThen (utf8 ",\"targets\":") (by decide)
    (stringList.andThen (utf8 ",\"decision_rule\":") (by decide)
    (string.andThen (utf8 ",\"approval_outcome\":") (by decide)
    (approvalOutcomeCodec.andThen (utf8 ",\"preview_state\":") (by decide)
    (previewStateCodec.andThen (utf8 ",\"terminal_status\":") (by decide)
    (terminalStatusCodec.andThen (utf8 ",\"transaction_outcome\":") (by decide)
    (transactionOutcomeCodec.andThen (utf8 ",\"error_category\":") (by decide)
    (optionalErrorCategory.andThen (utf8 ",\"error\":") (by decide)
    (optionalString.andThen (utf8 ",\"rows_affected\":") (by decide)
    (optionalNumber.andThen (utf8 ",\"duration_ms\":") (by decide)
      optionalNumber)))))))))))))))))))))).both eventTail eventTail_opens).through
    (fun event =>
      ((event.timestamp, event.operationId, event.batchId, event.phase, event.principal,
        event.connectionId, event.connectionName, event.environment, event.driverId,
        event.operationClass, event.redactedSql, event.sqlHash, event.targets,
        event.decisionRule, event.approvalOutcome, event.previewState, event.terminalStatus,
        event.transactionOutcome, event.errorCategory, event.error, event.rowsAffected,
        event.durationMs), (event.transportAttempt, event.administrativeAction)))
    (fun
      | ((timestamp, operationId, batchId, phase, principal, connectionId, connectionName,
          environment, driverId, operationClass, redactedSql, sqlHash, targets, decisionRule,
          approvalOutcome, previewState, terminalStatus, transactionOutcome, errorCategory, error,
          rowsAffected, durationMs), (transportAttempt, administrativeAction)) =>
        some
          { timestamp := timestamp
            operationId := operationId
            batchId := batchId
            phase := phase
            principal := principal
            connectionId := connectionId
            connectionName := connectionName
            environment := environment
            driverId := driverId
            operationClass := operationClass
            redactedSql := redactedSql
            sqlHash := sqlHash
            targets := targets
            decisionRule := decisionRule
            approvalOutcome := approvalOutcome
            previewState := previewState
            terminalStatus := terminalStatus
            transactionOutcome := transactionOutcome
            errorCategory := errorCategory
            error := error
            rowsAffected := rowsAffected
            durationMs := durationMs
            transportAttempt := transportAttempt
            administrativeAction := administrativeAction })
    (fun _ => rfl)

private theorem eventTail_ends : eventTail.SelfDelimiting :=
  ((selfDelimiting_text _ _).either
    (((SelfDelimiting.both _
      ((selfDelimiting_text _ _).either ((selfDelimiting_closed _ _ _).after _ _)
        _ _ _ _) _).after _ _).either
      ((selfDelimiting_closed _ _ _).after _ _) _ _ _ _) _ _ _ _).through _ _ _

private theorem eventCodec_ends : eventCodec.SelfDelimiting :=
  (SelfDelimiting.both _ eventTail_ends eventTail_opens).through _ _ _

/-- The chain fields of a record, with the key that leads to its event. -/
def chainCodec : Codec (Nat × Bytes × Bytes) :=
  after (utf8 "\x7b\"seq\":") (by decide)
    ((natural.andThen (utf8 ",\"prev_hash\":") (by decide)
      (quoted.andThen (utf8 ",\"hash\":") (by decide) quoted)).closed
        (utf8 ",\"event\":") (by decide))

private theorem chainCodec_ends :
    chainCodec.SelfDelimiting := (selfDelimiting_closed _ _ _).after _ _

def recordText (record : JournalRecord) : Bytes :=
  chainCodec.print (record.seq, record.prevHash, record.hash) ++
    (eventCodec.print record.event ++ utf8 "\x7d")

/-- A record is read with its event left as the text found, as `RawValue` does. -/
def rawReader : Reader JournalRecordRaw := do
  let chain ← chainCodec.reader
  let event ← eventCodec.reader.span
  Reader.literal (utf8 "\x7d")
  pure { seq := chain.1, prevHash := chain.2.1, hash := chain.2.2, event := event }

private theorem run_rawReader (record : JournalRecord) :
    rawReader.run (recordText record) =
      some ({ seq := record.seq
              prevHash := record.prevHash
              hash := record.hash
              event := eventCodec.print record.event }, []) := by
  have chain := chainCodec_ends (record.seq, record.prevHash, record.hash)
    (eventCodec.print record.event ++ utf8 "\x7d")
  have event := Reader.run_span (eventCodec_ends record.event (utf8 "\x7d"))
  have close := Reader.run_literal (utf8 "\x7d") []
  rw [append_nil] at close
  simp [rawReader, recordText, chain, event, close]

/-- The older format is not spelled out: no journal here starts with such a record. -/
def jsonWire : JournalWire :=
  { eventBytes := eventCodec.print
    recordBytes := recordText
    parseRaw := fun text =>
      match rawReader.complete text with
      | some raw => .ok raw
      | none => .error "not an audit record"
    parseEvent := fun text =>
      match eventCodec.reader.complete text with
      | some event => .ok event
      | none => .error "not an audit event"
    parseLegacy := fun _ => .error "not a legacy record"
    sha256 := Chain.sha256 }

theorem jsonWire_laws : jsonWire.Laws :=
  { parseRaw_recordBytes := by
      intro record
      simp [jsonWire, Reader.complete_eq_some (run_rawReader record)]
    parseEvent_eventBytes := by
      intro event
      have read := eventCodec_ends event []
      rw [append_nil] at read
      simp [jsonWire, Reader.complete_eq_some read]
    recordBytes_open := fun _ => rfl
    recordBytes_plain := by
      intro record member
      rcases mem_append.mp member with inChain | inRest
      · exact chainCodec.plain _ inChain
      · rcases mem_append.mp inRest with inEvent | atEnd
        · exact eventCodec.plain _ inEvent
        · exact absurd atEnd (by decide)
    parseRaw_cut := by
      intro record cut short
      refine ⟨"not an audit record", ?_⟩
      simp [jsonWire, Reader.complete_take (run_rawReader record) short]
    sha256_length := Chain.sha256_length }

/-- `sample_event` for the operation `id`; the digest is that of `SELECT 1`. -/
def sampleEvent (now : Timestamp) (id : Uuid) (principal : Principal) : AuditEvent :=
  { timestamp := now
    operationId := id
    batchId := none
    phase := .outcome
    principal := principal
    connectionId := Uuid.nil
    connectionName := "test"
    environment := .local
    driverId := "postgres"
    operationClass := .read
    redactedSql := "[REDACTED]"
    sqlHash := "e004ebd5b5532a4b85984a62f8ad48a81aa3460c1ca07701f386135d72cdecf5"
    targets := []
    decisionRule := "read_allow"
    approvalOutcome := .notRequired
    previewState := .notRequested
    terminalStatus := .succeeded
    transactionOutcome := .notApplicable
    errorCategory := none
    error := none
    rowsAffected := some 1
    durationMs := some 1
    transportAttempt := none
    administrativeAction := none }

/-- A write of operation 1 on connection 7. -/
def sampleWriteEvent (phase : AuditRecordPhase) (status : AuditTerminalStatus) : AuditEvent :=
  { sampleEvent "2026-01-01T00:00:00Z" 1 Principal.humanGui with
    connectionId := 7
    operationClass := .mutation
    phase := phase
    terminalStatus := status }

/-- A read that is about to run under the id of that write. -/
def sampleReadIntent : AuditEvent :=
  { sampleEvent "2026-01-01T00:00:01Z" 1 Principal.humanGui with
    connectionId := 7
    phase := .intent
    terminalStatus := .pending }

end Bookie.Storage
