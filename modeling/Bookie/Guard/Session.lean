/-
The guarded session. A batch is open between a successful BEGIN and the COMMIT or
ROLLBACK that ends it; `aborted` shadows, for PostgreSQL, whether the server will
answer the COMMIT with a rollback. A snapshot may have one forward-only cursor.
-/

import Bookie.Guard.Connection

namespace Bookie.Guard

open Bookie.Core Policy Async Async.Future PolicyGuard

structure OpenBatch where
  id : Uuid
  readOnly : Bool
  wrote : Bool
  uncertain : Bool
  aborted : Bool
  deriving DecidableEq, Repr

def OpenBatch.new (id : Uuid) (readOnly : Bool) : OpenBatch :=
  { id := id
    readOnly := readOnly
    wrote := false
    uncertain := false
    aborted := false }

structure CursorAudit where
  operationId : Uuid
  batchId : Uuid
  sql : String
  targets : List String
  decisionRule : String
  approvalOutcome : AuditApprovalOutcome
  previewState : AuditPreviewState
  analysis : StatementAnalysis
  deriving DecidableEq, Repr

def CursorAudit.operation (audit : CursorAudit) : AuditOperation :=
  { operationId := audit.operationId
    batchId := some audit.batchId
    sql := audit.sql
    cls := .read
    targets := audit.targets
    decisionRule := audit.decisionRule
    approvalOutcome := audit.approvalOutcome
    previewState := audit.previewState }

structure ActiveCursor where
  id : QueryCursorId
  audit : CursorAudit
  complete : Bool
  deriving DecidableEq, Repr

structure ExtraSets where
  collect : Bool
  sets : List QueryResult
  deriving DecidableEq, Repr

structure PolicySession where
  batch : Option OpenBatch
  cursor : Option ActiveCursor
  retired : Bool
  extra : ExtraSets
  deriving DecidableEq, Repr

def PolicySession.fresh : PolicySession :=
  { batch := none
    cursor := none
    retired := false
    extra := { collect := false, sets := [] } }

def PolicyGuard.openSession {σ : Type} (guard : PolicyGuard) : Guarded σ PolicySession := do
  let inner ← guard.caughtRead "OPEN SESSION" (guard.dispatch .openSession)
  let _ ← ofExcept inner
  pure PolicySession.fresh

inductive Finish where
  | commit
  | rollback
  deriving DecidableEq, Repr

abbrev InSession (α : Type) := Guarded PolicySession α

namespace PolicySession

variable (guard : PolicyGuard)

def retire : InSession Unit := modifyOwn fun session => { session with retired := true }

def isUsable : InSession Bool := do
  if (← own).retired then pure false
  else
    match ← askOutside guard.outside guard.outside.isUsable with
    | some usable => pure usable
    | none => do
        let _ ← guard.report "SESSION STATUS"
        retire
        pure false

def refuse {α : Type} (sql rule : String) (error : DriverError) : InSession α := do
  let analysis := guard.analyzeStatement sql
  let session ← own
  let operation ← guard.operation sql (session.batch.map fun batch => batch.id) analysis.facts
    (.deny rule error.text) .notRequired .notRequested
  guard.refuseOperation operation deniedOutcome error

def refusePolicy {α : Type} (sql rule message : String) : InSession α :=
  refuse guard sql rule (.policyDenied message)

variable (sql : String)

def requireQueryReady : InSession Unit := do
  if (← own).cursor.isSome then
    refusePolicy guard sql "query_cursor_active"
      "close the active query cursor before using the session"
  else if !(← isUsable guard) then
    refusePolicy guard sql "retired_session"
      "the session was retired after a connection fault and cannot run another statement"
  else pure ()

def requireWritable : InSession Unit := do
  let disabled ← guard.governedWritesDisabled
  when disabled (refuse guard sql "governed_write_lockdown" (.policyDenied lockdownMessage))

def rowsIn (first : QueryResult) (extraSets : List QueryResult) : Nat :=
  first.rows.length + (extraSets.map fun set => set.rows.length).sum

/-- The caller's statement on the inner session. With `collect` the result sets after the
first are masked and set aside. -/
def innerStatement (analysis : StatementAnalysis) (sql : String) (params : List Value)
    (control : OperationControl) : InSession QueryResult := do
  if !(← own).extra.collect then
    guard.dispatch (.query .session .statement sql (some params) (some control))
  else
    let batch : QueryResultBatch ← guard.dispatch (.queryResultSets .session sql params control)
    let first := batch.resultSets.head?.getD { columns := [], rows := [], truncated := false }
    let sets := batch.resultSets.tail.map (guard.maskResultForAnalysis (some analysis))
    modifyOwn fun session =>
      { session with extra := { session.extra with sets := session.extra.sets ++ sets } }
    pure { first with truncated := first.truncated || batch.truncated }

def countedStatement (analysis : StatementAnalysis) (sql : String) (params : List Value)
    (control : OperationControl) : InSession (QueryResult × List QueryResult) := do
  let first ← innerStatement guard analysis sql params control
  pure (first, (← own).extra.sets)

def maskFirst (analysis : StatementAnalysis) (value : QueryResult × List QueryResult) :
    QueryResult × List QueryResult :=
  (guard.maskResultForAnalysis (some analysis) value.1, value.2)

def countedRows (value : QueryResult × List QueryResult) : Option Nat :=
  some (rowsIn value.1 value.2)

def noteDisconnect {α : Type} (result : Except DriverError α) : InSession Unit := do
  match result with
  | .error .disconnected => retire
  | _ => pure ()

def leavesUncertain {α : Type} : Except DriverError α → Bool
  | .error .cancelled | .error .timedOut | .error (.operationOutcomeUnknown _)
  | .error .disconnected => true
  | _ => false

def noteStatement (writes rollsBackToSavepoint : Bool) (result : Except DriverError QueryResult) :
    InSession Unit := do
  noteDisconnect result
  modifyOwn fun session =>
    { session with
      batch := session.batch.map fun batch =>
        { batch with
          wrote := batch.wrote || writes
          uncertain := batch.uncertain || leavesUncertain result
          aborted :=
            if guard.ctx.driverId == "postgres" && (!result.isOk || rollsBackToSavepoint) then
              !result.isOk
            else batch.aborted } }

variable (params : List Value) (control : OperationControl)

def batchStatement (authorization : Authorization) (batchId : Uuid) :
    InSession QueryResult := do
  let analysis := authorization.analysis
  when analysis.facts.writes (requireWritable guard sql)
  let operation ← guard.authorizedOperation sql (some batchId) authorization
  let execution := countedStatement guard analysis sql params control
  let audit := guard.auditTransactionResult .interactive
  let run := if analysis.facts.writes then
      guard.runWrite operation "SESSION QUERY" execution (maskFirst guard analysis)
        countedRows audit
    else
      guard.runRead operation "SESSION QUERY" execution (maskFirst guard analysis) countedRows audit
  let value ← run
  pure value.1

def loneWrite (authorization : Authorization) :
    InSession QueryResult := do
  requireWritable guard sql
  let operation ← guard.authorizedOperation sql none authorization
  let value ← guard.runWrite operation "SESSION QUERY"
    (countedStatement guard authorization.analysis sql params control)
    (maskFirst guard authorization.analysis) countedRows guard.auditWriteResult
  pure value.1

def loneRead (authorization : Authorization) :
    InSession QueryResult := do
  let operation ← guard.authorizedOperation sql none authorization
  let value ← guard.runRead operation "SESSION QUERY"
    (countedStatement guard authorization.analysis sql params control)
    (maskFirst guard authorization.analysis) countedRows guard.auditControlledReadResult
  pure value.1

/-- Refused under a read-only snapshot. The second test is `contains`: it asks for both
of the two effects. -/
def refusedInSnapshot (effects : Effects) : Bool :=
  effects.writes || effects.contains (Effects.sessionState.union .hostOrFileAccess)

def inReadOnlyBatch (session : PolicySession) : Bool :=
  session.batch.any fun batch => batch.readOnly

def statement :
    InSession QueryResult := do
  let analysis := guard.analyzeStatement sql
  if inReadOnlyBatch (← own) && refusedInSnapshot analysis.facts.effects then
    refuse guard sql "read_only_snapshot_refusal" .readOnly
  else
    let authorization ← guard.authorizeClassified sql analysis (some control) (some .session)
    let writes := authorization.analysis.facts.writes
    let result ← (match (← own).batch with
      | some batch => batchStatement guard sql params control authorization batch.id
      | none =>
        if writes then loneWrite guard sql params control authorization
        else loneRead guard sql params control authorization : InSession QueryResult).attempt
    noteStatement guard writes authorization.analysis.rollsBackToSavepoint result
    ofExcept result

def nestedTransaction {α : Type} (sql : String) : InSession α :=
  refusePolicy guard sql "nested_transaction"
    "a transaction is already open on this session; nested BEGIN is refused"

def openBatch (readOnly : Bool) : InSession Unit := do
  let id ← guard.newUuid
  modifyOwn fun session => { session with batch := some (OpenBatch.new id readOnly) }

def begin : InSession QueryResult := do
  if (← own).batch.isSome then nestedTransaction guard sql
  else
    let result ← guard.caughtWrite "BEGIN"
      (guard.dispatch (.query .session .begin sql (some []) (some control)))
    noteDisconnect result
    when result.isOk (openBatch guard false)
    ofExcept result

def beginReadOnly : InSession QueryResult := do
  if guard.ctx.driverId != "postgres" then
    refusePolicy guard sql "snapshot_engine"
      "read-only session transactions are currently supported only by PostgreSQL"
  else if (← own).batch.isSome then nestedTransaction guard sql
  else
    let operation ← guard.operation sql none (guard.analyzeStatement sql).facts
      (.allow "read_only_snapshot") .notRequired .notRequested
    guard.prepareGovernedRead operation
    let result ← guard.caughtRead "BEGIN READ ONLY"
      (guard.dispatch (.query .session .begin sql (some []) (some control)))
    noteDisconnect result
    when result.isOk (openBatch guard true)
    let rows := result.toOption.map fun value : QueryResult => value.rows.length
    guard.auditControlledReadResult operation result rows
    ofExcept result

def finishOperation (kind : Finish) (batchId : Uuid) : InSession AuditOperation :=
  match kind with
  | .commit => guard.commitOperation batchId
  | .rollback => guard.rollbackOperation batchId

def finishOutcome (kind : Finish) (aborted : Bool) (result : Except DriverError QueryResult) :
    Verdict :=
  match result with
  | .ok _ =>
    { terminalStatus := .succeeded
      transactionOutcome :=
        match kind with
        | .commit => if aborted then .rolledBack else .committed
        | .rollback => .rolledBack
      rowsAffected := none
      errorCategory := none
      locks := false }
  | .error .cancelled =>
    { terminalStatus := .cancelled
      transactionOutcome := .pending
      rowsAffected := none
      errorCategory := some .cancelled
      locks := false }
  | .error .timedOut =>
    { terminalStatus := .timedOut
      transactionOutcome := .pending
      rowsAffected := none
      errorCategory := some .timeout
      locks := false }
  | .error error =>
    if isAmbiguousPostDispatch error then
      { terminalStatus := .unknown
        transactionOutcome := .unknown
        rowsAffected := none
        errorCategory := some (errorCategory error)
        locks := true }
    else
      { terminalStatus := .failed
        transactionOutcome := .failed
        rowsAffected := none
        errorCategory := some (errorCategory error)
        locks := false }

/-- An ambiguous end of a snapshot that wrote nothing cannot have changed anything. -/
def readOnlyEnded (batch : OpenBatch) (verdict : Verdict) : Bool :=
  verdict.locks && batch.readOnly && !batch.wrote

def finishVerdict (kind : Finish) (batch : OpenBatch) (result : Except DriverError QueryResult) :
    Verdict :=
  let verdict := finishOutcome kind batch.aborted result
  if readOnlyEnded batch verdict then
    { verdict with
      terminalStatus := .failed
      transactionOutcome := .rolledBack
      locks := false }
  else verdict

def isRetryable : Except DriverError QueryResult → Bool
  | .error .cancelled | .error .timedOut => true
  | _ => false

/-- The batch after an attempt to end it; `next` is the batch a chained end opens. -/
def batchAfter (kind : Finish) (batch next : OpenBatch) (chain : Bool)
    (result : Except DriverError QueryResult) : Option OpenBatch :=
  let verdict := finishVerdict kind batch result
  if readOnlyEnded batch (finishOutcome kind batch.aborted result) then none
  else
    match result, kind with
    | .ok _, _ => if chain then some next else none
    | .error _, .commit =>
      if !verdict.locks && !isRetryable result then none
      else some { batch with uncertain := batch.uncertain || verdict.locks }
    | .error _, .rollback => some { batch with uncertain := batch.uncertain || verdict.locks }

def finish (kind : Finish) (chain : Bool) :
    InSession (QueryResult × AuditTransactionOutcome) := do
  match (← own).batch with
  | none => refusePolicy guard sql "missing_transaction" "no transaction is open on this session"
  | some batch => do
      when (kind == .commit) (requireWritable guard sql)
      let operation ← finishOperation guard kind batch.id
      ofExcept (auditRefusal (fun error => .policyDenied (operation.sql ++
        " denied because audit intent could not be persisted: " ++ error.text))
        (← guard.recordIntent operation))
      let result ← pendingWrite do
        let result ← guard.caughtWrite operation.sql
          (guard.dispatch (.query .session .finish sql (some []) (some control)))
        noteDisconnect result
        let recorded ← guard.recordVerdict operation (finishVerdict kind batch result)
        let nextId ← guard.newUuid
        modifyOwn fun session =>
          { session with
            batch := batchAfter kind batch (OpenBatch.new nextId batch.readOnly) chain result }
        handleWriteOutcomeFailure recorded
        pure result
      let value ← ofExcept result
      pure (value, (finishVerdict kind batch result).transactionOutcome)

def queryParamsControlled :
    InSession QueryResult := do
  requireQueryReady guard sql
  match guard.front.transactionControl sql guard.ctx.driverId with
  | some .beginReadWrite =>
    if guard.ctx.readOnly then
      refusePolicy guard sql "connection_read_only"
        "read-write transactions are not allowed on a read-only connection"
    else begin guard sql control
  | some .begin => begin guard sql control
  | some .beginReadOnly =>
    refusePolicy guard sql "snapshot_isolation"
      "read-only sessions require REPEATABLE READ or SERIALIZABLE isolation"
  | some .beginReadOnlySnapshot => beginReadOnly guard sql control
  | some (.commit chain) => do
      let (result, _) ← finish guard sql control .commit chain
      pure result
  | some (.rollback chain) => do
      let (result, _) ← finish guard sql control .rollback chain
      pure result
  | none =>
    if guard.front.hidesTransactionControl sql guard.ctx.driverId then
      refusePolicy guard sql "hidden_transaction_control"
        ("send BEGIN, COMMIT and ROLLBACK as separate statements so the session can track the " ++
          "transaction")
    else statement guard sql params control

def commitControlled : InSession SessionCommitOutcome := do
  requireQueryReady guard "COMMIT"
  let (_, outcome) ← finish guard "COMMIT" control .commit false
  match outcome with
  | .committed => pure .committed
  | .rolledBack => pure .rolledBack
  | _ => fail (.operationOutcomeUnknown (.unsupported "unconfirmed session commit outcome"))

def queryResultSetsParamsControlled :
    InSession QueryResultBatch := do
  modifyOwn fun session => { session with extra := { collect := true, sets := [] } }
  let first ← (queryParamsControlled guard sql params control).attempt
  let extras := (← own).extra.sets
  modifyOwn fun session => { session with extra := { collect := false, sets := [] } }
  let first ← ofExcept first
  pure
    { resultSets := first :: extras
      truncated := (first :: extras).any fun set => set.truncated }

def noteCursorError (error : DriverError) : InSession Unit := do
  let ends := match error with
    | .disconnected | .operationOutcomeUnknown _ => true
    | _ => false
  let interrupts := match error with
    | .cancelled | .timedOut | .operationOutcomeUnknown _ => true
    | _ => false
  when ends retire
  modifyOwn fun session =>
    { session with
      batch := session.batch.map fun batch =>
        { batch with
          uncertain := batch.uncertain || (!batch.readOnly && interrupts)
          aborted := batch.aborted || guard.ctx.driverId == "postgres" } }

def auditCursorResult {α : Type} (audit : CursorAudit) (result : Except DriverError α)
    (rows : Option Nat) (terminalStatus : AuditTerminalStatus) : InSession Unit := do
  let verdict : Verdict := match result with
    | .ok _ =>
      { terminalStatus := terminalStatus
        transactionOutcome := .notApplicable
        rowsAffected := rows
        errorCategory := none
        locks := false }
    | .error error =>
      { terminalStatus := controlledErrorTerminalStatus error
        transactionOutcome := .notApplicable
        rowsAffected := rows
        errorCategory := some (errorCategory error)
        locks := false }
  let recorded ← guard.recordVerdict audit.operation verdict
  ofExcept (guard.handleReadAuditFailure recorded)

def closeCursorTimeoutMs : Nat := 5000

def closeRollbackTimeoutMs : Nat := 10000

def cursorNotActive : DriverError :=
  .unsupported "forward-only cursor is not active in this session"

def openAuthorizedCursor (audit : CursorAudit) :
    InSession QueryCursorId := do
  guard.prepareGovernedRead audit.operation
  let result ← guard.caughtRead "SESSION OPEN QUERY CURSOR"
    (guard.dispatch (.openQueryCursor sql params control))
  match result with
  | .ok id => do
      modifyOwn fun session =>
        { session with cursor := some { id := id, audit := audit, complete := false } }
      pure id
  | .error error => do
      let audited ← (auditCursorResult guard audit (.error error : Except DriverError Unit) none
        .failed).attempt
      noteCursorError guard error
      ofExcept audited
      fail error

def openQueryCursorControlled :
    InSession QueryCursorId := do
  if !(← isUsable guard) then
    refusePolicy guard sql "retired_session"
      "the session was retired and cannot open a query cursor"
  else
    match (← own).batch.filter fun batch => batch.readOnly with
    | none =>
      refusePolicy guard sql "query_cursor_requires_read_snapshot"
        "query cursors require a read-only snapshot"
    | some batch => do
        if (← own).cursor.isSome then
          refusePolicy guard sql "query_cursor_already_open"
            "only one query cursor may be open per session"
        else
          let analysis := guard.analyzeStatement sql
          if !analysis.facts.isSingleRead then
            refusePolicy guard sql "query_cursor_requires_single_read"
              "query cursors require one read-only statement"
          else
            let authorization ← guard.authorizeClassified sql analysis (some control) none
            let operationId ← guard.newUuid
            openAuthorizedCursor guard sql params control
              { operationId := operationId
                batchId := batch.id
                sql := sql
                targets := authorization.analysis.facts.tables
                decisionRule := authorization.decision.ruleName
                approvalOutcome := authorization.approvalOutcome
                previewState := authorization.previewState
                analysis := authorization.analysis }

variable (cursorId : QueryCursorId)

def closeCursorDriver : InSession Unit := do
  let control ← guard.controlWithTimeout closeCursorTimeoutMs
  let result ← guard.caughtRead "SESSION CLOSE QUERY CURSOR"
    (guard.dispatch (.closeQueryCursor cursorId control))
  modifyOwn fun session => { session with cursor := none }
  if !result.isOk then retire
  else
    let usable ← isUsable guard
    when (!usable) retire

def pageStatus (result : Except DriverError QueryCursorPage) : AuditTerminalStatus :=
  match result with
  | .ok page => if page.hasNextPage then .pending else .succeeded
  | .error error => controlledErrorTerminalStatus error

def fetchQueryCursorPageControlled (control : OperationControl) :
    InSession QueryCursorPage := do
  match (← own).cursor.filter fun cursor => cursor.id == cursorId with
  | none => fail cursorNotActive
  | some cursor => do
      let fetched ← guard.caughtRead "SESSION FETCH QUERY CURSOR PAGE"
        (guard.dispatch (.fetchQueryCursorPage cursorId control))
      let result := fetched.map fun page : QueryCursorPage =>
        { page with result := guard.maskResultForAnalysis (some cursor.audit.analysis) page.result }
      let rows := result.toOption.map fun page => page.result.rows.length
      let audited ← (auditCursorResult guard cursor.audit result rows (pageStatus result)).attempt
      match result with
      | .error error => do
          noteCursorError guard error
          closeCursorDriver guard cursorId
          ofExcept audited
          fail error
      | .ok page =>
        match audited with
        | .error error => do
            closeCursorDriver guard cursorId
            fail error
        | .ok _ => do
            when (!page.hasNextPage) (modifyOwn fun session =>
              { session with
                cursor := session.cursor.map fun cursor => { cursor with complete := true } })
            pure page

def closeActiveCursor (terminalStatus : Option AuditTerminalStatus) :
    InSession Unit := do
  match (← own).cursor with
  | none => fail cursorNotActive
  | some cursor => do
      if cursor.id != cursorId then fail cursorNotActive
      else
        modifyOwn fun session => { session with cursor := none }
        let control ← guard.controlWithTimeout closeCursorTimeoutMs
        let result ← guard.caughtRead "SESSION CLOSE QUERY CURSOR"
          (guard.dispatch (.closeQueryCursor cursor.id control))
        whenSome (if cursor.complete then none else terminalStatus) fun status => do
          let audited ← (auditCursorResult guard cursor.audit result none status).attempt
          when (!audited.isOk) retire
          ofExcept audited
        when (!result.isOk) retire
        let _ ← ofExcept result
        pure ()

def closeQueryCursorControlled (_ : OperationControl) : InSession Unit :=
  closeActiveCursor guard cursorId (some .cancelled)

/-! ### Metadata and the end of the session -/

def lexicalSettingsControlled :
    InSession (Option LexicalSettings) := do
  if (← own).retired then fail (.unsupported "the session was retired")
  else
    let result ← guard.caughtRead "SESSION LEXICAL SETTINGS"
      (guard.dispatch (.lexicalSettings .session control))
    ofExcept result

def fetchCompletionColumnsControlled (schema : Option String) (table : String)
    (control : OperationControl) : InSession (List String) := do
  guard.checkPreDispatch control
  if (← own).cursor.isSome then
    refusePolicy guard "SESSION COMPLETION COLUMNS" "query_cursor_active"
      "close the active query cursor before reading completion metadata"
  else if !(← isUsable guard) then
    refusePolicy guard "SESSION COMPLETION COLUMNS" "retired_session"
      "the session was retired after a connection fault and cannot read completion metadata"
  else
    let operation ← guard.metadataOperation "SESSION COMPLETION COLUMNS"
      (tableTarget schema table)
    guard.prepareGovernedRead operation
    let result ← guard.caughtRead "SESSION COMPLETION COLUMNS"
      (guard.dispatch (.fetchCompletionColumns schema table control))
    noteDisconnect result
    let rows := result.toOption.map fun columns : List String => columns.length
    guard.auditControlledReadResult operation result rows
    ofExcept result

def recordEnd (batchId : Uuid) (outcome : AuditOutcome) : InSession Unit := do
  let operation ← finishOperation guard .rollback batchId
  let _ ← guard.recordIntent operation
  let recorded ← guard.recordOutcome operation outcome
  let _ ← (handleWriteOutcomeFailure recorded : InSession Unit).attempt
  pure ()

def recordEndedReadOnlyBatch (batchId : Uuid) : InSession Unit :=
  recordEnd guard batchId
    { terminalStatus := .failed
      transactionOutcome := .rolledBack
      rowsAffected := none
      errorCategory := some (errorCategory .disconnected)
      durationMs := 0 }

def recordAbandonedTransaction (batchId : Uuid) : InSession Unit := do
  disableGovernedWrites
  recordEnd guard batchId
    { terminalStatus := .unknown
      transactionOutcome := .unknown
      rowsAffected := none
      errorCategory := none
      durationMs := 0 }

def closeBatch (batch : OpenBatch) : InSession Unit := do
  let usable ← isUsable guard
  if !usable && batch.readOnly && !batch.wrote then recordEndedReadOnlyBatch guard batch.id
  else
    let usable ← isUsable guard
    if usable && !batch.uncertain then
      let control ← guard.controlWithTimeout closeRollbackTimeoutMs
      let rollback ← (finish guard "ROLLBACK" control .rollback false).attempt
      let session ← own
      whenSome (if rollback.isOk then none else session.batch) fun left =>
        if left.readOnly && !left.wrote then recordEndedReadOnlyBatch guard left.id
        else recordAbandonedTransaction guard left.id
      let _ ← ofExcept rollback
      pure ()
    else
      recordAbandonedTransaction guard batch.id
      fail (.operationOutcomeUnknown .disconnected)

def close : InSession Unit := do
  let cursorCleanup ← (match (← own).cursor with
    | some cursor => closeActiveCursor guard cursor.id (some .cancelled)
    | none => pure () : InSession Unit).attempt
  let cleanup ← (match (← own).batch with
    | some batch => closeBatch guard batch
    | none => pure () : InSession Unit).attempt
  let closed ← guard.caughtRead "SESSION CLOSE" (guard.dispatch .closeSession)
  ofExcept cursorCleanup
  ofExcept cleanup
  ofExcept closed

end PolicySession

end Bookie.Guard
