/-
A bulk import over a whole run of batches. A batch is refused, is empty, fails, is
dropped while it waits, or commits; a refusal and a failure end the approval. The
budget counts executions of the approved statement, so it bounds the rows written
only where one execution writes at most one row.
-/

import Bookie.Guard.Cooperative
import Bookie.Guard.Orderly
import Mathlib.Algebra.Order.BigOperators.Group.List

namespace Bookie.Guard

open Bookie.Core Policy Async Async.Future PolicyGuard List BulkInsertScope Nat

/-! ### What a batch sends -/

def batchesSent (events : List GuardEvent) : List (List (String × List Value)) :=
  events.filterMap fun
    | .dispatched (.executeInTransaction statements _ _) _ => some statements
    | _ => none

private theorem batchesSent_append (past events : List GuardEvent) :
    batchesSent (past ++ events) = batchesSent past ++ batchesSent events :=
  filterMap_append

/-- One call on an import's scope. The scope may be handed to any guard. -/
structure ImportCall where
  guard : PolicyGuard
  batch : BulkBatch
  control : OperationControl

namespace ImportCall

variable (call : ImportCall)

def run : InImport Nat := call.guard.executeBulkBatch call.batch call.control

def statements (scope : BulkInsertScope) : List (String × List Value) :=
  call.batch.rows.map fun row => (scope.statement, row)

def sends (scope : BulkInsertScope) : DriverCall :=
  .executeInTransaction (call.statements scope) none (some call.control)

/-- The driver's answer to the batch, asked for after the three checks before it. -/
def reply (world : World BulkInsertScope) : DriverReply (List Nat) :=
  call.guard.outside.call (world.step + 3) (call.sends world.own)

/-- Writes are available and the control has not run out when the batch is checked. -/
structure Admission (call : ImportCall) (world : World BulkInsertScope) : Prop where
  available :
    (world.audit.join (call.guard.outside.others world.step)).governedWritesDisabled = false
  live : call.guard.outside.isCancelled (world.step + 1) call.control = false
  inTime : ∀ deadline, call.control.deadline = some deadline →
    call.guard.outside.instant (world.step + 2) < deadline

/-- The batch fits the scope and passes the checks before it is sent. -/
def Offered (world : World BulkInsertScope) : Prop :=
  world.own.verdict call.guard.ctx.connectionId call.batch = .ok () ∧ call.Admission world

inductive Outcome (call : ImportCall) (world : World BulkInsertScope) (events : List GuardEvent)
    (own : BulkInsertScope) : Prop
  | refused (unoffered : ¬ call.Offered world) (unsent : batchesSent events = [])
      (spent : own = { world.own with isOpen := false })
  | empty (offered : call.Offered world) (empty : call.batch.rows = [])
      (unsent : batchesSent events = []) (same : own = world.own)
  | failed (offered : call.Offered world) (rows : call.batch.rows ≠ [])
      (sent : batchesSent events = [call.statements world.own])
      (answer : (∃ error onServer, call.reply world = .failed error onServer) ∨
        ∃ onServer, call.reply world = .panicked onServer)
      (spent : own = { world.own with isOpen := false })
  | dropped (offered : call.Offered world) (rows : call.batch.rows ≠ [])
      (sent : batchesSent events = [call.statements world.own])
      (answer : ∃ onServer, call.reply world = .dropped onServer) (same : own = world.own)
  | committed (offered : call.Offered world) (rows : call.batch.rows ≠ [])
      (sent : batchesSent events = [call.statements world.own])
      (answer : ∃ counts, call.reply world = .returned counts)
      (counted : own = { world.own with
        committed := world.own.committed + (call.statements world.own).length })

abbrev Ends (world : World BulkInsertScope) : Assertion BulkInsertScope :=
  fun events now => call.Outcome world events now.own

end ImportCall

/-! ### One batch -/

/-- So many questions were asked since, and nothing else has happened. -/
def Asked {σ : Type} (world : World σ) (questions : Nat) (events : List GuardEvent)
    (now : World σ) : Prop :=
  events = [] ∧ now.step = world.step + questions ∧ now.own = world.own

section Batch

variable {σ α : Type} {guard : PolicyGuard} {call : ImportCall} {world : World BulkInsertScope}

private theorem Asked.ask {outside : Outside} {world : World σ} {questions : Nat}
    (question : Nat → α) {fails : DriverError → Assertion σ} {stops : Assertion σ} :
    Spec (Asked world questions) (askOutside outside question)
      (fun answer events now => Asked world (questions + 1) events now ∧
        answer = question (world.step + questions)) fails stops := by
  refine spec_of_silent (fun _ => rfl) fun events now holds => ?_
  obtain ⟨rfl, stepped, owned⟩ := holds
  exact ⟨⟨rfl, congrArg (· + 1) stepped, owned⟩, congrArg question stepped⟩

variable {stops : Assertion BulkInsertScope}

private theorem admission_spec (call : ImportCall) (world : World BulkInsertScope) :
    Spec (fun events now => events = [] ∧ now = world) (do
        call.guard.requireGovernedWriteAvailable
        call.guard.checkPreDispatch call.control : InImport Unit)
      (fun _ events now => Asked world 3 events now ∧ call.Admission world)
      (fun _ events now => (events = [] ∧ now.own = world.own) ∧ ¬ call.Admission world) stops := by
  have disabled : Spec (fun events now => events = [] ∧ now = world)
      (call.guard.governedWritesDisabled : InImport Bool)
      (fun disabled events now => Asked world 1 events now ∧
        disabled = (world.audit.join (call.guard.outside.others world.step)).governedWritesDisabled)
      (fun _ events now => (events = [] ∧ now.own = world.own) ∧ ¬ call.Admission world) stops := by
    intro events now holds
    obtain ⟨rfl, rfl⟩ := holds
    exact ⟨⟨rfl, rfl, rfl⟩, rfl⟩
  refine .through (fun _ events now => Asked world 1 events now ∧ (world.audit.join
      (call.guard.outside.others world.step)).governedWritesDisabled = false) ?_ fun _ => ?_
  · refine .bind disabled fun isDisabled => ?_
    refine .given fun same => ?_
    cases isDisabled with
    | true =>
      refine spec_fail fun events now holds => ⟨⟨holds.1, holds.2.2⟩, fun admission => ?_⟩
      rw [admission.available] at same
      cases same
    | false => exact spec_pure fun events now holds => ⟨holds, same.symm⟩
  refine .given fun available => ?_
  refine .bind (Asked.ask _) fun isCancelled => ?_
  refine .given fun live => ?_
  cases isCancelled with
  | true =>
    refine spec_fail fun events now holds => ⟨⟨holds.1, holds.2.2⟩, fun admission => ?_⟩
    rw [admission.live] at live
    cases live
  | false =>
  refine .bind (Asked.ask _) fun instant => ?_
  refine .given fun isInstant => ?_
  cases deadline : call.control.deadline with
  | none =>
    refine spec_pure fun events now holds => ⟨holds, available, live.symm, fun limit has => ?_⟩
    rw [deadline] at has
    cases has
  | some limit =>
  dsimp only
  split
  · rename_i late
    refine spec_fail fun events now holds => ⟨⟨holds.1, holds.2.2⟩, fun admission => ?_⟩
    have early := admission.inTime limit deadline
    rw [isInstant] at late
    exact absurd early (Nat.not_lt_of_le late)
  rename_i early
  refine spec_pure fun events now holds => ⟨holds, available, live.symm, fun other has => ?_⟩
  rw [deadline] at has
  cases has
  rw [isInstant] at early
  exact Nat.lt_of_not_le early

def SentOnce (call : ImportCall) (world : World BulkInsertScope) (events : List GuardEvent)
    (now : World BulkInsertScope) : Prop :=
  batchesSent events = [call.statements world.own] ∧ now.own = world.own

private theorem sentOnce_ignoresFaults : IgnoresFaults (SentOnce call world) := by
  intro events now operation holds
  refine ⟨?_, holds.2⟩
  rw [batchesSent_append, holds.1]
  rfl

/-- What comes back through the panic boundary says how the driver answered. -/
private theorem batch_answered (label : String) {fails : DriverError → Assertion BulkInsertScope} :
    Spec (Asked world 3)
      (call.guard.caughtWrite label (call.guard.dispatch (call.sends world.own)))
      (fun result events now => SentOnce call world events now ∧ match result with
        | .ok _ => ∃ counts, call.reply world = .returned counts
        | .error _ => (∃ error onServer, call.reply world = .failed error onServer) ∨
            ∃ onServer, call.reply world = .panicked onServer)
      fails
      (fun events now => SentOnce call world events now ∧
        ∃ onServer, call.reply world = .dropped onServer) := by
  refine caughtDispatch (fun _ past now label holds =>
    ⟨sentOnce_ignoresFaults past now label holds.1, holds.2⟩) fun events now audit le holds => ?_
  obtain ⟨rfl, stepped, owned⟩ := holds
  dsimp only
  split
  all_goals
    rename_i answer
    rw [stepped] at answer
  · exact ⟨⟨rfl, owned⟩, _, answer⟩
  · exact ⟨⟨rfl, owned⟩, .inl ⟨_, _, answer⟩⟩
  · exact fun _ => ⟨⟨rfl, owned⟩, .inr ⟨_, answer⟩⟩
  · exact ⟨⟨rfl, owned⟩, _, answer⟩

private theorem closingScope_error (error : DriverError) {post : α → Assertion BulkInsertScope}
    (events : List GuardEvent → Prop) (scope : BulkInsertScope) :
    Spec (fun past now => events past ∧ now.own = scope)
      (closingScope (.error error : Except DriverError α)) post
      (fun _ past now => events past ∧ now.own = { scope with isOpen := false }) stops := by
  refine .through (fun _ past now => events past ∧ now.own = { scope with isOpen := false })
    (spec_modify fun past now holds => ⟨holds.1, ?_⟩) fun _ => spec_fail le_rfl
  rw [holds.2]

private theorem synced_framed (guard : PolicyGuard) (sent : List (List (String × List Value)))
    (scope : BulkInsertScope) :
    Framed guard (.lenient fun _ call => batchesSent [.dispatched call (.returned none)] = [])
      (fun events (now : World BulkInsertScope) =>
        batchesSent events = sent ∧ now.own = scope) := by
  refine .ofEvents (fun _ _ _ _ _ => id) fun past now event other holds => ⟨?_, holds.2⟩
  have silent : batchesSent [event] = [] := by
    cases event with
    | dispatched call reply =>
      cases call with
      | executeInTransaction statements expectOne control => cases other _ _ rfl
      | _ => rfl
    | recorded | asked | faulted => rfl
  rw [batchesSent_append, silent, append_nil]
  exact holds.1

/-- A batch that is sent fails, is dropped or commits; the repair of the sequences after it
changes neither. -/
private theorem sent_outcome (offered : call.Offered world) (rows : call.batch.rows ≠ []) :
    Leads (Asked world 3) (call.Ends world) (do
        let result ← call.guard.caughtWrite "BULK INSERT BATCH"
          (call.guard.dispatch (call.sends world.own))
        let _ ← closingScope result
        let sent := (call.statements world.own).length
        modifyOwn fun scope => { scope with committed := scope.committed + sent }
        if world.own.sequenceColumns.isEmpty then pure sent
        else
          let control ← call.guard.controlWithTimeout sequenceSyncTimeoutMs
          let synced ← call.guard.caughtWrite "IMPORT SEQUENCE SYNC"
            (call.guard.dispatch (.synchronizeSequences world.own.schema world.own.table
              world.own.sequenceColumns control))
          let _ ← ofExcept synced
          pure sent) := by
  refine .bind (.leaving (batch_answered _) le_rfl fun events now holds =>
      .dropped offered rows holds.1.1 holds.2 holds.1.2) fun result => ?_
  cases result with
  | error error =>
    refine .given fun answer => ?_
    refine .bind (.leaving (closingScope_error error
      (fun past => batchesSent past = [call.statements world.own]) world.own)
      (fun _ events now holds => .failed offered rows holds.1 answer holds.2)
      fun _ _ => id) fun _ => spec_of_never
  | ok counts =>
  refine .given fun answer => ?_
  have framed := synced_framed call.guard [call.statements world.own]
    { world.own with
      committed := world.own.committed + (call.statements world.own).length }
  refine .skip ?_
  refine Leads.weaken (Spec.bind (spec_modify fun events now holds => ?_)
    fun _ => (?_ : Keeps (fun events (now : World BulkInsertScope) =>
      batchesSent events = [call.statements world.own] ∧ now.own = { world.own with
        committed := world.own.committed + (call.statements world.own).length }) _)) le_rfl
    (fun events now holds => .committed offered rows holds.1 answer holds.2)
  · exact ⟨holds.1, by rw [holds.2]⟩
  split
  · exact keeps_pure _
  refine .bind (framed.ask _) fun control => ?_
  refine .bind (framed.caught (framed.dispatch fun _ _ _ => rfl)) fun synced => ?_
  exact .map (keeps_ofExcept _)

private theorem execute_outcome (call : ImportCall) (world : World BulkInsertScope) :
    call.Outcome world (call.run world).events (call.run world).state.own := by
  have spec : Leads (fun events now => (events = [] ∧ now = world) ∧ now.own = world.own)
      (call.Ends world) call.run := by
    refine spec_own ?_
    cases verdict : world.own.verdict call.guard.ctx.connectionId call.batch with
    | error error =>
      refine .bind (.weaken (closingScope_error error (fun past => past = []) world.own)
        (fun _ _ holds => ⟨holds.1.1, holds.2⟩) le_rfl
        (fun _ events now holds => ?_) fun _ _ => id) fun _ => spec_of_never
      refine .refused (fun offered => ?_) (by rw [holds.1]; rfl) holds.2
      rw [offered.1] at verdict
      cases verdict
    | ok value =>
    refine .through (fun _ events now => events = [] ∧ now = world)
      (spec_pure and_le_left) fun _ => ?_
    refine .bind (admission_spec call world).attempt fun checked => ?_
    cases checked with
    | error error =>
      refine .given fun unadmitted => ?_
      refine .bind (.leaving (closingScope_error error (fun past => past = []) world.own)
        (fun _ events now holds => ?_) fun _ _ => id) fun _ => spec_of_never
      exact .refused (fun offered => unadmitted offered.2) (by rw [holds.1]; rfl) holds.2
    | ok value =>
    refine .given fun admitted => ?_
    have offered : call.Offered world := ⟨verdict, admitted⟩
    refine .skip ?_
    split
    · rename_i isEmpty
      refine spec_pure fun events now holds => ?_
      exact .empty offered (isEmpty_iff.mp isEmpty) (by rw [holds.1]; rfl) holds.2.2
    · rename_i isEmpty
      exact sent_outcome offered fun none => isEmpty (by rw [none]; rfl)
  exact spec.everywhere [] world ⟨⟨rfl, rfl⟩, rfl⟩

private theorem isOpen_of_offered (offered : call.Offered world) : world.own.isOpen = true := by
  have verdict := offered.1
  unfold BulkInsertScope.verdict at verdict
  split at verdict
  · cases verdict
  · rename_i isOpen
    simpa using isOpen

end Batch

/-- What a scope returned for a request stands for. -/
structure Granted (guard : PolicyGuard) (request : BulkInsertRequest) (scope : BulkInsertScope) :
    Prop where
  budget : 0 < request.rowBudget ∧ request.rowBudget ≤ maxBulkRowBudget
  target : guard.front.statementTarget request.statement guard.ctx.driverId =
    some (request.schema.toList ++ [request.table])
  connection : scope.connectionId = guard.ctx.connectionId
  place : scope.schema = request.schema ∧ scope.table = request.table
  statement : scope.statement = request.statement
  rowBudget : scope.rowBudget = request.rowBudget
  unspent : scope.committed = 0 ∧ scope.isOpen = true

variable {guard : PolicyGuard} {request : BulkInsertRequest} {call : ImportCall}
  {world : World BulkInsertScope}

private theorem budget_of_bulkFacts {facts : StatementFacts}
    (accepted : guard.bulkFacts request = .ok facts) :
    0 < request.rowBudget ∧ request.rowBudget ≤ maxBulkRowBudget := by
  unfold PolicyGuard.bulkFacts at accepted
  split at accepted
  · cases accepted
  split at accepted
  · cases accepted
  · rename_i within
    omega

variable {scope : BulkInsertScope}

private theorem beginBulkInsert_grants {σ : Type} {start : World σ}
    (returned : (guard.beginBulkInsert request start).exit = .done scope) :
    Granted guard request scope := by
  have spec : Spec (fun _ _ => True) (guard.beginBulkInsert request : Guarded σ BulkInsertScope)
      (fun scope _ _ => Granted guard request scope) (fun _ _ _ => True) (fun _ _ => True) := by
    refine .bind spec_anything fun _ => ?_
    cases accepted : guard.bulkFacts request with
    | error error => exact .bind (spec_fail fun _ _ _ => trivial) fun _ => spec_of_never
    | ok facts =>
    have budget := budget_of_bulkFacts accepted
    refine .through (fun _ _ _ => True) (spec_pure fun _ _ _ => trivial) fun _ => ?_
    split
    · exact .bind spec_anything fun _ => spec_fail fun _ _ _ => trivial
    split
    · exact .bind spec_anything fun _ => spec_fail fun _ _ _ => trivial
    rename_i matching
    have target : guard.front.statementTarget request.statement guard.ctx.driverId =
        some (request.schema.toList ++ [request.table]) := by
      simpa [PolicyGuard.statementTargetMatchesRequest] using matching
    refine .bind spec_anything fun granted => ?_
    refine .through (fun scope _ _ => Granted guard request scope) ?_ fun scope => ?_
    · refine .bind spec_anything fun operationId => .bind spec_anything fun batchId => ?_
      exact spec_pure fun _ _ _ => ⟨budget, target, rfl, ⟨rfl, rfl⟩, rfl, rfl, rfl, rfl⟩
    · refine .assuming _ (fun _ _ => id) fun granted => ?_
      refine .releasing (.bind spec_anything fun recorded => .bind spec_anything
        fun _ => spec_pure fun _ _ _ => granted) (fun _ _ _ _ => trivial) fun _ _ _ => trivial
  have ends := spec [] start trivial
  rw [returned] at ends
  exact ends

/-! ### Abandoned imports -/

def importRun (calls : List ImportCall) (world : World BulkInsertScope) :
    List GuardEvent × World BulkInsertScope :=
  history (calls.map ImportCall.run) world

/-- The batch is offered, and the driver does not answer it with an error or a panic. -/
def ImportCall.Passes (call : ImportCall) (world : World BulkInsertScope) : Prop :=
  call.Offered world ∧ (call.batch.rows ≠ [] →
    (∀ error onServer, call.reply world ≠ .failed error onServer) ∧
      ∀ onServer, call.reply world ≠ .panicked onServer)

def AllPass : List ImportCall → World BulkInsertScope → Prop
  | [], _ => True
  | call :: later, world => call.Passes world ∧ AllPass later (call.run world).state

private theorem isOpen_iff_passes (call : ImportCall) (world : World BulkInsertScope) :
    (call.run world).state.own.isOpen = true ↔ call.Passes world := by
  cases execute_outcome call world with
  | refused unoffered unsent spent =>
    rw [spent]
    exact ⟨nofun, fun passes => absurd passes.1 unoffered⟩
  | empty offered empty unsent same =>
    rw [same]
    exact ⟨fun _ => ⟨offered, fun rows => absurd empty rows⟩, fun _ => isOpen_of_offered offered⟩
  | failed offered rows sent answer spent =>
    rw [spent]
    refine ⟨nofun, fun passes => ?_⟩
    obtain ⟨unfailed, unpanicked⟩ := passes.2 rows
    rcases answer with ⟨error, onServer, failed⟩ | ⟨onServer, panicked⟩
    · exact absurd failed (unfailed error onServer)
    · exact absurd panicked (unpanicked onServer)
  | dropped offered rows sent answer same =>
    obtain ⟨onServer, dropped⟩ := answer
    rw [same]
    refine ⟨fun _ => ⟨offered, fun _ => ?_⟩, fun _ => isOpen_of_offered offered⟩
    rw [dropped]
    exact ⟨fun _ _ => nofun, fun _ => nofun⟩
  | committed offered rows sent answer counted =>
    obtain ⟨counts, returned⟩ := answer
    rw [counted]
    refine ⟨fun _ => ⟨offered, fun _ => ?_⟩, fun _ => isOpen_of_offered offered⟩
    rw [returned]
    exact ⟨fun _ _ => nofun, fun _ => nofun⟩

variable (calls : List ImportCall)

private theorem importRun_isOpen (world : World BulkInsertScope) :
    (importRun calls world).2.own.isOpen = true ↔
      world.own.isOpen = true ∧ AllPass calls world := by
  induction calls generalizing world with
  | nil => exact ⟨fun isOpen => ⟨isOpen, trivial⟩, fun holds => holds.1⟩
  | cons call later ih =>
    unfold importRun
    rw [map_cons, history_cons]
    refine (ih (call.run world).state).trans ?_
    rw [isOpen_iff_passes]
    constructor
    · rintro ⟨passes, rest⟩
      exact ⟨isOpen_of_offered passes.1, passes, rest⟩
    · rintro ⟨_, passes, rest⟩
      exact ⟨passes, rest⟩

private theorem dropScope_disables (left : World BulkInsertScope) :
    (dropScope left).state.audit.governedWritesDisabled =
      (left.audit.governedWritesDisabled || left.own.isOpen) := by
  obtain ⟨audit, step, own⟩ := left
  change ((when own.isOpen disableGovernedWrites : InImport Unit)
    { audit := audit, step := step, own := own }).state.audit.governedWritesDisabled = _
  cases own.isOpen with
  | false =>
    rw [Bool.or_false]
    rfl
  | true =>
    change (audit.globallyDisabled || true) = _
    rw [Bool.or_true, Bool.or_true]

/-- An import abandoned after any batches locks writes exactly if they were locked already or
every batch passed: a batch that is refused or fails ends the approval without a lock. -/
theorem abandoned_import_locks_iff {σ : Type} (guard : PolicyGuard) (request : BulkInsertRequest)
    (start : World σ) (world : World BulkInsertScope)
    (granted : (guard.beginBulkInsert request start).exit = .done world.own)
    (calls : List ImportCall) :
    let left := (importRun calls world).2
    (dropScope left).state.audit.governedWritesDisabled = true ↔
      left.audit.governedWritesDisabled = true ∨ AllPass calls world := by
  intro left
  have isOpen : left.own.isOpen = true ↔ _ := importRun_isOpen calls world
  rw [dropScope_disables, Bool.or_eq_true, isOpen,
    and_iff_right (beginBulkInsert_grants granted).unspent.2]

/-! ### Rows an import writes -/

/-- The rows written by the batches from this position on, if the `index`-th execution of the
batch at `position` writes `rows position index`. A batch that failed counts in full. -/
def rowsWritten (rows : Nat → Nat → Nat) : Nat → List (List (String × List Value)) → Nat
  | _, [] => 0
  | position, batch :: later =>
    ((range batch.length).map (rows position)).sum + rowsWritten rows (position + 1) later

def Undropped (calls : List ImportCall) : Prop :=
  ∀ call ∈ calls, ∀ step statements expectOne control onServer,
    call.guard.outside.call step (.executeInTransaction statements expectOne control) ≠
      .dropped onServer

def executions (batches : List (List (String × List Value))) : Nat := (batches.map length).sum

private theorem rowsWritten_le (rows : Nat → Nat → Nat)
    (single : ∀ position index, rows position index ≤ 1)
    (position : Nat) (batches : List (List (String × List Value))) :
    rowsWritten rows position batches ≤ executions batches := by
  induction batches generalizing position with
  | nil => exact le_refl 0
  | cons batch later ih =>
    have batchRows : ((range batch.length).map (rows position)).sum ≤ batch.length := by
      have bound := sum_le_card_nsmul ((range batch.length).map (rows position)) 1
        (fun count found => by
          obtain ⟨index, _, same⟩ := mem_map.mp found
          rw [← same]
          exact single position index)
      simpa using bound
    have laterRows := ih (position + 1)
    have split : executions (batch :: later) = batch.length + executions later := rfl
    unfold rowsWritten
    omega

def BulkInsertScope.allowance (scope : BulkInsertScope) : Nat :=
  if scope.isOpen then scope.remainingRows else 0

private theorem rows_le_remaining (offered : call.Offered world) :
    call.batch.rows.length ≤ world.own.remainingRows := by
  have verdict := offered.1
  unfold BulkInsertScope.verdict at verdict
  repeat
    split at verdict
    · cases verdict
  rename_i within
  exact Nat.le_of_not_lt within

private theorem run_allowance (call : ImportCall) (world : World BulkInsertScope)
    (undropped : ∀ onServer, call.reply world ≠ .dropped onServer) :
    executions (batchesSent (call.run world).events) + (call.run world).state.own.allowance ≤
      world.own.allowance := by
  have sentRows : executions [call.statements world.own] = call.batch.rows.length := by
    change (call.batch.rows.map _).length + 0 = _
    rw [length_map, add_zero]
  cases execute_outcome call world with
  | refused unoffered unsent spent =>
    rw [unsent, spent]
    exact zero_le _
  | empty offered empty unsent same =>
    rw [unsent, same]
    exact le_of_eq (zero_add _)
  | failed offered rows sent answer spent =>
    rw [sent, spent, sentRows, allowance, allowance, if_pos (isOpen_of_offered offered)]
    exact rows_le_remaining offered
  | dropped offered rows sent answer same =>
    obtain ⟨onServer, dropped⟩ := answer
    exact absurd dropped (undropped onServer)
  | committed offered rows sent answer counted =>
    have within := rows_le_remaining offered
    rw [sent, counted, allowance, allowance,
      if_pos (isOpen_of_offered offered), if_pos (isOpen_of_offered offered)]
    unfold remainingRows ImportCall.statements at *
    rw [length_map]
    dsimp only at *
    omega

private theorem importRun_executions (undropped : Undropped calls) (world : World BulkInsertScope) :
    executions (batchesSent (importRun calls world).1) ≤ world.own.allowance := by
  induction calls generalizing world with
  | nil => exact zero_le _
  | cons call later ih =>
    have first := run_allowance call world
      (undropped call mem_cons_self (world.step + 3) _ none (some call.control))
    have rest := ih (fun other member => undropped other (mem_cons_of_mem _ member))
      (call.run world).state
    unfold importRun executions at *
    rw [map_cons, history_cons, batchesSent_append, map_append, sum_append_nat]
    omega

def BulkInsertScope.grant (scope : BulkInsertScope) :
    Uuid × Option String × String × String × Nat :=
  (scope.connectionId, scope.schema, scope.table, scope.statement, scope.rowBudget)

private theorem run_grant (call : ImportCall) (world : World BulkInsertScope) :
    (call.run world).state.own.grant = world.own.grant := by
  cases execute_outcome call world with
  | refused unoffered unsent spent => rw [spent]; rfl
  | empty offered empty unsent same => rw [same]
  | failed offered rows sent answer spent => rw [spent]; rfl
  | dropped offered rows sent answer same => rw [same]
  | committed offered rows sent answer counted => rw [counted]; rfl

private theorem importRun_grant (world : World BulkInsertScope) :
    (importRun calls world).2.own.grant = world.own.grant := by
  induction calls generalizing world with
  | nil => rfl
  | cons call later ih =>
    unfold importRun at ih ⊢
    rw [map_cons, history_cons, ih, run_grant]

private theorem offered_matches (offered : call.Offered world) :
    call.guard.ctx.connectionId = world.own.connectionId ∧ call.batch.schema = world.own.schema ∧
      call.batch.table = world.own.table ∧ call.batch.statement = world.own.statement := by
  have verdict := offered.1
  unfold BulkInsertScope.verdict at verdict
  repeat
    split at verdict
    · cases verdict
  rename_i _ connection place statement _
  rw [not_or, not_not, not_not] at place
  exact ⟨not_not.mp connection, place.2, place.1, not_not.mp statement⟩

variable {batch : List (String × List Value)}

private theorem offered_of_sent (sent : batch ∈ batchesSent (call.run world).events) :
    call.Offered world ∧ batch = call.statements world.own := by
  cases execute_outcome call world with
  | refused _ unsent | empty _ _ unsent => rw [unsent] at sent; cases sent
  | failed offered _ once | dropped offered _ once | committed offered _ once =>
    rw [once] at sent
    exact ⟨offered, mem_singleton.mp sent⟩

private theorem sent_as_granted (granted : Granted guard request world.own)
    (before : List ImportCall)
    (call : ImportCall) (sent : batch ∈ batchesSent (call.run (importRun before world).2).events) :
    call.guard.ctx.connectionId = guard.ctx.connectionId ∧ call.batch.schema = request.schema ∧
      call.batch.table = request.table ∧ ∀ execution ∈ batch, execution.1 = request.statement := by
  obtain ⟨offered, same⟩ := offered_of_sent sent
  obtain ⟨connection, schema, table, _⟩ := offered_matches offered
  have kept := importRun_grant before world
  obtain ⟨sameConnection, sameSchema, sameTable, sameStatement, _⟩ :
      _ ∧ _ ∧ _ ∧ _ ∧ _ := by simpa only [grant, Prod.mk.injEq] using kept
  refine ⟨connection.trans (sameConnection.trans granted.connection),
    schema.trans (sameSchema.trans granted.place.1), table.trans (sameTable.trans granted.place.2),
    fun execution found => ?_⟩
  rw [same] at found
  obtain ⟨row, _, rfl⟩ := mem_map.mp found
  exact sameStatement.trans granted.statement

/-- A batch that spends the whole budget at once, sent by a guard nothing stops. -/
def spendingCall (guard : PolicyGuard) (request : BulkInsertRequest) : ImportCall :=
  { guard := { guard with outside := .cooperative }
    batch :=
      { schema := request.schema
        table := request.table
        statement := request.statement
        rows := replicate request.rowBudget [] }
    control := { token := 0, deadline := none } }

private theorem spendingCall_sends (granted : Granted guard request scope) :
    batchesSent ((spendingCall guard request).run
      { audit := .new, step := 0, own := scope }).events =
        [replicate request.rowBudget (request.statement, [])] := by
  have offered : (spendingCall guard request).Offered
      { audit := .new, step := 0, own := scope } := by
    refine ⟨?_, rfl, rfl, fun _ => nofun⟩
    simp [verdict, remainingRows, spendingCall, granted.unspent,
      granted.connection, granted.place, granted.statement, granted.rowBudget]
  have statements : (spendingCall guard request).statements scope =
      replicate request.rowBudget (request.statement, []) := by
    unfold ImportCall.statements spendingCall
    rw [map_replicate, granted.statement]
  cases execute_outcome (spendingCall guard request) { audit := .new, step := 0, own := scope } with
  | refused unoffered unsent spent => exact absurd offered unoffered
  | empty offered empty unsent same =>
    have none : replicate request.rowBudget ([] : List Value) = [] := empty
    have budget := granted.budget.1
    rw [replicate_eq_nil_iff] at none
    omega
  | failed _ _ sent | dropped _ _ sent | committed _ _ sent => rw [sent, statements]

/-- An approval for an import covers at most the row limit and one statement, table and
connection, and no batch goes elsewhere. The rows its batches write are within the approved
budget, for every driver that does not drop a batch while it waits, exactly if one execution
of the approved statement writes at most one row. -/
theorem import_rows_bounded_iff {σ : Type} (guard : PolicyGuard) (request : BulkInsertRequest)
    (start : World σ) (scope : BulkInsertScope)
    (returned : (guard.beginBulkInsert request start).exit = .done scope)
    (writes : String → Nat → Prop) :
    request.rowBudget ≤ maxBulkRowBudget ∧
      guard.front.statementTarget request.statement guard.ctx.driverId =
        some (request.schema.toList ++ [request.table]) ∧
      (∀ (world : World BulkInsertScope) (before : List ImportCall) (call : ImportCall),
        world.own = scope →
        ∀ batch ∈ batchesSent (call.run (importRun before world).2).events,
          call.guard.ctx.connectionId = guard.ctx.connectionId ∧
            call.batch.schema = request.schema ∧ call.batch.table = request.table ∧
            ∀ execution ∈ batch, execution.1 = request.statement) ∧
      ((∀ (world : World BulkInsertScope) (calls : List ImportCall) (rows : Nat → Nat → Nat),
        world.own = scope → Undropped calls →
        (∀ position index, writes request.statement (rows position index)) →
        rowsWritten rows 0 (batchesSent (importRun calls world).1) ≤ request.rowBudget) ↔
          ∀ count, writes request.statement count → count ≤ 1) := by
  have granted := beginBulkInsert_grants returned
  refine ⟨granted.budget.2, granted.target, ?_, ?_, ?_⟩
  · intro world before call owned batch sent
    subst owned
    exact sent_as_granted granted before call sent
  · intro bounded count written
    -- a run that spends the budget in one batch, each execution writing `count` rows
    have total := bounded { audit := .new, step := 0, own := scope } [spendingCall guard request]
      (fun _ _ => count) rfl (fun call member => ?_) fun _ _ => written
    · unfold importRun at total
      rw [map_singleton, history_cons, history_nil, append_nil,
        spendingCall_sends granted, rowsWritten, map_const', length_range,
        length_replicate, sum_replicate_nat] at total
      exact Nat.le_of_mul_le_mul_left (by rw [Nat.mul_one]; exact total) granted.budget.1
    · cases mem_singleton.mp member
      exact fun _ _ _ _ _ => nofun
  intro single world calls rows owned undropped written
  have atMostOne : ∀ position index, rows position index ≤ 1 := fun position index =>
    single _ (written position index)
  have allowance : world.own.allowance = request.rowBudget := by
    rw [owned, BulkInsertScope.allowance, if_pos granted.unspent.2,
      BulkInsertScope.remainingRows, granted.unspent.1, granted.rowBudget, Nat.sub_zero]
  calc rowsWritten rows 0 (batchesSent (importRun calls world).1)
      ≤ executions (batchesSent (importRun calls world).1) := rowsWritten_le rows atMostOne 0 _
    _ ≤ world.own.allowance := importRun_executions calls undropped world
    _ = request.rowBudget := allowance

def insertPairs : KnownStatement :=
  { insertUser with
    sql := "INSERT INTO users(id) VALUES ($1), ($2)"
    blastRadius := some (.known 2) }

def insertOne : KnownStatement :=
  { insertUser with
    sql := "INSERT INTO users(id) VALUES ($1)"
    blastRadius := some (.known 1) }

def importGuard : PolicyGuard := guardOver { frontEndKnowing [insertPairs, insertOne] with
    statementTarget := fun _ _ => some ["users"] } .cooperative "postgres" .prod .humanGui

def importRequest (statement : KnownStatement) : BulkInsertRequest :=
  { schema := none
    table := "users"
    statement := statement.sql
    rowBudget := 1
    sequenceColumns := [] }

def importStart : World Unit := { audit := .new, step := 0, own := () }

def importing (scope : BulkInsertScope) : World BulkInsertScope :=
  { audit := .new, step := 0, own := scope }

def tuplesOf (sql : String) : Nat := if sql = insertPairs.sql then 2 else 1

def strayCall : ImportCall :=
  { spendingCall importGuard (importRequest insertOne) with
    batch := (spendingCall importGuard (importRequest insertPairs)).batch }

/-- A refused batch ends the approval; nothing locks writes when the scope is dropped. -/
theorem refused_batch_leaves_writes_available :
    ∃ scope, (importGuard.beginBulkInsert (importRequest insertOne) importStart).exit =
      .done scope ∧
      (dropScope (importRun [strayCall] (importing scope)).2).state.audit.governedWritesDisabled =
        false :=
  ⟨_, rfl, rfl⟩

theorem abandoned_import_locks_unused :
    ∃ scope, (importGuard.beginBulkInsert (importRequest insertOne) importStart).exit =
      .done scope ∧
      (dropScope (importRun [] (importing scope)).2).state.audit.governedWritesDisabled = true :=
  ⟨_, rfl, (abandoned_import_locks_iff importGuard (importRequest insertOne) importStart
    (importing _) rfl []).mpr (.inr trivial)⟩

/-- A statement with two tuples writes two rows where one was approved. -/
theorem import_of_pairs_exceeds_budget :
    ∃ scope, (importGuard.beginBulkInsert (importRequest insertPairs) importStart).exit =
        .done scope ∧
      rowsWritten (fun _ _ => tuplesOf insertPairs.sql) 0 (batchesSent (importRun
        [spendingCall importGuard (importRequest insertPairs)] (importing scope)).1) = 2 ∧
      (importRequest insertPairs).rowBudget = 1 :=
  ⟨_, rfl, rfl, rfl⟩

theorem import_rows_bounded_one :
    ∃ scope, (importGuard.beginBulkInsert (importRequest insertOne) importStart).exit =
        .done scope ∧
      rowsWritten (fun _ _ => tuplesOf insertOne.sql) 0 (batchesSent (importRun
        [spendingCall importGuard (importRequest insertOne)] (importing scope)).1) ≤ 1 := by
  refine ⟨_, rfl, ?_⟩
  obtain ⟨_, _, _, bounded⟩ := import_rows_bounded_iff importGuard (importRequest insertOne)
    importStart _ rfl fun sql count => count = tuplesOf sql
  refine bounded.mpr (fun count one => one.trans_le (by decide)) _ _ _ rfl (fun call member => ?_)
    fun _ _ => rfl
  cases mem_singleton.mp member
  exact fun _ _ _ _ _ => nofun

end Bookie.Guard
