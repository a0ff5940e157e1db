/-
An import that is not begun. Its scope exists before the intent is recorded, and a scope
that is dropped open locks governed writes; so the error exit on a refused intent locks
them whatever the refusal was for.
-/

import Bookie.Guard.ImportScope

namespace Bookie.Guard

open Bookie.Core Policy Async Async.Future PolicyGuard List

section Refusal

variable {σ : Type} (guard : PolicyGuard) (start : World σ)

/-! ### What may lock writes -/

/-- Writes were disabled before, or another task disables them meanwhile. -/
def LockedElsewhere (world : World σ) : Prop :=
  start.audit.governedWritesDisabled = true ∨ ∃ step, start.step ≤ step ∧ step < world.step ∧
    (guard.outside.others step).governedWritesDisabled = true

/-- The sink refused a record of the phase with the error. -/
def Refused (events : List GuardEvent) (phase : AuditRecordPhase) (error : AuditError) : Prop :=
  ∃ event, event.phase = phase ∧ .recorded event (.refused error) ∈ events

/-- The sink reported an unresolved write, or did not take the record that an intent is denied
because of a write in flight. -/
def Reported (events : List GuardEvent) : Prop :=
  (∃ phase, Refused events phase .unresolvedWrite) ∨
    (Refused events .intent .writeInFlight ∧ ∃ error, Refused events .outcome error)

/-- A reason to lock writes. -/
def Excused (events : List GuardEvent) (world : World σ) : Prop :=
  LockedElsewhere guard start world ∨ Reported events

/-! ### When a scope is dropped open -/

variable (request : BulkInsertRequest) (facts : StatementFacts) (operation : AuditOperation)

/-- What an import is granted that is decided on at a step, and the step after that: the policy
allows it, or has the approver asked, who allows it. -/
inductive Grants (step : Nat) : Decision → GrantedBulkDecision → Nat → Prop
  | allowed (rule : String) :
      Grants step (.allow rule)
        { decisionRule := rule
          approvalOutcome := .notRequired
          previewState := .notRequested } step
  | approved {rule reason : String} {preview : Option String}
      (allows : guard.outside.request step (guard.bulkApproval request facts rule) =
        .answered .allowOnce) :
      Grants step (.requireApproval rule reason preview)
        { decisionRule := rule ++ ":approved"
          approvalOutcome := .approved
          previewState := .available (bulkPreview request) } (step + 1)

/-- The record of an operation that is made at a step. -/
def eventAt (phase : AuditRecordPhase) (outcome : AuditOutcome) (durationMs : Option Nat)
    (step : Nat) : AuditEvent :=
  guard.auditEvent operation phase outcome durationMs (guard.outside.now step)

def replyAt (phase : AuditRecordPhase) (outcome : AuditOutcome) (durationMs : Option Nat)
    (step : Nat) : SinkReply :=
  guard.outside.record (step + 1) (eventAt guard operation phase outcome durationMs step)

/-- The sink's answer to an intent, and to the record that it is denied. -/
def intentReply : Nat → SinkReply :=
  replyAt guard operation .intent (pendingOutcome operation.cls) none

def denialReply : Nat → SinkReply :=
  replyAt guard operation .outcome deniedOutcome (some deniedOutcome.durationMs)

/-- The sink refuses the intent that is recorded at a step, though it knows of no unresolved
write: another write is in flight and the refusal is recorded, or it has a fault of its own and
the write may not go on without an intent. The last number is the step after that. -/
inductive TurnedDown (step : Nat) : Nat → Prop
  | besideWrite (refuses : intentReply guard operation step = .refused .writeInFlight)
      (recorded : denialReply guard operation (step + 2) = .accepted) : TurnedDown step (step + 4)
  | unpersisted {error : AuditError} (refuses : intentReply guard operation step = .refused error)
      (resolved : error ≠ .unresolvedWrite) (idle : error ≠ .writeInFlight)
      (required : guard.intentIsRequired = true) : TurnedDown step (step + 2)

/-- The import passes its checks and is granted. -/
structure ImportGranted (granted : GrantedBulkDecision) (step : Nat) : Prop where
  passes : guard.bulkFacts request = .ok facts
  columns : guard.validSequenceColumns request.sequenceColumns = true
  target : guard.statementTargetMatchesRequest request = true
  grants : Grants guard request facts (start.step + 1) (guard.bulkDecision request facts) granted
    step

/-- The import passes, its intent is turned down, and nobody else has locked writes until then. -/
def LeftOpen : Prop :=
  ∃ facts granted step last, ImportGranted guard start request facts granted step ∧
    TurnedDown guard (guard.bulkScope request facts granted (guard.outside.newUuid step)
      (guard.outside.newUuid (step + 1))).operation (step + 2) last ∧
    start.audit.governedWritesDisabled = false ∧
    ∀ other, start.step ≤ other → other < last →
      (guard.outside.others other).governedWritesDisabled = false

variable {guard start request facts operation}

private theorem Grants.unique {step first second : Nat} {decision : Decision}
    {one other : GrantedBulkDecision} (grants : Grants guard request facts step decision one first)
    (again : Grants guard request facts step decision other second) :
    one = other ∧ first = second := by
  cases grants <;> cases again <;> exact ⟨rfl, rfl⟩

private theorem Grants.later {step last : Nat} {decision : Decision} {granted : GrantedBulkDecision}
    (grants : Grants guard request facts step decision granted last) : step ≤ last := by
  cases grants with
  | allowed rule => exact Nat.le_refl _
  | approved allows => exact Nat.le_succ _

private theorem TurnedDown.unique {step last other : Nat}
    (turned : TurnedDown guard operation step last)
    (again : TurnedDown guard operation step other) : last = other := by
  rcases turned with ⟨refuses, _⟩ | ⟨refuses, _, idle, _⟩ <;>
    rcases again with ⟨also, _⟩ | ⟨also, _, alsoIdle, _⟩ <;> cases refuses.symm.trans also
  · rfl
  · exact absurd rfl alsoIdle
  · exact absurd rfl idle
  · rfl

/-- The sink has a reason, which it gives. -/
private theorem not_turnedDown {step : Nat} {error : AuditError}
    (refuses : intentReply guard operation step = .refused error)
    (reason : error = .unresolvedWrite ∨
      error = .writeInFlight ∧ denialReply guard operation (step + 2) ≠ .accepted) :
    ∀ last, ¬ TurnedDown guard operation step last := by
  rintro last (⟨also, accepted⟩ | ⟨also, resolved, idle, _⟩)
  · cases refuses.symm.trans also
    exact reason.elim nofun fun busy => busy.2 accepted
  · cases refuses.symm.trans also
    exact reason.elim resolved fun busy => idle busy.1

private theorem TurnedDown.later {step last : Nat} (turned : TurnedDown guard operation step last) :
    step < last := by
  cases turned <;> omega

/-! ### Before the intent -/

/-- Nothing the guard did so far locks writes. -/
structure Calm (guard : PolicyGuard) (start : World σ) (world : World σ) : Prop where
  later : start.step ≤ world.step
  locked : world.audit.governedWritesDisabled = true → LockedElsewhere guard start world

/-- The guard has reached a step, and has recorded nothing. -/
structure Before (guard : PolicyGuard) (start : World σ) (step : Nat) (events : List GuardEvent)
    (world : World σ) : Prop extends Calm guard start world where
  reached : world.step = step
  unrecorded : ∀ event reply, .recorded event reply ∉ events

private theorem before_start : Before guard start start.step [] start :=
  { later := Nat.le_refl _
    locked := .inl
    reached := rfl
    unrecorded := fun _ _ => not_mem_nil }

private theorem disabled_join {state other : AuditState}
    (disabled : (state.join other).governedWritesDisabled = true) :
    state.governedWritesDisabled = true ∨ other.governedWritesDisabled = true := by
  unfold AuditState.join AuditState.governedWritesDisabled at *
  simp only [Bool.or_eq_true] at disabled ⊢
  rcases disabled with (first | first) | (second | second)
  · exact .inl (.inl first)
  · exact .inr (.inl first)
  · exact .inl (.inr second)
  · exact .inr (.inr second)

/-- The world after a question. -/
def World.asked (guard : PolicyGuard) (world : World σ) : World σ :=
  { world with
    audit := world.audit.join (guard.outside.others world.step)
    step := world.step + 1 }

private theorem Calm.asked {world : World σ} (calm : Calm guard start world) :
    Calm guard start (world.asked guard) := by
  refine ⟨Nat.le_succ_of_le calm.later, fun disabled => ?_⟩
  rcases disabled_join disabled with before | meanwhile
  · rcases calm.locked before with atStart | ⟨step, from_, upTo, other⟩
    · exact .inl atStart
    · exact .inr ⟨step, from_, Nat.lt_succ_of_lt upTo, other⟩
  · exact .inr ⟨world.step, calm.later, Nat.lt_succ_self _, meanwhile⟩

private theorem calm_ask {α : Type} (question : Nat → α) :
    Keeps (fun _ => Calm guard start) (askOutside guard.outside question) :=
  fun _ _ calm => calm.asked

private theorem before_ask {α : Type} {step : Nat} (question : Nat → α) :
    Returns (Before guard start step) (askOutside guard.outside question)
      fun value events world => Before guard start (step + 1) events world ∧
        value = question step := by
  intro past world before
  have reached := before.reached
  subst reached
  refine ⟨⟨before.toCalm.asked, rfl, ?_⟩, rfl⟩
  change ∀ event reply, .recorded event reply ∉ past ++ []
  rw [append_nil]
  exact before.unrecorded

private theorem calm_emit (event : GuardEvent) :
    Keeps (fun _ => Calm guard start) (emit event : Guarded σ Unit) := fun _ _ calm => calm

private theorem calm_recordOutcome (outcome : AuditOutcome) :
    Keeps (fun _ => Calm guard start) (guard.recordOutcome operation outcome : Guarded σ _) := by
  apply (calm_ask _).bind
  intro timestamp
  apply (calm_ask _).bind
  intro reply
  apply (calm_emit _).bind
  intro _
  cases reply with
  | accepted | refused => exact keeps_pure _
  | panicked => exact keeps_crash
  | dropped => exact keeps_abandon

private theorem calm_recordBulkRefusal (rule : String) (approvalOutcome : AuditApprovalOutcome)
    (preview : Option String) :
    Keeps (fun _ => Calm guard start)
      (guard.recordBulkRefusal request facts rule approvalOutcome preview : Guarded σ Unit) := by
  apply (calm_ask _).bind
  intro operationId
  apply (calm_recordOutcome _).bind
  intro recorded
  exact keeps_ofExcept _

/-! ### The exits -/

/-- What an exit with an error leaves. -/
def LeavesSettled (guard : PolicyGuard) (start : World σ) (request : BulkInsertRequest)
    (events : List GuardEvent) (world : World σ) : Prop :=
  (world.audit.governedWritesDisabled = true → Excused guard start events world) ↔
    ¬ LeftOpen guard start request

/-- What holds at the end of an import that does not get to its intent, or whose intent ends in
some other way than by an error. -/
abbrev EndsSettled {α : Type} (guard : PolicyGuard) (start : World σ) (request : BulkInsertRequest)
    (pre : Assertion σ) (run : Guarded σ α) (post : α → Assertion σ) : Prop :=
  Spec pre run post (fun _ => LeavesSettled guard start request)
    fun _ _ => ¬ LeftOpen guard start request

private theorem Calm.settled {world : World σ} {events : List GuardEvent}
    (calm : Calm guard start world)
    (closed : ¬ LeftOpen guard start request) : LeavesSettled guard start request events world :=
  ⟨fun _ => closed, fun _ disabled => .inl (calm.locked disabled)⟩

/-- A refusal of an import that does not come to its intent. -/
private theorem refusal_settles {α : Type} {rule : String} {outcome : AuditApprovalOutcome}
    {preview : Option String} {error : DriverError} {post : α → Assertion σ}
    (closed : ¬ LeftOpen guard start request) :
    EndsSettled guard start request (fun _ => Calm guard start) (do
      guard.recordBulkRefusal request facts rule outcome preview
      fail error) post := by
  apply Spec.bind
  · apply Spec.leaving (calm_recordBulkRefusal rule outcome preview)
    · intro _ _ _ calm
      exact calm.settled closed
    · intro _ _ _
      exact closed
  · intro _
    exact spec_fail fun _ _ calm => calm.settled closed

private theorem available_settles : EndsSettled guard start request (Before guard start start.step)
    (guard.requireGovernedWriteAvailable : Guarded σ Unit)
    fun _ => Before guard start (start.step + 1) := by
  apply Spec.through fun disabled events world =>
    Before guard start (start.step + 1) events world ∧
      disabled = world.audit.governedWritesDisabled
  · apply (before_ask _).bind
    intro _
    apply Spec.through fun found events world =>
      Before guard start (start.step + 1) events world ∧ found = world
    · exact spec_get fun _ _ before => ⟨before.1, rfl⟩
    · intro found
      exact spec_pure fun _ _ known => ⟨known.1, known.2 ▸ rfl⟩
  intro disabled
  apply spec_when
  · rintro rfl
    refine spec_fail fun _ _ ⟨before, isDisabled⟩ => before.toCalm.settled ?_
    -- whoever disabled them did so before any intent
    rintro ⟨facts, granted, step, last, cleared, turned, enabled, others⟩
    rcases before.locked isDisabled.symm with atStart | ⟨step, from_, upTo, other⟩
    · rw [enabled] at atStart
      cases atStart
    · rw [others step from_ (by
        have := cleared.grants.later
        have := turned.later
        have := before.reached
        omega)] at other
      cases other
  · exact fun _ _ _ known => known.1

private theorem before_requestApproval {step : Nat} {question : ApprovalRequest}
    {fails : DriverError → Assertion σ} :
    Spec (Before guard start step) (guard.requestApproval question none : Guarded σ _)
      (fun answer events world => Before guard start (step + 1) events world ∧
        ∃ outcome, answer = .ok outcome ∧ guard.outside.request step question = .answered outcome)
      fails fun _ _ => ∀ outcome, guard.outside.request step question ≠ .answered outcome := by
  apply Returns.step (before_ask _)
  rintro reply isReply
  apply Spec.through fun _ => Before guard start (step + 1)
  · refine spec_emit fun past world before =>
      { before with unrecorded := fun event answer member => ?_ }
    rcases mem_append.mp member with earlier | here
    · exact before.unrecorded _ _ earlier
    · cases mem_singleton.mp here
  intro _
  cases reply with
  | answered outcome => exact spec_pure fun _ _ before => ⟨before, outcome, rfl, isReply.symm⟩
  | panicked => exact spec_crash fun _ _ _ outcome => isReply ▸ nofun
  | cancelled | timedOut | dropped => exact spec_abandon fun _ _ _ outcome => isReply ▸ nofun

private theorem settleBulkDecision_settles {decision : Decision}
    (decides : guard.bulkDecision request facts = decision)
    (passes : guard.bulkFacts request = .ok facts) :
    EndsSettled guard start request (Before guard start (start.step + 1))
      (guard.settleBulkDecision request facts decision : Guarded σ GrantedBulkDecision)
      fun granted events world => ∃ step, Before guard start step events world ∧
        Grants guard request facts (start.step + 1) decision granted step := by
  have closed (none : ∀ granted step, ¬ Grants guard request facts (start.step + 1)
      decision granted step) : ¬ LeftOpen guard start request := by
    rintro ⟨other, granted, step, _, cleared, _⟩
    cases passes.symm.trans cleared.passes
    exact none granted step (decides ▸ cleared.grants)
  cases decision with
  | allow rule => exact spec_pure fun _ _ before => ⟨_, before, .allowed rule⟩
  | deny rule message =>
    exact (refusal_settles (closed nofun)).before fun _ _ before => before.toCalm
  | requireApproval rule reason preview =>
  apply Spec.through fun answer events world => Before guard start (start.step + 2) events world ∧
    ∃ outcome, answer = .ok outcome ∧
      guard.outside.request (start.step + 1) (guard.bulkApproval request facts rule) =
        .answered outcome
  · refine before_requestApproval.leaving (fun _ _ _ => id) fun _ _ unanswered => closed ?_
    rintro _ _ (_ | allows)
    exact unanswered _ allows
  intro answer
  apply Spec.assuming (∃ outcome, answer = .ok outcome ∧
    guard.outside.request (start.step + 1) (guard.bulkApproval request facts rule) =
      .answered outcome) fun _ _ known => known.2
  rintro ⟨outcome, rfl, isAnswer⟩
  apply Spec.skip
  cases outcome with
  | allowOnce => exact spec_pure fun _ _ known => ⟨_, known.1, .approved isAnswer⟩
  | deny =>
    refine (refusal_settles (closed ?_)).before fun _ _ known => known.1.toCalm
    rintro _ _ (_ | allows)
    rw [isAnswer] at allows
    cases allows

private theorem before_newScope {granted : GrantedBulkDecision} {step : Nat} :
    Returns (Before guard start step) (guard.newScope request facts granted : Guarded σ _)
      fun scope events world => Before guard start (step + 2) events world ∧
        scope = guard.bulkScope request facts granted (guard.outside.newUuid step)
          (guard.outside.newUuid (step + 1)) := by
  apply Returns.step (before_ask _)
  rintro operationId rfl
  apply Returns.step (before_ask _)
  rintro batchId rfl
  exact spec_pure fun _ _ before => ⟨before, rfl⟩

/-! ### The intent -/

/-- The guard has reached a step, and these are the refusals it got from the sink. -/
def Told (told : List (AuditEvent × AuditError)) (step : Nat) (events : List GuardEvent)
    (world : World σ) : Prop :=
  world.step = step ∧
    ∀ event error, .recorded event (.refused error) ∈ events ↔ (event, error) ∈ told

private theorem Before.told {step : Nat} {events : List GuardEvent} {world : World σ}
    (before : Before guard start step events world) : Told [] step events world :=
  ⟨before.reached, fun _ _ => iff_of_false (before.unrecorded _ _) not_mem_nil⟩

section Record

variable {told : List (AuditEvent × AuditError)} {step : Nat} {phase : AuditRecordPhase}
  {outcome : AuditOutcome} {durationMs : Option Nat} {fails : DriverError → Assertion σ}

private theorem told_ask {α : Type} (question : Nat → α) :
    Returns (Told told step) (askOutside guard.outside question : Guarded σ α)
      fun value events world => Told told (step + 1) events world ∧ value = question step := by
  rintro past world ⟨rfl, known⟩
  refine ⟨⟨rfl, ?_⟩, rfl⟩
  change ∀ event error, _ ∈ past ++ [] ↔ _
  rwa [append_nil]

/-- A refusal adds to what the guard was told. -/
private theorem told_record :
    Spec (Told told step) (guard.record operation phase outcome durationMs : Guarded σ _)
      (fun result events world => match result with
        | .ok _ => replyAt guard operation phase outcome durationMs step = .accepted ∧
            Told told (step + 2) events world
        | .error error => replyAt guard operation phase outcome durationMs step = .refused error ∧
            Told (told ++ [(eventAt guard operation phase outcome durationMs step, error)])
              (step + 2) events world)
      fails fun _ _ => replyAt guard operation phase outcome durationMs step ≠ .accepted ∧
        ∀ error, replyAt guard operation phase outcome durationMs step ≠ .refused error := by
  apply Returns.step (told_ask _)
  rintro timestamp rfl
  apply Returns.step (told_ask _)
  intro reply isReply
  apply Spec.through fun _ past world => ∃ earlier, Told told (step + 2) earlier world ∧
    past = earlier ++ [.recorded (eventAt guard operation phase outcome durationMs step) reply]
  · exact spec_emit fun past world known => ⟨past, known, rfl⟩
  intro _
  change reply = replyAt guard operation phase outcome durationMs step at isReply
  rw [← isReply]
  cases reply with
  | accepted =>
    refine spec_pure ?_
    rintro _ world ⟨earlier, ⟨reached, known⟩, rfl⟩
    refine ⟨rfl, reached, fun event error => ?_⟩
    rw [← known, mem_append, mem_singleton]
    simp
  | refused error =>
    refine spec_pure ?_
    rintro _ world ⟨earlier, ⟨reached, known⟩, rfl⟩
    refine ⟨rfl, reached, fun event other => ?_⟩
    rw [mem_append, mem_append, known, mem_singleton, mem_singleton]
    simp
  | panicked => exact spec_crash fun _ _ _ => ⟨nofun, nofun⟩
  | dropped => exact spec_abandon fun _ _ _ => ⟨nofun, nofun⟩

private theorem told_denial :
    Spec (Told told step) (do
        let recorded ← guard.recordOutcome operation deniedOutcome
        when (!recorded.isOk) disableGlobally : Guarded σ Unit)
      (fun _ events world =>
        denialReply guard operation step = .accepted ∧ Told told (step + 2) events world ∨
        denialReply guard operation step ≠ .accepted ∧ ∃ error, Told (told ++
          [(eventAt guard operation .outcome deniedOutcome (some deniedOutcome.durationMs) step,
            error)]) (step + 2) events world)
      fails fun _ _ => denialReply guard operation step ≠ .accepted := by
  apply Spec.bind
  · exact told_record.leaving (fun _ _ _ => id) fun _ _ known => known.1
  intro result
  cases result with
  | ok _ => exact spec_pure fun _ _ => .inl
  | error error =>
    refine spec_modify fun past world ⟨refuses, known⟩ => .inr ⟨?_, error, known⟩
    intro accepts
    cases refuses.symm.trans accepts

end Record

private theorem Told.refused {told : List (AuditEvent × AuditError)} {step : Nat}
    {events : List GuardEvent} {world : World σ} (known : Told told step events world)
    {event : AuditEvent} {error : AuditError} (member : (event, error) ∈ told) :
    Refused events event.phase error :=
  ⟨event, rfl, (known.2 event error).mpr member⟩

/-- What an intent leaves that is recorded at a step. -/
def IntentLeaves (guard : PolicyGuard) (operation : AuditOperation) (step : Nat)
    (result : Except AuditError Unit) (events : List GuardEvent) (world : World σ) : Prop :=
  match result with
  | .ok _ => intentReply guard operation step = .accepted
  | .error error => intentReply guard operation step = .refused error ∧
      (Reported events ∧ (error = .unresolvedWrite ∨
          error = .writeInFlight ∧ denialReply guard operation (step + 2) ≠ .accepted) ∨
        error ≠ .unresolvedWrite ∧ ∃ last,
          Told [(eventAt guard operation .intent (pendingOutcome operation.cls) none step, error)]
            last events world ∧
          (error = .writeInFlight ∧ denialReply guard operation (step + 2) = .accepted ∧
              last = step + 4 ∨ error ≠ .writeInFlight ∧ last = step + 2))

private theorem recordIntent_leaves {step : Nat} {fails : DriverError → Assertion σ} :
    Spec (Told [] step) (guard.recordIntent operation : Guarded σ _)
      (IntentLeaves guard operation step) fails
      fun _ _ => ∀ last, ¬ TurnedDown guard operation step last := by
  unfold recordIntent
  apply Spec.bind
  · apply told_record.leaving (fun _ _ _ => id)
    rintro _ _ ⟨_, unrefused⟩ last (⟨refuses, _⟩ | ⟨refuses, _⟩)
    · exact unrefused _ refuses
    · exact unrefused _ refuses
  intro result
  cases result with
  | ok _ => exact spec_pure fun _ _ known => known.1
  | error error =>
  refine Spec.assuming _ (fun _ _ known => known.1) fun refuses => ?_
  have unturned := not_turnedDown refuses
  cases error with
  | unresolvedWrite =>
    apply Spec.through fun _ => Told [(eventAt guard operation .intent
      (pendingOutcome operation.cls) none step, .unresolvedWrite)] (step + 2)
    · exact spec_modify fun _ _ known => known.2
    intro _
    apply Spec.bind (told_denial.leaving (fun _ _ _ => id) fun _ _ _ => unturned (.inl rfl))
    intro _
    refine spec_pure fun past world known => ⟨refuses, .inl ⟨.inl ⟨.intent, ?_⟩, .inl rfl⟩⟩
    rcases known with ⟨_, known⟩ | ⟨_, _, known⟩
    · exact known.refused mem_cons_self
    · exact known.refused mem_cons_self
  | writeInFlight =>
    apply Spec.skip
    refine .bind (Spec.before (told_denial.leaving (fun _ _ _ => id) fun _ _ untaken =>
      unturned (.inr ⟨rfl, untaken⟩)) fun _ _ known => known.2) fun _ => spec_pure ?_
    rintro past world (⟨taken, known⟩ | ⟨untaken, error, known⟩)
    · exact ⟨refuses, .inr ⟨nofun, _, known, .inl ⟨rfl, taken, rfl⟩⟩⟩
    · refine ⟨refuses, .inl ⟨.inr ⟨known.refused mem_cons_self, error, ?_⟩, .inr ⟨rfl, untaken⟩⟩⟩
      exact known.refused (mem_cons_of_mem _ mem_cons_self)
  | unavailable | persistence | corrupt =>
    exact spec_pure fun _ _ known => ⟨refuses, .inr ⟨nofun, _, known.2, .inr ⟨nofun, rfl⟩⟩⟩

/-! ### The import -/

private theorem LeftOpen.turnedDown {granted : GrantedBulkDecision} {step : Nat}
    (cleared : ImportGranted guard start request facts granted step)
    (left : LeftOpen guard start request) :
    ∃ last, TurnedDown guard (guard.bulkScope request facts granted (guard.outside.newUuid step)
        (guard.outside.newUuid (step + 1))).operation (step + 2) last ∧
      start.audit.governedWritesDisabled = false ∧
      ∀ other, start.step ≤ other → other < last →
        (guard.outside.others other).governedWritesDisabled = false := by
  obtain ⟨_, _, _, last, also, rest⟩ := left
  cases cleared.passes.symm.trans also.passes
  obtain ⟨rfl, rfl⟩ := cleared.grants.unique also.grants
  exact ⟨last, rest⟩

/-- When the intent is turned down, the only excuse is a lock from elsewhere. -/
private theorem TurnedDown.settled {granted : GrantedBulkDecision} {step last : Nat}
    (cleared : ImportGranted guard start request facts granted step)
    (turned : TurnedDown guard (guard.bulkScope request facts granted (guard.outside.newUuid step)
      (guard.outside.newUuid (step + 1))).operation (step + 2) last)
    {events : List GuardEvent} {world : World σ} (reached : world.step = last)
    (disabled : world.audit.governedWritesDisabled = true) (unreported : ¬ Reported events) :
    LeavesSettled guard start request events world := by
  constructor
  · intro excused left
    obtain ⟨_, again, enabled, others⟩ := left.turnedDown cleared
    cases turned.unique again
    rcases (excused disabled).resolve_right unreported with atStart | ⟨other, from_, upTo, locked⟩
    · rw [enabled] at atStart
      cases atStart
    · rw [others other from_ (reached ▸ upTo)] at locked
      cases locked
  · intro closed _
    by_contra unexcused
    refine closed ⟨facts, granted, step, last, cleared, turned, ?_, ?_⟩
    · exact Bool.eq_false_iff.mpr fun atStart => unexcused (.inl (.inl atStart))
    · intro other from_ upTo
      refine Bool.eq_false_iff.mpr fun locked => unexcused (.inl (.inr ⟨other, from_, ?_, locked⟩))
      exact reached ▸ upTo

private theorem handleIntentFailure_error {error : AuditError} (resolved : error ≠ .unresolvedWrite)
    (idle : error ≠ .writeInFlight) : guard.handleIntentFailure (.error error) =
      if guard.intentIsRequired then .error (intentNotPersisted error) else .ok () := by
  cases error with
  | unresolvedWrite => exact absurd rfl resolved
  | writeInFlight => exact absurd rfl idle
  | unavailable | persistence | corrupt => rfl

/-- An intent that was handled as if it were recorded. -/
private theorem IntentLeaves.unturned {step : Nat} {result : Except AuditError Unit}
    {events : List GuardEvent} {world : World σ}
    (leaves : IntentLeaves guard operation step result events world)
    (handled : guard.handleIntentFailure result = .ok ()) :
    ∀ last, ¬ TurnedDown guard operation step last := by
  cases result with
  | ok _ =>
    rintro last (⟨refuses, _⟩ | ⟨refuses, _⟩) <;> cases leaves.symm.trans refuses
  | error error =>
  rintro last (⟨refuses, _⟩ | ⟨refuses, resolved, idle, required⟩) <;>
    cases leaves.1.symm.trans refuses
  · cases handled
  · rw [handleIntentFailure_error resolved idle, if_pos required] at handled
    cases handled

/-- An intent that was handled as an error: the sink gave a reason, or it was turned down. -/
private theorem IntentLeaves.turned {step : Nat} {result : Except AuditError Unit}
    {events : List GuardEvent} {world : World σ} {cause : DriverError}
    (leaves : IntentLeaves guard operation step result events world)
    (handled : guard.handleIntentFailure result = .error cause) :
    Reported events ∧ (∀ last, ¬ TurnedDown guard operation step last) ∨
      ¬ Reported events ∧ TurnedDown guard operation step world.step := by
  cases result with
  | ok _ => cases handled
  | error error =>
  obtain ⟨refuses, ⟨reported, reason⟩ | ⟨resolved, last, ⟨rfl, told⟩, ends⟩⟩ := leaves
  · exact .inl ⟨reported, not_turnedDown refuses reason⟩
  refine .inr ⟨?_, ?_⟩
  · rintro (⟨_, event, _, member⟩ | ⟨_, _, event, isOutcome, member⟩)
    · cases mem_singleton.mp ((told _ _).mp member)
      exact resolved rfl
    · cases mem_singleton.mp ((told _ _).mp member)
      cases isOutcome
  rcases ends with ⟨rfl, taken, last⟩ | ⟨idle, last⟩
  · rw [last]
    exact .besideWrite refuses taken
  · rw [last]
    refine .unpersisted refuses resolved idle ?_
    by_contra optional
    rw [handleIntentFailure_error resolved idle, if_neg optional] at handled
    cases handled

private theorem intended_settles {granted : GrantedBulkDecision} {step : Nat}
    {scope : BulkInsertScope}
    (isScope : scope = guard.bulkScope request facts granted (guard.outside.newUuid step)
      (guard.outside.newUuid (step + 1)))
    (cleared : ImportGranted guard start request facts granted step) :
    EndsSettled guard start request (Before guard start (step + 2)) (pendingWrite do
        ofExcept (guard.handleIntentFailure (← guard.recordIntent scope.operation))
        pure scope)
      fun _ _ _ => ¬ LeftOpen guard start request := by
  have closed (unturned : ∀ last, ¬ TurnedDown guard scope.operation (step + 2) last) :
      ¬ LeftOpen guard start request := by
    intro left
    obtain ⟨last, turned, _⟩ := left.turnedDown cleared
    exact unturned last (isScope ▸ turned)
  have inner : Spec (Before guard start (step + 2)) (do
        ofExcept (guard.handleIntentFailure (← guard.recordIntent scope.operation))
        pure scope : Guarded σ BulkInsertScope)
      (fun _ _ _ => ¬ LeftOpen guard start request)
      (fun _ events world => Reported events ∧ ¬ LeftOpen guard start request ∨
        ¬ Reported events ∧ TurnedDown guard scope.operation (step + 2) world.step)
      fun _ _ => ¬ LeftOpen guard start request := by
    apply Spec.bind
    · exact (recordIntent_leaves.leaving (fun _ _ _ => id) fun _ _ => closed).before
        fun _ _ before => before.told
    intro result
    apply Spec.through fun _ _ _ => ¬ LeftOpen guard start request
    · apply spec_ofExcept
      · intro _ handled _ _ leaves
        exact closed (leaves.unturned handled)
      · intro cause handled _ _ leaves
        exact (leaves.turned handled).imp_left fun reported => reported.imp_right closed
    · intro _
      exact spec_pure le_rfl
  refine inner.releasing ?_ fun _ _ => id
  rintro error events world (⟨reported, isClosed⟩ | ⟨unreported, turned⟩)
  · exact ⟨fun _ => isClosed, fun _ _ => .inr reported⟩
  · subst isScope
    exact turned.settled cleared rfl
      (AuditState.locked_disableGovernedWrites world.audit) unreported

private theorem spec_exists {ι α : Type} {pre : ι → Assertion σ} {run : Guarded σ α}
    {post : α → Assertion σ} {fails : DriverError → Assertion σ} {stops : Assertion σ}
    (spec : ∀ index, Spec (pre index) run post fails stops) :
    Spec (fun past world => ∃ index, pre index past world) run post fails stops :=
  fun past world ⟨index, holds⟩ => spec index past world holds

private theorem beginBulkInsert_settles :
    EndsSettled guard start request (Before guard start start.step)
      (guard.beginBulkInsert request : Guarded σ BulkInsertScope)
      fun _ _ _ => ¬ LeftOpen guard start request := by
  apply available_settles.bind
  intro _
  cases passes : guard.bulkFacts request with
  | error cause =>
    refine Spec.bind (spec_fail fun _ _ before => before.toCalm.settled ?_) fun _ => spec_of_never
    rintro ⟨facts, _, _, _, also, _⟩
    cases passes.symm.trans also.passes
  | ok facts =>
  apply Spec.skip
  split
  · rename_i invalid
    refine (refusal_settles ?_).before fun _ _ before => before.toCalm
    rintro ⟨_, _, _, _, cleared, _⟩
    rw [cleared.columns] at invalid
    cases invalid
  rename_i columns
  split
  · rename_i mismatch
    refine (refusal_settles ?_).before fun _ _ before => before.toCalm
    rintro ⟨_, _, _, _, cleared, _⟩
    rw [cleared.target] at mismatch
    cases mismatch
  rename_i target
  apply (settleBulkDecision_settles rfl passes).bind
  intro granted
  refine spec_exists fun step => .given fun grants =>
    Returns.step before_newScope fun scope made => ?_
  exact intended_settles made ⟨passes, by simpa using columns, by simpa using target, grants⟩

/-- When an import is refused with an error, writes stay as they were exactly if its intent was
not turned down without a reason. -/
theorem refused_import_lock_iff (guard : PolicyGuard) (request : BulkInsertRequest)
    (start : World σ) :
    (∀ error, (guard.beginBulkInsert request start).exit = .failed error →
      (guard.beginBulkInsert request start).state.audit.governedWritesDisabled = true →
        Excused guard start (guard.beginBulkInsert request start).events
          (guard.beginBulkInsert request start).state) ↔
      ¬ LeftOpen guard start request := by
  have ends := @beginBulkInsert_settles σ guard start request [] start before_start
  cases exit : (guard.beginBulkInsert request start).exit with
  | failed error =>
    rw [exit] at ends
    refine Iff.trans ?_ ends
    constructor
    · intro excused
      exact excused error rfl
    · intro excused _ _
      exact excused
  | done | panicked | dropped =>
    rw [exit] at ends
    exact iff_of_true nofun ends

end Refusal

/-- The import guard with a sink that has a write in flight when the intent comes. -/
def busyGuard : PolicyGuard :=
  { importGuard with
    outside := { importGuard.outside with
      record := fun _ event =>
        if event.phase = .intent then .refused .writeInFlight else .accepted } }

private theorem busy_refusals (event : AuditEvent) (error : AuditError)
    (member : .recorded event (.refused error) ∈
      (busyGuard.beginBulkInsert (importRequest insertOne) importStart).events) :
    event.phase = .intent ∧ error = .writeInFlight := by
  -- The approver is asked, the intent is refused, and the refusal is recorded.
  rcases member with _ | ⟨_, _ | ⟨_, _ | ⟨_, later⟩⟩⟩
  · exact ⟨rfl, rfl⟩
  · cases later

/-- The import is refused because another write is in flight, the sink takes the record of the
refusal, no write is unresolved, and governed writes are disabled all the same. -/
theorem import_beside_write_locks :
    (busyGuard.beginBulkInsert (importRequest insertOne) importStart).exit = .failed (.policyDenied
        ("operation denied because another write is still in flight for this connection: " ++
          AuditError.writeInFlight.text)) ∧
      (busyGuard.beginBulkInsert (importRequest insertOne)
        importStart).state.audit.governedWritesDisabled = true ∧
      ¬ Excused busyGuard importStart
        (busyGuard.beginBulkInsert (importRequest insertOne) importStart).events
        (busyGuard.beginBulkInsert (importRequest insertOne) importStart).state := by
  refine ⟨rfl, rfl, ?_⟩
  rintro (elsewhere | ⟨phase, event, _, member⟩ | ⟨_, error, event, outcome, member⟩)
  · rcases elsewhere with before | ⟨step, _, _, other⟩
    · cases before
    · cases other
  · cases (busy_refusals event _ member).2
  · rw [(busy_refusals event error member).1] at outcome
    cases outcome

end Bookie.Guard
