/-
Statements that the server can be asked to stop. The operation races the caller's
cancellation and the deadline; once interrupted, it races the request to the server
and then a period of grace. A poll finds any combination of these futures ready.
-/

import Bookie.Core.Driver

namespace Bookie.Core.Operation

open Option

inductive Interruption where
  | cancelled
  | timedOut
  deriving DecidableEq, Repr

def Interruption.intoError : Interruption → DriverError
  | .cancelled => .cancelled
  | .timedOut => .timedOut

/-- The futures as they are found when they are polled. -/
structure Poll (α : Type) where
  operation : Option (Except DriverError α)
  cancelled : Bool
  deadlinePassed : Bool
  request : Option (Except DriverError Unit)
  dispatchElapsed : Bool
  graceElapsed : Bool
  /-- A select that is not biased polls its branches in a random order. -/
  operationFirst : Bool

variable {α β : Type}

/-- `tokio::time::timeout` polls its future before its timer; `none` is the timer's. -/
def timeout (future : Option β) (elapsed : Bool) : Option (Option β) :=
  match future with
  | some value => some (some value)
  | none => if elapsed then some none else none

namespace Poll

variable (poll : Poll α)

def interruptible : Option (Except DriverError α ⊕ Interruption) :=
  match poll.operation with
  | some result => some (.inl result)
  | none =>
    if poll.cancelled then some (.inr .cancelled)
    else if poll.deadlinePassed then some (.inr .timedOut) else none

def dispatch : Option (Option (Except DriverError Unit)) :=
  timeout poll.request poll.dispatchElapsed

def stopping : Option (Except DriverError α ⊕ Option (Except DriverError Unit)) :=
  if poll.operationFirst then (poll.operation.map .inl).or (poll.dispatch.map .inr)
  else (poll.dispatch.map .inr).or (poll.operation.map .inl)

def grace : Option (Option (Except DriverError α)) := timeout poll.operation poll.graceElapsed

end Poll

/-- Waiting: the polls up to the first that is ready. -/
def await (ready : Poll α → Option β) : List (Poll α) → Option (β × List (Poll α))
  | [] => none
  | poll :: polls =>
    match ready poll with
    | some value => some (value, polls)
    | none => await ready polls

def unknownOutcome (source : DriverError) : DriverError := .operationOutcomeUnknown source

section Code

variable (confirmsCancellation : DriverError → Bool)

def classifyInterrupted (result : Except DriverError α) (interruption : Interruption) :
    Except DriverError α :=
  match result with
  | .ok _ => .error (unknownOutcome interruption.intoError)
  | .error error =>
    if confirmsCancellation error then .error interruption.intoError
    else .error (unknownOutcome error)

/-- The part of `run_server_cancellable` behind the first select. -/
def stop (interruption : Interruption) (polls : List (Poll α)) :
    Option (Except DriverError α) := do
  match ← await Poll.stopping polls with
  | (.inl result, polls) =>
    match ← await Poll.dispatch polls with
    | (none, _) => some (.error (unknownOutcome interruption.intoError))
    | (some _, _) => some (classifyInterrupted confirmsCancellation result interruption)
  | (.inr none, _) => some (.error (unknownOutcome interruption.intoError))
  | (.inr (some _), polls) =>
    match ← await Poll.grace polls with
    | (some result, _) => some (classifyInterrupted confirmsCancellation result interruption)
    | (none, _) => some (.error (unknownOutcome interruption.intoError))

def checkPreDispatch (cancelled deadlinePassed : Bool) : Except DriverError Unit :=
  if cancelled then .error .cancelled else if deadlinePassed then .error .timedOut else .ok ()

/-- The control as it is when the code is called, and the polls that follow; without a result
as long as the code waits. -/
def runServerCancellable (cancelled deadlinePassed : Bool) (polls : List (Poll α)) :
    Option (Except DriverError α) :=
  match checkPreDispatch cancelled deadlinePassed with
  | .error error => some (.error error)
  | .ok () => do
    match ← await Poll.interruptible polls with
    | (.inl result, _) => some result
    | (.inr interruption, polls) => stop confirmsCancellation interruption polls

end Code

/-! ### Waiting -/

variable {ready : Poll α → Option β} {polls : List (Poll α)}

private theorem await_eq_none_iff :
    await ready polls = none ↔ ∀ poll ∈ polls, ready poll = none := by
  induction polls with
  | nil => simp [await]
  | cons poll polls ih =>
    rw [await, List.forall_mem_cons, ← ih]
    cases ready poll <;> simp

private theorem await_append {early : List (Poll α)} {poll : Poll α} {value : β}
    (waited : ∀ poll ∈ early, ready poll = none) (isReady : ready poll = some value)
    (later : List (Poll α)) : await ready (early ++ poll :: later) = some (value, later) := by
  induction early with
  | nil => rw [List.nil_append, await, isReady]
  | cons first early ih =>
    obtain ⟨unready, waited⟩ := List.forall_mem_cons.mp waited
    rw [List.cons_append, await, unready]
    exact ih waited

private theorem exists_of_await {later : List (Poll α)} {value : β}
    (found : await ready polls = some (value, later)) :
    ∃ early poll, polls = early ++ poll :: later ∧ (∀ poll ∈ early, ready poll = none) ∧
      ready poll = some value := by
  induction polls with
  | nil => cases found
  | cons first polls ih =>
    rw [await] at found
    split at found
    · rename_i isReady
      cases found
      exact ⟨[], first, rfl, nofun, isReady⟩
    · rename_i unready
      obtain ⟨early, poll, rfl, waited, isReady⟩ := ih found
      exact ⟨first :: early, poll, rfl, List.forall_mem_cons.mpr ⟨unready, waited⟩, isReady⟩

/-! ### Confirmed interruptions -/

/-- The request is not completed and its time has not run out. -/
def Poll.Unanswered (poll : Poll α) : Prop :=
  poll.request = none ∧ poll.dispatchElapsed = false

/-- The operation is found ended with this error first, and then the request completed in time. -/
def EndsFirst (error : DriverError) (polls : List (Poll α)) : Prop :=
  ∃ early ending later, polls = early ++ ending :: later ∧
    (∀ poll ∈ early, poll.operation = none ∧ poll.Unanswered) ∧
    ending.operation = some (.error error) ∧
    (ending.operationFirst = false → ending.Unanswered) ∧
    ∃ waited answered rest, later = waited ++ answered :: rest ∧
      (∀ poll ∈ waited, poll.Unanswered) ∧ answered.request.isSome = true

/-- The request is found completed in time first, and then the operation ended with this error
within the grace period. -/
def AnswersFirst (error : DriverError) (polls : List (Poll α)) : Prop :=
  ∃ early answered later, polls = early ++ answered :: later ∧
    (∀ poll ∈ early, poll.operation = none ∧ poll.Unanswered) ∧
    answered.request.isSome = true ∧ (answered.operationFirst = true → answered.operation = none) ∧
    ∃ waited ending rest, later = waited ++ ending :: rest ∧
      (∀ poll ∈ waited, poll.operation = none ∧ poll.graceElapsed = false) ∧
      ending.operation = some (.error error)

/-- The polls show both that the engine aborted the statement and that the request was completed. -/
def Confirmed (confirmsCancellation : DriverError → Bool) (polls : List (Poll α)) : Prop :=
  ∃ error, confirmsCancellation error = true ∧ (EndsFirst error polls ∨ AnswersFirst error polls)

variable {confirmsCancellation : DriverError → Bool} {interruption : Interruption}
  {poll : Poll α} {result : Except DriverError α}

private theorem timeout_eq_none_iff {future : Option β} {elapsed : Bool} :
    timeout future elapsed = none ↔ future = none ∧ elapsed = false := by
  cases future <;> simp [timeout]

private theorem timeout_eq_some_iff {future : Option β} {elapsed : Bool} {value : β} :
    timeout future elapsed = some (some value) ↔ future = some value := by
  cases future <;> cases elapsed <;> simp [timeout]

private theorem dispatch_eq_none_iff : poll.dispatch = none ↔ poll.Unanswered :=
  timeout_eq_none_iff

private theorem stopping_eq_none_iff :
    poll.stopping = none ↔ poll.operation = none ∧ poll.Unanswered := by
  rw [← dispatch_eq_none_iff]
  unfold Poll.stopping
  split <;> simp [and_comm]

private theorem stopping_eq_inl_iff : poll.stopping = some (.inl result) ↔
    poll.operation = some result ∧ (poll.operationFirst = false → poll.Unanswered) := by
  rw [← dispatch_eq_none_iff]
  unfold Poll.stopping
  cases poll.operationFirst <;> cases poll.operation <;> cases poll.dispatch <;> simp

private theorem stopping_eq_inr_iff {answer : Option (Except DriverError Unit)} :
    poll.stopping = some (.inr answer) ↔
      poll.dispatch = some answer ∧ (poll.operationFirst = true → poll.operation = none) := by
  unfold Poll.stopping
  cases poll.operationFirst <;> cases poll.operation <;> cases poll.dispatch <;> simp

private theorem dispatch_eq_some_iff {answer : Except DriverError Unit} :
    poll.dispatch = some (some answer) ↔ poll.request = some answer := timeout_eq_some_iff

/-- A confirmed interruption is reported as one. -/
private theorem stop_of_confirmed (confirmed : Confirmed confirmsCancellation polls) :
    stop confirmsCancellation interruption polls = some (.error interruption.intoError) := by
  obtain ⟨error, confirms, first | first⟩ := confirmed
  · obtain ⟨early, ending, _, rfl, quiet, ends, alone, waited, answered, rest, rfl, waits,
      isAnswer⟩ := first
    obtain ⟨answer, answers⟩ := isSome_iff_exists.mp isAnswer
    have selected := await_append (fun poll member => stopping_eq_none_iff.mpr (quiet poll member))
      (stopping_eq_inl_iff.mpr ⟨ends, alone⟩) (waited ++ answered :: rest)
    have dispatched :=
      await_append (fun poll member => dispatch_eq_none_iff.mpr (waits poll member))
      (dispatch_eq_some_iff.mpr answers) rest
    simp [stop, selected, dispatched, classifyInterrupted, confirms]
  · obtain ⟨early, answered, _, rfl, quiet, isAnswer, alone, waited, ending, rest, rfl, waits,
      ends⟩ := first
    obtain ⟨answer, answers⟩ := isSome_iff_exists.mp isAnswer
    have selected := await_append (fun poll member => stopping_eq_none_iff.mpr (quiet poll member))
      (stopping_eq_inr_iff.mpr ⟨dispatch_eq_some_iff.mpr answers, alone⟩) (waited ++ ending :: rest)
    have graced : await Poll.grace (waited ++ ending :: rest) = some (some (.error error), rest) :=
      await_append (fun poll member => timeout_eq_none_iff.mpr (waits poll member))
        (timeout_eq_some_iff.mpr ends) rest
    simp [stop, selected, graced, classifyInterrupted, confirms]

private theorem classified {confirmed : DriverError → Prop} (result : Except DriverError α)
    (shown : ∀ error, result = .error error → confirmed error) :
    (∃ error, confirmsCancellation error = true ∧ confirmed error) ∨
      ∃ source, classifyInterrupted confirmsCancellation result interruption =
        .error (.operationOutcomeUnknown source) := by
  unfold classifyInterrupted
  split
  · exact .inr ⟨_, rfl⟩
  split
  · exact .inl ⟨_, ‹_›, shown _ rfl⟩
  · exact .inr ⟨_, rfl⟩

private theorem stop_unknown (unconfirmed : ¬ Confirmed confirmsCancellation polls)
    (stopped : stop confirmsCancellation interruption polls = some result) :
    ∃ source, result = .error (.operationOutcomeUnknown source) := by
  unfold stop at stopped
  obtain ⟨⟨first, later⟩, selected, stopped⟩ := bind_eq_some_iff.mp stopped
  obtain ⟨early, poll, rfl, quiet, isReady⟩ := exists_of_await selected
  have silent := fun poll member => stopping_eq_none_iff.mp (quiet poll member)
  rcases first with ended | _ | answer
  · obtain ⟨ends, alone⟩ := stopping_eq_inl_iff.mp isReady
    obtain ⟨⟨_ | answer, rest⟩, dispatched, same⟩ := bind_eq_some_iff.mp stopped
    · cases same
      exact ⟨_, rfl⟩
    obtain ⟨waited, answered, rfl, waits, answers⟩ := exists_of_await dispatched
    cases same
    refine (classified ended fun error same => ?_).resolve_left unconfirmed
    subst same
    exact .inl ⟨early, poll, _, rfl, silent, ends, alone, waited, answered, rest, rfl,
      fun poll member => dispatch_eq_none_iff.mp (waits poll member),
      by rw [dispatch_eq_some_iff.mp answers]; rfl⟩
  · cases stopped
    exact ⟨_, rfl⟩
  · obtain ⟨answers, alone⟩ := stopping_eq_inr_iff.mp isReady
    obtain ⟨⟨_ | ended, rest⟩, graced, same⟩ := bind_eq_some_iff.mp stopped
    · cases same
      exact ⟨_, rfl⟩
    obtain ⟨waited, ending, rfl, waits, ends⟩ := exists_of_await graced
    cases same
    refine (classified ended fun error same => ?_).resolve_left unconfirmed
    subst same
    exact .inr ⟨early, poll, _, rfl, silent, by rw [dispatch_eq_some_iff.mp answers]; rfl, alone,
      waited, ending, rest, rfl, fun poll member => timeout_eq_none_iff.mp (waits poll member),
      timeout_eq_some_iff.mp ends⟩

/-! ### That there is a result -/

def Poll.isLate (poll : Poll α) : Bool := poll.dispatchElapsed && poll.graceElapsed

private theorem countP_isLate (waits : await ready polls = none)
    (answers : ∀ poll, ready poll = none → poll.isLate = false) : polls.countP Poll.isLate = 0 :=
  List.countP_eq_zero.mpr fun poll member =>
    Bool.eq_false_iff.mp (answers poll (await_eq_none_iff.mp waits poll member))

private theorem dispatch_unready (poll : Poll α) (waits : poll.dispatch = none) :
    poll.isLate = false := by
  rw [Poll.isLate, (dispatch_eq_none_iff.mp waits).2, Bool.false_and]

private theorem stopping_unready (poll : Poll α) (waits : poll.stopping = none) :
    poll.isLate = false :=
  dispatch_unready poll (dispatch_eq_none_iff.mpr (stopping_eq_none_iff.mp waits).2)

private theorem grace_unready (poll : Poll α) (waits : poll.grace = none) :
    poll.isLate = false := by
  rw [Poll.isLate, (timeout_eq_none_iff.mp waits).2, Bool.and_false]

private theorem stop_waits (waits : stop confirmsCancellation interruption polls = none) :
    polls.countP Poll.isLate ≤ 1 := by
  unfold stop at waits
  cases selected : await Poll.stopping polls with
  | none => simp [countP_isLate selected stopping_unready]
  | some found =>
  obtain ⟨answer, later⟩ := found
  obtain ⟨early, poll, rfl, unready, -⟩ := exists_of_await selected
  -- only the poll that ended the select may have found both timers run out
  suffices later.countP Poll.isLate = 0 by
    rw [List.countP_append, List.countP_cons,
      countP_isLate (await_eq_none_iff.mpr unready) stopping_unready]
    split <;> omega
  simp only [selected] at waits
  rcases answer with result | _ | _
  · cases dispatched : await Poll.dispatch later with
    | none => exact countP_isLate dispatched dispatch_unready
    | some found => rcases found with ⟨_ | _, _⟩ <;> simp [dispatched] at waits
  · cases waits
  · cases ended : await Poll.grace later with
    | none => exact countP_isLate ended grace_unready
    | some found => rcases found with ⟨_ | _, _⟩ <;> simp [ended] at waits

/-! ### What is returned -/

/-- The poll finds the interruption, and the operation has not ended. -/
def Poll.Interrupts (poll : Poll α) (interruption : Interruption) : Prop :=
  poll.operation = none ∧ match interruption with
    | .cancelled => poll.cancelled = true
    | .timedOut => poll.cancelled = false ∧ poll.deadlinePassed = true

def Poll.Quiet (poll : Poll α) : Prop :=
  poll.operation = none ∧ poll.cancelled = false ∧ poll.deadlinePassed = false

private theorem interruptible_eq_none_iff : poll.interruptible = none ↔ poll.Quiet := by
  unfold Poll.interruptible Poll.Quiet
  cases poll.operation <;> cases poll.cancelled <;> cases poll.deadlinePassed <;> simp

private theorem interruptible_eq_inr_iff :
    poll.interruptible = some (.inr interruption) ↔ poll.Interrupts interruption := by
  unfold Poll.interruptible Poll.Interrupts
  cases poll.operation <;> cases poll.cancelled <;> cases poll.deadlinePassed <;>
    cases interruption <;> simp

/-- What the caller gets, by what the control and the polls show: a refusal, the operation's own
result, or after an interruption the interruption itself if it is confirmed and an unknown outcome
if not. There the code waits for no second poll that finds both timers run out. -/
theorem server_cancellable_outcome (confirmsCancellation : DriverError → Bool)
    (cancelled deadlinePassed : Bool) (polls : List (Poll α)) :
    let returned := runServerCancellable confirmsCancellation cancelled deadlinePassed polls
    (cancelled = true → returned = some (.error .cancelled)) ∧
    (cancelled = false → deadlinePassed = true → returned = some (.error .timedOut)) ∧
    (cancelled = false → deadlinePassed = false →
      ((∀ poll ∈ polls, poll.Quiet) → returned = none) ∧
      ∀ early poll later, polls = early ++ poll :: later → (∀ poll ∈ early, poll.Quiet) →
        (∀ result, poll.operation = some result → returned = some result) ∧
        ∀ interruption, poll.Interrupts interruption →
          (returned = none → later.countP Poll.isLate ≤ 1) ∧
          (Confirmed confirmsCancellation later →
            returned = some (.error interruption.intoError)) ∧
          (¬ Confirmed confirmsCancellation later → ∀ result, returned = some result →
            ∃ source, result = .error (.operationOutcomeUnknown source))) := by
  refine ⟨?_, ?_, ?_⟩
  · rintro rfl
    rfl
  · rintro rfl rfl
    rfl
  rintro rfl rfl
  simp only [runServerCancellable, checkPreDispatch, Bool.false_eq_true, if_false, bind_eq_bind]
  constructor
  · intro quiet
    rw [await_eq_none_iff.mpr fun poll member => interruptible_eq_none_iff.mpr (quiet poll member)]
    rfl
  rintro early poll later rfl quiet
  have unready := fun poll member => interruptible_eq_none_iff.mpr (quiet poll member)
  constructor
  · intro result ended
    have found : poll.interruptible = some (.inl result) := by rw [Poll.interruptible, ended]
    rw [await_append unready found]
    rfl
  intro interruption interrupts
  rw [await_append unready (interruptible_eq_inr_iff.mpr interrupts)]
  exact ⟨stop_waits, stop_of_confirmed, fun unconfirmed _ => stop_unknown unconfirmed⟩

end Bookie.Core.Operation
