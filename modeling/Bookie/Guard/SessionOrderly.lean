/-
The rule for every entry point of a session: an active cursor, a retired session and
an open or read-only batch refuse some statements before the policy is asked.
-/

import Bookie.Guard.SessionFrame

namespace Bookie.Guard

open Bookie.Core Policy Async Async.Future SessionFramed

namespace Detached

variable {guard : PolicyGuard} {permits : String → Prop}
  {inv : Assertion PolicySession} {session : PolicySession}

private theorem sessionFramed (detached : Detached guard permits inv) :
    SessionFramed guard (.permitting PolicySession permits) inv where
  toFramed := detached.framed
  locks := Orderly.locks
  retires := fun past world => detached.owned past world _
  collects := fun _ past world => detached.owned past world _

private theorem textAllowed {sql : String} {params : List Value} {control : OperationControl}
    (permitted : TextAdmits guard inv session sql → permits sql) :
    TextAllowed guard (.permitting PolicySession permits) inv session sql params control where
  counts := by
    rintro _ _ _ ⟨⟩
  statements := by
    intro _ _ admits call member text carries
    simp only [statementCalls, List.mem_cons, List.not_mem_nil, or_false] at member
    rcases member with rfl | rfl <;> cases carries <;> exact permitted admits
  begins := by
    rintro _ _ _ _ admits _ ⟨⟩
    exact permitted admits
  finishes := by
    rintro _ _ _ _ admits _ ⟨⟩
    exact permitted admits

theorem sessionOperation (detached : Detached guard permits inv) (operation : SessionOperation)
    (permitted : ∀ text, operation.Sends guard inv session text → permits text)
    (settles : operation.Settles guard inv session) :
    Lasts inv session (operation.run guard) := by
  refine detached.sessionFramed.run (fun _ past world => detached.owned past world _)
    (fun _ past world => detached.owned past world _) (fun _ _ => trivial) ?_ operation ?_
  · intro own call bare text carries
    rw [bare] at carries
    cases carries
  cases operation with
  | queryParamsControlled sql | queryResultSetsParamsControlled sql =>
    exact fun ready => ⟨settles ready, fun extra => textAllowed fun admits =>
      permitted sql ⟨rfl, ready, admits.ofExtra⟩⟩
  | commitControlled control =>
    rintro ready isOpen unlocked _ ⟨⟩
    exact permitted _ ⟨rfl, ready, isOpen, unlocked⟩
  | openQueryCursorControlled sql params control =>
    rintro ready snapshot single passes _ ⟨⟩
    exact permitted sql ⟨rfl, ready, snapshot, single, passes⟩
  | close =>
    rintro _ _ _ active certain _ ⟨⟩
    exact permitted _ ⟨rfl, active, certain⟩
  | _ => trivial

end Detached

def GuardOperation.Sends (guard : PolicyGuard) : {σ : Type} →
    (inv : List GuardEvent → World σ → Prop) → GuardOperation σ → σ → String → Prop
  | _, inv, .sql operation, _, text => text = operation.text ∧ operation.Admits guard inv
  | _, inv, .session operation, own, text => operation.Sends guard inv own text
  | _, inv, .bulk (.executeBulkBatch batch _), scope, text =>
    text = scope.text batch ∧ Unlocked inv
  | _, _, _, _, _ => False

/-- Nothing of a write is left unknown by the operation without a lock. -/
def GuardOperation.Settles (guard : PolicyGuard) : {σ : Type} →
    (inv : List GuardEvent → World σ → Prop) → GuardOperation σ → σ → Prop
  | _, inv, .administrative work, _ => Orderly.AdmitsWork guard inv work.operation →
      work.unresolved = true → ∀ past world, inv past world →
        world.audit.governedWritesDisabled = true
  | _, inv, .session operation, own => operation.Settles guard inv own
  | _, _, _, _ => True

/-- An operation keeps an assertion if the texts it sends are permitted and its writes are
settled. -/
theorem Detached.run {σ : Type} {guard : PolicyGuard} {permits : String → Prop}
    {inv : Assertion σ} (detached : Detached guard permits inv)
    (operation : GuardOperation σ) (own : σ)
    (permitted : ∀ text, operation.Sends guard inv own text → permits text)
    (settles : operation.Settles guard inv own) :
    Lasts inv own (operation.run guard) := by
  have whole : ∀ {run : Guarded σ Unit}, Keeps inv run →
      Lasts inv own run :=
    fun keeps => .besides keeps
  cases operation with
  | sql operation =>
    exact whole (detached.sqlOperation operation fun admits => permitted _ ⟨rfl, admits⟩)
  | metadata read control => exact whole (keeps_discard (detached.readMetadata read control))
  | ping => exact whole (detached.bareRead rfl)
  | lexicalSettings control => exact whole (keeps_discard (detached.bareRead rfl))
  | begin control =>
    cases control with
    | none => exact whole (keeps_discard (detached.beginForm none))
    | some control => exact whole (keeps_discard (detached.beginForm (some control)))
  | commit transaction => exact whole (detached.commit transaction)
  | rollback transaction => exact whole (detached.rollback transaction)
  | rollbackControlled transaction control =>
    exact whole (detached.rollbackControlled transaction control)
  | openSession => exact whole (keeps_discard detached.openSession)
  | administrative work => exact whole (detached.runAdministrativeInner settles)
  | beginBulkInsert request => exact whole (keeps_discard (detached.beginBulkInsert request))
  | session operation => exact detached.sessionOperation operation permitted settles
  | bulk operation =>
    cases operation with
    | executeBulkBatch batch control =>
      exact .map (detached.executeBulkBatch batch control fun unlocked =>
        permitted _ ⟨rfl, unlocked⟩)
    | finishBulkInsert finished => exact whole (keeps_discard (detached.finishBulkInsert finished))
    | dropScope => exact whole detached.dropScope

end Bookie.Guard
