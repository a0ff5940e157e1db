/-
What a masked agent learns from an error. The messages of the driver's query errors
are replaced wherever they stand in the error.
-/

import Bookie.Guard.Cooperative

namespace Bookie.Guard

open Bookie.Core Policy PolicyGuard

/-- Two errors of one shape, alike but for the messages of query errors at any depth. -/
inductive AlikeButMessages : DriverError → DriverError → Prop where
  | same (error : DriverError) : AlikeButMessages error error
  | query (message other : String) (sqlstate : Option String) (position : Option Nat) :
    AlikeButMessages (.query message sqlstate position) (.query other sqlstate position)
  | operationOutcomeUnknown {source other : DriverError} (sources : AlikeButMessages source other) :
    AlikeButMessages (.operationOutcomeUnknown source) (.operationOutcomeUnknown other)
  | transaction (index : Nat) {source other : DriverError}
    (sources : AlikeButMessages source other) :
    AlikeButMessages (.transaction index source) (.transaction index other)
  | partiallyApplied (index : Nat) {source other : DriverError}
    (sources : AlikeButMessages source other) :
    AlikeButMessages (.partiallyApplied index source) (.partiallyApplied index other)
  | transactionRollbackFailed (index : Nat) {source other rollback otherRollback : DriverError}
    (sources : AlikeButMessages source other)
    (rollbacks : AlikeButMessages rollback otherRollback) :
    AlikeButMessages (.transactionRollbackFailed index source rollback)
      (.transactionRollbackFailed index other otherRollback)

private theorem withheldDetails_alike {error other : DriverError}
    (alike : AlikeButMessages error other) : withheldDetails error = withheldDetails other := by
  induction alike with
  | same | query => rfl
  | operationOutcomeUnknown _ ih | transaction _ _ ih | partiallyApplied _ _ ih =>
    rw [withheldDetails, ih, withheldDetails]
  | transactionRollbackFailed index _ _ first second =>
    rw [withheldDetails, first, second, withheldDetails]

/-- **Withheld messages.** On a guard that masks, errors that differ in the messages of query
errors only are sanitised to the same error. -/
theorem sanitized_errors_equal {guard : PolicyGuard} (masks : guard.shouldMask = true)
    {error other : DriverError} (alike : AlikeButMessages error other) :
    guard.sanitizeAgentError error = guard.sanitizeAgentError other := by
  rw [sanitizeAgentError, sanitizeAgentError, if_pos masks, if_pos masks]
  exact withheldDetails_alike alike

def maskingGuard : PolicyGuard :=
  { guardOver (frontEndKnowing []) .cooperative "postgres" .prod (.agent "1" none none) with
    maskPatterns := some [] }

theorem failed_rollback_withheld :
    maskingGuard.shouldMask = true ∧
      maskingGuard.sanitizeAgentError (.transactionRollbackFailed 1
          (.query "duplicate key 'alice'" (some "23505") none) (.query "no such row" none none)) =
        maskingGuard.sanitizeAgentError (.transactionRollbackFailed 1
          (.query "duplicate key 'bob'" (some "23505") none) (.query "lost" none none)) :=
  ⟨rfl, sanitized_errors_equal rfl (.transactionRollbackFailed 1 (.query _ _ _ _) (.query _ _ _ _))⟩

end Bookie.Guard
