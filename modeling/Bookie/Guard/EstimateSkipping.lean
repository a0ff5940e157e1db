/-
Rows are counted only for a write that the categorical rules let pass and a limit
applies to; for any other statement the rules are evaluated without an estimate, and
no verdict changes by this.
-/

import Bookie.Guard.Authorize
import Bookie.Policy.Estimate

namespace Bookie.Guard

open Bookie.Core Policy Async

namespace PolicyGuard

variable {σ : Type} (guard : PolicyGuard)

/-- The decision on a statement whose rows are estimated like this, if they are asked for. -/
def reachedDecision (facts : StatementFacts) (estimate : Option Nat) : Decision :=
  if (guard.categorical facts).isSome then guard.joinedDecision facts
  else guard.eligibleDecision facts (if guard.needsEstimate facts then estimate else none)

/-- The authorization of a statement, with the decision reached in place of the rules' stages. -/
def authorizeReached (sql : String) (analysis : StatementAnalysis) (enforcedRows : Option Nat)
    (control : Option OperationControl) (counter : Option Counter) : Guarded σ Authorization := do
  if (guard.categorical analysis.facts).isSome then
    guard.resolveAuthorization sql analysis (guard.reachedDecision analysis.facts none) none control
  else
    match ← guard.governedWriteRefusal with
    | some decision => guard.resolveAuthorization sql analysis decision none control
    | none => do
        let estimate ← guard.estimateRows analysis enforcedRows control counter
        guard.resolveAuthorization sql analysis (guard.reachedDecision analysis.facts estimate)
          estimate control

private theorem authorizeWithBound_reached (sql : String) (analysis : StatementAnalysis)
    (enforcedRows : Option Nat) (control : Option OperationControl) (counter : Option Counter) :
    (guard.authorizeWithBound sql analysis enforcedRows control counter :
        Guarded σ Authorization) =
      guard.authorizeReached sql analysis enforcedRows control counter := by
  unfold authorizeWithBound authorizeReached reachedDecision
  by_cases decided : (guard.categorical analysis.facts).isSome = true
  · rw [if_pos decided, if_pos decided, if_pos decided]
  rw [if_neg decided, if_neg decided]
  congr 1
  funext refusal
  cases refusal with
  | some decision => rfl
  | none =>
  simp only [if_neg decided]
  cases needed : guard.needsEstimate analysis.facts with
  | true => rfl
  | false =>
  have skipped : (guard.estimateRows analysis enforcedRows control counter :
      Guarded σ (Option Nat)) = pure none := by
    unfold estimateRows
    rw [needed]
    rfl
  rw [skipped]
  rfl

private theorem reachedDecision_severity (parser : SqlParser) (text driverId : String)
    (estimate : Option Nat) :
    (guard.reachedDecision (parser.classify text driverId) estimate).severity =
      (evaluate guard.front.printable guard.ctx.principal guard.ctx.environment
        (parser.classify text driverId) guard.ctx.readOnly guard.envPolicy estimate).severity := by
  unfold reachedDecision evaluate
  by_cases decided : (guard.categorical (parser.classify text driverId)).isSome = true
  · rw [if_pos decided]
    exact joined_severity_without_estimate (categorical_isSome_iff.mp decided) none estimate
  rw [if_neg decided]
  have undecided : evaluateCategoricalDecisions guard.ctx.principal guard.ctx.environment
      (parser.classify text driverId) guard.ctx.readOnly guard.envPolicy = [] := by
    by_contra decides
    exact decided (categorical_isSome_iff.mpr decides)
  rw [undecided_eligible undecided]
  unfold eligibleDecision
  by_cases needed : guard.needsEstimate (parser.classify text driverId) = true
  · rw [if_pos needed]
  rw [if_neg needed]
  have unread : (parser.classify text driverId).cls = .unparseable ∨
      guard.envPolicy.blastRadiusMaxRows = none ∨
        (parser.classify text driverId).containsMutatingDml = false := by
    by_contra read
    obtain ⟨_, limited, changes⟩ := not_or.mp read |>.imp id not_or.mp
    have mutating := Bool.eq_true_of_not_eq_false changes
    obtain ⟨_, admin, unknown⟩ := undecided_effects undecided mutating
    -- The class alone would skip the estimate; it comes with the effect.
    have ordinary : (parser.classify text driverId).cls ≠ .administrative := by
      intro administrative
      rw [parser.classify_admin text driverId administrative] at admin
      cases admin
    apply needed
    unfold needsEstimate
    rw [mutating, admin, unknown, Option.isSome_iff_ne_none.mpr limited]
    simp [ordinary]
  unfold evaluateEligibleWrite
  rw [eligible_without_estimate unread none estimate]

/-- Skipping the estimate never changes how severe the verdict is: what is authorized while governed
writes are enabled is decided as by the rules on the estimate, whether or not one is fetched. -/
theorem skipped_estimate_severity (parser : SqlParser) (sql driverId : String)
    (rest : StatementAnalysis) (enforcedRows : Option Nat) (control : Option OperationControl)
    (counter : Option Counter) :
    let analysis := { rest with facts := parser.classify sql driverId }
    (guard.authorizeWithBound sql analysis enforcedRows control counter :
        Guarded σ Authorization) =
        guard.authorizeReached sql analysis enforcedRows control counter ∧
      ∀ estimate, (guard.reachedDecision analysis.facts estimate).severity =
        (evaluate guard.front.printable guard.ctx.principal guard.ctx.environment analysis.facts
          guard.ctx.readOnly guard.envPolicy estimate).severity := by
  intro analysis
  constructor
  · exact guard.authorizeWithBound_reached sql analysis enforcedRows control counter
  · intro estimate
    exact guard.reachedDecision_severity parser sql driverId estimate

end PolicyGuard

end Bookie.Guard
