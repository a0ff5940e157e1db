/-
When the row estimate can be left out. The categorical rules decide most writes
before any rows are counted, and an estimate is fetched only for the writes they
let pass; what is decided without one is as severe as with it.
-/

import Bookie.Policy.ClassAgreement
import Bookie.Policy.FrontEnd
import Bookie.Policy.Outcomes

namespace Bookie.Policy

open Sql Text List Effects Bool

/-! ### The administrative class has the effect -/

private theorem contains_admin_union {first second : Effects}
    (held : first.contains .admin = true ∨ second.contains .admin = true) :
    (first.union second).contains .admin = true := by
  rw [contains_admin, contains_admin] at held
  rw [contains_admin, has_union, or_eq_true]
  exact held

private theorem classifyStatement_admin (lookups : Lookups) (statement : Statement)
    (administrative : (classifyStatement lookups statement).cls = .administrative) :
    (classifyStatement lookups statement).effects.contains .admin = true := by
  have same : (statementDetails lookups statement).cls = .administrative := administrative
  have added : (administrativeEffects statement (statementDetails lookups statement)).contains
      .admin = true := by
    unfold administrativeEffects
    rw [same]
    exact (contains_admin _).trans admin_has
  rw [contains_admin] at added ⊢
  simp [classifyStatement, withEffects, statementEffects, has_union, added, Bool.or_true]

private theorem mergeScriptClass_administrative {first second : StatementClass}
    (merged : mergeScriptClass first second = .administrative) :
    first = .administrative ∨ second = .administrative := by
  cases first <;> cases second <;> first | exact .inl rfl | exact .inr rfl | cases merged

private theorem script_admin (lookups : Lookups) (statements : List Statement)
    (script : ScriptFacts)
    (holds : script.cls = .administrative → script.effects.contains .admin = true) :
    let found := statements.foldl
      (fun script statement => script.add (classifyStatement lookups statement)) script
    (found.cls = .administrative → found.effects.contains .admin = true) ∧
      (script.effects.contains .admin = true → found.effects.contains .admin = true) := by
  induction statements generalizing script with
  | nil => exact ⟨holds, id⟩
  | cons statement rest ih =>
    have next : (script.add (classifyStatement lookups statement)).cls = .administrative →
        (script.add (classifyStatement lookups statement)).effects.contains .admin = true := by
      intro merged
      apply contains_admin_union
      rcases mergeScriptClass_administrative merged with before | here
      · exact .inl (holds before)
      · exact .inr (classifyStatement_admin lookups statement here)
    obtain ⟨kept, grown⟩ := ih _ next
    refine ⟨kept, ?_⟩
    intro before
    apply grown
    exact contains_admin_union (.inl before)

private theorem classifyStatements_admin (lookups : Lookups) (statements : List Statement)
    (effects : Effects) (call : Bool) (known : call = true → effects.contains .admin = true)
    (administrative : (classifyStatements lookups statements effects call).cls = .administrative) :
    (classifyStatements lookups statements effects call).effects.contains .admin = true := by
  obtain ⟨kept, grown⟩ := script_admin lookups statements (.start effects) (by
    intro impossible
    cases impossible)
  unfold classifyStatements ScriptFacts.finish at administrative ⊢
  cases called : call with
  | true => exact grown (known called)
  | false =>
  rw [called] at administrative
  simp only [false_eq_true, if_false] at administrative
  split at administrative
  · cases administrative
  · exact kept administrative

theorem SqlParser.classify_admin (parser : SqlParser) (sql driverId : String)
    (administrative : (parser.classify sql driverId).cls = .administrative) :
    (parser.classify sql driverId).effects.contains .admin = true := by
  unfold SqlParser.classify at administrative ⊢
  dsimp only at administrative ⊢
  split at administrative
  · cases administrative
  rename_i text
  rw [if_neg text]
  cases refused : parser.refusal driverId (trim sql) with
  | some reason =>
    rw [refused] at administrative
    cases administrative
  | none =>
  rw [refused] at administrative
  cases parsed : parser.parse driverId (trim sql) with
  | error message =>
    rw [parsed] at administrative
    cases administrative
  | ok statements =>
  rw [parsed] at administrative
  cases statements with
  | nil => cases administrative
  | cons first rest =>
  unfold SqlParser.factsOf SqlParser.withLockingBackstop at administrative ⊢
  dsimp only at administrative ⊢
  split at administrative
  · cases administrative
  rename_i unlocked
  rw [if_neg unlocked]
  apply classifyStatements_admin _ _ _ _ _ administrative
  exact sqlEffectsFromTokens_admin driverId _

/-! ### Severity -/

variable {printable : Char → Bool}

private theorem severity_of_top {decisions : List Decision} {top : Decision}
    (member : top ∈ decisions)
    (highest : ∀ decision ∈ decisions, decision.severity ≤ top.severity) :
    ((Decision.joinAll printable decisions).getD noRulesApplied).severity = top.severity := by
  cases joined : Decision.joinAll printable decisions with
  | none =>
    rw [(Decision.joinAll_eq_none_iff decisions).mp joined] at member
    cases member
  | some verdict =>
  rw [Option.getD_some]
  obtain ⟨attained, bound⟩ := max?_eq_some_iff.mp (Decision.severity_joinAll joined)
  obtain ⟨decision, inside, same⟩ := mem_map.mp attained
  apply Nat.le_antisymm
  · rw [← same]
    exact highest decision inside
  · exact bound _ (mem_map_of_mem member)

def evaluate (printable : Char → Bool) (principal : Principal) (environment : Environment)
    (facts : StatementFacts) (connectionReadOnly : Bool) (policy : EnvPolicy)
    (estimatedRows : Option Nat) : Decision :=
  evaluateWithEffects printable principal environment facts connectionReadOnly policy estimatedRows

section Severity

variable {principal : Principal} {environment : Environment} {facts : StatementFacts}
  {readOnly : Bool} {policy : EnvPolicy}

/-- The estimate is looked at only for row changes under a limit, and not in a text that
could not be parsed. -/
theorem eligible_without_estimate
    (unread : facts.cls = .unparseable ∨ policy.blastRadiusMaxRows = none ∨
      facts.containsMutatingDml = false) (first second : Option Nat) :
    evaluateEligibleWriteDecisions principal environment facts policy first =
      evaluateEligibleWriteDecisions principal environment facts policy second := by
  unfold evaluateEligibleWriteDecisions
  split
  · rfl
  rename_i parsed
  have blast (exceeded : Nat → Nat → Decision) (unknown : Decision) :
      blastRadiusDecisions facts policy first exceeded unknown =
        blastRadiusDecisions facts policy second exceeded unknown := by
    unfold blastRadiusDecisions
    rcases unread with unparseable | unlimited | quiet
    · exact absurd unparseable parsed
    · rw [unlimited]
    · rw [quiet]
      rfl
  unfold evaluateAgentWriteDecisions evaluateHumanWriteDecisions
  rw [blast, blast]

private theorem writes_of_mutating (mutating : facts.containsMutatingDml = true) :
    facts.effects.writes = true := by
  have bit : facts.effects.has 1 = true := by
    rw [← contains_bit facts.effects (by decide : (1 : Nat) < 16)]
    exact mutating
  rw [writes_eq, bit]
  rfl

/-- A person's row change that the categorical rules decide without a refusal has an effect that
is to be confirmed. -/
private theorem humanCategorical_dangerous (human : principal.isAgent = false)
    (parsed : facts.cls ≠ .unparseable) (mutating : facts.containsMutatingDml = true)
    (writable : readOnly = false)
    (decides : evaluateCategoricalDecisions principal environment facts readOnly policy ≠ []) :
    dangerousEffectApproval facts ∈
      evaluateCategoricalDecisions principal environment facts readOnly policy := by
  unfold evaluateCategoricalDecisions evaluateHumanDangerousEffects at decides ⊢
  simp only [if_neg parsed, human, writable, writes_of_mutating mutating, Bool.not_true,
    Bool.false_and, Bool.and_false, Bool.false_eq_true, if_false] at decides ⊢
  split
  · rename_i harmless
    rw [if_pos harmless] at decides
    exact absurd rfl decides
  · exact mem_cons_self

theorem severity_le_one {decision : Decision} (asks : decision.isDeny = false) :
    decision.severity ≤ 1 := by
  cases decision with
  | allow rule => exact Nat.zero_le 1
  | requireApproval rule reason preview => exact Nat.le_refl 1
  | deny rule message => cases asks

/-- A row change that the categorical rules decide: one of their decisions is as severe as any
decision can be, with and without an estimate. -/
private theorem decided_top (parsed : facts.cls ≠ .unparseable)
    (mutating : facts.containsMutatingDml = true)
    (decides : evaluateCategoricalDecisions principal environment facts readOnly policy ≠ []) :
    ∃ top ∈ evaluateCategoricalDecisions principal environment facts readOnly policy,
      ∀ decision estimate,
        (decision ∈ evaluateCategoricalDecisions principal environment facts readOnly policy ∨
          decision ∈ evaluateEligibleWriteDecisions principal environment facts policy estimate) →
        decision.severity ≤ top.severity := by
  have writes := writes_of_mutating mutating
  have refused {top : Decision} (denies : top.isDeny = true) (decision : Decision) :
      decision.severity ≤ top.severity := by
    rw [(Decision.isDeny_iff top).mp denies]
    exact Decision.severity_le decision
  cases agent : principal.isAgent with
  | true =>
    obtain ⟨top, member⟩ := exists_mem_of_ne_nil _ decides
    exact ⟨top, member, fun decision _ _ =>
      refused (agentCategorical_deny parsed agent writes member) decision⟩
  | false =>
  cases fixed : readOnly with
  | true => exact ⟨_, readOnly_refused parsed writes, fun decision _ _ => refused rfl decision⟩
  | false =>
  subst fixed
  refine ⟨_, humanCategorical_dangerous agent parsed mutating rfl decides, ?_⟩
  intro decision estimate inside
  apply severity_le_one
  rcases inside with categorical | eligible
  · exact humanCategorical_not_deny agent rfl categorical
  · exact humanEligible_not_deny agent eligible

/-- Where the categorical rules decide, the estimate does not change how severe the joined
decision is. -/
theorem joined_severity_without_estimate
    (decides : evaluateCategoricalDecisions principal environment facts readOnly policy ≠ [])
    (first second : Option Nat) :
    (evaluateWithEffects printable principal environment facts readOnly policy first).severity =
      (evaluateWithEffects printable principal environment facts readOnly policy
        second).severity := by
  by_cases unread : facts.cls = .unparseable ∨ policy.blastRadiusMaxRows = none ∨
      facts.containsMutatingDml = false
  · unfold evaluateWithEffects
    rw [eligible_without_estimate unread first second]
  obtain ⟨parsed, rest⟩ := not_or.mp unread
  obtain ⟨top, member, highest⟩ :=
    decided_top parsed (eq_true_of_not_eq_false (not_or.mp rest).2) decides
  have both (estimate : Option Nat) :
      (evaluateWithEffects printable principal environment facts readOnly policy
        estimate).severity =
        top.severity := by
    refine severity_of_top (mem_append_left _ member) fun decision inside => ?_
    refine highest decision estimate ((mem_append.mp inside).imp_right fun eligible => ?_)
    exact (mem_ite_nil_right.mp eligible).2
  rw [both first, both second]

variable (undecided : evaluateCategoricalDecisions principal environment facts readOnly policy = [])
include undecided

/-- What the categorical rules let pass has none of the effects without an estimate. -/
theorem undecided_effects (mutating : facts.containsMutatingDml = true) :
    facts.cls ≠ .unparseable ∧ facts.effects.contains .admin = false ∧
      facts.effects.contains .unknown = false := by
  have parsed : facts.cls ≠ .unparseable := by
    intro unparseable
    unfold evaluateCategoricalDecisions evaluateUnparseableDecisions at undecided
    rw [if_pos unparseable] at undecided
    have present : decideUnparseable principal policy ∈ ([] : List Decision) := by
      rw [← undecided]
      dsimp only
      split
      · simp
      · split
        · simp
        · split <;> simp
    cases present
  refine ⟨parsed, ?_⟩
  unfold evaluateCategoricalDecisions at undecided
  simp only [if_neg parsed, writes_of_mutating mutating, Bool.not_true, Bool.false_and,
    false_eq_true, if_false] at undecided
  split at undecided
  · rename_i agent
    simp only [append_eq_nil_iff, agent] at undecided
    obtain ⟨⟨_, admin⟩, write⟩ := undecided
    constructor
    · rw [eq_false_iff]
      intro held
      rw [held, Bool.or_true] at admin
      cases admin
    rw [eq_false_iff]
    intro held
    unfold evaluateAgentWriteCategorical StatementFacts.containsUnknownWrite at write
    rw [held] at write
    simp at write
  have harmless := (humanDangerousEffects_eq_nil_iff environment facts policy).mp
    (append_eq_nil_iff.mp undecided).2
  unfold isDangerous at harmless
  simp only [or_eq_false_iff] at harmless
  exact ⟨harmless.1.1, harmless.2⟩

/-- Where the categorical rules do not decide, all decisions are those of an eligible write. -/
theorem undecided_eligible (estimatedRows : Option Nat) :
    evaluateWithEffects printable principal environment facts readOnly policy estimatedRows =
      evaluateEligibleWrite printable principal environment facts policy estimatedRows := by
  have eligible : facts.eligible = true := by
    by_contra none_
    have parsed : facts.cls ≠ .unparseable := by
      intro unparseable
      simp [StatementFacts.eligible, unparseable] at none_
    rw [eligible_parsed parsed] at none_
    rw [categorical_parsed parsed, if_neg none_] at undecided
    simp at undecided
  unfold evaluateWithEffects evaluateEligibleWrite
  rw [undecided]
  exact congrArg (fun decisions => (Decision.joinAll printable decisions).getD noRulesApplied)
    (if_pos eligible)

end Severity

end Bookie.Policy
