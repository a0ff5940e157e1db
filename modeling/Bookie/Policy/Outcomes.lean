/-
Which statements the rules decide without a look at the lock, and which of those
they deny. A statement can have effects that write although its class is a read's,
so both notions are told apart here.
-/

import Bookie.Policy.Rules

namespace Bookie.Policy

open List

/-! ### Decisions of people -/

theorem humanDangerousEffects_eq_nil_iff (environment : Environment) (facts : StatementFacts)
    (policy : EnvPolicy) :
    evaluateHumanDangerousEffects environment facts policy = [] ↔
      isDangerous facts.effects = false := by
  unfold evaluateHumanDangerousEffects
  cases isDangerous facts.effects <;> simp

variable {environment : Environment} {facts : StatementFacts} {policy : EnvPolicy}
  {decision : Decision}

private theorem rule_eq {applies : Prop} [Decidable applies] {rule : Decision}
    (member : decision ∈ if applies then [rule] else []) : decision = rule :=
  mem_singleton.mp (mem_ite_nil_right.mp member).2

theorem humanDangerousEffects_not_deny
    (member : decision ∈ evaluateHumanDangerousEffects environment facts policy) :
    decision.isDeny = false := by
  unfold evaluateHumanDangerousEffects at member
  split at member
  · cases member
  rcases mem_cons.mp member with rfl | member
  · rfl
  · rw [rule_eq member]
    rfl

variable {estimatedRows : Option Nat}

private theorem blastRadius_not_deny {exceeded : Nat → Nat → Decision} {unknown : Decision}
    (exceeds : ∀ rows limit, (exceeded rows limit).isDeny = false)
    (isUnknown : unknown.isDeny = false)
    (member : decision ∈ blastRadiusDecisions facts policy estimatedRows exceeded unknown) :
    decision.isDeny = false := by
  unfold blastRadiusDecisions at member
  split at member
  · cases member
  split at member
  · split at member
    · split at member
      · rw [mem_singleton.mp member]
        exact exceeds _ _
      · cases member
    · rw [mem_singleton.mp member]
      exact isUnknown
  · cases member

private theorem humanWrite_not_deny
    (member : decision ∈ evaluateHumanWriteDecisions environment facts policy estimatedRows) :
    decision.isDeny = false := by
  unfold evaluateHumanWriteDecisions evaluateHumanWriteCategorical at member
  simp only [mem_append] at member
  rcases member with (((unscoped | ddl) | blast) | approve) | allowed
  · rw [rule_eq unscoped]
    rfl
  · rw [rule_eq ddl]
    rfl
  · exact blastRadius_not_deny (fun _ _ => rfl) rfl blast
  · split at approve
    · rw [mem_singleton.mp approve]
      rfl
    · rw [rule_eq approve]
      rfl
  · rw [mem_singleton.mp allowed]
    rfl

/-! ### Decisions about agents -/

private theorem agentWriteCategorical_deny
    (member : decision ∈ evaluateAgentWriteCategorical environment facts policy) :
    decision.isDeny = true := by
  unfold evaluateAgentWriteCategorical at member
  simp only [mem_append] at member
  rcases member with (((rule | rule) | rule) | rule) | rule
  all_goals
    rw [rule_eq rule]
    rfl

/-! ### The decisions about a statement that was parsed -/

private theorem quiet_contains (quiet : facts.effects.writes = false) :
    facts.effects.contains .admin = false ∧ facts.effects.contains .unknown = false := by
  have bits := Effects.writes_eq facts.effects
  rw [quiet] at bits
  simp only [Bool.false_eq, Bool.or_eq_false_iff] at bits
  rw [Effects.admin, Effects.unknown, Effects.contains_bit _ (by decide),
    Effects.contains_bit _ (by decide)]
  exact ⟨bits.1.2, bits.2⟩

/-- Whether the rules for an eligible write are evaluated. -/
def StatementFacts.eligible (facts : StatementFacts) : Bool :=
  facts.effects.writes || facts.cls == .unparseable || facts.effects.contains .admin ||
    facts.effects.contains .hostOrFileAccess || facts.effects.contains .unknown

section Parsed

variable {principal : Principal} {readOnly : Bool}

def readOnlyRule (facts : StatementFacts) (readOnly : Bool) : List Decision :=
  if readOnly && facts.effects.writes then
    [.deny "connection_read_only"
      "connection is marked read-only; statements that may write are not permitted"]
  else []

def agentRules (principal : Principal) (facts : StatementFacts) (policy : EnvPolicy) :
    List Decision :=
  (if facts.isMultiStatement && principal.isAgent && !policy.agentAllowMultiStatement then
    [.deny "agent_no_multi_statement" "agents may not run multi-statement scripts"]
  else []) ++
  (if principal.isAgent && (facts.cls == .administrative || facts.effects.contains .admin) then
    [.deny "agent_admin_denied" "agents may not run administrative database operations"]
  else [])

private theorem agentRules_deny (member : decision ∈ agentRules principal facts policy) :
    decision.isDeny = true := by
  rcases mem_append.mp member with rule | rule
  all_goals
    rw [rule_eq rule]
    rfl

variable (parsed : facts.cls ≠ .unparseable)
include parsed

theorem eligible_parsed :
    facts.eligible = (facts.effects.writes || facts.effects.contains .hostOrFileAccess) := by
  unfold StatementFacts.eligible
  cases writes : facts.effects.writes with
  | true => rfl
  | false =>
    rw [(quiet_contains writes).1, (quiet_contains writes).2, Bool.or_false,
      beq_false_of_ne parsed]
    rfl

theorem categorical_parsed :
    evaluateCategoricalDecisions principal environment facts readOnly policy =
      readOnlyRule facts readOnly ++ agentRules principal facts policy ++
        if facts.effects.writes || facts.effects.contains .hostOrFileAccess then
          if principal.isAgent then evaluateAgentWriteCategorical environment facts policy
          else evaluateHumanDangerousEffects environment facts policy
        else [.allow "read_allow"] := by
  unfold evaluateCategoricalDecisions readOnlyRule agentRules
  rw [if_neg parsed, ← Bool.not_or]
  cases facts.effects.writes || facts.effects.contains .hostOrFileAccess <;>
    cases principal.isAgent <;> simp

theorem agentCategorical_deny (agent : principal.isAgent = true)
    (writes : facts.effects.writes = true)
    (member : decision ∈ evaluateCategoricalDecisions principal environment facts readOnly policy) :
    decision.isDeny = true := by
  rw [categorical_parsed parsed, writes, agent, Bool.true_or] at member
  rcases mem_append.mp member with shared | write
  · rcases mem_append.mp shared with fixed | rules
    · rw [rule_eq fixed]
      rfl
    · exact agentRules_deny rules
  · exact agentWriteCategorical_deny write

theorem readOnly_refused (writes : facts.effects.writes = true) :
    .deny "connection_read_only"
      "connection is marked read-only; statements that may write are not permitted" ∈
      evaluateCategoricalDecisions principal environment facts true policy := by
  simp [categorical_parsed parsed, readOnlyRule, writes]

end Parsed

/-! ### The joined decision -/

section Joined

variable {printable : Char → Bool} {principal : Principal} {environment : Environment}
  {facts : StatementFacts}  {readOnly : Bool} {policy : EnvPolicy} {estimatedRows : Option Nat}

theorem categorical_isSome_iff :
    (evaluateCategorical printable principal environment facts readOnly policy).isSome = true ↔
      evaluateCategoricalDecisions principal environment facts readOnly policy ≠ [] := by
  unfold evaluateCategorical
  rw [Option.isSome_iff_ne_none, ne_eq, Decision.joinAll_eq_none_iff]

private theorem joinAll_getD_deny_iff (decisions : List Decision) :
    ((Decision.joinAll printable decisions).getD noRulesApplied).isDeny = true ↔
      decisions = [] ∨ ∃ decision ∈ decisions, decision.isDeny = true := by
  cases joined : Decision.joinAll printable decisions with
  | none =>
    rw [Decision.joinAll_eq_none_iff] at joined
    rw [joined]
    simp [noRulesApplied, Decision.isDeny]
  | some verdict =>
  have present : decisions ≠ [] := by
    intro empty
    cases ((Decision.joinAll_eq_none_iff decisions).mpr empty).symm.trans joined
  rw [Option.getD_some, Decision.isDeny_joinAll joined]
  simp [present]

variable {decision : Decision}

private theorem joined_deny_of_categorical
    (member : decision ∈ evaluateCategoricalDecisions principal environment facts readOnly policy)
    (denies : decision.isDeny = true) :
    (evaluateWithEffects printable principal environment facts readOnly policy
      estimatedRows).isDeny =
      true :=
  (joinAll_getD_deny_iff _).mpr (.inr ⟨decision, mem_append_left _ member, denies⟩)

private theorem joined_not_deny
    (decides : evaluateCategoricalDecisions principal environment facts readOnly policy ≠ [])
    (categorical : ∀ decision ∈ evaluateCategoricalDecisions principal environment facts readOnly
      policy, decision.isDeny = false)
    (eligible : ∀ decision ∈ evaluateEligibleWriteDecisions principal environment facts policy
      estimatedRows, decision.isDeny = false) :
    (evaluateWithEffects printable principal environment facts readOnly policy
      estimatedRows).isDeny =
      false := by
  rw [Bool.eq_false_iff]
  intro denied
  rcases (joinAll_getD_deny_iff _).mp denied with empty | ⟨decision, member, denies⟩
  · exact decides (append_eq_nil_iff.mp empty).1
  rcases mem_append.mp member with member | member
  · rw [categorical decision member] at denies
    cases denies
  split at member
  · rw [eligible decision member] at denies
    cases denies
  · cases member

section

variable (human : principal.isAgent = false)
include human

private theorem decideUnparseable_not_deny :
    (decideUnparseable principal policy).isDeny = false := by
  unfold decideUnparseable
  rw [human]
  cases policy.humanApproveUnparseable <;> rfl

theorem humanEligible_not_deny (member : decision ∈ evaluateEligibleWriteDecisions principal
      environment facts policy estimatedRows) : decision.isDeny = false := by
  unfold evaluateEligibleWriteDecisions at member
  rw [human] at member
  split at member
  · rw [mem_singleton.mp member]
    exact decideUnparseable_not_deny human
  · exact humanWrite_not_deny member

theorem humanUnparseable_not_deny
    (member : decision ∈ evaluateUnparseableDecisions [] principal environment facts policy) :
    decision.isDeny = false := by
  unfold evaluateUnparseableDecisions at member
  simp only [human, Bool.false_eq_true, if_false] at member
  have first : ∀ others : List Decision, decision ∈ [decideUnparseable principal policy] ++ others →
      (decision ∈ others → decision.isDeny = false) → decision.isDeny = false := by
    intro others member others_not
    rcases mem_append.mp member with member | member
    · rw [mem_singleton.mp member]
      exact decideUnparseable_not_deny human
    · exact others_not member
  split at member
  · exact first _ member humanDangerousEffects_not_deny
  split at member
  · refine first _ member fun member => ?_
    rw [mem_singleton.mp member]
    rfl
  · exact first [] (by simpa using member) fun member => by cases member

/-! ### What people and agents may send -/

/-- A person is refused nothing categorically but a write on a read-only connection. -/
theorem humanCategorical_not_deny (writable : (readOnly && facts.effects.writes) = false)
    (member : decision ∈ evaluateCategoricalDecisions principal environment facts readOnly policy) :
    decision.isDeny = false := by
  unfold evaluateCategoricalDecisions at member
  simp only [writable, human, Bool.and_false] at member
  split at member
  · exact humanUnparseable_not_deny human member
  split at member
  · rw [mem_singleton.mp member]
    rfl
  · exact humanDangerousEffects_not_deny member

end

/-- A statement that is a write by its effects only is decided before the lock is looked at
exactly for people, on writable connections, who are asked to confirm a dangerous effect. -/
theorem hiddenWrite_decided_iff (reads : facts.writes = false)
    (writes : facts.effects.writes = true) :
    ((evaluateCategorical printable principal environment facts readOnly policy).isSome = true ∧
      (evaluateWithEffects printable principal environment facts readOnly policy
        estimatedRows).isDeny =
        false) ↔
      principal.isAgent = false ∧ readOnly = false ∧ isDangerous facts.effects = true := by
  have parsed : facts.cls ≠ .unparseable := by
    intro unparsed
    rw [StatementFacts.writes, unparsed] at reads
    cases reads
  rw [categorical_isSome_iff]
  cases writable : readOnly with
  | true =>
    rw [joined_deny_of_categorical (readOnly_refused parsed writes) rfl]
    simp
  | false =>
  cases human : principal.isAgent with
  | true =>
    constructor
    · rintro ⟨decides, allowed⟩
      obtain ⟨decision, member⟩ := exists_mem_of_ne_nil _ decides
      rw [joined_deny_of_categorical member
        (agentCategorical_deny parsed human writes member)] at allowed
      cases allowed
    · rintro ⟨impossible, _⟩
      cases impossible
  | false =>
    have decisions : evaluateCategoricalDecisions principal environment facts false policy =
        evaluateHumanDangerousEffects environment facts policy := by
      unfold evaluateCategoricalDecisions
      simp [writes, parsed, human]
    have decided : evaluateCategoricalDecisions principal environment facts false policy ≠ [] ↔
        isDangerous facts.effects = true := by
      rw [decisions, ne_eq, humanDangerousEffects_eq_nil_iff, Bool.not_eq_false]
    constructor
    · rintro ⟨decides, _⟩
      exact ⟨rfl, rfl, decided.mp decides⟩
    rintro ⟨_, _, dangerous⟩
    refine ⟨decided.mpr dangerous, ?_⟩
    exact joined_not_deny (decided.mpr dangerous)
      (fun decision => humanCategorical_not_deny human rfl)
      fun decision => humanEligible_not_deny human

def agentMayRead (policy : EnvPolicy) (facts : StatementFacts) : Bool :=
  facts.cls != .unparseable && facts.cls != .administrative &&
    !(facts.isMultiStatement && !policy.agentAllowMultiStatement) &&
    !facts.effects.contains .hostOrFileAccess

variable (quiet : facts.effects.writes = false)
include quiet

/-- The lock is never looked at for a statement without writing effects. -/
theorem quiet_decided :
    evaluateCategoricalDecisions principal environment facts readOnly policy ≠ [] := by
  by_cases parsed : facts.cls = .unparseable
  · unfold evaluateCategoricalDecisions evaluateUnparseableDecisions
    simp only [parsed, if_true]
    cases principal.isAgent with
    | true => simp
    | false =>
    simp only [Bool.false_eq_true, if_false]
    split
    · simp
    · split <;> simp
  rw [categorical_parsed parsed, quiet, Bool.false_or]
  intro empty
  have last := (append_eq_nil_iff.mp empty).2
  cases host : facts.effects.contains .hostOrFileAccess with
  | false => simp [host] at last
  | true =>
  cases agent : principal.isAgent with
  | true => simp [host, agent, evaluateAgentWriteCategorical] at last
  | false =>
    simp only [host, agent, Bool.false_eq_true, if_true, if_false,
      humanDangerousEffects_eq_nil_iff] at last
    simp [isDangerous, host] at last

theorem quiet_allowed_iff :
    (evaluateWithEffects printable principal environment facts readOnly policy
      estimatedRows).isDeny =
        false ↔
      principal.isAgent = false ∨ agentMayRead policy facts = true := by
  cases agent : principal.isAgent with
  | false =>
    refine ⟨fun _ => .inl rfl, fun _ => ?_⟩
    exact joined_not_deny (quiet_decided quiet)
      (fun decision => humanCategorical_not_deny agent (by rw [quiet, Bool.and_false]))
      fun decision => humanEligible_not_deny agent
  | true =>
  simp only [Bool.true_eq_false, false_or]
  by_cases parsed : facts.cls = .unparseable
  · have refused : decideUnparseable principal policy ∈
        evaluateCategoricalDecisions principal environment facts readOnly policy := by
      unfold evaluateCategoricalDecisions evaluateUnparseableDecisions
      simp [parsed, agent]
    rw [joined_deny_of_categorical refused (by simp [decideUnparseable, agent, Decision.isDeny])]
    simp [agentMayRead, parsed]
  constructor
  · intro allowed
    have silent : ∀ decision ∈ evaluateCategoricalDecisions principal environment facts
        readOnly policy, decision.isDeny = false := by
      intro decision member
      rw [Bool.eq_false_iff]
      intro denies
      rw [joined_deny_of_categorical member denies] at allowed
      cases allowed
    rw [categorical_parsed parsed, quiet, agent] at silent
    have rules : agentRules principal facts policy = [] := by
      rw [eq_nil_iff_forall_not_mem]
      intro decision member
      have denied := silent decision (mem_append_left _ (mem_append_right _ member))
      rw [agentRules_deny member] at denied
      cases denied
    unfold agentRules at rules
    simp only [agent, append_eq_nil_iff, Bool.and_true, Bool.true_and, ite_eq_right_iff,
      cons_ne_nil, imp_false, Bool.not_eq_true, Bool.or_eq_false_iff] at rules
    unfold agentMayRead
    simp only [Bool.and_eq_true, Bool.not_eq_true', bne, rules.1, rules.2.1, beq_eq_false_iff_ne,
      ne_eq, parsed, not_false_eq_true, true_and]
    rw [Bool.eq_false_iff]
    intro host
    have denied := silent (.deny "agent_host_access_denied"
      "agents may not access host files or external programs") (mem_append_right _ (by
        simp [host, evaluateAgentWriteCategorical]))
    cases denied
  intro mayRead
  unfold agentMayRead at mayRead
  simp only [Bool.and_eq_true, bne_iff_ne, Bool.not_eq_true'] at mayRead
  obtain ⟨⟨⟨_, regular⟩, single⟩, inside⟩ := mayRead
  have categorical : evaluateCategoricalDecisions principal environment facts readOnly
      policy = [.allow "read_allow"] := by
    rw [categorical_parsed parsed]
    simp [readOnlyRule, agentRules, quiet, agent, single, regular, inside,
      (quiet_contains quiet).1]
  have ineligible : facts.eligible = false := by
    rw [eligible_parsed parsed, quiet, inside]
    rfl
  unfold StatementFacts.eligible at ineligible
  simp only [evaluateWithEffects, categorical, ineligible]
  rfl

end Joined

end Bookie.Policy
