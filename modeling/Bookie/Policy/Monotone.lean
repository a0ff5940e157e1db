/-
Stricter settings never make a decision milder. The joined decision is the most
severe one of a list, so it is enough that every decision of the milder list is
met by one of the stricter list that is at least as severe.
-/

import Bookie.Policy.Estimate

namespace Bookie.Policy

open List Policy Bool Nat

def Dominated (milder stricter : List Decision) : Prop :=
  ∀ decision ∈ milder, ∃ other ∈ stricter, decision.severity ≤ other.severity

namespace Dominated

variable {printable : Char → Bool} {first second third fourth : List Decision}

private theorem append (left : Dominated first third) (right : Dominated second fourth) :
    Dominated (first ++ second) (third ++ fourth) := by
  intro decision member
  rcases mem_append.mp member with inside | inside
  · obtain ⟨other, found, below⟩ := left decision inside
    exact ⟨other, mem_append_left _ found, below⟩
  · obtain ⟨other, found, below⟩ := right decision inside
    exact ⟨other, mem_append_right _ found, below⟩

private theorem bounded {bound : Decision} (member : bound ∈ second)
    (below : ∀ decision ∈ first, decision.severity ≤ bound.severity) : Dominated first second :=
  fun decision inside => ⟨bound, member, below decision inside⟩

variable {milder stricter : Decision}

private theorem singleton (below : milder.severity ≤ stricter.severity) :
    Dominated [milder] [stricter] := by
  apply bounded (mem_singleton_self stricter)
  intro decision member
  rw [mem_singleton.mp member]
  exact below

/-- A rule that applies under a condition. -/
private theorem rule {weak strong : Prop} [Decidable weak] [Decidable strong]
    (applies : weak → strong) (below : milder.severity ≤ stricter.severity) :
    Dominated (if weak then [milder] else []) (if strong then [stricter] else []) := by
  intro decision member
  obtain ⟨met, inside⟩ := mem_ite_nil_right.mp member
  rw [if_pos (applies met)]
  exact singleton below decision inside

private theorem joined (present : first ≠ []) (holds : Dominated first second) :
    ((Decision.joinAll printable first).getD noRulesApplied).severity ≤
      ((Decision.joinAll printable second).getD noRulesApplied).severity := by
  cases milder : Decision.joinAll printable first with
  | none => exact absurd ((Decision.joinAll_eq_none_iff first).mp milder) present
  | some verdict =>
  have most := max?_mem (Decision.severity_joinAll milder)
  obtain ⟨decision, member, same⟩ := mem_map.mp most
  obtain ⟨other, inside, below⟩ := holds decision member
  rw [Option.getD_some, ← same]
  cases stricter : Decision.joinAll printable second with
  | none =>
    rw [(Decision.joinAll_eq_none_iff second).mp stricter] at inside
    cases inside
  | some result =>
    have highest := (max?_eq_some_iff.mp (Decision.severity_joinAll stricter)).2
    exact below.trans (highest _ (mem_map_of_mem inside))

end Dominated

/-! ### The rules that apply -/

section Rules

variable (printable : Char → Bool) (principal : Principal) (environment : Environment)
  (facts : StatementFacts)  (readOnly : Bool) (policy : EnvPolicy) (rows : Option Nat)

def writeRules : List Decision :=
  if principal.isAgent then
    evaluateAgentWriteCategorical environment facts policy ++
      evaluateAgentWriteDecisions environment facts policy rows
  else
    evaluateHumanDangerousEffects environment facts policy ++
      evaluateHumanWriteDecisions environment facts policy rows

def allRules : List Decision :=
  if facts.cls = .unparseable then
    readOnlyRule facts readOnly ++
      evaluateUnparseableDecisions [] principal environment facts policy ++
        [decideUnparseable principal policy]
  else
    readOnlyRule facts readOnly ++ agentRules principal facts policy ++
      if facts.effects.writes || facts.effects.contains .hostOrFileAccess then
        writeRules principal environment facts policy rows
      else [.allow "read_allow"]

private theorem evaluate_eq_allRules :
    evaluate printable principal environment facts readOnly policy rows =
      (Decision.joinAll printable (allRules principal environment facts readOnly policy rows)).getD
        noRulesApplied := by
  unfold evaluate evaluateWithEffects evaluateEligibleWriteDecisions allRules
  dsimp only
  by_cases unparseable : facts.cls = .unparseable
  · have shared (decisions : List Decision) :
        evaluateUnparseableDecisions decisions principal environment facts policy =
          decisions ++ evaluateUnparseableDecisions [] principal environment facts policy := by
      unfold evaluateUnparseableDecisions
      dsimp only
      split_ifs <;> simp
    unfold evaluateCategoricalDecisions
    simp only [unparseable, beq_self_eq_true, Bool.or_true]
    rw [shared]
    rfl
  have asked := eligible_parsed unparseable
  unfold StatementFacts.eligible at asked
  rw [categorical_parsed unparseable, asked, if_neg unparseable, if_neg unparseable]
  cases facts.effects.writes || facts.effects.contains .hostOrFileAccess <;>
    cases agent : principal.isAgent <;> simp [writeRules, agent]

private theorem writeRules_ne_nil : writeRules principal environment facts policy rows ≠ [] := by
  unfold writeRules evaluateAgentWriteDecisions evaluateHumanWriteDecisions
  split <;> simp

private theorem allRules_ne_nil :
    allRules principal environment facts readOnly policy rows ≠ [] := by
  unfold allRules
  split_ifs <;> simp [writeRules_ne_nil]

end Rules

/-! ### Stricter inputs -/

abbrev StatementFacts.having (facts : StatementFacts) (effects : Effects) : StatementFacts :=
  { facts with effects := effects }

def WritePolicy.rank : WritePolicy → Nat
  | .allow => 0
  | .approve => 1
  | .deny => 2

/-- The inputs of the rules, before and after a change. The settings that no rule reads may be
anything, and a missing estimate counts as the largest one. -/
structure Stricter (effects moreEffects : Effects) (readOnly locked : Bool)
    (policy tighter : EnvPolicy) (rows moreRows : Option Nat) : Prop where
  effects : ∀ index, effects.has index = true → moreEffects.has index = true
  readOnly : readOnly = true → locked = true
  agentWrites : policy.agentWrites.rank ≤ tighter.agentWrites.rank
  agentAllowDdl : tighter.agentAllowDdl = true → policy.agentAllowDdl = true
  agentAllowMultiStatement :
    tighter.agentAllowMultiStatement = true → policy.agentAllowMultiStatement = true
  humanApproveWrites : policy.humanApproveWrites = true → tighter.humanApproveWrites = true
  humanApproveDdl : policy.humanApproveDdl = true → tighter.humanApproveDdl = true
  humanApproveUnparseable :
    policy.humanApproveUnparseable = true → tighter.humanApproveUnparseable = true
  blastRadiusMaxRows : ∀ limit, policy.blastRadiusMaxRows = some limit →
    ∃ lower ≤ limit, tighter.blastRadiusMaxRows = some lower
  rows : ∀ more, moreRows = some more → ∃ fewer ≤ more, rows = some fewer

namespace Stricter

variable {facts : StatementFacts} {more : Effects} {readOnly locked : Bool}
  {policy tighter : EnvPolicy} {rows moreRows : Option Nat}
  (stricter : Stricter facts.effects more readOnly locked policy tighter rows moreRows)
include stricter

private theorem contains {held : Effects} (inside : facts.effects.contains held = true) :
    more.contains held = true := by
  rw [Effects.contains_iff] at inside ⊢
  exact fun index set => stricter.effects index (inside index set)

private theorem writes (writing : facts.effects.writes = true) : more.writes = true := by
  rw [Effects.writes_eq] at writing ⊢
  simp only [or_eq_true] at writing ⊢
  exact writing.imp (.imp (.imp (stricter.effects 1) (stricter.effects 2))
    (stricter.effects 3)) (stricter.effects 7)

private theorem isDangerous (danger : isDangerous facts.effects = true) :
    isDangerous more = true := by
  unfold Policy.isDangerous at danger ⊢
  simp only [or_eq_true] at danger ⊢
  exact danger.imp (.imp stricter.contains stricter.contains) stricter.contains

variable (principal : Principal) (environment : Environment)

private theorem readOnlyRule : Dominated (readOnlyRule facts readOnly)
    (readOnlyRule (facts.having more) locked) := by
  apply Dominated.rule _ (le_refl _)
  simp only [and_eq_true]
  exact And.imp stricter.readOnly stricter.writes

private theorem agentRules : Dominated (agentRules principal facts policy)
    (agentRules principal (facts.having more) tighter) := by
  apply Dominated.append
  · apply Dominated.rule _ (le_refl _)
    simp only [and_eq_true, not_eq_true']
    refine And.imp_right fun denied => ?_
    rw [eq_false_iff] at denied ⊢
    exact denied ∘ stricter.agentAllowMultiStatement
  · apply Dominated.rule _ (le_refl _)
    simp only [and_eq_true, or_eq_true]
    exact And.imp_right (.imp_right stricter.contains)

private theorem agentWriteCategorical :
    Dominated (evaluateAgentWriteCategorical environment facts policy)
      (evaluateAgentWriteCategorical environment (facts.having more) tighter) := by
  refine .append (.append (.append (.append ?_ ?_) ?_) ?_) (.rule id (le_refl _))
  · exact .rule stricter.contains (le_refl _)
  · apply Dominated.rule _ (le_refl _)
    have higher := stricter.agentWrites
    intro denied
    rw [denied] at higher
    cases mode : tighter.agentWrites <;> rw [mode] at higher <;> first | rfl | contradiction
  · apply Dominated.rule _ (le_refl _)
    simp only [and_eq_true, not_eq_true']
    refine And.imp stricter.contains fun denied => ?_
    rw [eq_false_iff] at denied ⊢
    exact denied ∘ stricter.agentAllowDdl
  · exact .rule stricter.contains (le_refl _)

private theorem blastRadius {exceeded : Nat → Nat → Decision} {unknown : Decision}
    (same : ∀ rows limit, (exceeded rows limit).severity = unknown.severity) :
    Dominated (blastRadiusDecisions facts policy rows exceeded unknown)
      (blastRadiusDecisions (facts.having more) tighter moreRows exceeded
        unknown) := by
  unfold blastRadiusDecisions
  cases limited : policy.blastRadiusMaxRows with
  | none => exact fun decision member => nomatch member
  | some limit =>
  obtain ⟨lower, below, tighterLimit⟩ := stricter.blastRadiusMaxRows limit limited
  rw [tighterLimit]
  intro decision member
  obtain ⟨mutating, member⟩ := mem_ite_nil_right.mp member
  have mutating' : (facts.having more).containsMutatingDml = true := stricter.contains mutating
  simp only [mutating']
  cases estimate : moreRows with
  | none =>
    refine ⟨unknown, mem_singleton_self unknown, le_of_eq ?_⟩
    split at member
    · rw [mem_singleton.mp (mem_ite_nil_right.mp member).2, same]
    · rw [mem_singleton.mp member]
  | some more =>
  obtain ⟨fewer, atMost, known⟩ := stricter.rows more estimate
  rw [known] at member
  obtain ⟨above, member⟩ := mem_ite_nil_right.mp member
  dsimp only
  rw [if_pos (by omega : lower < more), mem_singleton.mp member]
  exact ⟨_, mem_singleton_self _, le_of_eq ((same _ _).trans (same _ _).symm)⟩

private theorem agentWrite :
    Dominated (evaluateAgentWriteDecisions environment facts policy rows)
      (evaluateAgentWriteDecisions environment (facts.having more) tighter
        moreRows) := by
  refine .append (.append (stricter.agentWriteCategorical environment)
    (stricter.blastRadius fun _ _ => rfl)) (.singleton ?_)
  have higher := stricter.agentWrites
  cases mode : policy.agentWrites <;> cases mode' : tighter.agentWrites <;>
    rw [mode, mode'] at higher <;> exact higher

private theorem humanDangerous :
    Dominated (evaluateHumanDangerousEffects environment facts policy)
      (evaluateHumanDangerousEffects environment (facts.having more)
        tighter) := by
  cases danger : Policy.isDangerous facts.effects with
  | false =>
    rw [(humanDangerousEffects_eq_nil_iff _ _ _).mpr danger]
    exact fun decision member => nomatch member
  | true =>
  have member : dangerousEffectApproval (facts.having more) ∈
      evaluateHumanDangerousEffects environment (facts.having more) tighter := by
    simp [evaluateHumanDangerousEffects, stricter.isDangerous danger]
  exact .bounded member fun _ inside => severity_le_one (humanDangerousEffects_not_deny inside)

private theorem humanWrite :
    Dominated (evaluateHumanWriteDecisions environment facts policy rows)
      (evaluateHumanWriteDecisions environment (facts.having more) tighter
        moreRows) := by
  refine .append (.append (.append (.append (.rule id (le_refl _)) (.rule ?_ (le_refl _)))
    (stricter.blastRadius fun _ _ => rfl)) ?_) (.singleton (le_refl _))
  · simp only [and_eq_true]
    exact And.imp stricter.contains stricter.humanApproveDdl
  by_cases approve : tighter.humanApproveWrites = true
  · rw [if_pos approve]
    apply Dominated.bounded (mem_singleton_self _)
    intro decision member
    split at member
    · rw [mem_singleton.mp member]
      exact le_refl 1
    · rw [mem_singleton.mp (mem_ite_nil_right.mp member).2]
      exact le_refl 1
  · rw [if_neg (approve ∘ stricter.humanApproveWrites), if_neg approve]
    exact .rule stricter.isDangerous (le_refl _)

private theorem decideUnparseable :
    (decideUnparseable principal policy).severity ≤
      (decideUnparseable principal tighter).severity := by
  unfold Policy.decideUnparseable
  cases principal.isAgent with
  | true => exact le_refl _
  | false =>
    cases asks : policy.humanApproveUnparseable with
    | true => rw [stricter.humanApproveUnparseable asks]
    | false => exact zero_le _

private theorem unparseable :
    Dominated (evaluateUnparseableDecisions [] principal environment facts policy)
      (evaluateUnparseableDecisions [] principal environment (facts.having more) tighter) := by
  have first := stricter.decideUnparseable principal
  cases agent : principal.isAgent with
  | true =>
    simp only [evaluateUnparseableDecisions, agent]
    exact .singleton first
  | false =>
  cases approve : tighter.humanApproveUnparseable with
  | true =>
    -- Asking about the text is as severe as anything else a person meets here.
    have member : Policy.decideUnparseable principal tighter ∈
        evaluateUnparseableDecisions [] principal environment (facts.having more) tighter := by
      unfold evaluateUnparseableDecisions
      dsimp only
      split_ifs <;> simp
    apply Dominated.bounded member
    intro decision inside
    have top : (Policy.decideUnparseable principal tighter).severity = 1 := by
      simp [Policy.decideUnparseable, agent, approve, Decision.severity]
    rw [top]
    exact severity_le_one (humanUnparseable_not_deny agent inside)
  | false =>
    have before : policy.humanApproveUnparseable = false := by
      rw [eq_false_iff] at approve ⊢
      exact approve ∘ stricter.humanApproveUnparseable
    simp only [evaluateUnparseableDecisions, Policy.decideUnparseable, agent, approve, before]
    exact .append (.singleton (le_refl _)) (stricter.humanDangerous environment)

private theorem allRules :
    Dominated (allRules principal environment facts readOnly policy rows)
      (allRules principal environment (facts.having more) locked tighter moreRows) := by
  unfold Policy.allRules
  by_cases unparseable : facts.cls = .unparseable
  · rw [if_pos unparseable, if_pos unparseable]
    exact .append (.append stricter.readOnlyRule (stricter.unparseable principal environment))
      (.singleton (stricter.decideUnparseable principal))
  rw [if_neg unparseable, if_neg unparseable]
  refine .append (.append stricter.readOnlyRule (stricter.agentRules principal)) ?_
  by_cases loud : (facts.effects.writes || facts.effects.contains .hostOrFileAccess) = true
  · have louder : (more.writes || more.contains .hostOrFileAccess) = true := by
      rw [or_eq_true] at loud ⊢
      exact loud.imp stricter.writes stricter.contains
    rw [if_pos loud]
    unfold writeRules
    split
    · exact .append (stricter.agentWriteCategorical environment) (stricter.agentWrite environment)
    · exact .append (stricter.humanDangerous environment) (stricter.humanWrite environment)
  rw [if_neg loud]
  have present : (if more.writes || more.contains .hostOrFileAccess then
      writeRules principal environment (facts.having more) tighter moreRows
    else [.allow "read_allow"]) ≠ [] := by
    split
    · exact writeRules_ne_nil _ _ _ _ _
    · exact cons_ne_nil _ _
  obtain ⟨other, member⟩ := exists_mem_of_ne_nil _ present
  refine .bounded member fun decision inside => ?_
  rw [mem_singleton.mp inside]
  exact zero_le _

end Stricter

theorem severity_evaluate_le (principal : Principal) (environment : Environment)
    {facts : StatementFacts} {more : Effects} {readOnly locked : Bool} {policy tighter : EnvPolicy}
    {rows moreRows : Option Nat}
    (stricter : Stricter facts.effects more readOnly locked policy tighter rows moreRows) :
    (evaluate printable principal environment facts readOnly policy rows).severity ≤
      (evaluate printable principal environment { facts with effects := more } locked tighter
        moreRows).severity := by
  rw [evaluate_eq_allRules, evaluate_eq_allRules]
  exact Dominated.joined (allRules_ne_nil _ _ _ _ _ _) (stricter.allRules principal environment)

/-- A row change under the settings for production, where a read under the local ones was. -/
theorem prod_write_not_milder :
    (evaluate asciiPrintable .humanGui .prod
      ⟨.select, .reads, ["users"], false, false, false, none⟩ false
        .localDefaults (some 1)).severity ≤
      (evaluate asciiPrintable .humanGui .prod
        ⟨.select, Effects.reads.union .writesRows, ["users"], false, false, false, none⟩ true
        .prodDefaults (some 2)).severity :=
  severity_evaluate_le .humanGui .prod
    { effects := fun _ held => BitVec.getLsbD_or.trans (Bool.or_eq_true_iff.mpr (.inl held))
      readOnly := fun _ => rfl
      agentWrites := by decide
      agentAllowDdl := id
      agentAllowMultiStatement := id
      humanApproveWrites := fun _ => rfl
      humanApproveDdl := fun _ => rfl
      humanApproveUnparseable := id
      blastRadiusMaxRows := by
        rintro _ ⟨⟩
        exact ⟨1000, by decide, rfl⟩
      rows := by
        rintro _ ⟨⟩
        exact ⟨1, by decide, rfl⟩ }

end Bookie.Policy
