/-
The class and the effects of a script agree: over the whole tree of a statement,
wherever the class is one of a write, a write effect was added on the way.
-/

import Bookie.Policy.Classify
import Bookie.Policy.Rules

namespace Bookie.Policy

open Sql Effects ScriptFacts Bool

/-! ### Effects that write -/

namespace Effects

private theorem writes_union (self other : Effects) :
    (self.union other).writes = (self.writes || other.writes) := by
  simp only [writes_eq, has_union]
  cases self.has 1 <;> cases self.has 2 <;> cases self.has 3 <;> cases self.has 7 <;> simp

variable {self other : Effects}

private theorem writes_union_left (writes : self.writes = true) :
    (self.union other).writes = true := by
  rw [writes_union, writes, Bool.true_or]

private theorem writes_union_right (writes : other.writes = true) :
    (self.union other).writes = true := by
  rw [writes_union, writes, Bool.or_true]

private theorem writes_unionIf_left {condition : Bool} (writes : self.writes = true) :
    (self.unionIf other condition).writes = true := by
  cases condition with
  | false => exact writes
  | true => exact writes_union_left writes

private theorem writes_unionIf_right {condition : Bool} (holds : condition = true)
    (writes : other.writes = true) : (self.unionIf other condition).writes = true := by
  rw [holds]
  exact writes_union_right writes

private theorem union_comm (self other : Effects) : self.union other = other.union self :=
  congrArg mk (BitVec.or_comm self.bits other.bits)

variable (first second third : Effects)

private theorem union_assoc : (first.union second).union third = first.union (second.union third) :=
  congrArg mk (BitVec.or_assoc first.bits second.bits third.bits)

private theorem union_right_comm :
    (first.union second).union third = (first.union third).union second := by
  rw [union_assoc, union_comm second third, ← union_assoc]

end Effects

/-- A write class has a write effect. -/
def StatementDetails.Agrees (facts : StatementDetails) : Prop :=
  facts.cls.isWrite = true → facts.effects.writes = true

variable {facts : StatementDetails}

private theorem agrees_of_read (read : facts.cls.isWrite = false) : facts.Agrees := by
  intro write
  rw [read] at write
  cases write

section Effects

variable {statement : Statement} {facts : StatementDetails}

private theorem statementEffects_of_writeEffects
    (writes : (writeEffects statement facts).writes = true) :
    (statementEffects statement facts).writes = true := by
  unfold statementEffects
  simp [writes_union, writes, Bool.or_true]

private theorem statementEffects_of_rows (rows : writesRowsByForm statement = true) :
    (statementEffects statement facts).writes = true := by
  refine statementEffects_of_writeEffects ?_
  refine writes_unionIf_left (writes_unionIf_left ?_)
  refine writes_unionIf_right ?_ (by decide)
  rw [rows, Bool.or_true]

private theorem statementEffects_of_ddl (ddl : facts.cls = .ddl)
    (kept : isTruncate statement = false) : (statementEffects statement facts).writes = true := by
  refine statementEffects_of_writeEffects ?_
  refine writes_unionIf_left (writes_unionIf_right ?_ (by decide))
  rw [ddl, kept]
  exact or_true _

private theorem statementEffects_of_other (other : facts.cls = .other)
    (form : isQuery statement = false) : (statementEffects statement facts).writes = true := by
  refine statementEffects_of_writeEffects ?_
  refine writes_unionIf_right ?_ (by decide)
  rw [other, form]
  exact or_true _

private theorem statementEffects_of_administrative (administrative : facts.cls = .administrative) :
    (statementEffects statement facts).writes = true := by
  have admin : administrativeEffects statement facts = .admin := by
    unfold administrativeEffects
    rw [administrative]
    rfl
  have writes : Effects.admin.writes = true := by decide
  unfold statementEffects
  rw [admin]
  simp [writes_union, writes, Bool.or_true]

private theorem withEffects_of_agrees (agrees : facts.Agrees) :
    (withEffects statement facts).Agrees :=
  fun write => writes_union_left (agrees write)

private theorem withEffects_of_effects (writes : (statementEffects statement facts).writes = true) :
    (withEffects statement facts).Agrees :=
  fun _ => writes_union_right writes

end Effects

private theorem leafDetails_agrees (administrative writes : Bool) (tables : List String) :
    (leafDetails administrative writes tables).Agrees := by
  intro write
  cases administrative with
  | true => exact (by decide : admin.writes = true)
  | false =>
    cases writes with
    | true => exact (by decide : unknown.writes = true)
    | false => cases write

private theorem setOperationDetails_agrees {left right : StatementDetails}
    (leftAgrees : left.Agrees)
    (rightAgrees : right.Agrees) : (setOperationDetails left right).Agrees := by
  intro write
  have one : left.cls.isWrite = true ∨ right.cls.isWrite = true := by
    by_cases leftWrite : left.cls.isWrite = true
    · exact .inl leftWrite
    by_cases rightWrite : right.cls.isWrite = true
    · exact .inr rightWrite
    revert write
    unfold setOperationDetails
    cases isLeft : left.cls <;> rw [isLeft] at leftWrite <;> cases isRight : right.cls <;>
      rw [isRight] at rightWrite <;> simp_all [StatementClass.isWrite]
  rcases one with leftWrite | rightWrite
  · exact writes_union_left (leftAgrees leftWrite)
  · exact writes_union_right (rightAgrees rightWrite)

private theorem foldl_effects_writes (parts : List StatementDetails) (effects : Effects) :
    (parts.foldl (fun effects part => union effects part.effects) effects).writes =
      (effects.writes || parts.any fun part => part.effects.writes) := by
  induction parts generalizing effects with
  | nil => exact (Bool.or_false _).symm
  | cons part parts ih =>
    rw [List.foldl_cons, ih, writes_union, List.any_cons, Bool.or_assoc]

private theorem isWrite_of_administrative {cls : StatementClass}
    (administrative : cls = .administrative) : cls.isWrite = true := by
  rw [administrative]
  rfl

private theorem queryDetails_agrees {ctes : List StatementDetails} {body : StatementDetails}
    (locks : List String) (ctesAgree : ∀ facts ∈ ctes, facts.Agrees) (bodyAgrees : body.Agrees) :
    (queryDetails ctes body locks).Agrees := by
  intro write
  have agree : ∀ part ∈ ctes ++ [body], part.Agrees := by
    intro part found
    rcases List.mem_append.mp found with early | last
    · exact ctesAgree part early
    · rw [List.mem_singleton.mp last]
      exact bodyAgrees
  -- some part is a write, or the query locks rows
  have one : (∃ part ∈ ctes ++ [body], part.cls.isWrite = true) ∨ locks.isEmpty = false := by
    by_cases locking : locks.isEmpty = false
    · exact .inr locking
    left
    by_contra none
    have reads : ∀ part ∈ ctes ++ [body], part.cls.isWrite = false := by
      intro part found
      by_contra writes
      exact none ⟨part, found, by simpa using writes⟩
    have noWrite : (ctes ++ [body]).any (fun part => part.cls.isWrite) = false :=
      List.any_eq_false.mpr fun part found => by rw [reads part found]; exact false_ne_true
    have noAdmin : (ctes ++ [body]).any (fun part => part.cls == .administrative) = false := by
      refine List.any_eq_false.mpr fun part found isAdmin => ?_
      have written := isWrite_of_administrative (beq_iff_eq.mp isAdmin)
      rw [reads part found] at written
      cases written
    unfold queryDetails at write
    dsimp only at write
    rw [noWrite, noAdmin, (not_eq_false _).mp locking] at write
    cases write
  rcases one with ⟨part, found, written⟩ | locking
  · refine writes_unionIf_left ?_
    rw [foldl_effects_writes, or_eq_true]
    exact .inr (List.any_eq_true.mpr ⟨part, found, agree part found written⟩)
  · exact writes_unionIf_right (by rw [locking]; rfl) (by decide)

section Walk

variable (lookups : Lookups)

private theorem selectDetails_agrees (select : Select) : (selectDetails lookups select).Agrees := by
  obtain ⟨projection, into, tables, selection, having⟩ := select
  exact leafDetails_agrees _ _ _

private theorem explainDetails_agrees {inner : StatementDetails} (agrees : inner.Agrees)
    (executes : Bool) : (explainDetails inner executes).Agrees := by
  cases executes with
  | true => exact agrees
  | false => exact agrees_of_read rfl

mutual

private theorem statement_agrees :
    ∀ statement : Statement, (classifyStatement lookups statement).Agrees
  | .query query => withEffects_of_agrees (query_agrees query)
  | .insert _ _ | .update _ _ _ | .delete _ _ _ _ | .truncate _ =>
    withEffects_of_effects (statementEffects_of_rows rfl)
  | .createTable _ _ | .createView _ | .createIndex _ _ | .alterTable _ | .renameTable _ | .drop _
  | .schema _ | .createFunction _ | .grant _ | .revoke _ =>
    withEffects_of_effects (statementEffects_of_ddl rfl rfl)
  | .merge _ | .set _ | .session _ | .host _ | .other =>
    withEffects_of_effects (statementEffects_of_other rfl rfl)
  | .kill => withEffects_of_effects (statementEffects_of_administrative rfl)
  | .startTransaction _ _ | .commit _ | .rollback _ _ | .explainTable _ | .show _ =>
    agrees_of_read rfl
  | .explain _ statement _ =>
    withEffects_of_agrees (explainDetails_agrees (statement_agrees statement) _)
  | .copy source toTarget target => by
      cases host : reachesTheHost target with
      | true =>
        refine withEffects_of_effects (statementEffects_of_administrative ?_)
        change (if reachesTheHost target then _ else _) = _
        rw [host]
        rfl
      | false =>
      refine withEffects_of_effects (statementEffects_of_other ?_ rfl)
      change (if reachesTheHost target then _ else _) = _
      rw [host]
      rfl

private theorem query_agrees : ∀ query : Query, (classifyQuery lookups query).Agrees
  | .mk ctes body locks =>
    queryDetails_agrees locks (queries_agree ctes) (setExpr_agrees body)

private theorem queries_agree :
    ∀ (queries : List Query), ∀ facts ∈ classifyQueries lookups queries, facts.Agrees
  | [], _, found => absurd found List.not_mem_nil
  | query :: queries, facts, found => by
      rcases List.mem_cons.mp found with rfl | later
      · exact query_agrees query
      · exact queries_agree queries facts later

private theorem setExpr_agrees : ∀ body : SetExpr, (classifySetExpr lookups body).Agrees
  | .insert statement | .update statement | .delete statement => statement_agrees statement
  | .query query => query_agrees query
  | .setOperation left right =>
    setOperationDetails_agrees (setExpr_agrees left) (setExpr_agrees right)
  | .select select => selectDetails_agrees lookups select
  | .values | .table | .merge _ => leafDetails_agrees _ _ _

end

end Walk

private theorem mergeScriptClass_comm (first second : StatementClass) :
    mergeScriptClass first second = mergeScriptClass second first := by
  cases first <;> cases second <;> rfl

private theorem mergeScriptClass_assoc (first second third : StatementClass) :
    mergeScriptClass (mergeScriptClass first second) third =
      mergeScriptClass first (mergeScriptClass second third) := by
  cases first <;> cases second <;> cases third <;> rfl

private theorem isWrite_mergeScriptClass {first second : StatementClass}
    (write : (mergeScriptClass first second).isWrite = true) :
    first.isWrite = true ∨ second.isWrite = true := by
  cases first <;> cases second <;> first | exact .inl rfl | exact .inr rfl | cases write

/-- The part of a script's facts that does not depend on the order of its statements. -/
structure ScriptVerdict where
  cls : StatementClass
  effects : Effects
  writes : Bool
  containsUnscopedDml : Bool

def ScriptVerdict.add (script : ScriptVerdict) (facts : StatementDetails) : ScriptVerdict :=
  { cls := mergeScriptClass script.cls facts.cls
    effects := script.effects.union facts.effects
    writes := script.writes || facts.cls.isWrite
    containsUnscopedDml := script.containsUnscopedDml || facts.containsUnscopedDml }

def ScriptFacts.verdict (script : ScriptFacts) : ScriptVerdict :=
  { cls := script.cls
    effects := script.effects
    writes := script.writes
    containsUnscopedDml := script.containsUnscopedDml }

private theorem ScriptVerdict.add_right_comm (script : ScriptVerdict)
    (first second : StatementDetails) :
    (script.add first).add second = (script.add second).add first := by
  unfold ScriptVerdict.add
  simp only [ScriptVerdict.mk.injEq]
  refine ⟨?_, union_right_comm _ _ _, or_right_comm _ _ _, or_right_comm _ _ _⟩
  rw [mergeScriptClass_assoc, mergeScriptClass_comm first.cls, ← mergeScriptClass_assoc]

section Script

variable (lookups : Lookups)

def scriptFacts (statements : List Statement) (script : ScriptFacts) : ScriptFacts :=
  statements.foldl (fun script statement => script.add (classifyStatement lookups statement)) script

variable (statements : List Statement)

private theorem verdict_scriptFacts (script : ScriptFacts) :
    (scriptFacts lookups statements script).verdict =
      (statements.map (classifyStatement lookups)).foldl ScriptVerdict.add script.verdict := by
  induction statements generalizing script with
  | nil => rfl
  | cons statement statements ih =>
    exact ih (script.add (classifyStatement lookups statement))

private theorem verdict_perm {statements other : List Statement} (perm : statements.Perm other)
    (script : ScriptFacts) :
    (scriptFacts lookups statements script).verdict =
      (scriptFacts lookups other script).verdict := by
  rw [verdict_scriptFacts, verdict_scriptFacts]
  have comm : RightCommutative ScriptVerdict.add := ⟨ScriptVerdict.add_right_comm⟩
  exact (perm.map (classifyStatement lookups)).foldl_eq script.verdict

private theorem finish_cls {script other : ScriptFacts} (cls : script.cls = other.cls)
    (writes : script.writes = other.writes) (call isMulti otherIsMulti : Bool) :
    (script.finish call isMulti).cls = (other.finish call otherIsMulti).cls := by
  unfold finish
  rw [cls, writes]

/-- A script that is a write, by its class or by a statement of it, has a write effect. -/
def ScriptFacts.Agrees (script : ScriptFacts) : Prop :=
  script.cls.isWrite = true ∨ script.writes = true → script.effects.writes = true

variable {script : ScriptFacts}

private theorem ScriptFacts.Agrees.add (agrees : script.Agrees) (partAgrees : facts.Agrees) :
    (script.add facts).Agrees := by
  intro write
  have one : (script.cls.isWrite = true ∨ script.writes = true) ∨ facts.cls.isWrite = true := by
    rcases write with byClass | byPart
    · rcases isWrite_mergeScriptClass byClass with script | part
      · exact .inl (.inl script)
      · exact .inr part
    · rcases or_eq_true_iff.mp byPart with script | part
      · exact .inl (.inr script)
      · exact .inr part
  rcases one with before | part
  · exact writes_union_left (agrees before)
  · exact writes_union_right (partAgrees part)

private theorem scriptFacts_agrees (agrees : script.Agrees) :
    (scriptFacts lookups statements script).Agrees := by
  induction statements generalizing script with
  | nil => exact agrees
  | cons statement statements ih => exact ih (agrees.add (statement_agrees lookups statement))

private theorem scriptFacts_has {index : Nat} (has : script.effects.has index = true) :
    (scriptFacts lookups statements script).effects.has index = true := by
  induction statements generalizing script with
  | nil => exact has
  | cons statement statements ih =>
    refine ih ?_
    change (script.effects.union _).has index = true
    rw [has_union, has, Bool.true_or]

private theorem classifyStatements_agrees {effects : Effects} {call : Bool}
    (scanned : call = true → effects.contains .admin = true)
    (write : (classifyStatements lookups statements effects call).cls.isWrite = true) :
    (classifyStatements lookups statements effects call).effects.writes = true := by
  have starts : (start effects).Agrees := by
    rintro (impossible | impossible) <;> cases impossible
  have agrees := scriptFacts_agrees lookups statements starts
  change (scriptFacts lookups statements (.start effects)).effects.writes = true
  cases call with
  | true =>
    have admin : (start effects).effects.has 3 = true := by
      rw [← contains_admin]
      exact scanned rfl
    have kept := scriptFacts_has lookups statements admin
    rw [writes_eq, kept, Bool.or_true, Bool.true_or]
  | false =>
  by_cases byPart : (scriptFacts lookups statements (.start effects)).writes = true
  · exact agrees (.inr byPart)
  · refine agrees (.inl ?_)
    change ((scriptFacts lookups statements (.start effects)).finish false _).cls.isWrite =
      true at write
    unfold finish at write
    simpa [byPart] using write

end Script

private theorem read_allow_of_writes {facts : StatementFacts} (writes : facts.effects.writes = true)
    (principal : Principal) (environment : Environment) (connectionReadOnly : Bool)
    (policy : EnvPolicy) :
    .allow "read_allow" ∉
      evaluateCategoricalDecisions principal environment facts connectionReadOnly policy := by
  have dangerous :
      .allow "read_allow" ∉ evaluateHumanDangerousEffects environment facts policy := by
    unfold evaluateHumanDangerousEffects dangerousEffectApproval writesRequireApproval
    split_ifs <;> simp
  have agent : .allow "read_allow" ∉ evaluateAgentWriteCategorical environment facts policy := by
    unfold evaluateAgentWriteCategorical agentWritesDenied
    simp
  have unparseable : ∀ decisions, .allow "read_allow" ∉ decisions → .allow "read_allow" ∉
      evaluateUnparseableDecisions decisions principal environment facts policy := by
    intro decisions unallowed
    have decided : Decision.allow "read_allow" ≠ decideUnparseable principal policy := by
      unfold decideUnparseable
      split_ifs <;> simp
    unfold evaluateUnparseableDecisions writesRequireApproval
    dsimp only
    split_ifs <;> simp [unallowed, decided, dangerous]
  unfold evaluateCategoricalDecisions
  split
  · refine unparseable _ ?_
    split_ifs <;> simp
  · split_ifs <;> simp_all

/-- Write classes and write effects agree. Whatever the token scan adds, if it reports an
administrative call only with the administrative effect: a script with a write class has a
write effect, so that the rule for reads does not allow it, and the class, the effects, the
mark of unscoped changes and the write verdict do not depend on the order of the statements. -/
theorem classes_and_effects_agree (lookups : Lookups) (statements : List Statement)
    (effects : Effects) (call : Bool) (scanned : call = true → effects.contains .admin = true) :
    let facts := classifyStatements lookups statements effects call
    (facts.cls.isWrite = true → facts.effects.writes = true ∧
      ∀ principal environment connectionReadOnly policy, .allow "read_allow" ∉
        evaluateCategoricalDecisions principal environment facts connectionReadOnly policy) ∧
    ∀ other, statements.Perm other →
      let permuted := classifyStatements lookups other effects call
      permuted.cls = facts.cls ∧ permuted.effects = facts.effects ∧
        permuted.containsUnscopedDml = facts.containsUnscopedDml ∧
        permuted.writes = facts.writes := by
  intro facts
  refine ⟨fun write => ?_, fun other perm => ?_⟩
  · have writes := classifyStatements_agrees lookups statements scanned write
    exact ⟨writes, read_allow_of_writes writes⟩
  have same := verdict_perm lookups perm (.start effects)
  obtain ⟨cls, sameEffects, writes, unscoped⟩ : _ ∧ _ ∧ _ ∧ _ := by
    simpa only [ScriptFacts.verdict, ScriptVerdict.mk.injEq] using same
  have sameClass : (classifyStatements lookups other effects call).cls = facts.cls :=
    finish_cls cls.symm writes.symm call _ _
  refine ⟨sameClass, sameEffects.symm, unscoped.symm, ?_⟩
  unfold StatementFacts.writes
  rw [sameClass]

def plainLookups : Lookups :=
  { isConstantTrue := fun _ => false
    analyzeOptionEnabled := fun _ => false }

def selectSleep : Statement :=
  .query (.mk [] (.select (.mk [.expr (.function "sleep" (.list [.expr (.other "1")]) none)]
    none [] none none)) [])

/-- The tokens of `SELECT sleep(1); TRUNCATE users`. -/
def sleepTokens : List SqlToken :=
  [.word "SELECT" false, .whitespace, .word "sleep" false, .leftParen, .other, .other, .other,
    .whitespace, .word "TRUNCATE" false, .whitespace, .word "users" false]

theorem classes_and_effects_agree_sleep :
    let scan := sqlEffectsFromTokens "mysql" (some sleepTokens)
    let facts := classifyStatements plainLookups [selectSleep, .truncate ["users"]] scan.1 scan.2
    scan.2 = true ∧ facts.effects.writes = true ∧
      (classifyStatements plainLookups [.truncate ["users"], selectSleep] scan.1 scan.2).cls =
        facts.cls := by
  intro scan facts
  have agree := classes_and_effects_agree plainLookups [selectSleep, .truncate ["users"]] scan.1
    scan.2 (sqlEffectsFromTokens_admin "mysql" _)
  have write : facts.cls.isWrite = true := by decide +kernel
  exact ⟨by decide +kernel, (agree.1 write).1, (agree.2 _ (.swap ..)).1⟩

end Bookie.Policy
