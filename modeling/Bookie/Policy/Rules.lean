/-
The policy rules. What they ask a parser enters as a `SqlFrontEnd`; everything
decided from its answers is spelled out here. The categorical rules need no row
estimate; the rules for an eligible write come after them.
-/

import Bookie.Core.Driver
import Bookie.Policy.Config
import Bookie.Policy.Effects
import Bookie.Policy.Verdict

namespace Bookie.Policy

open Bookie.Core

inductive TransactionControl where
  | begin
  | beginReadWrite
  | beginReadOnly
  | beginReadOnlySnapshot
  | commit (chain : Bool)
  | rollback (chain : Bool)
  deriving DecidableEq, Repr

def TransactionControl.isBegin : TransactionControl → Bool
  | .begin | .beginReadWrite | .beginReadOnly | .beginReadOnlySnapshot => true
  | _ => false

/-- What is asked of the SQL parsers; the second argument is the driver id. `printable` is the
table of the characters `Debug` prints as they are, and `mask` redacts a result under a list of
patterns. -/
structure SqlFrontEnd where
  classify : String → String → StatementFacts
  rollsBackToSavepoint : String → String → Bool
  blastRadius : String → String → Option BlastRadiusRewrite
  sensitivePositions : String → String → List String → Option (List Bool)
  knownStatementRows : String → String → List (Option Nat)
  implicitTransactionStarter : String → String → Option String
  transactionControl : String → String → Option TransactionControl
  hidesTransactionControl : String → String → Bool
  leavesTsqlTransactionUnclosed : String → String → Bool
  mysqlStatementIsTransactionSafe : String → Bool
  scriptStatements : String → String → List String
  statementTarget : String → String → Option (List String)
  validIdentifier : String → Bool
  printable : Char → Bool
  mask : List String → QueryResult → Option (List Bool) → QueryResult

def SqlFrontEnd.analyzeStatement (front : SqlFrontEnd) (sql driverId : String)
    (masks : Option (List String)) : StatementAnalysis :=
  { facts := front.classify sql driverId
    rollsBackToSavepoint := front.rollsBackToSavepoint sql driverId
    blastRadius := front.blastRadius sql driverId
    sensitivePositions := masks.bind fun patterns => front.sensitivePositions sql driverId patterns
    knownStatementRows := front.knownStatementRows sql driverId }

/-! ### Shared connections and interactive transactions -/

/-- The scan of a script for a transaction that is still open at its end. -/
def leavesOpen (front : SqlFrontEnd) (driverId : String) : List String → Bool → Bool
  | [], isOpen => isOpen
  | statement :: statements, isOpen =>
    match front.transactionControl statement driverId with
    | some (.commit chain) | some (.rollback chain) =>
      if !isOpen || chain then true else leavesOpen front driverId statements false
    | some _ => if isOpen then true else leavesOpen front driverId statements true
    | none =>
      if isOpen then
        let facts := front.classify statement driverId
        if facts.cls == .unparseable || (driverId == "mysql" && facts.containsDdl) then true
        else leavesOpen front driverId statements true
      else leavesOpen front driverId statements false

def hasUnclosedSharedTransaction (front : SqlFrontEnd) (sql driverId : String) : Bool :=
  if front.leavesTsqlTransactionUnclosed sql driverId then true
  else
    let statements := front.scriptStatements sql driverId
    if statements.length < 2 then false else leavesOpen front driverId statements false

def sharedConnectionDecision (front : SqlFrontEnd) (sql driverId : String)
    (facts : StatementFacts) : Option Decision :=
  match front.implicitTransactionStarter sql driverId with
  | some statement =>
    some (.deny "transaction_control_needs_session"
      (statement ++ " starts a transaction that nothing on a shared connection would end, so " ++
        "the statements after it would run inside it. Turn on Session for this editor tab to " ++
        "keep a transaction open between statements, or send the whole transaction as one batch"))
  | none =>
    if (facts.cls == .transaction && !facts.isMultiStatement) ||
        hasUnclosedSharedTransaction front sql driverId then
      some (.deny "transaction_control_needs_session"
        ("BEGIN, COMMIT and ROLLBACK cannot run on a shared connection, because the transaction " ++
          "would not cover the statements after it. Turn on Session for this editor tab to " ++
          "keep a transaction open between statements, or send the whole transaction as one batch"))
    else none

def StatementClass.isPlainDml : StatementClass → Bool
  | .select | .insert | .update | .delete => true
  | _ => false

def interactiveTransactionDecision (front : SqlFrontEnd) (driverId sql : String)
    (facts : StatementFacts) : Option Decision :=
  if driverId != "mysql" ||
      (facts.cls.isPlainDml && !facts.containsDdl && !facts.containsUnknownWrite) ||
      front.mysqlStatementIsTransactionSafe sql then none
  else
    some (.deny "mysql_statement_not_rollback_safe"
      ("This MySQL statement may have effects that the interactive transaction cannot roll " ++
        "back. Run it on its own, outside the transaction"))

variable {facts : StatementFacts}

theorem sharedConnectionDecision_deny {front : SqlFrontEnd} {sql driverId : String}
    {decision : Decision}
    (refused : sharedConnectionDecision front sql driverId facts = some decision) :
    decision.isDeny = true := by
  unfold sharedConnectionDecision at refused
  split at refused
  · cases refused
    rfl
  split at refused
  · cases refused
    rfl
  · cases refused

theorem interactiveTransactionDecision_deny {front : SqlFrontEnd} {driverId sql : String}
    {decision : Decision}
    (refused : interactiveTransactionDecision front driverId sql facts = some decision) :
    decision.isDeny = true := by
  unfold interactiveTransactionDecision at refused
  split at refused
  · cases refused
  · cases refused
    rfl

variable (printable : Char → Bool) (principal : Principal)

def decideUnparseable (policy : EnvPolicy) : Decision :=
  if principal.isAgent then
    .deny "fail_closed_unparseable" "SQL could not be parsed; agents are denied"
  else if policy.humanApproveUnparseable then
    .requireApproval "fail_closed_unparseable" "SQL could not be parsed; confirm before running"
      none
  else .allow "unparseable_human_allow"

def tablePreview (facts : StatementFacts) : String :=
  "tables: " ++ String.intercalate ", "
    ((facts.tables.insertionSort fun left right => left ≤ right).destutter (· ≠ ·))

variable (environment : Environment)

def writesRequireApproval (preview : Option String) : Decision :=
  .requireApproval "human_write_approve"
    ("writes require approval in " ++ environment.asStr) preview

def isDangerous (effects : Effects) : Bool :=
  effects.contains .admin || effects.contains .hostOrFileAccess || effects.contains .unknown

def dangerousEffectApproval (facts : StatementFacts) : Decision :=
  .requireApproval "human_dangerous_effect_approval"
    "administrative, host-access or unknown write effects require confirmation"
    (some (tablePreview facts))

def evaluateHumanDangerousEffects (facts : StatementFacts) (policy : EnvPolicy) : List Decision :=
  if !isDangerous facts.effects then []
  else
    dangerousEffectApproval facts ::
      if policy.humanApproveWrites then
        [writesRequireApproval environment (some (tablePreview facts))]
      else []

def evaluateUnparseableDecisions (decisions : List Decision) (principal : Principal)
    (environment : Environment) (facts : StatementFacts) (policy : EnvPolicy) : List Decision :=
  let unparseable := decideUnparseable principal policy
  let decisions := decisions ++ [unparseable]
  if principal.isAgent then decisions
  else if unparseable.isAllow then
    decisions ++ evaluateHumanDangerousEffects environment facts policy
  else if policy.humanApproveWrites then decisions ++ [writesRequireApproval environment none]
  else decisions

def agentWritesDenied : Decision :=
  .deny "agent_writes_denied" ("agent writes are denied in " ++ environment.asStr)

def evaluateAgentWriteCategorical (facts : StatementFacts) (policy : EnvPolicy) : List Decision :=
  (if facts.effects.contains .hostOrFileAccess then
    [.deny "agent_host_access_denied" "agents may not access host files or external programs"]
  else []) ++
  (if policy.agentWrites = .deny then [agentWritesDenied environment] else []) ++
  (if facts.containsDdl && !policy.agentAllowDdl then
    [.deny "agent_ddl_denied" "agents may not run DDL"]
  else []) ++
  (if facts.containsUnknownWrite then
    [.deny "agent_unknown_write_denied"
      "agents may not run writes whose safety category cannot be determined"]
  else []) ++
  (if facts.containsUnscopedDml then
    [.deny "agent_no_unscoped_dml" "agents may not run unscoped UPDATE/DELETE or TRUNCATE"]
  else [])

variable (environment : Environment)

def evaluateCategoricalDecisions (facts : StatementFacts) (connectionReadOnly : Bool)
    (policy : EnvPolicy) : List Decision :=
  let effects := facts.effects
  let decisions : List Decision :=
    if connectionReadOnly && effects.writes then
      [.deny "connection_read_only"
        "connection is marked read-only; statements that may write are not permitted"]
    else []
  if facts.cls = .unparseable then
    evaluateUnparseableDecisions decisions principal environment facts policy
  else
    let decisions := decisions ++
      (if facts.isMultiStatement && principal.isAgent && !policy.agentAllowMultiStatement then
        [.deny "agent_no_multi_statement" "agents may not run multi-statement scripts"]
      else [])
    let decisions := decisions ++
      (if principal.isAgent && (facts.cls == .administrative || effects.contains .admin) then
        [.deny "agent_admin_denied" "agents may not run administrative database operations"]
      else [])
    if !effects.writes && !effects.contains .hostOrFileAccess then
      decisions ++ [.allow "read_allow"]
    else if principal.isAgent then
      decisions ++ evaluateAgentWriteCategorical environment facts policy
    else decisions ++ evaluateHumanDangerousEffects environment facts policy

def evaluateCategorical (facts : StatementFacts) (connectionReadOnly : Bool)
    (policy : EnvPolicy) : Option Decision :=
  Decision.joinAll printable
    (evaluateCategoricalDecisions principal environment facts connectionReadOnly policy)

/-- The part of the verdict that depends on the row estimate. -/
def blastRadiusDecisions (facts : StatementFacts) (policy : EnvPolicy) (estimatedRows : Option Nat)
    (exceeded : Nat → Nat → Decision) (unknown : Decision) : List Decision :=
  match policy.blastRadiusMaxRows with
  | none => []
  | some limit =>
    if facts.containsMutatingDml then
      match estimatedRows with
      | some rows => if limit < rows then [exceeded rows limit] else []
      | none => [unknown]
    else []

def StatementClass.debugName : StatementClass → String
  | .select => "Select"
  | .insert => "Insert"
  | .update => "Update"
  | .delete => "Delete"
  | .ddl => "Ddl"
  | .administrative => "Administrative"
  | .transaction => "Transaction"
  | .other => "Other"
  | .unparseable => "Unparseable"

def evaluateAgentWriteDecisions (facts : StatementFacts) (policy : EnvPolicy)
    (estimatedRows : Option Nat) : List Decision :=
  evaluateAgentWriteCategorical environment facts policy ++
  blastRadiusDecisions facts policy estimatedRows
    (fun rows limit => .deny "blast_radius_exceeded" s!"would affect {rows} rows; limit is {limit}")
    (.deny "blast_radius_unknown"
      "could not estimate affected rows; agents are denied when a blast-radius limit is set") ++
  [match policy.agentWrites with
    | .allow => .allow "agent_write_allow"
    | .approve =>
      .requireApproval "agent_write_approve"
        (facts.cls.debugName ++ " requires approval for agent writes") (some (tablePreview facts))
    | .deny => agentWritesDenied environment]

def evaluateHumanWriteCategorical (facts : StatementFacts) (policy : EnvPolicy) : List Decision :=
  (if facts.containsUnscopedDml then
    [.requireApproval "human_unscoped_dml" "unscoped UPDATE/DELETE or TRUNCATE"
      (some (tablePreview facts))]
  else []) ++
  (if facts.containsDdl && policy.humanApproveDdl then
    [.requireApproval "human_ddl_approve" ("DDL on " ++ environment.asStr)
      (some (tablePreview facts))]
  else [])

def evaluateHumanWriteDecisions (facts : StatementFacts) (policy : EnvPolicy)
    (estimatedRows : Option Nat) : List Decision :=
  evaluateHumanWriteCategorical environment facts policy ++
  blastRadiusDecisions facts policy estimatedRows
    (fun rows limit => .requireApproval "blast_radius_approve"
      s!"would affect {rows} rows (limit {limit})" none)
    (.requireApproval "blast_radius_unknown"
      "could not estimate affected rows; confirm before running" none) ++
  (if policy.humanApproveWrites then
    [writesRequireApproval environment (some (tablePreview facts))]
  else if isDangerous facts.effects then [dangerousEffectApproval facts]
  else []) ++
  [.allow "human_write_allow"]

def evaluateEligibleWriteDecisions (facts : StatementFacts) (policy : EnvPolicy)
    (estimatedRows : Option Nat) : List Decision :=
  if facts.cls = .unparseable then [decideUnparseable principal policy]
  else if principal.isAgent then
    evaluateAgentWriteDecisions environment facts policy estimatedRows
  else evaluateHumanWriteDecisions environment facts policy estimatedRows

def noRulesApplied : Decision :=
  .deny "no_policy_rules_applied" "policy evaluation produced no verdict"

def evaluateEligibleWrite (facts : StatementFacts) (policy : EnvPolicy)
    (estimatedRows : Option Nat) : Decision :=
  (Decision.joinAll printable
    (evaluateEligibleWriteDecisions principal environment facts policy estimatedRows)).getD
      noRulesApplied

def evaluateWithEffects (facts : StatementFacts) (connectionReadOnly : Bool) (policy : EnvPolicy)
    (estimatedRows : Option Nat) : Decision :=
  let effects := facts.effects
  let decisions :=
    evaluateCategoricalDecisions principal environment facts connectionReadOnly policy ++
    (if effects.writes || facts.cls == .unparseable || effects.contains .admin ||
        effects.contains .hostOrFileAccess || effects.contains .unknown then
      evaluateEligibleWriteDecisions principal environment facts policy estimatedRows
    else [])
  (Decision.joinAll printable decisions).getD noRulesApplied

end Bookie.Policy
