/-
Classification of parsed statements. The class of a statement comes from one walk
over its tree, its effects from a second one that starts from the first; both are
then joined over the statements of a script.
-/

import Bookie.Policy.TokenEffects
import Bookie.Sql.Ast

namespace Bookie.Policy

open Sql

structure StatementDetails where
  cls : StatementClass
  effects : Effects
  tables : List String
  hasWhere : Bool
  containsUnscopedDml : Bool
  deriving DecidableEq, Repr

/-- What the classifier asks of predicates and options. -/
structure Lookups where
  isConstantTrue : Expr → Bool
  analyzeOptionEnabled : List UtilityOption → Bool

/-- The statements with an administrative effect whatever their class is. -/
def isAdministrativeStatement : Statement → Bool
  | .grant _ | .revoke _ | .kill => true
  | .schema statement =>
    statement == .createRole || statement == .alterRole || statement == .createDatabase ||
      statement == .createExtension || statement == .dropExtension
  | .host statement => statement == .install || statement == .load
  | _ => false

def isTruncate : Statement → Bool
  | .truncate _ => true
  | _ => false

def isQuery : Statement → Bool
  | .query _ => true
  | _ => false

def statementReads (statement : Statement) (facts : StatementDetails) : Bool :=
  facts.cls == .select ||
    match statement with
    | .query _ | .explainTable _ => true
    | .insert _ source => source.isSome
    | .update _ _ _ | .delete _ _ _ _ | .merge _ => true
    | .createTable _ query => query.isSome
    | .createView _ => true
    | .copy _ _ _ => true
    | _ => false

def readEffects (statement : Statement) (facts : StatementDetails) : Effects :=
  if statementReads statement facts then .reads else .empty

def writesRowsByForm : Statement → Bool
  | .insert _ _ | .truncate _ | .update _ _ _ | .delete _ _ _ _ => true
  | .copy _ toTarget _ => !toTarget
  | _ => false

def writeEffects (statement : Statement) (facts : StatementDetails) : Effects :=
  let writesRows := facts.effects.contains .writesRows || writesRowsByForm statement
  let writesSchema := facts.effects.contains .writesSchema ||
    (facts.cls == .ddl && !isTruncate statement)
  let unknown := facts.effects.contains .unknown ||
    (facts.cls == .other && !isQuery statement)
  ((Effects.empty.unionIf .writesRows writesRows).unionIf .writesSchema writesSchema).unionIf
    .unknown unknown

def administrativeEffects (statement : Statement) (facts : StatementDetails) : Effects :=
  if facts.cls == .administrative || isAdministrativeStatement statement then .admin else .empty

def transactionEffects (statement : Statement) (facts : StatementDetails) : Effects :=
  let setsTransaction := match statement with
    | .set .setTransaction => true
    | _ => false
  if facts.cls == .transaction || setsTransaction then .transactionControl else .empty

def sessionEffects : Statement → Effects
  | .set _ | .session _ => .sessionState
  | _ => .empty

def reachesTheHost : CopyTarget → Bool
  | .file _ | .program _ => true
  | _ => false

def hostAccessEffects : Statement → Effects
  | .copy _ _ target => if reachesTheHost target then .hostOrFileAccess else .empty
  | .host _ => .hostOrFileAccess
  | _ => .empty

def statementEffects (statement : Statement) (facts : StatementDetails) : Effects :=
  ((((readEffects statement facts).union (writeEffects statement facts)).union
    (administrativeEffects statement facts)).union (transactionEffects statement facts)).union
    (sessionEffects statement) |>.union (hostAccessEffects statement)

def withEffects (statement : Statement) (facts : StatementDetails) : StatementDetails :=
  { facts with effects := facts.effects.union (statementEffects statement facts) }

def plainDetails (cls : StatementClass) (tables : List String) : StatementDetails :=
  { cls := cls
    effects := .empty
    tables := tables
    hasWhere := true
    containsUnscopedDml := false }

def ddlFacts (tables : List String) : StatementDetails := plainDetails .ddl tables

def truncateFacts (tables : List String) : StatementDetails :=
  { cls := .ddl
    effects := .writesRows
    tables := tables
    hasWhere := false
    containsUnscopedDml := true }

def grantObjectNames : GrantObjects → List String
  | .tables names | .views names | .schemas names | .databases names => names
  | .other => []

/-- An UPDATE or DELETE; one without a condition that can fail is unscoped. -/
def changeDetails (lookups : Lookups) (cls : StatementClass) (tables : List String)
    (selection : Option Expr) : StatementDetails :=
  { cls := cls
    effects := .empty
    tables := tables
    hasWhere := selection.isSome
    containsUnscopedDml := selection.all lookups.isConstantTrue }

/-- A query over its parts: those of WITH, the body and the locking clauses. -/
def queryDetails (ctes : List StatementDetails) (body : StatementDetails) (locks : List String) :
    StatementDetails :=
  let parts := ctes ++ [body]
  let locking := !locks.isEmpty
  let writes := parts.any (fun part => part.cls.isWrite) || locking
  let administrative := parts.any fun part => part.cls == .administrative
  let effects := parts.foldl (fun effects part => Effects.union effects part.effects) Effects.empty
  let unscoped := parts.any fun part => part.containsUnscopedDml
  { cls := if administrative then .administrative else if writes then .other else .select
    effects := effects.unionIf .writesRows locking
    tables := parts.flatMap fun part => part.tables
    hasWhere := !unscoped
    containsUnscopedDml := unscoped }

def setOperationDetails (left right : StatementDetails) : StatementDetails :=
  { cls :=
      if left.cls == .administrative || right.cls == .administrative then .administrative
      else if left.cls.isWrite || right.cls.isWrite then .other
      else .select
    effects := left.effects.union right.effects
    tables := left.tables ++ right.tables
    hasWhere := left.hasWhere && right.hasWhere
    containsUnscopedDml := left.containsUnscopedDml || right.containsUnscopedDml }

/-- The body of a query that is neither a statement, a query nor a set operation. -/
def leafDetails (administrative writes : Bool) (tables : List String) : StatementDetails :=
  { cls := if administrative then .administrative else if writes then .other else .select
    effects := if administrative then .admin else if writes then .unknown else .reads
    tables := tables
    hasWhere := true
    containsUnscopedDml := false }

def explainDetails (inner : StatementDetails) (executes : Bool) : StatementDetails :=
  if executes then inner else plainDetails .select inner.tables

def hasArgumentList : FunctionArguments → Bool
  | .list _ => true
  | _ => false

/-! ### The walk over a tree -/

section Walk

variable (lookups : Lookups)

mutual

/-- The class of a statement and what its tree says; `classifyStatement` adds the effects. -/
def statementDetails : Statement → StatementDetails
  | .show _ => plainDetails .select []
  | .query query => classifyQuery query
  | .insert table _ => plainDetails .insert (tableObjectNames table)
  | .update table from_ selection =>
    changeDetails lookups .update (tableWithJoinsNames table ++ tablesNames from_) selection
  | .delete tables from_ using_ selection =>
    changeDetails lookups .delete (tables ++ tablesNames from_ ++ tablesNames using_) selection
  | .createTable name _ | .createView name | .alterTable name => ddlFacts [name]
  | .createIndex name tableName => ddlFacts [name.getD tableName]
  | .renameTable names | .drop names => ddlFacts names
  | .truncate names => truncateFacts names
  | .schema _ => ddlFacts []
  | .createFunction name => ddlFacts [name]
  | .grant objects | .revoke objects => ddlFacts ((objects.map grantObjectNames).getD [])
  | .merge table => plainDetails .other (tableFactorNames table)
  | .kill => plainDetails .administrative []
  | .startTransaction _ _ | .commit _ | .rollback _ _ => plainDetails .transaction []
  | .explain analyze statement options =>
    explainDetails (withEffects statement (statementDetails statement))
      (analyze || (options.any lookups.analyzeOptionEnabled))
  | .explainTable name => plainDetails .select [name]
  | .copy source _ target =>
    plainDetails (if reachesTheHost target then .administrative else .other)
      (copySourceNames source)
  | .set _ | .session _ | .host _ | .other => plainDetails .other []

def classifyQuery : Query → StatementDetails
  | .mk ctes body locks => queryDetails (classifyQueries ctes) (classifySetExpr body) locks

def classifyQueries : List Query → List StatementDetails
  | [] => []
  | query :: queries => classifyQuery query :: classifyQueries queries

def classifySetExpr : SetExpr → StatementDetails
  | .insert statement | .update statement | .delete statement =>
    withEffects statement (statementDetails statement)
  | .query query => classifyQuery query
  | .setOperation left right => setOperationDetails (classifySetExpr left) (classifySetExpr right)
  | .select select => selectDetails select
  | .values | .table => leafDetails false false []
  | .merge statement => leafDetails false true (statementDetails statement).tables

/-- A SELECT is administrative by its projection, and a write by what it selects into or by
a write in a subquery. -/
def selectDetails : Select → StatementDetails
  | .mk projection into tables selection having =>
    let administrative := itemsAreAdministrative projection
    let writes := into.isSome || tablesDeriveWrites tables || constraintsWrite tables ||
      optionWrites selection || optionWrites having || itemsWrite projection
    leafDetails administrative (writes || administrative) (tablesNames tables)

-- names

def tableObjectNames : TableObject → List String
  | .tableName name | .tableFunction name => [name]
  | .tableQuery query => (classifyQuery query).tables

def copySourceNames : CopySource → List String
  | .table name => [name]
  | .query query => (classifyQuery query).tables

def tableFactorNames : TableFactor → List String
  | .table name => [name]
  | .derived query => (classifyQuery query).tables
  | .nestedJoin relation joins => tableFactorNames relation ++ joinsNames joins
  | .other => []

def joinNames : Join → List String
  | .mk relation _ => tableFactorNames relation

def joinsNames : List Join → List String
  | [] => []
  | join :: joins => joinNames join ++ joinsNames joins

def tableWithJoinsNames : TableWithJoins → List String
  | .mk relation joins => tableFactorNames relation ++ joinsNames joins

def tablesNames : List TableWithJoins → List String
  | [] => []
  | table :: tables => tableWithJoinsNames table ++ tablesNames tables

-- writes in subqueries

/-- The relation is a subquery that writes. -/
def factorDerivesWrites : TableFactor → Bool
  | .derived query => (classifyQuery query).cls.isWrite
  | _ => false

def joinDerivesWrites : Join → Bool
  | .mk relation _ => factorDerivesWrites relation

def joinsDeriveWrites : List Join → Bool
  | [] => false
  | join :: joins => joinDerivesWrites join || joinsDeriveWrites joins

def tableDerivesWrites : TableWithJoins → Bool
  | .mk relation joins => factorDerivesWrites relation || joinsDeriveWrites joins

def tablesDeriveWrites : List TableWithJoins → Bool
  | [] => false
  | table :: tables => tableDerivesWrites table || tablesDeriveWrites tables

def joinConstraintWrites : Join → Bool
  | .mk _ on => optionWrites on

def joinConstraintsWrite : List Join → Bool
  | [] => false
  | join :: joins => joinConstraintWrites join || joinConstraintsWrite joins

def tableConstraintsWrite : TableWithJoins → Bool
  | .mk _ joins => joinConstraintsWrite joins

def constraintsWrite : List TableWithJoins → Bool
  | [] => false
  | table :: tables => tableConstraintsWrite table || constraintsWrite tables

def exprWrites : Expr → Bool
  | .subquery query | .exists query => (classifyQuery query).cls.isWrite
  | .binaryOp _ left right | .distinctFrom left right => exprWrites left || exprWrites right
  | .unaryOp _ expr | .nested expr | .wrapped _ expr => exprWrites expr
  | .inSubquery expr query => exprWrites expr || (classifyQuery query).cls.isWrite
  | .inList expr list => exprWrites expr || exprsWrite list
  | .between expr low high => exprWrites expr || exprWrites low || exprWrites high
  | .pattern _ expr pattern => exprWrites expr || exprWrites pattern
  | .tuple items => exprsWrite items
  -- the filter of a call is looked at only where its arguments are a list
  | .function _ args filter => argumentsWrite args || (hasArgumentList args && optionWrites filter)
  | .case operand conditions elseResult =>
    optionWrites operand || casesWrite conditions || optionWrites elseResult
  | .other _ => false

def exprsWrite : List Expr → Bool
  | [] => false
  | expr :: exprs => exprWrites expr || exprsWrite exprs

def optionWrites : Option Expr → Bool
  | none => false
  | some expr => exprWrites expr

def caseWrites : CaseWhen → Bool
  | .mk condition result => exprWrites condition || exprWrites result

def casesWrite : List CaseWhen → Bool
  | [] => false
  | condition :: conditions => caseWrites condition || casesWrite conditions

def argumentsWrite : FunctionArguments → Bool
  | .none => false
  | .subquery query => (classifyQuery query).cls.isWrite
  | .list args => argsWrite args

def argWrites : FunctionArg → Bool
  | .expr expr => exprWrites expr
  | .wildcard => false

def argsWrite : List FunctionArg → Bool
  | [] => false
  | arg :: args => argWrites arg || argsWrite args

def itemWrites : SelectItem → Bool
  | .expr expr => exprWrites expr
  | .wildcard => false

def itemsWrite : List SelectItem → Bool
  | [] => false
  | item :: items => itemWrites item || itemsWrite items

-- administrative calls in a projection

def exprIsAdministrative : Expr → Bool
  | .function name args _ =>
    isAdministrativeFunctionName name || argumentsAreAdministrative args
  | .subquery query => (classifyQuery query).cls == .administrative
  | .binaryOp _ left right => exprIsAdministrative left || exprIsAdministrative right
  | .unaryOp _ expr | .nested expr => exprIsAdministrative expr
  | .case operand conditions elseResult =>
    optionIsAdministrative operand || casesAreAdministrative conditions ||
      optionIsAdministrative elseResult
  | _ => false

def optionIsAdministrative : Option Expr → Bool
  | none => false
  | some expr => exprIsAdministrative expr

def caseIsAdministrative : CaseWhen → Bool
  | .mk condition result => exprIsAdministrative condition || exprIsAdministrative result

def casesAreAdministrative : List CaseWhen → Bool
  | [] => false
  | condition :: conditions =>
    caseIsAdministrative condition || casesAreAdministrative conditions

def argumentsAreAdministrative : FunctionArguments → Bool
  | .none => false
  | .subquery query => (classifyQuery query).cls == .administrative
  | .list args => argsAreAdministrative args

def argIsAdministrative : FunctionArg → Bool
  | .expr expr => exprIsAdministrative expr
  | .wildcard => false

def argsAreAdministrative : List FunctionArg → Bool
  | [] => false
  | arg :: args => argIsAdministrative arg || argsAreAdministrative args

def itemIsAdministrative : SelectItem → Bool
  | .expr expr => exprIsAdministrative expr
  | .wildcard => false

def itemsAreAdministrative : List SelectItem → Bool
  | [] => false
  | item :: items => itemIsAdministrative item || itemsAreAdministrative items

end

def classifyStatement (statement : Statement) : StatementDetails :=
  withEffects statement (statementDetails lookups statement)

end Walk

/-! ### Scripts -/

def mergeScriptClass (current next : StatementClass) : StatementClass :=
  if current == .administrative || next == .administrative then .administrative
  else if current == .select then next
  else if next == .select || current == next then current
  else .other

/-- What the loop over the statements of a script has found so far. -/
structure ScriptFacts where
  cls : StatementClass
  effects : Effects
  writes : Bool
  tables : List String
  hasWhere : Bool
  containsUnscopedDml : Bool

def ScriptFacts.start (effects : Effects) : ScriptFacts :=
  { cls := .select
    effects := effects
    writes := false
    tables := []
    hasWhere := true
    containsUnscopedDml := false }

def addTables (tables more : List String) : List String :=
  more.foldl
    (fun tables table => if tables.contains table then tables else tables ++ [table]) tables

def ScriptFacts.add (script : ScriptFacts) (facts : StatementDetails) : ScriptFacts :=
  { cls := mergeScriptClass script.cls facts.cls
    effects := script.effects.union facts.effects
    writes := script.writes || facts.cls.isWrite
    tables := addTables script.tables facts.tables
    hasWhere :=
      if facts.cls == .update || facts.cls == .delete then script.hasWhere && facts.hasWhere
      else script.hasWhere
    containsUnscopedDml := script.containsUnscopedDml || facts.containsUnscopedDml }

def ScriptFacts.finish (script : ScriptFacts) (containsAdministrativeCall isMulti : Bool) :
    StatementFacts :=
  let cls := if containsAdministrativeCall then .administrative else script.cls
  let writes := script.writes || containsAdministrativeCall
  { cls := if writes && cls == .select then .other else cls
    effects := script.effects
    tables := script.tables
    hasWhere := script.hasWhere
    containsUnscopedDml := script.containsUnscopedDml
    isMultiStatement := isMulti
    parseError := none }

def classifyStatements (lookups : Lookups) (statements : List Statement) (effects : Effects)
    (containsAdministrativeCall : Bool) : StatementFacts :=
  let script := statements.foldl
    (fun script statement => script.add (classifyStatement lookups statement))
    (ScriptFacts.start effects)
  script.finish containsAdministrativeCall (decide (1 < statements.length))

end Bookie.Policy
