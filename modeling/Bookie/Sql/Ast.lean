/-
The syntax trees the classifier reads: what some function of the policy looks at. A
constructor the policy does not tell apart from others of its kind is one value of an
enumeration.
-/

namespace Bookie.Sql

abbrev ObjectName := String

inductive CopyTarget where
  | stdin
  | stdout
  | file (name : String)
  | program (command : String)
  deriving DecidableEq, Repr

inductive TransactionAccessMode where
  | readOnly
  | readWrite
  deriving DecidableEq, Repr

inductive TransactionIsolationLevel where
  | readUncommitted
  | readCommitted
  | repeatableRead
  | serializable
  | snapshot
  deriving DecidableEq, Repr

inductive TransactionMode where
  | accessMode (mode : TransactionAccessMode)
  | isolationLevel (level : TransactionIsolationLevel)
  deriving DecidableEq, Repr

inductive GrantObjects where
  | tables (names : List ObjectName)
  | views (names : List ObjectName)
  | schemas (names : List ObjectName)
  | databases (names : List ObjectName)
  | other
  deriving DecidableEq, Repr

inductive SchemaStatement where
  | createVirtualTable
  | createRole
  | createSecret
  | createServer
  | createPolicy
  | createConnector
  | alterIndex
  | alterView
  | alterType
  | alterRole
  | alterPolicy
  | alterConnector
  | dropFunction
  | dropDomain
  | dropProcedure
  | dropSecret
  | dropPolicy
  | dropConnector
  | createExtension
  | dropExtension
  | comment
  | createSchema
  | createDatabase
  | createTrigger
  | dropTrigger
  | createProcedure
  | createMacro
  | createStage
  | deny
  | createSequence
  | createDomain
  | createType
  deriving DecidableEq, Repr

inductive ShowStatement where
  | variable
  | status
  | variables
  | create
  | columns
  | catalogs
  | databases
  | processList
  | schemas
  | charset
  | objects
  | tables
  | views
  | collation
  deriving DecidableEq, Repr

inductive SessionStatement where
  | use
  | pragma
  | discard
  | declare
  | deallocate
  | execute
  | prepare
  | open
  | fetch
  | close
  deriving DecidableEq, Repr

inductive HostStatement where
  | install
  | load
  | directory
  | unload
  | copyIntoSnowflake
  deriving DecidableEq, Repr

inductive SetStatement where
  | setTransaction
  | other
  deriving DecidableEq, Repr

structure UtilityOption where
  name : String
  arg : Option String
  deriving DecidableEq, Repr

mutual

inductive Expr where
  | function (name : ObjectName) (args : FunctionArguments) (filter : Option Expr)
  | subquery (query : Query)
  | binaryOp (operator : String) (left right : Expr)
  | unaryOp (operator : String) (expr : Expr)
  | nested (expr : Expr)
  | exists (subquery : Query)
  | inSubquery (expr : Expr) (subquery : Query)
  | inList (expr : Expr) (list : List Expr)
  | between (expr low high : Expr)
  -- a cast, a test such as IS NULL or IS TRUE, or a collation
  | wrapped (kind : String) (expr : Expr)
  -- LIKE, ILIKE and SIMILAR TO
  | pattern (kind : String) (expr pattern : Expr)
  -- IS [NOT] DISTINCT FROM
  | distinctFrom (left right : Expr)
  | tuple (items : List Expr)
  | case (operand : Option Expr) (conditions : List CaseWhen) (elseResult : Option Expr)
  -- an expression in which the policy does not look for subqueries
  | other (text : String)

inductive FunctionArguments where
  | none
  | subquery (query : Query)
  | list (args : List FunctionArg)

inductive FunctionArg where
  | expr (expr : Expr)
  | wildcard

inductive CaseWhen where
  | mk (condition result : Expr)

inductive SelectItem where
  | expr (expr : Expr)
  | wildcard

inductive TableFactor where
  | table (name : ObjectName)
  | derived (subquery : Query)
  | nestedJoin (relation : TableFactor) (joins : List Join)
  | other

inductive Join where
  | mk (relation : TableFactor) (on : Option Expr)

inductive TableWithJoins where
  | mk (relation : TableFactor) (joins : List Join)

inductive Select where
  | mk (projection : List SelectItem) (into : Option ObjectName) (tables : List TableWithJoins)
      (selection having : Option Expr)

inductive SetExpr where
  | select (select : Select)
  | query (query : Query)
  | setOperation (left right : SetExpr)
  | values
  | table
  | insert (statement : Statement)
  | update (statement : Statement)
  | delete (statement : Statement)
  | merge (statement : Statement)

inductive Query where
  | mk (ctes : List Query) (body : SetExpr) (locks : List String)

inductive TableObject where
  | tableName (name : ObjectName)
  | tableFunction (name : ObjectName)
  | tableQuery (query : Query)

inductive CopySource where
  | table (name : ObjectName)
  | query (query : Query)

inductive Statement where
  | query (query : Query)
  | insert (table : TableObject) (source : Option Query)
  | update (table : TableWithJoins) (from_ : List TableWithJoins) (selection : Option Expr)
  | delete (tables : List ObjectName) (from_ using_ : List TableWithJoins) (selection : Option Expr)
  | createTable (name : ObjectName) (query : Option Query)
  | createView (name : ObjectName)
  | createIndex (name : Option ObjectName) (tableName : ObjectName)
  | alterTable (name : ObjectName)
  | renameTable (oldNames : List ObjectName)
  | drop (names : List ObjectName)
  | truncate (names : List ObjectName)
  | schema (statement : SchemaStatement)
  | createFunction (name : ObjectName)
  | grant (objects : Option GrantObjects)
  | revoke (objects : Option GrantObjects)
  | merge (table : TableFactor)
  | kill
  | startTransaction (modes : List TransactionMode) (hasBody : Bool)
  | commit (chain : Bool)
  | rollback (chain : Bool) (savepoint : Option String)
  | explain (analyze : Bool) (statement : Statement) (options : Option (List UtilityOption))
  | explainTable (name : ObjectName)
  | copy (source : CopySource) (toTarget : Bool) (target : CopyTarget)
  | show (statement : ShowStatement)
  | set (statement : SetStatement)
  | session (statement : SessionStatement)
  | host (statement : HostStatement)
  | other

end

end Bookie.Sql
