/-
How many rows a mutation would affect, as far as its parsed text tells: the tuples of
an INSERT, or a counting query made from the statement's parts. Of a parsed statement
only what the rewrite reads is kept, expressions and relations as their texts.
-/

import Bookie.Policy.Effects

namespace Bookie.Policy

structure Relation where
  text : String
  tables : List String
  deriving DecidableEq, Repr

inductive InsertTarget where
  | tableName (name : String)
  | tableFunction (name : String)
  | tableQuery
  deriving DecidableEq, Repr

inductive InsertBody where
  | absent
  | values (tuples : Nat)
  | query (text : String)
  deriving DecidableEq, Repr

inductive Mutation where
  | update (table : Relation) (more : List Relation) (selection : Option String)
  | delete (relations using_ : List Relation) (selection : Option String)
  | insert (target : InsertTarget) (body : InsertBody)
  | other
  deriving DecidableEq, Repr

def countFn (driverId : String) : String :=
  if driverId == "mssql" then "COUNT_BIG(*)" else "count(*)"

def buildCountSql (relations : List Relation) (selection : Option String) (driverId : String) :
    BlastRadiusResult :=
  { countSql := "SELECT " ++ countFn driverId ++ " FROM " ++
      String.intercalate ", " (relations.map (fun relation => relation.text)) ++
      (selection.elim "" (fun condition => " WHERE " ++ condition))
    tables := relations.flatMap (fun relation => relation.tables) }

def countSqlForInsert (target : InsertTarget) (body : InsertBody) (driverId : String) :
    Option BlastRadiusRewrite :=
  let rewrite (name : String) : BlastRadiusRewrite :=
    match body with
    | .absent => .known 1
    | .values tuples => .known tuples
    | .query text => .countQuery
        { countSql := "SELECT " ++ countFn driverId ++ " FROM (" ++ text ++
            ") AS blast_radius_estimate"
          tables := [name] }
  match target with
  | .tableName name => some (rewrite name)
  | .tableFunction name => some (rewrite name)
  | .tableQuery => none

def rewriteForStatement (driverId : String) : Mutation → Option BlastRadiusRewrite
  | .update table more selection =>
    some (.countQuery (buildCountSql (table :: more) selection driverId))
  | .delete relations using_ selection =>
    some (.countQuery (buildCountSql (relations ++ using_) selection driverId))
  | .insert target body => countSqlForInsert target body driverId
  | .other => none

def knownRows : Option BlastRadiusRewrite → Option Nat
  | some (.known rows) => some rows
  | _ => none

def totalRows (rows : List (Option Nat)) : Option Nat :=
  if rows.all Option.isSome then some (rows.filterMap id).sum else none

def analyzeBlastRadius (statements : List Mutation) (driverId : String) :
    Option BlastRadiusRewrite × List (Option Nat) :=
  match statements with
  | [] => (none, [])
  | [statement] =>
    let rewrite := rewriteForStatement driverId statement
    (rewrite, [knownRows rewrite])
  | _ =>
    let rows := statements.map (fun statement =>
      knownRows (rewriteForStatement driverId statement))
    ((totalRows rows).map .known, rows)

theorem analyzeBlastRadius_rows (statements : List Mutation) (driverId : String) :
    (analyzeBlastRadius statements driverId).2 =
      statements.map (fun statement => knownRows (rewriteForStatement driverId statement)) := by
  match statements with
  | [] => rfl
  | [statement] => rfl
  | _ :: _ :: _ => rfl

/-- An INSERT affects as many rows as it has tuples; any other statement may affect any rows. -/
def Mutation.Affects (rows : Nat) : Mutation → Prop
  | .insert _ .absent => rows = 1
  | .insert _ (.values tuples) => rows = tuples
  | _ => True

theorem affects_known {driverId : String} {statement : Mutation} {rows known : Nat}
    (affects : statement.Affects rows)
    (rewritten : knownRows (rewriteForStatement driverId statement) = some known) :
    rows = known := by
  cases statement with
  | update | delete | other => cases rewritten
  | insert target body =>
    cases target <;> cases body <;> cases rewritten <;> exact affects

end Bookie.Policy
