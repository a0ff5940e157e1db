/-
Previews of writes, in a transaction that is rolled back. That undoes nothing in a table
whose storage engine has no transactions, so on MySQL the engines are asked for first, by
the tables' bare names and in the current database.
-/

import Bookie.Core.Driver
import Bookie.Policy.Effects

namespace Bookie.Mcp.Preview

open Bookie.Core Policy List

variable (classify : String → String → StatementFacts)

/-- `rsplit('.').next()`. -/
def afterLastDot (table : List Char) : List Char :=
  (table.reverse.takeWhile (· != '.')).reverse

/-- `trim_matches`. -/
def trimMatches (c : Char) (text : List Char) : List Char :=
  ((text.dropWhile (· == c)).reverse.dropWhile (· == c)).reverse

/-- The name a table is looked up by: what follows the last dot, without its outer backquotes. -/
def bareName (table : String) : List Char := trimMatches '`' (afterLastDot table.toList)

def namesList (names : List (List Char)) : List Char :=
  ", ".toList.intercalate (names.map fun name =>
    '\'' :: ((name.flatMap fun c => if c == '\'' then ['\'', '\''] else [c]) ++ ['\'']))

def engineQuery (names : List (List Char)) : List Char :=
  ("SELECT COUNT(*) FROM information_schema.tables WHERE table_schema = DATABASE() " ++
    "AND table_name IN (").toList ++ namesList names ++
  ") AND UPPER(COALESCE(engine, '')) NOT IN ('INNODB', 'NDB', 'NDBCLUSTER')".toList

def nontransactionalEngineQuery (driverId sql : String) : Option (List Char) :=
  if driverId != "mysql" then none
  else
    match (classify sql driverId).tables with
    | [] => none
    | table :: tables => some (engineQuery ((table :: tables).map bareName))

structure Replies where
  begin : Except DriverError Unit
  driverId : Except String String
  query : List Char → Except DriverError QueryResult
  execute : String → Except DriverError ExecResult
  rollback : Except DriverError Unit

def touchesNontransactionalTable (replies : Replies) (driverId sql : String) : Bool :=
  match nontransactionalEngineQuery classify driverId sql with
  | none => false
  | some query =>
    match replies.query query with
    | .ok result => (result.rows.head?.bind List.head?) != some (.int 0)
    | .error _ => true

def refused (replies : Replies) (sql : String) : Bool :=
  match replies.driverId with
  | .ok driverId => touchesNontransactionalTable classify replies driverId sql
  | .error _ => true

inductive PreviewError where
  | notBegun (error : DriverError)
  | rollbackFailed (error : DriverError)
  | notTransactional
  | failed (error : DriverError)

/-- The part of `execute_write_structured` that previews: the statements it executes, and the rows
they affect. -/
def previewWrite (replies : Replies) (sql : String) : List String × Except PreviewError Nat :=
  match replies.begin with
  | .error error => ([], .error (.notBegun error))
  | .ok () =>
    let refused := refused classify replies sql
    let result := if refused then .error .readOnly else replies.execute sql
    let executed := if refused then [] else [sql]
    match replies.rollback with
    | .error error => (executed, .error (.rollbackFailed error))
    | .ok () =>
      if refused then (executed, .error .notTransactional)
      else
        match result with
        | .ok result => (executed, .ok result.rowsAffected)
        | .error error => (executed, .error (.failed error))

structure Table where
  schema : List Char
  name : List Char
  engine : Option (List Char)

def Table.isTransactional (table : Table) : Bool :=
  ["INNODB".toList, "NDB".toList, "NDBCLUSTER".toList].contains
    ((table.engine.getD []).map Char.toUpper)

/-- How the server reads what it is sent: which names are the same to it, which table a printed
name stands for, and the value of a literal whose quotes are doubled, unless the literal does not
end where it is closed. -/
structure Server where
  database : List Char
  same : List Char → List Char → Prop
  equivalence : Equivalence same
  resolves : String → List Char × List Char
  literal : List Char → Option (List Char)

namespace Server

variable (server : Server)

def Denotes (listed : String) (table : Table) : Prop :=
  server.same table.schema (server.resolves listed).1 ∧
    server.same table.name (server.resolves listed).2

def Counts (names : List (List Char)) (table : Table) : Prop :=
  server.same table.schema server.database ∧ (∃ name ∈ names, server.same table.name name) ∧
    table.isTransactional = false

/-- The query about the asked names is refused, or answered with the number of the tables that
count. Nothing is known of the answer where one of its literals does not end. -/
def Answers (asked : List (List Char)) (tables : List Table)
    (query : List Char → Except DriverError QueryResult) : Prop :=
  ∀ names result, asked.map server.literal = names.map some →
    query (engineQuery asked) = .ok result →
    ∃ count : Nat, result.rows.head?.bind head? = some (.int count) ∧
      (count = 0 ↔ ∀ table ∈ tables, ¬ server.Counts names table)

/-- Every listed table is in the current database, and its name is looked up: it is what the server
reads for the bare name of a listed table. -/
def AsksFor (listed : List String) : Prop :=
  ∀ table ∈ listed, (server.literal (bareName table)).isSome ∧
    server.same (server.resolves table).1 server.database ∧
    ∃ other ∈ listed, ∃ name ∈ server.literal (bareName other),
      server.same (server.resolves table).2 name

end Server

variable {classify} {replies : Replies} {sql : String}

private theorem mem_previewWrite : sql ∈ (previewWrite classify replies sql).1 ↔
    replies.begin = .ok () ∧ refused classify replies sql = false := by
  unfold previewWrite
  cases replies.begin with
  | error => simp
  | ok =>
    cases replies.rollback <;> cases refused classify replies sql <;> cases replies.execute sql <;>
      simp

/-- On MySQL the preview goes on just where the answer to the query is zero. -/
private theorem refused_eq_false_iff (mysql : replies.driverId = .ok "mysql")
    (listed : (classify sql "mysql").tables ≠ []) :
    refused classify replies sql = false ↔
      ∃ result, replies.query (engineQuery ((classify sql "mysql").tables.map bareName)) =
        .ok result ∧ result.rows.head?.bind head? = some (.int 0) := by
  obtain ⟨table, rest, tablesOf⟩ := exists_cons_of_ne_nil listed
  simp only [refused, mysql, touchesNontransactionalTable, nontransactionalEngineQuery, tablesOf,
    bne_self_eq_false, Bool.false_eq_true, if_false]
  cases replies.query (engineQuery ((table :: rest).map bareName)) <;> simp

/-- A preview leaves tables without transactions alone, whatever engines the tables have, just
where the query for the engines asks about every table of the statement. -/
theorem preview_transactional_iff (classify : String → String → StatementFacts)
    (server : Server) (sql : String) :
    (∀ (tables : List Table) (replies : Replies),
      (∀ driverId, replies.driverId = .ok driverId → driverId = "mysql") →
      server.Answers ((classify sql "mysql").tables.map bareName) tables replies.query →
      sql ∈ (previewWrite classify replies sql).1 →
        ∀ listed ∈ (classify sql "mysql").tables, ∀ table ∈ tables,
          server.Denotes listed table → table.isTransactional = true) ↔
      server.AsksFor (classify sql "mysql").tables := by
  constructor
  · intro safe listed member
    -- a table without transactions where the statement writes, and no other table
    let table : Table :=
      ⟨(server.resolves listed).1, (server.resolves listed).2, some "MyISAM".toList⟩
    let replies : Replies :=
      ⟨.ok (), .ok "mysql", fun _ => .ok ⟨[], [[.int 0]], false⟩, fun _ => .ok ⟨0⟩, .ok ()⟩
    by_contra missed
    have uncounted : server.Answers ((classify sql "mysql").tables.map bareName) [table]
        replies.query := by
      rintro names result read ⟨⟩
      have literal : ∀ value, value ∈ names.map some ↔
          ∃ other ∈ (classify sql "mysql").tables, server.literal (bareName other) = value := by
        simp [← read]
      refine ⟨0, rfl, fun _ => forall_mem_singleton.mpr ?_, fun _ => rfl⟩
      rintro ⟨here, ⟨name, asked, named⟩, -⟩
      obtain ⟨own, -, isOwn⟩ := mem_map.mp ((literal _).mpr ⟨listed, member, rfl⟩)
      obtain ⟨other, isOther, reads⟩ := (literal _).mp (mem_map_of_mem asked)
      exact missed ⟨isOwn ▸ rfl, here, other, isOther, name, reads, named⟩
    have executed : sql ∈ (previewWrite classify replies sql).1 :=
      mem_previewWrite.mpr ⟨rfl, (refused_eq_false_iff rfl (ne_nil_of_mem member)).mpr
        ⟨_, rfl, rfl⟩⟩
    have transactional := safe [table] replies (fun _ same => (Except.ok.inj same).symm) uncounted
      executed listed member table mem_cons_self
      ⟨server.equivalence.refl _, server.equivalence.refl _⟩
    cases transactional
  intro asks tables replies mysql answers executed listed member table isTable same
  have goesOn := (mem_previewWrite.mp executed).2
  have known : replies.driverId = .ok "mysql" := by
    cases driver : replies.driverId with
    | error => rw [refused, driver] at goesOn; cases goesOn
    | ok driverId => rw [mysql driverId driver]
  obtain ⟨result, replied, zero⟩ :=
    (refused_eq_false_iff known (ne_nil_of_mem member)).mp goesOn
  let names := (classify sql "mysql").tables.map fun table =>
    (server.literal (bareName table)).getD []
  have read : ((classify sql "mysql").tables.map bareName).map server.literal =
      names.map some := by
    simp only [names, map_map]
    refine map_congr_left fun table isListed => ?_
    obtain ⟨value, reads⟩ := Option.isSome_iff_exists.mp (asks table isListed).1
    simp [reads]
  obtain ⟨count, shown, counted⟩ := answers names result read replied
  have isZero : count = 0 := by
    rw [zero] at shown
    injection shown with shown
    injection shown with shown
    exact (Int.ofNat_eq_zero.mp shown.symm)
  obtain ⟨-, here, other, isOther, name, reads, named⟩ := asks listed member
  by_contra plain
  refine counted.mp isZero table isTable
    ⟨server.equivalence.trans same.1 here, ⟨name, ?_, server.equivalence.trans same.2 named⟩,
      (Bool.not_eq_true _).mp plain⟩
  have asked : some name ∈ names.map some := by
    rw [← read, map_map, ← Option.mem_def.mp reads]
    exact mem_map_of_mem isOther
  simpa using asked

def plainServer : Server where
  database := "app".toList
  same := Eq
  equivalence := eq_equivalence
  resolves listed :=
    let name := afterLastDot listed.toList
    if name = listed.toList then ("app".toList, name)
    else (listed.toList.take (listed.length - name.length - 1), name)
  literal := some

def visitsUpdate : StatementFacts where
  cls := .update
  effects := .writesRows
  tables := ["log.visits"]
  hasWhere := false
  containsUnscopedDml := true
  isMultiStatement := false
  parseError := none

/-- The preview of an update of a MyISAM table outside the current database is executed. -/
theorem preview_writes_other_database :
    ∃ table replies, replies.driverId = .ok "mysql" ∧
      plainServer.Answers ["visits".toList] [table] replies.query ∧
      "UPDATE log.visits SET n = 0" ∈
        (previewWrite (fun _ _ => visitsUpdate) replies "UPDATE log.visits SET n = 0").1 ∧
      plainServer.Denotes "log.visits" table ∧ table.isTransactional = false := by
  refine ⟨⟨"log".toList, "visits".toList, some "MyISAM".toList⟩,
    ⟨.ok (), .ok "mysql", fun _ => .ok ⟨[], [[.int 0]], false⟩, fun _ => .ok ⟨1⟩, .ok ()⟩, rfl, ?_,
    ?_, ⟨show _ = _ by decide, show _ = _ by decide⟩, by decide⟩
  · rintro names result - ⟨⟩
    refine ⟨0, rfl, fun _ => forall_mem_singleton.mpr fun counted => ?_, fun _ => rfl⟩
    exact absurd counted.1 (show _ ≠ _ by decide)
  · exact mem_previewWrite.mpr ⟨rfl, (refused_eq_false_iff rfl (by decide)).mpr ⟨_, rfl, rfl⟩⟩

end Bookie.Mcp.Preview
