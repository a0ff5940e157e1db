/-
Scripts on a shared connection. The scan of the rules decides that the transaction
controls make whole blocks, and an engine that follows them is outside every
transaction at the end and has nested none.
-/

import Bookie.Policy.FrontEnd
import Bookie.Policy.ClassAgreement

namespace Bookie.Policy

open Sql Text TransactionControl

section Grammar

variable (control : String → Option TransactionControl)

def IsBegin (statement : String) : Prop :=
  ∃ start, control statement = some start ∧ start.isBegin = true

/-- COMMIT or ROLLBACK without AND CHAIN. -/
def IsFinish (statement : String) : Prop :=
  control statement = some (.commit false) ∨ control statement = some (.rollback false)

/-- Statements outside any transaction, and blocks of one BEGIN, statements that are not
transaction control and are allowed inside, and one COMMIT or ROLLBACK. -/
inductive Blocks (allowed : String → Prop) : List String → Prop where
  | nil : Blocks allowed []
  | outside {statement : String} {rest : List String} (free : control statement = none)
      (blocks : Blocks allowed rest) : Blocks allowed (statement :: rest)
  | block {start finish : String} {body rest : List String} (begins : IsBegin control start)
      (free : ∀ statement ∈ body, control statement = none)
      (inside : ∀ statement ∈ body, allowed statement)
      (finishes : IsFinish control finish) (blocks : Blocks allowed rest) :
      Blocks allowed (start :: (body ++ finish :: rest))

def BlockRest (allowed : String → Prop) (statements : List String) : Prop :=
  ∃ body finish rest, statements = body ++ finish :: rest ∧
    (∀ statement ∈ body, control statement = none) ∧
    (∀ statement ∈ body, allowed statement) ∧
    IsFinish control finish ∧ Blocks control allowed rest

/-- The statements of a script that stand in an open transaction. -/
def inBlocks : List String → Bool → List String
  | [], _ => []
  | statement :: statements, isOpen =>
    match control statement with
    | some (.commit _) | some (.rollback _) => inBlocks statements false
    | some _ => inBlocks statements true
    | none =>
      if isOpen then statement :: inBlocks statements true
      else inBlocks statements false

variable {control} {allowed : String → Prop} {statement : String} {statements : List String}
  {start : TransactionControl}

private theorem inBlocks_of_begin (read : control statement = some start)
    (begins : start.isBegin = true) (isOpen : Bool) :
    inBlocks control (statement :: statements) isOpen = inBlocks control statements true := by
  cases start <;> simp_all [inBlocks, isBegin]

variable {kind : TransactionControl}

private theorem inBlocks_of_other (read : control statement = some kind)
    (notBegin : kind.isBegin = false) (isOpen : Bool) :
    inBlocks control (statement :: statements) isOpen = inBlocks control statements false := by
  cases kind <;> simp_all [inBlocks, isBegin]

private theorem not_isFinish_of_begin (read : control statement = some start)
    (begins : start.isBegin = true) : ¬ IsFinish control statement := by
  rintro (finish | finish)
  · rw [read] at finish
    cases finish
    cases begins
  · rw [read] at finish
    cases finish
    cases begins

private theorem blocks_nil : Blocks control allowed [] ↔ True := ⟨fun _ => trivial, fun _ => .nil⟩

private theorem blockRest_nil : BlockRest control allowed [] ↔ False := by
  constructor
  · rintro ⟨body, finish, rest, shape, -⟩
    cases body <;> cases shape
  · exact False.elim

/-! One step of reading, by the control of the statement read. -/

private theorem blocks_cons_of_none (free : control statement = none) :
    Blocks control allowed (statement :: statements) ↔ Blocks control allowed statements := by
  constructor
  · intro blocks
    cases blocks with
    | outside _ blocks => exact blocks
    | block begins _ _ _ _ =>
      obtain ⟨start, read, -⟩ := begins
      rw [free] at read
      cases read
  · intro blocks
    exact .outside free blocks

private theorem blocks_cons_of_begin (read : control statement = some start)
    (begins : start.isBegin = true) :
    Blocks control allowed (statement :: statements) ↔ BlockRest control allowed statements := by
  constructor
  · intro blocks
    cases blocks with
    | outside free _ =>
      rw [read] at free
      cases free
    | block _ free inside finishes blocks =>
      exact ⟨_, _, _, rfl, free, inside, finishes, blocks⟩
  · rintro ⟨body, finish, rest, rfl, free, inside, finishes, blocks⟩
    exact .block ⟨start, read, begins⟩ free inside finishes blocks

private theorem blocks_cons_of_other {kind : TransactionControl}
    (read : control statement = some kind) (notBegin : kind.isBegin = false) :
    ¬ Blocks control allowed (statement :: statements) := by
  intro blocks
  cases blocks with
  | outside free _ =>
    rw [read] at free
    cases free
  | block begins _ _ _ _ =>
  obtain ⟨start, readStart, isStart⟩ := begins
  rw [read] at readStart
  cases readStart
  rw [notBegin] at isStart
  cases isStart

private theorem isFinish_some (finishes : IsFinish control statement) :
    control statement ≠ none := by
  intro free
  rcases finishes with commits | rollsBack
  · rw [free] at commits
    cases commits
  · rw [free] at rollsBack
    cases rollsBack

private theorem blockRest_cons_of_none (free : control statement = none) :
    BlockRest control allowed (statement :: statements) ↔
      allowed statement ∧ BlockRest control allowed statements := by
  constructor
  · rintro ⟨body, finish, rest, shape, frees, inside, finishes, blocks⟩
    cases body with
    | nil =>
      cases shape
      exact absurd free (isFinish_some finishes)
    | cons first body =>
    cases shape
    refine ⟨inside statement List.mem_cons_self, body, finish, rest, rfl, ?_, ?_, finishes,
      blocks⟩
    · intro other member
      exact frees other (List.mem_cons_of_mem _ member)
    · intro other member
      exact inside other (List.mem_cons_of_mem _ member)
  rintro ⟨permitted, body, finish, rest, rfl, frees, inside, finishes, blocks⟩
  refine ⟨statement :: body, finish, rest, rfl, ?_, ?_, finishes, blocks⟩
  · exact List.forall_mem_cons.mpr ⟨free, frees⟩
  · exact List.forall_mem_cons.mpr ⟨permitted, inside⟩

private theorem blockRest_cons_of_some (read : control statement = some kind) :
    BlockRest control allowed (statement :: statements) ↔
      IsFinish control statement ∧ Blocks control allowed statements := by
  constructor
  · rintro ⟨body, finish, rest, shape, frees, inside, finishes, blocks⟩
    cases body with
    | nil =>
      cases shape
      exact ⟨finishes, blocks⟩
    | cons first body =>
    cases shape
    have free := frees statement List.mem_cons_self
    rw [read] at free
    cases free
  · rintro ⟨finishes, blocks⟩
    exact ⟨[], statement, statements, rfl, by simp, by simp, finishes, blocks⟩

/-- A condition on the statements inside blocks is one on the blocks or one on the
statements that stand in them. -/
private theorem blocks_and (allowed also : String → Prop) (statements : List String) :
    (Blocks control (fun statement => allowed statement ∧ also statement) statements ↔
      Blocks control allowed statements ∧
        ∀ statement ∈ inBlocks control statements false, also statement) ∧
    (BlockRest control (fun statement => allowed statement ∧ also statement) statements ↔
      BlockRest control allowed statements ∧
        ∀ statement ∈ inBlocks control statements true, also statement) := by
  induction statements with
  | nil =>
    refine ⟨?_, ?_⟩
    · simp [blocks_nil, inBlocks]
    · simp [blockRest_nil]
  | cons statement statements ih =>
    obtain ⟨outside, inside⟩ := ih
    cases read : control statement with
    | none =>
      refine ⟨?_, ?_⟩
      · rw [blocks_cons_of_none read, blocks_cons_of_none read, outside]
        simp [inBlocks, read]
      · rw [blockRest_cons_of_none read, blockRest_cons_of_none read]
        simp only [inBlocks, read, if_true, List.forall_mem_cons]
        tauto
    | some kind =>
    rw [blockRest_cons_of_some read, blockRest_cons_of_some read, outside]
    by_cases begins : kind.isBegin = true
    · rw [blocks_cons_of_begin read begins, blocks_cons_of_begin read begins, inside]
      rw [inBlocks_of_begin read begins]
      simp [not_isFinish_of_begin read begins]
    · have notBegin : kind.isBegin = false := by simpa using begins
      rw [inBlocks_of_other read notBegin, inBlocks_of_other read notBegin]
      simp [blocks_cons_of_other read notBegin, and_assoc]

/-! ### An engine that follows the controls -/

variable (control) (commits : String → Bool)

/-- Whether a transaction is open after the statements; `none` once one was started
inside another. A statement that commits implicitly ends the transaction it is in. -/
def follow : List String → Bool → Option Bool
  | [], isOpen => some isOpen
  | statement :: statements, isOpen =>
    match control statement with
    | some (.commit chain) | some (.rollback chain) => follow statements (isOpen && chain)
    | some _ => if isOpen then none else follow statements true
    | none => follow statements (isOpen && !commits statement)

variable {control} {commits}

private theorem follow_free {body : List String}
    (free : ∀ statement ∈ body, control statement = none) (rest : List String) (isOpen : Bool) :
    ∃ stillOpen, follow control commits (body ++ rest) isOpen =
      follow control commits rest stillOpen := by
  induction body generalizing isOpen with
  | nil => exact ⟨isOpen, rfl⟩
  | cons statement body ih =>
    have free' := List.forall_mem_cons.mp free
    obtain ⟨stillOpen, same⟩ := ih free'.2 (isOpen && !commits statement)
    refine ⟨stillOpen, ?_⟩
    rw [List.cons_append, follow, free'.1]
    exact same

private theorem follow_finish (finishes : IsFinish control statement) (isOpen : Bool) :
    follow control commits (statement :: statements) isOpen =
      follow control commits statements false := by
  rcases finishes with read | read <;> simp [follow, read]

private theorem follow_begin (begins : IsBegin control statement) :
    follow control commits (statement :: statements) false =
      follow control commits statements true := by
  obtain ⟨start, read, isStart⟩ := begins
  cases start <;> simp_all [follow, isBegin]

/-- Whole blocks leave the engine outside every transaction, with none nested. -/
private theorem follow_blocks (blocks : Blocks control allowed statements) :
    follow control commits statements false = some false := by
  induction blocks with
  | nil => rfl
  | outside free _ ih => simpa [follow, free] using ih
  | block begins free _ finishes _ ih =>
    rw [follow_begin begins]
    obtain ⟨stillOpen, same⟩ := follow_free free (_ :: _) true
    rw [same, follow_finish finishes]
    exact ih

end Grammar

/-! ### The scan of the rules -/

section Scan

variable (front : SqlFrontEnd) (driverId : String)

def controlFor (statement : String) : Option TransactionControl :=
  front.transactionControl statement driverId

def Parses (statement : String) : Prop := (front.classify statement driverId).cls ≠ .unparseable

/-- What the scan asks of a statement in an open transaction. -/
def ScanAllows (statement : String) : Prop :=
  driverId = "mysql" → (front.classify statement driverId).containsDdl = false

private theorem leavesOpen_iff (statements : List String) :
    (leavesOpen front driverId statements false = false ↔
      Blocks (controlFor front driverId)
        (fun statement => Parses front driverId statement ∧ ScanAllows front driverId statement)
        statements) ∧
    (leavesOpen front driverId statements true = false ↔
      BlockRest (controlFor front driverId)
        (fun statement => Parses front driverId statement ∧ ScanAllows front driverId statement)
        statements) := by
  induction statements with
  | nil => simp [leavesOpen, blocks_nil, blockRest_nil]
  | cons statement statements ih =>
    obtain ⟨outside, inside⟩ := ih
    cases read : controlFor front driverId statement with
    | none =>
      have read' : front.transactionControl statement driverId = none := read
      rw [blocks_cons_of_none read, blockRest_cons_of_none read, ← outside, ← inside]
      simp [leavesOpen, read', Parses, ScanAllows]
    | some kind =>
    have read' : front.transactionControl statement driverId = some kind := read
    rw [blockRest_cons_of_some read]
    by_cases begins : kind.isBegin = true
    · rw [blocks_cons_of_begin read begins]
      have notFinish := not_isFinish_of_begin read begins
      cases kind <;> simp_all [leavesOpen, isBegin]
    have notBegin : kind.isBegin = false := by simpa using begins
    have notBlocks := @blocks_cons_of_other _ (fun statement =>
      Parses front driverId statement ∧ ScanAllows front driverId statement)
      _ statements _ read notBegin
    cases kind <;> simp_all [leavesOpen, isBegin, IsFinish]

/-- What a block may hold: statements that parse and, on MySQL, commit nothing. -/
def BlockAllows (commits : String → Bool) (statement : String) : Prop :=
  Parses front driverId statement ∧ (driverId = "mysql" → commits statement = false)

/-- On MySQL, once the blocks are whole and what they hold parses: a statement in a block
changes the schema exactly if a statement in a block commits implicitly. -/
def CommitsAreSchemaChanges (commits : String → Bool) (statements : List String) : Prop :=
  driverId = "mysql" →
    Blocks (controlFor front driverId) (Parses front driverId) statements →
      ((∃ statement ∈ inBlocks (controlFor front driverId) statements false,
          (front.classify statement driverId).containsDdl = true) ↔
        ∃ statement ∈ inBlocks (controlFor front driverId) statements false,
          commits statement = true)

private theorem scan_agrees_iff (commits : String → Bool) (statements : List String) :
    ((leavesOpen front driverId statements false = false ↔
      Blocks (controlFor front driverId) (BlockAllows front driverId commits) statements) ↔
    CommitsAreSchemaChanges front driverId commits statements) := by
  have scanned := (leavesOpen_iff front driverId statements).1
  rw [(blocks_and _ _ _).1] at scanned
  have wanted := (@blocks_and (controlFor front driverId) (Parses front driverId)
    (fun statement => driverId = "mysql" → commits statement = false) statements).1
  unfold BlockAllows
  rw [scanned, wanted]
  unfold CommitsAreSchemaChanges ScanAllows
  by_cases mysql : driverId = "mysql"
  · simp only [mysql, forall_const]
    rw [and_congr_right_iff]
    refine imp_congr_right fun _ => ?_
    refine Iff.trans ?_ not_iff_not
    simp
  · simp [mysql]

variable {front} {driverId} {sql : String}

private theorem unclosed_eq_leavesOpen
    (plain : front.leavesTsqlTransactionUnclosed sql driverId = false)
    (several : 2 ≤ (front.scriptStatements sql driverId).length) :
    hasUnclosedSharedTransaction front sql driverId =
      leavesOpen front driverId (front.scriptStatements sql driverId) false := by
  have notFew : ¬ (front.scriptStatements sql driverId).length < 2 := by omega
  simp [hasUnclosedSharedTransaction, plain, notFew]

variable {facts : StatementFacts}

private theorem accepted_not_unclosed
    (accepted : sharedConnectionDecision front sql driverId facts = none) :
    hasUnclosedSharedTransaction front sql driverId = false := by
  unfold sharedConnectionDecision at accepted
  split at accepted
  · cases accepted
  split at accepted
  · cases accepted
  · rename_i condition
    simp only [Bool.or_eq_true, not_or, Bool.not_eq_true] at condition
    exact condition.2

private theorem single_transaction_refused (transaction : facts.cls = .transaction)
    (single : facts.isMultiStatement = false) :
    ∃ decision, sharedConnectionDecision front sql driverId facts = some decision ∧
      decision.isDeny = true := by
  cases outcome : sharedConnectionDecision front sql driverId facts with
  | some decision => exact ⟨decision, rfl, sharedConnectionDecision_deny outcome⟩
  | none =>
  unfold sharedConnectionDecision at outcome
  split at outcome
  · cases outcome
  · simp [transaction, single] at outcome

end Scan

/-- On a shared connection of any driver but SQL Server: the scan of a script of several
statements accepts the scripts made of whole blocks exactly if, on MySQL, the schema
changes in blocks are the implicit commits in them; a single statement of transaction
control is refused; and an engine is outside every transaction after an accepted
script, having nested none. -/
theorem shared_scripts_leave_no_transaction (parser : SqlParser) (base : SqlFrontEnd)
    (commits : String → Bool) (driverId : String) (notTsql : driverId ≠ "mssql") :
    let front := parser.front base
    (∀ sql, 2 ≤ (front.scriptStatements sql driverId).length →
      ((hasUnclosedSharedTransaction front sql driverId = false ↔
        Blocks (controlFor front driverId) (BlockAllows front driverId commits)
          (front.scriptStatements sql driverId)) ↔
      CommitsAreSchemaChanges front driverId commits (front.scriptStatements sql driverId))) ∧
    (∀ sql, (front.classify sql driverId).cls = .transaction →
      (front.classify sql driverId).isMultiStatement = false →
        ∃ decision, sharedConnectionDecision front sql driverId (front.classify sql driverId) =
          some decision ∧ decision.isDeny = true) ∧
    ∀ sql facts, 2 ≤ (front.scriptStatements sql driverId).length →
      sharedConnectionDecision front sql driverId facts = none →
        follow (controlFor front driverId) commits (front.scriptStatements sql driverId) false =
          some false := by
  intro front
  have plain (sql : String) : front.leavesTsqlTransactionUnclosed sql driverId = false := by
    simp [front, SqlParser.front, SqlParser.leavesTsqlTransactionUnclosed, notTsql]
  refine ⟨?_, ?_, ?_⟩
  · intro sql several
    rw [unclosed_eq_leavesOpen (plain sql) several]
    exact scan_agrees_iff front driverId commits _
  · intro sql transaction single
    exact single_transaction_refused transaction single
  intro sql facts several accepted
  have closed := accepted_not_unclosed accepted
  rw [unclosed_eq_leavesOpen (plain sql) several] at closed
  exact follow_blocks ((leavesOpen_iff front driverId _).1.mp closed)

def fewStatements : SqlParser :=
  { parse := fun _ text =>
      if text = "BEGIN" then .ok [.startTransaction [] false]
      else if text = "COMMIT" then .ok [.commit false]
      else if text = "TRUNCATE users" then .ok [.truncate ["users"]]
      else if text = "ROLLBACK" then .ok [.rollback false none]
      else if text = "BEGIN; TRUNCATE users; COMMIT" then
        .ok [.startTransaction [] false, .truncate ["users"], .commit false]
      else .error "expected a statement"
    tokens := fun _ _ => some []
    refusal := fun _ _ => none
    hasLockingClause := fun _ _ => false
    tsqlScan := fun _ =>
      { onlyPhrase := none
        hidesControl := false
        leavesSharedTransactionUnclosed := false }
    lookups := plainLookups }

/-- Splits at every semicolon. -/
def semicolonFront : SqlFrontEnd :=
  { classify := fun _ _ => .unparseable "not parsed"
    rollsBackToSavepoint := fun _ _ => false
    blastRadius := fun _ _ => none
    sensitivePositions := fun _ _ _ => none
    knownStatementRows := fun _ _ => []
    implicitTransactionStarter := fun _ _ => none
    transactionControl := fun _ _ => none
    hidesTransactionControl := fun _ _ => false
    leavesTsqlTransactionUnclosed := fun _ _ => false
    mysqlStatementIsTransactionSafe := fun _ => false
    scriptStatements := fun sql _ =>
      (sql.toList.splitOn ';').map fun piece => trim (String.ofList piece)
    statementTarget := fun _ _ => none
    validIdentifier := fun _ => true
    printable := asciiPrintable
    mask := fun _ result _ => result }

def fewFront : SqlFrontEnd := fewStatements.front semicolonFront

/-- TRUNCATE commits implicitly on MySQL. -/
def truncates (statement : String) : Bool := statement == "TRUNCATE users"

def truncateScript : String := "BEGIN; TRUNCATE users; COMMIT"

theorem truncate_in_block_accepted :
    2 ≤ (fewFront.scriptStatements truncateScript "mysql").length ∧
    hasUnclosedSharedTransaction fewFront truncateScript "mysql" = false ∧
    ¬ Blocks (controlFor fewFront "mysql") (BlockAllows fewFront "mysql" truncates)
      (fewFront.scriptStatements truncateScript "mysql") := by
  refine ⟨by decide, by decide, ?_⟩
  intro blocks
  have allowed := ((@blocks_and (controlFor fewFront "mysql") (Parses fewFront "mysql")
    (fun statement => "mysql" = "mysql" → truncates statement = false) _).1.mp blocks).2
  have truncated := allowed "TRUNCATE users" (by decide) rfl
  cases truncated

/-- On PostgreSQL, where TRUNCATE does not commit, the same script is a whole block. -/
theorem shared_scripts_leave_no_transaction_truncate :
    let commits := fun _ : String => false
    let statements := fewFront.scriptStatements truncateScript "postgres"
    Blocks (controlFor fewFront "postgres") (BlockAllows fewFront "postgres" commits) statements ∧
      (∃ decision, sharedConnectionDecision fewFront "BEGIN" "postgres"
        (fewFront.classify "BEGIN" "postgres") = some decision ∧ decision.isDeny = true) ∧
      follow (controlFor fewFront "postgres") commits statements false = some false := by
  intro commits statements
  obtain ⟨scan, single, followed⟩ := shared_scripts_leave_no_transaction fewStatements
    semicolonFront commits "postgres" (by decide)
  refine ⟨((scan truncateScript (by decide)).mpr ?_).mp (by decide), single "BEGIN" rfl rfl,
    followed truncateScript (fewFront.classify truncateScript "postgres") (by decide)
      (by decide)⟩
  exact fun impossible => absurd impossible (by decide)

end Bookie.Policy
