/-
Dropping a collection. The structure tab builds one SQL text for every driver, and
the MongoDB driver reads the collection's name out of it again. It reads a single
quoted name, while the builder puts the database in front.
-/

import Bookie.Sql.Literal
import Bookie.Text.Chars

namespace Bookie.Structure

open Bookie.Sql Text List

/-- `char::is_control`. -/
def isControl (c : Char) : Bool := c.toNat < 32 || (127 ≤ c.toNat && c.toNat ≤ 159)

inductive IdentError where
  | empty
  | tooLong
  | controlCharacter
  deriving DecidableEq, Repr

def validateIdent (name : List Char) : Except IdentError Unit :=
  if (trimmed name).isEmpty then .error .empty
  else if (encode name).length > 256 then .error .tooLong
  else if name.any fun c => isControl c || c.toNat == 0x2028 || c.toNat == 0x2029 then
    .error .controlCharacter
  else .ok ()

inductive BuildDdlError where
  | emptyTableName
  | unsafeIdentifier (name : List Char)
  deriving DecidableEq, Repr

def validateTable (table : List Char) : Except BuildDdlError Unit :=
  match validateIdent table with
  | .ok () => .ok ()
  | .error .empty => .error .emptyTableName
  | .error _ => .error (.unsafeIdentifier table)

def qualifiedTable (driverId : String) (schema : Option (List Char)) (table : List Char) :
    List Char :=
  let table := trimmed table
  match schema.map trimmed with
  | some (c :: schema) => quoteIdent driverId (c :: schema) ++ '.' :: quoteIdent driverId table
  | _ => quoteIdent driverId table

def buildDropTable (driverId : String) (schema : Option (List Char)) (table : List Char)
    (ifExists cascade : Bool) : Except BuildDdlError (List Char) := do
  validateTable table
  let parts := ["DROP TABLE".toList] ++ (if ifExists then ["IF EXISTS".toList] else []) ++
    [qualifiedTable driverId schema table] ++
    if cascade && driverId == "postgres" then ["CASCADE".toList] else []
  return [' '].intercalate parts

def isSimpleIdent (text : List Char) : Bool :=
  !text.isEmpty && text.all fun c => c.isAlphanum || c == '_' || c == '$'

/-- The loop over the name behind its opening quote: the name, and what is behind its
closing quote. -/
def readName : List Char → Option (List Char × List Char)
  | [] => none
  | '"' :: '"' :: rest => (readName rest).map (Prod.map ('"' :: ·) id)
  | '"' :: rest => some ([], rest)
  | c :: rest => (readName rest).map (Prod.map (c :: ·) id)

def parseDropTableSql (input : List Char) : Option (List Char) := do
  let sql := trimmed ((trimmed input).rdropWhile (· == ';'))
  let rest := trimStart (← "DROP TABLE".toList.isPrefixOf? sql)
  let rest := trimStart (("IF EXISTS".toList.isPrefixOf? rest).getD rest)
  match rest with
  | '"' :: quoted =>
    let (name, behind) ← readName quoted
    if (trimmed behind).isEmpty then some name else none
  | _ => if isSimpleIdent rest then some rest else none

private theorem readName_quoted (name : List Char) {behind : List Char}
    (ends : behind.head? ≠ some '"') :
    readName (replaceChar '"' ['"', '"'] name ++ '"' :: behind) = some (name, behind) := by
  induction name with
  | nil =>
    cases behind with
    | nil => rfl
    | cons c behind =>
      have other : c ≠ '"' := fun same => ends (by rw [same]; rfl)
      simp [replaceChar, readName, other]
  | cons c name ih =>
    rw [replaceChar_cons]
    by_cases quote : c = '"'
    · simp [quote, readName, ih]
    · simp [quote, readName, ih]

private theorem trimmed_eq {first last : Char} (text : List Char)
    (starts : isWhitespace first = false) (stops : isWhitespace last = false) :
    trimmed (first :: (text ++ [last])) = first :: (text ++ [last]) := by
  rw [trimmed, trimStart, dropWhile_cons_of_neg (by simp [starts]), trimEnd, ← cons_append,
    rdropWhile_concat_neg _ _ _ (by simp [stops])]

/-- The driver finds the text of the table as the builder left it. -/
private theorem parseDropTableSql_built (ifExists : Bool) (inside : List Char) :
    parseDropTableSql ([' '].intercalate (["DROP TABLE".toList] ++
        (if ifExists then ["IF EXISTS".toList] else []) ++ ['"' :: (inside ++ ['"'])])) =
      (readName (inside ++ ['"'])).bind fun read =>
        if (trimmed read.2).isEmpty then some read.1 else none := by
  obtain ⟨front, text⟩ : ∃ front, [' '].intercalate (["DROP TABLE".toList] ++
      (if ifExists then ["IF EXISTS".toList] else []) ++ ['"' :: (inside ++ ['"'])]) =
        'D' :: (front ++ ['"']) := by
    cases ifExists with
    | false => exact ⟨"ROP TABLE \"".toList ++ inside, by simp [intercalate]⟩
    | true => exact ⟨"ROP TABLE IF EXISTS \"".toList ++ inside, by simp [intercalate]⟩
  have kept := @trimmed_eq 'D' '"' front rfl rfl
  have ends : ('D' :: (front ++ ['"'])).rdropWhile (· == ';') = 'D' :: (front ++ ['"']) := by
    rw [← cons_append, rdropWhile_concat_neg _ _ _ (by decide)]
  rw [parseDropTableSql, text, kept, ends, kept, ← text]
  cases ifExists <;> simp [isPrefixOf?, trimStart, isWhitespace]

/-- MongoDB's collections come with their database as schema, and a name behind a schema is not
read. Only where the schema is blank is the collection dropped, under its trimmed name. -/
theorem drop_collection_iff {database collection sql : List Char} {ifExists cascade : Bool}
    (built : buildDropTable "mongodb" (some database) collection ifExists cascade = .ok sql) :
    parseDropTableSql sql = some collection ↔
      trimmed database = [] ∧ trimmed collection = collection := by
  have quoted (name : List Char) : quoteIdent "mongodb" name =
      '"' :: (replaceChar '"' ['"', '"'] name ++ ['"']) := by simp [quoteIdent]
  obtain ⟨-, -, built⟩ := ok_of_bind built
  have sql_eq := (Except.ok.inj built).symm
  simp only [show ("mongodb" == "postgres") = false from rfl, Bool.and_false, Bool.false_eq_true,
    if_false, append_nil] at sql_eq
  cases schema : trimmed database with
  | nil =>
    have table : qualifiedTable "mongodb" (some database) collection =
        quoteIdent "mongodb" (trimmed collection) := by
      simp [qualifiedTable, schema]
    have blank : trimmed [] = [] := rfl
    rw [sql_eq, table, quoted, parseDropTableSql_built, readName_quoted _ (by simp)]
    simp [blank]
  | cons c rest =>
    have table : qualifiedTable "mongodb" (some database) collection =
        '"' :: ((replaceChar '"' ['"', '"'] (c :: rest) ++ '"' :: '.' :: '"' ::
          replaceChar '"' ['"', '"'] (trimmed collection)) ++ ['"']) := by
      simp only [qualifiedTable, Option.map_some, schema, quoted]
      simp
    have behind := @trimmed_eq '.' '"' ('"' :: replaceChar '"' ['"', '"'] (trimmed collection))
      rfl rfl
    rw [sql_eq, table, parseDropTableSql_built, append_assoc, cons_append,
      readName_quoted _ (by simp)]
    simp only [cons_append] at behind ⊢
    simp [behind]

theorem drop_blank_schema :
    ∃ sql, buildDropTable "mongodb" (some [' ']) "user;\"list".toList true false = .ok sql ∧
      parseDropTableSql sql = some "user;\"list".toList := by
  refine ⟨_, rfl, (@drop_collection_iff [' '] _ _ true false rfl).mpr (by decide)⟩

theorem drop_users_not_read :
    ∃ sql, buildDropTable "mongodb" (some "shop".toList) "users".toList true false = .ok sql ∧
      sql = "DROP TABLE IF EXISTS \"shop\".\"users\"".toList ∧ parseDropTableSql sql = none :=
  ⟨_, rfl, rfl, rfl⟩

end Bookie.Structure
