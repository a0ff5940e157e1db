/-
Texts and names as SQL. Each driver quotes them in its own way: most double the
closing quote, some double the backslash too, and where no quoted form is safe the
bytes are written as hexadecimal digits.
-/

import Bookie.Script.Lexer
import Bookie.Text.Hex

namespace Bookie.Sql

open Script Text

def replaceChar (c : Char) (replacement text : List Char) : List Char :=
  text.flatMap fun d => if d = c then replacement else [d]

theorem replaceChar_cons (c : Char) (replacement : List Char) (d : Char) (text : List Char) :
    replaceChar c replacement (d :: text) =
      (if d = c then replacement else [d]) ++ replaceChar c replacement text := by
  rfl

theorem replaceChar_append (c : Char) (replacement front back : List Char) :
    replaceChar c replacement (front ++ back) =
      replaceChar c replacement front ++ replaceChar c replacement back :=
  List.flatMap_append

theorem replaceChar_of_notMem {c : Char} {replacement text : List Char} (absent : c ∉ text) :
    replaceChar c replacement text = text := by
  induction text with
  | nil => rfl
  | cons d text ih =>
    rw [List.mem_cons, not_or] at absent
    rw [replaceChar_cons, if_neg fun same => absent.1 same.symm, ih absent.2, List.singleton_append]

def hexText (bytes : List UInt8) : List Char :=
  (hexEncode bytes).map fun digit => Char.ofNat digit.toNat

theorem hexText_plain (bytes : List UInt8) : ∀ c ∈ hexText bytes, c ≠ '\'' ∧ c ≠ '\\' := by
  have digit : ∀ nibble < 16, Char.ofNat (hexDigit nibble).toNat ≠ '\'' ∧
      Char.ofNat (hexDigit nibble).toNat ≠ '\\' := by
    decide
  intro c member
  obtain ⟨code, inside, rfl⟩ := List.mem_map.mp member
  obtain ⟨byte, -, isDigit⟩ := List.mem_flatMap.mp inside
  have small := byte.toNat_lt
  rcases List.mem_cons.mp isDigit with rfl | isLow
  · exact digit _ (by omega)
  · rw [List.mem_singleton.mp isLow]
    exact digit _ (by omega)

def quoteLiteral (driverId : String) (text : List Char) : List Char :=
  let escaped :=
    if driverId == "mysql" || driverId == "clickhouse" then
      replaceChar '\'' ['\'', '\''] (replaceChar '\\' ['\\', '\\'] text)
    else replaceChar '\'' ['\'', '\''] text
  let tag := if driverId == "mssql" then ['N'] else []
  tag ++ '\'' :: (escaped ++ ['\''])

def stringLiteral (driverId : String) (text : List Char) : List Char :=
  if driverId == "mysql" && (text.contains '\\' || text.contains '\x00') then
    "_utf8mb4 X".toList ++ '\'' :: (hexText (encode text) ++ ['\''])
  else if driverId == "sqlite" && text.contains '\x00' then
    "CAST(X".toList ++ '\'' :: (hexText (encode text) ++ ['\'']) ++ " AS TEXT)".toList
  else if driverId == "postgres" && text.contains '\\' then
    'E' :: '\'' :: (replaceChar '\'' ['\'', '\''] (replaceChar '\\' ['\\', '\\'] text) ++ ['\''])
  else quoteLiteral driverId text

def quoteIdent (driverId : String) (name : List Char) : List Char :=
  if driverId == "clickhouse" then
    '`' :: (replaceChar '`' ['`', '`'] (replaceChar '\\' ['\\', '\\'] name) ++ ['`'])
  else if driverId == "mysql" then '`' :: (replaceChar '`' ['`', '`'] name ++ ['`'])
  else if driverId == "mssql" then '[' :: (replaceChar ']' [']', ']'] name ++ [']'])
  else '"' :: (replaceChar '"' ['"', '"'] name ++ ['"'])

def driverIdOf : SqlGrammar → String
  | .postgreSql => "postgres"
  | .mySql => "mysql"
  | .sqlite => "sqlite"
  | .msSql => "mssql"
  | .clickHouse => "clickhouse"

section Decoding

-- what the server reads for a backslash and the character behind it
variable (escaped : Char → List Char)

/-- The text of a token from behind its opening quote, whose closing quote is its last
character. -/
def unquote (quote : Char) (backslash : Bool) : List Char → Option (List Char)
  | [] => none
  | [c] => if c = quote then some [] else none
  | c :: next :: rest =>
    if backslash && c == '\\' then (unquote quote backslash rest).map (escaped next ++ ·)
    else if c == quote then
      if next == quote then (unquote quote backslash rest).map (quote :: ·) else none
    else (unquote quote backslash (next :: rest)).map (c :: ·)

def unbracket (bracket : BracketIdentifier) (inside : List Char) : Option (List Char) :=
  match bracket with
  | .none => none
  | .noDoubling => if inside.getLast? = some ']' then some inside.dropLast else none
  | .doubling => unquote escaped ']' false inside

/-- The text a string literal or quoted identifier stands for. -/
def decodeToken (lexical : ScriptSyntax) (settings : LexicalSettings) (token : List Char) :
    Option (List Char) :=
  match token with
  | [] => none
  | first :: inside =>
    if first = '\'' then
      unquote escaped '\'' (BackslashPolicy.applies settings lexical.singleQuote.backslash) inside
    else if first = '"' then
      unquote escaped '"'
        (BackslashPolicy.applies settings (doubleQuoteRule lexical settings).backslash) inside
    else if first = '`' then
      lexical.backtick.bind fun rule =>
        unquote escaped '`' (BackslashPolicy.applies settings rule.backslash) inside
    else if first = '[' then unbracket escaped lexical.bracketIdentifier inside
    else if lexical.escapeStringPrefix && (first == 'E' || first == 'e') then
      if inside.head? = some '\'' then unquote escaped '\'' true (inside.drop 1) else none
    else none

end Decoding

def hexDigitValue (digit : Char) : Option Nat :=
  if '0' ≤ digit ∧ digit ≤ '9' then some (digit.toNat - 48)
  else if 'a' ≤ digit ∧ digit ≤ 'f' then some (digit.toNat - 87)
  else if 'A' ≤ digit ∧ digit ≤ 'F' then some (digit.toNat - 55)
  else none

def hexDecode : List Char → Option (List UInt8)
  | [] => some []
  | [_] => none
  | first :: second :: rest => do
      let high ← hexDigitValue first
      let low ← hexDigitValue second
      let bytes ← hexDecode rest
      some (UInt8.ofNat (16 * high + low) :: bytes)

end Bookie.Sql
