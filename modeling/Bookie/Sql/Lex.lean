/-
The splitter of the policy rules. It walks the characters of a text, steps over
quoted text and comments, and cuts at every other semicolon. Lengths are counted in
characters and positions in bytes.
-/

import Bookie.Text.Chars
import Bookie.Text.Find
import Bookie.Text.Utf8

namespace Bookie.Sql

open Text

/-- The length of a quoted text from behind its opening quote. -/
def quotedRest (quote : Char) (backslash : Bool) : List Char → Nat
  | [] => 0
  | [_] => 1
  | c :: next :: rest =>
    if backslash && c == '\\' then quotedRest quote backslash rest + 2
    else if c == quote then if next == quote then quotedRest quote backslash rest + 2 else 1
    else quotedRest quote backslash (next :: rest) + 1

variable (rest : List Char)

def quotedLength (quote : Char) (backslash : Bool) : Nat :=
  quotedRest quote backslash (rest.drop 1) + 1

def bracketRest : List Char → Nat
  | [] => 0
  | [_] => 1
  | c :: next :: rest =>
    if c == ']' then if next == ']' then bracketRest rest + 2 else 1
    else bracketRest (next :: rest) + 1

def bracketLength : Nat := bracketRest (rest.drop 1) + 1

/-- The length of a comment from behind its opening. -/
def blockCommentRest (nested : Bool) : Nat → List Char → Nat
  | _, [] => 0
  | _, [_] => 1
  | depth, c :: next :: rest =>
    if c == '/' && next == '*' && nested then blockCommentRest nested (depth + 1) rest + 2
    else if c == '*' && next == '/' then
      if depth = 1 then 2 else blockCommentRest nested (depth - 1) rest + 2
    else blockCommentRest nested depth (next :: rest) + 1

def blockCommentLength (nested : Bool) : Nat :=
  blockCommentRest nested 1 (rest.drop 2) + 2

def isAsciiLetter (c : Char) : Bool := ('A' ≤ c && c ≤ 'Z') || ('a' ≤ c && c ≤ 'z')

def isAsciiLetterOrDigit (c : Char) : Bool := isAsciiLetter c || ('0' ≤ c && c ≤ '9')

/-- PostgreSQL takes only identifiers as tags. -/
def tagIsIdentifier (tag : List Char) : Bool :=
  match tag with
  | [] => true
  | first :: more =>
    (isAsciiLetter first || first == '_') && more.all fun c => isAsciiLetterOrDigit c || c == '_'

def dollarQuoteLength (driverId : String) : Option Nat :=
  if (driverId == "postgres" || driverId == "clickhouse") && rest.head? == some '$' then
    ((rest.drop 1).findIdx? (· == '$')).bind fun close =>
      let tag := rest.take (close + 2)
      if driverId == "postgres" && !tagIsIdentifier ((rest.drop 1).take close) then none
      else
        match find tag (rest.drop tag.length) with
        | some offset => some (tag.length + offset + tag.length)
        | none => some rest.length
  else none

def lineLength : Nat :=
  ((rest.findIdx? (· == '\n')).map (· + 1)).getD rest.length

/-- The length of the quoted text or comment that starts here. -/
def skipSpan (driverId : String) : Option Nat :=
  if startsWith "--" rest && (driverId != "mysql" || (rest[2]?).all isWhitespace) then
    some (lineLength rest)
  else if startsWith "/*" rest then
    some (blockCommentLength rest (driverId == "postgres" || driverId == "mssql"))
  else if driverId == "mysql" && startsWith "#" rest then some (lineLength rest)
  else if startsWith "'" rest then
    some (quotedLength rest '\'' (driverId == "mysql" || driverId == "clickhouse"))
  else if driverId == "postgres" && (startsWith "E'" rest || startsWith "e'" rest) then
    some (quotedLength (rest.drop 1) '\'' true + 1)
  else
    match dollarQuoteLength rest driverId with
    | some length => some length
    | none =>
      if (driverId == "mysql" || driverId == "clickhouse") && startsWith "`" rest then
        some (quotedLength rest '`' (driverId == "clickhouse"))
      else if driverId == "mssql" && startsWith "[" rest then some (bracketLength rest)
      else if startsWith "\"" rest then
        some (quotedLength rest '"' (driverId == "mysql" || driverId == "clickhouse"))
      else none

section Splitter

-- Unicode's letters and digits
variable (alphanumeric : Char → Bool)

/-- A dollar sign behind a part of an identifier opens nothing. -/
def insideIdentifier (previous : Option Char) (rest : List Char) : Bool :=
  rest.head? == some '$' && previous.any fun c => alphanumeric c || c == '_' || c == '$'

def skipSpanAt (previous : Option Char) (rest : List Char) (driverId : String) : Option Nat :=
  if insideIdentifier alphanumeric previous rest then none else skipSpan rest driverId

/-- The spans from a position on: `skip` characters of a quoted text or comment are still
to be stepped over, and the statement being read started at `start`. -/
def spansFrom (driverId : String) :
    List Char → (skip : Nat) → (previous : Option Char) → (start index : Nat) → List (Nat × Nat)
  | [], _, _, start, index => [(start, index)]
  | c :: rest, skip + 1, _, start, index =>
    spansFrom driverId rest skip (some c) start (index + c.utf8Size)
  | c :: rest, 0, previous, start, index =>
    match (skipSpanAt alphanumeric previous (c :: rest) driverId).filter (0 < ·) with
    | some length => spansFrom driverId rest (length - 1) (some c) start (index + c.utf8Size)
    | none =>
      if c == ';' then
        (start, index) :: spansFrom driverId rest 0 (some c) (index + 1) (index + 1)
      else spansFrom driverId rest 0 (some c) start (index + c.utf8Size)

def statementSpans (text : List Char) (driverId : String) : List (Nat × Nat) :=
  spansFrom alphanumeric driverId text 0 none 0 0

/-- The semicolons the statements are cut at: every span but the last ends at one. -/
def topLevelSemicolons (text : List Char) (driverId : String) : List Nat :=
  (statementSpans alphanumeric text driverId).dropLast.map Prod.snd

end Splitter

end Bookie.Sql
