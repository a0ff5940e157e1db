/-
The script lexer. It reads bytes: every function below is given the bytes from the
start of a token on and answers how many of them belong to it, so that a position
of the source is the position of the token plus an answer.
-/

import Bookie.Script.Rules
import Bookie.Text.Find
import Bookie.Text.Utf8

namespace Bookie.Script

open Text

inductive ScriptTokenKind where
  | whitespace
  | lineComment
  | blockComment
  | stringLiteral
  | quotedIdentifier
  | dollarQuoted
  | word
  | number
  | semicolon
  | openParen
  | closeParen
  | punct
  | directive
  | unterminated
  deriving DecidableEq, Repr

def ScriptTokenKind.isTrivia : ScriptTokenKind → Bool
  | .whitespace | .lineComment | .blockComment => true
  | _ => false

structure ScriptToken where
  kind : ScriptTokenKind
  start : Nat
  stop : Nat
  deriving DecidableEq, Repr

inductive OpenConstruct where
  | stringLiteral
  | quotedIdentifier
  | blockComment
  | dollarQuoted
  deriving DecidableEq, Repr

structure LexedToken where
  kind : ScriptTokenKind
  length : Nat
  opened : Option OpenConstruct
  deriving DecidableEq, Repr

def isSpace (b : UInt8) : Bool :=
  b == ' '.toUInt8 || b == '\t'.toUInt8 || b == '\n'.toUInt8 || b == '\r'.toUInt8 || b == 0x0b ||
    b == 0x0c

def isAsciiAlphabetic (b : UInt8) : Bool :=
  ('A'.toUInt8 ≤ b && b ≤ 'Z'.toUInt8) || ('a'.toUInt8 ≤ b && b ≤ 'z'.toUInt8)

def isAsciiDigit (b : UInt8) : Bool := '0'.toUInt8 ≤ b && b ≤ '9'.toUInt8

def isAsciiAlphanumeric (b : UInt8) : Bool := isAsciiAlphabetic b || isAsciiDigit b

def isAsciiWhitespace (b : UInt8) : Bool :=
  b == ' '.toUInt8 || b == '\t'.toUInt8 || b == '\n'.toUInt8 || b == 0x0c || b == '\r'.toUInt8

def isAsciiControl (b : UInt8) : Bool := b < 0x20 || b == 0x7f

/-! ### Tokens that need no grammar -/

def plain (kind : ScriptTokenKind) (length : Nat) : LexedToken :=
  { kind := kind, length := length, opened := none }

def unterminated (construct : OpenConstruct) (bytes : List UInt8) : LexedToken :=
  { kind := .unterminated, length := bytes.length, opened := some construct }

/-- Whitespace ends behind a line feed, so that the next token starts a line. -/
def whitespaceEnd : List UInt8 → Nat
  | [] => 0
  | b :: bytes =>
    if !isSpace b then 0 else if b == '\n'.toUInt8 then 1 else whitespaceEnd bytes + 1

def lineComment (bytes : List UInt8) : LexedToken :=
  plain .lineComment ((bytes.findIdx? (· == '\n'.toUInt8)).getD bytes.length)

/-- Where the comment ends, from behind its opening. -/
def blockCommentEnd (nested : Bool) : Nat → List UInt8 → Option Nat
  | _, [] => none
  | _, [_] => none
  | depth, b :: next :: bytes =>
    if b == '*'.toUInt8 && next == '/'.toUInt8 then
      if depth = 1 then some 2 else (blockCommentEnd nested (depth - 1) bytes).map (· + 2)
    else if b == '/'.toUInt8 && next == '*'.toUInt8 && nested then
      (blockCommentEnd nested (depth + 1) bytes).map (· + 2)
    else (blockCommentEnd nested depth (next :: bytes)).map (· + 1)

/-- Where a quoted text ends, from behind its opening quote. -/
def quoteEnd (quote : UInt8) (backslash : Bool) : List UInt8 → Option Nat
  | [] => none
  | [b] => if backslash && b == '\\'.toUInt8 then none else if b == quote then some 1 else none
  | b :: next :: bytes =>
    if backslash && b == '\\'.toUInt8 then (quoteEnd quote backslash bytes).map (· + 2)
    else if b == quote then
      if next == quote then (quoteEnd quote backslash bytes).map (· + 2) else some 1
    else (quoteEnd quote backslash (next :: bytes)).map (· + 1)

/-- Where a bracketed name ends, from behind its opening bracket. -/
def bracketEnd (doubling : Bool) : List UInt8 → Option Nat
  | [] => none
  | [b] => if b == ']'.toUInt8 then some 1 else none
  | b :: next :: bytes =>
    if b == ']'.toUInt8 then
      if doubling && next == ']'.toUInt8 then (bracketEnd doubling bytes).map (· + 2) else some 1
    else (bracketEnd doubling (next :: bytes)).map (· + 1)

def isTagPart (b : UInt8) : Bool := isAsciiAlphanumeric b || b == '_'.toUInt8 || 0x80 ≤ b

/-- Where the opening of a dollar quote ends. -/
def taggedOpenerEnd : List UInt8 → Option Nat
  | _ :: first :: bytes =>
    if first == '$'.toUInt8 then some 2
    else if !(isAsciiAlphabetic first || first == '_'.toUInt8 || 0x80 ≤ first) then none
    else
      let tag := ((first :: bytes).takeWhile isTagPart).length
      if (first :: bytes)[tag]? = some '$'.toUInt8 then some (tag + 2) else none
  | _ => none

/-! ### The lexer of a grammar -/

section Grammar

variable (lexical : ScriptSyntax) (settings : LexicalSettings)

def isWordStart (b : UInt8) : Bool :=
  isAsciiAlphabetic b || b == '_'.toUInt8 || 0x80 ≤ b || lexical.wordStartExtra.contains b

def isWordPart (b : UInt8) : Bool :=
  isAsciiAlphanumeric b || b == '_'.toUInt8 || 0x80 ≤ b || lexical.wordPartExtra.contains b

def dashCommentStarts (bytes : List UInt8) : Bool :=
  !lexical.dashCommentNeedsSpace ||
    (bytes[2]?).all fun b => isAsciiWhitespace b || isAsciiControl b

def hashCommentStarts (next : Option UInt8) : Bool :=
  match lexical.hashComment with
  | .none => false
  | .always => true
  | .spaceOrBang => next == some ' '.toUInt8 || next == some '!'.toUInt8

def blockComment (bytes : List UInt8) : LexedToken :=
  match blockCommentEnd lexical.nestedBlockComments 1 (bytes.drop 2) with
  | some stop => plain .blockComment (stop + 2)
  | none => unterminated .blockComment bytes

def doubleQuoteRule : QuoteRule :=
  if settings.ansiQuotes && lexical.doubleQuote.kind == .stringLiteral then
    { kind := .quotedIdentifier, backslash := .never }
  else lexical.doubleQuote

def BackslashPolicy.applies (policy : BackslashPolicy) : Bool :=
  match policy with
  | .never => false
  | .always => true
  | .whenEnabled => settings.backslashEscapes

def quoted (rule : QuoteRule) (quote : UInt8) (bytes : List UInt8) : LexedToken :=
  let (kind, construct) : ScriptTokenKind × OpenConstruct :=
    match rule.kind with
    | .stringLiteral => (.stringLiteral, .stringLiteral)
    | .quotedIdentifier => (.quotedIdentifier, .quotedIdentifier)
  match quoteEnd quote (BackslashPolicy.applies settings rule.backslash) (bytes.drop 1) with
  | some stop => plain kind (stop + 1)
  | none => unterminated construct bytes

def escapeString (bytes : List UInt8) : LexedToken :=
  match quoteEnd '\''.toUInt8 true (bytes.drop 2) with
  | some stop => plain .stringLiteral (stop + 2)
  | none => unterminated .stringLiteral bytes

def bracketName (doubling : Bool) (bytes : List UInt8) : LexedToken :=
  match bracketEnd doubling (bytes.drop 1) with
  | some stop => plain .quotedIdentifier (stop + 1)
  | none => unterminated .quotedIdentifier bytes

def bracketed (bytes : List UInt8) : LexedToken :=
  match lexical.bracketIdentifier with
  | .none => plain .punct 1
  | .noDoubling => bracketName false bytes
  | .doubling => bracketName true bytes

def startsWordPart (delimiter : List UInt8) : Bool := delimiter.head?.any (isWordPart lexical)

/-- A delimiter made of a word is one only where the word ends. -/
def delimiterAt (delimiter bytes : List UInt8) : Bool :=
  !delimiter.isEmpty && delimiter.isPrefixOf bytes &&
    (!startsWordPart lexical delimiter || !(bytes[delimiter.length]?).any (isWordPart lexical))

/-- Where a word ends, from behind its first byte. -/
def wordRest (delimiter : Option (List UInt8)) : List UInt8 → Nat
  | [] => 0
  | b :: bytes =>
    if !isWordPart lexical b || delimiter.any fun d => delimiterAt lexical d (b :: bytes) then 0
    else wordRest delimiter bytes + 1

variable (delimiter : Option (List UInt8))

def wordEnd (bytes : List UInt8) : Nat :=
  wordRest lexical (delimiter.filter (startsWordPart lexical)) (bytes.drop 1) + 1

def word (bytes : List UInt8) : LexedToken :=
  let stop := wordEnd lexical delimiter bytes
  if lexical.escapeStringPrefix && stop == 1 &&
      (bytes.head? == some 'e'.toUInt8 || bytes.head? == some 'E'.toUInt8) &&
      bytes[1]? == some '\''.toUInt8 then
    escapeString bytes
  else plain .word stop

/-- The openings known to have no closing; one is searched for only once. -/
abbrev Missing := List (List UInt8)

def heredocClose (missing : Missing) (close : Nat) (bytes : List UInt8) : Option Nat × Missing :=
  let opener := bytes.take (close + 1)
  if missing.contains opener then (none, missing)
  else
    match find opener (bytes.drop (close + 1)) with
    | some offset => (some (close + 1 + offset + opener.length), missing)
    | none => (none, opener :: missing)

def dollarWord (bytes : List UInt8) : LexedToken :=
  if isWordStart lexical '$'.toUInt8 then word lexical delimiter bytes else plain .punct 1

def dollar (missing : Missing) (delimiter : Option (List UInt8)) (bytes : List UInt8) :
    LexedToken × Missing :=
  match lexical.dollarQuote with
  | .tagged =>
    match taggedOpenerEnd bytes with
    | some openerEnd =>
      let opener := bytes.take openerEnd
      match find opener (bytes.drop openerEnd) with
      | some offset => (plain .dollarQuoted (openerEnd + offset + opener.length), missing)
      | none => (unterminated .dollarQuoted bytes, missing)
    | none => (dollarWord lexical delimiter bytes, missing)
  | .heredoc =>
    match (bytes.drop 1).findIdx? (· == '$'.toUInt8) with
    | some offset =>
      match heredocClose missing (offset + 1) bytes with
      | (some stop, missing) => (plain .dollarQuoted stop, missing)
      | (none, missing) => (unterminated .dollarQuoted bytes, missing)
    | none => (dollarWord lexical delimiter bytes, missing)
  | .none => (dollarWord lexical delimiter bytes, missing)

/-- The token that does not start with a dollar sign. -/
def lexPlain (first : UInt8) (bytes : List UInt8) : LexedToken :=
  let next := bytes[1]?
  if isSpace first then plain .whitespace (whitespaceEnd bytes)
  else if first == '-'.toUInt8 && next == some '-'.toUInt8 && dashCommentStarts lexical bytes then
    lineComment bytes
  else if first == '#'.toUInt8 && hashCommentStarts lexical next then lineComment bytes
  else if first == '/'.toUInt8 && next == some '*'.toUInt8 then blockComment lexical bytes
  else if first == '/'.toUInt8 && next == some '/'.toUInt8 && lexical.slashSlashComment then
    lineComment bytes
  else if first == '\''.toUInt8 then quoted settings lexical.singleQuote first bytes
  else if first == '"'.toUInt8 then quoted settings (doubleQuoteRule lexical settings) first bytes
  else if first == '`'.toUInt8 then
    match lexical.backtick with
    | some rule => quoted settings rule first bytes
    | none => plain .punct 1
  else if first == '['.toUInt8 then bracketed lexical bytes
  else if first == ';'.toUInt8 && delimiter.isNone then plain .semicolon 1
  else if first == '('.toUInt8 then plain .openParen 1
  else if first == ')'.toUInt8 then plain .closeParen 1
  else if isAsciiDigit first then plain .number (wordEnd lexical delimiter bytes)
  else if isWordStart lexical first then word lexical delimiter bytes
  else plain .punct 1

def lexAt (missing : Missing) (delimiter : Option (List UInt8)) (first : UInt8)
    (bytes : List UInt8) : LexedToken × Missing :=
  if first == '$'.toUInt8 then dollar lexical missing delimiter bytes
  else (lexPlain lexical settings delimiter first bytes, missing)

end Grammar

structure Lexer where
  bytes : List UInt8
  lexical : ScriptSyntax
  settings : LexicalSettings
  pos : Nat
  missingHeredocClosers : Missing
  deriving DecidableEq, Repr

namespace Lexer

def new (text : List Char) (lexical : ScriptSyntax) (settings : LexicalSettings) : Lexer :=
  { bytes := encode text
    lexical := lexical
    settings := settings
    pos := 0
    missingHeredocClosers := [] }

def rest (lexer : Lexer) : List UInt8 := lexer.bytes.drop lexer.pos

def atLineStart (lexer : Lexer) : Bool :=
  lexer.pos == 0 || lexer.bytes[lexer.pos - 1]? == some '\n'.toUInt8

def skipTo (lexer : Lexer) (stop : Nat) : Lexer :=
  { lexer with pos := min stop lexer.bytes.length }

def nextToken (lexer : Lexer) (delimiter : Option (List UInt8)) : Option (LexedToken × Lexer) :=
  match lexer.rest with
  | [] => none
  | first :: bytes =>
    let (token, missing) :=
      match delimiter with
      | some text =>
        if delimiterAt lexer.lexical text (first :: bytes) then
          (plain .semicolon text.length, lexer.missingHeredocClosers)
        else
          lexAt lexer.lexical lexer.settings lexer.missingHeredocClosers delimiter first
            (first :: bytes)
      | none =>
        lexAt lexer.lexical lexer.settings lexer.missingHeredocClosers delimiter first
          (first :: bytes)
    some (token,
      { lexer with pos := lexer.pos + token.length, missingHeredocClosers := missing })

def tokens (delimiter : Option (List UInt8)) : Nat → Lexer → List ScriptToken
  | 0, _ => []
  | count + 1, lexer =>
    match lexer.nextToken delimiter with
    | none => []
    | some (token, next) =>
      { kind := token.kind, start := lexer.pos, stop := lexer.pos + token.length } ::
        tokens delimiter count next

end Lexer

/-- All tokens of a text. Each has at least one byte. -/
def lexScript (text : List Char) (grammar : SqlGrammar) (settings : LexicalSettings)
    (delimiter : Option (List UInt8)) : List ScriptToken :=
  (Lexer.new text (rulesFor grammar).lexical settings).tokens delimiter (encode text).length

end Bookie.Script
