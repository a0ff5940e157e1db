/-
The lexical rules of the SQL grammars: how each quotes, comments and ends its
statements.
-/

import Mathlib.Data.List.Basic

namespace Bookie.Script

inductive SqlGrammar where
  | postgreSql
  | mySql
  | sqlite
  | msSql
  | clickHouse
  deriving DecidableEq, Repr

structure LexicalSettings where
  backslashEscapes : Bool
  ansiQuotes : Bool
  deriving DecidableEq, Repr

def LexicalSettings.defaultFor : SqlGrammar → LexicalSettings
  | .mySql | .clickHouse => { backslashEscapes := true, ansiQuotes := false }
  | .postgreSql | .sqlite | .msSql => { backslashEscapes := false, ansiQuotes := false }

inductive Boundary where
  | semicolon
  | delimiterDirectives
  | goBatch
  deriving DecidableEq, Repr

inductive CompoundRule where
  | none
  | routineBody
  | triggerBody
  deriving DecidableEq, Repr

inductive BackslashPolicy where
  | never
  | always
  | whenEnabled
  deriving DecidableEq, Repr

inductive QuoteKind where
  | stringLiteral
  | quotedIdentifier
  deriving DecidableEq, Repr

structure QuoteRule where
  kind : QuoteKind
  backslash : BackslashPolicy
  deriving DecidableEq, Repr

inductive BracketIdentifier where
  | none
  | noDoubling
  | doubling
  deriving DecidableEq, Repr

inductive HashComment where
  | none
  | always
  | spaceOrBang
  deriving DecidableEq, Repr

inductive DollarQuote where
  | none
  | tagged
  | heredoc
  deriving DecidableEq, Repr

structure ScriptSyntax where
  singleQuote : QuoteRule
  doubleQuote : QuoteRule
  backtick : Option QuoteRule
  bracketIdentifier : BracketIdentifier
  escapeStringPrefix : Bool
  dashCommentNeedsSpace : Bool
  hashComment : HashComment
  slashSlashComment : Bool
  nestedBlockComments : Bool
  dollarQuote : DollarQuote
  wordStartExtra : List UInt8
  wordPartExtra : List UInt8
  deriving DecidableEq, Repr

inductive BatchErrorPolicy where
  | stopScript
  | continueNextBatch
  deriving DecidableEq, Repr

structure ScriptRules where
  boundary : Boundary
  compound : CompoundRule
  parensHoldSemicolons : Bool
  batchError : BatchErrorPolicy
  lexical : ScriptSyntax
  deriving DecidableEq, Repr

def ascii (characters : List Char) : List UInt8 := characters.map Char.toUInt8

def postgresqlRules : ScriptRules :=
  { boundary := .semicolon
    compound := .routineBody
    parensHoldSemicolons := true
    batchError := .stopScript
    lexical :=
      { singleQuote := { kind := .stringLiteral, backslash := .whenEnabled }
        doubleQuote := { kind := .quotedIdentifier, backslash := .never }
        backtick := none
        bracketIdentifier := .none
        escapeStringPrefix := true
        dashCommentNeedsSpace := false
        hashComment := .none
        slashSlashComment := false
        nestedBlockComments := true
        dollarQuote := .tagged
        wordStartExtra := ascii []
        wordPartExtra := ascii ['$'] } }

def mysqlRules : ScriptRules :=
  { boundary := .delimiterDirectives
    compound := .none
    parensHoldSemicolons := false
    batchError := .stopScript
    lexical :=
      { singleQuote := { kind := .stringLiteral, backslash := .whenEnabled }
        doubleQuote := { kind := .stringLiteral, backslash := .whenEnabled }
        backtick := some { kind := .quotedIdentifier, backslash := .never }
        bracketIdentifier := .none
        escapeStringPrefix := false
        dashCommentNeedsSpace := true
        hashComment := .always
        slashSlashComment := false
        nestedBlockComments := false
        dollarQuote := .none
        wordStartExtra := ascii ['$']
        wordPartExtra := ascii ['$'] } }

def sqliteRules : ScriptRules :=
  { boundary := .semicolon
    compound := .triggerBody
    parensHoldSemicolons := false
    batchError := .stopScript
    lexical :=
      { singleQuote := { kind := .stringLiteral, backslash := .never }
        doubleQuote := { kind := .quotedIdentifier, backslash := .never }
        backtick := some { kind := .quotedIdentifier, backslash := .never }
        bracketIdentifier := .noDoubling
        escapeStringPrefix := false
        dashCommentNeedsSpace := false
        hashComment := .none
        slashSlashComment := false
        nestedBlockComments := false
        dollarQuote := .none
        wordStartExtra := ascii ['$']
        wordPartExtra := ascii ['$'] } }

def mssqlRules : ScriptRules :=
  { boundary := .goBatch
    compound := .none
    parensHoldSemicolons := false
    batchError := .continueNextBatch
    lexical :=
      { singleQuote := { kind := .stringLiteral, backslash := .never }
        doubleQuote := { kind := .quotedIdentifier, backslash := .never }
        backtick := none
        bracketIdentifier := .doubling
        escapeStringPrefix := false
        dashCommentNeedsSpace := false
        hashComment := .none
        slashSlashComment := false
        nestedBlockComments := true
        dollarQuote := .none
        wordStartExtra := ascii ['@', '#']
        wordPartExtra := ascii ['@', '#', '$'] } }

def clickhouseRules : ScriptRules :=
  { boundary := .semicolon
    compound := .none
    parensHoldSemicolons := false
    batchError := .stopScript
    lexical :=
      { singleQuote := { kind := .stringLiteral, backslash := .always }
        doubleQuote := { kind := .quotedIdentifier, backslash := .always }
        backtick := some { kind := .quotedIdentifier, backslash := .always }
        bracketIdentifier := .none
        escapeStringPrefix := false
        dashCommentNeedsSpace := false
        hashComment := .spaceOrBang
        slashSlashComment := true
        nestedBlockComments := true
        dollarQuote := .heredoc
        wordStartExtra := ascii []
        wordPartExtra := ascii [] } }

def rulesFor : SqlGrammar → ScriptRules
  | .postgreSql => postgresqlRules
  | .mySql => mysqlRules
  | .sqlite => sqliteRules
  | .msSql => mssqlRules
  | .clickHouse => clickhouseRules

end Bookie.Script
