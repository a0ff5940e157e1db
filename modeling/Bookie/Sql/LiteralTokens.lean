/-
Rendered texts and names stay inside their tokens. The scan for the closing quote of
a rendered text stops at the one that was put there, whatever the text, and reading
the token back gives the text.
-/

import Bookie.Sql.Literal
import Bookie.Sql.Spans

namespace Bookie.Sql

open Script Text List BackslashPolicy

/-- The text between the quotes: the closing quote doubled and, where asked for, the
backslash as well. -/
def escapeText (quote : Char) (doubling : Bool) (text : List Char) : List Char :=
  replaceChar quote [quote, quote] (if doubling then replaceChar '\\' ['\\', '\\'] text else text)

def escapeChar (quote : Char) (doubling : Bool) (c : Char) : List Char :=
  if doubling = true ∧ c = '\\' then ['\\', '\\'] else if c = quote then [quote, quote] else [c]

private theorem escapeText_cons {quote : Char} (notBackslash : quote ≠ '\\') (doubling : Bool)
    (c : Char) (text : List Char) :
    escapeText quote doubling (c :: text) =
      escapeChar quote doubling c ++ escapeText quote doubling text := by
  cases doubling with
  | false =>
    exact replaceChar_cons quote _ c text
  | true =>
  simp only [escapeText, escapeChar, if_true, true_and]
  rw [replaceChar_cons, replaceChar_append]
  by_cases backslash : c = '\\'
  · rw [if_pos backslash, if_pos backslash]
    simp [replaceChar, notBackslash.symm]
  · rw [if_neg backslash, if_neg backslash]
    simp [replaceChar]

private theorem escapeText_nil (quote : Char) (doubling : Bool) :
    escapeText quote doubling [] = [] := by
  cases doubling <;> rfl

section Escaped

variable {quote : Char} {backslash doubling : Bool}

variable {c : Char} {text : List Char}

private theorem plain_cons (plain : backslash = doubling ∨ '\\' ∉ c :: text) :
    (backslash = doubling ∨ c ≠ '\\') ∧ (backslash = doubling ∨ '\\' ∉ text) := by
  rw [mem_cons, not_or] at plain
  exact ⟨plain.imp_right fun none => none.1 ∘ Eq.symm, plain.imp_right And.right⟩

private theorem not_escape (plain : backslash = doubling ∨ c ≠ '\\')
    (escape : ¬ (doubling = true ∧ c = '\\')) : (backslash && c == '\\') = false := by
  rw [Bool.and_eq_false_iff, beq_eq_false_iff_ne]
  by_cases isBackslash : c = '\\'
  · left
    rw [plain.resolve_right (not_not_intro isBackslash)]
    exact Bool.eq_false_iff.mpr fun double => escape ⟨double, isBackslash⟩
  · exact .inr isBackslash

/-- The scan steps over an escaped character as a whole. -/
private theorem quoteEnd_escapeChar (low : quote.toNat < 128) (notBackslash : quote ≠ '\\')
    (plain : backslash = doubling ∨ c ≠ '\\') (bytes : List UInt8) :
    quoteEnd quote.toUInt8 backslash (encode (escapeChar quote doubling c) ++ bytes) =
      (quoteEnd quote.toUInt8 backslash bytes).map
        (· + (encode (escapeChar quote doubling c)).length) := by
  rw [escapeChar]
  by_cases escape : doubling = true ∧ c = '\\'
  · obtain ⟨rfl, rfl⟩ := escape
    obtain rfl : backslash = true := plain.resolve_right (absurd rfl)
    rfl
  rw [if_neg escape]
  by_cases isQuote : c = quote
  · rw [if_pos isQuote, encode_ascii_cons low, encode_ascii_cons low]
    simp only [cons_append, encode_nil, nil_append]
    rw [quoteEnd_close _ (not_backslash_byte low notBackslash), head?_cons, if_pos rfl]
    rfl
  · rw [if_neg isQuote, encode_cons, encode_nil, append_nil]
    exact quoteEnd_char low bytes (not_escape plain escape) isQuote

private theorem quoteEnd_escapeText (low : quote.toNat < 128) (notBackslash : quote ≠ '\\')
    {after : List Char} (plain : backslash = doubling ∨ '\\' ∉ text)
    (ends : after.head? ≠ some quote) :
    quoteEnd quote.toUInt8 backslash (encode (escapeText quote doubling text ++ quote :: after)) =
      some ((encode (escapeText quote doubling text)).length + 1) := by
  induction text with
  | nil =>
    have closes : (backslash && quote.toUInt8 == '\\'.toUInt8) = false :=
      not_backslash_byte low notBackslash
    rw [escapeText_nil, nil_append, encode_ascii_cons low, quoteEnd_close _ closes,
      if_neg (ends ∘ (head_encode low after).mp)]
    rfl
  | cons c text ih =>
    obtain ⟨plainHere, plainRest⟩ := plain_cons plain
    rw [escapeText_cons notBackslash, append_assoc, encode_append,
      quoteEnd_escapeChar low notBackslash plainHere, ih plainRest, encode_append,
      length_append, Option.map_some]
    congr 1
    omega

section Reading

variable {escaped : Char → List Char} (backslashItself : escaped '\\' = ['\\'])
include backslashItself

private theorem unquote_escapeChar (notBackslash : quote ≠ '\\')
    (plain : backslash = doubling ∨ c ≠ '\\') {rest : List Char} (more : rest ≠ []) :
    unquote escaped quote backslash (escapeChar quote doubling c ++ rest) =
      (unquote escaped quote backslash rest).map (c :: ·) := by
  rw [escapeChar]
  by_cases escape : doubling = true ∧ c = '\\'
  · obtain ⟨rfl, rfl⟩ := escape
    obtain rfl : backslash = true := plain.resolve_right (absurd rfl)
    rw [if_pos ⟨rfl, rfl⟩, cons_append, singleton_append, unquote, backslashItself]
    rfl
  rw [if_neg escape]
  by_cases isQuote : c = quote
  · rw [if_pos isQuote, cons_append, singleton_append, unquote]
    simp [notBackslash, isQuote]
  obtain ⟨next, rest, rfl⟩ := exists_cons_of_ne_nil more
  rw [if_neg isQuote, singleton_append, unquote, not_escape plain escape]
  simp [isQuote]

private theorem unquote_escapeText (notBackslash : quote ≠ '\\')
    (plain : backslash = doubling ∨ '\\' ∉ text) :
    unquote escaped quote backslash (escapeText quote doubling text ++ [quote]) = some text := by
  induction text with
  | nil =>
    rw [escapeText_nil, nil_append, unquote, if_pos rfl]
  | cons c text ih =>
    obtain ⟨plainHere, plainRest⟩ := plain_cons plain
    rw [escapeText_cons notBackslash, append_assoc,
      unquote_escapeChar backslashItself notBackslash plainHere (by simp), ih plainRest]
    rfl

end Reading

end Escaped

private theorem hexDigitValue_hexDigit : ∀ nibble < 16,
    hexDigitValue (Char.ofNat (hexDigit nibble).toNat) = some nibble := by
  decide

variable (bytes : List UInt8)

private theorem hexDecode_hexText : hexDecode (hexText bytes) = some bytes := by
  induction bytes with
  | nil => rfl
  | cons byte bytes ih =>
    have small := byte.toNat_lt
    have digits : hexText (byte :: bytes) = Char.ofNat (hexDigit (byte.toNat / 16)).toNat ::
        Char.ofNat (hexDigit (byte.toNat % 16)).toNat :: hexText bytes := rfl
    rw [digits, hexDecode, hexDigitValue_hexDigit _ (by omega), hexDigitValue_hexDigit _ (by omega),
      ih]
    have value : 16 * (byte.toNat / 16) + byte.toNat % 16 = byte.toNat := Nat.div_add_mod _ _
    simp only [Option.bind_eq_bind, Option.bind_some, value, UInt8.ofNat_toNat]

private theorem backslash_hexText : '\\' ∉ hexText bytes :=
  fun member => (hexText_plain bytes _ member).2 rfl

private theorem escapeText_hexText : escapeText '\'' false (hexText bytes) = hexText bytes :=
  replaceChar_of_notMem fun member => (hexText_plain bytes _ member).1 rfl

/-! ### Token by token -/

section Tokens

variable (lexical : ScriptSyntax) (settings : LexicalSettings) (delimiter : Option (List UInt8))

/-- The lexer reads the first characters as one token of the kind. -/
structure Reads (kind : ScriptTokenKind) (piece more : List Char) : Prop where
  nonempty : piece ≠ []
  token : ∀ lexer : Lexer, lexer.lexical = lexical → lexer.settings = settings →
    lexer.rest = encode (piece ++ more) →
    lexer.nextToken delimiter = some (plain kind (encode piece).length,
      { lexer with pos := lexer.pos + (encode piece).length })

def texts (pieces : List (ScriptTokenKind × List Char)) : List Char := pieces.flatMap Prod.snd

def placed : Nat → List (ScriptTokenKind × List Char) → List ScriptToken
  | _, [] => []
  | start, (kind, piece) :: pieces =>
    { kind := kind, start := start, stop := start + (encode piece).length } ::
      placed (start + (encode piece).length) pieces

def ReadsAll : List (ScriptTokenKind × List Char) → List Char → Prop
  | [], _ => True
  | (kind, piece) :: pieces, after =>
    Reads lexical settings delimiter kind piece (texts pieces ++ after) ∧ ReadsAll pieces after

variable {lexical settings delimiter}

private theorem nextToken_pos {lexer next : Lexer} {token : LexedToken}
    (step : lexer.nextToken delimiter = some (token, next)) :
    next.pos = lexer.pos + token.length := by
  rw [Lexer.nextToken] at step
  cases left : lexer.rest with
  | nil =>
    rw [left] at step
    cases step
  | cons first bytes =>
    rw [left] at step
    obtain ⟨rfl, rfl⟩ := Prod.mk.inj (Option.some.inj step)
    rfl

private theorem tokens_start (count : Nat) (lexer : Lexer) :
    ∀ token ∈ lexer.tokens delimiter count, lexer.pos ≤ token.start := by
  induction count generalizing lexer with
  | zero => intro _ member; cases member
  | succ count ih =>
    intro token member
    rw [Lexer.tokens] at member
    cases step : lexer.nextToken delimiter with
    | none =>
      rw [step] at member
      cases member
    | some read =>
    obtain ⟨first, next⟩ := read
    rw [step] at member
    have behind : lexer.pos ≤ next.pos := by
      rw [nextToken_pos step]
      exact Nat.le_add_right _ _
    rcases mem_cons.mp member with rfl | inRest
    · exact Nat.le.refl
    · exact behind.trans (ih next token inRest)

/-- The pieces are the first tokens, and no token starts before they end. -/
private theorem tokens_of_readsAll {pieces : List (ScriptTokenKind × List Char)} {after : List Char}
    (reads : ReadsAll lexical settings delimiter pieces after) (count : Nat) (lexer : Lexer)
    (sameLexical : lexer.lexical = lexical) (sameSettings : lexer.settings = settings)
    (rest : lexer.rest = encode (texts pieces ++ after))
    (enough : (encode (texts pieces)).length ≤ count) :
    ∃ others, lexer.tokens delimiter count = placed lexer.pos pieces ++ others ∧
      ∀ token ∈ others, lexer.pos + (encode (texts pieces)).length ≤ token.start := by
  induction pieces generalizing count lexer with
  | nil => exact ⟨_, rfl, fun token member => tokens_start count lexer token member⟩
  | cons first pieces ih =>
    obtain ⟨kind, piece⟩ := first
    obtain ⟨here, behind⟩ := reads
    have size : (encode (texts ((kind, piece) :: pieces))).length =
        (encode piece).length + (encode (texts pieces)).length := by
      rw [texts, flatMap_cons, encode_append, length_append]
      rfl
    have positive : 0 < (encode piece).length := by
      obtain ⟨c, piece, rfl⟩ := exists_cons_of_ne_nil here.nonempty
      obtain ⟨byte, bytes, shape⟩ := encode_cons_shape c piece
      rw [shape]
      exact Nat.zero_lt_succ _
    have split : texts ((kind, piece) :: pieces) ++ after = piece ++ (texts pieces ++ after) := by
      rw [texts, flatMap_cons, append_assoc]
      rfl
    rw [split] at rest
    obtain ⟨count, rfl⟩ : ∃ fewer, count = fewer + 1 := ⟨count - 1, by omega⟩
    have next := here.token lexer sameLexical sameSettings rest
    obtain ⟨others, tokens, later⟩ := ih behind count
      { lexer with pos := lexer.pos + (encode piece).length } sameLexical sameSettings
      (by
        rw [Lexer.rest, ← drop_drop]
        rw [Lexer.rest] at rest
        rw [rest, encode_append, drop_left])
      (by omega)
    refine ⟨others, ?_, ?_⟩
    · rw [Lexer.tokens, next]
      dsimp only
      rw [tokens]
      rfl
    intro token member
    have start := later token member
    dsimp only at start
    omega

/-! ### The pieces of a rendered text -/

/-- What ends a statement before any other delimiter is set. -/
def IsInitial (delimiter : Option (List UInt8)) : Prop :=
  delimiter = none ∨ delimiter = some [';'.toUInt8]

private theorem reads_of_lexPlain {kind : ScriptTokenKind} {c : Char} {piece more : List Char}
    (initial : IsInitial delimiter) (low : c.toNat < 128) (notDollar : c ≠ '$')
    (notSemicolon : c ≠ ';')
    (token : lexPlain lexical settings delimiter c.toUInt8 (encode (c :: (piece ++ more))) =
      plain kind (encode (c :: piece)).length) :
    Reads lexical settings delimiter kind (c :: piece) more := by
  refine ⟨by simp, ?_⟩
  rintro lexer rfl rfl rest
  rw [cons_append] at rest
  have differs {d : Char} (lowD : d.toNat < 128) (other : c ≠ d) :
      (c.toUInt8 == d.toUInt8) = false :=
    beq_eq_false_iff_ne.mpr fun same => other ((toUInt8_inj low lowD).mp same)
  have lexed : lexAt lexer.lexical lexer.settings lexer.missingHeredocClosers delimiter c.toUInt8
      (c.toUInt8 :: encode (piece ++ more)) =
        (plain kind (encode (c :: piece)).length, lexer.missingHeredocClosers) := by
    rw [lexAt, differs (by decide) notDollar, ← encode_ascii_cons low, token]
    rfl
  rw [Lexer.nextToken, rest, encode_ascii_cons low]
  rcases initial with rfl | rfl
  · dsimp only
    rw [lexed]
    rfl
  have apart : delimiterAt lexer.lexical [';'.toUInt8] (c.toUInt8 :: encode (piece ++ more)) =
      false := by
    have other : (';'.toUInt8 == c.toUInt8) = false := by
      rw [BEq.comm]
      exact differs (by decide) notSemicolon
    simp [delimiterAt, isPrefixOf, other]
  dsimp only
  rw [apart, lexed]
  rfl

def kindOfQuote : QuoteKind → ScriptTokenKind
  | .stringLiteral => .stringLiteral
  | .quotedIdentifier => .quotedIdentifier

private theorem length_quotedText {opening quote : Char} (lowOpening : opening.toNat < 128)
    (low : quote.toNat < 128) (inside : List Char) :
    (encode (opening :: (inside ++ [quote]))).length = (encode inside).length + 1 + 1 := by
  rw [encode_ascii_cons lowOpening, length_cons, encode_append, length_append,
    encode_ascii_cons low]
  rfl

private theorem quoted_escapeText {rule : QuoteRule} {quote : Char} {doubling : Bool}
    (low : quote.toNat < 128)
    (notBackslash : quote ≠ '\\') {text more : List Char}
    (plain' : applies settings rule.backslash = doubling ∨ '\\' ∉ text)
    (ends : more.head? ≠ some quote) :
    quoted settings rule quote.toUInt8
        (encode (quote :: (escapeText quote doubling text ++ [quote] ++ more))) =
      plain (kindOfQuote rule.kind)
        (encode (quote :: (escapeText quote doubling text ++ [quote]))).length := by
  rw [length_quotedText low low, append_assoc, singleton_append, encode_ascii_cons low,
    quoted, drop_one, tail_cons, quoteEnd_escapeText low notBackslash plain' ends]
  cases rule.kind <;> rfl

private theorem bracketEnd_doubling : bracketEnd true bytes = quoteEnd ']'.toUInt8 false bytes := by
  fun_induction bracketEnd true bytes with
  | case1 => rfl
  | case2 b closes => simp [quoteEnd, closes]
  | case3 b other => simp [quoteEnd, other]
  | case4 b next bytes closes doubled ih =>
    rw [quoteEnd]
    simp_all
  | case5 b next bytes closes single =>
    rw [quoteEnd]
    simp_all
  | case6 b next bytes other ih =>
    rw [quoteEnd, ← ih]
    simp [other]

private theorem bracketName_escapeText {text more : List Char} (ends : more.head? ≠ some ']') :
    bracketName true (encode ('[' :: (escapeText ']' false text ++ [']'] ++ more))) =
      plain .quotedIdentifier (encode ('[' :: (escapeText ']' false text ++ [']']))).length := by
  rw [length_quotedText (by decide) (by decide), append_assoc, singleton_append,
    encode_ascii_cons (by decide), bracketName, drop_one, tail_cons, bracketEnd_doubling,
    quoteEnd_escapeText (by decide) (by decide) (.inl rfl) ends]

private theorem reads_single (grammar : SqlGrammar) (initial : IsInitial delimiter)
    {doubling : Bool} {text more : List Char}
    (plain' : applies settings (rulesFor grammar).lexical.singleQuote.backslash =
      doubling ∨ '\\' ∉ text)
    (ends : more.head? ≠ some '\'') :
    Reads (rulesFor grammar).lexical settings delimiter .stringLiteral
      ('\'' :: (escapeText '\'' doubling text ++ ['\''])) more := by
  apply reads_of_lexPlain initial (by decide) (by decide) (by decide)
  have token := @quoted_escapeText settings (rulesFor grammar).lexical.singleQuote '\'' doubling
    (by decide) (by decide) text more plain' ends
  have kind : kindOfQuote (rulesFor grammar).lexical.singleQuote.kind = .stringLiteral := by
    cases grammar <;> rfl
  rw [kind] at token
  exact token

private theorem reads_escape (initial : IsInitial delimiter) {text more : List Char}
    (ends : more.head? ≠ some '\'') :
    Reads postgresqlRules.lexical settings delimiter .stringLiteral
      ('E' :: '\'' :: (escapeText '\'' true text ++ ['\''])) more := by
  apply reads_of_lexPlain initial (by decide) (by decide) (by decide)
  have token : ∀ bytes, lexPlain postgresqlRules.lexical settings delimiter 'E'.toUInt8
      ('E'.toUInt8 :: '\''.toUInt8 :: bytes) =
        escapeString ('E'.toUInt8 :: '\''.toUInt8 :: bytes) := by
    intro bytes
    rcases initial with rfl | rfl <;> rfl
  rw [encode_ascii_cons (by decide), cons_append, encode_ascii_cons (by decide), token,
    escapeString, encode_ascii_cons (c := 'E') (by decide), length_cons,
    length_quotedText (by decide) (by decide), append_assoc, singleton_append]
  have scan := @quoteEnd_escapeText '\'' true true text (by decide) (by decide) more (.inl rfl) ends
  simp only [drop_succ_cons, drop_zero, scan]

end Tokens

/-! ### Forms of a literal -/

/-- What stands around the token that holds the text: the same for every text. -/
structure LiteralForm where
  front : List (ScriptTokenKind × List Char)
  back : List (ScriptTokenKind × List Char)
  hex : Bool

namespace LiteralForm

def bare : LiteralForm := { front := [], back := [], hex := false }

def national : LiteralForm := { front := [(.word, ['N'])], back := [], hex := false }

def utf8mb4 : LiteralForm :=
  { front := [(.word, "_utf8mb4".toList), (.whitespace, [' ']), (.word, ['X'])]
    back := []
    hex := true }

def castAsText : LiteralForm :=
  { front := [(.word, "CAST".toList), (.openParen, ['(']), (.word, ['X'])]
    back := [(.whitespace, [' ']), (.word, "AS".toList), (.whitespace, [' ']),
      (.word, "TEXT".toList), (.closeParen, [')'])]
    hex := true }

def formsFor : SqlGrammar → List LiteralForm
  | .postgreSql | .clickHouse => [bare]
  | .mySql => [bare, utf8mb4]
  | .sqlite => [bare, castAsText]
  | .msSql => [national]

def pieces (form : LiteralForm) (body : List Char) : List (ScriptTokenKind × List Char) :=
  form.front ++ (.stringLiteral, body) :: form.back

def decode (form : LiteralForm) (escaped : Char → List Char) (lexical : ScriptSyntax)
    (settings : LexicalSettings) (body : List Char) : Option (List UInt8) :=
  if form.hex then (decodeToken escaped lexical settings body).bind hexDecode
  else (decodeToken escaped lexical settings body).map encode

end LiteralForm

open LiteralForm

section Containment

variable (grammar : SqlGrammar) (settings : LexicalSettings) (delimiter : Option (List UInt8))
  (escaped : Char → List Char)

/-- The rendered text is the tokens of one of the forms and no token goes on behind it. One
of its tokens depends on the text, and that one stands for the text. -/
def LiteralContained (text after : List Char) : Prop :=
  ∃ form ∈ formsFor grammar, ∃ body others,
    stringLiteral (driverIdOf grammar) text = texts (form.pieces body) ∧
    lexScript (stringLiteral (driverIdOf grammar) text ++ after) grammar settings delimiter =
      placed 0 (form.pieces body) ++ others ∧
    (∀ token ∈ others, (encode (stringLiteral (driverIdOf grammar) text)).length ≤ token.start) ∧
    form.decode escaped (rulesFor grammar).lexical settings body = some (encode text)

/-- The rendered name is one token, which stands for the name. -/
def IdentContained (name after : List Char) : Prop :=
  ∃ others,
    lexScript (quoteIdent (driverIdOf grammar) name ++ after) grammar settings delimiter =
      placed 0 [(.quotedIdentifier, quoteIdent (driverIdOf grammar) name)] ++ others ∧
    (∀ token ∈ others, (encode (quoteIdent (driverIdOf grammar) name)).length ≤ token.start) ∧
    decodeToken escaped (rulesFor grammar).lexical settings
      (quoteIdent (driverIdOf grammar) name) = some name

variable {grammar settings delimiter escaped}

variable {after text : List Char}

private theorem lexScript_of_readsAll {pieces : List (ScriptTokenKind × List Char)}
    (reads : ReadsAll (rulesFor grammar).lexical settings delimiter pieces after) :
    ∃ others, lexScript (texts pieces ++ after) grammar settings delimiter =
        placed 0 pieces ++ others ∧
      ∀ token ∈ others, (encode (texts pieces)).length ≤ token.start := by
  obtain ⟨others, tokens, later⟩ := tokens_of_readsAll reads
    (encode (texts pieces ++ after)).length
    (Lexer.new (texts pieces ++ after) (rulesFor grammar).lexical settings) rfl rfl rfl (by
      rw [encode_append, length_append]
      exact Nat.le_add_right _ _)
  refine ⟨others, tokens, fun token member => ?_⟩
  have start := later token member
  rw [Lexer.new, Nat.zero_add] at start
  exact start

private theorem literalContained_of_reads {form : LiteralForm} {body : List Char}
    (known : form ∈ formsFor grammar)
    (rendered : stringLiteral (driverIdOf grammar) text = texts (form.pieces body))
    (reads : ReadsAll (rulesFor grammar).lexical settings delimiter (form.pieces body) after)
    (decodes : form.decode escaped (rulesFor grammar).lexical settings body = some (encode text)) :
    LiteralContained grammar settings delimiter escaped text after := by
  obtain ⟨others, tokens, later⟩ := lexScript_of_readsAll reads
  refine ⟨form, known, body, others, rendered, ?_, ?_, decodes⟩
  · rw [rendered]
    exact tokens
  · rw [rendered]
    exact later

section Initial

variable (initial : IsInitial delimiter)
include initial

private theorem reads_hex (grammar : SqlGrammar) (bytes : List UInt8)
    {more : List Char} (ends : more.head? ≠ some '\'') :
    Reads (rulesFor grammar).lexical settings delimiter .stringLiteral
      ('\'' :: (hexText bytes ++ ['\''])) more := by
  have reads := @reads_single settings delimiter grammar initial false (hexText bytes) more
    (.inr (backslash_hexText bytes)) ends
  rw [escapeText_hexText] at reads
  exact reads

/-- A token of fixed ASCII characters, with what ends it behind it. -/
private theorem reads_fixed {lexical : ScriptSyntax} {kind : ScriptTokenKind} {c : Char}
    {piece more : List Char} (low : (c :: piece).all (fun d => d.toNat < 128) = true)
    (notDollar : c ≠ '$') (notSemicolon : c ≠ ';')
    (token : lexPlain lexical settings delimiter c.toUInt8
        ((c :: piece).map Char.toUInt8 ++ encode more) = plain kind (c :: piece).length) :
    Reads lexical settings delimiter kind (c :: piece) more := by
  have lowAll : ∀ d ∈ c :: piece, d.toNat < 128 := by
    intro d member
    exact of_decide_eq_true (all_eq_true.mp low d member)
  have bytes := encode_low lowAll
  apply reads_of_lexPlain initial (lowAll c mem_cons_self) notDollar notSemicolon
  rw [← cons_append, encode_append, bytes, token, length_map]

end Initial

private theorem notMem_of_contains {c : Char} (absent : text.contains c = false) : c ∉ text := by
  rw [← contains_iff_mem, absent]
  decide

section Decoding

variable (backslashItself : escaped '\\' = ['\\'])
include backslashItself

private theorem decodeToken_single {doubling : Bool} {text : List Char} {lexical : ScriptSyntax}
    (plain' : applies settings lexical.singleQuote.backslash = doubling ∨
      '\\' ∉ text) :
    decodeToken escaped lexical settings ('\'' :: (escapeText '\'' doubling text ++ ['\''])) =
      some text := by
  exact unquote_escapeText backslashItself (by decide) plain'

private theorem decode_hex {form : LiteralForm} (isHex : form.hex = true)
    (lexical : ScriptSyntax) (bytes : List UInt8) :
    form.decode escaped lexical settings ('\'' :: (hexText bytes ++ ['\''])) = some bytes := by
  have token := @decodeToken_single settings escaped backslashItself false (hexText bytes) lexical
    (.inr (backslash_hexText bytes))
  rw [escapeText_hexText] at token
  rw [decode, if_pos isHex, token]
  exact hexDecode_hexText bytes

variable (initial : IsInitial delimiter)
include initial

private theorem contained_bare (doubling : Bool) (known : bare ∈ formsFor grammar)
    (ends : after.head? ≠ some '\'')
    (plain' : applies settings (rulesFor grammar).lexical.singleQuote.backslash = doubling ∨
      '\\' ∉ text)
    (rendered : stringLiteral (driverIdOf grammar) text =
      '\'' :: (escapeText '\'' doubling text ++ ['\''])) :
    LiteralContained grammar settings delimiter escaped text after := by
  have form : stringLiteral (driverIdOf grammar) text =
      texts (bare.pieces ('\'' :: (escapeText '\'' doubling text ++ ['\'']))) := by
    rw [rendered]
    simp [pieces, bare, texts]
  apply literalContained_of_reads known form
  · exact ⟨reads_single grammar initial plain' ends, trivial⟩
  · rw [decode, decodeToken_single backslashItself plain']
    rfl

private theorem contained_national (text : List Char) (ends : after.head? ≠ some '\'') :
    LiteralContained .msSql settings delimiter escaped text after := by
  have form : stringLiteral (driverIdOf .msSql) text =
      texts (national.pieces ('\'' :: (escapeText '\'' false text ++ ['\'']))) := by
    simp [stringLiteral, driverIdOf, quoteLiteral, pieces, national, texts,
      escapeText]
  apply literalContained_of_reads (by simp [formsFor]) form
  · refine ⟨reads_fixed initial rfl (by decide) (by decide) ?_, reads_single .msSql initial
      (.inl rfl) ends, trivial⟩
    rcases initial with rfl | rfl <;> rfl
  · have token := @decodeToken_single settings escaped backslashItself false text
      mssqlRules.lexical (.inl rfl)
    exact congrArg (Option.map encode) token

private theorem contained_utf8mb4 (unsafeText : (text.contains '\\' || text.contains '\x00') = true)
    (ends : after.head? ≠ some '\'') :
    LiteralContained .mySql settings delimiter escaped text after := by
  have form : stringLiteral (driverIdOf .mySql) text =
      texts (utf8mb4.pieces ('\'' :: (hexText (encode text) ++ ['\'']))) := by
    rw [stringLiteral, if_pos (by rw [unsafeText]; rfl)]
    simp [pieces, utf8mb4, texts]
  apply literalContained_of_reads (by simp [formsFor]) form
  · refine ⟨?_, ?_, ?_, reads_hex initial .mySql _ ends, trivial⟩ <;>
      refine reads_fixed initial rfl (by decide) (by decide) ?_ <;>
      rcases initial with rfl | rfl <;> rfl
  · exact decode_hex backslashItself rfl _ _

private theorem contained_castAsText (hasNul : text.contains '\x00' = true) :
    LiteralContained .sqlite settings delimiter escaped text after := by
  have form : stringLiteral (driverIdOf .sqlite) text =
      texts (castAsText.pieces ('\'' :: (hexText (encode text) ++ ['\'']))) := by
    rw [stringLiteral, if_neg (by simp [driverIdOf]), if_pos (by rw [hasNul]; rfl)]
    simp [pieces, castAsText, texts]
  apply literalContained_of_reads (by simp [formsFor]) form
  · have space (more : List Char) : (' ' :: more).head? ≠ some '\'' := fun same =>
      absurd (Option.some.inj same) (by decide)
    refine ⟨?_, ?_, ?_, reads_hex initial .sqlite _ (space _), ?_, ?_, ?_, ?_, ?_, trivial⟩ <;>
      refine reads_fixed initial rfl (by decide) (by decide) ?_ <;>
      rcases initial with rfl | rfl <;> rfl
  · exact decode_hex backslashItself rfl _ _

private theorem contained_escape (backslash : text.contains '\\' = true)
    (ends : after.head? ≠ some '\'') :
    LiteralContained .postgreSql settings delimiter escaped text after := by
  have form : stringLiteral (driverIdOf .postgreSql) text = texts
      (bare.pieces ('E' :: '\'' :: (escapeText '\'' true text ++ ['\'']))) := by
    rw [stringLiteral, backslash]
    simp [driverIdOf, escapeText, pieces, bare, texts]
  apply literalContained_of_reads (by simp [formsFor]) form
  · exact ⟨reads_escape initial ends, trivial⟩
  have token : decodeToken escaped postgresqlRules.lexical settings
      ('E' :: '\'' :: (escapeText '\'' true text ++ ['\''])) = some text := by
    exact unquote_escapeText backslashItself (by decide) (.inl rfl)
  exact congrArg (Option.map encode) token

/-- Every text, as the driver of any of the grammars renders it. -/
private theorem literal_contained (grammar : SqlGrammar)
    (text : List Char) (ends : after.head? ≠ some '\'') :
    LiteralContained grammar settings delimiter escaped text after := by
  cases grammar with
  | postgreSql =>
    cases backslash : text.contains '\\' with
    | true => exact contained_escape backslashItself initial backslash ends
    | false =>
    refine contained_bare backslashItself initial false (by simp [formsFor]) ends
      (.inr (notMem_of_contains backslash)) ?_
    rw [driverIdOf, stringLiteral, backslash]
    rfl
  | mySql =>
    cases unsafeText : (text.contains '\\' || text.contains '\x00') with
    | true => exact contained_utf8mb4 backslashItself initial unsafeText ends
    | false =>
    refine contained_bare backslashItself initial true (by simp [formsFor]) ends
      (.inr (notMem_of_contains (Bool.or_eq_false_iff.mp unsafeText).1)) ?_
    rw [driverIdOf, stringLiteral, unsafeText]
    rfl
  | sqlite =>
    cases hasNul : text.contains '\x00' with
    | true => exact contained_castAsText backslashItself initial hasNul
    | false =>
    refine contained_bare backslashItself initial false (by simp [formsFor]) ends (.inl rfl) ?_
    rw [driverIdOf, stringLiteral, hasNul]
    rfl
  | msSql => exact contained_national backslashItself initial text ends
  | clickHouse =>
    exact contained_bare backslashItself initial true (by simp [formsFor]) ends (.inl rfl) rfl

/-! ### Names -/

omit backslashItself initial

def closingQuote : SqlGrammar → Char
  | .postgreSql | .sqlite => '"'
  | .mySql | .clickHouse => '`'
  | .msSql => ']'

private theorem identContained_of_reads {name rendered : List Char}
    (isRendered : quoteIdent (driverIdOf grammar) name = rendered)
    (reads : Reads (rulesFor grammar).lexical settings delimiter .quotedIdentifier rendered after)
    (decodes : decodeToken escaped (rulesFor grammar).lexical settings rendered = some name) :
    IdentContained grammar settings delimiter escaped name after := by
  subst isRendered
  have readsAll : ReadsAll (rulesFor grammar).lexical settings delimiter
      [(.quotedIdentifier, quoteIdent (driverIdOf grammar) name)] after := ⟨reads, trivial⟩
  obtain ⟨others, tokens, later⟩ := lexScript_of_readsAll readsAll
  have whole : texts [(ScriptTokenKind.quotedIdentifier, quoteIdent (driverIdOf grammar) name)] =
      quoteIdent (driverIdOf grammar) name := by
    simp [texts]
  rw [whole] at tokens later
  exact ⟨others, tokens, later, decodes⟩

private theorem doubleQuoteRule_of_ident {lexical : ScriptSyntax}
    (kind : lexical.doubleQuote.kind = .quotedIdentifier) :
    doubleQuoteRule lexical settings = lexical.doubleQuote := by
  rw [doubleQuoteRule, kind]
  simp

include backslashItself initial

/-- A name between quotes that the grammar has for names. -/
private theorem ident_quoted {quote : Char} {rule : QuoteRule} {doubling : Bool} {name : List Char}
    (low : quote.toNat < 128) (notBackslash : quote ≠ '\\') (notDollar : quote ≠ '$')
    (notSemicolon : quote ≠ ';') (ends : after.head? ≠ some quote)
    (isRendered : quoteIdent (driverIdOf grammar) name =
      quote :: (escapeText quote doubling name ++ [quote]))
    (kind : rule.kind = .quotedIdentifier)
    (backslash : applies settings rule.backslash = doubling)
    (lexed : lexPlain (rulesFor grammar).lexical settings delimiter quote.toUInt8 =
      quoted settings rule quote.toUInt8)
    (decoded : ∀ inside, decodeToken escaped (rulesFor grammar).lexical settings
      (quote :: inside) = unquote escaped quote (applies settings rule.backslash) inside) :
    IdentContained grammar settings delimiter escaped name after := by
  apply identContained_of_reads isRendered
  · apply reads_of_lexPlain initial low notDollar notSemicolon
    rw [lexed, quoted_escapeText low notBackslash (.inl backslash) ends, kind]
    rfl
  · rw [decoded]
    exact unquote_escapeText backslashItself notBackslash (.inl backslash)

private theorem ident_contained (grammar : SqlGrammar) (name : List Char)
    (ends : after.head? ≠ some (closingQuote grammar)) :
    IdentContained grammar settings delimiter escaped name after := by
  have double {lexical : ScriptSyntax} (kind : lexical.doubleQuote.kind = .quotedIdentifier) :
      lexPlain lexical settings delimiter '"'.toUInt8 =
        quoted settings lexical.doubleQuote '"'.toUInt8 := by
    rw [← @doubleQuoteRule_of_ident settings lexical kind]
    rfl
  have doubleBack {lexical : ScriptSyntax} (kind : lexical.doubleQuote.kind = .quotedIdentifier)
      (inside : List Char) : decodeToken escaped lexical settings ('"' :: inside) =
        unquote escaped '"' (BackslashPolicy.applies settings lexical.doubleQuote.backslash)
          inside := by
    rw [decodeToken, if_neg (by decide), if_pos rfl, doubleQuoteRule_of_ident kind]
  cases grammar with
  | postgreSql | sqlite =>
    exact ident_quoted backslashItself initial (by decide) (by decide) (by decide) (by decide)
      ends rfl rfl rfl (double rfl) (doubleBack rfl)
  | mySql | clickHouse =>
    exact ident_quoted backslashItself initial (by decide) (by decide) (by decide) (by decide)
      ends rfl rfl rfl rfl (fun _ => rfl)
  | msSql =>
  have isRendered : quoteIdent (driverIdOf .msSql) name =
      '[' :: (escapeText ']' false name ++ [']']) := rfl
  apply identContained_of_reads isRendered
  · apply reads_of_lexPlain initial (by decide) (by decide) (by decide)
    exact bracketName_escapeText ends
  · exact unquote_escapeText backslashItself (by decide) (.inl rfl)

end Decoding

end Containment

/-- Rendered texts and names stay inside their tokens and are read back, in every grammar
and under all settings. -/
theorem rendered_contained (grammar : SqlGrammar) (settings : LexicalSettings)
    (delimiter : Option (List UInt8)) (initial : IsInitial delimiter) (escaped : Char → List Char)
    (backslashItself : escaped '\\' = ['\\']) (text after : List Char) :
    (after.head? ≠ some '\'' → LiteralContained grammar settings delimiter escaped text after) ∧
    (after.head? ≠ some (closingQuote grammar) →
      IdentContained grammar settings delimiter escaped text after) :=
  ⟨literal_contained backslashItself initial grammar text,
    ident_contained backslashItself initial grammar text⟩

theorem rendered_contained_backslash :
    LiteralContained .mySql { backslashEscapes := false, ansiQuotes := false }
        (some [';'.toUInt8]) (fun c => [c]) "it's \\".toList [';'] ∧
      IdentContained .mySql { backslashEscapes := false, ansiQuotes := false }
        (some [';'.toUInt8]) (fun c => [c]) "it's \\".toList [';'] :=
  have contained := rendered_contained .mySql { backslashEscapes := false, ansiQuotes := false }
    (some [';'.toUInt8]) (.inr rfl) (fun c => [c]) rfl "it's \\".toList [';']
  ⟨contained.1 (by decide), contained.2 (by decide)⟩

end Bookie.Sql
