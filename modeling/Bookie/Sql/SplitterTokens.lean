/-
One token to the two splitters of PostgreSQL text. The policy rules cut a text with
`statementSpans` and the editor with the script lexer. Read token by token, the two
go on from the same place except at a few constructs, which `InStep` rules out.
-/

import Bookie.Sql.Spans

namespace Bookie.Sql

open Script Text List Option

section Splitter

variable (alphanumeric : Char → Bool)

/-- The semicolons from a position on, with `skip` characters still to be stepped over. -/
def semicolonsFrom (driverId : String) :
    List Char → (skip : Nat) → (previous : Option Char) → (index : Nat) → List Nat
  | [], _, _, _ => []
  | c :: rest, skip + 1, _, index =>
    semicolonsFrom driverId rest skip (some c) (index + c.utf8Size)
  | c :: rest, 0, previous, index =>
    match (skipSpanAt alphanumeric previous (c :: rest) driverId).filter (0 < ·) with
    | some length => semicolonsFrom driverId rest (length - 1) (some c) (index + c.utf8Size)
    | none =>
      if c == ';' then index :: semicolonsFrom driverId rest 0 (some c) (index + 1)
      else semicolonsFrom driverId rest 0 (some c) (index + c.utf8Size)

private theorem spansFrom_ne_nil (driverId : String) (text : List Char) (skip : Nat)
    (previous : Option Char) (start index : Nat) :
    spansFrom alphanumeric driverId text skip previous start index ≠ [] := by
  fun_induction spansFrom alphanumeric driverId text skip previous start index with
  | case1 => simp
  | case2 _ _ _ _ _ _ ih | case3 _ _ _ _ _ _ _ ih => exact ih
  | case4 => simp
  | case5 _ _ _ _ _ _ _ ih => exact ih

theorem spansFrom_semicolons (driverId : String) (text : List Char) (skip : Nat)
    (previous : Option Char) (start index : Nat) :
    (spansFrom alphanumeric driverId text skip previous start index).dropLast.map Prod.snd =
      semicolonsFrom alphanumeric driverId text skip previous index := by
  fun_induction spansFrom alphanumeric driverId text skip previous start index with
  | case1 => simp [semicolonsFrom]
  | case2 _ _ _ _ _ _ ih =>
    exact ih
  | case3 c rest previous start index length found ih =>
    rw [semicolonsFrom, found]
    exact ih
  | case4 c rest previous start index notFound isSemicolon ih =>
    rw [semicolonsFrom, notFound]
    simp only [isSemicolon, if_true]
    rw [dropLast_cons_of_ne_nil (spansFrom_ne_nil _ _ _ _ _ _ _), map_cons, ih]
  | case5 c rest previous start index notFound notSemicolon ih =>
    rw [semicolonsFrom, notFound]
    simp only [notSemicolon]
    exact ih

variable {alphanumeric} {c : Char} {rest front back text : List Char} {b : UInt8}
  {token : LexedToken} {previous : Option Char} {index : Nat}

private theorem length_encode_cons :
    index + (encode (c :: front)).length = index + (encode [c]).length + (encode front).length := by
  rw [encode_cons c front, encode_cons c [], encode_nil, append_nil, length_append, Nat.add_assoc]

private theorem spansFrom_skip {driverId : String} {start : Nat} :
    spansFrom alphanumeric driverId (front ++ back) front.length previous start index =
      spansFrom alphanumeric driverId back 0 (front.getLast?.or previous) start
        (index + (encode front).length) := by
  induction front generalizing previous index with
  | nil => simp
  | cons c front ih =>
    rw [cons_append, length_cons, spansFrom, ih, encode_cons, length_append,
      String.length_utf8EncodeChar, Nat.add_assoc, getLast?_cons]
    cases front.getLast? <;> rfl

theorem spansFrom_span {driverId : String} {start : Nat} (nonempty : front ≠ [])
    (spans : skipSpanAt alphanumeric previous (front ++ back) driverId = some front.length) :
    spansFrom alphanumeric driverId (front ++ back) 0 previous start index =
      spansFrom alphanumeric driverId back 0 front.getLast? start
        (index + (encode front).length) := by
  obtain ⟨c, front, rfl⟩ := exists_cons_of_ne_nil nonempty
  rw [cons_append] at spans ⊢
  rw [spansFrom, spans]
  simp only [filter_some, length_cons, Nat.zero_lt_succ, decide_true, if_true, Nat.add_sub_cancel]
  rw [spansFrom_skip, encode_cons, length_append, String.length_utf8EncodeChar, Nat.add_assoc,
    getLast?_cons]
  cases front.getLast? <;> rfl

private theorem semicolonsFrom_span
    (spans : skipSpanAt alphanumeric previous (c :: (front ++ back)) "postgres" =
      some (front.length + 1)) :
    semicolonsFrom alphanumeric "postgres" (c :: (front ++ back)) 0 previous index =
      semicolonsFrom alphanumeric "postgres" back 0 (c :: front).getLast?
        (index + (encode (c :: front)).length) := by
  rw [← spansFrom_semicolons _ _ _ _ _ 0, ← spansFrom_semicolons _ _ _ _ _ 0]
  exact congrArg (·.dropLast.map Prod.snd) (@spansFrom_span _ (c :: front) _ _ _ _ _ nofun spans)

private theorem semicolonsFrom_other
    (plain : skipSpanAt alphanumeric previous (c :: rest) "postgres" = none) (other : c ≠ ';') :
    semicolonsFrom alphanumeric "postgres" (c :: rest) 0 previous index =
      semicolonsFrom alphanumeric "postgres" rest 0 (some c) (index + (encode [c]).length) := by
  rw [semicolonsFrom, plain]
  simp [other]

/-! ### What the splitter steps over -/

/-- The characters that start no quoted text and no comment by themselves. -/
def startsNothing (c : Char) : Prop :=
  c ≠ '-' ∧ c ≠ '/' ∧ c ≠ '\'' ∧ c ≠ '"' ∧ c ≠ '$' ∧ c ≠ 'e' ∧ c ≠ 'E'

instance (c : Char) : Decidable (startsNothing c) := inferInstanceAs (Decidable (_ ∧ _))

private theorem skipSpan_nothing (nothing : startsNothing c) :
    skipSpan (c :: rest) "postgres" = none := by
  obtain ⟨dash, slash, single, double, dollar, lower, upper⟩ := nothing
  simp [skipSpan, startsWith, dollarQuoteLength, dash.symm, slash.symm, single.symm, double.symm,
    dollar, lower.symm, upper.symm]

/-- The characters that start something only in front of another one. -/
private theorem skipSpan_pair {next : Char}
    (pair : (c, next) ∈ [('-', '-'), ('/', '*'), ('e', '\''), ('E', '\'')])
    (other : rest.head? ≠ some next) : skipSpan (c :: rest) "postgres" = none := by
  simp only [mem_cons, not_mem_nil, or_false] at pair
  cases rest with
  | nil => rcases pair with ⟨rfl, -⟩ | ⟨rfl, -⟩ | ⟨rfl, -⟩ | ⟨rfl, -⟩ <;> rfl
  | cons found rest =>
    have different : ¬ next = found := fun same => other (by rw [same]; rfl)
    rcases pair with ⟨rfl, rfl⟩ | ⟨rfl, rfl⟩ | ⟨rfl, rfl⟩ | ⟨rfl, rfl⟩ <;>
      simp [skipSpan, startsWith, dollarQuoteLength, different]

private theorem letterE_low (letter : c = 'e' ∨ c = 'E') : c.toNat < 128 ∧ c ≠ '$' := by
  rcases letter with rfl | rfl <;> decide

private theorem skipSpan_letterE (letter : c = 'e' ∨ c = 'E') (noQuote : rest.head? ≠ some '\'') :
    skipSpan (c :: rest) "postgres" = none := by
  apply skipSpan_pair _ noQuote
  rcases letter with rfl | rfl <;> simp

private theorem skipSpan_escape (letter : c = 'e' ∨ c = 'E') :
    skipSpan (c :: '\'' :: rest) "postgres" = some (quotedLength ('\'' :: rest) '\'' true + 1) := by
  rcases letter with rfl | rfl <;> simp [skipSpan, startsWith]

private theorem skipSpan_single :
    skipSpan ('\'' :: rest) "postgres" = some (quotedLength ('\'' :: rest) '\'' false) := by
  simp [skipSpan, startsWith]

private theorem skipSpan_double :
    skipSpan ('"' :: rest) "postgres" = some (quotedLength ('"' :: rest) '"' false) := by
  simp [skipSpan, startsWith, dollarQuoteLength]

private theorem skipSpan_line :
    skipSpan ('-' :: '-' :: rest) "postgres" = some (lineLength ('-' :: '-' :: rest)) := by
  simp [skipSpan, startsWith]

private theorem skipSpan_dollar :
    skipSpan ('$' :: rest) "postgres" = dollarQuoteLength ('$' :: rest) "postgres" := by
  cases found : dollarQuoteLength ('$' :: rest) "postgres" with
  | none | some => simp [skipSpan, startsWith, found]

private theorem skipSpanAt_of_ne (notDollar : c ≠ '$') :
    skipSpanAt alphanumeric previous (c :: rest) "postgres" = skipSpan (c :: rest) "postgres" := by
  simp [skipSpanAt, insideIdentifier, notDollar]

/-! ### The tokens of the lexer -/

def tokenAt (missing : Missing) (first : UInt8) (bytes : List UInt8) : LexedToken :=
  (lexAt postgresqlRules.lexical (.defaultFor .postgreSql) missing none first bytes).1

section Bytes

variable (missing : Missing) (bytes : List UInt8)

private theorem tokenAt_semicolon : tokenAt missing ';'.toUInt8 bytes = plain .semicolon 1 := rfl

private theorem tokenAt_openParen : tokenAt missing '('.toUInt8 bytes = plain .openParen 1 := rfl

private theorem tokenAt_closeParen : tokenAt missing ')'.toUInt8 bytes = plain .closeParen 1 := rfl

private theorem tokenAt_dollar :
    tokenAt missing '$'.toUInt8 bytes = (dollar postgresqlRules.lexical missing none bytes).1 := rfl

private theorem tokenAt_dash :
    tokenAt missing '-'.toUInt8 bytes =
      if bytes[1]? = some '-'.toUInt8 then lineComment bytes else plain .punct 1 := by
  unfold tokenAt lexAt lexPlain
  dsimp only
  by_cases second : bytes[1]? = some '-'.toUInt8
  · rw [second]
    rfl
  · rw [if_neg second, beq_eq_false_iff_ne.mpr second]
    rfl

private theorem tokenAt_slash :
    tokenAt missing '/'.toUInt8 bytes =
      if bytes[1]? = some '*'.toUInt8 then blockComment postgresqlRules.lexical bytes
      else plain .punct 1 := by
  unfold tokenAt lexAt lexPlain
  dsimp only
  by_cases second : bytes[1]? = some '*'.toUInt8
  · rw [second]
    rfl
  have noLine : ('/'.toUInt8 == '/'.toUInt8 && bytes[1]? == some '/'.toUInt8 &&
      postgresqlRules.lexical.slashSlashComment) = false := Bool.and_false _
  rw [if_neg second, beq_eq_false_iff_ne.mpr second, noLine]
  rfl

private theorem tokenAt_space (space : isSpace b = true) :
    tokenAt missing b bytes = plain .whitespace (whitespaceEnd bytes) := by
  have notDollar : (b == '$'.toUInt8) = false := by
    rw [beq_eq_false_iff_ne]
    rintro rfl
    exact absurd space (by decide)
  simp [tokenAt, lexAt, lexPlain, space, notDollar]

/-- The bytes that only start words, numbers and punctuation. -/
def isOrdinary (b : UInt8) : Prop :=
  isSpace b = false ∧ b ≠ '\''.toUInt8 ∧ b ≠ '"'.toUInt8 ∧ b ≠ ';'.toUInt8 ∧ b ≠ '('.toUInt8 ∧
    b ≠ ')'.toUInt8 ∧ b ≠ '$'.toUInt8 ∧ b ≠ '-'.toUInt8 ∧ b ≠ '/'.toUInt8

instance (b : UInt8) : Decidable (isOrdinary b) := inferInstanceAs (Decidable (_ ∧ _))

private theorem tokenAt_ordinary (ordinary : isOrdinary b) :
    tokenAt missing b bytes =
      if isAsciiDigit b then plain .number (wordEnd postgresqlRules.lexical none bytes)
      else if isWordStart postgresqlRules.lexical b then word postgresqlRules.lexical none bytes
      else plain .punct 1 := by
  obtain ⟨space, single, double, semicolon, openParen, closeParen, dollars, dash, slash⟩ := ordinary
  by_cases backtick : b = '`'.toUInt8
  · subst backtick
    rfl
  by_cases bracket : b = '['.toUInt8
  · subst bracket
    rfl
  have noHash : hashCommentStarts postgresqlRules.lexical bytes[1]? = false := rfl
  simp [tokenAt, lexAt, lexPlain, space, single, double, semicolon, openParen, closeParen, dollars,
    dash, slash, backtick, bracket, noHash]

end Bytes

/-! ### One token -/

/-- No word goes on behind the token. -/
def Apart (front back : List Char) : Prop :=
  ∀ last, front.getLast? = some last → isWordChar last = true → last ≠ '$' →
    ∀ next, back.head? = some next → isWordChar next = false

/-- The token stands for the first characters of the rest, and the splitter finds the same
semicolons with and without them. -/
structure Agrees (alphanumeric : Char → Bool) (rest : List Char) (previous : Option Char)
    (index : Nat) (token : LexedToken) (front back : List Char) : Prop where
  split : rest = front ++ back
  nonempty : front ≠ []
  length : (encode front).length = token.length
  same : semicolonsFrom alphanumeric "postgres" rest 0 previous index =
    (if token.kind = .semicolon then [index] else []) ++
      semicolonsFrom alphanumeric "postgres" back 0 front.getLast? (index + token.length)
  apart : Apart front back

variable (alphanumeric) in
def Agreed (rest : List Char) (previous : Option Char) (index : Nat) (token : LexedToken) : Prop :=
  ∃ front back, Agrees alphanumeric rest previous index token front back

private theorem apart_of_last {last : Char} (ends : front.getLast? = some last)
    (notWord : isWordChar last = false ∨ last = '$') : Apart front back := by
  intro other isLast wordChar notDollar
  rw [ends] at isLast
  cases isLast
  rcases notWord with plain | dollar
  · rw [plain] at wordChar
    cases wordChar
  · exact absurd dollar notDollar

private theorem apart_nil : Apart front [] := by
  intro last _ _ _ next head
  cases head

variable {missing : Missing}
  (letters : ∀ c, c.toNat < 128 → alphanumeric c = isAsciiLetterOrDigit c)

private theorem agrees_span
    (spans : skipSpanAt alphanumeric previous (c :: (front ++ back)) "postgres" =
      some (front.length + 1))
    (length : token.length = (encode (c :: front)).length) (kind : token.kind ≠ .semicolon)
    (apart : Apart (c :: front) back) :
    Agrees alphanumeric (c :: (front ++ back)) previous index token (c :: front) back := by
  refine ⟨rfl, cons_ne_nil c front, length.symm, ?_, apart⟩
  rw [semicolonsFrom_span spans, if_neg kind, length, nil_append]

/-- A construct that goes on to the end of the text. -/
private theorem agrees_all
    (spans : skipSpanAt alphanumeric previous (c :: rest) "postgres" = some (rest.length + 1))
    (length : token.length = (encode (c :: rest)).length) (kind : token.kind ≠ .semicolon) :
    Agreed alphanumeric (c :: rest) previous index token := by
  have whole := append_nil rest
  rw [← whole] at spans ⊢
  exact ⟨_, _, agrees_span (by rw [spans, whole]) length kind apart_nil⟩

private theorem agrees_one (low : c.toNat < 128)
    (plain : skipSpanAt alphanumeric previous (c :: rest) "postgres" = none) (other : c ≠ ';')
    (length : token.length = 1) (kind : token.kind ≠ .semicolon)
    (notWord : isWordChar c = false ∨ c = '$') :
    Agrees alphanumeric (c :: rest) previous index token [c] rest := by
  have size : (encode [c]).length = 1 := by
    rw [encode_ascii_cons low]
    rfl
  refine ⟨rfl, cons_ne_nil c [], by rw [size, length], ?_, apart_of_last rfl notWord⟩
  rw [semicolonsFrom_other plain other, if_neg kind, size, length]
  rfl

private theorem agrees_plain {kind : ScriptTokenKind}
    (nothing : skipSpan (c :: rest) "postgres" = none)
    (single : c.toNat < 128 ∧ c ≠ ';' ∧ c ≠ '$' ∧ isWordChar c = false)
    (other : kind ≠ .semicolon) :
    Agreed alphanumeric (c :: rest) previous index (plain kind 1) := by
  obtain ⟨low, notSemicolon, notDollar, notWord⟩ := single
  rw [← skipSpanAt_of_ne notDollar] at nothing
  exact ⟨_, _, agrees_one low nothing notSemicolon rfl other (.inl notWord)⟩

private theorem agrees_semicolon :
    Agrees alphanumeric (';' :: rest) previous index (plain .semicolon 1) [';'] rest := by
  refine ⟨rfl, cons_ne_nil _ [], by decide, ?_, apart_of_last rfl (.inl (by decide))⟩
  rfl

private theorem getLast_cons_of_some {last : Char} (ends : text.getLast? = some last) :
    (c :: text).getLast? = some last := by
  rw [getLast?_cons, ends]
  rfl

/-- So many characters of the text end with the character or with the text. -/
def EndsIn (last : Char) (text : List Char) (count : Nat) : Prop :=
  count ≤ text.length ∧ (count = text.length ∨ (text.take count).getLast? = some last)

private theorem EndsIn.cons {last : Char} {count : Nat}
    (ends : EndsIn last text count) : EndsIn last (c :: text) (count + 1) := by
  refine ⟨by simpa using ends.1, ends.2.imp (fun all => by simp [all]) fun closes => ?_⟩
  exact getLast_cons_of_some closes

theorem quotedRest_spec (quote : Char) (backslash : Bool) :
    EndsIn quote text (quotedRest quote backslash text) := by
  fun_induction quotedRest quote backslash text with
  | case1 | case2 => simp [EndsIn]
  | case3 _ _ _ _ ih | case4 _ _ _ _ _ _ ih => exact ih.cons.cons
  | case5 c next rest _ closes _ =>
    rw [beq_iff_eq] at closes
    simp [EndsIn, closes]
  | case6 _ _ _ _ _ ih => exact ih.cons

variable {bytes : List UInt8}

private theorem quoted_spec {settings : LexicalSettings} {rule : QuoteRule} {quote : UInt8} :
    (quoted settings rule quote (b :: bytes)).length =
        (quoteEnd quote (BackslashPolicy.applies settings rule.backslash) bytes).getD
          bytes.length + 1 ∧
      (quoted settings rule quote (b :: bytes)).kind ≠ .semicolon := by
  unfold quoted
  rw [drop_succ_cons, drop_zero]
  cases rule.kind <;>
    cases quoteEnd quote (BackslashPolicy.applies settings rule.backslash) bytes <;>
      simp [plain, unterminated]

private theorem length_take_spec {count : Nat} (within : count ≤ text.length) :
    (text.take count).length = count := by
  rw [length_take]
  omega

/-- A construct that goes on behind its opening for so many characters. -/
private theorem agrees_opened {last : Char} {opening : List Char} {count : Nat}
    (ends : EndsIn last rest count) (notWord : isWordChar last = false)
    (spans : skipSpanAt alphanumeric previous (c :: (opening ++ rest)) "postgres" =
      some (opening.length + count + 1))
    (length : token.length = (encode (c :: (opening ++ rest.take count))).length)
    (kind : token.kind ≠ .semicolon) :
    Agreed alphanumeric (c :: (opening ++ rest)) previous index token := by
  have whole : opening ++ rest = (opening ++ rest.take count) ++ rest.drop count := by
    rw [append_assoc, take_append_drop]
  have apart : Apart (c :: (opening ++ rest.take count)) (rest.drop count) := by
    rcases ends.2 with all | closes
    · rw [all, drop_length]
      exact apart_nil
    · refine apart_of_last ?_ (.inl notWord)
      rw [← cons_append, getLast?_append, closes]
      rfl
  rw [whole] at spans ⊢
  refine ⟨_, _, agrees_span ?_ length kind apart⟩
  rw [spans, length_append, length_take_spec ends.1]

private theorem agrees_quoted {quote : Char} {rule : QuoteRule} (low : quote.toNat < 128)
    (notBackslash : quote ≠ '\\') (notWord : isWordChar quote = false)
    (spans : skipSpanAt alphanumeric previous (quote :: rest) "postgres" =
      some (quotedLength (quote :: rest) quote false))
    (verbatim : BackslashPolicy.applies (.defaultFor .postgreSql) rule.backslash = false) :
    Agreed alphanumeric (quote :: rest) previous index
      (quoted (.defaultFor .postgreSql) rule quote.toUInt8 (encode (quote :: rest))) := by
  rw [encode_ascii_cons low]
  obtain ⟨length, kind⟩ := quoted_spec
  refine @agrees_opened _ _ _ _ _ _ quote [] _ (quotedRest_spec quote false) notWord ?_ ?_ kind
  · rw [nil_append, spans, length_nil, Nat.zero_add]
    rfl
  · rw [length, verbatim, quoteEnd_encode low notBackslash, encode_ascii_cons low]
    rfl

theorem blockCommentRest_spec (nested : Bool) (depth : Nat) :
    EndsIn '/' text (blockCommentRest nested depth text) := by
  fun_induction blockCommentRest nested depth text with
  | case1 | case2 => simp [EndsIn]
  | case3 _ _ _ _ _ ih => exact ih.cons.cons
  | case4 c next rest _ closes =>
    simp only [Bool.and_eq_true, beq_iff_eq] at closes
    simp [EndsIn, closes.2]
  | case5 _ _ _ _ _ _ _ ih => exact ih.cons.cons
  | case6 _ _ _ _ _ _ ih => exact ih.cons

private theorem blockComment_spec {next : UInt8} :
    (blockComment postgresqlRules.lexical (b :: next :: bytes)).length =
        (blockCommentEnd true 1 bytes).getD bytes.length + 2 ∧
      (blockComment postgresqlRules.lexical (b :: next :: bytes)).kind ≠ .semicolon := by
  unfold blockComment
  have nested : postgresqlRules.lexical.nestedBlockComments = true := rfl
  rw [nested, drop_succ_cons, drop_succ_cons, drop_zero]
  cases blockCommentEnd true 1 bytes <;> simp [plain, unterminated]

private theorem agrees_block :
    Agreed alphanumeric ('/' :: '*' :: rest) previous index
      (blockComment postgresqlRules.lexical (encode ('/' :: '*' :: rest))) := by
  rw [encode_ascii_cons (by decide), encode_ascii_cons (by decide)]
  obtain ⟨length, kind⟩ := blockComment_spec
  refine @agrees_opened _ _ _ _ _ _ '/' ['*'] _ (blockCommentRest_spec true 1) (by decide)
    ?_ ?_ kind
  · rw [length_singleton, Nat.add_comm 1]
    rfl
  · rw [length, blockCommentEnd_encode, singleton_append]
    rfl

/-- The lexer leaves the line feed to the next token; the splitter steps over it. -/
private theorem agrees_line :
    Agreed alphanumeric ('-' :: '-' :: rest) previous index
      (lineComment (encode ('-' :: '-' :: rest))) := by
  have found := @findIdx_encode '\n' (by decide) ('-' :: '-' :: rest)
  unfold lineComment plain
  rw [found]
  cases feed : ('-' :: '-' :: rest).findIdx? (· == '\n') with
  | none =>
    refine agrees_all ?_ rfl (by simp)
    rw [skipSpanAt_of_ne (by decide), skipSpan_line, lineLength, feed]
    rfl
  | some count =>
    obtain ⟨inside, isFeed, -⟩ := findIdx?_eq_some_iff_getElem.mp feed
    rw [beq_iff_eq] at isFeed
    -- the text before the line feed, the line feed and what is behind
    have behind : ('-' :: '-' :: rest).drop count =
        '\n' :: ('-' :: '-' :: rest).drop (count + 1) := by
      rw [drop_eq_getElem_cons inside, isFeed]
    have positive : 0 < count := by
      rcases Nat.eq_zero_or_pos count with rfl | positive
      · exact absurd (show '-' = '\n' from isFeed) (by decide)
      · exact positive
    obtain ⟨less, rfl⟩ : ∃ less, count = less + 1 := ⟨count - 1, by omega⟩
    rw [drop_succ_cons, drop_succ_cons] at behind
    have whole : '-' :: rest = (('-' :: rest).take less ++ ['\n']) ++
        ('-' :: rest).drop (less + 1) := by
      rw [append_assoc, singleton_append, ← behind, take_append_drop]
    have short : less ≤ ('-' :: rest).length := by
      simp only [length_cons] at inside ⊢
      omega
    have spans : skipSpanAt alphanumeric previous
        ('-' :: ((('-' :: rest).take less ++ ['\n']) ++ ('-' :: rest).drop (less + 1)))
        "postgres" = some ((('-' :: rest).take less ++ ['\n']).length + 1) := by
      rw [← whole, skipSpanAt_of_ne (by decide), skipSpan_line, lineLength, feed,
        length_append, length_take_spec short]
      rfl
    refine ⟨'-' :: ('-' :: rest).take less, ('-' :: rest).drop less, ?_, cons_ne_nil _ _,
      rfl, ?_, ?_⟩
    · rw [cons_append, take_append_drop]
    · have stepped := @semicolonsFrom_span _ _ _ _ _ index spans
      rw [← whole] at stepped
      rw [stepped, behind, semicolonsFrom_other
        (by rw [skipSpanAt_of_ne (by decide)]; exact skipSpan_nothing (by decide)) (by decide),
        Nat.add_assoc]
      congr 1
      · rw [← cons_append, getLast?_append]
        rfl
      · rw [← cons_append, encode_append, length_append]
        rfl
    rw [behind]
    intro last _ _ _ next head
    cases head
    decide

private theorem isWordChar_low : ∀ c : Char, c.toNat < 128 →
    isWordChar c = (isAsciiLetterOrDigit c || c == '_' || c == '$') :=
  ascii_all _ (by decide +kernel)

private theorem dollarQuoteLength_elim {length : Nat}
    (found : dollarQuoteLength ('$' :: rest) "postgres" = some length) :
    ∃ tag more, rest = tag ++ '$' :: more ∧ tagIsIdentifier tag = true ∧
      length = match find ('$' :: (tag ++ ['$'])) more with
        | some offset => (tag.length + 2) + offset + (tag.length + 2)
        | none => ('$' :: rest).length := by
  simp only [dollarQuoteLength, beq_self_eq_true, Bool.true_and, drop_succ_cons, drop_zero] at found
  obtain ⟨close, closes, chosen⟩ := bind_eq_some_iff.mp found
  obtain ⟨inside, isDollar, -⟩ := findIdx?_eq_some_iff_getElem.mp closes
  rw [beq_iff_eq] at isDollar
  have whole : rest = rest.take close ++ '$' :: rest.drop (close + 1) := by
    rw [← isDollar, ← drop_eq_getElem_cons inside, take_append_drop]
  have short : (rest.take close).length = close := length_take_spec (Nat.le_of_lt inside)
  have opener : ('$' :: rest).take (close + 2) = '$' :: (rest.take close ++ ['$']) := by
    rw [take_succ_cons]
    rw [take_succ_eq_append_getElem inside, isDollar]
  have openerLength : ('$' :: (rest.take close ++ ['$'])).length = close + 2 := by
    simp only [length_cons, length_append, short, length_nil]
  refine ⟨rest.take close, rest.drop (close + 1), whole, ?_, ?_⟩
  · by_contra notIdentifier
    have refused : (!tagIsIdentifier (rest.take close)) = true := by simpa using notIdentifier
    rw [if_pos refused] at chosen
    cases chosen
  split at chosen
  · cases chosen
  rw [opener, openerLength, drop_succ_cons] at chosen
  rw [short]
  cases search : find ('$' :: (rest.take close ++ ['$'])) (rest.drop (close + 1)) with
  | none | some =>
    rw [search] at chosen
    exact (some.inj chosen).symm

private theorem dollar_none (plainDollar : taggedOpenerEnd (encode ('$' :: rest)) = none) :
    dollarQuoteLength ('$' :: rest) "postgres" = none := by
  cases found : dollarQuoteLength ('$' :: rest) "postgres" with
  | none => rfl
  | some length =>
    obtain ⟨tag, more, rfl, identifier, -⟩ := dollarQuoteLength_elim found
    rw [taggedOpenerEnd_encode identifier] at plainDollar
    cases plainDollar

private theorem encode_opener {tag : List Char} (identifier : tagIsIdentifier tag = true) :
    (encode ('$' :: (tag ++ ['$']))).length = tag.length + 2 := by
  have low : ∀ c ∈ tag, c.toNat < 128 := fun c member => (tag_bytes identifier c member).1
  rw [encode_ascii_cons (by decide), encode_append, encode_low low, encode_ascii_cons (by decide)]
  simp

/-- The token of a dollar quote, by where its closing is found. -/
private theorem tokenAt_dollarQuote {tag more : List Char}
    (identifier : tagIsIdentifier tag = true) :
    tokenAt missing '$'.toUInt8 (encode ('$' :: (tag ++ '$' :: more))) =
      match find ('$' :: (tag ++ ['$'])) more with
      | some offset => plain .dollarQuoted
          (tag.length + 2 + (encode (more.take offset)).length + (tag.length + 2))
      | none => unterminated .dollarQuoted (encode ('$' :: (tag ++ '$' :: more))) := by
  have opens := @taggedOpenerEnd_encode tag more identifier
  have openerLength := encode_opener identifier
  have bytes : encode ('$' :: (tag ++ '$' :: more)) =
      encode ('$' :: (tag ++ ['$'])) ++ encode more := by
    simp
  have taken : (encode ('$' :: (tag ++ '$' :: more))).take (tag.length + 2) =
      encode ('$' :: (tag ++ ['$'])) := by
    rw [bytes, ← openerLength, take_left]
  have dropped : (encode ('$' :: (tag ++ '$' :: more))).drop (tag.length + 2) = encode more := by
    rw [bytes, ← openerLength, drop_left]
  have search := @find_encode ('$' :: (tag ++ ['$'])) (cons_ne_nil _ _) more
  rw [tokenAt_dollar, dollar]
  rw [opens]
  dsimp only
  rw [taken, dropped, search, openerLength]
  cases find ('$' :: (tag ++ ['$'])) more <;> rfl

private theorem agrees_dollarQuote {length : Nat}
    (outside : insideIdentifier alphanumeric previous ('$' :: rest) = false)
    (found : dollarQuoteLength ('$' :: rest) "postgres" = some length) :
    Agreed alphanumeric ('$' :: rest) previous index
      (tokenAt missing '$'.toUInt8 (encode ('$' :: rest))) := by
  have spans : skipSpanAt alphanumeric previous ('$' :: rest) "postgres" = some length := by
    rw [skipSpanAt, outside, skipSpan_dollar, found]
    rfl
  obtain ⟨tag, more, rfl, identifier, rfl⟩ := dollarQuoteLength_elim found
  have openerLength := encode_opener identifier
  rw [tokenAt_dollarQuote identifier]
  cases closing : find ('$' :: (tag ++ ['$'])) more with
  | none =>
    rw [closing] at spans
    exact agrees_all spans rfl (by simp [unterminated])
  | some offset =>
  rw [closing] at spans
  obtain ⟨before, after, rfl, rfl⟩ := find_some closing
  have whole : tag ++ '$' :: (before ++ ('$' :: (tag ++ ['$']) ++ after)) =
      (tag ++ '$' :: (before ++ '$' :: (tag ++ ['$']))) ++ after := by simp
  rw [whole] at spans ⊢
  refine ⟨_, _, agrees_span ?_ ?_ (by simp [plain]) (@apart_of_last _ _ '$' ?_ (.inr rfl))⟩
  · rw [spans]
    simp only [length_append, length_cons, length_nil]
    congr 1
    omega
  · have split : '$' :: (tag ++ '$' :: (before ++ '$' :: (tag ++ ['$']))) =
        '$' :: (tag ++ ['$']) ++ (before ++ '$' :: (tag ++ ['$'])) := by simp
    rw [split, encode_append, encode_append, length_append, length_append]
    simp only [plain, take_left]
    omega
  · rw [← cons_append, ← cons_append]
    simp [getLast?_cons]

include letters in
/-- A dollar sign: a dollar quote to both, or to neither. -/
private theorem agrees_dollar
    (notWord : ∀ last, previous = some last → isWordChar last = true → last = '$')
    (tags : (tokenAt missing '$'.toUInt8 (encode ('$' :: rest))).kind ≠ .punct →
      previous ≠ some '$' ∧ dollarQuoteLength ('$' :: rest) "postgres" ≠ none) :
    Agreed alphanumeric ('$' :: rest) previous index
      (tokenAt missing '$'.toUInt8 (encode ('$' :: rest))) := by
  cases opens : taggedOpenerEnd (encode ('$' :: rest)) with
  | none =>
    have token : tokenAt missing '$'.toUInt8 (encode ('$' :: rest)) = plain .punct 1 := by
      rw [tokenAt_dollar, dollar]
      have tagged : postgresqlRules.lexical.dollarQuote = .tagged := rfl
      rw [opens]
      rfl
    rw [token]
    have nothing : skipSpanAt alphanumeric previous ('$' :: rest) "postgres" = none := by
      rw [skipSpanAt, skipSpan_dollar, dollar_none opens]
      split <;> rfl
    exact ⟨_, _, agrees_one (by decide) nothing (by decide) rfl (by simp [plain]) (.inr rfl)⟩
  | some openerEnd =>
    have kind : (tokenAt missing '$'.toUInt8 (encode ('$' :: rest))).kind ≠ .punct := by
      rw [tokenAt_dollar, dollar]
      have tagged : postgresqlRules.lexical.dollarQuote = .tagged := rfl
      rw [tagged, opens]
      dsimp only
      split <;> simp [plain, unterminated]
    obtain ⟨notDollar, found⟩ := tags kind
    obtain ⟨length, found⟩ := ne_none_iff_exists'.mp found
    refine agrees_dollarQuote ?_ found
    -- the character before is part of no identifier
    rw [insideIdentifier]
    cases previous with
    | none => rfl
    | some last =>
    have notPart : isWordChar last = false := by
      cases part : isWordChar last with
      | false => rfl
      | true => exact absurd (congrArg some (notWord last rfl part)) notDollar
    have low : last.toNat < 128 := by
      simp only [isWordChar, Bool.or_eq_false_iff, decide_eq_false_iff_not, Nat.not_le] at notPart
      exact notPart.1
    rw [isWordChar_low last low] at notPart
    simp only [any_some, letters last low, notPart, Bool.and_false]

private theorem whitespaceEnd_spaces :
    ∀ b ∈ bytes.take (whitespaceEnd bytes), isSpace b = true := by
  induction bytes with
  | nil => simp [whitespaceEnd]
  | cons b bytes ih =>
    rw [whitespaceEnd]
    cases space : isSpace b with
    | false => simp
    | true =>
    simp only [Bool.not_true, Bool.false_eq_true, if_false]
    split
    · simp [space]
    intro other member
    rcases mem_cons.mp member with rfl | inRest
    · exact space
    · exact ih other inRest

private theorem semicolonsFrom_plain (nothing : ∀ c ∈ front, startsNothing c ∧ c ≠ ';') :
    semicolonsFrom alphanumeric "postgres" (front ++ back) 0 previous index =
      semicolonsFrom alphanumeric "postgres" back 0 (front.getLast?.or previous)
        (index + (encode front).length) := by
  induction front generalizing previous index with
  | nil => simp
  | cons c front ih =>
    obtain ⟨here, others⟩ := forall_mem_cons.mp nothing
    rw [cons_append, semicolonsFrom_other
      (by rw [skipSpanAt_of_ne here.1.2.2.2.2.1]; exact skipSpan_nothing here.1) here.2,
      ih others, getLast?_cons, ← length_encode_cons]
    cases front.getLast? <;> rfl

private theorem encode_high {more : List UInt8}
    (whole : String.utf8EncodeChar c ++ more = b :: bytes)
    (wide : ¬ c.toNat < 128) : 128 ≤ b.toNat := by
  obtain ⟨byte, others, shape, -, -, -⟩ := encodeChar_shape c
  apply encodeChar_wide (Nat.le_of_not_lt wide)
  rw [shape, cons_append, cons.injEq] at whole
  rw [shape, whole.1]
  exact mem_cons_self

private theorem isSpace_high (high : 128 ≤ b.toNat) : isSpace b = false := by
  cases space : isSpace b with
  | false => rfl
  | true =>
    simp only [isSpace, Bool.or_eq_true, beq_iff_eq] at space
    rcases space with ((((rfl | rfl) | rfl) | rfl) | rfl) | rfl <;> revert high <;> decide

private theorem space_low : ∀ c : Char, c.toNat < 128 → isSpace c.toUInt8 = true →
    startsNothing c ∧ c ≠ ';' ∧ isWordChar c = false :=
  ascii_all _ (by decide +kernel)

private theorem space_byte (space : ∀ b ∈ String.utf8EncodeChar c, isSpace b = true) :
    startsNothing c ∧ c ≠ ';' ∧ isWordChar c = false := by
  have low : c.toNat < 128 := by
    by_contra wide
    obtain ⟨first, rest, shape, -, -, -⟩ := encodeChar_shape c
    have high := isSpace_high (encode_high (by rw [append_nil, shape]) wide)
    rw [space first (by rw [shape]; exact mem_cons_self)] at high
    cases high
  exact space_low c low (space c.toUInt8 (by rw [encodeChar_ascii low]; simp))

private theorem encode_front {count : Nat} (cuts : Cuts (encode rest) count) :
    ∃ front back, rest = front ++ back ∧ front ≠ [] ∧ (encode front).length = count ∧
      encode front = (encode rest).take count := by
  obtain ⟨front, back, rfl, taken, -⟩ :=
    encode_cut (take_append_drop count (encode rest)).symm cuts.clean
  have length : (encode front).length = count := by
    rw [taken, length_take]
    exact Nat.min_eq_left cuts.within
  refine ⟨front, back, rfl, ?_, length, taken⟩
  rintro rfl
  exact absurd length (Nat.ne_of_lt cuts.positive)

private theorem agrees_space {first : UInt8} (whole : encode rest = first :: bytes)
    (space : isSpace first = true) :
    Agreed alphanumeric rest previous index (tokenAt missing first (encode rest)) := by
  rw [tokenAt_space missing _ space]
  have cuts : Cuts (encode rest) (whitespaceEnd (encode rest)) := by
    rw [whole]
    exact (whitespaceEnd_behind space).cuts whole
  obtain ⟨front, back, rfl, nonempty, length, taken⟩ := encode_front cuts
  have spaces : ∀ c ∈ front, startsNothing c ∧ c ≠ ';' ∧ isWordChar c = false := by
    intro c member
    apply space_byte
    intro b isByte
    apply whitespaceEnd_spaces
    rw [← taken]
    exact mem_flatMap.mpr ⟨c, member, isByte⟩
  refine ⟨front, back, rfl, nonempty, length, ?_, ?_⟩
  · rw [semicolonsFrom_plain fun c member =>
      ⟨(spaces c member).1, (spaces c member).2.1⟩, getLast?_eq_some_getLast nonempty, length]
    rfl
  · have isLast := getLast?_eq_some_getLast nonempty
    exact apart_of_last isLast (.inl (spaces _ (getLast_mem nonempty)).2.2)

private theorem wordChar_ne {d : Char} (part : isWordChar c = true)
    (notPart : isWordChar d = false) : c ≠ d := by
  rintro rfl
  rw [part] at notPart
  cases notPart

private theorem wordChar_startsNothing (part : isWordChar c = true) (notDollar : c ≠ '$')
    (notE : c ≠ 'e' ∧ c ≠ 'E') : startsNothing c :=
  ⟨wordChar_ne part (by decide), wordChar_ne part (by decide), wordChar_ne part (by decide),
    wordChar_ne part (by decide), notDollar, notE.1, notE.2⟩

include letters in
/-- Behind an ASCII part of a word a dollar sign is part of the identifier to both. -/
private theorem wordChar_inside (part : isWordChar c = true) (low : c.toNat < 128) :
    insideIdentifier alphanumeric (some c) ('$' :: rest) = true := by
  rw [isWordChar_low c low] at part
  simp only [insideIdentifier, any_some, letters c low, part, head?_cons, BEq.rfl, Bool.and_self]

private theorem quotedRest_noBackslash (quote : Char) (text : List Char)
    (none : '\\' ∉ text.take (quotedRest quote false text)) :
    quotedRest quote true text = quotedRest quote false text := by
  fun_induction quotedRest quote false text with
  | case1 | case2 => rfl
  | case3 c next rest escape => cases escape
  | case4 c next rest _ isQuote doubled ih =>
    simp only [take_succ_cons, mem_cons, not_or] at none
    rw [quotedRest, ih none.2.2]
    simp [isQuote, doubled]
  | case5 c next rest _ isQuote single =>
    simp only [take_succ_cons, mem_cons, not_or] at none
    rw [quotedRest]
    simp [Ne.symm none.1, isQuote, single]
  | case6 c next rest _ notQuote ih =>
    rw [take_succ_cons, mem_cons, not_or] at none
    rw [quotedRest, ih none.2]
    simp [Ne.symm none.1, notQuote]

/-- A string behind an `e` is stepped over from the `e` on or from its quote on. -/
private theorem semicolonsFrom_letterE {body : List Char} (letter : c = 'e' ∨ c = 'E')
    (none : '\\' ∉ ('\'' :: body).take (quotedLength ('\'' :: body) '\'' false)) :
    semicolonsFrom alphanumeric "postgres" (c :: '\'' :: body) 0 previous index =
      semicolonsFrom alphanumeric "postgres" ('\'' :: body) 0 (some c)
        (index + (encode [c]).length) := by
  have noneInside : '\\' ∉ body.take (quotedRest '\'' false body) := by
    rw [quotedLength, take_succ_cons, mem_cons, not_or]
      at none
    exact none.2
  have within := (@quotedRest_spec body '\'' false).1
  obtain ⟨inside, after, rfl, length⟩ : ∃ inside after, body = inside ++ after ∧
      inside.length = quotedRest '\'' false body :=
    ⟨_, _, (take_append_drop _ body).symm, length_take_spec within⟩
  have fromE := @semicolonsFrom_span alphanumeric c ('\'' :: inside) after previous index (by
      rw [skipSpanAt_of_ne (letterE_low letter).2, cons_append, skipSpan_escape letter,
        quotedLength,
        drop_one, tail_cons, quotedRest_noBackslash _ _ noneInside, ← length,
        length_cons])
  have fromQuote := @semicolonsFrom_span alphanumeric '\'' inside after (some c)
    (index + (encode [c]).length) (by
      rw [skipSpanAt_of_ne (by decide), skipSpan_single, quotedLength,
        drop_one, tail_cons, ← length])
  rw [cons_append] at fromE
  rw [fromE, fromQuote, getLast?_cons_cons, length_encode_cons]

/-- What a word may not contain or be followed by for the two to stay in step. -/
structure WordInStep (alphanumeric : Char → Bool) (front back : List Char) : Prop where
  /-- A string directly behind a word that ends in an `e` has no backslash. -/
  escapes : 2 ≤ front.length → front.getLast? = some 'e' ∨ front.getLast? = some 'E' →
    back.head? = some '\'' → '\\' ∉ back.take (quotedLength back '\'' false)
  /-- Behind a character that is no letter outside ASCII, no dollar quote opens. -/
  dollars : ∀ left c right, front = left ++ c :: '$' :: right → 128 ≤ c.toNat →
    alphanumeric c = false → dollarQuoteLength ('$' :: (right ++ back)) "postgres" = none

private theorem WordInStep.tail {next : Char}
    (inStep : WordInStep alphanumeric (c :: next :: front) back) :
    WordInStep alphanumeric (next :: front) back := by
  constructor
  · intro _ ends quoteNext
    refine inStep.escapes (by simp) ?_ quoteNext
    exact ends
  · intro left d right split
    exact inStep.dollars (c :: left) d right (by rw [split]; rfl)

include letters in
/-- The splitter finds nothing in the part of a word behind its first character. -/
private theorem semicolonsFrom_word {first : Char}
    (parts : ∀ c ∈ first :: front, isWordChar c = true)
    (inStep : WordInStep alphanumeric (first :: front) back) :
    semicolonsFrom alphanumeric "postgres" (front ++ back) 0 (some first) index =
      semicolonsFrom alphanumeric "postgres" back 0 (first :: front).getLast?
        (index + (encode front).length) := by
  -- along the word; what is asked of the word is asked of each of its ends
  induction front generalizing first index with
  | nil => simp
  | cons c front ih =>
    have part := parts c (by simp)
    have firstPart := parts first (by simp)
    have notSemicolon : c ≠ ';' := wordChar_ne part (by decide)
    have step : semicolonsFrom alphanumeric "postgres" (c :: (front ++ back)) 0 (some first)
        index = semicolonsFrom alphanumeric "postgres" (front ++ back) 0 (some c)
          (index + (encode [c]).length) := by
      by_cases isDollar : c = '$'
      · subst isDollar
        apply semicolonsFrom_other _ notSemicolon
        rw [skipSpanAt]
        by_cases low : first.toNat < 128
        · rw [if_pos (wordChar_inside letters firstPart low)]
        cases letter : alphanumeric first with
        | true => simp [insideIdentifier, letter]
        | false =>
          rw [skipSpan_dollar, inStep.dollars [] first front rfl (by omega) letter]
          split <;> rfl
      by_cases isE : c = 'e' ∨ c = 'E'
      · by_cases quoteNext : (front ++ back).head? = some '\''
        · -- the word ends here, since a quote is no part of one
          have ends : front = [] := by
            cases front with
            | nil => rfl
            | cons d _ =>
              have other := wordChar_ne (parts d (by simp)) (d := '\'') (by decide)
              exact absurd (some.inj quoteNext) other
          subst ends
          rw [nil_append] at quoteNext ⊢
          obtain ⟨body, rfl⟩ := head?_eq_some_iff.mp quoteNext
          apply semicolonsFrom_letterE isE
          apply inStep.escapes (by simp) _ rfl
          rcases isE with rfl | rfl <;> simp
        · apply semicolonsFrom_other _ notSemicolon
          rw [skipSpanAt_of_ne isDollar]
          exact skipSpan_letterE isE quoteNext
      · apply semicolonsFrom_other _ notSemicolon
        rw [skipSpanAt_of_ne isDollar]
        exact skipSpan_nothing (wordChar_startsNothing part isDollar (not_or.mp isE))
    rw [cons_append, step, ih (fun d member => parts d (mem_cons_of_mem _ member))
      inStep.tail, getLast?_cons_cons, ← length_encode_cons]

private theorem wordEnd_encode :
    wordEnd postgresqlRules.lexical none (encode (c :: rest)) =
      (encode (c :: rest.takeWhile isWordChar)).length := by
  rw [wordEnd, encode_cons c rest, encode_cons c (rest.takeWhile isWordChar), filter_none,
    length_append]
  by_cases low : c.toNat < 128
  · rw [encodeChar_ascii low]
    simp only [cons_append, nil_append, drop_one, tail_cons, length_singleton]
    rw [wordRest_encode, Nat.add_comm]
  obtain ⟨first, more, shape, -, -, -⟩ := encodeChar_shape c
  have high := encodeChar_wide (Nat.le_of_not_lt low)
  rw [shape] at high ⊢
  simp only [cons_append, drop_one, tail_cons, length_cons]
  rw [wordRest_high _ fun b member => high b (mem_cons_of_mem _ member), wordRest_encode]
  omega

private theorem apart_takeWhile :
    Apart (c :: rest.takeWhile isWordChar) (rest.dropWhile isWordChar) := by
  intro _ _ _ _ next starts
  cases part : isWordChar next with
  | false => rfl
  | true =>
    have stops := head?_dropWhile_not isWordChar rest
    rw [starts] at stops
    simp [part] at stops

include letters in
/-- A word or a number, whose first character the splitter steps over alone. -/
private theorem agrees_word (part : isWordChar c = true) (notDollar : c ≠ '$')
    (alone : (c = 'e' ∨ c = 'E') → rest.head? ≠ some '\'')
    (length : token.length = wordEnd postgresqlRules.lexical none (encode (c :: rest)))
    (kind : token.kind ≠ .semicolon)
    (inStep : WordInStep alphanumeric (c :: rest.takeWhile isWordChar)
      (rest.dropWhile isWordChar)) :
    Agrees alphanumeric (c :: rest) previous index token (c :: rest.takeWhile isWordChar)
      (rest.dropWhile isWordChar) := by
  rw [wordEnd_encode] at length
  refine ⟨by simp, by simp, length.symm, ?_, apart_takeWhile⟩
  have nothing : skipSpanAt alphanumeric previous (c :: rest) "postgres" = none := by
    rw [skipSpanAt_of_ne notDollar]
    by_cases isE : c = 'e' ∨ c = 'E'
    · exact skipSpan_letterE isE (alone isE)
    · exact skipSpan_nothing (wordChar_startsNothing part notDollar (not_or.mp isE))
  have parts : ∀ d ∈ c :: rest.takeWhile isWordChar, isWordChar d = true := by
    intro d member
    rcases mem_cons.mp member with rfl | inRest
    · exact part
    · exact all_eq_true.mp all_takeWhile d inRest
  have others := @semicolonsFrom_word _ _ _ (index + (encode [c]).length) letters _ parts inStep
  rw [takeWhile_append_dropWhile] at others
  rw [if_neg kind, nil_append, length, semicolonsFrom_other nothing
    (wordChar_ne part (by decide)), others, ← length_encode_cons]

private theorem escapeString_spec {next : UInt8} :
    (escapeString (b :: next :: bytes)).length =
        (quoteEnd '\''.toUInt8 true bytes).getD bytes.length + 2 ∧
      (escapeString (b :: next :: bytes)).kind ≠ .semicolon := by
  rw [escapeString]
  have dropped : (b :: next :: bytes).drop 2 = bytes := rfl
  rw [dropped]
  cases quoteEnd '\''.toUInt8 true bytes with
  | none => exact ⟨rfl, by simp [unterminated]⟩
  | some stop => exact ⟨rfl, by simp [plain]⟩

private theorem agrees_escape (letter : c = 'e' ∨ c = 'E') :
    Agreed alphanumeric (c :: '\'' :: rest) previous index
      (escapeString (encode (c :: '\'' :: rest))) := by
  obtain ⟨low, notDollar⟩ := letterE_low letter
  rw [encode_ascii_cons low, encode_ascii_cons (by decide)]
  obtain ⟨length, kind⟩ := escapeString_spec
  refine @agrees_opened _ _ _ _ _ _ '\'' ['\''] _ (quotedRest_spec '\'' true) (by decide)
    ?_ ?_ kind
  · rw [singleton_append, skipSpanAt_of_ne notDollar, skipSpan_escape letter,
      length_singleton, Nat.add_comm 1]
    rfl
  · rw [length, quoteEnd_encode (by decide) (by decide), encode_ascii_cons low]
    rfl

/-! ### Any token -/

/-- The constructs at which the two do not part. -/
structure InStep (alphanumeric : Char → Bool) (kind : ScriptTokenKind) (previous : Option Char)
    (front back : List Char) : Prop where
  words : kind = .word ∨ kind = .number → WordInStep alphanumeric front back
  /-- A dollar quote stands behind no dollar sign and has an ASCII identifier as its tag. -/
  tags : front.head? = some '$' → kind ≠ .punct →
    previous ≠ some '$' ∧ dollarQuoteLength (front ++ back) "postgres" ≠ none

private theorem isOrdinary_high (high : 128 ≤ b.toNat) : isOrdinary b :=
  ⟨isSpace_high high, high_ne high (by decide), high_ne high (by decide), high_ne high (by decide),
    high_ne high (by decide), high_ne high (by decide), high_ne high (by decide),
    high_ne high (by decide), high_ne high (by decide)⟩

private theorem starts_low : ∀ c : Char, c.toNat < 128 →
    isAsciiDigit c.toUInt8 = true ∨ isWordStart postgresqlRules.lexical c.toUInt8 = true →
      isWordChar c = true :=
  ascii_all _ (by decide +kernel)

private theorem wordChar_of_starts {bytes rest : List UInt8}
    (whole : String.utf8EncodeChar c ++ rest = b :: bytes)
    (starts : isAsciiDigit b = true ∨ isWordStart postgresqlRules.lexical b = true) :
    isWordChar c = true := by
  by_cases low : c.toNat < 128
  · rw [encodeChar_ascii low, singleton_append, cons.injEq] at whole
    rw [← whole.1] at starts
    exact starts_low c low starts
  · rw [isWordChar, Bool.or_eq_true]
    exact .inl (decide_eq_true (Nat.le_of_not_lt low))

private theorem punct_low : ∀ c : Char, c.toNat < 128 → isOrdinary c.toUInt8 →
    isAsciiDigit c.toUInt8 = false → isWordStart postgresqlRules.lexical c.toUInt8 = false →
      startsNothing c ∧ c ≠ ';' ∧ isWordChar c = false :=
  ascii_all _ (by decide +kernel)

private theorem agrees_punct (low : c.toNat < 128) (ordinary : isOrdinary c.toUInt8)
    (notDigit : isAsciiDigit c.toUInt8 = false)
    (notStart : isWordStart postgresqlRules.lexical c.toUInt8 = false) :
    Agreed alphanumeric (c :: rest) previous index (plain .punct 1) := by
  obtain ⟨nothing, notSemicolon, notWord⟩ := punct_low c low ordinary notDigit notStart
  exact agrees_plain (skipSpan_nothing nothing)
    ⟨low, notSemicolon, nothing.2.2.2.2.1, notWord⟩ (by decide)

include letters in
/-- A word, which is an escape string to both if it is one. -/
private theorem agrees_wordToken (part : isWordChar c = true) (notDollar : c ≠ '$')
    (inStep : word postgresqlRules.lexical none (encode (c :: rest)) =
        plain .word (wordEnd postgresqlRules.lexical none (encode (c :: rest))) →
      WordInStep alphanumeric (c :: rest.takeWhile isWordChar) (rest.dropWhile isWordChar)) :
    Agreed alphanumeric (c :: rest) previous index
      (word postgresqlRules.lexical none (encode (c :: rest))) := by
  by_cases escape : (c = 'e' ∨ c = 'E') ∧ rest.head? = some '\''
  · obtain ⟨letter, quoteNext⟩ := escape
    obtain ⟨body, rfl⟩ := head?_eq_some_iff.mp quoteNext
    have token : word postgresqlRules.lexical none (encode (c :: '\'' :: body)) =
        escapeString (encode (c :: '\'' :: body)) := by
      rw [encode_ascii_cons (letterE_low letter).1, encode_ascii_cons (by decide)]
      rcases letter with rfl | rfl <;> rfl
    rw [token]
    exact agrees_escape letter
  have token : word postgresqlRules.lexical none (encode (c :: rest)) =
      plain .word (wordEnd postgresqlRules.lexical none (encode (c :: rest))) := by
    rw [word, if_neg]
    intro isEscape
    simp only [Bool.and_eq_true, Bool.or_eq_true, beq_iff_eq] at isEscape
    obtain ⟨⟨-, first⟩, second⟩ := isEscape
    rw [head_encode (by decide), head_encode (by decide), head?_cons, some.injEq,
      some.injEq] at first
    rw [encode_ascii_cons (letterE_low first).1, getElem?_cons_succ, ← head?_eq_getElem?,
      head_encode (by decide)] at second
    exact escape ⟨first, second⟩
  have words := inStep token
  rw [token]
  exact ⟨_, _, agrees_word letters part notDollar (fun letter quoteNext =>
    escape ⟨letter, quoteNext⟩) rfl (by simp [plain]) words⟩

private theorem token_cut {first : UInt8} (whole : encode rest = first :: bytes) :
    ∃ front back, rest = front ++ back ∧ front ≠ [] ∧
      (encode front).length = (tokenAt missing first (encode rest)).length := by
  have cuts : Cuts (encode rest) (tokenAt missing first (encode rest)).length := by
    rw [whole]
    exact (takes_lexAt (fun _ isNone => by cases isNone) missing whole).cuts
  obtain ⟨front, back, split, nonempty, length, -⟩ := encode_front cuts
  exact ⟨front, back, split, nonempty, length⟩

/-- The characters with a meaning of their own. -/
def isSpecial (c : Char) : Prop :=
  c = '\'' ∨ c = '"' ∨ c = ';' ∨ c = '(' ∨ c = ')' ∨ c = '$' ∨ c = '-' ∨ c = '/'

instance (c : Char) : Decidable (isSpecial c) := inferInstanceAs (Decidable (_ ∨ _))

private theorem isSpecial_low (special : isSpecial c) : c.toNat < 128 := by
  rcases special with rfl | rfl | rfl | rfl | rfl | rfl | rfl | rfl <;> decide

private theorem isOrdinary_of_low : ∀ c : Char, c.toNat < 128 → isSpace c.toUInt8 = false →
    ¬ isSpecial c → isOrdinary c.toUInt8 :=
  ascii_all _ (by decide +kernel)

section Token

variable {first : UInt8} {bytes : List UInt8} (whole : encode (c :: rest) = first :: bytes)
  (inStep : ∀ front back, c :: rest = front ++ back →
    (encode front).length = (tokenAt missing first (encode (c :: rest))).length →
    InStep alphanumeric (tokenAt missing first (encode (c :: rest))).kind previous front back)

include letters whole inStep

private theorem agrees_special (special : isSpecial c)
    (notWord : c = '$' → ∀ last, previous = some last → isWordChar last = true → last = '$') :
    Agreed alphanumeric (c :: rest) previous index
      (tokenAt missing first (encode (c :: rest))) := by
  have isFirst := whole
  rw [encode_ascii_cons (isSpecial_low special), cons.injEq] at isFirst
  obtain rfl := isFirst.1
  have second (d : Char) (low : d.toNat < 128) :
      (encode (c :: rest))[1]? = some d.toUInt8 ↔ rest.head? = some d := by
    rw [encode_ascii_cons (isSpecial_low special), getElem?_cons_succ,
      ← head?_eq_getElem?, head_encode low]
  rcases special with rfl | rfl | rfl | rfl | rfl | rfl | rfl | rfl
  · exact agrees_quoted (by decide) (by decide) (by decide) skipSpan_single rfl
  · exact agrees_quoted (by decide) (by decide) (by decide) skipSpan_double rfl
  · rw [tokenAt_semicolon]
    exact ⟨_, _, agrees_semicolon⟩
  · rw [tokenAt_openParen]
    exact agrees_plain (skipSpan_nothing (by decide)) (by decide) (by decide)
  · rw [tokenAt_closeParen]
    exact agrees_plain (skipSpan_nothing (by decide)) (by decide) (by decide)
  · apply agrees_dollar letters (notWord rfl)
    intro notPunct
    obtain ⟨front, back, split, nonempty, length⟩ := token_cut whole
    have tags := (inStep front back split length).tags
    rw [split]
    refine tags ?_ notPunct
    cases front with
    | nil => exact absurd rfl nonempty
    | cons d front =>
      rw [cons_append, cons.injEq] at split
      rw [← split.1]
      rfl
  · rw [tokenAt_dash]
    by_cases dashNext : rest.head? = some '-'
    · rw [if_pos ((second '-' (by decide)).mpr dashNext)]
      obtain ⟨more, rfl⟩ := head?_eq_some_iff.mp dashNext
      exact agrees_line
    · rw [if_neg (dashNext ∘ (second '-' (by decide)).mp)]
      exact agrees_plain (skipSpan_pair (by simp) dashNext) (by decide) (by decide)
  rw [tokenAt_slash]
  by_cases starNext : rest.head? = some '*'
  · rw [if_pos ((second '*' (by decide)).mpr starNext)]
    obtain ⟨more, rfl⟩ := head?_eq_some_iff.mp starNext
    exact agrees_block
  · rw [if_neg (starNext ∘ (second '*' (by decide)).mp)]
    exact agrees_plain (skipSpan_pair (by simp) starNext) (by decide) (by decide)

private theorem agrees_ordinary (ordinary : isOrdinary first) :
    Agreed alphanumeric (c :: rest) previous index
      (tokenAt missing first (encode (c :: rest))) := by
  have notDollar : c ≠ '$' := by
    rintro rfl
    rw [encode_ascii_cons (by decide), cons.injEq] at whole
    exact ordinary.2.2.2.2.2.2.1 whole.1.symm
  have split : c :: rest = (c :: rest.takeWhile isWordChar) ++ rest.dropWhile isWordChar := by simp
  have bytesOf := whole
  rw [encode_cons] at bytesOf
  rw [tokenAt_ordinary missing _ ordinary] at inStep ⊢
  cases digit : isAsciiDigit first with
  | true =>
    rw [digit] at inStep
    have part := wordChar_of_starts bytesOf (.inl digit)
    refine ⟨_, _, agrees_word letters part notDollar ?_ rfl (by simp [plain])
      ((inStep _ _ split wordEnd_encode.symm).words (.inr rfl))⟩
    -- a digit is no `e`
    intro isE
    rcases isE with rfl | rfl <;>
      rw [encode_ascii_cons (by decide), cons.injEq] at whole <;>
      rw [← whole.1] at digit <;>
      cases digit
  | false =>
    rw [digit] at inStep
    cases starts : isWordStart postgresqlRules.lexical first with
    | true =>
      rw [starts] at inStep
      have part := wordChar_of_starts bytesOf (.inr starts)
      apply agrees_wordToken letters part notDollar
      intro isWord
      rw [isWord] at inStep
      exact (inStep _ _ split wordEnd_encode.symm).words (.inl rfl)
    | false =>
    have low : c.toNat < 128 := by
      by_contra wide
      have firstHigh := encode_high bytesOf wide
      have firstLow := low_of_not_wordStart starts
      omega
    rw [encodeChar_ascii low, singleton_append, cons.injEq] at bytesOf
    rw [← bytesOf.1] at ordinary digit starts
    exact agrees_punct low ordinary digit starts

/-- At every token that is in step, the two go on from the same place. -/
theorem agrees_token
    (notWord : c = '$' → ∀ last, previous = some last → isWordChar last = true → last = '$') :
    Agreed alphanumeric (c :: rest) previous index
      (tokenAt missing first (encode (c :: rest))) := by
  cases space : isSpace first with
  | true => exact agrees_space whole space
  | false =>
  by_cases low : c.toNat < 128
  · have isFirst : first = c.toUInt8 := by
      rw [encode_ascii_cons low, cons.injEq] at whole
      exact whole.1.symm
    subst isFirst
    by_cases special : isSpecial c
    · exact agrees_special letters whole inStep special notWord
    · exact agrees_ordinary letters whole inStep (isOrdinary_of_low c low space special)
  · apply agrees_ordinary letters whole inStep
    rw [encode_cons] at whole
    exact isOrdinary_high (encode_high whole low)

end Token

end Splitter

end Bookie.Sql
