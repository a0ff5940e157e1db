/-
Every token of the lexer is some of the bytes it is given, at least one, and cuts
no character: it ends behind an ASCII byte, before one, before or behind a
delimiter, or with the text.
-/

import Bookie.Script.Lexer

namespace Bookie.Script

open Text List

def BehindAscii (bytes : List UInt8) (stop : Nat) : Prop :=
  ∃ before b after, bytes = before ++ b :: after ∧ b.toNat < 128 ∧ before.length + 1 = stop

/-- A token of this length can be taken from the bytes without cutting a character. -/
structure Cuts (bytes : List UInt8) (length : Nat) : Prop where
  positive : 0 < length
  within : length ≤ bytes.length
  clean : Clean (bytes.drop length)

variable {bytes rest : List UInt8} {stop : Nat} {b : UInt8} {text : List Char}

private theorem BehindAscii.one (low : b.toNat < 128) : BehindAscii (b :: bytes) 1 :=
  ⟨[], b, bytes, rfl, low, rfl⟩

private theorem BehindAscii.cons (behind : BehindAscii bytes stop) :
    BehindAscii (b :: bytes) (stop + 1) := by
  obtain ⟨before, last, after, rfl, low, rfl⟩ := behind
  exact ⟨b :: before, last, after, rfl, low, rfl⟩

private theorem BehindAscii.drop {count : Nat} (behind : BehindAscii (bytes.drop count) stop) :
    BehindAscii bytes (stop + count) := by
  obtain ⟨before, last, after, same, low, rfl⟩ := behind
  refine ⟨bytes.take count ++ before, last, after, ?_, low, ?_⟩
  · rw [append_assoc, ← same, take_append_drop]
  have short : count < bytes.length := by
    by_contra long
    rw [drop_eq_nil_of_le (Nat.le_of_not_lt long)] at same
    simp at same
  rw [length_append, length_take]
  omega

theorem BehindAscii.cuts (behind : BehindAscii bytes stop)
    (whole : encode text = bytes) : Cuts bytes stop := by
  obtain ⟨before, last, after, rfl, low, rfl⟩ := behind
  refine ⟨Nat.succ_pos _, ?_, ?_⟩
  · simp only [length_append, length_cons]
    omega
  · have dropped : (before ++ last :: after).drop (before.length + 1) = after := by simp
    rw [dropped]
    exact clean_after_ascii whole low

private theorem cuts_all (some : bytes ≠ []) : Cuts bytes bytes.length := by
  refine ⟨length_pos_iff.mpr some, Nat.le_refl _, ?_⟩
  rw [drop_length]
  exact clean_nil

/-- A token the lexer can take: it cuts no character, and it is no directive. -/
structure Takes (bytes : List UInt8) (token : LexedToken) : Prop where
  cuts : Cuts bytes token.length
  kind : token.kind ≠ .directive

private theorem takes_unterminated (construct : OpenConstruct) (some : bytes ≠ []) :
    Takes bytes (unterminated construct bytes) :=
  ⟨cuts_all some, by simp [unterminated]⟩

private theorem blockCommentEnd_behind {nested : Bool} {depth : Nat}
    (ends : blockCommentEnd nested depth bytes = some stop) : BehindAscii bytes stop := by
  fun_induction blockCommentEnd nested depth bytes generalizing stop with
  | case1 | case2 => cases ends
  | case3 b next bytes pair =>
    cases ends
    simp only [Bool.and_eq_true, beq_iff_eq] at pair
    obtain ⟨rfl, rfl⟩ := pair
    exact (BehindAscii.one (by decide)).cons
  | case4 _ b next _ _ _ ih | case5 _ b next _ _ _ ih =>
    obtain ⟨inner, found, rfl⟩ := Option.map_eq_some_iff.mp ends
    exact ((ih found).cons).cons
  | case6 depth b next bytes _ _ ih =>
    obtain ⟨inner, found, rfl⟩ := Option.map_eq_some_iff.mp ends
    exact (ih found).cons

private theorem quoteEnd_behind {quote : UInt8} {backslash : Bool} (low : quote.toNat < 128)
    (ends : quoteEnd quote backslash bytes = some stop) :
    BehindAscii bytes stop := by
  fun_induction quoteEnd quote backslash bytes generalizing stop with
  | case1 | case2 | case4 => cases ends
  | case3 b _ closes =>
    cases ends
    rw [beq_iff_eq] at closes
    subst closes
    exact BehindAscii.one low
  | case5 b next _ _ ih | case6 b next _ _ _ _ ih =>
    obtain ⟨inner, found, rfl⟩ := Option.map_eq_some_iff.mp ends
    exact ((ih found).cons).cons
  | case7 b next bytes _ closes _ =>
    cases ends
    rw [beq_iff_eq] at closes
    subst closes
    exact BehindAscii.one low
  | case8 b next bytes _ _ ih =>
    obtain ⟨inner, found, rfl⟩ := Option.map_eq_some_iff.mp ends
    exact (ih found).cons

private theorem bracketEnd_behind {doubling : Bool} (ends : bracketEnd doubling bytes = some stop) :
    BehindAscii bytes stop := by
  fun_induction bracketEnd doubling bytes generalizing stop with
  | case1 | case3 => cases ends
  | case2 b closes =>
    cases ends
    rw [beq_iff_eq] at closes
    subst closes
    exact BehindAscii.one (by decide)
  | case4 b next bytes _ _ ih =>
    obtain ⟨inner, found, rfl⟩ := Option.map_eq_some_iff.mp ends
    exact ((ih found).cons).cons
  | case5 b next bytes closes _ =>
    cases ends
    rw [beq_iff_eq] at closes
    subst closes
    exact BehindAscii.one (by decide)
  | case6 b next bytes _ ih =>
    obtain ⟨inner, found, rfl⟩ := Option.map_eq_some_iff.mp ends
    exact (ih found).cons

theorem whitespaceEnd_behind (space : isSpace b = true) :
    BehindAscii (b :: bytes) (whitespaceEnd (b :: bytes)) := by
  have low {c : UInt8} (space : isSpace c = true) : c.toNat < 128 := by
    simp only [isSpace, Bool.or_eq_true, beq_iff_eq] at space
    rcases space with ((((rfl | rfl) | rfl) | rfl) | rfl) | rfl <;> decide
  induction bytes generalizing b with
  | nil =>
    have one : whitespaceEnd [b] = 1 := by simp [whitespaceEnd, space]
    rw [one]
    exact BehindAscii.one (low space)
  | cons next bytes ih =>
    by_cases stops : b = '\n'.toUInt8 ∨ isSpace next = false
    · have one : whitespaceEnd (b :: next :: bytes) = 1 := by
        rcases stops with rfl | notSpace
        · rfl
        by_cases feeds : b == '\n'.toUInt8
        · rw [whitespaceEnd, space, feeds]
          rfl
        · simp [whitespaceEnd, space, notSpace]
      rw [one]
      exact BehindAscii.one (low space)
    rw [not_or] at stops
    have more : whitespaceEnd (b :: next :: bytes) = whitespaceEnd (next :: bytes) + 1 := by
      rw [whitespaceEnd]
      simp [space, stops.1]
    rw [more]
    exact (ih (by simpa using stops.2)).cons

private theorem takes_lineComment (notFeed : b ≠ '\n'.toUInt8) :
    Takes (b :: bytes) (lineComment (b :: bytes)) := by
  refine ⟨?_, by simp [lineComment, plain]⟩
  unfold lineComment plain
  cases found : (b :: bytes).findIdx? (· == '\n'.toUInt8) with
  | none => exact cuts_all (cons_ne_nil b bytes)
  | some stop =>
  obtain ⟨inside, isFeed, -⟩ := findIdx?_eq_some_iff_getElem.mp found
  rw [beq_iff_eq] at isFeed
  rw [Option.getD_some]
  refine ⟨?_, Nat.le_of_lt inside, ?_⟩
  · rcases Nat.eq_zero_or_pos stop with rfl | positive
    · exact absurd isFeed notFeed
    · exact positive
  · rw [drop_eq_getElem_cons inside, clean_cons, isFeed]
    decide

section Grammar

variable {lexical : ScriptSyntax} {settings : LexicalSettings}

variable {delimiter : Option (List UInt8)}

private theorem low_of_not_high (notHigh : ¬ 0x80 ≤ b) : b.toNat < 128 := by
  rw [UInt8.le_iff_toNat_le] at notHigh
  have bound : (0x80 : UInt8).toNat = 128 := rfl
  omega

theorem low_of_not_wordStart (notStart : isWordStart lexical b = false) : b.toNat < 128 := by
  simp only [isWordStart, Bool.or_eq_false_iff, decide_eq_false_iff_not] at notStart
  exact low_of_not_high notStart.1.2

def WellFormed (delimiter : Option (List UInt8)) : Prop :=
  ∀ bytes, delimiter = some bytes → Whole bytes

private theorem delimiterAt_elim {delimiter : List UInt8}
    (stands : delimiterAt lexical delimiter bytes = true) :
    delimiter ≠ [] ∧ ∃ after, bytes = delimiter ++ after := by
  simp only [delimiterAt, Bool.and_eq_true, Bool.not_eq_true', isEmpty_eq_false_iff] at stands
  obtain ⟨after, same⟩ := isPrefixOf_iff_prefix.mp stands.1.2
  exact ⟨stands.1.1, after, same.symm⟩

private theorem delimiterAt_cuts {delimiter : List UInt8}
    (whole : encode text = bytes) (formed : WellFormed (some delimiter))
    (stands : delimiterAt lexical delimiter bytes = true) : Cuts bytes delimiter.length := by
  obtain ⟨notEmpty, after, rfl⟩ := delimiterAt_elim stands
  obtain ⟨found, rfl⟩ := formed delimiter rfl
  obtain ⟨back, -, rfl⟩ := encode_behind whole
  refine ⟨length_pos_iff.mpr notEmpty, ?_, ?_⟩
  · rw [length_append]
    omega
  · rw [drop_left]
    exact encode_clean back

/-- A word ends with the text, before a byte that is no part of one, or before a
delimiter; in any case no character is cut. -/
private theorem wordRest_spec {delimiter : Option (List UInt8)} (formed : WellFormed delimiter)
    (bytes : List UInt8) :
    wordRest lexical delimiter bytes ≤ bytes.length ∧
      Clean (bytes.drop (wordRest lexical delimiter bytes)) := by
  induction bytes with
  | nil => exact ⟨Nat.le_refl _, clean_nil⟩
  | cons b bytes ih =>
    rw [wordRest]
    split
    · rename_i stops
      refine ⟨Nat.zero_le _, ?_⟩
      rw [drop_zero]
      simp only [Bool.or_eq_true, Bool.not_eq_true'] at stops
      rcases stops with notPart | stands
      · rw [clean_cons]
        intro continued
        simp only [isWordPart, Bool.or_eq_false_iff, decide_eq_false_iff_not] at notPart
        have low := low_of_not_high notPart.1.2
        have high := continued.1
        omega
      cases delimiter with
      | none => cases stands
      | some text =>
      obtain ⟨notEmpty, after, same⟩ := delimiterAt_elim stands
      obtain ⟨found, rfl⟩ := formed text rfl
      cases found with
      | nil => exact absurd rfl notEmpty
      | cons c found =>
        rw [same, encode_cons, append_assoc]
        exact encodeChar_clean c _
    · refine ⟨Nat.succ_le_succ ih.1, ?_⟩
      exact ih.2

private theorem wordEnd_cuts (formed : WellFormed delimiter) :
    Cuts (b :: bytes) (wordEnd lexical delimiter (b :: bytes)) := by
  have filtered : WellFormed (delimiter.filter (startsWordPart lexical)) := by
    intro text same
    exact formed text (Option.filter_eq_some_iff.mp same).1
  have spec := @wordRest_spec lexical _ filtered bytes
  refine ⟨Nat.succ_pos _, ?_, ?_⟩
  · exact Nat.succ_le_succ spec.1
  · exact spec.2

/-- A scan that starts some bytes into the token and ends behind an ASCII byte. -/
private theorem scanned_cuts {count : Nat}
    (whole : encode text = bytes) (behind : BehindAscii (bytes.drop count) stop) :
    Cuts bytes (stop + count) :=
  behind.drop.cuts whole

private theorem takes_one {kind : ScriptTokenKind} (low : b.toNat < 128)
    (whole : encode text = b :: rest) (other : kind ≠ .directive) :
    Takes (b :: rest) (plain kind 1) :=
  ⟨(BehindAscii.one low).cuts whole, other⟩

section Whole

variable (whole : encode text = bytes) (some : bytes ≠ [])
include whole some

private theorem takes_blockComment :
    Takes bytes (blockComment lexical bytes) := by
  unfold blockComment
  split
  · rename_i ends
    exact ⟨scanned_cuts whole (blockCommentEnd_behind ends), by simp [plain]⟩
  · exact takes_unterminated _ some

private theorem takes_quoted {rule : QuoteRule} {quote : UInt8} (low : quote.toNat < 128) :
    Takes bytes (quoted settings rule quote bytes) := by
  unfold quoted
  cases ends : quoteEnd quote (BackslashPolicy.applies settings rule.backslash) (bytes.drop 1) with
  | none => exact ⟨cuts_all some, by cases rule.kind <;> simp [unterminated]⟩
  | some stop =>
    exact ⟨scanned_cuts whole (quoteEnd_behind low ends), by cases rule.kind <;> simp [plain]⟩

private theorem takes_escapeString :
    Takes bytes (escapeString bytes) := by
  unfold escapeString
  split
  · rename_i ends
    exact ⟨scanned_cuts whole (quoteEnd_behind (by decide) ends), by simp [plain]⟩
  · exact takes_unterminated _ some

private theorem takes_bracketName {doubling : Bool} :
    Takes bytes (bracketName doubling bytes) := by
  unfold bracketName
  split
  · rename_i ends
    exact ⟨scanned_cuts whole (bracketEnd_behind ends), by simp [plain]⟩
  · exact takes_unterminated _ some

end Whole

private theorem takes_bracketed (low : b.toNat < 128) (whole : encode text = b :: rest) :
    Takes (b :: rest) (bracketed lexical (b :: rest)) := by
  unfold bracketed
  cases lexical.bracketIdentifier with
  | none => exact takes_one low whole (by decide)
  | noDoubling | doubling => exact takes_bracketName whole (cons_ne_nil b rest)

private theorem takes_word (formed : WellFormed delimiter) (whole : encode text = b :: rest) :
    Takes (b :: rest) (word lexical delimiter (b :: rest)) := by
  unfold word
  dsimp only
  split
  · exact takes_escapeString whole (cons_ne_nil b rest)
  · exact ⟨wordEnd_cuts formed, by simp [plain]⟩

/-! ### Dollar quotes -/

/-- The closing of a quote that ends in an ASCII byte ends behind one. -/
private theorem find_behind {opener : List UInt8} {offset : Nat} (opens : BehindAscii opener stop)
    (ends : opener.length = stop) (found : find opener bytes = some offset) :
    BehindAscii bytes (offset + opener.length) := by
  obtain ⟨front, last, after, rfl, low, rfl⟩ := opens
  have nothing : after = [] := by
    simp only [length_append, length_cons] at ends
    exact length_eq_zero_iff.mp (by omega)
  subst nothing
  obtain ⟨before, behind, rfl, rfl⟩ := find_some found
  refine ⟨before ++ front, last, behind, ?_, low, ?_⟩
  · simp
  · simp [Nat.add_assoc]

private theorem opener_behind (opens : BehindAscii bytes stop) :
    BehindAscii (bytes.take stop) stop ∧ (bytes.take stop).length = stop := by
  obtain ⟨front, last, after, rfl, low, rfl⟩ := opens
  have taken : (front ++ last :: after).take (front.length + 1) = front ++ [last] := by
    simp [take_append]
  rw [taken]
  exact ⟨⟨front, last, [], rfl, low, rfl⟩, by simp⟩

private theorem getElem_behind {index : Nat} (there : bytes[index]? = some b)
    (low : b.toNat < 128) : BehindAscii bytes (index + 1) := by
  obtain ⟨inside, same⟩ := List.getElem?_eq_some_iff.mp there
  refine ⟨bytes.take index, b, bytes.drop (index + 1), ?_, low, ?_⟩
  · rw [← same, ← drop_eq_getElem_cons inside, take_append_drop]
  · rw [length_take]
    omega

private theorem taggedOpenerEnd_behind (opens : taggedOpenerEnd bytes = some stop) :
    BehindAscii bytes stop := by
  unfold taggedOpenerEnd at opens
  split at opens
  · rename_i b first rest
    split at opens
    · rename_i empty
      cases opens
      rw [beq_iff_eq] at empty
      subst empty
      exact (BehindAscii.one (by decide)).cons
    split at opens
    · cases opens
    dsimp only at opens
    split at opens
    · rename_i closes
      cases opens
      exact (getElem_behind closes (by decide)).cons
    · cases opens
  · cases opens

private theorem heredocClose_behind {missing missing' : Missing} {close : Nat}
    (opens : bytes[close]? = some '$'.toUInt8)
    (closes : heredocClose missing close bytes = (some stop, missing')) :
    BehindAscii bytes stop := by
  obtain ⟨opener, length⟩ := opener_behind (getElem_behind opens (by decide))
  unfold heredocClose at closes
  dsimp only at closes
  split at closes
  · cases closes
  split at closes
  case h_2 => cases closes
  rename_i offset found
  cases closes
  have behind := (find_behind opener length found).drop
  have order : offset + (bytes.take (close + 1)).length + (close + 1) =
      close + 1 + offset + (bytes.take (close + 1)).length := by omega
  rw [← order]
  exact behind

private theorem takes_dollarWord (formed : WellFormed delimiter)
    (whole : encode text = '$'.toUInt8 :: rest) :
    Takes ('$'.toUInt8 :: rest) (dollarWord lexical delimiter ('$'.toUInt8 :: rest)) := by
  unfold dollarWord
  split
  · exact takes_word formed whole
  · exact takes_one (by decide) whole (by decide)

private theorem takes_dollar (formed : WellFormed delimiter) (missing : Missing)
    (whole : encode text = '$'.toUInt8 :: rest) :
    Takes ('$'.toUInt8 :: rest) (dollar lexical missing delimiter ('$'.toUInt8 :: rest)).1 := by
  have full := takes_unterminated .dollarQuoted (cons_ne_nil '$'.toUInt8 rest)
  unfold dollar
  cases lexical.dollarQuote with
  | none => exact takes_dollarWord formed whole
  | tagged =>
    cases opens : taggedOpenerEnd ('$'.toUInt8 :: rest) with
    | none => exact takes_dollarWord formed whole
    | some openerEnd =>
    obtain ⟨opener, length⟩ := opener_behind (taggedOpenerEnd_behind opens)
    dsimp only
    cases found : find (('$'.toUInt8 :: rest).take openerEnd)
        (('$'.toUInt8 :: rest).drop openerEnd) with
    | none => exact full
    | some offset =>
      have behind := (find_behind opener length found).drop.cuts whole
      have order : offset + (('$'.toUInt8 :: rest).take openerEnd).length + openerEnd =
          openerEnd + offset + (('$'.toUInt8 :: rest).take openerEnd).length := by omega
      rw [order] at behind
      exact ⟨behind, by simp [plain]⟩
  | heredoc =>
    cases closing : (('$'.toUInt8 :: rest).drop 1).findIdx? (· == '$'.toUInt8) with
    | none => exact takes_dollarWord formed whole
    | some offset =>
    have there : ('$'.toUInt8 :: rest)[offset + 1]? = some '$'.toUInt8 := by
      obtain ⟨inside, same, -⟩ := findIdx?_eq_some_iff_getElem.mp closing
      rw [beq_iff_eq] at same
      exact List.getElem?_eq_some_iff.mpr ⟨Nat.succ_lt_succ inside, same⟩
    dsimp only
    cases closes : heredocClose missing (offset + 1) ('$'.toUInt8 :: rest) with
    | mk stop missing' =>
      cases stop with
      | none => exact full
      | some stop => exact ⟨(heredocClose_behind there closes).cuts whole, by simp [plain]⟩

/-! ### Any token -/

private theorem takes_ite {condition : Prop} [Decidable condition] {one other : LexedToken}
    (yes : condition → Takes bytes one) (no : ¬ condition → Takes bytes other) :
    Takes bytes (if condition then one else other) := by
  by_cases holds : condition
  · rw [if_pos holds]
    exact yes holds
  · rw [if_neg holds]
    exact no holds

private theorem takes_lexPlain (formed : WellFormed delimiter) (whole : encode text = b :: rest) :
    Takes (b :: rest) (lexPlain lexical settings delimiter b (b :: rest)) := by
  have notNil := cons_ne_nil b rest
  refine takes_ite (fun space => ⟨(whitespaceEnd_behind space).cuts whole, by simp [plain]⟩)
    fun _ => ?_
  refine takes_ite (fun dashes => ?_) fun _ => ?_
  · simp only [Bool.and_eq_true, beq_iff_eq] at dashes
    exact takes_lineComment (by rw [dashes.1.1]; decide)
  refine takes_ite (fun hash => ?_) fun _ => ?_
  · simp only [Bool.and_eq_true, beq_iff_eq] at hash
    exact takes_lineComment (by rw [hash.1]; decide)
  refine takes_ite (fun _ => takes_blockComment whole notNil) fun _ => ?_
  refine takes_ite (fun slashes => ?_) fun _ => ?_
  · simp only [Bool.and_eq_true, beq_iff_eq] at slashes
    exact takes_lineComment (by rw [slashes.1.1]; decide)
  refine takes_ite (fun quote => takes_quoted whole notNil (by rw [eq_of_beq quote]; decide))
    fun _ => ?_
  refine takes_ite (fun quote => takes_quoted whole notNil (by rw [eq_of_beq quote]; decide))
    fun _ => ?_
  refine takes_ite (fun quote => ?_) fun _ => ?_
  · have low : b.toNat < 128 := by
      rw [eq_of_beq quote]
      decide
    cases lexical.backtick with
    | none => exact takes_one low whole (by decide)
    | some rule => exact takes_quoted whole notNil low
  refine takes_ite (fun bracket => takes_bracketed (by rw [eq_of_beq bracket]; decide) whole)
    fun _ => ?_
  refine takes_ite (fun semicolon => ?_) fun _ => ?_
  · simp only [Bool.and_eq_true, beq_iff_eq] at semicolon
    exact takes_one (by rw [semicolon.1]; decide) whole (by decide)
  refine takes_ite (fun paren => takes_one (by rw [eq_of_beq paren]; decide) whole (by decide))
    fun _ => ?_
  refine takes_ite (fun paren => takes_one (by rw [eq_of_beq paren]; decide) whole (by decide))
    fun _ => ?_
  refine takes_ite (fun _ => ⟨wordEnd_cuts formed, by simp [plain]⟩) fun _ => ?_
  refine takes_ite (fun _ => takes_word formed whole) fun notStart => ?_
  exact takes_one (low_of_not_wordStart (by simpa using notStart)) whole (by decide)

theorem takes_lexAt (formed : WellFormed delimiter) (missing : Missing)
    (whole : encode text = b :: rest) :
    Takes (b :: rest) (lexAt lexical settings missing delimiter b (b :: rest)).1 := by
  unfold lexAt
  split
  · rename_i dollars
    obtain rfl := eq_of_beq dollars
    exact takes_dollar formed missing whole
  · exact takes_lexPlain formed whole

end Grammar

/-- What reading one token does: some of the bytes left are its own, and the lexer
stands behind them. -/
theorem nextToken_spec {lexer : Lexer} {delimiter : Option (List UInt8)}
    (whole : Whole lexer.rest) (formed : WellFormed delimiter) (left : lexer.rest ≠ []) :
    ∃ token missing, lexer.nextToken delimiter =
        some (token,
          { lexer with pos := lexer.pos + token.length, missingHeredocClosers := missing }) ∧
      Takes lexer.rest token := by
  unfold Lexer.nextToken
  cases bytes : lexer.rest with
  | nil => exact absurd bytes left
  | cons first rest =>
  rw [bytes] at whole
  obtain ⟨text, same⟩ := whole
  cases delimiter with
  | none => exact ⟨_, _, rfl, takes_lexAt formed _ same⟩
  | some stop =>
  dsimp only
  by_cases stands : delimiterAt lexer.lexical stop (first :: rest) = true
  · rw [if_pos stands]
    exact ⟨_, _, rfl, delimiterAt_cuts same formed stands, by simp [plain]⟩
  · rw [if_neg stands]
    exact ⟨_, _, rfl, takes_lexAt formed _ same⟩

end Bookie.Script
