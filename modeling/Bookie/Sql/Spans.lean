/-
The scans of the two splitters over one text, one over bytes and one over
characters; each byte scan stops where the character scan does, because every byte it
looks for is ASCII.
-/

import Bookie.Script.Cuts
import Bookie.Sql.Lex

namespace Bookie.Sql

open Script Text List

variable {c d : Char} {b quote : UInt8} {backslash : Bool} {wide : List UInt8} {text : List Char}

private theorem toUInt8_toNat (low : c.toNat < 128) : c.toUInt8.toNat = c.toNat := by
  have small : c.toUInt8.toNat = c.toNat % 256 := by
    rfl
  omega

theorem toUInt8_inj (lowC : c.toNat < 128) (lowD : d.toNat < 128) :
    c.toUInt8 = d.toUInt8 ↔ c = d := by
  constructor
  · intro same
    have code : c.toNat = d.toNat := by
      rw [← toUInt8_toNat lowC, ← toUInt8_toNat lowD, same]
    exact Char.toNat_inj.mp code
  · intro same
    rw [same]

theorem encode_ascii_cons (low : c.toNat < 128) (text : List Char) :
    encode (c :: text) = c.toUInt8 :: encode text := by
  rw [encode_cons, encodeChar_ascii low]
  rfl

theorem encode_cons_shape (c : Char) (rest : List Char) :
    ∃ first bytes, encode (c :: rest) = first :: bytes := by
  obtain ⟨first, more, shape, -, -, -⟩ := encodeChar_shape c
  exact ⟨first, more ++ encode rest, by rw [encode_cons, shape, cons_append]⟩

theorem high_ne (high : 128 ≤ b.toNat) (low : d.toNat < 128) : b ≠ d.toUInt8 := by
  intro same
  rw [same, toUInt8_toNat low] at high
  omega

theorem head_encode (low : d.toNat < 128) (text : List Char) :
    (encode text).head? = some d.toUInt8 ↔ text.head? = some d := by
  cases text with
  | nil => simp
  | cons c text =>
  by_cases narrow : c.toNat < 128
  · rw [encode_ascii_cons narrow]
    simp only [head?_cons, Option.some.injEq]
    exact toUInt8_inj narrow low
  obtain ⟨first, rest, shape, -, -, -⟩ := encodeChar_shape c
  have high := encodeChar_wide (Nat.le_of_not_lt narrow) first (by rw [shape]; simp)
  rw [encode_cons, shape]
  simp only [cons_append, head?_cons, Option.some.injEq]
  refine ⟨fun same => absurd same (high_ne high low), ?_⟩
  rintro rfl
  exact absurd low narrow

/-- A scan steps over bytes that mean nothing to it. -/
private theorem scan_behind {p : UInt8 → Prop} {f : List UInt8 → Option Nat}
    (step : ∀ b bytes, p b → f (b :: bytes) = (f bytes).map (· + 1)) (bytes : List UInt8)
    (all : ∀ b ∈ wide, p b) : f (wide ++ bytes) = (f bytes).map (· + wide.length) := by
  induction wide with
  | nil => simp
  | cons b wide ih =>
    obtain ⟨here, others⟩ := forall_mem_cons.mp all
    rw [cons_append, step b _ here, ih others, Option.map_map]
    rfl

/-- The bytes are scanned up to where so many characters end. -/
def Stops (found : Option Nat) (text : List Char) (count : Nat) : Prop :=
  found.getD (encode text).length = (encode (text.take count)).length

private theorem Stops.cons {found : Option Nat} {count : Nat} (stops : Stops found text count)
    (c : Char) :
    Stops (found.map (· + (String.utf8EncodeChar c).length)) (c :: text) (count + 1) := by
  unfold Stops at stops ⊢
  rw [take_succ_cons, encode_cons, encode_cons, length_append, length_append, ← stops]
  cases found with
  | none => rfl
  | some => exact Nat.add_comm _ _

private theorem Stops.ascii {found : Option Nat} {count : Nat} (stops : Stops found text count)
    (low : c.toNat < 128) : Stops (found.map (· + 1)) (c :: text) (count + 1) := by
  have stepped := stops.cons c
  rwa [encodeChar_ascii low] at stepped

theorem Stops.pair {found : Option Nat} {count : Nat} (stops : Stops found text count)
    (lowC : c.toNat < 128) (lowD : d.toNat < 128) :
    Stops (found.map (· + 2)) (c :: d :: text) (count + 2) := by
  have stepped := (stops.ascii lowD).ascii lowC
  rw [Option.map_map] at stepped
  exact stepped

variable (bytes : List UInt8)

private theorem quoteEnd_other (plain : (backslash && b == '\\'.toUInt8) = false)
    (other : b ≠ quote) :
    quoteEnd quote backslash (b :: bytes) = (quoteEnd quote backslash bytes).map (· + 1) := by
  cases bytes with
  | nil => simp [quoteEnd, other]
  | cons next bytes =>
    rw [quoteEnd]
    simp [plain, other]

theorem quoteEnd_close (plain : (backslash && quote == '\\'.toUInt8) = false) :
    quoteEnd quote backslash (quote :: bytes) =
      if bytes.head? = some quote then (quoteEnd quote backslash (bytes.drop 1)).map (· + 2)
      else some 1 := by
  cases bytes with
  | nil => simp [quoteEnd, plain]
  | cons next bytes =>
    rw [quoteEnd]
    simp [plain]

variable {quote : Char}

private theorem quoteEnd_high (bytes : List UInt8) (high : ∀ b ∈ wide, 128 ≤ b.toNat)
    (low : quote.toNat < 128) :
    quoteEnd quote.toUInt8 backslash (wide ++ bytes) =
      (quoteEnd quote.toUInt8 backslash bytes).map (· + wide.length) :=
  scan_behind (fun b bytes high => quoteEnd_other bytes
    (by simp [high_ne high (d := '\\') (by decide)]) (high_ne high low)) bytes high

theorem quoteEnd_char (low : quote.toNat < 128) (bytes : List UInt8)
    (plain : (backslash && c == '\\') = false) (other : c ≠ quote) :
    quoteEnd quote.toUInt8 backslash (String.utf8EncodeChar c ++ bytes) =
      (quoteEnd quote.toUInt8 backslash bytes).map (· + (String.utf8EncodeChar c).length) := by
  by_cases narrow : c.toNat < 128
  · rw [encodeChar_ascii narrow]
    refine quoteEnd_other bytes ?_ fun same => other ((toUInt8_inj narrow low).mp same)
    rw [Bool.and_eq_false_iff, beq_eq_false_iff_ne] at plain ⊢
    exact plain.imp_right fun differs same => differs ((toUInt8_inj narrow (by decide)).mp same)
  · exact quoteEnd_high bytes (encodeChar_wide (Nat.le_of_not_lt narrow)) low

theorem not_backslash_byte {quote : Char} (low : quote.toNat < 128) (notBackslash : quote ≠ '\\') :
    (backslash && quote.toUInt8 == '\\'.toUInt8) = false := by
  rw [Bool.and_eq_false_iff, beq_eq_false_iff_ne]
  right
  exact fun same => notBackslash ((toUInt8_inj low (by decide)).mp same)

theorem quoteEnd_encode (low : quote.toNat < 128) (notBackslash : quote ≠ '\\') (backslash : Bool)
    (text : List Char) :
    Stops (quoteEnd quote.toUInt8 backslash (encode text)) text
      (quotedRest quote backslash text) := by
  have closes := @not_backslash_byte backslash quote low notBackslash
  fun_induction quotedRest quote backslash text with
  | case1 => rfl
  | case2 c =>
    by_cases plain : (backslash && c == '\\') = true
    · simp only [Bool.and_eq_true, beq_iff_eq] at plain
      obtain ⟨rfl, rfl⟩ := plain
      rfl
    by_cases isQuote : c = quote
    · subst isQuote
      rw [encode_ascii_cons low, quoteEnd_close _ closes]
      simp [Stops, encodeChar_ascii low]
    · rw [encode_cons, quoteEnd_char low _ (Bool.eq_false_iff.mpr plain) isQuote]
      exact (show Stops (quoteEnd quote.toUInt8 backslash []) [] 0 from rfl).cons c
  | case3 c next rest escape ih =>
    simp only [Bool.and_eq_true, beq_iff_eq] at escape
    obtain ⟨rfl, rfl⟩ := escape
    obtain ⟨first, more, shape, -, continues, -⟩ := encodeChar_shape next
    have stepped := (ih.cons next).ascii (c := '\\') (by decide)
    rw [encode_ascii_cons (by decide), encode_cons, shape, cons_append, quoteEnd,
      quoteEnd_high _ (fun b member => (continues b member).1) low,
      Option.map_map]
    rw [shape, Option.map_map] at stepped
    exact stepped
  | case4 c next rest plain isQuote doubled ih =>
    rw [beq_iff_eq] at isQuote doubled
    subst isQuote doubled
    rw [encode_ascii_cons low, encode_ascii_cons low, quoteEnd_close _ closes, head?_cons,
      if_pos rfl]
    exact ih.pair low low
  | case5 c next rest plain isQuote single =>
    rw [beq_iff_eq] at isQuote single
    subst isQuote
    have other : ¬ (encode (next :: rest)).head? = some c.toUInt8 := fun same =>
      single (Option.some.inj ((head_encode low _).mp same))
    rw [encode_ascii_cons low, quoteEnd_close _ closes, if_neg other]
    simp [Stops, encodeChar_ascii low]
  | case6 c next rest plain notQuote ih =>
    rw [encode_cons, quoteEnd_char low _ (Bool.eq_false_iff.mpr plain) (by simpa using notQuote)]
    exact ih.cons c

private theorem blockCommentEnd_other {nested : Bool} {depth : Nat} {bytes : List UInt8}
    (notEnd : ¬ (b = '*'.toUInt8 ∧ bytes.head? = some '/'.toUInt8))
    (notStart : ¬ (b = '/'.toUInt8 ∧ bytes.head? = some '*'.toUInt8 ∧ nested = true)) :
    blockCommentEnd nested depth (b :: bytes) =
      (blockCommentEnd nested depth bytes).map (· + 1) := by
  cases bytes with
  | nil => rfl
  | cons next bytes =>
    simp only [head?_cons, Option.some.injEq] at notEnd notStart
    rw [blockCommentEnd]
    simp [notEnd, notStart, and_assoc]

private theorem blockCommentEnd_char {nested : Bool} {depth : Nat}
    (notEnd : ¬ (c = '*' ∧ text.head? = some '/'))
    (notStart : ¬ (c = '/' ∧ text.head? = some '*' ∧ nested = true)) :
    blockCommentEnd nested depth (encode (c :: text)) =
      (blockCommentEnd nested depth (encode text)).map (· + (String.utf8EncodeChar c).length) := by
  by_cases narrow : c.toNat < 128
  · rw [encode_ascii_cons narrow, encodeChar_ascii narrow]
    apply blockCommentEnd_other
    · rwa [toUInt8_inj narrow (by decide), head_encode (by decide)]
    · rwa [toUInt8_inj narrow (by decide), head_encode (by decide)]
  · exact scan_behind (fun b bytes high => blockCommentEnd_other
      (fun both => high_ne high (by decide) both.1) fun both => high_ne high (by decide) both.1) _
      (encodeChar_wide (Nat.le_of_not_lt narrow))

theorem blockCommentEnd_encode (nested : Bool) (depth : Nat) (text : List Char) :
    Stops (blockCommentEnd nested depth (encode text)) text
      (blockCommentRest nested depth text) := by
  fun_induction blockCommentRest nested depth text with
  | case1 => rfl
  | case2 depth c =>
    rw [@blockCommentEnd_char c [] nested depth (by simp) (by simp)]
    exact (show Stops (blockCommentEnd nested depth []) [] 0 from rfl).cons c
  | case3 depth c next rest opens ih =>
    simp only [Bool.and_eq_true, beq_iff_eq] at opens
    obtain ⟨⟨rfl, rfl⟩, rfl⟩ := opens
    exact ih.pair (by decide) (by decide)
  | case4 c next rest opens closes =>
    simp only [Bool.and_eq_true, beq_iff_eq] at closes
    obtain ⟨rfl, rfl⟩ := closes
    rfl
  | case5 depth c next rest opens closes deeper ih =>
    simp only [Bool.and_eq_true, beq_iff_eq] at closes
    obtain ⟨rfl, rfl⟩ := closes
    rw [encode_ascii_cons (by decide), encode_ascii_cons (by decide), blockCommentEnd,
      if_neg deeper]
    exact ih.pair (by decide) (by decide)
  | case6 depth c next rest opens closes ih =>
    rw [blockCommentEnd_char (by simpa using closes) (by simpa [and_assoc] using opens)]
    exact ih.cons c

theorem findIdx_encode {d : Char} (low : d.toNat < 128) (text : List Char) :
    (encode text).findIdx? (· == d.toUInt8) =
      (text.findIdx? (· == d)).map fun count => (encode (text.take count)).length := by
  induction text with
  | nil => rfl
  | cons c text ih =>
    by_cases narrow : c.toNat < 128
    · rw [encode_ascii_cons narrow, findIdx?_cons, findIdx?_cons]
      by_cases here : c = d
      · subst here
        simp
      have byte : c.toUInt8 ≠ d.toUInt8 := fun same => here ((toUInt8_inj narrow low).mp same)
      have notByte : (c.toUInt8 == d.toUInt8) = false := by simp [byte]
      have notChar : (c == d) = false := by simp [here]
      rw [notByte, notChar, ih]
      simp [Function.comp_def, encodeChar_ascii narrow]
    have notChar : (c == d) = false := by
      rw [beq_eq_false_iff_ne]
      rintro rfl
      exact narrow low
    have skipped := scan_behind (f := (·.findIdx? (· == d.toUInt8))) (fun b bytes high => by
      simp [findIdx?_cons, high_ne high low]) (encode text)
      (encodeChar_wide (Nat.le_of_not_lt narrow))
    rw [encode_cons, skipped, findIdx?_cons, notChar, ih]
    simp [Function.comp_def, Nat.add_comm]

/-- The characters a PostgreSQL word continues with. -/
def isWordChar (c : Char) : Bool :=
  decide (128 ≤ c.toNat) || isWordPart postgresqlRules.lexical c.toUInt8

theorem wordRest_high (high : ∀ b ∈ wide, 128 ≤ b.toNat) :
    wordRest postgresqlRules.lexical none (wide ++ bytes) =
      wordRest postgresqlRules.lexical none bytes + wide.length := by
  induction wide with
  | nil => rfl
  | cons b wide ih =>
    have highs := forall_mem_cons.mp high
    have part : isWordPart postgresqlRules.lexical b = true := by
      have above : (0x80 : UInt8) ≤ b := UInt8.le_iff_toNat_le.mpr highs.1
      simp [isWordPart, above]
    rw [cons_append, wordRest, part]
    simp only [Bool.not_true, Option.any_none, Bool.or_self, Bool.false_eq_true, if_false]
    rw [ih highs.2, length_cons]
    omega

theorem wordRest_encode (text : List Char) :
    wordRest postgresqlRules.lexical none (encode text) =
      (encode (text.takeWhile isWordChar)).length := by
  induction text with
  | nil => rfl
  | cons c text ih =>
    by_cases narrow : c.toNat < 128
    · have notWide : ¬ 128 ≤ c.toNat := Nat.not_le_of_lt narrow
      rw [encode_ascii_cons narrow, wordRest, takeWhile_cons]
      cases part : isWordPart postgresqlRules.lexical c.toUInt8 with
      | false => simp [isWordChar, part, notWide]
      | true =>
        simp only [Bool.not_true, Option.any_none, Bool.or_self, Bool.false_eq_true, if_false,
          isWordChar, part, Bool.or_true, if_true]
        rw [encode_ascii_cons narrow, length_cons, ih]
    have wide := Nat.le_of_not_lt narrow
    rw [encode_cons, wordRest_high _ (encodeChar_wide wide), takeWhile_cons]
    simp only [isWordChar, wide, decide_true, Bool.true_or, if_true]
    rw [encode_cons, length_append, ih, Nat.add_comm]

/-! ### Searching for the closing of a quote -/

private theorem isPrefixOf_encode (needle text : List Char) :
    (encode needle).isPrefixOf (encode text) = needle.isPrefixOf text := by
  rw [Bool.eq_iff_iff, isPrefixOf_iff_prefix, isPrefixOf_iff_prefix]
  constructor
  · rintro ⟨after, same⟩
    obtain ⟨back, rfl, -⟩ := encode_behind same.symm
    exact ⟨back, rfl⟩
  · rintro ⟨back, rfl⟩
    exact ⟨encode back, (encode_append needle back).symm⟩

private theorem not_isPrefixOf_continued {needle : List Char} (some : needle ≠ [])
    {bytes : List UInt8} (continued : Continues b) :
    (encode needle).isPrefixOf (b :: bytes) = false := by
  cases needle with
  | nil => exact absurd rfl some
  | cons c needle =>
  obtain ⟨first, rest, shape, starts, -, -⟩ := encodeChar_shape c
  have differs : (first == b) = false := by
    rw [beq_eq_false_iff_ne]
    rintro rfl
    exact starts continued
  rw [encode_cons, shape]
  simp [isPrefixOf, differs]

theorem find_encode {needle : List Char} (some : needle ≠ []) (text : List Char) :
    find (encode needle) (encode text) =
      (find needle text).map fun count => (encode (text.take count)).length := by
  induction text with
  | nil =>
    have notEmpty : encode needle ≠ [] := by
      cases needle with
      | nil => exact absurd rfl some
      | cons c needle =>
        intro nothing
        exact String.utf8EncodeChar_ne_nil (append_eq_nil_iff.mp nothing).1
    simp [find, notEmpty, some]
  | cons c text ih =>
    obtain ⟨first, rest, shape, -, continues, -⟩ := encodeChar_shape c
    have here := isPrefixOf_encode needle (c :: text)
    rw [encode_cons, shape, cons_append] at here ⊢
    rw [find, here, find]
    cases needle.isPrefixOf (c :: text) with
    | true => simp
    | false =>
    have skipped := scan_behind (f := find (encode needle)) (fun b bytes continued => by
      rw [find, not_isPrefixOf_continued some continued, if_neg Bool.false_ne_true]) (encode text)
      continues
    rw [skipped, ih]
    simp [Function.comp_def, shape]
    congr 1
    funext count
    omega

/-! ### Dollar quotes -/

private theorem letterOrDigit_low (part : isAsciiLetterOrDigit c = true) : c.toNat < 128 := by
  simp only [isAsciiLetterOrDigit, isAsciiLetter, Bool.or_eq_true, Bool.and_eq_true,
    decide_eq_true_eq, Char.le_def] at part
  rcases part with (part | part) | part <;> exact part.2.trans_lt (by decide)

private theorem isTagPart_low : ∀ c : Char, c.toNat < 128 →
    isTagPart c.toUInt8 = (isAsciiLetterOrDigit c || c == '_') :=
  ascii_all _ (by decide +kernel)

private theorem tagFirst_low : ∀ c : Char, c.toNat < 128 → (isAsciiLetter c || c == '_') = true →
    c.toUInt8 ≠ '$'.toUInt8 ∧ (isAsciiAlphabetic c.toUInt8 || c.toUInt8 == '_'.toUInt8 ||
      decide (0x80 ≤ c.toUInt8)) = true :=
  ascii_all _ (by decide +kernel)

theorem tag_bytes {tag : List Char} (identifier : tagIsIdentifier tag = true) :
    ∀ c ∈ tag, c.toNat < 128 ∧ isTagPart c.toUInt8 = true := by
  have parts : ∀ c ∈ tag, (isAsciiLetterOrDigit c || c == '_') = true := by
    cases tag with
    | nil => simp
    | cons first more =>
    simp only [tagIsIdentifier, Bool.and_eq_true, all_eq_true] at identifier
    refine forall_mem_cons.mpr ⟨?_, identifier.2⟩
    rw [isAsciiLetterOrDigit, Bool.or_right_comm, identifier.1]
    rfl
  intro c member
  have part := parts c member
  have low : c.toNat < 128 := by
    rw [Bool.or_eq_true, beq_iff_eq] at part
    rcases part with part | rfl
    · exact letterOrDigit_low part
    · decide
  exact ⟨low, (isTagPart_low c low).trans part⟩

theorem encode_low (low : ∀ c ∈ text, c.toNat < 128) : encode text = text.map Char.toUInt8 := by
  induction text with
  | nil => rfl
  | cons c text ih =>
    have lows := forall_mem_cons.mp low
    rw [encode_ascii_cons lows.1, ih lows.2, map_cons]

private theorem takeWhile_stop {p : UInt8 → Bool} {front : List UInt8} (back : List UInt8)
    (passes : ∀ c ∈ front, p c = true) (stops : p b = false) :
    (front ++ b :: back).takeWhile p = front := by
  rw [takeWhile_append_of_pos passes, takeWhile_cons, stops]
  simp

/-- What the splitter takes as the opening of a dollar quote, the lexer does too. -/
theorem taggedOpenerEnd_encode {tag more : List Char} (identifier : tagIsIdentifier tag = true) :
    taggedOpenerEnd (encode ('$' :: (tag ++ '$' :: more))) = some (tag.length + 2) := by
  have bytes := tag_bytes identifier
  have low : ∀ c ∈ tag, c.toNat < 128 := fun c member => (bytes c member).1
  rw [encode_ascii_cons (by decide), encode_append, encode_ascii_cons (by decide), encode_low low]
  cases tag with
  | nil => rfl
  | cons first rest =>
  obtain ⟨notDollar, opens⟩ := tagFirst_low first (low first mem_cons_self)
    (Bool.and_eq_true_iff.mp identifier).1
  have all : ∀ b ∈ (first :: rest).map Char.toUInt8, isTagPart b = true := by
    intro b member
    obtain ⟨c, isTag, rfl⟩ := mem_map.mp member
    exact (bytes c isTag).2
  have taken := takeWhile_stop (encode more) all (show isTagPart '$'.toUInt8 = false by decide)
  rw [map_cons, cons_append] at taken ⊢
  rw [taggedOpenerEnd]
  rw [taken]
  simp only [beq_iff_eq, notDollar, opens]
  simp

end Bookie.Sql
