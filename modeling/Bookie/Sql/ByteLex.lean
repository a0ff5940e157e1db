/-
The splitter as its source computes it. Positions and lengths are bytes, a slice is
taken of the bytes of a text, and one off the boundary of a character fails. The walk
over characters in `Lex` steps over the same text, and no slice of it fails.
-/

import Bookie.Sql.Spans

namespace Bookie.Sql.ByteLex

open Script Text List

/-! ### Slices of a text -/

def byteLength (text : List Char) : Nat := (encode text).length

/-- `&text[index..]`. -/
def sliceFrom : List Char → Nat → Option (List Char)
  | text, 0 => some text
  | [], _ + 1 => none
  | c :: text, index + 1 =>
    if c.utf8Size ≤ index + 1 then sliceFrom text (index + 1 - c.utf8Size) else none

/-- `&text[..index]`. -/
def sliceTo : List Char → Nat → Option (List Char)
  | _, 0 => some []
  | [], _ + 1 => none
  | c :: text, index + 1 =>
    if c.utf8Size ≤ index + 1 then (sliceTo text (index + 1 - c.utf8Size)).map (c :: ·) else none

theorem byteLength_cons (c : Char) (text : List Char) :
    byteLength (c :: text) = c.utf8Size + byteLength text := by
  rw [byteLength, encode_cons, length_append, String.length_utf8EncodeChar, byteLength]

theorem byteLength_append (front back : List Char) :
    byteLength (front ++ back) = byteLength front + byteLength back := by
  rw [byteLength, encode_append, length_append, byteLength, byteLength]

theorem byteLength_singleton (c : Char) : byteLength [c] = c.utf8Size := byteLength_cons c []

theorem sliceFrom_append (front back : List Char) :
    sliceFrom (front ++ back) (byteLength front) = some back := by
  induction front with
  | nil => cases back <;> rfl
  | cons c front ih =>
    obtain ⟨size, isSize⟩ := Nat.exists_eq_add_one_of_ne_zero c.utf8Size_pos.ne'
    rw [byteLength_cons, isSize, Nat.add_right_comm, cons_append, sliceFrom, isSize,
      if_pos (by omega), show size + byteLength front + 1 - (size + 1) = byteLength front by omega,
      ih]

theorem sliceTo_append (front back : List Char) :
    sliceTo (front ++ back) (byteLength front) = some front := by
  induction front with
  | nil => cases back <;> rfl
  | cons c front ih =>
    obtain ⟨size, isSize⟩ := Nat.exists_eq_add_one_of_ne_zero c.utf8Size_pos.ne'
    rw [byteLength_cons, isSize, Nat.add_right_comm, cons_append, sliceTo, isSize,
      if_pos (by omega), show size + byteLength front + 1 - (size + 1) = byteLength front by omega,
      ih]
    rfl

/-! ### The lengths of quoted texts and comments -/

/-- The rest of `char_indices`, from a character and its offset on. -/
def quotedScan (rest : List Char) (quote : Char) (backslashEscapes : Bool) :
    List Char → (offset : Nat) → Option Nat
  | [], _ => some (byteLength rest)
  | [c], offset =>
    if backslashEscapes && c == '\\' then some (byteLength rest)
    else if c != quote then some (byteLength rest)
    else do
      let behind ← sliceFrom rest (offset + c.utf8Size)
      if behind.head? == some quote then some (byteLength rest) else some (offset + c.utf8Size)
  | c :: next :: characters, offset =>
    if backslashEscapes && c == '\\' then
      quotedScan rest quote backslashEscapes characters (offset + c.utf8Size + next.utf8Size)
    else if c != quote then
      quotedScan rest quote backslashEscapes (next :: characters) (offset + c.utf8Size)
    else do
      let behind ← sliceFrom rest (offset + c.utf8Size)
      if behind.head? == some quote then
        quotedScan rest quote backslashEscapes characters (offset + c.utf8Size + next.utf8Size)
      else some (offset + c.utf8Size)

def quotedLength (rest : List Char) (quote : Char) (backslashEscapes : Bool) : Option Nat :=
  quotedScan rest quote backslashEscapes (rest.drop 1) (byteLength (rest.take 1))

def bracketScan (rest : List Char) : List Char → (offset : Nat) → Nat
  | [], _ => byteLength rest
  | [c], offset => if c == ']' then offset + 1 else byteLength rest
  | c :: next :: characters, offset =>
    if c == ']' then
      if next == ']' then bracketScan rest characters (offset + c.utf8Size + next.utf8Size)
      else offset + 1
    else bracketScan rest (next :: characters) (offset + c.utf8Size)

def bracketLength (rest : List Char) : Nat :=
  bracketScan rest (rest.drop 1) (byteLength (rest.take 1))

/-- The scan of the bytes is the script lexer's. -/
def blockCommentLength (rest : List Char) (nested : Bool) : Nat :=
  ((blockCommentEnd nested 1 ((encode rest).drop 2)).map (· + 2)).getD (byteLength rest)

/-- PostgreSQL takes no other tags than identifiers. -/
def tagRefused (tag : List Char) (close : Nat) (driverId : String) : Option Bool :=
  if driverId == "postgres" then
    ((sliceTo tag close).bind (sliceFrom · 1)).map (!tagIsIdentifier ·)
  else some false

def dollarQuoteLength (rest : List Char) (driverId : String) : Option (Option Nat) :=
  if (driverId == "postgres" || driverId == "clickhouse") && rest.head? == some '$' then do
    let behind ← sliceFrom rest 1
    match (encode behind).findIdx? (· == '$'.toUInt8) with
    | none => some none
    | some offset =>
      let close := offset + 1
      let tag ← sliceTo rest (close + 1)
      if ← tagRefused tag close driverId then some none
      else
        let body ← sliceFrom rest (close + 1)
        match find (encode tag) (encode body) with
        | some offset => some (some (close + 1 + offset + byteLength tag))
        | none => some (some (byteLength rest))
  else some none

def lineLength (rest : List Char) : Nat :=
  (((encode rest).findIdx? (· == '\n'.toUInt8)).map (· + 1)).getD (byteLength rest)

/-- MySQL wants a blank behind the dashes. -/
def startsLineComment (rest : List Char) (driverId : String) : Option Bool :=
  if startsWith "--" rest then
    if driverId != "mysql" then some true
    else (sliceFrom rest 2).map fun behind => behind.head?.all isWhitespace
  else some false

/-- A failing slice is a panic, `some none` the answer that nothing starts here. -/
def skipSpan (rest : List Char) (driverId : String) : Option (Option Nat) := do
  if ← startsLineComment rest driverId then some (some (lineLength rest))
  else if startsWith "/*" rest then
    some (some (blockCommentLength rest (driverId == "postgres" || driverId == "mssql")))
  else if driverId == "mysql" && startsWith "#" rest then some (some (lineLength rest))
  else if startsWith "'" rest then
    (quotedLength rest '\'' (driverId == "mysql" || driverId == "clickhouse")).map some
  else if driverId == "postgres" && (startsWith "E'" rest || startsWith "e'" rest) then do
    let behind ← sliceFrom rest 1
    let length ← quotedLength behind '\'' true
    some (some (1 + length))
  else
    match ← dollarQuoteLength rest driverId with
    | some length => some (some length)
    | none =>
      let first := (encode rest).head?
      if (driverId == "mysql" || driverId == "clickhouse") && first == some '`'.toUInt8 then
        (quotedLength rest '`' (driverId == "clickhouse")).map some
      else if driverId == "mssql" && first == some '['.toUInt8 then some (some (bracketLength rest))
      else if first == some '"'.toUInt8 then
        (quotedLength rest '"' (driverId == "mysql" || driverId == "clickhouse")).map some
      else some none

section Splitter

variable (alphanumeric : Char → Bool)

/-- A dollar sign that goes on with an identifier. -/
def insideIdentifier (sql rest : List Char) (index : Nat) : Option Bool :=
  if rest.head? == some '$' then
    (sliceTo sql index).map fun before =>
      before.getLast?.any fun c => alphanumeric c || c == '_' || c == '$'
  else some false

def skipSpanAt (sql : List Char) (index : Nat) (driverId : String) : Option (Option Nat) := do
  let rest ← sliceFrom sql index
  if ← insideIdentifier alphanumeric sql rest index then some none else skipSpan rest driverId

/-- The loop of `statement_spans`. -/
def spansFrom (sql : List Char) (driverId : String) (start index : Nat) :
    Option (List (Nat × Nat)) :=
  if index < byteLength sql then do
    let rest ← sliceFrom sql index
    let span ← skipSpanAt alphanumeric sql index driverId
    match isSpan : span.filter (0 < ·) with
    | some length =>
      have := (Option.filter_eq_some_iff.mp isSpan).2
      spansFrom sql driverId start (index + length)
    | none =>
      if (encode sql)[index]? == some ';'.toUInt8 then do
        let spans ← spansFrom sql driverId (index + 1) (index + 1)
        some ((start, index) :: spans)
      else
        match rest with
        | [] => spansFrom sql driverId start (index + 1)
        | c :: _ =>
          have := c.utf8Size_pos
          spansFrom sql driverId start (index + c.utf8Size)
  else some [(start, byteLength sql)]
termination_by byteLength sql - index
decreasing_by all_goals simp_all; omega

def statementSpans (sql : List Char) (driverId : String) : Option (List (Nat × Nat)) :=
  spansFrom alphanumeric sql driverId 0 0

end Splitter

/-! ### Bytes and characters -/

private theorem after_char (front more : List Char) (c : Char) :
    sliceFrom (front ++ c :: more) (byteLength front + c.utf8Size) = some more := by
  have cut := sliceFrom_append (front ++ [c]) more
  rwa [byteLength_append, byteLength_singleton, append_assoc] at cut

private theorem byteLength_pair (front : List Char) (c d : Char) :
    byteLength (front ++ [c, d]) = byteLength front + c.utf8Size + d.utf8Size := by
  rw [byteLength_append, byteLength_cons, byteLength_singleton, Nat.add_assoc]

private theorem quotedScan_eq (front characters : List Char) (quote : Char) (backslash : Bool) :
    quotedScan (front ++ characters) quote backslash characters (byteLength front) =
      some (byteLength (front ++ characters.take (quotedRest quote backslash characters))) := by
  fun_induction quotedRest quote backslash characters generalizing front with
  | case1 => simp [quotedScan]
  | case2 c =>
    have whole : byteLength (front ++ [c]) = byteLength front + c.utf8Size := by
      rw [byteLength_append, byteLength_singleton]
    rw [quotedScan, after_char, take_of_length_le (by simp), whole]
    simp
  | case3 c next rest escape ih =>
    have stepped := ih (front ++ [c, next])
    rw [byteLength_pair, append_assoc, append_assoc] at stepped
    rw [quotedScan, if_pos escape]
    exact stepped
  | case4 c next rest plain isQuote doubled ih =>
    have stepped := ih (front ++ [c, next])
    rw [byteLength_pair, append_assoc, append_assoc] at stepped
    rw [quotedScan, if_neg plain, after_char, eq_of_beq isQuote, eq_of_beq doubled]
    rw [eq_of_beq isQuote, eq_of_beq doubled] at stepped
    simpa using stepped
  | case5 c next rest plain isQuote single =>
    rw [quotedScan, if_neg plain, after_char, eq_of_beq isQuote]
    rw [beq_iff_eq] at single
    simp [single, byteLength_append, byteLength_singleton]
  | case6 c next rest plain notQuote ih =>
    have stepped := ih (front ++ [c])
    rw [byteLength_append, byteLength_singleton, append_assoc, append_assoc] at stepped
    rw [beq_iff_eq] at notQuote
    rw [quotedScan, if_neg plain, if_pos (by simpa using notQuote)]
    exact stepped

private theorem quotedLength_eq (c : Char) (rest : List Char) (quote : Char) (backslash : Bool) :
    quotedLength (c :: rest) quote backslash =
      some (byteLength ((c :: rest).take (Sql.quotedLength (c :: rest) quote backslash))) :=
  quotedScan_eq [c] rest quote backslash

private theorem bracketScan_eq (front characters : List Char) :
    bracketScan (front ++ characters) characters (byteLength front) =
      byteLength (front ++ characters.take (bracketRest characters)) := by
  fun_induction bracketRest characters generalizing front with
  | case1 => simp [bracketScan]
  | case2 c =>
    rw [bracketScan, take_of_length_le (by simp)]
    split
    · rename_i closes
      rw [eq_of_beq closes, byteLength_append]
      rfl
    · rfl
  | case3 c next rest closes doubled ih =>
    have stepped := ih (front ++ [c, next])
    rw [byteLength_pair, append_assoc, append_assoc] at stepped
    rw [bracketScan, if_pos closes, if_pos doubled]
    exact stepped
  | case4 c next rest closes single =>
    rw [bracketScan, if_pos closes, if_neg single, eq_of_beq closes, byteLength_append]
    rfl
  | case5 c next rest other ih =>
    have stepped := ih (front ++ [c])
    rw [byteLength_append, byteLength_singleton, append_assoc, append_assoc] at stepped
    rw [bracketScan, if_neg other]
    exact stepped

private theorem bracketLength_eq (c : Char) (rest : List Char) :
    bracketLength (c :: rest) = byteLength ((c :: rest).take (Sql.bracketLength (c :: rest))) :=
  bracketScan_eq [c] rest

private theorem cut_at {d : Char} {text : List Char} {count : Nat}
    (found : text.findIdx? (· == d) = some count) :
    ∃ front back, text = front ++ d :: back ∧ front.length = count := by
  obtain ⟨within, isChar, _⟩ := findIdx?_eq_some_iff_getElem.mp found
  refine ⟨text.take count, text.drop (count + 1), ?_, length_take_of_le within.le⟩
  rw [← eq_of_beq isChar, getElem_cons_drop, take_append_drop]

private theorem lineLength_eq (rest : List Char) :
    lineLength rest = byteLength (rest.take (Sql.lineLength rest)) := by
  rw [lineLength, findIdx_encode (by decide), Sql.lineLength]
  cases feed : rest.findIdx? (· == '\n') with
  | none => simp
  | some offset =>
    obtain ⟨front, back, rfl, rfl⟩ := cut_at feed
    have line : (front ++ '\n' :: back).take (front.length + 1) = front ++ ['\n'] := by
      rw [append_cons]
      exact take_left' (by simp)
    simp only [Option.map_some, Option.getD_some, line, take_left, byteLength_append]
    rfl

private theorem blockCommentLength_eq (rest : List Char) (nested : Bool) :
    blockCommentLength ('/' :: '*' :: rest) nested =
      byteLength (('/' :: '*' :: rest).take (Sql.blockCommentLength ('/' :: '*' :: rest) nested)) :=
  (blockCommentEnd_encode nested 1 rest).pair (by decide) (by decide)

private theorem take_found {tag body : List Char} {offset : Nat}
    (found : find tag body = some offset) :
    byteLength ((tag ++ body).take (tag.length + offset + tag.length)) =
      byteLength tag + byteLength (body.take offset) + byteLength tag := by
  obtain ⟨before, after, rfl, rfl⟩ := find_some found
  have cut : (tag ++ (before ++ (tag ++ after))).take (tag.length + before.length + tag.length) =
      tag ++ (before ++ tag) := by
    rw [← append_assoc before, ← append_assoc]
    exact take_left' (by simp; omega)
  rw [cut, take_left, byteLength_append, byteLength_append, Nat.add_assoc]

private theorem dollarQuoteLength_eq (rest : List Char) (driverId : String) :
    dollarQuoteLength rest driverId =
      some ((Sql.dollarQuoteLength rest driverId).map fun count =>
        byteLength (rest.take count)) := by
  rw [dollarQuoteLength, Sql.dollarQuoteLength]
  split
  · rename_i opens
    obtain ⟨more, rfl⟩ : ∃ more, rest = '$' :: more := by
      rw [Bool.and_eq_true, beq_iff_eq, head?_eq_some_iff] at opens
      exact opens.2
    have behind : sliceFrom ('$' :: more) 1 = some more := sliceFrom_append ['$'] more
    rw [behind]
    simp only [Option.bind_eq_bind, Option.bind_some, drop_succ_cons, drop_zero]
    rw [findIdx_encode (by decide)]
    cases found : more.findIdx? (· == '$') with
    | none => rfl
    | some close =>
      obtain ⟨name, body, rfl, rfl⟩ := cut_at found
      -- the text is the tag and the body behind it
      obtain ⟨tag, isTag⟩ : ∃ tag, tag = '$' :: (name ++ ['$']) := ⟨_, rfl⟩
      have whole : '$' :: (name ++ '$' :: body) = tag ++ body := by simp [isTag]
      have size : byteLength name + 1 + 1 = byteLength tag := by
        rw [isTag, byteLength_cons, byteLength_append]
        change _ = 1 + (_ + 1)
        omega
      have count : name.length + 2 = tag.length := by simp [isTag]
      have opened : sliceTo tag (byteLength name + 1) = some ('$' :: name) := by
        have cut := sliceTo_append ('$' :: name) ['$']
        rwa [byteLength_cons, Nat.add_comm, cons_append, ← isTag] at cut
      have named : sliceFrom ('$' :: name) 1 = some name := sliceFrom_append ['$'] name
      have refuses : tagRefused tag (byteLength name + 1) driverId =
          some (driverId == "postgres" && !tagIsIdentifier name) := by
        rw [tagRefused, opened, Option.bind_some, named]
        cases driverId == "postgres" <;> rfl
      simp only [Option.map_some, Option.bind_some, take_left, ← byteLength.eq_1, whole,
        size, count,
        sliceTo_append, sliceFrom_append, refuses, drop_left]
      have searched : (match find (encode tag) (encode body) with
          | some offset => some (some (byteLength tag + offset + byteLength tag))
          | none => some (some (byteLength (tag ++ body)))) =
          some ((match find tag body with
            | some offset => some (tag.length + offset + tag.length)
            | none => some (tag ++ body).length).map fun count =>
              byteLength ((tag ++ body).take count)) := by
        rw [find_encode (by simp [isTag])]
        cases within : find tag body with
        | none =>
          rw [Option.map_none, Option.map_some, take_length]
        | some offset =>
          rw [Option.map_some, Option.map_some, take_found within]
          rfl
      rw [searched]
      cases driverId == "postgres" && !tagIsIdentifier name <;> rfl
  · rfl

private theorem starts_with {front : String} {rest : List Char}
    (starts : startsWith front rest = true) : ∃ more, rest = front.toList ++ more := by
  obtain ⟨more, same⟩ := isPrefixOf_iff_prefix.mp starts
  exact ⟨more, same.symm⟩

private theorem startsLineComment_eq (rest : List Char) (driverId : String) :
    startsLineComment rest driverId =
      some (startsWith "--" rest && (driverId != "mysql" || (rest[2]?).all isWhitespace)) := by
  rw [startsLineComment]
  split
  · rename_i starts
    obtain ⟨more, rfl⟩ := starts_with starts
    have behind : sliceFrom ("--".toList ++ more) 2 = some more := sliceFrom_append ['-', '-'] more
    have third : ("--".toList ++ more)[2]? = more.head? := by cases more <;> rfl
    rw [behind, starts, third]
    cases driverId != "mysql" <;> rfl
  · rename_i other
    rw [Bool.eq_false_iff.mpr other]
    rfl

private theorem first_byte {d : Char} (low : d.toNat < 128) (rest : List Char) :
    ((encode rest).head? == some d.toUInt8) = [d].isPrefixOf rest := by
  rw [Bool.eq_iff_iff, beq_iff_eq, head_encode low, isPrefixOf_iff_prefix]
  cases rest with
  | nil => simp
  | cons c rest => simp [eq_comm]

/-- Where a quoted text or comment ends, in bytes; no slice fails. -/
private theorem skipSpan_eq (rest : List Char) (driverId : String) :
    skipSpan rest driverId =
      some ((Sql.skipSpan rest driverId).map fun count => byteLength (rest.take count)) := by
  have quotes {opening : String} {c quote : Char} (single : opening.toList = [c])
      (backslash : Bool) (starts : startsWith opening rest = true) :
      (quotedLength rest quote backslash).map some =
        some (some (byteLength (rest.take (Sql.quotedLength rest quote backslash)))) := by
    obtain ⟨more, rfl⟩ := starts_with starts
    rw [single]
    exact congrArg (Option.map some) (quotedLength_eq c more quote backslash)
  rw [skipSpan, startsLineComment_eq, Option.bind_eq_bind, Option.bind_some, Sql.skipSpan]
  split
  · rw [lineLength_eq]
    rfl
  split
  · rename_i opens
    obtain ⟨more, rfl⟩ := starts_with opens
    exact congrArg (some ∘ some) (blockCommentLength_eq more _)
  split
  · rw [lineLength_eq]
    rfl
  split
  · rename_i opens
    exact quotes rfl _ opens
  split
  · rename_i opens
    obtain ⟨c, more, isE, rfl⟩ : ∃ c more, c.utf8Size = 1 ∧ rest = c :: '\'' :: more := by
      simp only [Bool.and_eq_true, Bool.or_eq_true] at opens
      rcases opens.2 with upper | lower
      · obtain ⟨more, rfl⟩ := starts_with upper
        exact ⟨'E', more, rfl, rfl⟩
      · obtain ⟨more, rfl⟩ := starts_with lower
        exact ⟨'e', more, rfl, rfl⟩
    have behind : sliceFrom (c :: '\'' :: more) 1 = some ('\'' :: more) := by
      have cut := sliceFrom_append [c] ('\'' :: more)
      rwa [byteLength_singleton, isE] at cut
    simp only [behind, Option.bind_eq_bind, Option.bind_some, quotedLength_eq, Option.map_some]
    rw [drop_succ_cons, drop_zero, take_succ_cons, byteLength_cons, isE]
  rw [dollarQuoteLength_eq, Option.bind_eq_bind, Option.bind_some]
  cases Sql.dollarQuoteLength rest driverId with
  | some length => rfl
  | none =>
  have backquote : ((encode rest).head? == some '`'.toUInt8) = startsWith "`" rest :=
    first_byte (by decide) rest
  have bracket : ((encode rest).head? == some '['.toUInt8) = startsWith "[" rest :=
    first_byte (by decide) rest
  have doubleQuote : ((encode rest).head? == some '"'.toUInt8) = startsWith "\"" rest :=
    first_byte (by decide) rest
  dsimp only [Option.map_none]
  rw [backquote, bracket, doubleQuote]
  split
  · rename_i opens
    exact quotes rfl _ (Bool.and_eq_true_iff.mp opens).2
  split
  · rename_i opens
    obtain ⟨more, rfl⟩ := starts_with (Bool.and_eq_true_iff.mp opens).2
    exact congrArg (some ∘ some) (bracketLength_eq '[' more)
  split
  · rename_i opens
    exact quotes rfl _ opens
  · rfl

theorem skipSpanAt_eq (alphanumeric : Char → Bool) (before rest : List Char) (driverId : String) :
    skipSpanAt alphanumeric (before ++ rest) (byteLength before) driverId =
      some ((Sql.skipSpanAt alphanumeric before.getLast? rest driverId).map fun count =>
        byteLength (rest.take count)) := by
  have inside : insideIdentifier alphanumeric (before ++ rest) rest (byteLength before) =
      some (Sql.insideIdentifier alphanumeric before.getLast? rest) := by
    rw [insideIdentifier, sliceTo_append, Sql.insideIdentifier]
    cases rest.head? == some '$' <;> rfl
  simp only [skipSpanAt, sliceFrom_append, Option.bind_eq_bind, Option.bind_some, inside,
    skipSpan_eq, Sql.skipSpanAt]
  split <;> rfl

end Bookie.Sql.ByteLex
