/-
A plan tiles its text. One step of the builder reads some bytes more and keeps
what the tokens and the statements read so far satisfy; the loop ends because
there are only so many bytes.
-/

import Bookie.Script.Cuts
import Bookie.Script.Plan

namespace Bookie.Script

open Text List Builder

/-! ### Directive lines -/

variable {b : UInt8} {bytes : List UInt8}

private theorem low_of_lineSpace (space : isLineSpace b = true) : b.toNat < 128 := by
  simp only [isLineSpace, Bool.or_eq_true, beq_iff_eq] at space
  rcases space with (((rfl | rfl) | rfl) | rfl) | rfl <;> decide

private theorem low_of_asciiLower (low : (asciiLower b).toNat < 128) : b.toNat < 128 := by
  unfold asciiLower at low
  split at low
  · rename_i upper
    simp only [Bool.and_eq_true, decide_eq_true_eq] at upper
    have bound := UInt8.le_iff_toNat_le.mp upper.2
    have last : 'Z'.toUInt8.toNat = 90 := rfl
    omega
  · exact low

private theorem low_of_keyword {word : List UInt8} {known : String}
    (same : eqIgnoreAsciiCase word known = true)
    (low : ((ascii known.toList).map asciiLower).all (fun b => b < 128) = true) :
    ∀ b ∈ word, b.toNat < 128 := by
  intro b member
  have lowered := eq_of_beq same
  have there : asciiLower b ∈ word.map asciiLower := mem_map_of_mem member
  rw [lowered] at there
  have below := all_eq_true.mp low _ there
  exact low_of_asciiLower (UInt8.lt_iff_toNat_lt.mp (of_decide_eq_true below))

private theorem drop_front {front back : List UInt8} (same : bytes = front ++ back) :
    bytes.drop front.length = back := by
  rw [same, drop_left]

private theorem lineOf_whole (whole : Whole bytes) : Whole (lineOf bytes) := by
  refine whole.takeWhile ?_
  intro b stops
  have feed : b = '\n'.toUInt8 := by simpa using stops
  rw [feed]
  decide

private theorem lineOf_behind (bytes : List UInt8) : Clean (bytes.drop (lineOf bytes).length) := by
  have behind : bytes.drop (lineOf bytes).length = bytes.dropWhile (· != '\n'.toUInt8) :=
    drop_front takeWhile_append_dropWhile.symm
  rw [behind]
  intro b head continued
  have stops := head?_dropWhile_not (· != '\n'.toUInt8) bytes
  rw [head] at stops
  have feed : b = '\n'.toUInt8 := by simpa using stops
  subst feed
  revert continued
  decide

private theorem stripKeyword_spec {line rest : List UInt8} {keyword : String}
    (found : stripKeyword line keyword = some rest) :
    rest = line.drop keyword.toList.length ∧ keyword.toList.length ≤ line.length ∧
      eqIgnoreAsciiCase (line.take keyword.toList.length) keyword = true := by
  unfold stripKeyword at found
  dsimp only at found
  split at found
  · cases found
  rename_i stands
  simp only [Bool.or_eq_true, decide_eq_true_eq, not_or, Nat.not_lt, Bool.not_eq_true',
    Bool.not_eq_false] at stands
  split at found
  · cases found
    exact ⟨rfl, stands.1, stands.2⟩
  · cases found

structure DirectiveAt (bytes : List UInt8) (start stop : Nat) : Prop where
  nonempty : start < stop
  within : stop ≤ bytes.length
  startClean : Clean (bytes.drop start)
  stopClean : Clean (bytes.drop stop)

private theorem directiveAt {rest : List UInt8} {keyword : String} (whole : Whole bytes)
    (letters : 0 < keyword.toList.length)
    (found : stripKeyword ((lineOf bytes).dropWhile isLineSpace) keyword = some rest) :
    DirectiveAt bytes ((lineOf bytes).length - ((lineOf bytes).dropWhile isLineSpace).length)
      (lineOf bytes).length := by
  obtain ⟨-, long, -⟩ := stripKeyword_spec found
  have shorter : ((lineOf bytes).dropWhile isLineSpace).length ≤ (lineOf bytes).length :=
    (dropWhile_suffix _).length_le
  have within : (lineOf bytes).length ≤ bytes.length := IsPrefix.length_le <| takeWhile_prefix _
  have trimmed : Whole ((lineOf bytes).dropWhile isLineSpace) :=
    (lineOf_whole whole).dropWhile fun _ => low_of_lineSpace
  refine ⟨by omega, within, ?_, lineOf_behind bytes⟩
  -- the first byte of the keyword is the first byte of a character
  have line : lineOf bytes = (lineOf bytes).takeWhile isLineSpace ++
      (lineOf bytes).dropWhile isLineSpace := takeWhile_append_dropWhile.symm
  have split : bytes = (lineOf bytes).takeWhile isLineSpace ++
      ((lineOf bytes).dropWhile isLineSpace ++ bytes.dropWhile (· != '\n'.toUInt8)) := by
    rw [← append_assoc, ← line]
    exact takeWhile_append_dropWhile.symm
  have count : (lineOf bytes).length - ((lineOf bytes).dropWhile isLineSpace).length =
      ((lineOf bytes).takeWhile isLineSpace).length := by
    have sum := congrArg length line
    rw [length_append] at sum
    omega
  rw [count]
  rw [drop_front split]
  cases start : (lineOf bytes).dropWhile isLineSpace with
  | nil =>
    rw [start] at long
    simp only [length_nil] at long
    omega
  | cons b tail =>
    rw [start] at trimmed
    rw [cons_append, clean_cons]
    exact clean_cons.mp trimmed.clean

private theorem goLine_at {line : GoLine} (whole : Whole bytes)
    (found : goLine bytes = some line) : DirectiveAt bytes line.start line.stop := by
  simp only [goLine, Option.bind_eq_bind, Option.bind_eq_some_iff] at found
  obtain ⟨rest, keyword, ⟨repeats, tail⟩, -, line'⟩ := found
  split at line'
  · cases line'
    exact directiveAt whole (by decide) keyword
  · cases line'

private theorem delimiterArgument_whole {argument delimiter : List UInt8} (whole : Whole argument)
    (found : delimiterArgument argument = some delimiter) : Whole delimiter := by
  have chosen := (Option.filter_eq_some_iff.mp found).1
  cases argument with
  | nil => cases chosen
  | cons first rest =>
  dsimp only at chosen
  split at chosen
  · rename_i quote
    cases chosen
    have low : first.toNat < 128 := by
      simp only [isQuote, Bool.or_eq_true, beq_iff_eq] at quote
      rcases quote with (rfl | rfl) | rfl <;> decide
    refine (whole.tail low).takeWhile ?_
    intro b stops
    have same : b = first := by simpa using stops
    rw [same]
    exact low
  cases chosen
  refine whole.takeWhile ?_
  intro b stops
  exact low_of_lineSpace (by simpa using stops)

private theorem delimiterLine_at {line : DelimiterLine} (whole : Whole bytes)
    (found : delimiterLine bytes = some line) :
    DirectiveAt bytes line.start line.stop ∧
      ∀ delimiter, line.delimiter = some delimiter → Whole delimiter := by
  simp only [delimiterLine, Option.bind_eq_bind, Option.bind_eq_some_iff] at found
  obtain ⟨rest, keyword, line'⟩ := found
  cases line'
  obtain ⟨known, letters, low, found⟩ : ∃ known : String, 0 < known.toList.length ∧
      ((ascii known.toList).map asciiLower).all (fun b => b < 128) = true ∧
      stripKeyword ((lineOf bytes).dropWhile isLineSpace) known = some rest := by
    rcases Option.or_eq_some_iff.mp keyword with long | ⟨-, short⟩
    · exact ⟨"delimiter", by decide, rfl, long⟩
    · exact ⟨"\\d", by decide, rfl, short⟩
  obtain ⟨rfl, -, same⟩ := stripKeyword_spec found
  have trimmed := (lineOf_whole whole).dropWhile fun _ => low_of_lineSpace
  exact ⟨directiveAt whole letters found, fun _ => delimiterArgument_whole
    ((trimmed.drop (low_of_keyword same low)).dropWhile fun _ => low_of_lineSpace)⟩

/-! ### Tokens that tile -/

/-- The tokens are not empty, lie between characters and follow one another. -/
def Tiles (text : List Char) (start : Nat) : List ScriptToken → Nat → Prop
  | [], stop => start = stop
  | token :: tokens, stop =>
    token.start = start ∧ token.start < token.stop ∧ OnBoundary text token.start ∧
      OnBoundary text token.stop ∧ Tiles text token.stop tokens stop

variable {token : ScriptToken}

private theorem Tiles.push {text : List Char} {start stop : Nat} {tokens : List ScriptToken}
    (tiles : Tiles text start tokens stop) (follows : token.start = stop)
    (nonempty : token.start < token.stop) (startBound : OnBoundary text token.start)
    (stopBound : OnBoundary text token.stop) : Tiles text start (tokens ++ [token]) token.stop := by
  induction tokens generalizing start with
  | nil => exact ⟨follows.trans tiles.symm, nonempty, startBound, stopBound, rfl⟩
  | cons first tokens ih =>
    obtain ⟨here, filled, left, right, rest⟩ := tiles
    exact ⟨here, filled, left, right, ih rest⟩

/-! ### Statements that cover -/

private theorem forall_mem_concat {α : Type} {p : α → Prop} {list : List α} {last : α}
    (old : ∀ a ∈ list, p a) (new : p last) : ∀ a ∈ list ++ [last], p a :=
  forall_mem_append.mpr ⟨old, forall_mem_singleton.mpr new⟩

def IsContent (terminators : List ScriptToken) (token : ScriptToken) : Prop :=
  token.kind.isTrivia = false ∧ token.kind ≠ .directive ∧ token ∉ terminators

def Inside (token : ScriptToken) (range : Nat × Nat) : Prop :=
  range.1 ≤ token.start ∧ token.stop ≤ range.2

/-- A content token that starts the range, and one that ends it. -/
def FramedBy (tokens terminators : List ScriptToken) (range : Nat × Nat) : Prop :=
  (∃ token ∈ tokens, IsContent terminators token ∧ Inside token range ∧ token.start = range.1) ∧
    ∃ token ∈ tokens, IsContent terminators token ∧ Inside token range ∧ token.stop = range.2

/-- The ranges of the statements read up to a position: in order, disjoint, around every
content token and from one to another. -/
structure Cover (tokens terminators : List ScriptToken) (ranges : List (Nat × Nat))
    (pos : Nat) : Prop where
  before : ∀ token ∈ tokens, token.start < token.stop ∧ token.stop ≤ pos
  ended : ∀ token ∈ terminators, token ∈ tokens ∧ token.kind = .semicolon
  ordered : ranges.Pairwise fun earlier later => earlier.2 ≤ later.1
  within : ∀ range ∈ ranges, range.1 < range.2 ∧ range.2 ≤ pos
  covered : ∀ token ∈ tokens, IsContent terminators token → ∃ range ∈ ranges, Inside token range
  framed : ∀ range ∈ ranges, FramedBy tokens terminators range

namespace Cover

variable {tokens terminators : List ScriptToken} {ranges : List (Nat × Nat)} {pos : Nat}
  {token : ScriptToken}

private theorem mono {more : List ScriptToken} {range : Nat × Nat}
    (framed : FramedBy tokens terminators range) :
    FramedBy (tokens ++ more) terminators range := by
  obtain ⟨⟨first, isFirst, starts⟩, last, isLast, ends⟩ := framed
  exact ⟨⟨first, mem_append_left _ isFirst, starts⟩, last, mem_append_left _ isLast, ends⟩

private theorem push_ended (cover : Cover tokens terminators ranges pos) :
    ∀ ended ∈ terminators, ended ∈ tokens ++ [token] ∧ ended.kind = .semicolon :=
  fun ended member => (cover.ended ended member).imp_left (mem_append_left _)

section Push

variable (cover : Cover tokens terminators ranges pos) (follows : token.start = pos)
include cover follows

private theorem not_new {old : ScriptToken} (member : old ∈ tokens) : old ≠ token := by
  rintro rfl
  have known := cover.before old member
  omega

private theorem content_more {old : ScriptToken} (member : old ∈ tokens) :
    IsContent (terminators ++ [token]) old ↔ IsContent terminators old := by
  simp [IsContent, cover.not_new follows member]

variable (nonempty : token.start < token.stop)
include nonempty

private theorem push_before :
    ∀ other ∈ tokens ++ [token], other.start < other.stop ∧ other.stop ≤ token.stop := by
  refine forall_mem_concat (fun other old => ?_) ⟨nonempty, Nat.le_refl _⟩
  have known := cover.before other old
  omega

private theorem push_within : ∀ range ∈ ranges, range.1 < range.2 ∧ range.2 ≤ token.stop := by
  intro range member
  have known := cover.within range member
  omega

private theorem push_other (other : token.kind.isTrivia = true ∨ token.kind = .directive) :
    Cover (tokens ++ [token]) terminators ranges token.stop := by
  refine ⟨cover.push_before follows nonempty, cover.push_ended, cover.ordered,
    cover.push_within follows nonempty, forall_mem_concat cover.covered fun content => ?_,
    fun range member => mono (cover.framed range member)⟩
  rcases other with trivia | directive
  · rw [content.1] at trivia
    cases trivia
  · exact absurd directive content.2.1

private theorem push_terminator (delimiter : token.kind = .semicolon) :
    Cover (tokens ++ [token]) (terminators ++ [token]) ranges token.stop := by
  have kept {range : Nat × Nat} (framed : FramedBy tokens terminators range) :
      FramedBy tokens (terminators ++ [token]) range := by
    obtain ⟨⟨first, isFirst, content, starts⟩, last, isLast, content', ends⟩ := framed
    exact ⟨⟨first, isFirst, (cover.content_more follows isFirst).mpr content, starts⟩, last, isLast,
      (cover.content_more follows isLast).mpr content', ends⟩
  have there {before : List ScriptToken} : token ∈ before ++ [token] := by simp
  exact ⟨cover.push_before follows nonempty, forall_mem_concat cover.push_ended ⟨there, delimiter⟩,
    cover.ordered, cover.push_within follows nonempty,
    forall_mem_concat (fun found old content => cover.covered found old
      ((cover.content_more follows old).mp content)) fun content => absurd there content.2.2,
    fun range member => mono (kept (cover.framed range member))⟩

end Push

/-- A content token with a range that reaches from where the last one started. -/
private theorem push_content {closed : List (Nat × Nat)} {opened : Option (Nat × Nat)} {start : Nat}
    (cover : Cover tokens terminators (closed ++ opened.toList) pos)
    (follows : token.start = pos) (nonempty : token.start < token.stop)
    (plain : token.kind.isTrivia = false) (notDirective : token.kind ≠ .directive)
    (starts : start = (opened.map Prod.fst).getD token.start) :
    Cover (tokens ++ [token]) terminators (closed ++ [(start, token.stop)]) token.stop := by
  have content : IsContent terminators token := by
    refine ⟨plain, notDirective, ?_⟩
    intro ended
    exact cover.not_new follows (cover.ended token ended).1 rfl
  have there : token ∈ tokens ++ [token] := mem_append_right _ mem_cons_self
  have filled := Nat.le_refl token.stop
  -- the new range starts behind the closed ones, with the open one or with the token
  obtain ⟨reaches, apart, same, first⟩ : start ≤ token.start ∧
      (∀ range ∈ closed, range.2 ≤ start) ∧ (∀ range ∈ opened.toList, range.1 = start) ∧
      ∃ first ∈ tokens ++ [token], IsContent terminators first ∧
        Inside first (start, token.stop) ∧ first.start = start := by
    cases opened with
    | none =>
      subst starts
      refine ⟨Nat.le_refl _, fun range member => ?_, nofun, token, there, content,
        ⟨Nat.le_refl _, filled⟩, rfl⟩
      exact follows ▸ (cover.within range (mem_append_left _ member)).2
    | some range =>
    subst starts
    have here : range ∈ closed ++ (some range).toList := mem_append_right _ mem_cons_self
    have last := cover.within range here
    obtain ⟨⟨first, isFirst, isContent, inside, atStart⟩, -⟩ := cover.framed range here
    have known := (cover.before first isFirst).2
    refine ⟨?_, fun earlier member => ?_, fun _ same => mem_singleton.mp same ▸ rfl, first,
      mem_append_left _ isFirst, isContent, ⟨inside.1, ?_⟩, atStart⟩
    · show range.1 ≤ token.start
      omega
    · exact (pairwise_append.mp cover.ordered).2.2 earlier member range mem_cons_self
    · show first.stop ≤ token.stop
      omega
  refine ⟨cover.push_before follows nonempty, cover.push_ended, ?_, ?_, ?_, ?_⟩
  · refine pairwise_append.mpr ⟨(pairwise_append.mp cover.ordered).1, by simp, ?_⟩
    intro earlier member later last
    rw [mem_singleton.mp last]
    exact apart earlier member
  · exact forall_mem_concat (fun range old => cover.push_within follows nonempty range
      (mem_append_left _ old)) ⟨Nat.lt_of_le_of_lt reaches nonempty, filled⟩
  · refine forall_mem_concat (fun found old isContent => ?_) fun _ => ⟨(start, token.stop),
      mem_append_right _ mem_cons_self, reaches, filled⟩
    obtain ⟨range, isRange, inside⟩ := cover.covered found old isContent
    rcases mem_append.mp isRange with isClosed | isOpened
    · exact ⟨range, mem_append_left _ isClosed, inside⟩
    refine ⟨(start, token.stop), mem_append_right _ mem_cons_self,
      same range isOpened ▸ inside.1, ?_⟩
    exact ((cover.push_before follows nonempty) found (mem_append_left _ old)).2
  · exact forall_mem_concat (fun range old => mono (cover.framed range (mem_append_left _ old)))
      ⟨first, token, there, content, ⟨reaches, filled⟩, rfl⟩

end Cover

/-! ### One step of the builder -/

namespace Builder

def ranges (builder : Builder) : List (Nat × Nat) :=
  (builder.statements.map fun statement => (statement.start, statement.stop)) ++
    builder.opened.toList

/-- What holds of the builder between two steps. -/
structure Reading (text : List Char) (builder : Builder) : Prop where
  bytes : builder.lexer.bytes = encode text
  within : builder.lexer.pos ≤ (encode text).length
  clean : Clean builder.lexer.rest
  delimiter : Whole builder.delimiter
  tiles : Tiles text 0 builder.tokens builder.lexer.pos
  cover : Cover builder.tokens builder.terminators builder.ranges builder.lexer.pos

variable {text : List Char} {builder next : Builder} (reading : Reading text builder)

section Text

include reading

private theorem Reading.whole : Whole builder.lexer.rest := by
  have split : Whole (builder.lexer.bytes.take builder.lexer.pos ++ builder.lexer.rest) := by
    rw [Lexer.rest, take_append_drop, reading.bytes]
    exact ⟨text, rfl⟩
  exact (split.cut reading.clean).2

private theorem Reading.boundary {count : Nat} (within : count ≤ builder.lexer.rest.length)
    (clean : Clean (builder.lexer.rest.drop count)) :
    builder.lexer.pos + count ≤ (encode text).length ∧
      OnBoundary text (builder.lexer.pos + count) := by
  have left : builder.lexer.rest.length = (encode text).length - builder.lexer.pos := by
    rw [Lexer.rest, length_drop, reading.bytes]
  have bound := reading.within
  have inText : builder.lexer.pos + count ≤ (encode text).length := by omega
  refine ⟨inText, onBoundary_of_clean inText ?_⟩
  rw [Lexer.rest, drop_drop, reading.bytes] at clean
  exact clean

/-- One more token: the tokens still tile, whatever is recorded about the statements. -/
private theorem Reading.push (sameBytes : next.lexer.bytes = builder.lexer.bytes)
    (delimiter : Whole next.delimiter) (tokens : next.tokens = builder.tokens ++ [token])
    (start : token.start = builder.lexer.pos) {count : Nat}
    (stop : token.stop = builder.lexer.pos + count) (pos : next.lexer.pos = token.stop)
    (cuts : Cuts builder.lexer.rest count)
    (cover : Cover next.tokens next.terminators next.ranges next.lexer.pos) :
    Reading text next := by
  obtain ⟨inText, boundary⟩ := reading.boundary cuts.within cuts.clean
  have here : OnBoundary text builder.lexer.pos := by
    have zero := (reading.boundary (Nat.zero_le _) reading.clean).2
    rwa [Nat.add_zero] at zero
  have positive := cuts.positive
  refine ⟨sameBytes.trans reading.bytes, ?_, ?_, delimiter, ?_, cover⟩
  · rw [pos, stop]
    exact inText
  · have behind : next.lexer.rest = builder.lexer.rest.drop count := by
      rw [Lexer.rest, Lexer.rest, sameBytes, pos, stop, drop_drop]
    rw [behind]
    exact cuts.clean
  rw [tokens, pos]
  refine reading.tiles.push start (by omega) ?_ ?_
  · rw [start]
    exact here
  · rw [stop]
    exact boundary

omit reading in
private theorem skipTo_pos {lexer : Lexer} {stop : Nat} (within : stop ≤ lexer.bytes.length) :
    (lexer.skipTo stop).pos = stop := by
  simp [Lexer.skipTo, within]

private theorem Reading.skip {kind : ScriptTokenKind} {count : Nat}
    (other : kind.isTrivia = true ∨ kind = .directive) (cuts : Cuts builder.lexer.rest count) :
    Reading text
      { builder.pushToken
          { kind := kind, start := builder.lexer.pos, stop := builder.lexer.pos + count } with
        lexer := builder.lexer.skipTo (builder.lexer.pos + count) } := by
  have inText := (reading.boundary cuts.within cuts.clean).1
  rw [← reading.bytes] at inText
  have positive := cuts.positive
  refine reading.push rfl reading.delimiter rfl rfl rfl (skipTo_pos inText) cuts ?_
  have cover := reading.cover.push_other
    (show (ScriptToken.mk kind builder.lexer.pos (builder.lexer.pos + count)).start = _ from rfl)
    (by show builder.lexer.pos < builder.lexer.pos + count; omega) other
  show Cover _ builder.terminators builder.ranges (builder.lexer.skipTo _).pos
  rw [skipTo_pos inText]
  exact cover

private theorem Reading.pushDirective {start stop : Nat}
    (stands : DirectiveAt builder.lexer.rest start stop) :
    Reading text (builder.pushDirective start stop) ∧
      (builder.pushDirective start stop).lexer.pos = builder.lexer.pos + stop := by
  have nonempty := stands.nonempty
  have inText := (reading.boundary stands.within stands.stopClean).1
  rw [← reading.bytes] at inText
  have moved : (builder.pushDirective start stop).lexer.pos = builder.lexer.pos + stop := by
    unfold Builder.pushDirective
    split <;> exact skipTo_pos inText
  refine ⟨?_, moved⟩
  unfold Builder.pushDirective
  dsimp only
  split
  · rename_i spaced
    -- the space before the directive, then the directive
    have space := @Reading.skip text builder reading .whitespace start (.inl rfl)
      ⟨spaced, by have bound := stands.within; omega, stands.startClean⟩
    have at' : (builder.lexer.skipTo (builder.lexer.pos + start)).pos =
        builder.lexer.pos + start := skipTo_pos (by omega)
    have cuts : Cuts (builder.lexer.skipTo (builder.lexer.pos + start)).rest (stop - start) := by
      have rest : (builder.lexer.skipTo (builder.lexer.pos + start)).rest =
          builder.lexer.rest.drop start := by
        rw [Lexer.rest, at', Lexer.rest, drop_drop]
        rfl
      rw [rest]
      refine ⟨by omega, ?_, ?_⟩
      · rw [length_drop]
        have bound := stands.within
        omega
      rw [drop_drop]
      have sum : start + (stop - start) = stop := by omega
      rw [sum]
      exact stands.stopClean
    have directive := @Reading.skip text _ space .directive (stop - start) (.inr rfl) cuts
    have sum : builder.lexer.pos + start + (stop - start) = builder.lexer.pos + stop := by omega
    dsimp only at directive
    rw [at', sum] at directive
    exact directive
  rename_i flush
  have zero : start = 0 := by omega
  subst zero
  have directive := @Reading.skip text builder reading .directive stop (.inr rfl)
    ⟨nonempty, stands.within, stands.stopClean⟩
  exact directive

end Text

private theorem finishStatement_same (builder : Builder) (terminatorEnd : Option Nat)
    (repeats : Nat) : (builder.finishStatement terminatorEnd repeats).lexer = builder.lexer ∧
    (builder.finishStatement terminatorEnd repeats).delimiter = builder.delimiter ∧
    (builder.finishStatement terminatorEnd repeats).tokens = builder.tokens ∧
    (builder.finishStatement terminatorEnd repeats).terminators = builder.terminators ∧
    (builder.finishStatement terminatorEnd repeats).ranges = builder.ranges := by
  unfold finishStatement
  cases opened : builder.opened with
  | none | some => simp [ranges, opened]

include reading in
private theorem Reading.finishStatement (terminatorEnd : Option Nat) (repeats : Nat) :
    Reading text (builder.finishStatement terminatorEnd repeats) := by
  obtain ⟨lexer, delimiter, tokens, terminators, ranges⟩ :=
    finishStatement_same builder terminatorEnd repeats
  obtain ⟨bytes, within, clean, whole, tiles, cover⟩ := reading
  constructor <;> simp only [lexer, delimiter, tokens, terminators, ranges] <;> assumption

/-- What a token does to the statements: the three ways to read one. -/
inductive Outcome (builder next : Builder) (token : ScriptToken) : Prop where
  | trivia (kind : token.kind.isTrivia = true)
      (terminators : next.terminators = builder.terminators)
      (ranges : next.ranges = builder.ranges)
  | terminator (kind : token.kind = .semicolon)
      (terminators : next.terminators = builder.terminators ++ [token])
      (ranges : next.ranges = builder.ranges)
  | content (kind : token.kind.isTrivia = false)
      (terminators : next.terminators = builder.terminators)
      (ranges : next.ranges =
        (builder.statements.map fun statement => (statement.start, statement.stop)) ++
          [((builder.opened.map Prod.fst).getD token.start, token.stop)])

private theorem extend_ranges (builder : Builder) (start stop : Nat) :
    (builder.extend start stop).ranges =
      (builder.statements.map fun statement => (statement.start, statement.stop)) ++
        [((builder.opened.map Prod.fst).getD start, stop)] := by
  unfold extend ranges
  cases builder.opened <;> rfl

private theorem acceptContent_spec (token : ScriptToken) (bytes : List UInt8)
    (plain : token.kind.isTrivia = false) :
    (builder.acceptContent token bytes).lexer = builder.lexer ∧
    (builder.acceptContent token bytes).delimiter = builder.delimiter ∧
    (builder.acceptContent token bytes).tokens = builder.tokens ∧
    Outcome builder (builder.acceptContent token bytes) token := by
  unfold acceptContent
  split
  · rename_i delimits
    split
    · rename_i ends tracker _
      split
      · obtain ⟨lexer, delimiter, tokens, -, ranges⟩ :=
          finishStatement_same { builder with tracker := tracker } (some token.stop) 1
        simp only [isDelimiter, Bool.and_eq_true, beq_iff_eq] at delimits
        exact ⟨lexer, delimiter, tokens, .terminator delimits.1 rfl ranges⟩
      · exact ⟨rfl, rfl, rfl, .content plain rfl (extend_ranges ..)⟩
  · split <;> exact ⟨rfl, rfl, rfl, .content plain rfl (extend_ranges ..)⟩

private theorem diagnose_same (builder : Builder) (token : LexedToken) (start : Nat) :
    ∃ diagnostics, builder.diagnose token start = { builder with diagnostics := diagnostics } := by
  unfold diagnose
  cases token.opened with
  | none | some => exact ⟨_, rfl⟩

private theorem accept_spec (builder : Builder) (token : LexedToken) (start : Nat) :
    (builder.accept token start).lexer = builder.lexer ∧
    (builder.accept token start).delimiter = builder.delimiter ∧
    (builder.accept token start).tokens =
      builder.tokens ++ [⟨token.kind, start, start + token.length⟩] ∧
    Outcome builder (builder.accept token start) ⟨token.kind, start, start + token.length⟩ := by
  obtain ⟨diagnostics, diagnosed⟩ := diagnose_same builder token start
  unfold accept
  rw [diagnosed]
  cases plain : token.kind.isTrivia with
  | true => exact ⟨rfl, rfl, rfl, .trivia plain rfl rfl⟩
  | false =>
  obtain ⟨lexer, delimiter, tokens, outcome⟩ := @acceptContent_spec
    { builder with diagnostics := diagnostics } ⟨token.kind, start, start + token.length⟩
    ((builder.lexer.bytes.drop start).take token.length) plain
  refine ⟨lexer, delimiter, congrArg (· ++ [_]) tokens, ?_⟩
  cases outcome with
  | trivia kind terminators ranges => exact .trivia kind terminators ranges
  | terminator kind terminators ranges => exact .terminator kind terminators ranges
  | content kind terminators ranges => exact .content kind terminators ranges

private theorem Outcome.cover {pos : Nat} (outcome : Outcome builder next token)
    (before : Cover builder.tokens builder.terminators builder.ranges pos)
    (tokens : next.tokens = builder.tokens ++ [token]) (follows : token.start = pos)
    (nonempty : token.start < token.stop) (notDirective : token.kind ≠ .directive) :
    Cover next.tokens next.terminators next.ranges token.stop := by
  rw [tokens]
  cases outcome with
  | trivia kind terminators ranges =>
    rw [terminators, ranges]
    exact before.push_other follows nonempty (.inl kind)
  | terminator kind terminators ranges =>
    rw [terminators, ranges]
    exact before.push_terminator follows nonempty kind
  | content kind terminators ranges =>
    rw [terminators, ranges]
    exact Cover.push_content before follows nonempty kind notDirective rfl

section Steps

include reading

private theorem currentDelimiter_formed : WellFormed builder.currentDelimiter := by
  intro bytes same
  unfold currentDelimiter at same
  split at same
  · cases same
    exact reading.delimiter
  · cases same

private theorem acceptDirective_reading (accepted : builder.acceptDirective = some next) :
    Reading text next ∧ builder.lexer.pos < next.lexer.pos := by
  unfold acceptDirective at accepted
  split at accepted
  · obtain ⟨line, found, rfl⟩ := Option.map_eq_some_iff.mp accepted
    have stands := goLine_at reading.whole found
    obtain ⟨pushed, pos⟩ := reading.pushDirective stands
    refine ⟨pushed.finishStatement none line.repeats, ?_⟩
    rw [(finishStatement_same _ none line.repeats).1, pos]
    have nonempty := stands.nonempty
    omega
  · split at accepted
    · cases accepted
    obtain ⟨line, found, rfl⟩ := Option.map_eq_some_iff.mp accepted
    obtain ⟨stands, wellFormed⟩ := delimiterLine_at reading.whole found
    obtain ⟨pushed, pos⟩ := reading.pushDirective stands
    have nonempty := stands.nonempty
    have delimiter : Whole (line.delimiter.getD builder.delimiter) := by
      cases chosen : line.delimiter with
      | none => exact reading.delimiter
      | some other => exact wellFormed other chosen
    refine ⟨⟨pushed.bytes, pushed.within, pushed.clean, delimiter, pushed.tiles, pushed.cover⟩, ?_⟩
    show builder.lexer.pos < (builder.pushDirective line.start line.stop).lexer.pos
    omega
  · cases accepted

omit reading in
private theorem rest_ne_nil (inside : builder.lexer.pos < builder.lexer.bytes.length) :
    builder.lexer.rest ≠ [] := by
  intro nothing
  have short := drop_eq_nil_iff.mp nothing
  omega

private theorem accept_reading (inside : builder.lexer.pos < builder.lexer.bytes.length) :
    ∃ token lexer, builder.lexer.nextToken builder.currentDelimiter = some (token, lexer) ∧
      Reading text ({ builder with lexer := lexer }.accept token builder.lexer.pos) ∧
      builder.lexer.pos <
        ({ builder with lexer := lexer }.accept token builder.lexer.pos).lexer.pos := by
  obtain ⟨token, missing, read, cuts, kind⟩ := nextToken_spec reading.whole
    (currentDelimiter_formed reading) (rest_ne_nil inside)
  refine ⟨token, _, read, ?_⟩
  have positive := cuts.positive
  obtain ⟨lexer, delimiter, tokens, outcome⟩ := accept_spec
    { builder with
      lexer :=
        { builder.lexer with
          pos := builder.lexer.pos + token.length
          missingHeredocClosers := missing } }
    token builder.lexer.pos
  refine ⟨?_, ?_⟩
  · refine reading.push (by rw [lexer]) (by rw [delimiter]; exact reading.delimiter) tokens rfl rfl
      (by rw [lexer]) cuts ?_
    rw [lexer]
    exact outcome.cover reading.cover tokens rfl
      (by show builder.lexer.pos < builder.lexer.pos + token.length; omega) kind
  · rw [lexer]
    show builder.lexer.pos < builder.lexer.pos + token.length
    omega

private theorem step_reading (stepped : builder.step = some next) :
    Reading text next ∧ builder.lexer.pos < next.lexer.pos := by
  unfold step at stepped
  split at stepped
  · rename_i inside
    cases directive : (if builder.lexer.atLineStart then builder.acceptDirective else none) with
    | some accepted =>
      rw [directive] at stepped
      cases stepped
      split at directive
      · exact acceptDirective_reading reading directive
      · cases directive
    | none =>
    rw [directive] at stepped
    obtain ⟨token, lexer, read, result⟩ := accept_reading reading inside
    rw [read] at stepped
    cases stepped
    exact result
  · cases stepped

private theorem step_none (ended : builder.step = none) :
    builder.lexer.pos = (encode text).length := by
  have within := reading.within
  by_contra before
  have inside : builder.lexer.pos < builder.lexer.bytes.length := by
    rw [reading.bytes]
    omega
  unfold step at ended
  rw [if_pos inside] at ended
  obtain ⟨token, lexer, read, -⟩ := accept_reading reading inside
  cases directive : (if builder.lexer.atLineStart then builder.acceptDirective else none) with
  | some accepted =>
    rw [directive] at ended
    cases ended
  | none =>
    rw [directive, read] at ended
    cases ended

/-- As many turns as there are bytes left end the loop. -/
private theorem drive_reading {turns : Nat}
    (enough : (encode text).length ≤ builder.lexer.pos + turns) :
    Reading text (drive turns builder) ∧ (drive turns builder).step = none := by
  induction turns generalizing builder with
  | zero =>
    refine ⟨reading, ?_⟩
    cases stepped : (drive 0 builder).step with
    | none => rfl
    | some next =>
      obtain ⟨after, progress⟩ := step_reading reading stepped
      have within := after.within
      omega
  | succ turns ih =>
    rw [drive]
    cases stepped : builder.step with
    | none => exact ⟨reading, stepped⟩
    | some next =>
      obtain ⟨after, progress⟩ := step_reading reading stepped
      exact ih after (by omega)

end Steps

private theorem new_reading (text : List Char) (rules : ScriptRules) (settings : LexicalSettings) :
    Reading text (new text rules settings) := by
  have semicolon : encode [';'] = ascii [';'] := by decide
  refine ⟨rfl, Nat.zero_le _, ?_, ⟨[';'], semicolon⟩, rfl, ?_⟩
  · exact encode_clean text
  · exact ⟨by simp [new], by simp [new], by simp [new, ranges], by simp [new, ranges],
      by simp [new], by simp [new, ranges]⟩

end Builder

/-! ### The plan -/

def ScriptStatement.range (statement : ScriptStatement) : Nat × Nat :=
  (statement.start, statement.stop)

private theorem inside_unique {statements : List ScriptStatement}
    (ordered : statements.Pairwise fun earlier later => earlier.stop ≤ later.start)
    (nonempty : token.start < token.stop) {one other : ScriptStatement} (isOne : one ∈ statements)
    (isOther : other ∈ statements) (inOne : Inside token one.range)
    (inOther : Inside token other.range) : one = other := by
  obtain ⟨i, iBound, rfl⟩ := getElem_of_mem isOne
  obtain ⟨j, jBound, rfl⟩ := getElem_of_mem isOther
  have apart := pairwise_iff_getElem.mp ordered
  obtain ⟨left, right⟩ := inOne
  obtain ⟨left', right'⟩ := inOther
  unfold ScriptStatement.range at left right left' right'
  rcases Nat.lt_trichotomy i j with less | same | more
  · have behind := apart i j iBound jBound less
    omega
  · subst same
    rfl
  · have behind := apart j i jBound iBound more
    omega

/-- The statements of the plan are those of the builder, but for their extents. -/
private theorem finish_ranges (builder : Builder) :
    builder.finish.statements.map ScriptStatement.range = builder.ranges := by
  have kept := (finishStatement_same builder none 1).2.2.2.2
  rw [← kept]
  have closed : (builder.finishStatement none 1).opened = none := by
    unfold finishStatement
    cases builder.opened <;> rfl
  simp only [Builder.finish, Builder.extendExtents, Builder.ranges, closed, map_map,
    Option.toList_none, append_nil]
  rfl

theorem finish_tokens (builder : Builder) : builder.finish.tokens = builder.tokens :=
  (finishStatement_same builder none 1).2.2.1

theorem run_reading (text : List Char) (grammar : SqlGrammar) (settings : LexicalSettings) :
    Builder.Reading text (Builder.run text grammar settings) ∧
      (Builder.run text grammar settings).step = none :=
  Builder.drive_reading (Builder.new_reading text (rulesFor grammar) settings)
    (Nat.le_add_left _ _)

theorem finish_ordered {text : List Char} {builder : Builder}
    (reading : Builder.Reading text builder) :
    builder.finish.statements.Pairwise fun earlier later => earlier.stop ≤ later.start := by
  have ordered := reading.cover.ordered
  rw [← finish_ranges, pairwise_map] at ordered
  exact ordered

theorem range_mem {builder : Builder} {statement : ScriptStatement}
    (member : statement ∈ builder.finish.statements) : statement.range ∈ builder.ranges := by
  rw [← finish_ranges]
  exact mem_map_of_mem member

/-- For every text, grammar and settings: the loop of the builder ends; the tokens tile
the text; the statements are in order and disjoint; a token that is not whitespace, a
comment, a directive or a terminating delimiter lies inside exactly one statement; and
a statement starts and ends with such a token. -/
theorem scriptPlan_tiles (text : String) (grammar : SqlGrammar) (settings : LexicalSettings) :
    let plan := ScriptPlan.build text grammar settings
    let builder := Builder.run text.toList grammar settings
    builder.step = none ∧
    Tiles text.toList 0 plan.tokens (encode text.toList).length ∧
    (plan.statements.Pairwise fun earlier later => earlier.stop ≤ later.start) ∧
    (∀ token ∈ builder.terminators, token ∈ plan.tokens ∧ token.kind = .semicolon) ∧
    (∀ token ∈ plan.tokens, IsContent builder.terminators token →
      ∃ statement ∈ plan.statements, Inside token statement.range ∧
        ∀ other ∈ plan.statements, Inside token other.range → other = statement) ∧
    ∀ statement ∈ plan.statements, FramedBy plan.tokens builder.terminators statement.range := by
  intro plan builder
  obtain ⟨reading, ended⟩ := run_reading text.toList grammar settings
  have tokens : plan.tokens = builder.tokens := finish_tokens builder
  refine ⟨ended, ?_, finish_ordered reading, ?_, ?_, ?_⟩
  · rw [tokens, ← Builder.step_none reading ended]
    exact reading.tiles
  · intro token member
    rw [tokens]
    exact reading.cover.ended token member
  · intro token member content
    rw [tokens] at member
    obtain ⟨range, isRange, inside⟩ := reading.cover.covered token member content
    rw [← finish_ranges] at isRange
    obtain ⟨statement, isStatement, rfl⟩ := mem_map.mp isRange
    refine ⟨statement, isStatement, inside, ?_⟩
    intro other isOther inOther
    exact inside_unique (finish_ordered reading) (reading.cover.before token member).1 isOther
      isStatement inOther inside
  · intro statement member
    rw [tokens]
    exact reading.cover.framed _ (range_mem member)

end Bookie.Script
