/-
Statement splitting loses nothing. The spans of a text are its parts between the
semicolons that no quoted text or comment covers.
-/

import Bookie.Sql.ByteLex
import Bookie.Sql.SplitterTokens

namespace Bookie.Sql

open Text List
open ByteLex (byteLength byteLength_append byteLength_cons byteLength_singleton sliceFrom sliceTo
  sliceFrom_append sliceTo_append skipSpanAt_eq)

variable {rest : List Char} {driverId : String} {length : Nat}

private theorem quotedLength_le {quote : Char} {backslash : Bool} (nonempty : 0 < rest.length) :
    quotedLength rest quote backslash ≤ rest.length := by
  have inside := (@quotedRest_spec (rest.drop 1) quote backslash).1
  rw [length_drop] at inside
  rw [quotedLength]
  omega

private theorem bracketRest_le (rest : List Char) : bracketRest rest ≤ rest.length := by
  fun_induction bracketRest rest <;> simp_all

private theorem lineLength_le (rest : List Char) : lineLength rest ≤ rest.length := by
  rw [lineLength]
  cases feed : rest.findIdx? (· == '\n') with
  | none => rfl
  | some offset => exact (findIdx?_eq_some_iff_getElem.mp feed).1

private theorem dollarQuoteLength_le (found : dollarQuoteLength rest driverId = some length) :
    length ≤ rest.length := by
  rw [dollarQuoteLength] at found
  split at found
  · obtain ⟨close, -, found⟩ := Option.bind_eq_some_iff.mp found
    dsimp only at found
    split at found
    · cases found
    split at found
    · rename_i offset within
      cases found
      obtain ⟨before, after, whole, rfl⟩ := find_some within
      have size := congrArg length whole
      simp only [length_drop, length_append] at size ⊢
      omega
    · cases found
      rfl
  · cases found

private theorem skipSpan_le (found : skipSpan rest driverId = some length) :
    length ≤ rest.length := by
  have size {front : String} (starts : startsWith front rest = true) :
      front.toList.length ≤ rest.length :=
    IsPrefix.length_le <| isPrefixOf_iff_prefix.mp starts
  rw [skipSpan] at found
  split at found
  · cases found
    exact lineLength_le rest
  split at found
  · rename_i opens
    cases found
    have inside := (@blockCommentRest_spec (rest.drop 2)
      (driverId == "postgres" || driverId == "mssql") 1).1
    have two : 2 ≤ rest.length := size opens
    rw [length_drop] at inside
    rw [blockCommentLength]
    omega
  split at found
  · cases found
    exact lineLength_le rest
  split at found
  · rename_i opens
    cases found
    exact quotedLength_le (size opens)
  split at found
  · rename_i opens
    cases found
    have two : 2 ≤ rest.length := by
      simp only [Bool.and_eq_true, Bool.or_eq_true] at opens
      exact opens.2.elim size size
    have inside := @quotedLength_le (rest.drop 1) '\'' true (by simp; omega)
    rw [length_drop] at inside
    omega
  split at found
  · rename_i quoted
    cases found
    exact dollarQuoteLength_le quoted
  split at found
  · rename_i opens
    cases found
    exact quotedLength_le (size (Bool.and_eq_true_iff.mp opens).2)
  split at found
  · rename_i opens
    cases found
    have inside := bracketRest_le (rest.drop 1)
    have one : 1 ≤ rest.length := size (Bool.and_eq_true_iff.mp opens).2
    rw [length_drop] at inside
    rw [bracketLength]
    omega
  split at found
  · rename_i opens
    cases found
    exact quotedLength_le (size opens)
  · cases found

private theorem skipSpanAt_le {alphanumeric : Char → Bool} {previous : Option Char}
    (found : skipSpanAt alphanumeric previous rest driverId = some length) :
    length ≤ rest.length := by
  rw [skipSpanAt] at found
  split at found
  · cases found
  · exact skipSpan_le found

/-! ### The parts of a text -/

section Splitter

variable (alphanumeric : Char → Bool) (driverId : String)

/-- A part of a text is read between what is before it and behind it: its characters are no
semicolons, or belong to a quoted text or comment. -/
inductive ReadsPart : (before part rest : List Char) → Prop
  | done {before rest} : ReadsPart before [] rest
  | skip {before span part rest} (nonempty : span ≠ [])
    (opens : ByteLex.skipSpanAt alphanumeric (before ++ (span ++ (part ++ rest)))
      (byteLength before) driverId = some (some (byteLength span)))
    (next : ReadsPart (before ++ span) part rest) : ReadsPart before (span ++ part) rest
  | step {before c part rest} {span : Option Nat} (other : c ≠ ';')
    (looks : ByteLex.skipSpanAt alphanumeric (before ++ c :: (part ++ rest)) (byteLength before)
      driverId = some span)
    (nothing : span.filter (0 < ·) = none)
    (next : ReadsPart (before ++ [c]) part rest) : ReadsPart before (c :: part) rest

/-- Parts with a semicolon in front of each. -/
def behind (parts : List (List Char)) : List Char := parts.flatMap (';' :: ·)

def ReadsParts : (before : List Char) → List (List Char) → Prop
  | _, [] => True
  | before, part :: parts =>
    ReadsPart alphanumeric driverId (before ++ [';']) part (behind parts) ∧
      ReadsParts (before ++ ';' :: part) parts

/-- Where the parts stand. -/
def positions : (start : Nat) → List (List Char) → List (Nat × Nat)
  | _, [] => []
  | start, part :: parts =>
    (start, start + byteLength part) :: positions (start + byteLength part + 1) parts

/-- `&text[start..stop]`. -/
def slice (text : List Char) (span : Nat × Nat) : Option (List Char) :=
  (sliceTo text span.2).bind (sliceFrom · span.1)

variable {alphanumeric driverId}

private theorem slice_append (before part rest : List Char) :
    slice (before ++ (part ++ rest)) (byteLength before, byteLength before + byteLength part) =
      some part := by
  have cut := sliceTo_append (before ++ part) rest
  rw [byteLength_append, append_assoc] at cut
  rw [slice, cut]
  exact sliceFrom_append before part

private theorem slice_positions (before part : List Char) (parts : List (List Char)) :
    (positions (byteLength before) (part :: parts)).map (slice (before ++ (part ++ behind parts))) =
      (part :: parts).map some := by
  induction parts generalizing before part with
  | nil =>
    rw [positions, map_cons, slice_append]
    rfl
  | cons next parts ih =>
    have later := ih (before ++ (part ++ [';'])) next
    rw [byteLength_append, byteLength_append, byteLength_singleton, append_assoc,
      append_assoc] at later
    rw [positions, map_cons, slice_append, map_cons, ← later, Nat.add_assoc]
    rfl

private theorem semicolon_byte (before rest : List Char) (c : Char) :
    ((encode (before ++ c :: rest))[byteLength before]? == some ';'.toUInt8) = (c == ';') := by
  rw [encode_append, byteLength, getElem?_append_right (Nat.le_refl _), Nat.sub_self,
    ← head?_eq_getElem?, Bool.eq_iff_iff, beq_iff_eq, head_encode (by decide), beq_iff_eq]
  simp

private theorem behind_shorter {text span back : List Char} (nonempty : span ≠ [])
    (whole : text = span ++ back) : back.length < text.length := by
  have := length_pos_iff.mpr nonempty
  rw [whole, length_append]
  omega

/-- One turn of the loop: over a quoted text or comment, a semicolon or another character. -/
private theorem spansFrom_turn (before rest : List Char) (c : Char) (start : Nat) :
    (∃ span back, span ≠ [] ∧ c :: rest = span ++ back ∧
      skipSpanAt alphanumeric before.getLast? (c :: rest) driverId = some span.length ∧
      ByteLex.spansFrom alphanumeric (before ++ c :: rest) driverId start (byteLength before) =
        ByteLex.spansFrom alphanumeric (before ++ c :: rest) driverId start
          (byteLength (before ++ span))) ∨
    (skipSpanAt alphanumeric before.getLast? (c :: rest) driverId).filter (0 < ·) = none ∧
      ((skipSpanAt alphanumeric before.getLast? (c :: rest) driverId).map fun count =>
        byteLength ((c :: rest).take count)).filter (0 < ·) = none ∧
      ByteLex.spansFrom alphanumeric (before ++ c :: rest) driverId start (byteLength before) =
        if c == ';' then
          (ByteLex.spansFrom alphanumeric (before ++ c :: rest) driverId
            (byteLength (before ++ [c])) (byteLength (before ++ [c]))).map
              ((start, byteLength before) :: ·)
        else ByteLex.spansFrom alphanumeric (before ++ c :: rest) driverId start
          (byteLength (before ++ [c])) := by
  have positive := c.utf8Size_pos
  have within : byteLength before < byteLength (before ++ c :: rest) := by
    rw [byteLength_append, byteLength_cons]
    omega
  rw [ByteLex.spansFrom, if_pos within]
  simp only [sliceFrom_append, skipSpanAt_eq, Option.bind_eq_bind, Option.bind_some]
  split
  · rename_i length isSpan
    obtain ⟨found, long⟩ := Option.filter_eq_some_iff.mp isSpan
    obtain ⟨count, isCount, rfl⟩ := Option.map_eq_some_iff.mp found
    refine .inl ⟨(c :: rest).take count, (c :: rest).drop count, ?_,
      (take_append_drop ..).symm, ?_, by rw [byteLength_append]⟩
    · intro empty
      rw [empty] at long
      cases of_decide_eq_true long
    · rw [isCount, length_take_of_le (skipSpanAt_le isCount)]
  rename_i nothing
  refine .inr ⟨?_, nothing, ?_⟩
  · cases found : skipSpanAt alphanumeric before.getLast? (c :: rest) driverId with
    | none => rfl
    | some count =>
    cases count with
    | zero => rfl
    | succ count =>
      have long : 0 < byteLength ((c :: rest).take (count + 1)) := by
        rw [take_succ_cons, byteLength_cons]
        omega
      rw [found, Option.map_some, Option.filter_some, if_pos (decide_eq_true long)] at nothing
      cases nothing
  rw [semicolon_byte, byteLength_append, byteLength_singleton]
  split
  · rename_i isSemicolon
    rw [eq_of_beq isSemicolon, Option.map_eq_bind]
    rfl
  · rfl

private theorem spansFrom_eq (before text : List Char) (start : Nat) :
    ByteLex.spansFrom alphanumeric (before ++ text) driverId start (byteLength before) =
      some (spansFrom alphanumeric driverId text 0 before.getLast? start (byteLength before)) := by
  induction size : text.length using Nat.strongRecOn generalizing before text start with
  | ind size ih =>
  subst size
  cases text with
  | nil => rw [ByteLex.spansFrom, if_neg (by simp), append_nil, spansFrom]
  | cons c rest =>
  rcases @spansFrom_turn alphanumeric driverId before rest c start with
    ⟨span, back, nonempty, whole, spans, turn⟩ | ⟨nothing, -, turn⟩
  · rw [turn]
    rw [whole] at spans ⊢
    have later := ih back.length (behind_shorter nonempty whole)
      (before ++ span) back start rfl
    rw [append_assoc] at later
    rw [later, spansFrom_span nonempty spans, getLast?_append_of_ne_nil _ nonempty,
      byteLength_append]
    rfl
  have later := ih rest.length (by simp) (before ++ [c]) rest
  rw [append_assoc, cons_append, nil_append, getLast?_concat] at later
  rw [turn, spansFrom, nothing, later _ rfl, later _ rfl, byteLength_append, byteLength_singleton]
  split
  · rename_i isSemicolon
    rw [eq_of_beq isSemicolon]
    rfl
  · rfl

/-- The scan over bytes finds the spans of the scan over characters. -/
theorem statementSpans_eq (text : List Char) :
    ByteLex.statementSpans alphanumeric text driverId =
      some (statementSpans alphanumeric text driverId) :=
  spansFrom_eq [] text 0

/-- From a place in the first part on. -/
private theorem spansFrom_parts (before text : List Char) (start : Nat) :
    ∃ part parts, text = part ++ behind parts ∧
      ByteLex.spansFrom alphanumeric (before ++ text) driverId start (byteLength before) =
        some ((start, byteLength (before ++ part)) ::
          positions (byteLength (before ++ part) + 1) parts) ∧
      ReadsPart alphanumeric driverId before part (behind parts) ∧
      ReadsParts alphanumeric driverId (before ++ part) parts := by
  induction size : text.length using Nat.strongRecOn generalizing before text start with
  | ind size ih =>
  subst size
  cases text with
  | nil =>
    refine ⟨[], [], rfl, ?_, .done, trivial⟩
    rw [ByteLex.spansFrom, if_neg (by simp)]
    rfl
  | cons c rest =>
  have looks := skipSpanAt_eq alphanumeric before (c :: rest) driverId
  rcases @spansFrom_turn alphanumeric driverId before rest c start with
    ⟨span, back, nonempty, whole, isSpan, turn⟩ | ⟨-, nothing, turn⟩
  · rw [turn]
    rw [isSpan, Option.map_some, whole, take_left] at looks
    rw [whole]
    obtain ⟨part, parts, rfl, spans, reads, more⟩ := ih back.length (behind_shorter nonempty whole)
      (before ++ span) back start rfl
    refine ⟨span ++ part, parts, (append_assoc ..).symm, ?_, .skip nonempty looks reads, ?_⟩
    · rwa [append_assoc, append_assoc] at spans
    · rwa [append_assoc] at more
  rw [turn]
  split
  · rename_i isSemicolon
    obtain rfl := eq_of_beq isSemicolon
    obtain ⟨part, parts, rfl, spans, reads, more⟩ := ih rest.length (by simp) (before ++ [';']) rest
      (byteLength (before ++ [';'])) rfl
    refine ⟨[], part :: parts, rfl, ?_, .done, ?_⟩
    · have stop : byteLength (before ++ [';']) = byteLength before + 1 := by
        rw [byteLength_append]
        rfl
      rw [append_assoc, cons_append, nil_append] at spans
      rw [spans, append_nil, byteLength_append (before ++ [';']) part, stop]
      rfl
    · rw [append_nil]
      rw [append_assoc] at more
      exact ⟨reads, more⟩
  rename_i other
  obtain ⟨part, parts, rfl, spans, reads, more⟩ := ih rest.length (by simp) (before ++ [c]) rest
    start rfl
  refine ⟨c :: part, parts, rfl, ?_, .step (by simpa using other) looks nothing reads, ?_⟩
  · rwa [append_assoc, append_assoc] at spans
  · rwa [append_assoc] at more

/-- **Splitting is lossless.** No slice fails: the spans are where the parts of the text stand,
each cuts out its part, the text is its parts with semicolons between them, and in a part a
semicolon is quoted or commented out. -/
theorem statement_spans_lossless (alphanumeric : Char → Bool) (text : List Char)
    (driverId : String) :
    ∃ part parts, text = part ++ behind parts ∧
      ByteLex.statementSpans alphanumeric text driverId = some (positions 0 (part :: parts)) ∧
      (positions 0 (part :: parts)).map (slice text) = (part :: parts).map some ∧
      ReadsPart alphanumeric driverId [] part (behind parts) ∧
      ReadsParts alphanumeric driverId part parts := by
  obtain ⟨part, parts, rfl, spans, reads⟩ := @spansFrom_parts alphanumeric driverId [] text 0
  refine ⟨part, parts, rfl, ?_, slice_positions [] part parts, reads⟩
  rw [positions, Nat.zero_add]
  exact spans

end Splitter

end Bookie.Sql
