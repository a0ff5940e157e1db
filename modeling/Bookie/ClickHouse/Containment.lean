/-
Inlined values stay inside their literals. Scanned again, the text that was built
has every character of the template in the state it had there, unless a literal and
its neighbour meet in two single quotes or in two hyphens.
-/

import Bookie.ClickHouse.Scanning

namespace Bookie.ClickHouse

open Bookie.Core Text List Option

/-! ### What the loop builds -/

/-- How the pieces come from the template, from a position and a state on. -/
inductive Built (formats : Formats) (params : List Value) :
    ScanState → Nat → List Char → List Segment → Prop
  | done {state : ScanState} {position : Nat} : Built formats params state position [] []
  | one {state : ScanState} {position : Nat} {ch : Char} {rest : List Char}
      {segments : List Segment} (notMarker : ¬ (state = .sql ∧ ch = '?'))
      (alone : (advance state ch rest.head?).1 = false)
      (others : Built formats params (advance state ch rest.head?).2 (position + 1) rest segments) :
      Built formats params state position (ch :: rest) (.copied position ch :: segments)
  | two {state : ScanState} {position : Nat} {ch next : Char} {rest : List Char}
      {segments : List Segment} (both : (advance state ch (some next)).1 = true)
      (others : Built formats params (advance state ch (some next)).2 (position + 2) rest
        segments) :
      Built formats params state position (ch :: next :: rest)
        (.copied position ch :: .copied (position + 1) next :: segments)
  | placeholder {position index : Nat} {marker : Char} {digits rest literalText : List Char}
      {value : Value} {segments : List Segment} (isMarker : marker = '?' ∨ marker = '$')
      (areDigits : ∀ digit ∈ digits, digit.isDigit = true) (given : params[index]? = some value)
      (rendered : literal formats value = .ok literalText)
      (others : Built formats params .sql (position + 1 + digits.length) rest segments) :
      Built formats params .sql position (marker :: (digits ++ rest))
        (.inlined index literalText :: segments)

section Loop

variable {formats : Formats} {params : List Value}

variable {scan scan' scan'' : Scan} {segments : List Segment} {state : ScanState} {ch : Char}
  {next : Option Char} {rest : List Char} {position skip : Nat} {segment : Segment}

structure Inlines (formats : Formats) (params : List Value) (scan scan' : Scan) (index : Nat)
    (value : Value) (rendered : List Char) : Prop where
  given : params[index]? = some value
  isLiteral : literal formats value = .ok rendered
  state : scan'.state = .sql
  used : scan'.used = scan.used.set index true
  out : scan'.out = scan.out ++ [.inlined index rendered]

private theorem inlineValue_spec {index nextPositional : Nat} {value : Value}
    (given : params[index]? = some value)
    (inlined : inlineValue formats scan index value nextPositional = .ok scan') :
    ∃ rendered, Inlines formats params scan scan' index value rendered := by
  obtain ⟨text, rendered, same⟩ := ok_of_bind inlined
  cases same
  exact ⟨text, given, rendered, rfl, rfl, rfl⟩

private theorem positional_spec (bound : positional formats params scan = .ok scan') :
    ∃ index value rendered, Inlines formats params scan scan' index value rendered := by
  rw [positional] at bound
  split at bound
  · cases bound
  · exact ⟨_, _, inlineValue_spec ‹_› bound⟩

private theorem numbered_spec {digits : List Char}
    (bound : numbered formats params scan digits = .ok scan') :
    ∃ index value rendered, Inlines formats params scan scan' index value rendered := by
  rw [numbered] at bound
  split at bound
  · cases bound
  split at bound
  · cases bound
  split at bound
  · cases bound
  · exact ⟨_, _, inlineValue_spec ‹_› bound⟩

def IsInlined (formats : Formats) (params : List Value) (segments : List Segment)
    (index : Nat) : Prop :=
  ∃ value rendered, params[index]? = some value ∧ literal formats value = .ok rendered ∧
    .inlined index rendered ∈ segments

/-- A parameter that is marked as used was marked before or is inlined here. -/
def Marks (formats : Formats) (params : List Value) (scan scan' : Scan) (segments : List Segment) :
    Prop :=
  scan'.used.length = scan.used.length ∧
    ∀ index, scan'.used[index]? = some true →
      scan.used[index]? = some true ∨ IsInlined formats params segments index

private theorem Inlines.marks {index : Nat} {value : Value} {rendered : List Char}
    (inlines : Inlines formats params scan scan' index value rendered)
    (marks : Marks formats params scan' scan'' segments) :
    Marks formats params scan scan'' (.inlined index rendered :: segments) := by
  obtain ⟨length, marked⟩ := marks
  rw [inlines.used] at length marked
  rw [length_set] at length
  refine ⟨length, ?_⟩
  intro other used
  rcases marked other used with before | ⟨value', rendered', given, isLiteral, member⟩
  · by_cases same : index = other
    · subst same
      exact .inr ⟨value, rendered, inlines.given, inlines.isLiteral, mem_cons_self⟩
    · rw [getElem?_set_ne same] at before
      exact .inl before
  · exact .inr ⟨value', rendered', given, isLiteral, mem_cons_of_mem _ member⟩

private theorem Marks.copied {more : List Segment} (same : scan'.used = scan.used)
    (marks : Marks formats params scan' scan'' segments) :
    Marks formats params scan scan'' (more ++ segments) := by
  obtain ⟨length, marked⟩ := marks
  rw [same] at length marked
  refine ⟨length, ?_⟩
  intro index used
  rcases marked index used with before | ⟨value, rendered, given, isLiteral, member⟩
  · exact .inl before
  · exact .inr ⟨value, rendered, given, isLiteral, mem_append_right _ member⟩

private theorem advance_takes (both : (advance state ch next).1 = true) : ∃ c, next = some c := by
  cases next with
  | some c => exact ⟨c, rfl⟩
  | none =>
  have alone : (advance state ch none).1 = false := by
    cases state <;> simp only [advance] <;> (repeat' split) <;> simp_all
  rw [alone] at both
  cases both

private theorem copy_spec (copied : copy scan ch rest position = (skip, scan')) :
    ((advance scan.state ch rest.head?).1 = false ∧ skip = 0 ∧ scan' = { scan with
        state := (advance scan.state ch rest.head?).2
        out := scan.out ++ [.copied position ch] }) ∨
    (∃ next tail, rest = next :: tail ∧ (advance scan.state ch (some next)).1 = true ∧ skip = 1 ∧
      scan' = { scan with
        state := (advance scan.state ch (some next)).2
        out := scan.out ++ [.copied position ch, .copied (position + 1) next] }) := by
  cases both : (advance scan.state ch rest.head?).1 with
  | false =>
    left
    unfold copy at copied
    simp only [both] at copied
    obtain ⟨rfl, rfl⟩ := Prod.mk.inj copied
    exact ⟨rfl, rfl, rfl⟩
  | true =>
  right
  obtain ⟨next, starts⟩ := advance_takes both
  obtain ⟨tail, rfl⟩ := head?_eq_some_iff.mp starts
  unfold copy at copied
  simp only [both] at copied
  obtain ⟨rfl, rfl⟩ := Prod.mk.inj copied
  exact ⟨next, tail, rfl, both, rfl, rfl⟩

/-- A placeholder and the pieces behind it. -/
private theorem Inlines.built {index : Nat} {value : Value} {rendered : List Char}
    (digits : List Char) (inlines : Inlines formats params scan scan' index value rendered)
    (outside : scan.state = .sql) (isMarker : ch = '?' ∨ ch = '$')
    (areDigits : ∀ digit ∈ digits, digit.isDigit = true)
    (others : Built formats params scan'.state (position + 1 + digits.length) rest segments)
    (marks : Marks formats params scan' scan'' segments)
    (built : scan''.out = scan'.out ++ segments) :
    ∃ all, scan''.out = scan.out ++ all ∧
      Built formats params scan.state position (ch :: (digits ++ rest)) all ∧
      Marks formats params scan scan'' all := by
  refine ⟨.inlined index rendered :: segments, ?_, ?_, inlines.marks marks⟩
  · rw [built, inlines.out, append_assoc]
    rfl
  · rw [inlines.state] at others
    rw [outside]
    exact .placeholder isMarker areDigits inlines.given inlines.isLiteral others

private theorem turn_built (turned : turn formats params ch rest position scan = .ok (skip, scan'))
    (others : Built formats params scan'.state (position + 1 + skip) (rest.drop skip) segments)
    (marks : Marks formats params scan' scan'' segments)
    (built : scan''.out = scan'.out ++ segments) :
    ∃ all, scan''.out = scan.out ++ all ∧
      Built formats params scan.state position (ch :: rest) all ∧
      Marks formats params scan scan'' all := by
  rw [turn] at turned
  split at turned
  · rename_i marker
    obtain ⟨scan₁, bound, same⟩ := ok_of_bind turned
    cases same
    obtain ⟨index, value, rendered, inlines⟩ := positional_spec bound
    exact inlines.built [] marker.1 (.inl marker.2) (by simp) others marks built
  split at turned
  · rename_i notMarker marker
    obtain ⟨scan₁, bound, same⟩ := ok_of_bind turned
    cases same
    obtain ⟨index, value, rendered, inlines⟩ := numbered_spec bound
    have dropped := @drop_left _ (rest.takeWhile Char.isDigit) (rest.dropWhile Char.isDigit)
    rw [takeWhile_append_dropWhile] at dropped
    rw [dropped] at others
    have placed := inlines.built _ marker.1 (.inr marker.2.1) (all_eq_true.mp all_takeWhile)
      others marks built
    rw [takeWhile_append_dropWhile] at placed
    exact placed
  rename_i notMarker _
  rcases copy_spec (Except.ok.inj turned) with ⟨alone, rfl, rfl⟩ | ⟨next, tail, rfl, both, rfl, rfl⟩
  · refine ⟨[.copied position ch] ++ segments, ?_, .one notMarker alone others,
      marks.copied rfl⟩
    rw [built, append_assoc]
  rw [drop_one, tail_cons] at others
  refine ⟨[.copied position ch, .copied (position + 1) next] ++ segments, ?_,
    .two both others, marks.copied rfl⟩
  rw [built, append_assoc]

private theorem bindFrom_built {sql : List Char}
    (bound : bindFrom formats params sql skip position scan = .ok scan') :
    ∃ segments, scan'.out = scan.out ++ segments ∧
      Built formats params scan.state (position + skip) (sql.drop skip) segments ∧
      Marks formats params scan scan' segments := by
  induction sql generalizing skip position scan with
  | nil =>
    cases bound
    refine ⟨[], (append_nil _).symm, ?_, rfl, fun _ used => .inl used⟩
    rw [drop_nil]
    exact .done
  | cons ch rest ih =>
    cases skip with
    | succ skip =>
      obtain ⟨segments, out, built, marks⟩ := ih bound
      refine ⟨segments, out, ?_, marks⟩
      rw [drop_succ_cons, Nat.add_comm skip 1, ← Nat.add_assoc]
      exact built
    | zero =>
    obtain ⟨result, turned, bound⟩ := ok_of_bind bound
    obtain ⟨segments, out, built, marks⟩ := ih bound
    exact turn_built turned built marks out

private theorem bindSegments_built {sql : List Char}
    (bound : bindSegments formats params sql = .ok segments) :
    Built formats params .sql 0 sql segments ∧
      ∀ index < params.length, IsInlined formats params segments index := by
  obtain ⟨scan, scanned, bound⟩ := ok_of_bind bound
  obtain ⟨built, out, fromSql, length, marked⟩ := bindFrom_built scanned
  rw [length_replicate] at length
  split at bound
  · cases bound
  rename_i unused
  obtain rfl : scan.out = segments := Except.ok.inj bound
  rw [out]
  refine ⟨fromSql, ?_⟩
  intro index small
  have within : index < scan.used.length := by omega
  have used : scan.used[index]? = some true := by
    have marked := findIdx?_eq_none_iff.mp unused _ (getElem_mem within)
    rw [getElem?_eq_getElem within]
    simpa using marked
  rcases marked index used with before | inlined
  · rw [getElem?_replicate_of_lt small] at before
    cases before
  · exact inlined

/-! ### The text scanned again -/

/-- Every character of the template is scanned in the state it had there, and every literal
starts and ends outside of quotes and comments. -/
def Kept (inTemplate : Nat → Option ScanState) : List ScanState → List Segment → Prop
  | _, [] => True
  | inOutput, .copied position _ :: segments =>
    inOutput.head? = inTemplate position ∧ Kept inTemplate (inOutput.drop 1) segments
  | inOutput, .inlined _ text :: segments =>
    inOutput.head? = some .sql ∧ (inOutput.drop text.length).head? = some .sql ∧
      Kept inTemplate (inOutput.drop text.length) segments

instance decidableKept (inTemplate : Nat → Option ScanState) :
    (inOutput : List ScanState) → (segments : List Segment) →
      Decidable (Kept inTemplate inOutput segments)
  | _, [] => isTrue trivial
  | inOutput, .copied _ _ :: segments =>
    have := decidableKept inTemplate (inOutput.drop 1) segments
    inferInstanceAs (Decidable (_ ∧ _))
  | inOutput, .inlined _ text :: segments =>
    have := decidableKept inTemplate (inOutput.drop text.length) segments
    inferInstanceAs (Decidable (_ ∧ _ ∧ _))

/-- A literal and its neighbour meet in two quotes or in two hyphens. -/
def Meets : Segment → Segment → Prop
  | .copied _ _, .copied _ _ => False
  | left, right =>
    ∃ ch, (ch = '\'' ∨ ch = '-') ∧ left.text.getLast? = some ch ∧ right.text.head? = some ch

def Apart (segments : List Segment) : Prop := segments.IsChain fun left right => ¬ Meets left right

private theorem render_cons (segment : Segment) (segments : List Segment) :
    render (segment :: segments) = segment.text ++ render segments := by
  rfl

private theorem states_lineComment {text : List Char} (oneLine : '\n' ∉ text) (more : List Char) :
    states .lineComment (text ++ more) =
      replicate text.length .lineComment ++ states .lineComment more := by
  induction text with
  | nil => rfl
  | cons ch text ih =>
    rw [mem_cons, not_or] at oneLine
    have notEnd : ch ≠ '\n' := fun same => oneLine.1 same.symm
    have step : ∀ next, advance .lineComment ch next = (false, .lineComment) := by
      simp [advance, notEnd]
    rw [cons_append, states_one (by rw [step]), step, ih oneLine.2]
    rfl

/-- A character before a placeholder is read the same before its literal, unless they meet. -/
private theorem advance_literal {marker first : Char}
    (step : advance state ch (some marker) = (false, .sql))
    (other : first ≠ '*' ∧ first ≠ '"' ∧ first ≠ '`')
    (apart : ¬ ((ch = '\'' ∨ ch = '-') ∧ first = ch)) :
    advance state ch (some first) = (false, .sql) := by
  cases state with
  | sql =>
    simp only [advance] at step ⊢
    split_ifs at step ⊢ <;> simp_all
  | singleQuote =>
    simp only [advance, closer] at step ⊢
    split_ifs at step ⊢ <;> simp_all
  | doubleQuote | backtick =>
    simp only [advance, closer] at step ⊢
    split_ifs at step ⊢ <;> simp_all
  | lineComment => exact step
  | blockComment =>
    simp only [advance] at step
    split_ifs at step <;> simp_all

private theorem state_of_quote (step : advance state '\'' next = (false, .sql)) :
    state = .singleQuote := by
  cases state <;> simp_all [advance, closer]

private theorem state_of_hyphen (step : advance state '-' next = (false, .sql)) : state = .sql := by
  cases state <;> simp_all [advance, closer]

/-- Only the end of a comment takes two characters and leaves the scanner outside. -/
private theorem slash_of_both {next : Char} (step : advance state ch (some next) = (true, .sql)) :
    next = '/' := by
  cases state with
  | blockComment =>
    simp only [advance, some.injEq] at step
    split_ifs at step with both
    · exact both.2
    · cases step
  | _ =>
    simp only [advance] at step
    split_ifs at step <;> simp_all

private theorem render_head (segments : List Segment) (some : segment.text ≠ []) :
    (render (segment :: segments)).head? = segment.text.head? := by
  rw [render_cons, head?_append_of_ne_nil _ some]

private theorem apart_cons_of (apart : ∀ next, segments.head? = some next → ¬ Meets segment next) :
    Apart (segment :: segments) ↔ Apart segments := by
  cases segments with
  | nil => simp [Apart]
  | cons next segments =>
    rw [Apart, isChain_cons_cons, and_iff_right (apart next rfl)]
    rfl

private theorem not_apart_of {next : Segment} (meets : Meets segment next) :
    ¬ Apart (segment :: next :: segments) := by
  rw [Apart, isChain_cons_cons]
  exact fun both => both.1 meets

/-- What is next in the template and in the text: the same, or a placeholder and its literal. -/
private theorem built_next (built : Built formats params state position rest segments) :
    ((render segments).head? = rest.head? ∧
      ∀ next, segments.head? = some next → ∃ position ch, next = .copied position ch) ∨
    (state = .sql ∧ ∃ marker index value text others, (marker = '?' ∨ marker = '$') ∧
      rest.head? = some marker ∧ literal formats value = .ok text ∧
      segments = .inlined index text :: others) := by
  cases built with
  | done => exact .inl ⟨rfl, by simp⟩
  | one | two =>
    left
    refine ⟨rfl, ?_⟩
    intro next same
    exact ⟨_, _, (some.inj same).symm⟩
  | placeholder isMarker areDigits given rendered others =>
    exact .inr ⟨rfl, _, _, _, _, _, isMarker, rfl, rendered, rfl⟩

private theorem built_first (documented : formats.Documented) {next : Segment}
    (built : Built formats params state position rest segments)
    (isNext : segments.head? = some next) : (render segments).head? = next.text.head? := by
  obtain ⟨after, rfl⟩ := head?_eq_some_iff.mp isNext
  apply render_head
  rcases built_next built with ⟨-, copiedNext⟩ | ⟨-, _, _, _, _, _, -, -, rendered, same⟩
  · obtain ⟨_, _, rfl⟩ := copiedNext next rfl
    exact cons_ne_nil _ _
  · obtain ⟨rfl, -⟩ := cons.inj same
    exact (literal_isLiteral documented rendered).passes.nonempty

def From (inTemplate : Nat → Option ScanState) (position : Nat) (state : ScanState)
    (rest : List Char) : Prop :=
  ∀ count, inTemplate (position + count) = (states state rest)[count]?

private theorem From.here {inTemplate : Nat → Option ScanState}
    (aligned : From inTemplate position state rest) :
    inTemplate position = some state := by
  have first := aligned 0
  rw [← head?_eq_getElem?, states_head] at first
  exact first

private theorem From.behind {inTemplate : Nat → Option ScanState} {position : Nat}
    {state state' : ScanState} {rest rest' : List Char} {labels : List ScanState}
    (aligned : From inTemplate position state rest)
    (scanned : states state rest = labels ++ states state' rest') :
    From inTemplate (position + labels.length) state' rest' := by
  intro count
  rw [Nat.add_assoc, aligned, scanned, getElem?_append_right (Nat.le_add_right _ _),
    Nat.add_sub_cancel_left]

section Again

variable {inTemplate : Nat → Option ScanState}

private theorem kept_one {state state' : ScanState} {position : Nat} {ch : Char}
    {segments : List Segment} (here : inTemplate position = some state)
    (step : advance state ch (render segments).head? = (false, state')) :
    Kept inTemplate (states state (render (.copied position ch :: segments)))
        (.copied position ch :: segments) ↔
      Kept inTemplate (states state' (render segments)) segments := by
  have scanned : states state (render (.copied position ch :: segments)) =
      state :: states state' (render segments) := by
    rw [render_cons, Segment.text, singleton_append, states_one (by rw [step]), step]
  rw [scanned, Kept, head?_cons, here, and_iff_right rfl, drop_one, tail_cons]

variable {position index : Nat} {text : List Char} {segments : List Segment}

/-- A literal that meets the quote before it is taken for part of a string. -/
private theorem not_kept_of_quote (quoteFirst : text.head? = some '\'') :
    ¬ Kept inTemplate
      (states .singleQuote (render (.copied position '\'' :: .inlined index text :: segments)))
      (.copied position '\'' :: .inlined index text :: segments) := by
  obtain ⟨rest, rfl⟩ := head?_eq_some_iff.mp quoteFirst
  intro kept
  exact absurd (some.inj kept.2.1) (by decide)

/-- A negative number behind a hyphen is taken for a comment. -/
private theorem not_kept_of_hyphen (hyphenFirst : text.head? = some '-') (oneLine : '\n' ∉ text) :
    ¬ Kept inTemplate
      (states .sql (render (.copied position '-' :: .inlined index text :: segments)))
      (.copied position '-' :: .inlined index text :: segments) := by
  obtain ⟨rest, rfl⟩ := head?_eq_some_iff.mp hyphenFirst
  rw [mem_cons, not_or] at oneLine
  have scanned : states .sql
      (render (.copied position '-' :: .inlined index ('-' :: rest) :: segments)) =
        .sql :: .sql :: (replicate rest.length .lineComment ++
          states .lineComment (render segments)) := by
    rw [← states_lineComment oneLine.2]
    exact states_two rfl
  intro kept
  rw [scanned] at kept
  obtain ⟨-, -, ends, -⟩ := kept
  rw [drop_one, tail_cons, length_cons, drop_succ_cons, drop_left', states_head] at ends
  · exact absurd (some.inj ends) (by decide)
  · exact length_replicate

/-- A quote behind the closing quote of a literal keeps the string open. -/
private theorem not_kept_of_ending (isLiteral : IsLiteral text)
    (quoteLast : text.getLast? = some '\'') (quoteNext : (render segments).head? = some '\'') :
    ¬ Kept inTemplate (states .sql (render (.inlined index text :: segments)))
      (.inlined index text :: segments) := by
  obtain ⟨inside, escaped, rfl⟩ := isLiteral.quoted quoteLast
  obtain ⟨more, isMore⟩ := head?_eq_some_iff.mp quoteNext
  have scanned : states .sql (render (.inlined index ('\'' :: (inside ++ ['\''])) :: segments)) =
      (.sql :: (replicate inside.length .singleQuote ++ [.singleQuote])) ++
        .singleQuote :: states .singleQuote more := by
    rw [render_cons, isMore, Segment.text, cons_append, append_assoc,
      singleton_append, states_open escaped, states_two rfl]
    simp [advance, closer]
  intro kept
  rw [scanned] at kept
  obtain ⟨-, ends, -⟩ := kept
  rw [drop_left' (by simp)] at ends
  exact absurd (some.inj ends) (by decide)

private theorem advance_pair {state : ScanState} {ch : Char} {next : Option Char} {both : Bool}
    (taken : (advance state ch next).1 = both) :
    advance state ch next = (both, (advance state ch next).2) := by
  rw [← taken]

/-- The text is scanned as the template was exactly if no literal meets its neighbour. -/
private theorem built_kept_iff (documented : formats.Documented) {state : ScanState}
    {rest : List Char} (built : Built formats params state position rest segments)
    (aligned : From inTemplate position state rest) :
    Kept inTemplate (states state (render segments)) segments ↔ Apart segments := by
  induction built with
  | done => simp [Kept, Apart]
  | @one state position ch rest segments notMarker alone others ih =>
    have step := advance_pair alone
    have behind : From inTemplate (position + 1) (advance state ch rest.head?).2 rest :=
      @From.behind inTemplate position state _ _ _ [state] aligned (states_one alone)
    rcases built_next others with ⟨sameNext, copiedNext⟩ | ⟨outside, placed⟩
    · have kept := @kept_one inTemplate _ _ _ _ segments aligned.here (by rw [sameNext]; exact step)
      rw [kept, ih behind, apart_cons_of]
      intro next isNext
      obtain ⟨_, _, rfl⟩ := copiedNext next isNext
      exact id
    obtain ⟨marker, index, value, text, after, isMarker, nextMarker, rendered, rfl⟩ := placed
    have isLiteral := literal_isLiteral documented rendered
    rw [outside, nextMarker] at step
    rw [outside] at ih behind
    obtain ⟨first, tail, rfl⟩ := exists_cons_of_ne_nil isLiteral.passes.nonempty
    by_cases meet : (ch = '\'' ∨ ch = '-') ∧ first = ch
    · -- the literal goes on with what the character before it started
      obtain ⟨isCh, rfl⟩ := meet
      have meets : Meets (.copied position first) (.inlined index (first :: tail)) :=
        ⟨first, isCh, rfl, rfl⟩
      rw [iff_false_right (not_apart_of meets)]
      rcases isCh with rfl | rfl
      · rw [state_of_quote step]
        exact not_kept_of_quote rfl
      · rw [state_of_hyphen step]
        exact not_kept_of_hyphen rfl (isLiteral.oneLine rfl)
    have starts := isLiteral.starts
    simp only [head?_cons, ne_eq, some.injEq] at starts
    have same := advance_literal step starts meet
    have kept := @kept_one inTemplate _ _ position ch (.inlined index (first :: tail) :: after)
      aligned.here same
    have apart : Apart (.copied position ch :: .inlined index (first :: tail) :: after) ↔
        Apart (.inlined index (first :: tail) :: after) := by
      apply apart_cons_of
      intro next isNext meets
      cases isNext
      obtain ⟨c, isC, last, head⟩ := meets
      cases last
      cases head
      exact meet ⟨isC, rfl⟩
    rw [kept, ih behind, apart]
  | @two state position ch next rest segments both others ih =>
    have step := advance_pair both
    have behind : From inTemplate (position + 2) (advance state ch (some next)).2 rest :=
      @From.behind inTemplate position state _ _ _ [state, state] aligned (states_two both)
    have second : inTemplate (position + 1) = some state := by
      rw [aligned 1, states_two both]
      rfl
    have scanned : states state
        (render (.copied position ch :: .copied (position + 1) next :: segments)) =
          state :: state :: states (advance state ch (some next)).2 (render segments) :=
      states_two both
    have apartPair : Apart (.copied position ch :: .copied (position + 1) next :: segments) ↔
        Apart segments := by
      rw [apart_cons_of fun other isOther => by cases isOther; exact id, apart_cons_of]
      intro other isOther meets
      rcases built_next others with ⟨-, copiedNext⟩ | ⟨outside, placed⟩
      · obtain ⟨_, _, rfl⟩ := copiedNext other isOther
        exact meets
      -- only the end of a comment comes before a placeholder
      obtain ⟨marker, index, value, text, after, -, -, -, rfl⟩ := placed
      cases isOther
      obtain ⟨c, isC, last, -⟩ := meets
      cases last
      rw [outside] at step
      rw [slash_of_both step] at isC
      exact absurd isC (by decide)
    rw [apartPair, scanned, Kept, Kept, ← ih behind]
    simp [aligned.here, second]
  | @placeholder position index marker digits rest text value segments isMarker areDigits given
      rendered others ih =>
      have isLiteral := literal_isLiteral documented rendered
      have inert : ∀ ch ∈ marker :: digits, isInert ch = true := by
        intro ch member
        rcases mem_cons.mp member with rfl | inDigits
        · rcases isMarker with rfl | rfl <;> rfl
        · exact (numeric_inert (numeric_of_digit (areDigits ch inDigits))).1
      have behind : From inTemplate (position + 1 + digits.length) .sql rest := by
        have inTemplate' := aligned.behind (states_inert inert rest)
        rw [length_replicate, length_cons, Nat.add_comm digits.length 1,
          ← Nat.add_assoc] at inTemplate'
        exact inTemplate'
      by_cases meet : text.getLast? = some '\'' ∧ (render segments).head? = some '\''
      · have meets : ¬ Apart (.inlined index text :: segments) := by
          cases segments with
          | nil => exact absurd meet.2 (by simp [render])
          | cons next after =>
            have first := built_first documented others rfl
            rw [meet.2] at first
            exact not_apart_of ⟨'\'', .inl rfl, meet.1, first.symm⟩
        rw [iff_false_right meets]
        exact not_kept_of_ending isLiteral meet.1 meet.2
      obtain ⟨labels, length, starts, scanned⟩ := isLiteral.passes.labels
      have whole := scanned (render segments) fun last first => meet ⟨last, first⟩
      have dropped : (states .sql (render (.inlined index text :: segments))).drop text.length =
          states .sql (render segments) := by
        rw [render_cons, Segment.text, whole, drop_left' length]
      have first : (states .sql (render (.inlined index text :: segments))).head? = some .sql :=
        states_head _ _
      have apart : Apart (.inlined index text :: segments) ↔ Apart segments := by
        apply apart_cons_of
        rintro next isNext ⟨c, rfl | rfl, last, head⟩
        · rw [← built_first documented others isNext] at head
          exact meet ⟨last, head⟩
        · exact isLiteral.ends last
      rw [Kept, first, dropped, states_head, apart, ← ih behind]
      simp

end Again

def statesOf (sql : List Char) (position : Nat) : Option ScanState := (states .sql sql)[position]?

/-- The bound text scanned again: the template is read as before and each literal is read on
its own, and every parameter is there, exactly if no literal meets its neighbour. -/
theorem bind_placeholders_contained_iff (documented : formats.Documented) (sql text : List Char)
    (bound : bindPlaceholders formats params sql = .ok text) :
    ∃ segments, bindSegments formats params sql = .ok segments ∧ text = render segments ∧
      ((Kept (statesOf sql) (states .sql text) segments ∧
        ∀ index < params.length, IsInlined formats params segments index) ↔ Apart segments) := by
  obtain ⟨segments, built, rfl⟩ := ok_of_map bound
  obtain ⟨fromSql, inlined⟩ := bindSegments_built built
  have aligned : From (statesOf sql) 0 .sql sql := by
    intro count
    rw [statesOf, Nat.zero_add]
  have kept := built_kept_iff documented fromSql aligned
  exact ⟨segments, built, rfl, by rw [kept, and_iff_left inlined]⟩

end Loop

def noFormats : Formats :=
  { float := fun _ => ['0']
    date := fun _ => []
    time := fun _ => []
    dateTime := fun _ => { inCalendar := false, timestamp := 0, nanosecond := 0, text := [] }
    timestampTz := fun _ => { inCalendar := false, timestamp := 0, nanosecond := 0, text := [] }
    decimal := fun _ => ['0']
    scale := fun _ => 0
    uuid := fun _ => [] }

private theorem noFormats_documented : noFormats.Documented where
  float _ _ _ := ⟨['0'], by decide, fun ch member => by
    rw [mem_singleton.mp member]
    exact .inl rfl, .inl rfl⟩
  date _ _ member := absurd member not_mem_nil
  time _ _ member := absurd member not_mem_nil
  dateTime _ _ member := absurd member not_mem_nil
  timestampTz _ _ member := absurd member not_mem_nil
  decimal _ ch member := by
    rw [mem_singleton.mp member]
    decide
  uuid _ _ member := absurd member not_mem_nil

theorem bind_placeholders_contained_text :
    bindPlaceholders noFormats [.text "it's", .int (-5)] "a = ? AND b < $2".toList =
        .ok "a = 'it\\'s' AND b < -5".toList ∧
      ∃ segments,
        bindSegments noFormats [.text "it's", .int (-5)] "a = ? AND b < $2".toList = .ok segments ∧
        "a = 'it\\'s' AND b < -5".toList = render segments ∧
        ((Kept (statesOf "a = ? AND b < $2".toList)
            (states .sql "a = 'it\\'s' AND b < -5".toList) segments ∧
          ∀ index < 2, IsInlined noFormats [.text "it's", .int (-5)] segments index) ↔
          Apart segments) :=
  ⟨by decide, bind_placeholders_contained_iff noFormats_documented "a = ? AND b < $2".toList
    "a = 'it\\'s' AND b < -5".toList (by decide)⟩

/-- A negative number behind a minus sign starts a comment, and a text beside a string becomes
part of it. -/
theorem bound_value_escapes :
    (bindPlaceholders noFormats [.int (-5)] "1-?".toList = .ok "1--5".toList ∧
      ¬ Kept (statesOf "1-?".toList) (states .sql "1--5".toList)
        [.copied 0 '1', .copied 1 '-', .inlined 0 "-5".toList]) ∧
    (bindPlaceholders noFormats [.text "b"] "'a'?".toList = .ok "'a''b'".toList ∧
      ¬ Kept (statesOf "'a'?".toList) (states .sql "'a''b'".toList)
        [.copied 0 '\'', .copied 1 'a', .copied 2 '\'', .inlined 0 "'b'".toList]) ∧
    (bindPlaceholders noFormats [.text "b"] "?'a'".toList = .ok "'b''a'".toList ∧
      ¬ Kept (statesOf "?'a'".toList) (states .sql "'b''a'".toList)
        [.inlined 0 "'b'".toList, .copied 1 '\'', .copied 2 'a', .copied 3 '\'']) := by
  refine ⟨⟨?_, ?_⟩, ⟨?_, ?_⟩, ?_, ?_⟩ <;> decide

end Bookie.ClickHouse
