/-
The statement under the cursor, to which the completion service's `statement_around` cuts the
text. It is found from the plan of the text, by the starts of the statements and by the
terminator of the one before the cursor.
-/

import Bookie.Script.Tiling

namespace Bookie.Script

open Text List

/-- `slice::partition_point`, for a predicate that holds of a front part only. -/
def partitionPoint {α : Type} (p : α → Bool) (items : List α) : Nat := (items.takeWhile p).length

/-- `ScriptPlan::tokens`. -/
def ScriptPlan.tokensIn (plan : ScriptPlan) (start stop : Nat) : List ScriptToken :=
  (plan.tokens.drop (partitionPoint (fun token => token.stop ≤ start) plan.tokens)).takeWhile
    fun token => token.start < stop

def planWith (text : String) (grammar : Option SqlGrammar) (settings : Option LexicalSettings) :
    ScriptPlan :=
  let grammar := grammar.getD .sqlite
  .build text grammar (settings.getD (.defaultFor grammar))

def isCharBoundary (text : List Char) (index : Nat) : Bool :=
  index ≤ (encode text).length && ((encode text).drop index).head?.all (¬ Continues ·)

def floorCharBoundary (text : List Char) : Nat → Nat
  | 0 => 0
  | index + 1 =>
    if isCharBoundary text (index + 1) then index + 1 else floorCharBoundary text index

variable (sql : String) (cursorByte cursor : Nat)

def statementRange (grammar : SqlGrammar) (settings : Option LexicalSettings)
    (plan : Option ScriptPlan) : Nat × Nat :=
  let plan := plan.getD (planWith sql (some grammar) settings)
  let following := partitionPoint (fun statement => statement.start ≤ cursor) plan.statements
  let nextEnd := plan.statements[following]?.elim (encode sql.toList).length ScriptStatement.stop
  match if following = 0 then none else plan.statements[following - 1]? with
  | none => (0, nextEnd)
  | some current =>
    let terminatorEnd := ((plan.tokensIn current.stop current.extentStop).filter fun token =>
      !token.kind.isTrivia).getLast?.map ScriptToken.stop
    match terminatorEnd.filter (· ≤ cursor) with
    | some terminatorEnd => (terminatorEnd, nextEnd)
    | none => (current.start, max current.stop cursor)

structure StatementSpan where
  text : List UInt8
  cursor : Nat
  deriving DecidableEq, Repr

/-- A slice off the boundaries of characters and a difference below zero are panics. -/
def statementAround (grammar : Option SqlGrammar) (settings : Option LexicalSettings)
    (plan : Option ScriptPlan) : Option StatementSpan :=
  let cursor := floorCharBoundary sql.toList (min cursorByte (encode sql.toList).length)
  let range := grammar.elim (0, (encode sql.toList).length) fun grammar =>
    statementRange sql cursor grammar settings plan
  if range.1 ≤ range.2 ∧ isCharBoundary sql.toList range.1 ∧ isCharBoundary sql.toList range.2 ∧
      range.1 ≤ cursor then
    some { text := ((encode sql.toList).take range.2).drop range.1, cursor := cursor - range.1 }
  else none

/-! ### Boundaries -/

variable {text : List Char} {index : Nat}

private theorem isCharBoundary_iff : isCharBoundary text index = true ↔ OnBoundary text index := by
  rw [isCharBoundary, Bool.and_eq_true, decide_eq_true_eq]
  constructor
  · rintro ⟨within, clean⟩
    refine onBoundary_of_clean within fun b head => ?_
    rw [head] at clean
    simpa using clean
  rintro ⟨front, back, rfl, rfl⟩
  rw [encode_append, drop_left, length_append]
  refine ⟨Nat.le_add_right _ _, ?_⟩
  have clean := encode_clean back
  cases start : (encode back).head? with
  | none => rfl
  | some b => simpa using clean b start

/-- The last boundary that is not behind the index. -/
structure FloorOf (text : List Char) (index cursor : Nat) : Prop where
  boundary : OnBoundary text cursor
  reached : cursor ≤ index
  last : ∀ other, OnBoundary text other → other ≤ index → other ≤ cursor

private theorem floorCharBoundary_spec (index : Nat) :
    FloorOf text index (floorCharBoundary text index) := by
  induction index with
  | zero => exact ⟨⟨[], text, rfl, rfl⟩, Nat.le_refl _, fun _ _ reached => reached⟩
  | succ index ih =>
    rw [floorCharBoundary]
    split
    · rename_i boundary
      exact ⟨isCharBoundary_iff.mp boundary, Nat.le_refl _, fun _ _ reached => reached⟩
    · rename_i between
      refine ⟨ih.boundary, Nat.le_succ_of_le ih.reached, fun other onBoundary reached => ?_⟩
      have apart : other ≠ index + 1 := by
        rintro rfl
        exact between (isCharBoundary_iff.mpr onBoundary)
      exact ih.last other onBoundary (by omega)

private theorem onBoundary_le (inside : OnBoundary text index) : index ≤ (encode text).length := by
  obtain ⟨front, back, rfl, rfl⟩ := inside
  simp

private theorem Tiles.boundaries {tokens : List ScriptToken} {start stop : Nat}
    (tiles : Tiles text start tokens stop) {token : ScriptToken} (member : token ∈ tokens) :
    start < token.stop ∧ OnBoundary text token.start ∧ OnBoundary text token.stop := by
  induction tokens generalizing start with
  | nil => cases member
  | cons first tokens ih =>
    obtain ⟨same, filled, left, right, rest⟩ := tiles
    rcases mem_cons.mp member with rfl | later
    · exact ⟨same ▸ filled, left, right⟩
    · have behind := ih rest later
      exact ⟨by omega, behind.2⟩

private theorem Tiles.behind {tokens : List ScriptToken} {start stop after : Nat}
    (tiles : Tiles text start tokens stop) {token : ScriptToken}
    (member : token ∈ tokens.drop (partitionPoint (·.stop ≤ after) tokens)) :
    after < token.stop ∧ OnBoundary text token.stop := by
  refine ⟨?_, (tiles.boundaries (mem_of_mem_drop member)).2.2⟩
  induction tokens generalizing start with
  | nil => cases member
  | cons first tokens ih =>
    rw [partitionPoint, takeWhile_cons] at member
    split at member
    · exact ih tiles.2.2.2.2 member
    rename_i ahead
    rw [decide_eq_true_eq, Nat.not_le] at ahead
    rcases mem_cons.mp member with rfl | later
    · exact ahead
    · exact ahead.trans (tiles.2.2.2.2.boundaries later).1

/-! ### The range -/

/-- What the plan of a text says about its statements and tokens. -/
structure ScriptPlan.Laid (plan : ScriptPlan) (text : List Char) : Prop where
  ordered : plan.statements.Pairwise fun earlier later => earlier.stop ≤ later.start
  nonempty : ∀ statement ∈ plan.statements, statement.start < statement.stop
  statements : ∀ statement ∈ plan.statements,
    OnBoundary text statement.start ∧ OnBoundary text statement.stop
  tiles : ∃ stop, Tiles text 0 plan.tokens stop

private theorem planWith_laid (grammar : Option SqlGrammar) (settings : Option LexicalSettings) :
    (planWith sql grammar settings).Laid sql.toList := by
  obtain ⟨reading, -⟩ := run_reading sql.toList (grammar.getD .sqlite)
    (settings.getD (.defaultFor (grammar.getD .sqlite)))
  refine ⟨finish_ordered reading, fun statement member =>
    (reading.cover.within _ (range_mem member)).1, fun statement member => ?_, _,
    (finish_tokens _).symm ▸ reading.tiles⟩
  obtain ⟨⟨first, isFirst, -, -, starts⟩, last, isLast, -, -, ends⟩ :=
    reading.cover.framed _ (range_mem member)
  have left := (reading.tiles.boundaries isFirst).2.1
  have right := (reading.tiles.boundaries isLast).2.2
  rw [starts] at left
  rw [ends] at right
  exact ⟨left, right⟩

def Overlaps (statement : ScriptStatement) (range : Nat × Nat) : Prop :=
  statement.start < range.2 ∧ range.1 < statement.stop

/-- The range is on boundaries and around the cursor. It meets one statement at most, and the one
the cursor is in as a whole. -/
structure Around (text : List Char) (statements : List ScriptStatement) (cursor : Nat)
    (range : Nat × Nat) : Prop where
  starts : OnBoundary text range.1
  ends : OnBoundary text range.2
  before : range.1 ≤ cursor
  behind : cursor ≤ range.2
  alone : ∀ one ∈ statements, ∀ other ∈ statements, Overlaps one range →
    Overlaps other range → one = other
  whole : ∀ statement ∈ statements, statement.start ≤ cursor → cursor < statement.stop →
    range.1 ≤ statement.start ∧ statement.stop ≤ range.2

private theorem around_of_split {statements before after : List ScriptStatement}
    {current : Option ScriptStatement} {start stop : Nat}
    (split : statements = before ++ (current.toList ++ after)) (starts : OnBoundary text start)
    (ends : OnBoundary text stop) (reached : start ≤ cursor) (behind : cursor ≤ stop)
    (earlier : ∀ statement ∈ before, statement.stop ≤ start)
    (here : ∀ statement ∈ current, start ≤ statement.start ∧ statement.stop ≤ stop)
    (later : ∀ statement ∈ after, stop ≤ statement.start ∧ cursor < statement.start) :
    Around text statements cursor (start, stop) := by
  have apart : ∀ statement ∈ statements, statement.stop ≤ start ∨ statement ∈ current ∨
      stop ≤ statement.start ∧ cursor < statement.start := by
    intro statement member
    rw [split, mem_append, mem_append, Option.mem_toList] at member
    exact member.imp (earlier statement) (.imp_right (later statement))
  have only : ∀ statement ∈ statements, Overlaps statement (start, stop) → statement ∈ current := by
    rintro statement member ⟨left, right⟩
    rcases apart statement member with passed | isCurrent | ahead
    · exact absurd right (Nat.not_lt.mpr passed)
    · exact isCurrent
    · exact absurd left (Nat.not_lt.mpr ahead.1)
  refine ⟨starts, ends, reached, behind, fun one isOne other isOther left right =>
    Option.mem_unique (only one isOne left) (only other isOther right),
    fun statement member left right => ?_⟩
  rcases apart statement member with passed | isCurrent | ahead
  · omega
  · exact here statement isCurrent
  · omega

section Laid

variable {plan : ScriptPlan} {before after : List ScriptStatement} {current : ScriptStatement}
  {start : Nat} (laid : plan.Laid text)
include laid

private theorem ScriptPlan.Laid.split : ∃ before after, plan.statements = before ++ after ∧
    partitionPoint (·.start ≤ cursor) plan.statements = before.length ∧
    (∀ statement ∈ before, statement.start ≤ cursor) ∧
    ∀ statement ∈ after, cursor < statement.start := by
  refine ⟨_, _, takeWhile_append_dropWhile.symm, rfl, fun statement member =>
    of_decide_eq_true (all_eq_true.mp all_takeWhile statement member), ?_⟩
  have part : plan.statements.dropWhile (fun statement => statement.start ≤ cursor) <+
    plan.statements := dropWhile_sublist _
  have ordered := laid.ordered.sublist part
  have notYet := head?_dropWhile_not (fun statement => decide (statement.start ≤ cursor))
    plan.statements
  cases rest : plan.statements.dropWhile fun statement => decide (statement.start ≤ cursor) with
  | nil => nofun
  | cons first others =>
  rw [rest] at part ordered notYet
  have filled := laid.nonempty first (part.subset mem_cons_self)
  have ahead := Nat.not_le.mp (of_decide_eq_false notYet)
  refine forall_mem_cons.mpr ⟨ahead, fun statement later => ?_⟩
  have behind := rel_of_pairwise_cons ordered later
  omega

private theorem ScriptPlan.Laid.apart (split : plan.statements = before ++ current :: after) :
    (∀ statement ∈ before, statement.stop ≤ current.start) ∧
      ∀ statement ∈ after, current.stop ≤ statement.start := by
  have ordered := laid.ordered
  rw [split, pairwise_append] at ordered
  exact ⟨fun statement member => ordered.2.2 statement member current mem_cons_self,
    fun _ => rel_of_pairwise_cons ordered.2.1⟩

variable (inside : OnBoundary text cursor)
include inside

/-- A range that starts behind the statements before the cursor meets the next one at most. -/
private theorem around_next (split : plan.statements = before ++ after)
    (earlier : ∀ statement ∈ before, statement.stop ≤ start)
    (later : ∀ statement ∈ after, cursor < statement.start) (starts : OnBoundary text start)
    (reached : start ≤ cursor) :
    Around text plan.statements cursor
      (start, plan.statements[before.length]?.elim (encode text).length ScriptStatement.stop) := by
  have next : plan.statements[before.length]? = after.head? := by
    rw [split, getElem?_append_right (Nat.le_refl _), Nat.sub_self, head?_eq_getElem?]
  rw [next]
  cases after with
  | nil =>
    obtain ⟨front, back, rfl, rfl⟩ := inside
    exact @around_of_split _ _ _ _ [] none _ _ split starts ⟨front ++ back, [], by simp, rfl⟩
      reached (by simp) earlier (by simp) (by simp)
  | cons first rest =>
    have member : first ∈ plan.statements := by simp [split]
    have filled := laid.nonempty first member
    have here := later first mem_cons_self
    refine @around_of_split _ _ _ _ rest (some first) _ _ split starts
      (laid.statements first member).2 reached (here.trans filled).le earlier ?_
      fun statement isLater => ⟨(laid.apart split).2 statement isLater,
        later statement (mem_cons_of_mem _ isLater)⟩
    rintro _ ⟨⟩
    exact ⟨reached.trans here.le, Nat.le_refl _⟩

/-- From the start of the statement before the cursor to its end, or to the cursor behind it. -/
private theorem around_current (split : plan.statements = before ++ current :: after)
    (early : current.start ≤ cursor) (later : ∀ statement ∈ after, cursor < statement.start) :
    Around text plan.statements cursor (current.start, max current.stop cursor) := by
  obtain ⟨left, right⟩ := laid.statements current (by simp [split])
  obtain ⟨passed, ahead⟩ := laid.apart split
  refine @around_of_split _ _ _ _ _ (some current) _ _ split left ?_ early (Nat.le_max_right _ _)
    passed ?_ fun statement isLater => ⟨Nat.max_le.mpr ⟨ahead statement isLater,
      (later statement isLater).le⟩, later statement isLater⟩
  · rcases Nat.le_total current.stop cursor with passed | ahead
    · exact (Nat.max_eq_right passed).symm ▸ inside
    · exact (Nat.max_eq_left ahead).symm ▸ right
  · rintro _ ⟨⟩
    exact ⟨Nat.le_refl _, Nat.le_max_left _ _⟩

private theorem statementRange_around (grammar : SqlGrammar) (settings : Option LexicalSettings)
    (same : sql.toList = text) :
    Around text plan.statements cursor
      (statementRange sql cursor grammar settings (some plan)) := by
  obtain ⟨before, after, split, count, early, late⟩ := laid.split cursor
  unfold statementRange
  simp only [Option.getD_some, count, same]
  rcases eq_nil_or_concat' before with rfl | ⟨init, current, rfl⟩
  · exact around_next cursor laid inside split nofun late ⟨[], _, rfl, rfl⟩ (Nat.zero_le _)
  rw [if_neg (by simp), show plan.statements[(init ++ [current]).length - 1]? = some current by
    simp [split]]
  have cut := split
  rw [append_assoc, singleton_append] at cut
  dsimp only
  split
  · rename_i terminatorEnd isEnd
    obtain ⟨isLast, reached⟩ := Option.filter_eq_some_iff.mp isEnd
    obtain ⟨token, last, rfl⟩ := Option.map_eq_some_iff.mp isLast
    obtain ⟨_, tiles⟩ := laid.tiles
    obtain ⟨behind, boundary⟩ := tiles.behind
      ((takeWhile_sublist _).subset (mem_filter.mp (mem_of_getLast? last)).1)
    refine around_next cursor laid inside split (fun statement member => ?_) late boundary
      (of_decide_eq_true reached)
    have filled := laid.nonempty current (by simp [split])
    rcases mem_append.mp member with isBefore | isCurrent
    · have apart := (laid.apart cut).1 statement isBefore
      omega
    · exact mem_singleton.mp isCurrent ▸ behind.le
  · exact around_current cursor laid inside cut (early current (by simp)) late

end Laid

/-- Without a grammar there is no plan, and the text is not cut. -/
theorem statementAround_cuts (sql : String) (cursorByte : Nat) (grammar : Option SqlGrammar)
    (settings : Option LexicalSettings) (given : Bool) :
    let plan := planWith sql grammar settings
    ∃ cursor start stop, statementAround sql cursorByte grammar settings
        (if given then some plan else none) =
          some { text := ((encode sql.toList).take stop).drop start, cursor := cursor - start } ∧
      FloorOf sql.toList cursorByte cursor ∧
      Around sql.toList (if grammar.isSome then plan.statements else []) cursor (start, stop) := by
  intro plan
  have floor := @floorCharBoundary_spec sql.toList (min cursorByte (encode sql.toList).length)
  generalize found : floorCharBoundary sql.toList (min cursorByte (encode sql.toList).length) =
    cursor at floor
  have around : Around sql.toList (if grammar.isSome then plan.statements else []) cursor
      (grammar.elim (0, (encode sql.toList).length) fun grammar =>
        statementRange sql cursor grammar settings (if given then some plan else none)) := by
    cases grammar with
    | none =>
      exact ⟨⟨[], _, rfl, rfl⟩, ⟨_, [], (append_nil _).symm, rfl⟩, Nat.zero_le _,
        onBoundary_le floor.boundary, by simp, by simp⟩
    | some grammar =>
      have same : statementRange sql cursor grammar settings (if given then some plan else none) =
          statementRange sql cursor grammar settings (some plan) := by
        cases given <;> rfl
      rw [Option.elim_some, same]
      exact statementRange_around sql cursor (planWith_laid sql _ settings) floor.boundary grammar
        settings rfl
  refine ⟨cursor, _, _, ?_, ?_, around⟩
  · rw [statementAround, found]
    exact if_pos ⟨around.before.trans around.behind, isCharBoundary_iff.mpr around.starts,
      isCharBoundary_iff.mpr around.ends, around.before⟩
  · refine ⟨floor.boundary, floor.reached.trans (Nat.min_le_left _ _), fun other inside near => ?_⟩
    exact floor.last other inside (Nat.le_min.mpr ⟨near, onBoundary_le inside⟩)

end Bookie.Script
