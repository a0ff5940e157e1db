/-
LIKE patterns as regular expressions. MongoDB has no LIKE, so the driver writes a
pattern as an expression between anchors. The end anchor also holds in front of a
final line feed, where the two part.
-/

import Bookie.Sql.Like

namespace Bookie.Mongodb

open Bookie.Sql.Like

def isMeta (c : Char) : Bool := c ∈ "\\.^$|?*+()[]\x7b\x7d".toList

def regexLiteral (c : Char) : List Char := if isMeta c then ['\\', c] else [c]

def regexFrom (escape : Char) : (escaped : Bool) → List Char → List Char
  | false, [] => []
  | true, [] => regexLiteral escape
  | true, c :: pattern => regexLiteral c ++ regexFrom escape false pattern
  | false, c :: pattern =>
    if c = escape then regexFrom escape true pattern
    else if c = '%' then "[\\s\\S]*".toList ++ regexFrom escape false pattern
    else if c = '_' then "[\\s\\S]".toList ++ regexFrom escape false pattern
    else regexLiteral c ++ regexFrom escape false pattern

structure RegexSelector where
  regex : List Char
  options : Option String
  negated : Bool
  deriving DecidableEq, Repr

def likeRegexSelector (pattern : List Char) (escape : Char) (negated insensitive : Bool) :
    RegexSelector :=
  { regex := '^' :: (regexFrom escape false pattern ++ ['$'])
    options := if insensitive then some "i" else none
    negated }

/-- The expression behind its first anchor, as far as the driver uses the language. -/
def regexParts : List Char → Option (List Part)
  | ['$'] => some []
  | '[' :: '\\' :: 's' :: '\\' :: 'S' :: ']' :: '*' :: regex =>
    (regexParts regex).map (.anyText :: ·)
  | '[' :: '\\' :: 's' :: '\\' :: 'S' :: ']' :: regex => (regexParts regex).map (.anyOne :: ·)
  | '\\' :: c :: regex => if isMeta c then (regexParts regex).map (.literal c :: ·) else none
  | c :: regex => if isMeta c then none else (regexParts regex).map (.literal c :: ·)
  | [] => none

def readRegex : List Char → Option (List Part)
  | '^' :: regex => regexParts regex
  | _ => none

section Matching

variable (same : Char → Char → Prop)

/-- The end anchor holds at the end and in front of a final line feed. -/
def RegexMatches (regex subject : List Char) : Prop :=
  ∃ parts, readRegex regex = some parts ∧
    (Matches same parts subject ∨
      ∃ front, subject = front ++ ['\n'] ∧ Matches same parts front)

variable {same} {escape : Char}

private theorem regexParts_literal (c : Char) (regex : List Char) :
    regexParts (regexLiteral c ++ regex) = (regexParts regex).map (.literal c :: ·) := by
  rw [regexLiteral]
  by_cases special : isMeta c = true
  · rw [if_pos special]
    simp [regexParts, special]
  have plain {d : Char} (known : isMeta d = true) : c ≠ d := fun same => special (same ▸ known)
  rw [if_neg special, List.singleton_append]
  rw [regexParts.eq_def (c :: regex)]
  split
  case h_5 same =>
    obtain ⟨rfl, rfl⟩ := List.cons.inj same
    rw [if_neg special]
  case h_6 same => cases same
  -- the other shapes start with a character that has to be escaped
  all_goals
    rename_i same
    exact absurd (List.cons.inj same).1 (plain (by decide))

private theorem regexParts_anyText (regex : List Char) :
    regexParts ("[\\s\\S]*".toList ++ regex) = (regexParts regex).map (.anyText :: ·) := rfl

private theorem regexParts_anyOne {regex : List Char} (single : regex.head? ≠ some '*') :
    regexParts ("[\\s\\S]".toList ++ regex) = (regexParts regex).map (.anyOne :: ·) := by
  cases regex with
  | nil => rfl
  | cons c regex =>
    have other : c ≠ '*' := fun same => single (congrArg some same)
    simp [regexParts, other]

private theorem head_regexLiteral (c : Char) (regex : List Char) :
    (regexLiteral c ++ regex).head? ≠ some '*' := by
  rw [regexLiteral]
  split
  · simp
  rename_i plain
  rintro same
  rw [Option.some.inj same] at plain
  exact plain rfl

private theorem head_regexFrom (escaped : Bool) (pattern : List Char) :
    (regexFrom escape escaped pattern ++ ['$']).head? ≠ some '*' := by
  induction pattern generalizing escaped with
  | nil =>
    cases escaped with
    | false => simp [regexFrom]
    | true => exact head_regexLiteral _ _
  | cons c pattern ih =>
    cases escaped with
    | true =>
      rw [regexFrom, List.append_assoc]
      exact head_regexLiteral _ _
    | false =>
      rw [regexFrom]
      split
      · exact ih true
      split
      · simp
      split
      · simp
      · rw [List.append_assoc]
        exact head_regexLiteral _ _

private theorem regexParts_from (escaped : Bool) (pattern : List Char) :
    regexParts (regexFrom escape escaped pattern ++ ['$']) =
      some (partsFrom escape false (if escaped then .escaped else .outside) pattern) := by
  induction pattern generalizing escaped with
  | nil =>
    cases escaped with
    | false => rfl
    | true =>
      rw [regexFrom, regexParts_literal]
      rfl
  | cons c pattern ih =>
    have plain := ih false
    cases escaped with
    | true =>
      rw [regexFrom, List.append_assoc, regexParts_literal, plain]
      rfl
    | false =>
      rw [regexFrom]
      simp only [Bool.false_eq_true, if_false, partsFrom] at plain ⊢
      split
      · exact ih true
      split
      · rw [List.append_assoc, regexParts_anyText, plain]
        rfl
      split
      · rw [List.append_assoc, regexParts_anyOne (head_regexFrom _ _), plain]
        rfl
      · rw [List.append_assoc, regexParts_literal, plain]
        rfl

/-- The expression matches what the pattern matches, except for a final line feed. -/
theorem like_regex_iff (same : Char → Char → Prop) (pattern : List Char) (escape : Char)
    (negated insensitive : Bool) (subject : List Char) :
    (RegexMatches same (likeRegexSelector pattern escape negated insensitive).regex subject ↔
        Matches same (partsFrom escape false .outside pattern) subject) ↔
      ∀ front, subject = front ++ ['\n'] →
        Matches same (partsFrom escape false .outside pattern) front →
        Matches same (partsFrom escape false .outside pattern) subject := by
  have read : readRegex (likeRegexSelector pattern escape negated insensitive).regex =
      some (partsFrom escape false .outside pattern) := regexParts_from false pattern
  constructor
  · intro agree front ends fits
    exact agree.mp ⟨_, read, .inr ⟨front, ends, fits⟩⟩
  intro ends
  constructor
  · rintro ⟨parts, found, fits⟩
    obtain rfl := Option.some.inj (read.symm.trans found)
    rcases fits with fits | ⟨front, isEnd, fits⟩
    · exact fits
    · exact ends front isEnd fits
  · intro fits
    exact ⟨_, read, .inl fits⟩

end Matching

/-- A line feed behind the text is not seen. -/
theorem like_regex_overlooks_newline :
    RegexMatches Eq (likeRegexSelector ['a'] '\\' false false).regex ['a', '\n'] ∧
      ¬ Matches Eq (partsFrom '\\' false .outside ['a']) ['a', '\n'] := by
  refine ⟨⟨[.literal 'a'], by decide, .inr ⟨['a'], rfl, by simp [Matches]⟩⟩, ?_⟩
  simp [partsFrom, Matches]

end Bookie.Mongodb
