/-
LIKE patterns. A pattern is read as parts, with an escape character in front of what
is meant literally and, on SQL Server, with classes in brackets. The patterns that
text filters bind match their text literally, whatever characters it has.
-/

import Bookie.Sql.Literal

namespace Bookie.Sql.Like

open List

inductive Part where
  | literal (c : Char)
  | anyOne
  | anyText
  | oneOf (negated : Bool) (ranges : List (Char × Char))
  deriving DecidableEq, Repr

def rangesOf : List Char → List (Char × Char)
  | [] => []
  | low :: '-' :: high :: more => (low, high) :: rangesOf more
  | c :: more => (c, c) :: rangesOf more

def classOf : List Char → Part
  | '^' :: inside => .oneOf true (rangesOf inside)
  | inside => .oneOf false (rangesOf inside)

/-- Where in a pattern a character stands. -/
inductive Place where
  | outside
  | escaped
  | inClass (inside : List Char)
  deriving DecidableEq, Repr

/-- The parts from here on. A class that is not closed matches nothing. -/
def partsFrom (escape : Char) (classes : Bool) : Place → List Char → List Part
  | .outside, [] => []
  | .escaped, [] => [.literal escape]
  | .inClass _, [] => [.oneOf false []]
  | .escaped, c :: pattern => .literal c :: partsFrom escape classes .outside pattern
  | .inClass inside, c :: pattern =>
    if c = ']' then classOf inside :: partsFrom escape classes .outside pattern
    else partsFrom escape classes (.inClass (inside ++ [c])) pattern
  | .outside, c :: pattern =>
    if c = escape then partsFrom escape classes .escaped pattern
    else if c = '%' then .anyText :: partsFrom escape classes .outside pattern
    else if c = '_' then .anyOne :: partsFrom escape classes .outside pattern
    else if classes ∧ c = '[' then partsFrom escape classes (.inClass []) pattern
    else .literal c :: partsFrom escape classes .outside pattern

section Matching

-- which characters the engine takes for equal
variable (same : Char → Char → Prop)

def Matches : List Part → List Char → Prop
  | [], subject => subject = []
  | .literal c :: parts, subject => ∃ d rest, subject = d :: rest ∧ same c d ∧ Matches parts rest
  | .anyOne :: parts, subject => ∃ d rest, subject = d :: rest ∧ Matches parts rest
  | .anyText :: parts, subject => ∃ front rest, subject = front ++ rest ∧ Matches parts rest
  | .oneOf negated ranges :: parts, subject =>
    ∃ d rest, subject = d :: rest ∧
      (ranges.any fun range => range.1 ≤ d && d ≤ range.2) ≠ negated ∧ Matches parts rest

end Matching

inductive TextOp where
  | contains
  | startsWith
  | endsWith
  deriving DecidableEq, Repr

def likeNeedsEscapeClause (driverId : String) : Bool :=
  driverId == "sqlite" || driverId == "duckdb" || driverId == "mssql"

def escapeClause (driverId : String) : Option Char :=
  if driverId = "mysql" then some '|'
  else if likeNeedsEscapeClause driverId then some '\\' else none

/-- Without a clause the backslash escapes. -/
def escapeOf (driverId : String) : Char := (escapeClause driverId).getD '\\'

def escapeLike (driverId : String) (text : List Char) : List Char :=
  if driverId = "mysql" then
    replaceChar '_' ['|', '_'] (replaceChar '%' ['|', '%'] (replaceChar '|' ['|', '|'] text))
  else
    let escaped := replaceChar '_' ['\\', '_'] (replaceChar '%' ['\\', '%']
      (replaceChar '\\' ['\\', '\\'] text))
    if driverId = "mssql" then replaceChar '[' ['\\', '['] escaped else escaped

def patternFor (driverId : String) (op : TextOp) (text : List Char) : List Char :=
  match op with
  | .contains => '%' :: (escapeLike driverId text ++ ['%'])
  | .startsWith => escapeLike driverId text ++ ['%']
  | .endsWith => '%' :: escapeLike driverId text

def partsFor (driverId : String) (pattern : List Char) : List Part :=
  partsFrom (escapeOf driverId) (driverId == "mssql") .outside pattern

def TextOp.Holds (text subject : List Char) : TextOp → Prop
  | .contains => text <:+: subject
  | .startsWith => text <+: subject
  | .endsWith => text <:+ subject

def marked (escape : Char) (special text : List Char) : List Char :=
  text.flatMap fun c => if c ∈ special then [escape, c] else [c]

variable {escape : Char} {special text : List Char}

private theorem marked_cons (c : Char) : marked escape special (c :: text) =
    (if c ∈ special then [escape, c] else [c]) ++ marked escape special text :=
  flatMap_cons

/-- A character that is not marked yet and marks nothing is replaced where it stands. -/
private theorem replaceChar_marked {d : Char} (fresh : d ∉ special) (other : escape ≠ d) :
    replaceChar d [escape, d] (marked escape special text) = marked escape (d :: special) text := by
  induction text with
  | nil => rfl
  | cons c text ih =>
    rw [marked_cons, marked_cons, replaceChar_append, ih]
    by_cases known : c ∈ special
    · have apart : c ≠ d := fun same => fresh (same ▸ known)
      simp [known, replaceChar, other, apart]
    · by_cases here : c = d
      · simp [here, fresh, replaceChar]
      · simp [known, here, replaceChar]

private theorem replaceChar_escape :
    replaceChar escape [escape, escape] text = marked escape [escape] text := by
  rw [replaceChar]
  congr 1
  funext c
  by_cases same : c = escape <;> simp [same]

def specials (driverId : String) : List Char :=
  if driverId = "mysql" then ['_', '%', '|']
  else if driverId = "mssql" then ['[', '_', '%', '\\'] else ['_', '%', '\\']

private theorem escapeOf_other {driverId : String} (other : driverId ≠ "mysql") :
    escapeOf driverId = '\\' := by
  rw [escapeOf, escapeClause, if_neg other]
  split <;> rfl

private theorem escapeLike_eq (driverId : String) :
    escapeLike driverId text = marked (escapeOf driverId) (specials driverId) text := by
  by_cases mysql : driverId = "mysql"
  · subst mysql
    rw [escapeLike, replaceChar_escape, replaceChar_marked (by decide) (by decide),
      replaceChar_marked (by decide) (by decide)]
    rfl
  rw [escapeLike, if_neg mysql, escapeOf_other mysql, replaceChar_escape,
    replaceChar_marked (by decide) (by decide), replaceChar_marked (by decide) (by decide),
    specials]
  split
  · exact replaceChar_marked (by decide) (by decide)
  · rfl

private theorem specials_spec (driverId : String) :
    (escapeOf driverId ∈ specials driverId ∧ '%' ∈ specials driverId ∧ '_' ∈ specials driverId) ∧
      ((driverId == "mssql") = true → '[' ∈ specials driverId) ∧ '%' ≠ escapeOf driverId := by
  by_cases mysql : driverId = "mysql"
  · subst mysql
    decide
  · rw [escapeOf_other mysql, specials, if_neg mysql]
    by_cases mssql : driverId = "mssql" <;> simp [mssql]

/-- Marked text is read as itself. -/
private theorem partsFrom_marked {classes : Bool}
    (marks : escape ∈ special ∧ '%' ∈ special ∧ '_' ∈ special)
    (bracket : classes = true → '[' ∈ special) (pattern : List Char) :
    partsFrom escape classes .outside (marked escape special text ++ pattern) =
      text.map .literal ++ partsFrom escape classes .outside pattern := by
  induction text with
  | nil => rfl
  | cons c text ih =>
    rw [marked_cons, append_assoc, map_cons, cons_append, ← ih]
    by_cases known : c ∈ special
    · rw [if_pos known, cons_append, cons_append, nil_append, partsFrom, if_pos rfl, partsFrom]
    have apart {d : Char} (member : d ∈ special) : c ≠ d := fun same => known (same ▸ member)
    have open' : ¬ (classes = true ∧ c = '[') := fun both => apart (bracket both.1) both.2
    rw [if_neg known, singleton_append, partsFrom, if_neg (apart marks.1),
      if_neg (apart marks.2.1), if_neg (apart marks.2.2), if_neg open']

private theorem matches_literals {parts : List Part} {subject : List Char} :
    Matches Eq (text.map .literal ++ parts) subject ↔
      ∃ rest, subject = text ++ rest ∧ Matches Eq parts rest := by
  induction text generalizing subject with
  | nil => simp
  | cons c text ih =>
    rw [map_cons, cons_append, Matches]
    simp only [ih]
    constructor
    · rintro ⟨_, _, rfl, rfl, rest, rfl, behind⟩
      exact ⟨rest, rfl, behind⟩
    · rintro ⟨rest, rfl, behind⟩
      exact ⟨c, text ++ rest, rfl, rfl, rest, rfl, behind⟩

/-- **Text filters match literally.** -/
theorem pattern_matches_iff (driverId : String) (op : TextOp) (text subject : List Char) :
    Matches Eq (partsFor driverId (patternFor driverId op text)) subject ↔
      op.Holds text subject := by
  obtain ⟨marks, bracket, other⟩ := specials_spec driverId
  have percent (pattern : List Char) :
      partsFor driverId ('%' :: pattern) = .anyText :: partsFor driverId pattern := by
    rw [partsFor, partsFrom, if_neg other, if_pos rfl, partsFor]
  have inside (pattern : List Char) : partsFor driverId (escapeLike driverId text ++ pattern) =
      text.map .literal ++ partsFor driverId pattern := by
    rw [escapeLike_eq]
    exact partsFrom_marked marks bracket pattern
  have alone := inside []
  rw [append_nil] at alone
  cases op with
  | contains =>
    rw [patternFor, percent, inside, percent]
    simp only [Matches, matches_literals]
    constructor
    · rintro ⟨front, _, rfl, _, rfl, back, _, rfl, rfl⟩
      exact ⟨front, back, by simp⟩
    · rintro ⟨front, back, rfl⟩
      exact ⟨front, text ++ back, by simp, back, rfl, back, [], by simp, rfl⟩
  | startsWith =>
    rw [patternFor, inside, percent]
    simp only [matches_literals]
    constructor
    · rintro ⟨_, rfl, back, _, rfl, rfl⟩
      exact ⟨back, by simp⟩
    · rintro ⟨back, rfl⟩
      exact ⟨back, rfl, back, [], by simp, rfl⟩
  | endsWith =>
    rw [patternFor, percent, alone]
    simp only [Matches, matches_literals]
    constructor
    · rintro ⟨front, _, rfl, _, rfl, rfl⟩
      exact ⟨front, by simp⟩
    · rintro ⟨front, rfl⟩
      exact ⟨front, text, rfl, [], by simp, rfl⟩

end Bookie.Sql.Like
