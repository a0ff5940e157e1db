/-
Labels of MySQL's ENUM and SET types. The catalog gives a column's type as text; the
driver adds attributes to it, and the editor reads the labels out of the result.
-/

import Bookie.Text.Find
import Bookie.Text.Chars

namespace Bookie.Mysql

open Text List

def containsText (text : List Char) (needle : String) : Bool := (find needle.toList text).isSome

def withInvisible (columnType extra : List Char) : List Char :=
  if containsText extra "invisible" then columnType ++ " INVISIBLE".toList else columnType

def isSimpleName (name : List Char) : Bool :=
  name.head?.any (fun first => first.isAlpha || first == '_') &&
    name.all fun c => c.isAlphanum || c == '_'

/-- The loop that takes the backquotes off, `fuel` bounding its turns. -/
def takeBackquotesOff : (fuel : Nat) → (rest : List Char) → Option (List Char)
  | 0, _ => none
  | fuel + 1, rest =>
    match rest.findIdx? (· == '`') with
    | none => some rest
    | some start => do
      let tail := rest.drop (start + 1)
      let stop ← tail.findIdx? (· == '`')
      if isSimpleName (tail.take stop) then
        let behind ← takeBackquotesOff fuel (tail.drop (stop + 1))
        some (rest.take start ++ tail.take stop ++ behind)
      else none

def unquotedSimpleExpression (expression : List Char) : Option (List Char) := do
  let plain ← takeBackquotesOff (expression.length + 1) expression
  if (plain.any fun c => c == ';' || c == '"' || c == '\\' || c == '`') ||
      containsText plain "--" || containsText plain "/*" || containsText plain "*/" then none
  else some plain

def withGeneration (columnType : List Char) (expression : Option (List Char))
    (extra : List Char) : List Char :=
  match (expression.filter (!·.isEmpty)).bind unquotedSimpleExpression with
  | none => columnType
  | some plain =>
    let storage := if containsText extra "stored generated" then "STORED" else "VIRTUAL"
    columnType ++ " GENERATED ALWAYS AS (".toList ++ plain ++ ") ".toList ++ storage.toList

/-- The data type of `row_to_column_info`. -/
def reportedType (columnType extra : List Char) (generation : Option (List Char)) : List Char :=
  let extra := extra.map Char.toLower
  withGeneration (withInvisible columnType extra) generation extra

def unescaped : Char → Char
  | '0' => '\x00'
  | 'b' => '\x08'
  | 'n' => '\n'
  | 'r' => '\r'
  | 't' => '\t'
  | 'Z' => '\x1a'
  | other => other

mutual

def expectLabel : List Char → Option (List (List Char))
  | [] => none
  | c :: rest =>
    if isWhitespace c then expectLabel rest
    else if c = '\'' then insideLabel [] rest else none

def insideLabel (label : List Char) : List Char → Option (List (List Char))
  | [] => none
  | '\\' :: [] => none
  | '\\' :: escaped :: rest => insideLabel (label ++ [unescaped escaped]) rest
  | '\'' :: '\'' :: rest => insideLabel (label ++ ['\'']) rest
  | '\'' :: rest => (behindLabel rest).map (label :: ·)
  | c :: rest => insideLabel (label ++ [c]) rest

def behindLabel : List Char → Option (List (List Char))
  | [] => some []
  | c :: rest =>
    if isWhitespace c then behindLabel rest else if c = ',' then expectLabel rest else none

end

def parseMemberList (dataType : List Char) : Option (List (List Char)) := do
  let opening ← dataType.findIdx? (· == '(')
  let members := dataType.drop (opening + 1)
  if members.getLast? = some ')' then expectLabel members.dropLast else none

def declaredMemberLabels (dataType : List Char) : Option (List (List Char)) := do
  let opening ← dataType.findIdx? (· == '(')
  let kind := (trimmed (dataType.take opening)).map Char.toLower
  if kind ≠ "enum".toList ∧ kind ≠ "set".toList then none else parseMemberList dataType

inductive MemberKind where
  | enum
  | set

def MemberKind.name : MemberKind → List Char
  | .enum => "enum".toList
  | .set => "set".toList

def escapeLabelChar (c : Char) : List Char :=
  if c = '\'' then ['\'', '\''] else if c = '\\' then ['\\', '\\']
  else if c = '\x00' then ['\\', '0'] else if c = '\n' then ['\\', 'n']
  else if c = '\r' then ['\\', 'r'] else [c]

def labelText (label : List Char) : List Char := '\'' :: (label.flatMap escapeLabelChar ++ ['\''])

def memberType (kind : MemberKind) (labels : List (List Char)) : List Char :=
  kind.name ++ '(' :: ([','].intercalate (labels.map labelText) ++ [')'])

private theorem insideLabel_escaped (front label : List Char) {behind : List Char}
    (ends : behind.head? ≠ some '\'') :
    insideLabel front (label.flatMap escapeLabelChar ++ '\'' :: behind) =
      (behindLabel behind).map ((front ++ label) :: ·) := by
  induction label generalizing front with
  | nil =>
    cases behind with
    | nil => simp [insideLabel]
    | cons c behind =>
      have other : c ≠ '\'' := fun same => ends (by rw [same]; rfl)
      simp [insideLabel, other]
  | cons c label ih =>
    rw [flatMap_cons, escapeLabelChar]
    split_ifs <;> simp_all [insideLabel, unescaped]

private theorem expectLabel_quoted (label behind : List Char) (ends : behind.head? ≠ some '\'') :
    expectLabel (labelText label ++ behind) = (behindLabel behind).map (label :: ·) := by
  have opened := insideLabel_escaped [] label ends
  rw [labelText, cons_append, append_assoc]
  exact opened

private theorem expectLabel_texts (label : List Char) (labels : List (List Char)) :
    expectLabel ([','].intercalate ((label :: labels).map labelText)) = some (label :: labels) := by
  induction labels generalizing label with
  | nil =>
    have last := expectLabel_quoted label [] (by simp)
    simpa [behindLabel] using last
  | cons next labels ih =>
    have split : [','].intercalate ((label :: next :: labels).map labelText) =
        labelText label ++ ',' :: [','].intercalate ((next :: labels).map labelText) := by
      simp [intercalate]
    have comma : behindLabel (',' :: [','].intercalate ((next :: labels).map labelText)) =
        some (next :: labels) := by
      exact ih next
    rw [split, expectLabel_quoted label _ (by simp), comma]
    rfl

variable (kind : MemberKind)

private theorem findIdx_opening (behind : List Char) :
    (kind.name ++ '(' :: behind).findIdx? (· == '(') = some kind.name.length := by
  cases kind <;> simp [MemberKind.name, findIdx?_cons]

private theorem declaredMemberLabels_kind (behind : List Char) :
    declaredMemberLabels (kind.name ++ '(' :: behind) =
      if behind.getLast? = some ')' then expectLabel behind.dropLast else none := by
  have isKind : (trimmed kind.name).map Char.toLower = "enum".toList ∨
      (trimmed kind.name).map Char.toLower = "set".toList := by
    cases kind <;> decide
  simp only [declaredMemberLabels, parseMemberList, findIdx_opening]
  rcases isKind with same | same <;> simp [same]

/-- The labels are recovered unless the column is an invisible one. -/
theorem labels_recovered_iff {labels : List (List Char)} (nonempty : labels ≠ [])
    (extra : List Char) {generation : Option (List Char)}
    (plain : generation.all List.isEmpty = true) :
    declaredMemberLabels (reportedType (memberType kind labels) extra generation) = some labels ↔
      containsText (extra.map Char.toLower) "invisible" = false := by
  have reported : reportedType (memberType kind labels) extra generation =
      withInvisible (memberType kind labels) (extra.map Char.toLower) := by
    have none : generation.filter (!·.isEmpty) = none := by
      cases generation with
      | none => rfl
      | some text =>
        have empty : text.isEmpty = true := plain
        simp [Option.filter, empty]
    rw [reportedType, withGeneration, none]
    rfl
  obtain ⟨label, others, rfl⟩ := exists_cons_of_ne_nil nonempty
  rw [reported, withInvisible]
  cases containsText (extra.map Char.toLower) "invisible" with
  | false =>
    have read := expectLabel_texts label others
    rw [if_neg Bool.false_ne_true, memberType, declaredMemberLabels_kind]
    simpa using read
  | true =>
    rw [if_pos rfl, memberType, append_assoc, cons_append, declaredMemberLabels_kind]
    simp

theorem labels_of_colours :
    declaredMemberLabels (reportedType (memberType .enum ["it's".toList, "a\\b\n".toList])
      "on update".toList none) = some ["it's".toList, "a\\b\n".toList] :=
  (labels_recovered_iff .enum (by simp) _ rfl).mpr (by decide)

theorem labels_of_invisible :
    declaredMemberLabels (reportedType (memberType .enum ["red".toList]) "INVISIBLE".toList none) =
      none := by
  decide

end Bookie.Mysql
