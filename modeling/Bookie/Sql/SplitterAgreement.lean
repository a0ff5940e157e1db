/-
The two splitters on PostgreSQL. Where no construct stands at which they part, they
find the same semicolons; where one does, a statement of the one can be inside a
string of the other.
-/

import Bookie.Sql.SplitterTokens

namespace Bookie.Sql

open Script Text List

/-- The script lexer on PostgreSQL text, with some of it read. -/
def postgresLexer (text before : List Char) (missing : Missing) : Lexer :=
  { bytes := encode text
    lexical := postgresqlRules.lexical
    settings := .defaultFor .postgreSql
    pos := (encode before).length
    missingHeredocClosers := missing }

def postgresTokens (text : List Char) : List ScriptToken :=
  lexScript text .postgreSql (.defaultFor .postgreSql) none

def scriptSemicolons (tokens : List ScriptToken) : List Nat :=
  (tokens.filter fun token => token.kind = .semicolon).map ScriptToken.start

/-- Every token of the text is one at which the two splitters stay in step. -/
def AllInStep (alphanumeric : Char → Bool) (text : List Char) (tokens : List ScriptToken) : Prop :=
  ∀ kind before front back, text = before ++ (front ++ back) →
    ⟨kind, (encode before).length, (encode before).length + (encode front).length⟩ ∈ tokens →
    InStep alphanumeric kind before.getLast? front back

section Texts

variable {alphanumeric : Char → Bool} {text : List Char} {before rest : List Char}

private theorem postgresLexer_rest (missing : Missing) (whole : text = before ++ rest) :
    (postgresLexer text before missing).rest = encode rest := by
  rw [Lexer.rest, postgresLexer, whole, encode_append, drop_left]

private theorem nextToken_nil {before : List Char} (missing : Missing) (whole : text = before) :
    (postgresLexer text before missing).nextToken none = none := by
  rw [Lexer.nextToken, postgresLexer_rest missing (whole.trans (append_nil before).symm)]
  rfl

private theorem nextToken_cons (missing : Missing) (whole : text = before ++ rest) {first : UInt8}
    {bytes : List UInt8} (left : encode rest = first :: bytes) :
    ∃ missing', (postgresLexer text before missing).nextToken none =
      some (tokenAt missing first (encode rest),
        { postgresLexer text before missing with
          pos := (encode before).length + (tokenAt missing first (encode rest)).length
          missingHeredocClosers := missing' }) := by
  refine ⟨(lexAt postgresqlRules.lexical (.defaultFor .postgreSql) missing none first
    (encode rest)).2, ?_⟩
  rw [Lexer.nextToken, postgresLexer_rest missing whole, left]
  rfl

private theorem semicolonsFrom_tokens
    (letters : ∀ c, c.toNat < 128 → alphanumeric c = isAsciiLetterOrDigit c)
    (count : Nat) {before rest : List Char} (missing : Missing)
    (whole : text = before ++ rest) (enough : (encode rest).length ≤ count)
    (apart : Apart before rest)
    (inStep : AllInStep alphanumeric text ((postgresLexer text before missing).tokens none count)) :
    semicolonsFrom alphanumeric "postgres" rest 0 before.getLast? (encode before).length =
      scriptSemicolons ((postgresLexer text before missing).tokens none count) := by
  -- every token has a byte, so there are enough tokens for the bytes left
  induction count generalizing before rest missing with
  | zero =>
    cases rest with
    | nil => rfl
    | cons c rest =>
      obtain ⟨first, bytes, left⟩ := encode_cons_shape c rest
      rw [left] at enough
      exact absurd enough (Nat.not_succ_le_zero _)
  | succ count ih =>
    cases rest with
    | nil =>
      rw [Lexer.tokens, nextToken_nil missing (whole.trans (append_nil before))]
      rfl
    | cons c rest =>
    obtain ⟨first, bytes, left⟩ := encode_cons_shape c rest
    obtain ⟨missing', next⟩ := nextToken_cons missing whole left
    rw [Lexer.tokens, next] at inStep ⊢
    have notWord : c = '$' → ∀ last, before.getLast? = some last →
        isWordChar last = true → last = '$' := by
      rintro rfl last isLast part
      by_contra other
      exact absurd (apart last isLast part other '$' rfl) (by decide)
    obtain ⟨front, back, agrees⟩ := @agrees_token alphanumeric c rest
      before.getLast? (encode before).length missing letters first bytes left
      (fun front back split length => inStep _ _ _ _ (by rw [whole, split])
        (by rw [length]; exact mem_cons_self)) notWord
    have position : (encode before).length +
        (tokenAt missing first (encode (c :: rest))).length =
        (encode (before ++ front)).length := by
      rw [encode_append, length_append, agrees.length]
    have after : Apart (before ++ front) back := by
      intro last isLast
      rw [getLast?_append_of_ne_nil _ agrees.nonempty] at isLast
      exact agrees.apart last isLast
    have fewer : (encode back).length ≤ count := by
      have positive : 0 < (encode front).length := by
        cases front with
        | nil => exact absurd rfl agrees.nonempty
        | cons d front =>
          obtain ⟨byte, more, shape⟩ := encode_cons_shape d front
          rw [shape]
          exact Nat.zero_lt_succ _
      rw [agrees.split, encode_append, length_append] at enough
      omega
    have others := ih missing' (by rw [whole, agrees.split, append_assoc]) fewer after (by
        intro kind front' back' before' split member
        apply inStep kind front' back' before' split
        rw [position]
        exact mem_cons_of_mem _ member)
    rw [agrees.same, position]
    rw [getLast?_append_of_ne_nil _ agrees.nonempty] at others
    rw [others, scriptSemicolons, scriptSemicolons, filter_cons]
    split
    · rename_i semicolon
      rw [if_pos (decide_eq_true semicolon)]
      rfl
    · rename_i other
      rw [if_neg (by rw [decide_eq_true_eq]; exact other)]
      rfl

/-- Where every token is in step, the policy rules cut a text at the semicolons at which
the editor does. -/
theorem topLevelSemicolons_eq_script_of_inStep (text : List Char)
    (letters : ∀ c, c.toNat < 128 → alphanumeric c = isAsciiLetterOrDigit c)
    (inStep : AllInStep alphanumeric text (postgresTokens text)) :
    topLevelSemicolons alphanumeric text "postgres" = scriptSemicolons (postgresTokens text) := by
  rw [topLevelSemicolons, statementSpans, spansFrom_semicolons]
  exact @semicolonsFrom_tokens alphanumeric text letters (encode text).length [] text [] rfl
    Nat.le.refl (by intro last isLast; cases isLast) inStep

/-- Without a dollar sign and a backslash, nothing keeps the two apart. -/
private theorem allInStep_of_plain (noDollar : '$' ∉ text) (noBackslash : '\\' ∉ text)
    (tokens : List ScriptToken) : AllInStep alphanumeric text tokens := by
  intro kind before front back whole _
  have inFront : '$' ∉ front := by
    intro member
    apply noDollar
    rw [whole]
    simp [member]
  constructor
  · intro _
    constructor
    · intro _ _ _ member
      apply noBackslash
      rw [whole]
      simp [mem_of_mem_take member]
    · intro left c right split
      exact absurd (by rw [split]; simp) inFront
  · intro starts
    exact absurd (mem_of_mem_head? starts) inFront

theorem topLevelSemicolons_eq_script_quoted :
    AllInStep isAsciiLetterOrDigit "SELECT ';'; BEGIN;".toList
        (postgresTokens "SELECT ';'; BEGIN;".toList) ∧
      topLevelSemicolons isAsciiLetterOrDigit "SELECT ';'; BEGIN;".toList "postgres" = [10, 17] ∧
      topLevelSemicolons isAsciiLetterOrDigit "SELECT ';'; BEGIN;".toList "postgres" =
        scriptSemicolons (postgresTokens "SELECT ';'; BEGIN;".toList) :=
  ⟨allInStep_of_plain (by decide) (by decide) _, by decide,
    topLevelSemicolons_eq_script_of_inStep _ (fun _ _ => rfl)
      (allInStep_of_plain (by decide) (by decide) _)⟩

/-- The constructs at which they part: a string with a backslash behind a word that ends in
an `e`, a tag outside ASCII, a dollar quote behind a character that is no letter, and one
behind another. In the first, the editor runs a `BEGIN` that the policy rules take as part
of a string. -/
theorem splitters_disagree :
    let alphanumeric := fun c => isAsciiLetterOrDigit c || c == 'é'
    let semicolons := fun text : String =>
      (topLevelSemicolons alphanumeric text.toList "postgres",
        scriptSemicolons (postgresTokens text.toList))
    semicolons "SELECT date'\\'; BEGIN; --'" = ([], [14, 21]) ∧
      semicolons "SELECT $é$;$é$;" = ([11, 16], [16]) ∧
      semicolons "SELECT €$$;$$;" = ([15], [12]) ∧
      semicolons "SELECT $$a$$$$;$$;" = ([14], [17]) := by
  refine ⟨?_, ?_, ?_, ?_⟩ <;> decide

end Texts

end Bookie.Sql
