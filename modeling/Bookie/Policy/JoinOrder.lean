/-
Joining decisions in any order. The key by which the decisions of one severity are sorted
separates any two of them, so that sorting and dropping repetitions leaves one list for
one set of decisions.
-/

import Bookie.Policy.Verdict

namespace Bookie.Policy

open List

section Canonical

variable {α : Type} [DecidableEq α] {rel : α → α → Prop} {values others : List α}

/-- Dropping the repetitions of a sorted list leaves its values in strict order. -/
private theorem destutter_sorted (sorted : values.Pairwise rel)
    (apart : ∀ left ∈ values, ∀ right ∈ values, rel left right → rel right left → left = right) :
    (values.destutter (· ≠ ·)).Pairwise (fun left right => rel left right ∧ ¬ rel right left) ∧
      ∀ value, value ∈ values.destutter (· ≠ ·) ↔ value ∈ values := by
  cases values with
  | nil => simp
  | cons first rest =>
    rw [destutter_cons']
    induction rest generalizing first with
    | nil => simp
    | cons next rest ih =>
      have follows := pairwise_cons.mp sorted
      rw [destutter'_cons]
      split
      · rename_i differ
        have after := ih next follows.2 (by grind)
        refine ⟨pairwise_cons.mpr ⟨fun value member => ?_, after.1⟩, by grind⟩
        have later := (after.2 value).mp member
        refine ⟨follows.1 value later, fun back => ?_⟩
        obtain rfl := apart first (by simp) value (by simp [later]) (follows.1 value later) back
        rcases mem_cons.mp later with same | beyond
        · exact differ same
        · exact differ (apart first (by simp) next (by simp) (follows.1 next (by simp))
            ((pairwise_cons.mp follows.2).1 first beyond))
      · have after := ih first (by grind) (by grind)
        exact ⟨after.1, by grind⟩

private theorem canonical_congr [DecidableRel rel] [Std.Total rel] [IsTrans α rel]
    (apart : ∀ left ∈ values, ∀ right ∈ values, rel left right → rel right left → left = right)
    (same : ∀ value, value ∈ others ↔ value ∈ values) :
    (others.insertionSort rel).destutter (· ≠ ·) =
      (values.insertionSort rel).destutter (· ≠ ·) := by
  have strict : Std.Irrefl fun left right => rel left right ∧ ¬ rel right left :=
    ⟨fun _ both => both.2 both.1⟩
  have asymm : Std.Antisymm fun left right => rel left right ∧ ¬ rel right left :=
    ⟨fun _ _ less more => absurd more.1 less.2⟩
  have left := destutter_sorted (pairwise_insertionSort rel others)
    (by simpa only [mem_insertionSort, same] using apart)
  have right := destutter_sorted (pairwise_insertionSort rel values)
    (by simpa only [mem_insertionSort] using apart)
  refine left.1.eq_of_mem_iff right.1 fun value => ?_
  rw [left.2, right.2, mem_insertionSort, mem_insertionSort, same]

end Canonical

/-! ### The `Debug` text of a string -/

variable {printable : Char → Bool}

private theorem escape_of_lookup {c mark : Char} (found : debugEscapes.lookup c = some mark) :
    (c, mark) ∈ debugEscapes := by
  obtain ⟨before, after, split, -⟩ := lookup_eq_some_iff.mp found
  simp [split]

private theorem hex_plain {c : Char} {number : Nat}
    (member : c ∈ (Nat.digits 16 number).reverse.map Nat.digitChar) : c ≠ '\x7d' ∧ c ≠ '"' := by
  obtain ⟨digit, isDigit, rfl⟩ := mem_map.mp member
  have plain : ∀ digit < 16, digit.digitChar ≠ '\x7d' ∧ digit.digitChar ≠ '"' := by decide
  exact plain digit (Nat.digits_lt_base (by decide) (mem_reverse.mp isDigit))

private theorem hex_injective {first second : Nat}
    (same : (Nat.digits 16 first).reverse.map Nat.digitChar =
      (Nat.digits 16 second).reverse.map Nat.digitChar) : first = second := by
  let value (c : Char) : Nat := ((range 16).map Nat.digitChar).idxOf c
  have read : ∀ digit < 16, value digit.digitChar = digit := by decide
  have whole (number : Nat) : (((Nat.digits 16 number).reverse.map Nat.digitChar).map value) =
      (Nat.digits 16 number).reverse := by
    rw [map_map]
    refine (map_congr_left fun digit member => ?_).trans (map_id _)
    exact read digit (Nat.digits_lt_base (by decide) (mem_reverse.mp member))
  have digits := congrArg (map value) same
  rw [whole, whole] at digits
  exact Nat.digits_inj_iff.mp (reverse_injective digits)

/-- No escape is the beginning of another one. -/
private theorem escapeDebug_append {c d : Char} {first second : List Char}
    (same : escapeDebug printable c ++ first = escapeDebug printable d ++ second) :
    c = d ∧ first = second := by
  have marks : ∀ one ∈ debugEscapes, one.2 ≠ 'u' ∧ ∀ other ∈ debugEscapes,
      one.2 = other.2 → one.1 = other.1 := by decide
  have unescaped {c : Char} (plain : debugEscapes.lookup c = none) : c ≠ '\\' := by
    rintro rfl
    cases plain
  unfold escapeDebug at same
  cases left : debugEscapes.lookup c with
  | some mark =>
    have marked := marks _ (escape_of_lookup left)
    cases right : debugEscapes.lookup d with
    | some other =>
      simp [left, right] at same
      exact ⟨marked.2 _ (escape_of_lookup right) same.1, same.2⟩
    | none =>
      have plain := unescaped right
      simp only [left, right] at same
      split at same <;> simp [marked.1, plain.symm] at same
  | none =>
    have plain := unescaped left
    cases right : debugEscapes.lookup d with
    | some other =>
      have marked := marks _ (escape_of_lookup right)
      simp only [left, right] at same
      split at same <;> simp [marked.1.symm, plain] at same
    | none =>
      have plainOther := unescaped right
      simp only [left, right] at same
      split at same <;> split at same <;> simp [plain, plainOther.symm] at same
      · exact same
      -- both in hexadecimal, up to the closing brace
      have split (digits tail : List Char) (inside : ∀ digit ∈ digits, digit ≠ '\x7d') :
          (digits ++ '\x7d' :: tail).takeWhile (· != '\x7d') = digits := by
        have kept : ∀ digit ∈ digits, (digit != '\x7d') = true := by simpa using inside
        simp [takeWhile_append_of_pos kept]
      have digits := congrArg (takeWhile (· != '\x7d')) same
      simp only [← map_reverse] at digits same
      rw [split _ _ fun _ member => (hex_plain member).1,
        split _ _ fun _ member => (hex_plain member).1] at digits
      rw [digits] at same
      exact ⟨Char.toNat_inj.mp (hex_injective digits), by simpa using same⟩

private theorem escapeDebug_ne_nil (c : Char) : escapeDebug printable c ≠ [] := by
  unfold escapeDebug
  split
  · simp
  · split <;> simp

private theorem debugString_injective : Function.Injective (debugString printable) := by
  intro first second same
  have inside : first.toList.flatMap (escapeDebug printable) =
      second.toList.flatMap (escapeDebug printable) := by
    simpa [debugString] using congrArg String.toList same
  refine String.toList_inj.mp ?_
  generalize first.toList = first, second.toList = second at inside
  induction first generalizing second with
  | nil => cases second <;> simp_all [escapeDebug_ne_nil]
  | cons c first ih =>
    cases second with
    | nil => simp [escapeDebug_ne_nil] at inside
    | cons d second =>
      obtain ⟨rfl, rest⟩ := escapeDebug_append (by simpa using inside)
      rw [ih second rest]

/-- Within the quotes, a backslash stands before every quote. -/
private theorem quote_escaped {text front rest : List Char}
    (split : text.flatMap (escapeDebug printable) = front ++ '"' :: rest) :
    ∃ start, front = start ++ ['\\'] := by
  induction text generalizing front with
  | nil => simp at split
  | cons c text ih =>
    rw [flatMap_cons] at split
    rcases append_eq_append_iff.mp split with ⟨later, rfl, after⟩ | ⟨inner, here, after⟩
    · obtain ⟨start, rfl⟩ := ih after
      exact ⟨escapeDebug printable c ++ start, by simp⟩
    cases inner with
    | nil =>
      obtain ⟨start, none⟩ := @ih [] (by simpa using after.symm)
      simp at none
    | cons quote inner =>
      obtain rfl : '"' = quote := by simpa using congrArg head? after
      unfold escapeDebug at here
      split at here
      · rcases front with _ | ⟨first, _ | ⟨second, front⟩⟩ <;> simp at here
        exact ⟨[], by simp [← here.1]⟩
      · rename_i plain
        have member : '"' ∈ front ++ '"' :: inner := by simp
        rw [← here] at member
        split at member
        · obtain rfl := mem_singleton.mp member
          cases plain
        · simp only [mem_cons, mem_append, Char.reduceEq, not_mem_nil, or_false, false_or] at member
          exact absurd rfl (hex_plain member).2

private theorem debugOption_inj {first second : Option String}
    (same : (debugOption printable first).toList = (debugOption printable second).toList) :
    first = second := by
  cases first <;> cases second <;> simp [debugOption] at same
  · rfl
  · rw [debugString_injective (String.toList_inj.mp same)]

/-- A debug text does not end in a colon and another one. -/
private theorem debugOption_ne (first second : Option String) (front : List Char) :
    (debugOption printable first).toList ≠
      front ++ ':' :: (debugOption printable second).toList := by
  intro same
  cases first with
  | none =>
    have colon : ':' ∈ (debugOption printable none).toList := same ▸ by simp
    simp [debugOption] at colon
  | some first =>
  cases second with
  | none => simpa [debugOption, getLast?_cons] using congrArg getLast? same
  | some second =>
    simp only [debugOption, debugString, String.toList_append, String.toList_ofList] at same
    -- the quote of the second text stands behind the first one's, after a bracket
    rcases front with _ | ⟨_, _ | ⟨_, _ | ⟨_, _ | ⟨_, _ | ⟨_, _ | ⟨_, front⟩⟩⟩⟩⟩⟩ <;> simp at same
    obtain ⟨-, -, -, -, -, -, same⟩ := same
    have inside : first.toList.flatMap (escapeDebug printable) ++ ['"', ')'] =
        front ++ ":Some(".toList ++ '"' :: second.toList.flatMap (escapeDebug printable) ++
          ['"', ')'] := by
      simpa using same
    obtain ⟨start, ends⟩ := quote_escaped (append_cancel_right inside)
    simpa using congrArg getLast? ends

namespace Decision

private theorem detail_inj {first second : Decision} (severity : first.severity = second.severity)
    (rules : first.ruleName = second.ruleName)
    (details : first.detail printable = second.detail printable) : first = second := by
  cases first <;> cases second <;> simp_all [Decision.severity, ruleName, detail]
  have same := congrArg String.toList details
  simp only [String.toList_append, append_assoc] at same
  rcases append_eq_append_iff.mp same with ⟨middle, front, back⟩ | ⟨middle, front, back⟩ <;>
    rcases middle with _ | ⟨mark, middle⟩ <;> simp at front back
  · exact ⟨String.toList_inj.mp front.symm, debugOption_inj back⟩
  · exact absurd back.2 (debugOption_ne _ _ middle)
  · exact ⟨String.toList_inj.mp front, (debugOption_inj back).symm⟩
  · exact absurd back.2 (debugOption_ne _ _ middle)

private theorem joinAll_congr {decisions others : List Decision}
    (same : ∀ decision, decision ∈ others ↔ decision ∈ decisions) :
    joinAll printable others = joinAll printable decisions := by
  have severities : (others.map severity).max? = (decisions.map severity).max? :=
    Option.ext fun top => by simp [max?_eq_some_iff, same]
  rw [joinAll, joinAll, severities]
  cases (decisions.map severity).max? with
  | none => rfl
  | some severest =>
  have total : Std.Total fun left right => before printable left right = true :=
    ⟨by grind [before]⟩
  have trans : IsTrans Decision fun left right => before printable left right = true :=
    ⟨by grind [before]⟩
  dsimp only
  rw [@canonical_congr _ _ _ (decisions.filter fun decision => decision.severity == severest)]
  · grind [before, detail_inj]
  · simp [same]

/-- **Joining decisions is order-independent.** The result is determined by the set of decisions:
none for no decision, and otherwise a decision of the highest severity. -/
theorem joinAll_canonical (printable : Char → Bool) (decisions : List Decision) :
    (∀ others : List Decision, (∀ decision, decision ∈ others ↔ decision ∈ decisions) →
      joinAll printable others = joinAll printable decisions) ∧
    (joinAll printable decisions = none ↔ decisions = []) ∧
    ∀ joined, joinAll printable decisions = some joined →
      (decisions.map severity).max? = some joined.severity :=
  ⟨fun _ => joinAll_congr, joinAll_eq_none_iff decisions, fun _ => severity_joinAll⟩

end Decision

end Bookie.Policy
