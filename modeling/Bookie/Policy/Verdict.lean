/-
Decisions and how several of them are joined: the most severe ones win, and if
more than one of them is left their rules and texts are put together in an order
that does not depend on where they came from.
-/

import Mathlib.Data.List.Destutter
import Mathlib.Data.List.Sort
import Mathlib.Data.Nat.Digits.Defs
import Mathlib.Data.String.Basic

namespace Bookie.Policy

open List

inductive Decision where
  | allow (rule : String)
  | requireApproval (rule reason : String) (preview : Option String)
  | deny (rule message : String)
  deriving DecidableEq, Repr

def debugEscapes : List (Char × Char) :=
  [('\x00', '0'), ('\t', 't'), ('\r', 'r'), ('\n', 'n'), ('\\', '\\'), ('"', '"')]

/-- A character in the `Debug` text of a string (`char::escape_debug_ext`). Whether it is printable
and extends no grapheme is looked up in the tables of the standard library. -/
def escapeDebug (printable : Char → Bool) (c : Char) : List Char :=
  match debugEscapes.lookup c with
  | some mark => ['\\', mark]
  | none =>
    if printable c then [c]
    else '\\' :: 'u' :: '\x7b' :: ((Nat.digits 16 c.toNat).reverse.map Nat.digitChar ++ ['\x7d'])

def asciiPrintable (c : Char) : Bool := ' ' ≤ c && c ≤ '~'

def debugString (printable : Char → Bool) (text : String) : String :=
  String.ofList ('"' :: (text.toList.flatMap (escapeDebug printable) ++ ['"']))

def debugOption (printable : Char → Bool) : Option String → String
  | none => "None"
  | some text => "Some(" ++ debugString printable text ++ ")"

namespace Decision

def ruleName : Decision → String
  | .allow rule | .requireApproval rule _ _ | .deny rule _ => rule

def isAllow : Decision → Bool
  | .allow _ => true
  | _ => false

def isDeny : Decision → Bool
  | .deny _ _ => true
  | _ => false

def severity : Decision → Nat
  | .allow _ => 0
  | .requireApproval _ _ _ => 1
  | .deny _ _ => 2

section Joining

variable (printable : Char → Bool)

def detail : Decision → String
  | .allow _ => ""
  | .requireApproval _ reason preview => reason ++ ":" ++ debugOption printable preview
  | .deny _ message => message

def before (left right : Decision) : Bool :=
  if left.ruleName = right.ruleName then left.detail printable ≤ right.detail printable
  else left.ruleName ≤ right.ruleName

def reason? : Decision → Option String
  | .requireApproval _ reason _ => some reason
  | _ => none

def preview? : Decision → Option String
  | .requireApproval _ _ preview => preview
  | _ => none

def message? : Decision → Option String
  | .deny _ message => some message
  | _ => none

def joinAll (decisions : List Decision) : Option Decision :=
  match (decisions.map severity).max? with
  | none => none
  | some severest =>
    let kept := ((decisions.filter fun decision => decision.severity == severest).insertionSort
      fun left right => before printable left right).destutter (· ≠ ·)
    match kept with
    | [single] => some single
    | _ =>
      let rule := String.intercalate "+" ((kept.map ruleName).destutter (· ≠ ·))
      match severest with
      | 0 => some (.allow rule)
      | 1 =>
        some (.requireApproval rule (String.intercalate "; " (kept.filterMap reason?))
          (kept.findSome? preview?))
      | _ => some (.deny rule (String.intercalate "; " (kept.filterMap message?)))

end Joining

/-! ### What the joined decision is -/

variable {printable : Char → Bool}

theorem severity_le (decision : Decision) : decision.severity ≤ 2 := by
  cases decision <;> simp [severity]

theorem isDeny_iff (decision : Decision) : decision.isDeny = true ↔ decision.severity = 2 := by
  cases decision <;> simp [isDeny, severity]

theorem joinAll_eq_none_iff (decisions : List Decision) :
    joinAll printable decisions = none ↔ decisions = [] := by
  unfold joinAll
  cases severest : (decisions.map severity).max? with
  | none => simpa using severest
  | some most =>
  have present : decisions ≠ [] := by
    rintro rfl
    simp at severest
  simp only [present]
  split
  · simp
  · split <;> simp

variable {decisions : List Decision}

theorem severity_joinAll {joined : Decision} (result : joinAll printable decisions = some joined) :
    (decisions.map severity).max? = some joined.severity := by
  unfold joinAll at result
  cases severest : (decisions.map severity).max? with
  | none => simp [severest] at result
  | some most =>
  simp only [severest] at result
  have bound : most ≤ 2 := by
    obtain ⟨decision, _, same⟩ := mem_map.mp (max?_mem severest)
    rw [← same]
    exact severity_le decision
  split at result
  · rename_i alone
    cases result
    have kept : joined ∈ ((decisions.filter fun decision =>
        decision.severity == most).insertionSort
          fun left right => before printable left right).destutter (· ≠ ·) := by
      rw [alone]
      exact mem_singleton_self joined
    have inside := (mem_insertionSort _).mp ((destutter_sublist _ _).subset kept)
    have same : joined.severity = most := by simpa using (mem_filter.mp inside).2
    rw [same]
  split at result
  · cases result
    rfl
  · cases result
    rfl
  rename_i notZero notOne
  cases result
  have most_eq : most = 2 := by
    have positive : most ≠ 0 := notZero
    have more : most ≠ 1 := notOne
    omega
  rw [most_eq]
  rfl

theorem isDeny_joinAll {joined : Decision} (result : joinAll printable decisions = some joined) :
    joined.isDeny = true ↔ ∃ decision ∈ decisions, decision.isDeny = true := by
  have severest := severity_joinAll result
  rw [isDeny_iff]
  constructor
  · intro most
    rw [most] at severest
    obtain ⟨decision, member, same⟩ := mem_map.mp (max?_mem severest)
    exact ⟨decision, member, (isDeny_iff decision).mpr same⟩
  rintro ⟨decision, member, denies⟩
  have below := (max?_eq_some_iff.mp severest).2 _ (mem_map_of_mem member)
  rw [(isDeny_iff decision).mp denies] at below
  have above := severity_le joined
  omega

end Decision

end Bookie.Policy
