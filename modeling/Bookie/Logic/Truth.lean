/-
Three-valued truth, as SQL has it. A condition that compares with NULL is unknown, and
a row is kept only where the condition is true.
-/

namespace Bookie.Logic

inductive Truth where
  | no
  | unknown
  | yes
  deriving DecidableEq, Repr

namespace Truth

def ofBool : Bool → Truth
  | true => yes
  | false => no

def kept : Truth → Bool
  | yes => true
  | _ => false

def and : Truth → Truth → Truth
  | no, _ => no
  | _, no => no
  | yes, yes => yes
  | _, _ => unknown

def or : Truth → Truth → Truth
  | yes, _ => yes
  | _, yes => yes
  | no, no => no
  | _, _ => unknown

def allOf (conditions : List Truth) : Truth := conditions.foldr and yes

def anyOf (conditions : List Truth) : Truth := conditions.foldr or no

@[simp] theorem kept_ofBool (condition : Bool) : (ofBool condition).kept = condition := by
  cases condition <;> rfl

theorem ofBool_ne_unknown (condition : Bool) : ofBool condition ≠ unknown := by
  cases condition <;> exact Truth.noConfusion

@[simp] theorem kept_and (first second : Truth) :
    (first.and second).kept = (first.kept && second.kept) := by
  cases first <;> cases second <;> rfl

@[simp] theorem kept_or (first second : Truth) :
    (first.or second).kept = (first.kept || second.kept) := by
  cases first <;> cases second <;> rfl

variable (condition : Truth)

theorem kept_eq_true_iff : condition.kept = true ↔ condition = yes := by
  cases condition <;> simp [kept]

@[simp] theorem and_yes : condition.and yes = condition := by
  cases condition <;> rfl

@[simp] theorem yes_and : yes.and condition = condition := by
  cases condition <;> rfl

@[simp] theorem and_no : condition.and no = no := by
  cases condition <;> rfl

theorem and_assoc (first second third : Truth) :
    (first.and second).and third = first.and (second.and third) := by
  cases first <;> cases second <;> cases third <;> rfl

/-- A shared conjunct may be drawn out of a disjunction. -/
theorem and_or (shared first second : Truth) :
    shared.and (first.or second) = (shared.and first).or (shared.and second) := by
  cases shared <;> cases first <;> cases second <;> rfl

@[simp] theorem allOf_nil : allOf [] = yes := rfl

@[simp] theorem allOf_cons (rest : List Truth) :
    allOf (condition :: rest) = condition.and (allOf rest) := rfl

@[simp] theorem anyOf_nil : anyOf [] = no := rfl

@[simp] theorem anyOf_cons (rest : List Truth) :
    anyOf (condition :: rest) = condition.or (anyOf rest) := rfl

theorem allOf_append (first second : List Truth) :
    allOf (first ++ second) = (allOf first).and (allOf second) := by
  induction first with
  | nil => rw [List.nil_append, allOf_nil, yes_and]
  | cons condition rest ih => rw [List.cons_append, allOf_cons, ih, allOf_cons, and_assoc]

theorem kept_allOf {α : Type} (conditions : List α) (truth : α → Truth) :
    (allOf (conditions.map truth)).kept =
      conditions.all (fun condition => (truth condition).kept) := by
  induction conditions with
  | nil => rfl
  | cons condition rest ih => rw [List.map_cons, allOf_cons, kept_and, ih, List.all_cons]

theorem kept_anyOf {α : Type} (conditions : List α) (truth : α → Truth) :
    (anyOf (conditions.map truth)).kept =
      conditions.any (fun condition => (truth condition).kept) := by
  induction conditions with
  | nil => rfl
  | cons condition rest ih => rw [List.map_cons, anyOf_cons, kept_or, ih, List.any_cons]

end Truth

end Bookie.Logic
