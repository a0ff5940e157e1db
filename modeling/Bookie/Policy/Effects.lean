/-
The effect set of a statement and the facts the policy rules read. `Effects` is
a 16-bit set in the source; `contains` asks for all bits of its argument and
`intersects` for one of them, which differ as soon as the argument has two bits.
-/

import Bookie.Policy.AuditEvent

namespace Bookie.Policy

structure Effects where
  bits : BitVec 16
  deriving DecidableEq, Repr

namespace Effects

def bit (index : Nat) : Effects := { bits := BitVec.twoPow 16 index }

def empty : Effects := { bits := 0#16 }
def reads : Effects := bit 0
def writesRows : Effects := bit 1
def writesSchema : Effects := bit 2
def admin : Effects := bit 3
def transactionControl : Effects := bit 4
def sessionState : Effects := bit 5
def hostOrFileAccess : Effects := bit 6
def unknown : Effects := bit 7

def union (self other : Effects) : Effects := { bits := self.bits ||| other.bits }

def unionIf (self other : Effects) (condition : Bool) : Effects :=
  if condition then self.union other else self

def contains (self other : Effects) : Bool := self.bits &&& other.bits == other.bits

def intersects (self other : Effects) : Bool := self.bits &&& other.bits != 0#16

def writes (self : Effects) : Bool :=
  self.intersects (((writesRows.union writesSchema).union admin).union unknown)

def has (self : Effects) (index : Nat) : Bool := self.bits.getLsbD index

variable {index : Nat}

private theorem twoPow_ne_zero (small : index < 16) : BitVec.twoPow 16 index ≠ 0#16 := by
  intro zero
  have lookup := congrArg (fun value => value.getLsbD index) zero
  simp [small] at lookup

variable (self : Effects)

theorem contains_bit (small : index < 16) : self.contains (bit index) = self.has index := by
  unfold contains bit has
  rw [BitVec.and_twoPow]
  cases self.bits.getLsbD index with
  | true => simp
  | false => simp [Ne.symm (twoPow_ne_zero small)]

theorem intersects_bit (small : index < 16) : self.intersects (bit index) = self.has index := by
  unfold intersects bit has
  rw [BitVec.and_twoPow]
  cases self.bits.getLsbD index with
  | true => simp [twoPow_ne_zero small]
  | false => simp

variable (self left right : Effects)

theorem intersects_union :
    self.intersects (left.union right) = (self.intersects left || self.intersects right) := by
  unfold intersects union
  rw [BitVec.and_or_distrib_left, Bool.eq_iff_iff]
  simp only [bne_iff_ne, ne_eq, BitVec.or_eq_zero_iff, Bool.or_eq_true, not_and_or]

theorem contains_iff (self other : Effects) :
    self.contains other = true ↔ ∀ index, other.has index = true → self.has index = true := by
  unfold contains has
  rw [beq_iff_eq]
  constructor
  · intro inside index set
    rw [← inside, BitVec.getLsbD_and, Bool.and_eq_true] at set
    exact set.1
  intro inside
  apply BitVec.eq_of_getLsbD_eq
  intro index _
  rw [BitVec.getLsbD_and]
  cases set : other.bits.getLsbD index with
  | true => rw [inside index set, Bool.and_self]
  | false => rw [Bool.and_false]

theorem contains_union :
    self.contains (left.union right) = (self.contains left && self.contains right) := by
  rw [Bool.eq_iff_iff, Bool.and_eq_true, contains_iff, contains_iff, contains_iff]
  have split : ∀ index, (left.union right).has index = (left.has index || right.has index) :=
    fun index => BitVec.getLsbD_or
  simp only [split, Bool.or_eq_true]
  constructor
  · intro inside
    exact ⟨fun index set => inside index (.inl set), fun index set => inside index (.inr set)⟩
  · rintro ⟨first, second⟩ index (set | set)
    · exact first index set
    · exact second index set

theorem writes_eq : self.writes = (self.has 1 || self.has 2 || self.has 3 || self.has 7) := by
  simp only [writes, intersects_union, writesRows, writesSchema, admin, unknown]
  rw [intersects_bit _ (by decide), intersects_bit _ (by decide), intersects_bit _ (by decide),
    intersects_bit _ (by decide)]

end Effects

def StatementClass.isWrite : StatementClass → Bool
  | .select | .transaction => false
  | _ => true

structure StatementFacts where
  cls : StatementClass
  effects : Effects
  tables : List String
  hasWhere : Bool
  containsUnscopedDml : Bool
  isMultiStatement : Bool
  parseError : Option String
  deriving DecidableEq, Repr

namespace StatementFacts

variable (facts : StatementFacts)

/-- Whether the statement is a write by its class, which is not by its effects. -/
def writes : Bool := facts.cls.isWrite

def containsDdl : Bool := facts.effects.contains .writesSchema

def containsMutatingDml : Bool := facts.effects.contains .writesRows

def containsUnknownWrite : Bool := facts.effects.contains .unknown

def unparseable (message : String) : StatementFacts :=
  { cls := .unparseable
    effects := .unknown
    tables := []
    hasWhere := false
    containsUnscopedDml := false
    isMultiStatement := false
    parseError := some message }

def isSingleRead : Bool :=
  let external := (Effects.sessionState.union .hostOrFileAccess).union .admin
  !facts.isMultiStatement && facts.cls == .select && !facts.effects.writes &&
    !facts.effects.intersects external

end StatementFacts

structure BlastRadiusResult where
  countSql : String
  tables : List String
  deriving DecidableEq, Repr

inductive BlastRadiusRewrite where
  | known (rows : Nat)
  | countQuery (rewrite : BlastRadiusResult)
  deriving DecidableEq, Repr

structure StatementAnalysis where
  facts : StatementFacts
  rollsBackToSavepoint : Bool
  blastRadius : Option BlastRadiusRewrite
  sensitivePositions : Option (List Bool)
  knownStatementRows : List (Option Nat)
  deriving DecidableEq, Repr

theorem isWrite_fromStatement (facts : StatementFacts) :
    (AuditOperationClass.fromStatement facts.cls facts.writes).isWrite = facts.writes := by
  unfold StatementFacts.writes
  cases facts.cls <;> rfl

end Bookie.Policy
