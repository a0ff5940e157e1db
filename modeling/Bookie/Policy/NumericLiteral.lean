/-
Numeric literals as the policy compares them: significant digits and an order of
magnitude, standing for a rational number. The comparison is exact except between
zero, whose order is 0, and the positive numbers below a tenth.
-/

import Bookie.Text.Chars
import Mathlib.Algebra.Order.Field.Rat
import Mathlib.Algebra.Order.Field.Power
import Mathlib.Tactic.Linarith
import Mathlib.Tactic.FieldSimp
import Mathlib.Tactic.Positivity
import Mathlib.Tactic.NormNum
import Mathlib.Tactic.Ring

namespace Bookie.Policy

open Text List

def checkedI64 (number : Int) : Option Int :=
  if -9223372036854775808 ≤ number ∧ number ≤ 9223372036854775807 then some number else none

def stripSign : List Char → Bool × List Char
  | '-' :: text => (true, text)
  | '+' :: text => (false, text)
  | text => (false, text)

def parseI64 (text : List Char) : Option Int :=
  let (negative, digits) := stripSign text
  if digits.isEmpty || !digits.all Char.isDigit then none
  else checkedI64 (if negative then -digitsValue digits else digitsValue digits)

structure NumericParts where
  negative : Bool
  whole : List Char
  fraction : List Char
  exponent : Int
  deriving DecidableEq, Repr

structure NumericLiteral where
  negative : Bool
  digits : List Char
  order : Int
  deriving DecidableEq, Repr

namespace NumericLiteral

def isExponentMark (c : Char) : Bool := c == 'e' || c == 'E'

def splitExponent (value : List Char) : Option (List Char × Int) :=
  match value.dropWhile (!isExponentMark ·) with
  | _ :: exponent => (parseI64 exponent).map (value.takeWhile (!isExponentMark ·), ·)
  | [] => some (value, 0)

def splitPoint (mantissa : List Char) : List Char × List Char :=
  match mantissa.dropWhile (· != '.') with
  | _ :: fraction => (mantissa.takeWhile (· != '.'), fraction)
  | [] => (mantissa, [])

/-- The first half of `parse`: the text is taken apart. -/
def parts (text : List Char) : Option NumericParts := do
  let (negative, value) := stripSign text
  let (mantissa, exponent) ← splitExponent value
  if mantissa.any isExponentMark then none
  else
    let (whole, fraction) := splitPoint mantissa
    if whole.isEmpty && fraction.isEmpty || !whole.all Char.isDigit || !fraction.all Char.isDigit
    then none
    else some { negative, whole, fraction, exponent }

def zero : NumericLiteral := { negative := false, digits := ['0'], order := 0 }

/-- The second half of `parse`: zeros are trimmed on both sides. -/
def normalize (parts : NumericParts) : Option NumericLiteral :=
  let significant := (parts.whole ++ parts.fraction).dropWhile (· == '0')
  if significant.isEmpty then some zero
  else do
    let trimmed := significant.rdropWhile (· == '0')
    let removedZeros ← checkedI64 (significant.length - trimmed.length)
    let fractionLen ← checkedI64 parts.fraction.length
    let exponent ← checkedI64 (parts.exponent - fractionLen)
    let exponent ← checkedI64 (exponent + removedZeros)
    let length ← checkedI64 trimmed.length
    let order ← checkedI64 (length + exponent)
    some { negative := parts.negative, digits := trimmed, order }

def parse (text : List Char) : Option NumericLiteral := (parts text).bind normalize

/-- The loop over the digits: a literal that has run out of them goes on with zeros. -/
def compareDigitsFrom : (width : Nat) → List Char → List Char → Ordering
  | 0, _, _ => .eq
  | width + 1, left, right =>
    match compare (left.headD '0').toNat (right.headD '0').toNat with
    | .eq => compareDigitsFrom width left.tail right.tail
    | ordering => ordering

def compareDigits (self other : NumericLiteral) : Ordering :=
  compareDigitsFrom (max self.digits.length other.digits.length) self.digits other.digits

def decimalOrder (self : NumericLiteral) : Int := self.order

/-- The comparison of two literals of one sign, without the sign. -/
def compareMagnitude (self other : NumericLiteral) : Ordering :=
  let order := Ord.compare self.decimalOrder other.decimalOrder
  if order ≠ .eq then order else self.compareDigits other

def compare (self other : NumericLiteral) : Ordering :=
  if self.negative != other.negative then if self.negative then .lt else .gt
  else
    let magnitude := self.compareMagnitude other
    if self.negative then magnitude.swap else magnitude

end NumericLiteral

def fractionOf : List Char → ℚ
  | [] => 0
  | digit :: digits => (digitValue digit + fractionOf digits) / 10

def NumericParts.value (parts : NumericParts) : ℚ :=
  (if parts.negative then -1 else 1) * digitsValue (parts.whole ++ parts.fraction) *
    10 ^ (parts.exponent - parts.fraction.length)

/-! ### Decimal numbers as they are written -/

def Digits (text : List Char) : Prop := ∀ digit ∈ text, digit.isDigit = true

inductive SignText : Bool → List Char → Prop
  | absent : SignText false []
  | plus : SignText false ['+']
  | minus : SignText true ['-']

inductive FractionText : List Char → List Char → Prop
  | absent : FractionText [] []
  | given {fraction : List Char} (digits : Digits fraction) :
      FractionText fraction ('.' :: fraction)

inductive ExponentText : Int → List Char → Prop
  | absent : ExponentText 0 []
  | given {mark : Char} {negative : Bool} {sign digits : List Char} (marked : mark ∈ ['e', 'E'])
      (signed : SignText negative sign) (some : digits ≠ []) (isDigits : Digits digits) :
      ExponentText (if negative then -digitsValue digits else digitsValue digits)
        (mark :: (sign ++ digits))

/-- The text is a sign, digits, a point with digits and an exponent. Of these only a digit before
or behind the point is required. -/
def NumericParts.Spells (parts : NumericParts) (text : List Char) : Prop :=
  Digits parts.whole ∧ parts.whole ++ parts.fraction ≠ [] ∧ ∃ sign point exponent,
    SignText parts.negative sign ∧ FractionText parts.fraction point ∧
    ExponentText parts.exponent exponent ∧ text = sign ++ (parts.whole ++ point ++ exponent)

def Stands (text : List Char) (number : ℚ) : Prop :=
  ∃ parts : NumericParts, parts.Spells text ∧ number = parts.value

variable {digits left right : List Char}

private theorem compare_of_strictMono {f : ℚ → ℚ} (mono : StrictMono f) {x y : ℚ} :
    compare (f x) (f y) = compare x y := by
  rw [← cmp_eq_compare, ← cmp_eq_compare, mono.cmp_map_eq]

private theorem fractionOf_head_tail (digits : List Char) :
    fractionOf digits = (digitValue (digits.headD '0') + fractionOf digits.tail) / 10 := by
  cases digits with
  | nil => simp [fractionOf, digitValue]
  | cons digit digits => rfl

private theorem toNat_digit {digit : Char} (isDigit : digit.isDigit = true) :
    digit.toNat = 48 + digitValue digit ∧ digitValue digit ≤ 9 := by
  simp only [Char.isDigit, Bool.and_eq_true, decide_eq_true_eq] at isDigit
  obtain ⟨low, high⟩ : 48 ≤ digit.toNat ∧ digit.toNat ≤ 57 := isDigit
  rw [digitValue]
  omega

private theorem fractionOf_bounds (isDigit : ∀ digit ∈ digits, digit.isDigit = true) :
    0 ≤ fractionOf digits ∧ fractionOf digits < 1 := by
  induction digits with
  | nil => simp [fractionOf]
  | cons digit digits ih =>
    obtain ⟨here, others⟩ := forall_mem_cons.mp isDigit
    obtain ⟨low, high⟩ := ih others
    have small : (digitValue digit : ℚ) ≤ 9 := by exact_mod_cast (toNat_digit here).2
    rw [fractionOf]
    constructor
    · positivity
    · linarith

/-- The first digit that differs decides. -/
private theorem fraction_lt {m n : ℕ} {x y : ℚ} (less : m < n) (high : x < 1) (low : 0 ≤ y) :
    (m + x) / 10 < (n + y) / 10 := by
  have step : (m + 1 : ℚ) ≤ n := by exact_mod_cast less
  linarith

private theorem fractionOf_large {digit : Char}
    (isDigit : ∀ other ∈ digit :: digits, other.isDigit = true)
    (notZero : digit ≠ '0') : 1 / 10 ≤ fractionOf (digit :: digits) := by
  obtain ⟨here, others⟩ := forall_mem_cons.mp isDigit
  have one : 1 ≤ digitValue digit := by
    have differs : digit.toNat ≠ 48 := fun same => notZero (Char.toNat_inj.mp same)
    have known := toNat_digit here
    omega
  have cast : (1 : ℚ) ≤ digitValue digit := by exact_mod_cast one
  rw [fractionOf]
  linarith [(fractionOf_bounds others).1]

private theorem compareDigitsFrom_eq {width : Nat}
    (leftDigits : ∀ digit ∈ left, digit.isDigit = true)
    (rightDigits : ∀ digit ∈ right, digit.isDigit = true) (leftLength : left.length ≤ width)
    (rightLength : right.length ≤ width) :
    NumericLiteral.compareDigitsFrom width left right =
      compare (fractionOf left) (fractionOf right) := by
  induction width generalizing left right with
  | zero =>
    rw [length_eq_zero_iff.mp (Nat.le_zero.mp leftLength),
      length_eq_zero_iff.mp (Nat.le_zero.mp rightLength)]
    exact (compare_eq_iff_eq.mpr rfl).symm
  | succ width ih =>
    have head {text : List Char} (isDigit : ∀ digit ∈ text, digit.isDigit = true) :
        (text.headD '0').toNat = 48 + digitValue (text.headD '0') := by
      cases text with
      | nil => rfl
      | cons digit text => exact (toNat_digit (isDigit digit mem_cons_self)).1
    have leftTail := fun digit member => leftDigits digit (mem_of_mem_tail member)
    have rightTail := fun digit member => rightDigits digit (mem_of_mem_tail member)
    obtain ⟨leftLow, leftHigh⟩ := fractionOf_bounds leftTail
    obtain ⟨rightLow, rightHigh⟩ := fractionOf_bounds rightTail
    rw [NumericLiteral.compareDigitsFrom, fractionOf_head_tail left, fractionOf_head_tail right,
      head leftDigits, head rightDigits]
    rcases Nat.lt_trichotomy (digitValue (left.headD '0')) (digitValue (right.headD '0')) with
      less | same | more
    · rw [compare_lt_iff_lt.mpr (by omega),
        compare_lt_iff_lt.mpr (fraction_lt less leftHigh rightLow)]
    · rw [same, compare_eq_iff_eq.mpr rfl]
      refine (ih leftTail rightTail (by simp; omega) (by simp; omega)).trans ?_
      refine (compare_of_strictMono (f := fun x => (_ + x) / 10) (fun x y less => ?_)).symm
      linarith
    · rw [compare_gt_iff_gt.mpr (by omega),
        compare_gt_iff_gt.mpr (fraction_lt more rightHigh leftLow)]

private theorem digitsValue_eq (digits : List Char) :
    (digitsValue digits : ℚ) = fractionOf digits * 10 ^ digits.length := by
  suffices shifted : ∀ value : ℕ,
      ((digits.foldl (fun value digit => value * 10 + digitValue digit) value : ℕ) : ℚ) =
        (value + fractionOf digits) * 10 ^ digits.length by
    simpa [digitsValue] using shifted 0
  induction digits with
  | nil => simp [fractionOf]
  | cons digit digits ih =>
    intro value
    rw [foldl_cons, ih, fractionOf, length_cons]
    push_cast
    ring

private theorem digitsValue_dropWhile (digits : List Char) :
    digitsValue (digits.dropWhile (· == '0')) = digitsValue digits := by
  induction digits with
  | nil => rfl
  | cons digit digits ih =>
    by_cases zero : digit = '0'
    · subst zero
      exact ih
    · rw [dropWhile_cons_of_neg (by simpa using zero)]

private theorem fractionOf_rdropWhile (digits : List Char) :
    fractionOf (digits.rdropWhile (· == '0')) = fractionOf digits := by
  have append_zero (digits : List Char) : fractionOf (digits ++ ['0']) = fractionOf digits := by
    induction digits with
    | nil => simp [fractionOf, digitValue]
    | cons digit digits ih => rw [cons_append, fractionOf, ih, fractionOf]
  induction digits using reverseRecOn with
  | nil => rfl
  | append_singleton digits digit ih =>
    by_cases zero : digit = '0'
    · subst zero
      rw [rdropWhile_concat_pos _ _ _ rfl, ih, append_zero]
    · rw [rdropWhile_concat_neg _ _ _ (by simpa using zero)]

namespace NumericLiteral

def magnitude (self : NumericLiteral) : ℚ := fractionOf self.digits * 10 ^ self.order

def value (self : NumericLiteral) : ℚ := (if self.negative then -1 else 1) * self.magnitude

private theorem magnitude_zero : zero.magnitude = 0 := by
  simp [zero, magnitude, fractionOf, digitValue]

/-- Zero has a form of its own; every other literal has a first digit that is not zero. -/
structure Normal (literal : NumericLiteral) : Prop where
  isDigit : ∀ digit ∈ literal.digits, digit.isDigit = true
  zero_or_large : literal = zero ∨ 1 / 10 ≤ fractionOf literal.digits

private theorem eq_of_checkedI64 {number checked : Int} (fits : checkedI64 number = some checked) :
    checked = number := by
  rw [checkedI64] at fits
  split at fits
  · exact (Option.some.inj fits).symm
  · cases fits

private theorem normalize_spec {parts : NumericParts} {self : NumericLiteral}
    (isDigit : ∀ digit ∈ parts.whole ++ parts.fraction, digit.isDigit = true)
    (normalized : normalize parts = some self) : self.Normal ∧ self.value = parts.value := by
  have same := digitsValue_dropWhile (parts.whole ++ parts.fraction)
  have kept : ∀ digit ∈ (parts.whole ++ parts.fraction).dropWhile (· == '0'),
      digit.isDigit = true :=
    fun digit member => isDigit digit ((dropWhile_sublist _).mem member)
  rw [normalize] at normalized
  generalize split : (parts.whole ++ parts.fraction).dropWhile (· == '0') = significant
    at normalized same kept
  cases significant with
  | nil =>
    obtain rfl := Option.some.inj normalized
    refine ⟨⟨by simp [zero], .inl rfl⟩, ?_⟩
    rw [NumericParts.value, ← same]
    simp [value, magnitude_zero, digitsValue]
  | cons digit digits =>
    have notZero : digit ≠ '0' := by
      have := head?_dropWhile_not (· == '0') (parts.whole ++ parts.fraction)
      simpa [split] using this
    have large : 1 / 10 ≤ fractionOf ((digit :: digits).rdropWhile (· == '0')) := by
      rw [fractionOf_rdropWhile]
      exact fractionOf_large kept notZero
    simp only [isEmpty_cons, Bool.false_eq_true, ↓reduceIte, Option.bind_eq_bind,
      Option.bind_eq_some_iff, Option.some.injEq] at normalized
    obtain ⟨zeros, fits, behind, fits', shift, fits'', exponent, fits₃, length, fits₄, order,
      fits₅, rfl⟩ := normalized
    have order_eq : order = parts.exponent - parts.fraction.length + (digit :: digits).length := by
      simp only [eq_of_checkedI64 fits₅, eq_of_checkedI64 fits₄, eq_of_checkedI64 fits₃,
        eq_of_checkedI64 fits'', eq_of_checkedI64 fits', eq_of_checkedI64 fits]
      ring
    have part := rdropWhile_prefix (· == '0') (digit :: digits)
    refine ⟨⟨fun digit member => kept digit (part.mem member), .inr large⟩, ?_⟩
    rw [value, magnitude, NumericParts.value, ← same, digitsValue_eq, fractionOf_rdropWhile,
      order_eq, zpow_add₀ (by norm_num), zpow_natCast]
    ring

/-! ### Reading the parts -/

private theorem stripSign_text {negative : Bool} {sign text : List Char}
    (signed : SignText negative sign) (unsigned : ∀ c ∈ text.head?, c ≠ '-' ∧ c ≠ '+') :
    stripSign (sign ++ text) = (negative, text) := by
  cases signed with
  | plus | minus => rfl
  | absent =>
    rw [nil_append]
    unfold stripSign
    split
    · exact absurd rfl (unsigned _ rfl).1
    · exact absurd rfl (unsigned _ rfl).2
    · rfl

private theorem exists_signText (text : List Char) :
    ∃ sign, SignText (stripSign text).1 sign ∧ text = sign ++ (stripSign text).2 := by
  unfold stripSign
  split
  · exact ⟨_, .minus, rfl⟩
  · exact ⟨_, .plus, rfl⟩
  · exact ⟨_, .absent, rfl⟩

private theorem ne_of_isDigit {digit c : Char} (isDigit : digit.isDigit = true)
    (other : c.isDigit = false) : digit ≠ c := by
  rintro rfl
  rw [isDigit] at other
  cases other

private theorem splitExponent_text {mantissa exponent : List Char} {e : Int}
    (plain : ∀ c ∈ mantissa, isExponentMark c = false) (written : ExponentText e exponent) :
    splitExponent (mantissa ++ exponent) = (checkedI64 e).map (mantissa, ·) := by
  have inside : ∀ c ∈ mantissa, (!isExponentMark c) = true := by simpa using plain
  cases written with
  | absent =>
    rw [append_nil, splitExponent, dropWhile_eq_nil_iff.mpr inside]
    rfl
  | @given mark negative sign digits marked signed some isDigits =>
    have stops : isExponentMark mark = true := by simpa [isExponentMark] using marked
    have unsigned : ∀ c ∈ digits.head?, c ≠ '-' ∧ c ≠ '+' := fun c first =>
      have isDigit := isDigits c (mem_of_mem_head? first)
      ⟨ne_of_isDigit isDigit rfl, ne_of_isDigit isDigit rfl⟩
    have accepted : digits.all Char.isDigit = true := all_eq_true.mpr isDigits
    simp [splitExponent, dropWhile_append_of_pos inside, takeWhile_append_of_pos inside, stops,
      parseI64, stripSign_text signed unsigned, some, accepted]

private theorem exists_exponentText {value mantissa : List Char} {e : Int}
    (split : splitExponent value = some (mantissa, e)) :
    ∃ exponent, ExponentText e exponent ∧ value = mantissa ++ exponent := by
  have whole := @takeWhile_append_dropWhile _ (!isExponentMark ·) value
  have stops := head?_dropWhile_not (!isExponentMark ·) value
  unfold splitExponent at split
  split at split
  · rename_i mark rest found
    rw [found] at whole stops
    obtain ⟨number, read, same⟩ := Option.map_eq_some_iff.mp split
    cases same
    obtain ⟨sign, signed, cut⟩ := exists_signText rest
    unfold parseI64 at read
    simp only [Bool.or_eq_true, List.isEmpty_iff, Bool.not_eq_true',
      ← Bool.not_eq_true, all_eq_true] at read
    split at read
    · cases read
    rename_i digits
    rw [not_or, not_not] at digits
    obtain rfl := eq_of_checkedI64 read
    refine ⟨mark :: (sign ++ _), .given ?_ signed digits.1 digits.2, ?_⟩
    · simpa [isExponentMark, or_iff_not_imp_left] using stops
    · rw [← cut, whole]
  · cases split
    exact ⟨[], .absent, (append_nil _).symm⟩

private theorem splitPoint_text {whole point fraction : List Char} (digits : Digits whole)
    (written : FractionText fraction point) : splitPoint (whole ++ point) = (whole, fraction) := by
  have inside : ∀ c ∈ whole, (c != '.') = true := fun c member =>
    bne_iff_ne.mpr (ne_of_isDigit (digits c member) rfl)
  cases written with
  | absent => rw [append_nil, splitPoint, dropWhile_eq_nil_iff.mpr inside]
  | given =>
    simp [splitPoint, dropWhile_append_of_pos inside, takeWhile_append_of_pos inside]

private theorem exists_fractionText {mantissa : List Char}
    (digits : Digits (splitPoint mantissa).2) :
    ∃ point, FractionText (splitPoint mantissa).2 point ∧
      mantissa = (splitPoint mantissa).1 ++ point := by
  have both := @takeWhile_append_dropWhile _ (· != '.') mantissa
  have stops := head?_dropWhile_not (· != '.') mantissa
  unfold splitPoint at digits ⊢
  cases found : mantissa.dropWhile (· != '.') with
  | nil => exact ⟨[], .absent, (append_nil _).symm⟩
  | cons mark rest =>
    rw [found] at digits both stops
    obtain rfl : mark = '.' := by simpa using stops
    exact ⟨_, .given digits, both.symm⟩

private theorem parts_spells {text : List Char} {found : NumericParts}
    (taken : parts text = some found) : found.Spells text := by
  obtain ⟨sign, signed, cut⟩ := exists_signText text
  simp only [parts, Option.bind_eq_bind, Option.bind_eq_some_iff] at taken
  obtain ⟨⟨mantissa, e⟩, split, taken⟩ := taken
  obtain ⟨exponent, written, rest⟩ := exists_exponentText split
  split at taken
  · cases taken
  split at taken
  · cases taken
  rename_i accepted
  obtain rfl := Option.some.inj taken
  simp only [Bool.or_eq_true, Bool.and_eq_true, List.isEmpty_iff, Bool.not_eq_true',
    ← Bool.not_eq_true, all_eq_true, not_or, not_not] at accepted
  obtain ⟨point, pointed, whole⟩ := exists_fractionText accepted.2
  refine ⟨accepted.1.2, fun none => accepted.1.1 (append_eq_nil_iff.mp none), sign, point, exponent,
    signed, pointed, written, ?_⟩
  exact cut.trans (congrArg (sign ++ ·) (rest.trans (congrArg (· ++ exponent) whole)))

/-- A text that spells the parts is read as them, unless the exponent is out of range. -/
private theorem Spells.parts_eq {text : List Char} {found : NumericParts}
    (spells : found.Spells text) : parts text = (checkedI64 found.exponent).map fun _ => found := by
  obtain ⟨negative, whole, fraction, e⟩ := found
  obtain ⟨digits, nonempty, sign, point, exponent, signed, pointed, written, rfl⟩ := spells
  dsimp only at *
  have behind : Digits fraction := by
    cases pointed with
    | absent => nofun
    | given digits => exact digits
  have front : whole ++ point ≠ [] := by
    cases pointed with
    | absent => exact nonempty
    | given => simp
  have plain : ∀ c ∈ whole ++ point, c.isDigit = true ∨ c = '.' := by
    intro c member
    rcases mem_append.mp member with before | after
    · exact .inl (digits c before)
    cases pointed with
    | absent => cases after
    | given => exact (mem_cons.mp after).symm.imp (behind c) id
  have other : ∀ c ∈ whole ++ point, ∀ mark ∈ ['-', '+', 'e', 'E'], c ≠ mark := by
    intro c member mark isMark
    have noDigit : ∀ mark ∈ ['-', '+', 'e', 'E'], mark.isDigit = false ∧ '.' ≠ mark := by
      simp [Char.isDigit]
    rcases plain c member with isDigit | rfl
    · exact ne_of_isDigit isDigit (noDigit mark isMark).1
    · exact (noDigit mark isMark).2
  have unsigned : ∀ c ∈ (whole ++ point ++ exponent).head?, c ≠ '-' ∧ c ≠ '+' := by
    intro c first
    rw [head?_append_of_ne_nil _ front] at first
    have apart := other c (mem_of_mem_head? first)
    exact ⟨apart _ (by simp), apart _ (by simp)⟩
  have unmarked : ∀ c ∈ whole ++ point, isExponentMark c = false := by
    intro c member
    have apart := other c member
    simp [isExponentMark, apart 'e', apart 'E']
  simp only [parts, stripSign_text signed unsigned, splitExponent_text unmarked written]
  cases checked : checkedI64 e with
  | none => rfl
  | some number =>
    obtain rfl := eq_of_checkedI64 checked
    have noMark : (whole ++ point).any isExponentMark = false :=
      any_eq_false.mpr fun c member => Bool.eq_false_iff.mp (unmarked c member)
    have someDigit : (whole.isEmpty && fraction.isEmpty) = false := by
      rw [Bool.eq_false_iff, Ne, Bool.and_eq_true, List.isEmpty_iff, List.isEmpty_iff]
      exact fun both => nonempty (append_eq_nil_iff.mpr both)
    have wholeDigits : whole.all Char.isDigit = true := all_eq_true.mpr digits
    have fractionDigits : fraction.all Char.isDigit = true := all_eq_true.mpr behind
    simp only [Option.map_some, Option.bind_eq_bind, Option.bind_some, noMark,
      splitPoint_text digits pointed, someDigit, wholeDigits, fractionDigits, Bool.not_true,
      Bool.or_false, Bool.false_eq_true, if_false]

private theorem parse_spec {text : List Char} {self : NumericLiteral}
    (parsed : parse text = some self) :
    self.Normal ∧ ∀ number, Stands text number ↔ number = self.value := by
  obtain ⟨found, taken, normalized⟩ := Option.bind_eq_some_iff.mp parsed
  have spells := parts_spells taken
  have isDigit : ∀ digit ∈ found.whole ++ found.fraction, digit.isDigit = true := by
    obtain ⟨whole, -, _, _, _, -, pointed, -⟩ := spells
    refine forall_mem_append.mpr ⟨whole, ?_⟩
    generalize found.fraction = fraction at pointed
    cases pointed with
    | absent => nofun
    | given digits => exact digits
  obtain ⟨normal, value_eq⟩ := normalize_spec isDigit normalized
  refine ⟨normal, fun number => ⟨?_, fun same => ⟨found, spells, same.trans value_eq⟩⟩⟩
  rintro ⟨other, otherSpells, rfl⟩
  rw [Spells.parts_eq otherSpells] at taken
  obtain ⟨_, -, rfl⟩ := Option.map_eq_some_iff.mp taken
  exact value_eq.symm

variable {self other : NumericLiteral}

private theorem Normal.magnitude_nonneg (normal : self.Normal) : 0 ≤ self.magnitude :=
  mul_nonneg (fractionOf_bounds normal.isDigit).1 (by positivity)

private theorem Normal.magnitude_lt (normal : self.Normal) : self.magnitude < 10 ^ self.order := by
  have power : (0 : ℚ) < 10 ^ self.order := by positivity
  simpa [magnitude] using mul_lt_mul_of_pos_right (fractionOf_bounds normal.isDigit).2 power

private theorem magnitude_ge (large : 1 / 10 ≤ fractionOf self.digits) :
    10 ^ (self.order - 1) ≤ self.magnitude := by
  have power : (0 : ℚ) < 10 ^ self.order := by positivity
  rw [zpow_sub_one₀ (by norm_num), mul_comm, ← one_div]
  exact mul_le_mul_of_nonneg_right large power.le

private theorem Normal.magnitude_lt_of_order (normal : self.Normal)
    (large : 1 / 10 ≤ fractionOf other.digits) (less : self.order < other.order) :
    self.magnitude < other.magnitude :=
  calc self.magnitude < 10 ^ self.order := normal.magnitude_lt
    _ ≤ 10 ^ (other.order - 1) := zpow_le_zpow_right₀ (by norm_num) (by omega)
    _ ≤ other.magnitude := magnitude_ge large

private theorem compareDigits_eq (normal : self.Normal) (normalOther : other.Normal)
    (same : self.order = other.order) :
    self.compareDigits other = Ord.compare self.magnitude other.magnitude := by
  have scaled : StrictMono fun x : ℚ => x * 10 ^ other.order := fun _ _ less =>
    mul_lt_mul_of_pos_right less (by positivity)
  rw [magnitude, same]
  exact (compareDigitsFrom_eq normal.isDigit normalOther.isDigit (le_max_left _ _)
    (le_max_right _ _)).trans (compare_of_strictMono scaled).symm

private theorem Normal.zero_or_pos (normal : self.Normal) : self = zero ∨ 0 < self.magnitude :=
  normal.zero_or_large.imp_right fun large => lt_of_lt_of_le (by positivity) (magnitude_ge large)

/-- A number too small to be compared with zero. -/
def Tiny (number : ℚ) : Prop := 0 < number ∧ number < 1 / 10

/-- These are the literals of a smaller order than zero. -/
private theorem Normal.tiny_iff (normal : self.Normal) :
    Tiny self.magnitude ↔ self.order < zero.order := by
  have tenth : (10 : ℚ) ^ (-1 : ℤ) = 1 / 10 := by norm_num
  have order_zero : zero.order = 0 := rfl
  rcases normal.zero_or_large with rfl | large
  · simp [Tiny, magnitude_zero]
  have ge := magnitude_ge large
  constructor
  · rintro ⟨-, small⟩
    have less := (zpow_lt_zpow_iff_right₀ (by norm_num)).mp
      ((ge.trans_lt small).trans_eq tenth.symm)
    omega
  · intro less
    refine ⟨lt_of_lt_of_le (by positivity) ge, normal.magnitude_lt.trans_le ?_⟩
    exact (zpow_le_zpow_right₀ (by norm_num) (by omega)).trans_eq tenth

private theorem compareMagnitude_of_lt (less : self.order < other.order) :
    self.compareMagnitude other = .lt := by
  rw [compareMagnitude, decimalOrder, decimalOrder, compare_lt_iff_lt.mpr less]
  rfl

private theorem compareMagnitude_of_gt (less : other.order < self.order) :
    self.compareMagnitude other = .gt := by
  rw [compareMagnitude, decimalOrder, decimalOrder, compare_gt_iff_gt.mpr less]
  rfl

def ZeroBesideTiny (x y : ℚ) : Prop := x = 0 ∧ Tiny y ∨ y = 0 ∧ Tiny x

private theorem ZeroBesideTiny.nonneg {x y : ℚ} (beside : ZeroBesideTiny x y) : 0 ≤ x ∧ 0 ≤ y := by
  obtain ⟨zero, positive, -⟩ | ⟨zero, positive, -⟩ := beside
  · exact ⟨zero.ge, positive.le⟩
  · exact ⟨positive.le, zero.ge⟩

private theorem compareMagnitude_exact_iff (normal : self.Normal) (normalOther : other.Normal) :
    self.compareMagnitude other = Ord.compare self.magnitude other.magnitude ↔
      ¬ ZeroBesideTiny self.magnitude other.magnitude := by
  constructor
  · rintro same (⟨isZero, tiny⟩ | ⟨isZero, tiny⟩)
    · obtain rfl := normal.zero_or_pos.resolve_right isZero.not_gt
      rw [compareMagnitude_of_gt (normalOther.tiny_iff.mp tiny), isZero,
        compare_lt_iff_lt.mpr tiny.1] at same
      cases same
    obtain rfl := normalOther.zero_or_pos.resolve_right isZero.not_gt
    rw [compareMagnitude_of_lt (normal.tiny_iff.mp tiny), isZero,
      compare_gt_iff_gt.mpr tiny.1] at same
    cases same
  intro apart
  rcases lt_trichotomy self.order other.order with less | same | more
  · rcases normalOther.zero_or_large with rfl | large
    · exact absurd (.inr ⟨magnitude_zero, normal.tiny_iff.mpr less⟩) apart
    · rw [compareMagnitude_of_lt less,
        compare_lt_iff_lt.mpr (normal.magnitude_lt_of_order large less)]
  · rw [compareMagnitude, decimalOrder, decimalOrder, compare_eq_iff_eq.mpr same]
    exact compareDigits_eq normal normalOther same
  rcases normal.zero_or_large with rfl | large
  · exact absurd (.inl ⟨magnitude_zero, normalOther.tiny_iff.mpr more⟩) apart
  · rw [compareMagnitude_of_gt more,
      compare_gt_iff_gt.mpr (normalOther.magnitude_lt_of_order large more)]

/-- Zero has no sign, so a literal with one stands for a number below zero. -/
private theorem Normal.value_neg (normal : self.Normal) (negative : self.negative = true) :
    self.value = -self.magnitude ∧ 0 < self.magnitude := by
  refine ⟨by simp [value, negative], normal.zero_or_pos.resolve_left ?_⟩
  rintro rfl
  cases negative

private theorem value_pos (positive : self.negative = false) : self.value = self.magnitude := by
  simp [value, positive]

/-- Two literals are compared exactly, but for zero beside a positive number below a tenth. -/
theorem compare_exact_iff {left right : List Char} (parsed : parse left = some self)
    (parsedOther : parse right = some other) :
    (∃ x, Stands left x) ∧ (∃ y, Stands right y) ∧ ∀ x y, Stands left x → Stands right y →
      (self.compare other = Ord.compare x y ↔ ¬ ZeroBesideTiny x y) := by
  obtain ⟨normal, stands⟩ := parse_spec parsed
  obtain ⟨normalOther, standsOther⟩ := parse_spec parsedOther
  refine ⟨⟨_, (stands _).mpr rfl⟩, ⟨_, (standsOther _).mpr rfl⟩, fun x y isLeft isRight => ?_⟩
  rw [(stands x).mp isLeft, (standsOther y).mp isRight, compare]
  cases sign : self.negative <;> cases signOther : other.negative
  · rw [value_pos sign, value_pos signOther]
    exact compareMagnitude_exact_iff normal normalOther
  · obtain ⟨below, positive⟩ := normalOther.value_neg signOther
    have nonneg := normal.magnitude_nonneg
    rw [value_pos sign, compare_gt_iff_gt.mpr (by linarith)]
    exact iff_of_true rfl fun beside => by linarith [beside.nonneg.2]
  · obtain ⟨below, positive⟩ := normal.value_neg sign
    have nonneg := normalOther.magnitude_nonneg
    rw [value_pos signOther, compare_lt_iff_lt.mpr (by linarith)]
    exact iff_of_true rfl fun beside => by linarith [beside.nonneg.1]
  obtain ⟨below, positive⟩ := normal.value_neg sign
  obtain ⟨belowOther, positiveOther⟩ := normalOther.value_neg signOther
  have apart : ¬ ZeroBesideTiny self.magnitude other.magnitude := by
    rintro (⟨zero, -⟩ | ⟨zero, -⟩)
    · exact positive.ne' zero
    · exact positiveOther.ne' zero
  rw [below, belowOther]
  refine iff_of_true ?_ fun beside => by linarith [beside.nonneg.1]
  have swapped := (compareMagnitude_exact_iff normal normalOther).mpr apart
  simp only [swapped]
  rw [← cmp_eq_compare, ← cmp_eq_compare, cmp_swap]
  exact (StrictAnti.cmp_map_eq (f := fun x : ℚ => -x) (fun _ _ less => neg_lt_neg less) _ _).symm

/-- With a sign, zeros to trim and an exponent on one side. -/
theorem compare_minus_one_and_a_half :
    ∃ self other, parse "-001.50".toList = some self ∧ parse "-15e-1".toList = some other ∧
      Stands "-001.50".toList (-3 / 2) ∧ Stands "-15e-1".toList (-3 / 2) ∧
      self.compare other = Ord.compare (-3 / 2 : ℚ) (-3 / 2) := by
  have left : Stands "-001.50".toList (-3 / 2) :=
    ⟨_, @parts_spells _ ⟨true, "001".toList, "50".toList, 0⟩ (by decide +kernel), by decide +kernel⟩
  have right : Stands "-15e-1".toList (-3 / 2) :=
    ⟨_, @parts_spells _ ⟨true, "15".toList, [], -1⟩ (by decide +kernel), by decide +kernel⟩
  refine ⟨⟨true, ['1', '5'], 1⟩, ⟨true, ['1', '5'], 1⟩, by decide +kernel, by decide +kernel, left,
    right, ?_⟩
  obtain ⟨-, -, exactly⟩ := @compare_exact_iff ⟨true, ['1', '5'], 1⟩ ⟨true, ['1', '5'], 1⟩
    "-001.50".toList "-15e-1".toList (by decide +kernel) (by decide +kernel)
  refine (exactly _ _ left right).mpr fun beside => ?_
  linarith [beside.nonneg.2]

/-- Zero is taken for more than a hundredth. -/
theorem compare_zero_hundredth :
    ∃ self other, parse "0".toList = some self ∧ parse "0.01".toList = some other ∧
      Stands "0".toList 0 ∧ Stands "0.01".toList (1 / 100) ∧ self.compare other = .gt ∧
      Ord.compare (0 : ℚ) (1 / 100) = .lt := by
  refine ⟨⟨false, ['0'], 0⟩, ⟨false, ['1'], -1⟩, by decide +kernel, by decide +kernel, ?_, ?_,
    by decide +kernel⟩
  · exact ⟨_, @parts_spells _ ⟨false, ['0'], [], 0⟩ (by decide +kernel), by decide +kernel⟩
  · exact ⟨_, @parts_spells _ ⟨false, ['0'], ['0', '1'], 0⟩ (by decide +kernel), by decide +kernel⟩

end NumericLiteral

end Bookie.Policy
