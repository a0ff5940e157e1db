/-
Hexadecimal input. Four readers leave the digits to the `from_str_radix` of the integer types,
which allows a plus sign in front of them. Without such a sign they are strict.
-/

import Bookie.ClickHouse.Literal
import Bookie.Policy.NumericLiteral
import Bookie.Sql.LiteralTokens

namespace Bookie.Core

open List Policy Sql Text
open ClickHouse (natText intText)

/-- The number a group of hexadecimal digits denotes, below the limit. -/
def hexGroup (limit : Nat) (digits : List Char) : Option Nat :=
  if digits.isEmpty then none
  else (digits.foldlM (fun number digit => (hexDigitValue digit).map (16 * number + ·)) 0).filter
    (· < limit)

def unsigned : List Char → List Char
  | '+' :: digits => digits
  | digits => digits

/-- `from_str_radix` with the radix 16, of an unsigned type whose values are below the limit. -/
def fromStrRadix (limit : Nat) (text : List Char) : Option Nat :=
  hexGroup limit (unsigned text)

-- The source pairs bytes. A text with a longer character is refused in either case.
def inPairs : List Char → Option (List (List Char))
  | [] => some []
  | [_] => none
  | first :: second :: rest => (inPairs rest).map ([first, second] :: ·)

def readBytes (groups : List (List Char)) : Option (List UInt8) :=
  (groups.mapM (fromStrRadix 256)).map (·.map UInt8.ofNat)

def hexDigits : List Char → List Char
  | '0' :: 'x' :: digits | '0' :: 'X' :: digits | '\\' :: 'x' :: digits => digits
  | text => text

def decodeHex (text : List Char) : Option (List UInt8) := (inPairs text).bind readBytes

/-- The only error is `CellError::NotBytes`. -/
def parseBytes (text : List Char) : Option Value := (decodeHex (hexDigits text)).map .bytes

def encodePgMacAddress (octets : Nat) (value : List Char) : Option (List UInt8) :=
  let parts := value.splitOn ':'
  if parts.length = octets ∧ ∀ part ∈ parts, part.length = 2 then readBytes parts else none

def toBeBytes (number : Nat) : List UInt8 :=
  (range 8).reverse.map fun place => UInt8.ofNat (number / 256 ^ place)

/-- There is exactly one slash. -/
def encodePgLsn (value : List Char) : Option (List UInt8) :=
  match value.splitOn '/' with
  | [high, low] =>
    if high.isEmpty || low.isEmpty then none
    else do
      let high ← fromStrRadix (2 ^ 32) high
      let low ← fromStrRadix (2 ^ 32) low
      return toBeBytes (high <<< 32 ||| low)
  | _ => none

namespace SqliteAnyCsv

def tag : List Char := "bookie:sqlite-any:v1:".toList

def tagged (kind : String) (text : List Char) : List Char := tag ++ (kind.toList ++ ':' :: text)

-- How floating point numbers are written and read.
variable (floatText : UInt64 → List Char) (parseFloat : List Char → Option UInt64)

def encode : Value → Option (List Char)
  | .int value => some (tagged "integer" (intText value))
  | .float bits => some (tagged "real" (floatText bits))
  | .text value => some (tagged "text" value.toList)
  | .bytes value => some (tagged "blob" (hexText value))
  | _ => none

def decodeKind (kind value : List Char) : Option Value :=
  if kind = "integer".toList then (parseI64 value).map .int
  else if kind = "real".toList then (parseFloat value).map .float
  else if kind = "text".toList then some (.text (String.ofList value))
  else if kind = "blob".toList then (decodeHex value).map .bytes
  else none

def splitOnce (separator : Char) (text : List Char) : Option (List Char × List Char) :=
  if separator ∈ text then
    some (text.takeWhile (· != separator), (text.dropWhile (· != separator)).tail)
  else none

/-- The outer `none` is `DecodeError::Malformed`, the only error. -/
def decode (text : List Char) : Option (Option Value) :=
  if tag <+: text then do
    let (kind, value) ← splitOnce ':' (text.drop tag.length)
    (decodeKind parseFloat kind value).map some
  else some none

end SqliteAnyCsv

open SqliteAnyCsv

/-! ### What strict readers accept -/

inductive HexReader where
  | parseBytes
  | blob (parseFloat : List Char → Option UInt64)
  | macAddress (octets : Nat)
  | lsn

namespace HexReader

def Accepts : HexReader → List Char → List UInt8 → Prop
  | .parseBytes, text, bytes => Core.parseBytes text = some (.bytes bytes)
  | .blob parseFloat, text, bytes =>
    decode parseFloat (tagged "blob" text) = some (some (.bytes bytes))
  | .macAddress octets, text, bytes => encodePgMacAddress octets text = some bytes
  | .lsn, text, bytes => encodePgLsn text = some bytes

def Pairs (text : List Char) (groups : List (List Char)) : Prop :=
  groups.flatten = text ∧ ∀ group ∈ groups, group.length = 2

/-- The text is made of these groups. -/
def Groups : HexReader → List Char → List (List Char) → Prop
  | .parseBytes, text, groups => Pairs (hexDigits text) groups
  | .blob _, text, groups => Pairs text groups
  | .macAddress octets, text, groups => text.splitOn ':' = groups ∧ groups.length = octets ∧
    ∀ group ∈ groups, group.length = 2
  | .lsn, text, groups => text.splitOn '/' = groups ∧ groups.length = 2

def limit : HexReader → Nat
  | .lsn => 2 ^ 32
  | _ => 256

def result : HexReader → List Nat → List UInt8
  | .lsn, [high, low] => toBeBytes (high * 2 ^ 32 + low)
  | _, values => values.map UInt8.ofNat

/-- Every group consists of digits, and the bytes are those the digits denote. -/
def Strict (reader : HexReader) (text : List Char) (bytes : List UInt8) : Prop :=
  ∃ groups, reader.Groups text groups ∧
    ∃ values, groups.mapM (hexGroup reader.limit) = some values ∧ reader.result values = bytes

/-- A group starts with a plus sign, and without such signs the text is one of digits. -/
def Signed (reader : HexReader) (text : List Char) : Prop :=
  ∃ groups, reader.Groups text groups ∧ (∃ group ∈ groups, group.head? = some '+') ∧
    ∃ values, (groups.map unsigned).mapM (hexGroup reader.limit) = some values

/-! ### One group -/

variable {limit : Nat} {groups : List (List Char)} {values : List Nat}

private theorem hexGroup_plus {group : List Char} (plus : group.head? = some '+') :
    hexGroup limit group = none := by
  obtain ⟨digits, rfl⟩ := head?_eq_some_iff.mp plus
  rfl

private theorem unsigned_of_ne {group : List Char} (bare : group.head? ≠ some '+') :
    unsigned group = group := by
  unfold unsigned
  split
  · exact absurd rfl bare
  · rfl

private theorem mapM_fromStrRadix :
    groups.mapM (fromStrRadix limit) = (groups.map unsigned).mapM (hexGroup limit) := mapM_map.symm

private theorem head_of_mapM (digits : groups.mapM (hexGroup limit) = some values) :
    ∀ group ∈ groups, group.head? ≠ some '+' := by
  induction groups generalizing values with
  | nil => nofun
  | cons group groups ih =>
    rw [mapM_cons] at digits
    obtain ⟨value, first, rest⟩ := Option.bind_eq_some_iff.mp digits
    obtain ⟨others, rest, -⟩ := Option.bind_eq_some_iff.mp rest
    refine forall_mem_cons.mpr ⟨fun plus => ?_, ih rest⟩
    rw [hexGroup_plus plus] at first
    cases first

private theorem map_unsigned (bare : ∀ group ∈ groups, group.head? ≠ some '+') :
    groups.map unsigned = groups :=
  (map_congr_left fun group member => unsigned_of_ne (bare group member)).trans (map_id _)

/-! ### The groups of a text -/

private theorem inPairs_flatten (pairs : ∀ group ∈ groups, group.length = 2) :
    inPairs groups.flatten = some groups := by
  induction groups with
  | nil => rfl
  | cons group groups ih =>
    obtain ⟨first, rest⟩ := forall_mem_cons.mp pairs
    obtain ⟨high, low, rfl⟩ := length_eq_two.mp first
    exact congrArg (Option.map _) (ih rest)

private theorem inPairs_iff {text : List Char} :
    inPairs text = some groups ↔ Pairs text groups := by
  constructor
  · intro paired
    induction text using inPairs.induct generalizing groups with
    | case1 =>
      cases paired
      exact ⟨rfl, nofun⟩
    | case2 => cases paired
    | case3 first second rest ih =>
      obtain ⟨groups, found, rfl⟩ := Option.map_eq_some_iff.mp paired
      obtain ⟨whole, pairs⟩ := ih found
      exact ⟨congrArg (first :: second :: ·) whole, forall_mem_cons.mpr ⟨rfl, pairs⟩⟩
  · rintro ⟨rfl, pairs⟩
    exact inPairs_flatten pairs

private theorem decodeHex_iff {text : List Char} {bytes : List UInt8} :
    decodeHex text = some bytes ↔
    ∃ groups, Pairs text groups ∧ ∃ values, groups.mapM (fromStrRadix 256) = some values ∧
      values.map UInt8.ofNat = bytes := by
  simp only [decodeHex, readBytes, Option.bind_eq_some_iff, Option.map_eq_some_iff, inPairs_iff]

private theorem decode_tagged (parseFloat : List Char → Option UInt64) {kind : String}
    (plain : ':' ∉ kind.toList) (text : List Char) :
    decode parseFloat (tagged kind text) = (decodeKind parseFloat kind.toList text).map some := by
  have other : ∀ c ∈ kind.toList, (c != ':') = true := fun c member =>
    bne_iff_ne.mpr fun same => plain (same ▸ member)
  have starts : tag <+: tag ++ (kind.toList ++ ':' :: text) := prefix_append _ _
  rw [decode, tagged, if_pos starts, drop_left, splitOnce, if_pos (by simp),
    takeWhile_append_of_pos other, dropWhile_append_of_pos other]
  simp

private theorem shifted {high low : Nat} {text : List Char}
    (isLow : fromStrRadix (2 ^ 32) text = some low) :
    high <<< 32 ||| low = high * 2 ^ 32 + low := by
  have small := of_decide_eq_true
    (Option.filter_eq_some_iff.mp (Option.ite_none_left_eq_some.mp isLow).2).2
  rw [← Nat.shiftLeft_add_eq_or_of_lt small, Nat.shiftLeft_eq]

private theorem accepts_iff (reader : HexReader) (text : List Char) (bytes : List UInt8) :
    reader.Accepts text bytes ↔ ∃ groups, reader.Groups text groups ∧
      ∃ values, groups.mapM (fromStrRadix reader.limit) = some values ∧
        reader.result values = bytes := by
  cases reader with
  | parseBytes =>
    rw [Accepts, Core.parseBytes, Option.map_eq_some_iff]
    simp only [Value.bytes.injEq, exists_eq_right]
    exact decodeHex_iff
  | blob parseFloat =>
    rw [Accepts, decode_tagged parseFloat (by decide)]
    change ((decodeHex text).map Value.bytes).map some = _ ↔ _
    simp only [Option.map_map, Option.map_eq_some_iff, Function.comp_apply, Option.some.injEq,
      Value.bytes.injEq, exists_eq_right]
    exact decodeHex_iff
  | macAddress octets =>
    rw [Accepts, encodePgMacAddress, Option.ite_none_right_eq_some, readBytes,
      Option.map_eq_some_iff]
    exact ⟨fun ⟨shape, read⟩ => ⟨_, ⟨rfl, shape⟩, read⟩, fun ⟨_, ⟨same, shape⟩, read⟩ =>
      same ▸ ⟨shape, read⟩⟩
  | lsn =>
    rw [Accepts, encodePgLsn]
    simp only [Groups, and_assoc, exists_eq_left']
    split
    · rename_i high low parts
      simp [parts, limit, result, Option.bind_eq_some_iff, -Nat.reducePow]
      constructor
      · rintro ⟨-, high, isHigh, low, isLow, rfl⟩
        exact ⟨high, isHigh, low, isLow, by rw [shifted isLow]⟩
      · rintro ⟨high', isHigh, low', isLow, rfl⟩
        refine ⟨⟨?_, ?_⟩, high', isHigh, low', isLow, by rw [shifted isLow]⟩
        · rintro rfl
          cases isHigh
        · rintro rfl
          cases isLow
    · rename_i other
      refine iff_of_false nofun fun ⟨two, _⟩ => ?_
      obtain ⟨high, low, parts⟩ := length_eq_two.mp two
      exact other high low parts

private theorem Groups.unique {reader : HexReader} {text : List Char}
    {groups others : List (List Char)}
    (one : reader.Groups text groups) (other : reader.Groups text others) : groups = others := by
  cases reader with
  | parseBytes | blob =>
    exact Option.some_inj.mp ((inPairs_iff.mpr one).symm.trans (inPairs_iff.mpr other))
  | macAddress | lsn => exact one.1.symm.trans other.1

private theorem strict_iff (reader : HexReader) (text : List Char) :
    (∀ bytes, reader.Accepts text bytes ↔ reader.Strict text bytes) ↔ ¬ reader.Signed text := by
  simp only [accepts_iff, mapM_fromStrRadix]
  constructor
  · rintro strict ⟨groups, shape, ⟨group, member, plus⟩, values, read⟩
    obtain ⟨others, same, _, digits, _⟩ := (strict _).mp ⟨groups, shape, values, read, rfl⟩
    rw [← shape.unique same] at digits
    exact head_of_mapM digits group member plus
  · intro unsigned bytes
    refine exists_congr fun groups => and_congr_right fun shape => exists_congr fun values =>
      and_congr_left fun _ => ?_
    by_cases bare : ∀ group ∈ groups, group.head? ≠ some '+'
    · rw [map_unsigned bare]
    · refine iff_of_false (fun read => unsigned ⟨groups, shape, ?_, values, read⟩) fun digits =>
        bare (head_of_mapM digits)
      simpa using bare

end HexReader

/-! ### Values that were written -/

private theorem fromStrRadix_digits : ∀ byte < 256, fromStrRadix 256
    [Char.ofNat (Text.hexDigit (byte / 16)).toNat, Char.ofNat (Text.hexDigit (byte % 16)).toNat] =
      some byte := by
  decide +kernel

private theorem decodeHex_hexText (bytes : List UInt8) :
    decodeHex (hexText bytes) = some bytes := by
  induction bytes with
  | nil => rfl
  | cons byte bytes ih =>
    obtain ⟨groups, paired, read⟩ := Option.bind_eq_some_iff.mp ih
    obtain ⟨values, isRead, rfl⟩ := Option.map_eq_some_iff.mp read
    have cut : inPairs (hexText (byte :: values.map UInt8.ofNat)) = _ :=
      congrArg (Option.map _) paired
    rw [decodeHex, cut]
    refine Option.map_eq_some_iff.mpr ⟨byte.toNat :: values, ?_, by simp⟩
    rw [mapM_cons, fromStrRadix_digits _ byte.toNat_lt, isRead]
    rfl

section Integers

variable (number : Nat)

private theorem natText_digits : ∀ c ∈ natText number, c.isDigit = true :=
  fun _ => Nat.isDigit_of_mem_toDigits (by decide) (by decide)

private theorem stripSign_natText : stripSign (natText number) = (false, natText number) := by
  have digits := natText_digits number
  unfold stripSign
  split
  case h_3 => rfl
  all_goals
    rename_i same
    rw [same] at digits
    exact absurd (digits _ mem_cons_self) (by decide)

private theorem digitsValue_natText : digitsValue (natText number) = number := by
  conv_rhs => rw [← @Nat.ofDigitChars_ten_toDigits number]
  simp [digitsValue, digitValue, Nat.ofDigitChars, natText, Nat.mul_comm]

end Integers

private theorem parseI64_intText (number : Int64) :
    parseI64 (intText number.toInt) = some number.toInt := by
  have low := number.le_toInt
  have high := number.toInt_lt
  generalize number.toInt = number at low high ⊢
  have sign : stripSign (intText number) = (decide (number < 0), natText number.natAbs) := by
    unfold intText
    split
    · rename_i negative
      simp [stripSign, negative]
    · rename_i positive
      rw [stripSign_natText, decide_eq_false positive]
  have digits : (natText number.natAbs).isEmpty = false :=
    List.isEmpty_eq_false_iff.mpr Nat.toDigits_ne_nil
  have all := all_eq_true.mpr (natText_digits number.natAbs)
  have value : (if decide (number < 0) = true then -(number.natAbs : Int) else number.natAbs) =
      number := by
    simp only [decide_eq_true_eq]
    omega
  rw [parseI64, sign]
  simp only [digits, all, digitsValue_natText, value, checkedI64]
  rw [if_neg (by simp), if_pos (by omega)]

/-- What is written is read back. -/
def Restored (floatText : UInt64 → List Char) (parseFloat : List Char → Option UInt64)
    (value : Value) : Prop :=
  (encode floatText value).bind (decode parseFloat) = some (some value)

/-- A reader is strict about a text unless one of its groups is signed. The values that are
written with a tag have no such groups. -/
theorem hexadecimal_strict_iff (reader : HexReader) (text : List Char)
    (floatText : UInt64 → List Char) (parseFloat : List Char → Option UInt64) :
    ((∀ bytes, reader.Accepts text bytes ↔ reader.Strict text bytes) ↔ ¬ reader.Signed text) ∧
      (∀ number : Int64, Restored floatText parseFloat (.int number.toInt)) ∧
      (∀ text, Restored floatText parseFloat (.text text)) ∧
      ∀ bytes, Restored floatText parseFloat (.bytes bytes) := by
  refine ⟨reader.strict_iff text, fun number => ?_, fun text => ?_, fun bytes => ?_⟩
  all_goals refine (HexReader.decode_tagged parseFloat (by decide) _).trans ?_
  · simp [decodeKind, parseI64_intText]
  · simp [decodeKind]
  · simp [decodeKind, decodeHex_hexText]

theorem plus_sign_accepted :
    ¬ ∀ bytes, HexReader.parseBytes.Accepts ['+', 'f'] bytes ↔
      HexReader.parseBytes.Strict ['+', 'f'] bytes := by
  rw [HexReader.strict_iff, not_not]
  exact ⟨[['+', 'f']], ⟨rfl, by simp⟩, ⟨_, mem_cons_self, rfl⟩, [15], by decide⟩

end Bookie.Core
