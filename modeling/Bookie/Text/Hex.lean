/-
Hexadecimal text: a byte string as two digits a byte, and a number in a fixed
number of digits. Both can be read back.
-/

import Mathlib.Data.Nat.Digits.Defs
import Bookie.Text.Lines

namespace Bookie.Text

open List

def hexDigit (nibble : Nat) : UInt8 :=
  if nibble < 10 then UInt8.ofNat (48 + nibble) else UInt8.ofNat (87 + nibble)

def hexValue (digit : UInt8) : Nat :=
  if digit ≤ 57 then digit.toNat - 48 else digit.toNat - 87

private theorem hexValue_hexDigit : ∀ nibble < 16, hexValue (hexDigit nibble) = nibble := by
  decide

private theorem hexDigit_ne_hyphen : ∀ nibble < 16, hexDigit nibble ≠ 45 := by
  decide

def hexEncode (bytes : Bytes) : Bytes :=
  bytes.flatMap fun byte => [hexDigit (byte.toNat / 16), hexDigit (byte.toNat % 16)]

theorem hexEncode_length (bytes : Bytes) : (hexEncode bytes).length = 2 * bytes.length := by
  induction bytes with
  | nil => rfl
  | cons byte bytes ih =>
    rw [hexEncode, flatMap_cons, length_append, ← hexEncode]
    simp only [length_cons, length_nil]
    omega

theorem hexEncode_injective : Function.Injective hexEncode := by
  have digit_injective : ∀ left < 16, ∀ right < 16, hexDigit left = hexDigit right →
      left = right := by
    intro left leftSmall right rightSmall same
    rw [← hexValue_hexDigit left leftSmall, same, hexValue_hexDigit right rightSmall]
  intro left
  induction left with
  | nil =>
    intro right same
    have length := congrArg length same
    rw [hexEncode_length, hexEncode_length] at length
    rw [length_nil] at length
    exact (length_eq_zero_iff.mp (by omega)).symm
  | cons byte left ih =>
    intro right same
    cases right with
    | nil => cases same
    | cons other right =>
    simp only [hexEncode, flatMap_cons, cons_append, cons.injEq] at same
    have high := digit_injective _ (by have := byte.toNat_lt; omega) _
      (by have := other.toNat_lt; omega) same.1
    have low := digit_injective _ (by omega) _ (by omega) same.2.1
    have byteEq : byte = other := UInt8.toNat_inj.mp (by omega)
    rw [byteEq, ih same.2.2]

/-- The last `width` hexadecimal digits of a number, highest first. -/
def fixedHex : Nat → Nat → Bytes
  | 0, _ => []
  | width + 1, number => fixedHex width (number / 16) ++ [hexDigit (number % 16)]

def readHex (digits : Bytes) : Nat :=
  digits.foldl (fun number digit => number * 16 + hexValue digit) 0

theorem readHex_fixedHex (width number : Nat) :
    readHex (fixedHex width number) = number % 16 ^ width := by
  induction width generalizing number with
  | zero => simp [fixedHex, readHex, Nat.mod_one]
  | succ width ih =>
    have tail := ih (number / 16)
    rw [readHex] at tail
    rw [fixedHex, readHex, foldl_append, foldl_cons, foldl_nil,
      hexValue_hexDigit _ (Nat.mod_lt _ (by decide)), Nat.pow_succ, Nat.mul_comm (16 ^ width),
      Nat.mod_mul]
    omega

theorem hyphen_not_mem_fixedHex (width number : Nat) : 45 ∉ fixedHex width number := by
  induction width generalizing number with
  | zero => simp [fixedHex]
  | succ width ih =>
    rw [fixedHex, mem_append, mem_singleton, not_or]
    exact ⟨ih _, Ne.symm (hexDigit_ne_hyphen _ (Nat.mod_lt _ (by decide)))⟩

end Bookie.Text
