/-
UTF-8 as lists of bytes. A position in the bytes of a text lies between two
characters exactly if the byte after it does not continue a character; what is
read from the bytes alone is carried back to the characters by that.
-/

import Mathlib.Data.List.Basic

namespace Bookie.Text

open List

def encode (text : List Char) : List UInt8 := text.flatMap String.utf8EncodeChar

def Continues (b : UInt8) : Prop := 128 ≤ b.toNat ∧ b.toNat < 192

instance (b : UInt8) : Decidable (Continues b) := inferInstanceAs (Decidable (_ ∧ _))

/-- No character is cut before these bytes. -/
def Clean (bytes : List UInt8) : Prop := ∀ b, bytes.head? = some b → ¬ Continues b

@[simp] theorem encode_nil : encode [] = [] := rfl

@[simp] theorem encode_cons (c : Char) (text : List Char) :
    encode (c :: text) = String.utf8EncodeChar c ++ encode text := rfl

@[simp] theorem encode_append (before after : List Char) :
    encode (before ++ after) = encode before ++ encode after := by
  simp [encode]

theorem clean_nil : Clean [] := by
  intro b head
  cases head

variable {bytes : List UInt8} {c : Char} {after : List UInt8} {text : List Char}

theorem clean_cons {b : UInt8} : Clean (b :: bytes) ↔ ¬ Continues b := by
  constructor
  · intro clean
    exact clean b rfl
  · intro first other head
    cases head
    exact first

theorem encodeChar_ascii (ascii : c.toNat < 128) : String.utf8EncodeChar c = [c.toUInt8] := by
  have narrow : c.val.toNat ≤ 127 := Nat.le_of_lt_succ ascii
  rw [String.utf8EncodeChar.eq_1, if_pos narrow]
  rfl

/-- A fact about ASCII characters is checked character by character. -/
theorem ascii_all (p : Char → Prop) (all : ∀ n < 128, p (Char.ofNat n)) (c : Char)
    (ascii : c.toNat < 128) : p c := by
  have checked := all c.toNat ascii
  rwa [Char.ofNat_toNat] at checked

/-- A character is a first byte and the bytes that continue it. -/
theorem encodeChar_shape (c : Char) :
    ∃ first rest, String.utf8EncodeChar c = first :: rest ∧ ¬ Continues first ∧
      (∀ b ∈ rest, Continues b) ∧ (first.toNat < 128 → rest = []) := by
  rw [String.utf8EncodeChar.eq_1]
  split_ifs with one two three
  · refine ⟨_, [], rfl, ?_, by simp, fun _ => rfl⟩
    simp only [Continues, UInt8.toNat_ofNat']
    omega
  · refine ⟨_, _, rfl, ?_, ?_, ?_⟩ <;>
      simp only [Continues, UInt8.toNat_ofNat', mem_cons, not_mem_nil, or_false,
        forall_eq] <;> omega
  · refine ⟨_, _, rfl, ?_, ?_, ?_⟩ <;>
      simp only [Continues, UInt8.toNat_ofNat', mem_cons, not_mem_nil, or_false,
        forall_eq_or_imp, forall_eq] <;> omega
  · refine ⟨_, _, rfl, ?_, ?_, ?_⟩ <;>
      simp only [Continues, UInt8.toNat_ofNat', mem_cons, not_mem_nil, or_false,
        forall_eq_or_imp, forall_eq] <;> omega

theorem encodeChar_wide (wide : 128 ≤ c.toNat) : ∀ b ∈ String.utf8EncodeChar c, 128 ≤ b.toNat := by
  have notNarrow : ¬ c.val.toNat ≤ 127 := fun narrow => absurd narrow (by
    have same : c.toNat = c.val.toNat := rfl
    omega)
  rw [String.utf8EncodeChar.eq_1]
  split_ifs <;>
    simp only [UInt8.toNat_ofNat', mem_cons, not_mem_nil, or_false, forall_eq_or_imp,
      forall_eq] <;> omega

theorem encodeChar_clean (c : Char) (bytes : List UInt8) :
    Clean (String.utf8EncodeChar c ++ bytes) := by
  obtain ⟨first, rest, shape, starts, -, -⟩ := encodeChar_shape c
  rw [shape, cons_append, clean_cons]
  exact starts

theorem encode_clean (text : List Char) : Clean (encode text) := by
  cases text with
  | nil => exact clean_nil
  | cons c text => exact encodeChar_clean c _

/-! ### Positions between characters -/

/-- Bytes that continue a character stay with it when a text is cut cleanly. -/
private theorem cut_behind {rest tail before : List UInt8} (continues : ∀ b ∈ rest, Continues b)
    (same : rest ++ tail = before ++ after) (clean : Clean after) :
    rest <+: before := by
  induction rest generalizing before with
  | nil => exact nil_prefix
  | cons b rest ih =>
    have continued := forall_mem_cons.mp continues
    cases before with
    | nil =>
      subst same
      exact absurd continued.1 (clean_cons.mp clean)
    | cons b' before =>
      obtain ⟨rfl, behind⟩ := cons.inj same
      exact cons_prefix_cons.mpr ⟨rfl, ih continued.2 behind⟩

theorem encode_cut {before : List UInt8} (same : encode text = before ++ after)
    (clean : Clean after) :
    ∃ front back, text = front ++ back ∧ encode front = before ∧ encode back = after := by
  induction text generalizing before with
  | nil =>
    obtain ⟨rfl, rfl⟩ := append_eq_nil_iff.mp same.symm
    exact ⟨[], [], rfl, rfl, rfl⟩
  | cons c text ih =>
    cases before with
    | nil => exact ⟨[], c :: text, rfl, rfl, same⟩
    | cons b before =>
    obtain ⟨first, rest, shape, -, continues, -⟩ := encodeChar_shape c
    rw [encode_cons, shape, cons_append, cons_append] at same
    obtain ⟨rfl, behind⟩ := cons.inj same
    obtain ⟨more, rfl⟩ := cut_behind continues behind clean
    rw [append_assoc] at behind
    obtain ⟨front, back, rfl, rfl, rfl⟩ := ih (append_cancel_left behind)
    refine ⟨c :: front, back, rfl, ?_, rfl⟩
    rw [encode_cons, shape, cons_append]

theorem clean_after_ascii {text : List Char} {before after : List UInt8} {b : UInt8}
    (same : encode text = before ++ b :: after) (ascii : b.toNat < 128) : Clean after := by
  have starts : ¬ Continues b := fun continued => by
    have low := continued.1
    omega
  obtain ⟨front, back, -, -, rest⟩ := encode_cut same (clean_cons.mpr starts)
  cases back with
  | nil => cases rest
  | cons c back =>
  obtain ⟨first, bytes, shape, -, -, alone⟩ := encodeChar_shape c
  rw [encode_cons, shape] at rest
  obtain ⟨rfl, behind⟩ := cons.inj rest
  rw [alone ascii] at behind
  rw [← behind]
  exact encode_clean back

private theorem encodeChar_inj {d : Char} {left right : List UInt8}
    (same : String.utf8EncodeChar c ++ left = String.utf8EncodeChar d ++ right) : c = d := by
  have decodes (e : Char) (bytes : List UInt8) :
      (String.utf8EncodeChar e ++ bytes).toByteArray.utf8DecodeChar? 0 = some e := by
    rw [toByteArray_append]
    exact ByteArray.utf8DecodeChar?_utf8EncodeChar_append
  have left' := decodes c left
  rw [same, decodes d right] at left'
  exact (Option.some.inj left').symm

theorem encode_behind {found : List Char} (same : encode text = encode found ++ after) :
    ∃ back, text = found ++ back ∧ encode back = after := by
  induction found generalizing text with
  | nil => exact ⟨text, rfl, same⟩
  | cons d found ih =>
    cases text with
    | nil =>
      have empty := (append_eq_nil_iff.mp (append_eq_nil_iff.mp same.symm).1).1
      exact absurd empty String.utf8EncodeChar_ne_nil
    | cons c text =>
    rw [encode_cons, encode_cons, append_assoc] at same
    obtain rfl := encodeChar_inj same
    obtain ⟨back, rfl, rest⟩ := ih (append_cancel_left same)
    exact ⟨back, rfl, rest⟩

/-! ### Bytes of whole characters -/

def Whole (bytes : List UInt8) : Prop := ∃ text, encode text = bytes

/-- So many bytes make up whole characters of the text. -/
def OnBoundary (text : List Char) (position : Nat) : Prop :=
  ∃ front back, text = front ++ back ∧ (encode front).length = position

theorem onBoundary_of_clean {position : Nat} (within : position ≤ (encode text).length)
    (clean : Clean ((encode text).drop position)) :
    OnBoundary text position := by
  obtain ⟨front, back, same, taken, -⟩ :=
    encode_cut (take_append_drop position (encode text)).symm clean
  refine ⟨front, back, same, ?_⟩
  rw [taken, length_take]
  omega

theorem Whole.clean (whole : Whole bytes) : Clean bytes := by
  obtain ⟨text, rfl⟩ := whole
  exact encode_clean text

theorem Whole.cut {before after : List UInt8} (whole : Whole (before ++ after))
    (clean : Clean after) : Whole before ∧ Whole after := by
  obtain ⟨text, same⟩ := whole
  obtain ⟨front, back, -, rfl, rfl⟩ := encode_cut same clean
  exact ⟨⟨front, rfl⟩, back, rfl⟩

theorem Whole.tail {b : UInt8} (whole : Whole (b :: bytes)) (ascii : b.toNat < 128) :
    Whole bytes := by
  obtain ⟨text, same⟩ := whole
  have clean : Clean bytes := @clean_after_ascii text [] bytes b same ascii
  exact (@Whole.cut [b] bytes ⟨text, same⟩ clean).2

theorem Whole.drop (whole : Whole bytes) {count : Nat}
    (ascii : ∀ b ∈ bytes.take count, b.toNat < 128) : Whole (bytes.drop count) := by
  induction count generalizing bytes with
  | zero => exact whole
  | succ count ih =>
    cases bytes with
    | nil => exact whole
    | cons b bytes =>
      rw [take_succ_cons, forall_mem_cons] at ascii
      exact ih (whole.tail ascii.1) ascii.2

theorem Whole.dropWhile {p : UInt8 → Bool} (whole : Whole bytes)
    (ascii : ∀ b, p b = true → b.toNat < 128) : Whole (bytes.dropWhile p) := by
  induction bytes with
  | nil => exact whole
  | cons b bytes ih =>
    rw [dropWhile_cons]
    split
    · rename_i passes
      exact ih (whole.tail (ascii b passes))
    · exact whole

theorem Whole.takeWhile {p : UInt8 → Bool} (whole : Whole bytes)
    (ascii : ∀ b, p b = false → b.toNat < 128) : Whole (bytes.takeWhile p) := by
  have clean : Clean (bytes.dropWhile p) := by
    intro b head continued
    have stops := head?_dropWhile_not p bytes
    rw [head] at stops
    have low := ascii b (by simpa using stops)
    have high := continued.1
    omega
  rw [← takeWhile_append_dropWhile (p := p) (l := bytes)] at whole
  exact (whole.cut clean).1

end Bookie.Text
