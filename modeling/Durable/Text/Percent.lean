import Mathlib.Data.List.Basic

/-! Percent-encoded texts: their bytes, each written as a plain character or as two digits. -/

namespace Percent

/-- The bytes of the characters that are left as they are: letters, digits, and some marks. -/
def isPlain (code : Nat) : Bool :=
  decide (65 ≤ code ∧ code ≤ 90) || decide (97 ≤ code ∧ code ≤ 122) ||
    decide (48 ≤ code ∧ code ≤ 57) || [45, 95, 46, 33, 126, 42, 39, 40, 41].contains code

/-- A digit of sixteen. -/
def hexDigit (digit : Nat) : Char := Char.ofNat (if digit < 10 then 48 + digit else 55 + digit)

/-- A byte as it is written. -/
def encodeByte (byte : UInt8) : List Char :=
  if isPlain byte.toNat then [Char.ofNat byte.toNat]
  else ['%', hexDigit (byte.toNat / 16), hexDigit (byte.toNat % 16)]

/-- The bytes of a text. -/
def bytes (text : String) : List UInt8 := text.toByteArray.data.toList

/-- A text as it is written. -/
def encode (text : String) : String := String.ofList ((bytes text).flatMap encodeByte)

/-- A character is the one of its code. -/
theorem ofNat_inj {code other : Nat} (small : code < 256) (small' : other < 256)
    (same : Char.ofNat code = Char.ofNat other) : code = other := by
  have valid : code.isValidChar := Or.inl (by omega)
  have valid' : other.isValidChar := Or.inl (by omega)
  have codes := congrArg Char.toNat same
  unfold Char.ofNat at codes
  rw [dif_pos valid, dif_pos valid'] at codes
  exact codes

/-- A digit is the one of its value. -/
theorem hexDigit_inj {digit other : Nat} (small : digit < 16) (small' : other < 16)
    (same : hexDigit digit = hexDigit other) : digit = other := by
  have codes := ofNat_inj (by split <;> omega) (by split <;> omega) same
  split at codes
  · split at codes
    · omega
    · omega
  · split at codes
    · omega
    · omega

/-- A byte written as a character, where it counts as plain, or as two digits. -/
def writeByte (plain : Nat → Bool) (byte : UInt8) : List Char :=
  if plain byte.toNat then [Char.ofNat byte.toNat]
  else ['%', hexDigit (byte.toNat / 16), hexDigit (byte.toNat % 16)]

section Writing

variable {plain : Nat → Bool}

/-- A plain byte is not that of the mark before the digits. -/
theorem ne_mark_of_plain (marked : plain 37 = false) {byte : UInt8}
    (own : plain byte.toNat = true) : Char.ofNat byte.toNat ≠ '%' := by
  intro same
  have code : byte.toNat = 37 := ofNat_inj byte.toNat_lt_size (by omega) same
  rw [code, marked] at own
  cases own

/-- What follows a written byte tells neither it nor its rest apart from others. -/
theorem writeByte_append_inj (marked : plain 37 = false) {byte other : UInt8}
    {rest rest' : List Char}
    (same : writeByte plain byte ++ rest = writeByte plain other ++ rest') :
    byte = other ∧ rest = rest' := by
  unfold writeByte at same
  have bound := byte.toNat_lt_size
  have bound' := other.toNat_lt_size
  simp only [UInt8.size] at bound bound'
  -- One character, or the mark and two digits; no plain character is the mark.
  split at same
  · rename_i own
    split at same
    · obtain ⟨chars, rests⟩ := List.cons.inj same
      exact ⟨UInt8.toNat_inj.mp (ofNat_inj bound bound' chars), rests⟩
    · exact absurd (List.cons.inj same).1 (ne_mark_of_plain marked own)
  · split at same
    · rename_i own
      exact absurd (List.cons.inj same).1.symm (ne_mark_of_plain marked own)
    · obtain ⟨-, digits⟩ := List.cons.inj same
      obtain ⟨high, digits⟩ := List.cons.inj digits
      obtain ⟨low, rests⟩ := List.cons.inj digits
      have highs := hexDigit_inj (by omega) (by omega) high
      have lows := hexDigit_inj (by omega) (by omega) low
      exact ⟨UInt8.toNat_inj.mp (by omega), rests⟩

/-- A written byte is not nothing. -/
theorem writeByte_ne_nil (byte : UInt8) : writeByte plain byte ≠ [] := by
  unfold writeByte
  split
  · exact List.cons_ne_nil _ _
  · exact List.cons_ne_nil _ _

/-- Bytes are written in one way. -/
theorem flatMap_writeByte_inj (marked : plain 37 = false) {one other : List UInt8}
    (same : one.flatMap (writeByte plain) = other.flatMap (writeByte plain)) : one = other := by
  induction one generalizing other with
  | nil =>
    cases other with
    | nil => rfl
    | cons byte rest =>
      rw [List.flatMap_nil, List.flatMap_cons] at same
      exact absurd (List.append_eq_nil_iff.mp same.symm).1 (writeByte_ne_nil byte)
  | cons byte rest ih =>
    cases other with
    | nil =>
      rw [List.flatMap_nil, List.flatMap_cons] at same
      exact absurd (List.append_eq_nil_iff.mp same).1 (writeByte_ne_nil byte)
    | cons byte' rest' =>
      rw [List.flatMap_cons, List.flatMap_cons] at same
      obtain ⟨rfl, rests⟩ := writeByte_append_inj marked same
      rw [ih rests]

end Writing

/-- A text is its bytes. -/
theorem bytes_inj {one other : String} (same : bytes one = bytes other) : one = other :=
  String.toByteArray_inj.mp (ByteArray.ext (Array.toList_inj.mp same))

/-- The bytes of an array from a place on, behind those that have been read. -/
theorem toList_loop_eq (array : ByteArray) (place : Nat) (read : List UInt8) :
    ByteArray.toList.loop array place read = read.reverse ++ array.data.toList.drop place := by
  fun_induction ByteArray.toList.loop array place read with
  | case1 place read within ih =>
    rw [ih]
    have inside : place < array.data.toList.length := by simpa [ByteArray.size_data] using within
    rw [List.drop_eq_getElem_cons inside]
    have here : array.get! place = array.data.toList[place] := by
      show array.data[place]! = array.data.toList[place]
      rw [getElem!_pos array.data place within, Array.getElem_toList]
    rw [here]
    simp
  | case2 place read beyond =>
    have outside : array.data.toList.length ≤ place := by simpa [ByteArray.size_data] using beyond
    rw [List.drop_eq_nil_of_le outside, List.append_nil]

/-- The bytes of a text. -/
theorem toUTF8_toList (text : String) : text.toUTF8.toList = bytes text := by
  unfold ByteArray.toList bytes
  rw [toList_loop_eq]
  simp
/-- Texts that are written alike are the same. -/
theorem encode_inj {one other : String} (same : encode one = encode other) : one = other := by
  have written : (bytes one).flatMap (writeByte isPlain) =
      (bytes other).flatMap (writeByte isPlain) := String.ofList_inj.mp same
  exact bytes_inj (flatMap_writeByte_inj (by decide) written)

example : encode "a:b c" = "a%3Ab%20c" := by decide

end Percent
