import Mathlib.Data.List.Basic

/-! Bytes written in base64, three of them as four digits, and read back. -/

namespace Base64

/-- The digits, in the order of their values. -/
def digits : List Char :=
  "ABCDEFGHIJKLMNOPQRSTUVWXYZabcdefghijklmnopqrstuvwxyz0123456789+/".toList

/-- The digit of six bits. -/
def digit (bits : Nat) : Char := digits.getD bits '='

/-- The digits of a list of bytes, padded to a multiple of four. -/
def encode : List Nat → List Char
  | [] => []
  | [a] => [digit (a / 4), digit (a % 4 * 16), '=', '=']
  | [a, b] => [digit (a / 4), digit (a % 4 * 16 + b / 16), digit (b % 16 * 4), '=']
  | a :: b :: c :: rest =>
    [digit (a / 4), digit (a % 4 * 16 + b / 16), digit (b % 16 * 4 + c / 64), digit (c % 64)] ++
      encode rest

/-- The six bits of a digit, the two of the alphabet for addresses among them. -/
def value (char : Char) : Option Nat :=
  if char = '-' then some 62 else if char = '_' then some 63 else digits.idxOf? char

/-- The bits of a text's digits, up to its padding. What is no digit is passed over. -/
def values (text : List Char) : List Nat := (text.takeWhile (· ≠ '=')).filterMap value

/-- The bytes of groups of six bits. -/
def bytes : List Nat → List Nat
  | a :: b :: c :: d :: rest =>
    [a * 4 + b / 16, b % 16 * 16 + c / 4, c % 4 * 64 + d] ++ bytes rest
  | [a, b, c] => [a * 4 + b / 16, b % 16 * 16 + c / 4]
  | [a, b] => [a * 4 + b / 16]
  | _ => []

/-- The bytes of a text. -/
def decode (text : List Char) : List Nat := bytes (values text)

/-- A digit that was written is read, and is no padding. -/
theorem value_digit : ∀ bits < 64, digit bits ≠ '=' ∧ value (digit bits) = some bits := by
  decide +kernel

/-- A digit stands for its bits, before those of the digits behind it. -/
theorem values_digit {bits : Nat} (small : bits < 64) (rest : List Char) :
    values (digit bits :: rest) = bits :: values rest := by
  obtain ⟨other, read⟩ := value_digit bits small
  unfold values
  rw [List.takeWhile_cons_of_pos (by simpa using other), List.filterMap_cons_some read]

/-- Padding stands for nothing. -/
theorem values_padding (rest : List Char) : values ('=' :: rest) = [] := by
  unfold values
  rw [List.takeWhile_cons_of_neg (by decide), List.filterMap_nil]

/-- What was written is read back. -/
theorem decode_encode {list : List Nat} (small : ∀ byte ∈ list, byte < 256) :
    decode (encode list) = list := by
  fun_induction encode list with
  | case1 => rfl
  | case2 a =>
    have below := small a (by simp)
    unfold decode
    rw [values_digit (by omega), values_digit (by omega), values_padding, bytes]
    congr 1
    omega
  | case3 a b =>
    have below := small a (by simp)
    have below' := small b (by simp)
    unfold decode
    rw [values_digit (by omega), values_digit (by omega), values_digit (by omega), values_padding,
      bytes]
    congr 1
    · omega
    · congr 1
      omega
  | case4 a b c rest ih =>
    have below := small a (by simp)
    have below' := small b (by simp)
    have below'' := small c (by simp)
    have later : bytes (values (encode rest)) = rest := ih fun byte listed =>
      small byte (by simp [listed])
    unfold decode
    simp only [List.cons_append, List.nil_append]
    rw [values_digit (by omega), values_digit (by omega), values_digit (by omega),
      values_digit (by omega), bytes, later]
    -- Each byte is put together from what two digits hold of it.
    have first : a / 4 * 4 + (a % 4 * 16 + b / 16) / 16 = a := by omega
    have second : (a % 4 * 16 + b / 16) % 16 * 16 + (b % 16 * 4 + c / 64) / 4 = b := by omega
    have third : (b % 16 * 4 + c / 64) % 4 * 64 + c % 64 = c := by omega
    rw [first, second, third]
    rfl

/-- A text in base64 is made of digits and padding. -/
theorem mem_encode {list : List Nat} {char : Char} (listed : char ∈ encode list) :
    char ∈ '=' :: digits := by
  have digit_mem : ∀ bits, digit bits ∈ '=' :: digits := by
    intro bits
    unfold digit
    rw [List.getD_eq_getElem?_getD]
    cases found : digits[bits]? with
    | none => exact List.mem_cons_self
    | some char => exact List.mem_cons_of_mem _ (List.mem_of_getElem? found)
  revert listed
  fun_induction encode list with
  | case1 => simp
  | case2 a =>
    intro listed
    simp only [List.mem_cons, List.not_mem_nil, or_false] at listed
    rcases listed with rfl | rfl | rfl | rfl
    · exact digit_mem _
    · exact digit_mem _
    · exact List.mem_cons_self
    · exact List.mem_cons_self
  | case3 a b =>
    intro listed
    simp only [List.mem_cons, List.not_mem_nil, or_false] at listed
    rcases listed with rfl | rfl | rfl | rfl
    · exact digit_mem _
    · exact digit_mem _
    · exact digit_mem _
    · exact List.mem_cons_self
  | case4 a b c rest ih =>
    intro listed
    simp only [List.cons_append, List.nil_append, List.mem_cons] at listed
    rcases listed with rfl | rfl | rfl | rfl | later
    · exact digit_mem _
    · exact digit_mem _
    · exact digit_mem _
    · exact digit_mem _
    · exact ih later

end Base64
