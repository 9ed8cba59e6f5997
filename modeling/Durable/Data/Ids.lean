/-! Numbers inside ids: how they are read, and that equal texts come from equal numbers. -/

namespace Durable

/-- A nonempty run of digits, as a number. -/
def digitsOf (part : List Char) : Option Nat :=
  if !part.isEmpty && part.all Char.isDigit then
    some (part.foldl (fun number digit => 10 * number + (digit.toNat - 48)) 0)
  else none

/-- Two numbers with one text are one number. -/
theorem number_injective {left right : Nat} (same : toString left = toString right) :
    left = right := by
  -- A number is read back from its digits.
  have digits : Nat.toDigits 10 left = Nat.toDigits 10 right := by
    rw [← Nat.toList_repr, ← Nat.toList_repr]
    exact congrArg String.toList same
  rw [← Nat.ofDigitChars_ten_toDigits (n := left), digits, Nat.ofDigitChars_ten_toDigits]

/-- Two ids with one opening and one text end in one number. -/
theorem numbered_injective {opening : String} {left right : Nat}
    (same : opening ++ toString left = opening ++ toString right) : left = right :=
  number_injective ((String.append_right_inj opening).mp same)

/-- Two ids that end in a number behind a separator agree on what precedes the separator. -/
theorem separated_injective (separator : String) {mark : Char}
    (single : separator.toList = [mark]) (notDigit : mark.isDigit = false)
    {left right : String} {first second : Nat}
    (same : left ++ separator ++ toString first = right ++ separator ++ toString second) :
    left = right ∧ first = second := by
  have unmarked : ∀ number : Nat, ∀ digit ∈ (toString number).toList.reverse,
      (digit != mark) = true := by
    intro number digit member
    have digits : (toString number).toList = Nat.toDigits 10 number := Nat.toList_repr
    rw [List.mem_reverse, digits] at member
    have figure : digit.isDigit = true :=
      Nat.isDigit_of_mem_toDigits (show 0 < 10 by decide) (by decide) member
    simp only [bne_iff_ne, ne_eq]
    intro equal
    rw [equal, notDigit] at figure
    exact Bool.false_ne_true figure
  -- Read backwards, the number is what comes before the separator.
  have tails : ∀ (text : String) (number : Nat),
      (text ++ separator ++ toString number).toList.reverse.takeWhile (· != mark) =
        (toString number).toList.reverse := by
    intro text number
    rw [String.toList_append, String.toList_append, List.reverse_append, List.reverse_append,
      List.takeWhile_append_of_pos (unmarked number), single]
    simp
  have texts := congrArg (fun text : String => text.toList.reverse.takeWhile (· != mark)) same
  simp only [tails, List.reverse_inj, String.toList_inj] at texts
  have numbers := number_injective texts
  subst numbers
  have openings := (String.append_left_inj _).mp same
  exact ⟨(String.append_left_inj _).mp openings, rfl⟩

/-- A number is written in digits. -/
theorem isDigit_of_mem {number : Nat} {char : Char} (listed : char ∈ (toString number).toList) :
    char.isDigit = true := by
  have digits : (toString number).toList = Nat.toDigits 10 number := Nat.toList_repr
  rw [digits] at listed
  exact Nat.isDigit_of_mem_toDigits (by decide) (by decide) listed

/-- A number is written in at least one digit. -/
theorem toString_ne_nil (number : Nat) : (toString number).toList ≠ [] := by
  have digits : (toString number).toList = Nat.toDigits 10 number := Nat.toList_repr
  rw [digits]
  exact Nat.toDigits_ne_nil

/-- What is not a digit is not in a number. -/
theorem notMem_toDigits {mark : Char} (other : mark.isDigit = false) (number : Nat) :
    mark ∉ Nat.toDigits 10 number := by
  intro listed
  rw [← Nat.toList_repr] at listed
  rw [isDigit_of_mem listed] at other
  exact Bool.noConfusion other

/-- A number is read back from its digits. -/
theorem digitsOf_toString (number : Nat) : digitsOf (toString number).toList = some number := by
  have every : (toString number).toList.all Char.isDigit = true :=
    List.all_eq_true.mpr fun _ listed => isDigit_of_mem listed
  have digits : (toString number).toList = Nat.toDigits 10 number := Nat.toList_repr
  have read := Nat.ofDigitChars_ten_toDigits (n := number)
  have filled : (toString number).toList.isEmpty = false := by
    rw [List.isEmpty_eq_false_iff]
    exact toString_ne_nil number
  unfold digitsOf
  rw [every, filled, digits]
  exact congrArg some read

/-- A number is read back from the list of its digits. -/
@[simp]
theorem digitsOf_toDigits (number : Nat) : digitsOf (Nat.toDigits 10 number) = some number := by
  rw [← Nat.toList_repr]
  exact digitsOf_toString number

/-- The digits of two numbers are the same only for one number. -/
theorem toDigits_inj {left right : Nat} (same : Nat.toDigits 10 left = Nat.toDigits 10 right) :
    left = right := by
  have read := congrArg digitsOf same
  rw [digitsOf_toDigits, digitsOf_toDigits] at read
  exact Option.some.inj read

end Durable
