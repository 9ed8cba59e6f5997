import Durable.Json.Values
import Mathlib.Data.List.TakeWhile

/-! The text of a JSON value, which no other value has. -/

namespace JsonValue

/-- A digit of an escape. -/
def hexDigit (digit : Nat) : Char :=
  if digit < 10 then Char.ofNat (48 + digit) else Char.ofNat (87 + digit)

/-- A character as it stands between quotes. -/
def escaped (char : Char) : List Char :=
  match char.toNat with
  | 8 => ['\\', 'b']
  | 9 => ['\\', 't']
  | 10 => ['\\', 'n']
  | 12 => ['\\', 'f']
  | 13 => ['\\', 'r']
  | 34 => ['\\', char]
  | 92 => ['\\', char]
  | code =>
    if code < 32 then ['\\', 'u', '0', '0', hexDigit (code / 16), hexDigit (code % 16)]
    else [char]

/-- A text between quotes. -/
def quoted (text : List Char) : List Char := '"' :: text.flatMap escaped ++ ['"']

/-- A character that a number can be written with. -/
def isNumeric (char : Char) : Bool := char.isDigit || char ∈ ['-', '+', '.', 'e']

/-- How numbers are written. -/
structure NumberText (Number : Type) where
  write : Number → List Char
  injective : ∀ {left right}, write left = write right → left = right
  numeric : ∀ number, ∀ char ∈ write number, isNumeric char = true
  nonempty : ∀ number, write number ≠ []

/-- No numbers, for values that hold none. -/
def noNumbers : NumberText Empty where
  write number := number.elim
  injective {left} _ := left.elim
  numeric number := number.elim
  nonempty number := number.elim

section Texts

variable {Number : Type} (numbers : NumberText Number)

mutual

/-- The text of a value. -/
def chars : JsonValue Number → List Char
  | null => ['n', 'u', 'l', 'l']
  | bool flag => if flag then ['t', 'r', 'u', 'e'] else ['f', 'a', 'l', 's', 'e']
  | num number => numbers.write number
  | str text => quoted text.toList
  | arr items => '[' :: itemsChars items
  | obj fields => Char.ofNat 123 :: fieldsChars fields

/-- The text of an array's items, and its end. -/
def itemsChars : List (JsonValue Number) → List Char
  | [] => [']']
  | item :: rest => item.chars ++ moreItems rest

/-- The text of the items after the first, and the end of the array. -/
def moreItems : List (JsonValue Number) → List Char
  | [] => [']']
  | item :: rest => ',' :: item.chars ++ moreItems rest

/-- The text of an object's fields, and its end. -/
def fieldsChars : List (String × JsonValue Number) → List Char
  | [] => [Char.ofNat 125]
  | (key, value) :: rest => quoted key.toList ++ ':' :: value.chars ++ moreFields rest

/-- The text of the fields after the first, and the end of the object. -/
def moreFields : List (String × JsonValue Number) → List Char
  | [] => [Char.ofNat 125]
  | (key, value) :: rest => ',' :: quoted key.toList ++ ':' :: value.chars ++ moreFields rest

end

/-- The text of a value. -/
def stringify (value : JsonValue Number) : String := String.ofList (value.chars numbers)

end Texts

section Escapes

/-- A character whose escape is not itself. -/
def isEscaped (char : Char) : Bool := char.toNat < 32 || char = '"' || char = '\\'

/-- A character that needs no escape stands for itself. -/
theorem escaped_plain {char : Char} (plain : isEscaped char = false) : escaped char = [char] := by
  simp only [isEscaped, Bool.or_eq_false_iff, decide_eq_false_iff_not] at plain
  obtain ⟨⟨printed, quote⟩, slash⟩ := plain
  have notQuote : char.toNat ≠ 34 := fun code => quote (Char.ext (UInt32.toNat_inj.mp code))
  have notSlash : char.toNat ≠ 92 := fun code => slash (Char.ext (UInt32.toNat_inj.mp code))
  unfold escaped
  split <;> first | omega | rfl | skip
  rw [if_neg printed]

/-- A character that needs an escape has one of the first ninety-three codes. -/
theorem toNat_lt_of_isEscaped {char : Char} (special : isEscaped char = true) :
    char.toNat < 93 := by
  simp only [isEscaped, Bool.or_eq_true, decide_eq_true_eq] at special
  rcases special with (printed | rfl) | rfl
  · omega
  · decide
  · decide

/-- What holds of the characters with the first ninety-three codes holds of those with escapes. -/
theorem forall_isEscaped (holds : Char → Prop)
    (all : ∀ code < 93, isEscaped (Char.ofNat code) = true → holds (Char.ofNat code)) :
    ∀ char, isEscaped char = true → holds char := by
  intro char special
  have below := toNat_lt_of_isEscaped special
  have own := Char.ofNat_toNat char
  rw [← own] at special ⊢
  exact all _ below special

/-- No escape starts another character's. -/
theorem escapes_apart : ∀ first, isEscaped first = true → ∀ second, isEscaped second = true →
    (escaped first).isPrefixOf (escaped second) = true → first = second := by
  refine forall_isEscaped (fun first => ∀ second, isEscaped second = true →
    (escaped first).isPrefixOf (escaped second) = true → first = second) ?_
  intro code below special
  refine forall_isEscaped (fun second =>
    (escaped (Char.ofNat code)).isPrefixOf (escaped second) = true →
      Char.ofNat code = second) ?_
  revert code
  decide +kernel

/-- An escape starts with a backslash. -/
theorem escaped_head : ∀ char, isEscaped char = true → (escaped char).head? = some '\\' := by
  refine forall_isEscaped (fun char => (escaped char).head? = some '\\') ?_
  decide +kernel

/-- A character's escape is no other's, nor starts another's. -/
theorem escaped_append_inj {first second : Char} {left right : List Char}
    (same : escaped first ++ left = escaped second ++ right) : first = second ∧ left = right := by
  cases special : isEscaped first <;> cases special' : isEscaped second
  · rw [escaped_plain special, escaped_plain special'] at same
    exact List.cons.inj same
  · have head := congrArg List.head? same
    have slash := escaped_head second special'
    rw [escaped_plain special, List.head?_append, List.head?_append, slash] at head
    obtain rfl := Option.some.inj head
    cases special
  · have head := congrArg List.head? same
    have slash := escaped_head first special
    rw [escaped_plain special', List.head?_append, List.head?_append, slash] at head
    obtain rfl := Option.some.inj head
    cases special'
  · have own : first = second := by
      have either := List.prefix_or_prefix_of_prefix ⟨left, same⟩ (List.prefix_append _ right)
      rcases either with short | short
      · exact escapes_apart first special second special' (List.isPrefixOf_iff_prefix.mpr short)
      · exact (escapes_apart second special' first special
          (List.isPrefixOf_iff_prefix.mpr short)).symm
    subst own
    exact ⟨rfl, List.append_cancel_left same⟩

/-- An escape does not start with a quote. -/
theorem escaped_append_ne_quote (char : Char) (left right : List Char) :
    escaped char ++ left ≠ '"' :: right := by
  intro same
  have head := congrArg List.head? same
  cases special : isEscaped char with
  | false =>
    rw [escaped_plain special] at head
    obtain rfl := Option.some.inj head
    cases special
  | true =>
    rw [List.head?_append, escaped_head char special] at head
    cases Option.some.inj head

/-- A text before a quote is no other's. -/
theorem body_inj : ∀ {first second left right : List Char},
    first.flatMap escaped ++ '"' :: left = second.flatMap escaped ++ '"' :: right →
      first = second ∧ left = right
  | [], [], _, _, same => ⟨rfl, List.tail_eq_of_cons_eq same⟩
  | [], char :: rest, left, right, same => by
    rw [List.flatMap_cons, List.append_assoc] at same
    exact absurd same.symm (escaped_append_ne_quote char _ _)
  | char :: rest, [], left, right, same => by
    rw [List.flatMap_cons, List.append_assoc] at same
    exact absurd same (escaped_append_ne_quote char _ _)
  | char :: rest, other :: others, left, right, same => by
    rw [List.flatMap_cons, List.flatMap_cons, List.append_assoc, List.append_assoc] at same
    obtain ⟨rfl, later⟩ := escaped_append_inj same
    obtain ⟨rfl, after⟩ := body_inj later
    exact ⟨rfl, after⟩

/-- A text between quotes is no other's. -/
theorem quoted_append_inj {first second left right : List Char}
    (same : quoted first ++ left = quoted second ++ right) : first = second ∧ left = right := by
  apply body_inj
  simpa [quoted] using same

end Escapes

section Values

variable {Number : Type} (numbers : NumberText Number)

/-- What a value's text can start with, sorted by the kind of the value. -/
def opening (char : Char) : Nat :=
  if char = 'n' then 0
  else if char = 't' ∨ char = 'f' then 1
  else if isNumeric char then 2
  else if char = '"' then 3
  else if char = '[' then 4
  else if char = Char.ofNat 123 then 5
  else 6

/-- The kind of a value. -/
def kind : JsonValue Number → Nat
  | null => 0
  | bool _ => 1
  | num _ => 2
  | str _ => 3
  | arr _ => 4
  | obj _ => 5

/-- A numeric character opens a number. -/
theorem opening_numeric {char : Char} (numeric : isNumeric char = true) : opening char = 2 := by
  have apart : char ≠ 'n' ∧ char ≠ 't' ∧ char ≠ 'f' := by
    refine ⟨?_, ?_, ?_⟩ <;> · rintro rfl; revert numeric; decide
  simp [opening, apart, numeric]

/-- A text starts as the kind of its value does. -/
theorem chars_head (value : JsonValue Number) :
    ∃ char rest, value.chars numbers = char :: rest ∧ opening char = value.kind := by
  cases value with
  | null => exact ⟨_, _, rfl, (by decide : opening 'n' = 0)⟩
  | bool flag =>
    cases flag with
    | false => exact ⟨_, _, rfl, (by decide : opening 'f' = 1)⟩
    | true => exact ⟨_, _, rfl, (by decide : opening 't' = 1)⟩
  | num number =>
    obtain ⟨char, rest, text⟩ := List.exists_cons_of_ne_nil (numbers.nonempty number)
    have numeric := numbers.numeric number char (by simp [text])
    exact ⟨char, rest, text, opening_numeric numeric⟩
  | str text => exact ⟨_, _, rfl, (by decide : opening '"' = 3)⟩
  | arr items => exact ⟨_, _, rfl, (by decide : opening '[' = 4)⟩
  | obj fields => exact ⟨_, _, rfl, (by decide : opening (Char.ofNat 123) = 5)⟩

/-- Values of one text are of one kind. -/
theorem kind_eq_of_chars {left right : JsonValue Number} {after after' : List Char}
    (same : left.chars numbers ++ after = right.chars numbers ++ after') :
    left.kind = right.kind := by
  obtain ⟨char, rest, text, own⟩ := chars_head numbers left
  obtain ⟨char', rest', text', own'⟩ := chars_head numbers right
  rw [text, text'] at same
  obtain ⟨rfl, -⟩ := List.cons.inj same
  rw [← own, own']

/-- What follows a value does not continue a number. -/
def Ends (after : List Char) : Prop := ∀ char ∈ after.head?, isNumeric char = false

/-- A number's text is no other's, where nothing continues it. -/
theorem write_append_inj {left right : Number} {after after' : List Char} (ends : Ends after)
    (ends' : Ends after') (same : numbers.write left ++ after = numbers.write right ++ after') :
    left = right ∧ after = after' := by
  have own : ∀ (number : Number) (after : List Char), Ends after →
      (numbers.write number ++ after).takeWhile isNumeric = numbers.write number := by
    intro number after ends
    rw [List.takeWhile_append_of_pos (numbers.numeric number)]
    cases after with
    | nil => simp
    | cons char rest =>
      have stop := ends char rfl
      rw [List.takeWhile_cons_of_neg (by simp [stop]), List.append_nil]
  have texts := congrArg (List.takeWhile isNumeric) same
  rw [own left after ends, own right after' ends'] at texts
  obtain rfl := numbers.injective texts
  exact ⟨rfl, List.append_cancel_left same⟩

/-- The rest of an array does not continue a number. -/
theorem ends_moreItems (items : List (JsonValue Number)) (after : List Char) :
    Ends (moreItems numbers items ++ after) := by
  intro char first
  cases items <;>
  · obtain rfl := Option.some.inj first
    decide

/-- The rest of an object does not continue a number. -/
theorem ends_moreFields (fields : List (String × JsonValue Number)) (after : List Char) :
    Ends (moreFields numbers fields ++ after) := by
  intro char first
  rcases fields with _ | ⟨⟨key, value⟩, rest⟩ <;>
  · obtain rfl := Option.some.inj first
    decide

/-- No value starts as what follows one does. -/
theorem chars_append_ne {value : JsonValue Number} {char : Char} (other : opening char = 6)
    (left right : List Char) : value.chars numbers ++ left ≠ char :: right := by
  intro same
  obtain ⟨first, rest, text, own⟩ := chars_head numbers value
  rw [text] at same
  obtain ⟨rfl, -⟩ := List.cons.inj same
  rw [other] at own
  cases value <;> cases own

mutual

/-- A value's text is no other value's, where nothing continues it. -/
theorem chars_append_inj : ∀ (left right : JsonValue Number) (after after' : List Char),
    Ends after → Ends after' → left.chars numbers ++ after = right.chars numbers ++ after' →
      left = right ∧ after = after'
  | null, right, after, after', ends, ends', same => by
    have kinds := kind_eq_of_chars numbers same
    cases right with
    | null => exact ⟨rfl, List.append_cancel_left same⟩
    | _ => cases kinds
  | bool flag, right, after, after', ends, ends', same => by
    have kinds := kind_eq_of_chars numbers same
    cases right with
    | bool other =>
      cases flag <;> cases other
      · exact ⟨rfl, List.append_cancel_left same⟩
      · cases (List.cons.inj same).1
      · cases (List.cons.inj same).1
      · exact ⟨rfl, List.append_cancel_left same⟩
    | _ => cases kinds
  | num number, right, after, after', ends, ends', same => by
    have kinds := kind_eq_of_chars numbers same
    cases right with
    | num other =>
      obtain ⟨rfl, rest⟩ := write_append_inj numbers ends ends' same
      exact ⟨rfl, rest⟩
    | _ => cases kinds
  | str text, right, after, after', ends, ends', same => by
    have kinds := kind_eq_of_chars numbers same
    cases right with
    | str other =>
      obtain ⟨texts, rest⟩ := quoted_append_inj same
      exact ⟨by rw [String.toList_inj.mp texts], rest⟩
    | _ => cases kinds
  | arr items, right, after, after', ends, ends', same => by
    have kinds := kind_eq_of_chars numbers same
    cases right with
    | arr others =>
      obtain ⟨rfl, rest⟩ := itemsChars_append_inj items others after after'
        (List.cons.inj same).2
      exact ⟨rfl, rest⟩
    | _ => cases kinds
  | obj fields, right, after, after', ends, ends', same => by
    have kinds := kind_eq_of_chars numbers same
    cases right with
    | obj others =>
      obtain ⟨rfl, rest⟩ := fieldsChars_append_inj fields others after after'
        (List.cons.inj same).2
      exact ⟨rfl, rest⟩
    | _ => cases kinds

/-- The text of an array's items is no other's. -/
theorem itemsChars_append_inj : ∀ (left right : List (JsonValue Number)) (after after' : List Char),
    itemsChars numbers left ++ after = itemsChars numbers right ++ after' →
      left = right ∧ after = after'
  | [], [], after, after', same => ⟨rfl, (List.cons.inj same).2⟩
  | [], item :: rest, after, after', same => by
    rw [itemsChars, itemsChars, List.append_assoc] at same
    exact absurd same.symm (chars_append_ne numbers (by decide) _ _)
  | item :: rest, [], after, after', same => by
    rw [itemsChars, itemsChars, List.append_assoc] at same
    exact absurd same (chars_append_ne numbers (by decide) _ _)
  | item :: rest, other :: others, after, after', same => by
    rw [itemsChars, itemsChars, List.append_assoc, List.append_assoc] at same
    obtain ⟨rfl, later⟩ := chars_append_inj item other _ _ (ends_moreItems numbers rest after)
      (ends_moreItems numbers others after') same
    obtain ⟨rfl, last⟩ := moreItems_append_inj rest others after after' later
    exact ⟨rfl, last⟩

/-- The text of an array's further items is no other's. -/
theorem moreItems_append_inj : ∀ (left right : List (JsonValue Number)) (after after' : List Char),
    moreItems numbers left ++ after = moreItems numbers right ++ after' →
      left = right ∧ after = after'
  | [], [], after, after', same => ⟨rfl, (List.cons.inj same).2⟩
  | [], item :: rest, after, after', same => by
    have head := congrArg List.head? same
    cases Option.some.inj head
  | item :: rest, [], after, after', same => by
    have head := congrArg List.head? same
    cases Option.some.inj head
  | item :: rest, other :: others, after, after', same => by
    simp only [moreItems, List.cons_append, List.append_assoc, List.cons.injEq, true_and] at same
    obtain ⟨rfl, later⟩ := chars_append_inj item other _ _ (ends_moreItems numbers rest after)
      (ends_moreItems numbers others after') same
    obtain ⟨rfl, last⟩ := moreItems_append_inj rest others after after' later
    exact ⟨rfl, last⟩

/-- The text of an object's fields is no other's. -/
theorem fieldsChars_append_inj : ∀ (left right : List (String × JsonValue Number))
    (after after' : List Char), fieldsChars numbers left ++ after =
      fieldsChars numbers right ++ after' → left = right ∧ after = after'
  | [], [], after, after', same => ⟨rfl, (List.cons.inj same).2⟩
  | [], (key, value) :: rest, after, after', same => by
    have head := congrArg List.head? same
    cases Option.some.inj head
  | (key, value) :: rest, [], after, after', same => by
    have head := congrArg List.head? same
    cases Option.some.inj head
  | (key, value) :: rest, (key', value') :: rest', after, after', same => by
    simp only [fieldsChars, List.cons_append, List.append_assoc] at same
    obtain ⟨keys, same⟩ := quoted_append_inj same
    obtain ⟨rfl, later⟩ := chars_append_inj value value' _ _ (ends_moreFields numbers rest after)
      (ends_moreFields numbers rest' after') (List.cons.inj same).2
    obtain ⟨rfl, last⟩ := moreFields_append_inj rest rest' after after' later
    exact ⟨by rw [String.toList_inj.mp keys], last⟩

/-- The text of an object's further fields is no other's. -/
theorem moreFields_append_inj : ∀ (left right : List (String × JsonValue Number))
    (after after' : List Char), moreFields numbers left ++ after =
      moreFields numbers right ++ after' → left = right ∧ after = after'
  | [], [], after, after', same => ⟨rfl, (List.cons.inj same).2⟩
  | [], (key, value) :: rest, after, after', same => by
    have head := congrArg List.head? same
    cases Option.some.inj head
  | (key, value) :: rest, [], after, after', same => by
    have head := congrArg List.head? same
    cases Option.some.inj head
  | (key, value) :: rest, (key', value') :: rest', after, after', same => by
    simp only [moreFields, List.cons_append, List.append_assoc, List.cons.injEq, true_and] at same
    obtain ⟨keys, same⟩ := quoted_append_inj same
    obtain ⟨rfl, later⟩ := chars_append_inj value value' _ _ (ends_moreFields numbers rest after)
      (ends_moreFields numbers rest' after') (List.cons.inj same).2
    obtain ⟨rfl, last⟩ := moreFields_append_inj rest rest' after after' later
    exact ⟨by rw [String.toList_inj.mp keys], last⟩

end

/-- Different values have different texts. -/
theorem stringify_inj {left right : JsonValue Number}
    (same : left.stringify numbers = right.stringify numbers) : left = right := by
  have texts : left.chars numbers = right.chars numbers := String.ofList_injective same
  have ends : Ends [] := by simp [Ends]
  exact (chars_append_inj numbers left right [] [] ends ends
    (by rw [List.append_nil, List.append_nil, texts])).1

end Values

end JsonValue
