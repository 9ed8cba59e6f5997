import Durable.Json.Text

/-! Reading a JSON text, which gives back the value it was written for. -/

namespace JsonValue

/-- How numbers are written and read. -/
structure NumberFormat (Number : Type) extends NumberText Number where
  read : List Char → Option Number
  read_write : ∀ number, read (write number) = some number

/-- A character that a number can be read from. -/
def isNumberPart (char : Char) : Bool := isNumeric char || char = 'E'

/-- A character that stands between the parts of a text and means nothing. -/
def isBlank (char : Char) : Bool := char = ' ' || char = '\t' || char = '\n' || char = '\r'

/-- A text from its first character that is not blank. -/
def skipBlank (text : List Char) : List Char := text.dropWhile isBlank

/-- The digit a character of an escape stands for. -/
def hexValue (char : Char) : Option Nat :=
  if char.isDigit then some (char.toNat - 48)
  else if 97 ≤ char.toNat && char.toNat ≤ 102 then some (char.toNat - 87)
  else if 65 ≤ char.toNat && char.toNat ≤ 70 then some (char.toNat - 55)
  else none

/-- The code of four digits. -/
def hexCode (a b c d : Char) : Option Nat :=
  match hexValue a, hexValue b, hexValue c, hexValue d with
  | some a, some b, some c, some d => some (((a * 16 + b) * 16 + c) * 16 + d)
  | _, _, _, _ => none

/-- What a backslash and a character stand for. -/
def unescaped (mark : Char) : Option Char :=
  if mark = '"' || mark = '\\' || mark = '/' then some mark
  else if mark = 'b' then some (Char.ofNat 8)
  else if mark = 'f' then some (Char.ofNat 12)
  else if mark = 'n' then some (Char.ofNat 10)
  else if mark = 'r' then some (Char.ofNat 13)
  else if mark = 't' then some (Char.ofNat 9)
  else none

/-- The rest of a text between quotes, and what follows the closing quote. Half of a surrogate pair
is no character. -/
def readBody : List Char → Option (List Char × List Char)
  | [] => none
  | char :: rest =>
    if char = '"' then some ([], rest)
    else if char = '\\' then
      match rest with
      | [] => none
      | mark :: rest =>
        if mark = 'u' then
          match rest with
          | a :: b :: c :: d :: rest =>
            match hexCode a b c d with
            | none => none
            | some code =>
              if code < 0xD800 || 0xE000 ≤ code then
                (readBody rest).map fun found => (Char.ofNat code :: found.1, found.2)
              else if code < 0xDC00 then
                match rest with
                | '\\' :: 'u' :: e :: f :: g :: h :: rest =>
                  match hexCode e f g h with
                  | none => none
                  | some low =>
                    if 0xDC00 ≤ low && low < 0xE000 then
                      (readBody rest).map fun found =>
                        (Char.ofNat (0x10000 + (code - 0xD800) * 0x400 + (low - 0xDC00)) ::
                          found.1, found.2)
                    else none
                | _ => none
              else none
          | _ => none
        else
          match unescaped mark with
          | none => none
          | some char => (readBody rest).map fun found => (char :: found.1, found.2)
    else if char.toNat < 32 then none
    else (readBody rest).map fun found => (char :: found.1, found.2)

/-- The number that a key is, where an object lists it before its other keys. -/
def keyIndex (key : String) : Option Nat :=
  key.toNat?.filter fun index => toString index == key && index < 4294967295

section Objects

variable {Number : Type}

/-- A field as it is set: it replaces the value of a field of its key, at that field's place. -/
def setField (fields : List (String × JsonValue Number)) (field : String × JsonValue Number) :
    List (String × JsonValue Number) :=
  if (fields.lookup field.1).isSome then
    fields.map fun entry => if entry.1 = field.1 then field else entry
  else fields ++ [field]

/-- Fields as an object lists them: those whose keys are numbers come first, in order. -/
def listed (fields : List (String × JsonValue Number)) : List (String × JsonValue Number) :=
  (fields.filter fun field => (keyIndex field.1).isSome).mergeSort
      (fun one other => (keyIndex one.1).getD 0 ≤ (keyIndex other.1).getD 0) ++
    fields.filter fun field => (keyIndex field.1).isNone

/-- The object that fields read one after the other make. -/
def objectOf (fields : List (String × JsonValue Number)) : List (String × JsonValue Number) :=
  listed (fields.foldl setField [])

mutual

/-- Every object in the value lists its fields as objects do. -/
def Regular : JsonValue Number → Prop
  | arr items => RegularItems items
  | obj fields => objectOf fields = fields ∧ RegularFields fields
  | _ => True

/-- Every object in the items lists its fields as objects do. -/
def RegularItems : List (JsonValue Number) → Prop
  | [] => True
  | item :: rest => item.Regular ∧ RegularItems rest

/-- Every object in the fields lists its fields as objects do. -/
def RegularFields : List (String × JsonValue Number) → Prop
  | [] => True
  | (_, value) :: rest => value.Regular ∧ RegularFields rest

end

end Objects

section Reading

variable {Number : Type} (numbers : NumberFormat Number)

mutual

/-- Read a value, and what follows it. -/
def readValue : Nat → List Char → Option (JsonValue Number × List Char)
  | 0, _ => none
  | fuel + 1, text =>
    match skipBlank text with
    | [] => none
    | char :: rest =>
      if char = '"' then
        (readBody rest).map fun found => (.str (String.ofList found.1), found.2)
      else if char = '[' then
        match skipBlank rest with
        | [] => none
        | other :: after =>
          if other = ']' then some (.arr [], after)
          else
            match readValue fuel rest with
            | none => none
            | some (item, after) =>
              (readItems fuel after).map fun found => (.arr (item :: found.1), found.2)
      else if char = Char.ofNat 123 then
        match skipBlank rest with
        | [] => none
        | other :: after =>
          if other = Char.ofNat 125 then some (.obj [], after)
          else
            match readField fuel rest with
            | none => none
            | some (field, after) =>
              (readFields fuel after).map fun found =>
                (.obj (objectOf (field :: found.1)), found.2)
      else if ['n', 'u', 'l', 'l'].isPrefixOf (char :: rest) then some (.null, rest.drop 3)
      else if ['t', 'r', 'u', 'e'].isPrefixOf (char :: rest) then some (.bool true, rest.drop 3)
      else if ['f', 'a', 'l', 's', 'e'].isPrefixOf (char :: rest) then
        some (.bool false, rest.drop 4)
      else
        (numbers.read ((char :: rest).takeWhile isNumberPart)).map fun number =>
          (.num number, (char :: rest).dropWhile isNumberPart)

/-- Read the items behind an item of an array, and what follows the array. -/
def readItems : Nat → List Char → Option (List (JsonValue Number) × List Char)
  | 0, _ => none
  | fuel + 1, text =>
    match skipBlank text with
    | ']' :: after => some ([], after)
    | ',' :: rest =>
      match readValue fuel rest with
      | none => none
      | some (item, after) =>
        (readItems fuel after).map fun found => (item :: found.1, found.2)
    | _ => none

/-- Read a field of an object, and what follows it. -/
def readField : Nat → List Char → Option ((String × JsonValue Number) × List Char)
  | 0, _ => none
  | fuel + 1, text =>
    match skipBlank text with
    | '"' :: rest =>
      match readBody rest with
      | none => none
      | some (key, after) =>
        match skipBlank after with
        | ':' :: rest =>
          (readValue fuel rest).map fun found => ((String.ofList key, found.1), found.2)
        | _ => none
    | _ => none

/-- Read the fields behind a field of an object, and what follows the object. -/
def readFields : Nat → List Char → Option (List (String × JsonValue Number) × List Char)
  | 0, _ => none
  | fuel + 1, text =>
    match skipBlank text with
    | [] => none
    | char :: rest =>
      if char = Char.ofNat 125 then some ([], rest)
      else if char = ',' then
        match readField fuel rest with
        | none => none
        | some (field, after) =>
          (readFields fuel after).map fun found => (field :: found.1, found.2)
      else none

end

/-- The value of a text, if it is one of a value. -/
def parse (text : String) : Option (JsonValue Number) :=
  match readValue numbers (2 * text.toList.length + 1) text.toList with
  | none => none
  | some (value, after) => if (skipBlank after).isEmpty then some value else none

end Reading

section Strings

/-- The characters that stand for a character behind a backslash. -/
def standsFor (char : Char) : List Char → Bool
  | ['\\', mark] => mark ≠ 'u' && unescaped mark == some char
  | ['\\', 'u', a, b, c, d] => hexCode a b c d == some char.toNat
  | _ => false

/-- An escape stands for its character. -/
theorem standsFor_escaped :
    ∀ char, isEscaped char = true → standsFor char (escaped char) = true := by
  refine forall_isEscaped (fun char => standsFor char (escaped char) = true) ?_
  decide +kernel

/-- A character between quotes is read back, whatever follows it. -/
theorem readBody_escaped (char : Char) (rest : List Char) :
    readBody (escaped char ++ rest) =
      (readBody rest).map fun found => (char :: found.1, found.2) := by
  cases special : isEscaped char with
  | false =>
    rw [escaped_plain special]
    simp only [isEscaped, Bool.or_eq_false_iff, decide_eq_false_iff_not] at special
    obtain ⟨⟨printed, quote⟩, slash⟩ := special
    rw [List.cons_append, List.nil_append, readBody.eq_def]
    dsimp only
    rw [if_neg quote, if_neg slash, if_neg printed]
  | true =>
    have stands := standsFor_escaped char special
    have small := toNat_lt_of_isEscaped special
    revert stands
    generalize escaped char = written
    intro stands
    unfold standsFor at stands
    split at stands
    · -- A backslash and a mark.
      rename_i mark
      simp only [Bool.and_eq_true, decide_eq_true_eq, beq_iff_eq] at stands
      obtain ⟨other, read⟩ := stands
      rw [readBody.eq_def]
      simp [other, read]
    · -- A backslash, a mark and four digits.
      rename_i a b c d
      have code := beq_iff_eq.mp stands
      rw [readBody.eq_def]
      have low : char.toNat < 0xD800 := by omega
      simp [code, low, Char.ofNat_toNat]
    · cases stands

/-- A text between quotes is read back, up to its closing quote. -/
theorem readBody_quoted (text rest : List Char) :
    readBody (text.flatMap escaped ++ '"' :: rest) = some (text, rest) := by
  induction text with
  | nil =>
    rw [List.flatMap_nil, List.nil_append, readBody.eq_def]
    rfl
  | cons char text ih =>
    rw [List.flatMap_cons, List.append_assoc, readBody_escaped, ih]
    rfl

end Strings

section Values

variable {Number : Type} (numbers : NumberFormat Number)

/-- What follows a value does not continue a number. -/
def Stops (after : List Char) : Prop := ∀ char ∈ after.head?, isNumberPart char = false

/-- The end of a text continues no number. -/
theorem stops_nil : Stops [] := by
  intro char first
  cases first

/-- The rest of an array does not continue a number. -/
theorem stops_moreItems (items : List (JsonValue Number)) (after : List Char) :
    Stops (moreItems numbers.toNumberText items ++ after) := by
  intro char first
  cases items <;>
  · obtain rfl := Option.some.inj first
    decide

/-- The rest of an object does not continue a number. -/
theorem stops_moreFields (fields : List (String × JsonValue Number)) (after : List Char) :
    Stops (moreFields numbers.toNumberText fields ++ after) := by
  intro char first
  rcases fields with _ | ⟨⟨key, value⟩, rest⟩ <;>
  · obtain rfl := Option.some.inj first
    decide

/-- A character that opens a value is not blank. -/
theorem not_isBlank {char : Char} (opens : opening char ≠ 6) : isBlank char = false := by
  unfold isBlank
  simp only [Bool.or_eq_false_iff, decide_eq_false_iff_not]
  refine ⟨⟨⟨?_, ?_⟩, ?_⟩, ?_⟩ <;>
  · rintro rfl
    exact opens (by decide)

/-- Nothing is skipped before a character that is not blank. -/
theorem skipBlank_cons {char : Char} (printed : isBlank char = false) (rest : List Char) :
    skipBlank (char :: rest) = char :: rest := by
  unfold skipBlank
  rw [List.dropWhile_cons_of_neg (by simp [printed])]

/-- Nothing is skipped before a quote. -/
@[simp] theorem skipBlank_quote (rest : List Char) : skipBlank ('"' :: rest) = '"' :: rest := rfl

/-- Nothing is skipped before a colon. -/
@[simp] theorem skipBlank_colon (rest : List Char) : skipBlank (':' :: rest) = ':' :: rest := rfl

/-- Nothing is skipped before a comma. -/
@[simp] theorem skipBlank_comma (rest : List Char) : skipBlank (',' :: rest) = ',' :: rest := rfl

/-- Nothing is skipped before an array. -/
@[simp] theorem skipBlank_bracket (rest : List Char) : skipBlank ('[' :: rest) = '[' :: rest := rfl

/-- Nothing is skipped before an object. -/
@[simp] theorem skipBlank_brace (rest : List Char) :
    skipBlank (Char.ofNat 123 :: rest) = Char.ofNat 123 :: rest := rfl

/-- Nothing is skipped before a value. -/
theorem skipBlank_chars (value : JsonValue Number) (after : List Char) :
    skipBlank (value.chars numbers.toNumberText ++ after) =
      value.chars numbers.toNumberText ++ after := by
  obtain ⟨char, rest, text, opens⟩ := chars_head numbers.toNumberText value
  have printed : isBlank char = false := by
    apply not_isBlank
    rw [opens]
    cases value <;> simp [kind]
  rw [text, List.cons_append, skipBlank_cons printed]

/-- A number is read up to what does not continue it. -/
theorem number_split (number : Number) {after : List Char} (stops : Stops after) :
    (numbers.write number ++ after).takeWhile isNumberPart = numbers.write number ∧
      (numbers.write number ++ after).dropWhile isNumberPart = after := by
  have parts : ∀ char ∈ numbers.write number, isNumberPart char = true := by
    intro char listed
    unfold isNumberPart
    rw [numbers.numeric number char listed]
    rfl
  rw [List.takeWhile_append_of_pos parts, List.dropWhile_append_of_pos parts]
  cases after with
  | nil => simp
  | cons char rest =>
    have stop := stops char rfl
    rw [List.takeWhile_cons_of_neg (by simp [stop]), List.dropWhile_cons_of_neg (by simp [stop]),
      List.append_nil]
    exact ⟨rfl, rfl⟩

/-- A number is read back. -/
theorem readValue_num (number : Number) {after : List Char} (stops : Stops after) (fuel : Nat) :
    readValue numbers (fuel + 1) (numbers.write number ++ after) =
      some (.num number, after) := by
  obtain ⟨taken, dropped⟩ := number_split numbers number stops
  have skipped := skipBlank_chars numbers (.num number) after
  obtain ⟨char, rest, text⟩ := List.exists_cons_of_ne_nil (numbers.nonempty number)
  have numeric := numbers.numeric number char (by simp [text])
  have opens := opening_numeric numeric
  rw [chars] at skipped
  rw [text] at taken dropped skipped ⊢
  rw [readValue, skipped]
  have others : char ≠ '"' ∧ char ≠ '[' ∧ char ≠ Char.ofNat 123 ∧ char ≠ 'n' ∧ char ≠ 't' ∧
      char ≠ 'f' := by
    refine ⟨?_, ?_, ?_, ?_, ?_, ?_⟩ <;>
    · rintro rfl
      revert opens
      decide
  obtain ⟨quote, bracket, brace, n, t, f⟩ := others
  rw [List.cons_append] at taken dropped ⊢
  simp only [if_neg quote, if_neg bracket, if_neg brace, List.isPrefixOf,
    beq_eq_false_iff_ne.mpr n.symm, beq_eq_false_iff_ne.mpr t.symm,
    beq_eq_false_iff_ne.mpr f.symm, Bool.false_and, Bool.false_eq_true, if_false, taken, dropped]
  rw [← text, numbers.read_write]
  rfl

mutual

/-- A value is read back, with what follows it. -/
theorem readValue_chars : ∀ (value : JsonValue Number), value.Regular →
    ∀ (fuel : Nat) (after : List Char), (value.chars numbers.toNumberText).length ≤ fuel →
      Stops after → readValue numbers fuel (value.chars numbers.toNumberText ++ after) =
        some (value, after)
  | value, regular, 0, after, enough, _ => by
    obtain ⟨char, rest, text, -⟩ := chars_head numbers.toNumberText value
    rw [text] at enough
    simp at enough
  | .null, _, fuel + 1, after, _, _ => by
    rw [chars, readValue]
    rfl
  | .bool true, _, fuel + 1, after, _, _ => by
    rw [chars, readValue]
    rfl
  | .bool false, _, fuel + 1, after, _, _ => by
    rw [chars, readValue]
    rfl
  | .num number, _, fuel + 1, after, _, stops => by
    rw [chars]
    exact readValue_num numbers number stops fuel
  | .str text, _, fuel + 1, after, _, _ => by
    have body := readBody_quoted text.toList after
    rw [chars, quoted, readValue, List.cons_append, List.cons_append,
      skipBlank_quote, List.append_assoc]
    simp only [if_true, List.cons_append, List.nil_append, body, Option.map_some,
      String.ofList_toList]
  | .arr [], _, fuel + 1, after, _, _ => by
    rw [chars, itemsChars, readValue]
    rfl
  | .arr (item :: rest), regular, fuel + 1, after, enough, _ => by
    obtain ⟨own, others⟩ : item.Regular ∧ RegularItems rest := regular
    rw [chars, itemsChars, List.length_cons, List.length_append] at enough
    have first := readValue_chars item own fuel
      (moreItems numbers.toNumberText rest ++ after) (by omega) (stops_moreItems numbers rest after)
    have later := readItems_moreItems rest others fuel after (by omega)
    rw [chars, itemsChars, readValue, List.cons_append, skipBlank_bracket, List.append_assoc]
    -- The first item does not begin as the end of the array does.
    obtain ⟨char, text, shown, opens⟩ := chars_head numbers.toNumberText item
    have notEnd : char ≠ ']' := by
      rintro rfl
      cases item <;> simp only [kind] at opens <;> revert opens <;> decide
    have skipped := skipBlank_chars numbers item (moreItems numbers.toNumberText rest ++ after)
    rw [shown] at first skipped ⊢
    rw [List.cons_append] at first skipped ⊢
    simp only [if_true, skipped, if_neg notEnd, first, later, Option.map_some]
    rfl
  | .obj [], _, fuel + 1, after, _, _ => by
    rw [chars, fieldsChars, readValue]
    rfl
  | .obj ((key, value) :: rest), regular, fuel + 1, after, enough, _ => by
    obtain ⟨listed, own, others⟩ : objectOf ((key, value) :: rest) = (key, value) :: rest ∧
      value.Regular ∧ RegularFields rest := regular
    simp only [chars, fieldsChars, quoted, List.length_cons, List.length_append] at enough
    have within : (quoted key.toList ++ ':' :: value.chars numbers.toNumberText).length ≤ fuel := by
      simp only [quoted, List.length_cons, List.length_append]
      omega
    have first := readField_chars key value own fuel
      (moreFields numbers.toNumberText rest ++ after) within (stops_moreFields numbers rest after)
    have later := readFields_moreFields rest others fuel after (by omega)
    simp only [quoted, List.append_assoc, List.cons_append] at first
    rw [chars, fieldsChars, readValue, List.cons_append, skipBlank_brace, quoted]
    simp only [List.append_assoc, List.cons_append, skipBlank_quote, first, later]
    have open_ : ¬ Char.ofNat 123 = '"' := by decide
    have open' : ¬ Char.ofNat 123 = '[' := by decide
    have quote : ¬ '"' = Char.ofNat 125 := by decide
    simp only [if_neg open_, if_neg open', if_true, if_neg quote]
    rw [Option.map_some, listed]

/-- The items behind an item are read back, with what follows their array. -/
theorem readItems_moreItems : ∀ (items : List (JsonValue Number)), RegularItems items →
    ∀ (fuel : Nat) (after : List Char), (moreItems numbers.toNumberText items).length ≤ fuel →
      readItems numbers fuel (moreItems numbers.toNumberText items ++ after) = some (items, after)
  | [], _, 0, after, enough => by
    simp [moreItems] at enough
  | _ :: _, _, 0, after, enough => by
    simp [moreItems] at enough
  | [], _, fuel + 1, after, _ => by
    rw [moreItems, readItems]
    rfl
  | item :: rest, regular, fuel + 1, after, enough => by
    obtain ⟨own, others⟩ : item.Regular ∧ RegularItems rest := regular
    simp only [moreItems, List.length_cons, List.length_append] at enough
    have first := readValue_chars item own fuel
      (moreItems numbers.toNumberText rest ++ after) (by omega) (stops_moreItems numbers rest after)
    have later := readItems_moreItems rest others fuel after (by omega)
    rw [moreItems, readItems]
    simp only [List.cons_append, List.append_assoc, skipBlank_comma, first, later]
    rfl

/-- A field is read back, with what follows it. -/
theorem readField_chars (key : String) : ∀ (value : JsonValue Number), value.Regular →
    ∀ (fuel : Nat) (after : List Char),
      (quoted key.toList ++ ':' :: value.chars numbers.toNumberText).length ≤ fuel → Stops after →
      readField numbers fuel
          (quoted key.toList ++ ':' :: value.chars numbers.toNumberText ++ after) =
        some ((key, value), after)
  | _, _, 0, after, enough, _ => by
    simp [quoted] at enough
  | value, regular, fuel + 1, after, enough, stops => by
    simp only [quoted, List.length_cons, List.length_append] at enough
    have body := readBody_quoted key.toList (':' :: value.chars numbers.toNumberText ++ after)
    have read := readValue_chars value regular fuel after (by omega) stops
    rw [quoted, readField]
    simp only [List.cons_append, List.append_assoc, List.nil_append, skipBlank_quote] at body ⊢
    simp only [body, skipBlank_colon, read, Option.map_some, String.ofList_toList]

/-- The fields behind a field are read back, with what follows their object. -/
theorem readFields_moreFields : ∀ (fields : List (String × JsonValue Number)),
    RegularFields fields → ∀ (fuel : Nat) (after : List Char),
      (moreFields numbers.toNumberText fields).length ≤ fuel →
      readFields numbers fuel (moreFields numbers.toNumberText fields ++ after) =
        some (fields, after)
  | [], _, 0, after, enough => by
    simp [moreFields] at enough
  | (_, _) :: _, _, 0, after, enough => by
    simp [moreFields] at enough
  | [], _, fuel + 1, after, _ => by
    rw [moreFields, readFields]
    rfl
  | (key, value) :: rest, regular, fuel + 1, after, enough => by
    obtain ⟨own, others⟩ : value.Regular ∧ RegularFields rest := regular
    simp only [moreFields, List.length_cons, List.length_append] at enough
    have within : (quoted key.toList ++ ':' :: value.chars numbers.toNumberText).length ≤ fuel := by
      simp only [List.length_cons, List.length_append]
      omega
    have first := readField_chars key value own fuel
      (moreFields numbers.toNumberText rest ++ after) within (stops_moreFields numbers rest after)
    have later := readFields_moreFields rest others fuel after (by omega)
    rw [moreFields, readFields]
    simp only [List.cons_append, List.append_assoc, skipBlank_comma] at first ⊢
    simp only [first, later]
    rfl

end

/-- What was written is read back. -/
theorem parse_stringify {value : JsonValue Number} (regular : value.Regular) :
    parse numbers (value.stringify numbers.toNumberText) = some value := by
  have read := readValue_chars numbers value regular
    (2 * (value.chars numbers.toNumberText).length + 1) [] (by omega) stops_nil
  rw [List.append_nil] at read
  unfold parse stringify
  rw [String.toList_ofList, read]
  rfl

end Values

end JsonValue
