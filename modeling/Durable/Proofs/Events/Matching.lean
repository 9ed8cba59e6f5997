import Durable.Events.Matching
import Durable.Data.Ids

/-! An event matches where its fields are structurally equal to the match's, unless keys come in
another order, or a prototype is read for a field. -/

namespace Durable.Events

section Integers

def writeInteger : Int → List Char
  | .ofNat number => Nat.toDigits 10 number
  | .negSucc number => '-' :: Nat.toDigits 10 (number + 1)

theorem numeric_toDigits {number : Nat} {char : Char} (listed : char ∈ Nat.toDigits 10 number) :
    char.isDigit = true ∧ JsonValue.isNumeric char = true := by
  have figure : char.isDigit = true :=
    Nat.isDigit_of_mem_toDigits (by decide) (by decide) listed
  exact ⟨figure, by simp [JsonValue.isNumeric, figure]⟩

theorem toDigits_inj {left right : Nat} (same : Nat.toDigits 10 left = Nat.toDigits 10 right) :
    left = right := by
  rw [← Nat.ofDigitChars_ten_toDigits (n := left), same, Nat.ofDigitChars_ten_toDigits]

theorem toDigits_ne_sign (number : Nat) (rest : List Char) :
    Nat.toDigits 10 number ≠ '-' :: rest := by
  intro same
  have sign : '-' ∈ Nat.toDigits 10 number := by simp [same]
  cases (numeric_toDigits sign).1

theorem writeInteger_inj {left right : Int} (same : writeInteger left = writeInteger right) :
    left = right := by
  cases left with
  | ofNat first =>
    cases right with
    | ofNat second => rw [toDigits_inj same]
    | negSucc second => exact absurd same (toDigits_ne_sign first _)
  | negSucc first =>
    cases right with
    | ofNat second => exact absurd same.symm (toDigits_ne_sign second _)
    | negSucc second =>
      have numbers := toDigits_inj (List.cons.inj same).2
      rw [Nat.succ_inj.mp numbers]

/-- Integers, as they are written in JSON. -/
def integers : Numbers Int where
  write := writeInteger
  injective := writeInteger_inj
  numeric number char listed := by
    cases number with
    | ofNat number => exact (numeric_toDigits listed).2
    | negSucc number =>
      rcases List.mem_cons.mp listed with rfl | figure
      · decide
      · exact (numeric_toDigits figure).2
  nonempty number := by
    cases number with
    | ofNat number => exact Nat.toDigits_ne_nil
    | negSucc number => simp [writeInteger]
  ofNat := Int.ofNat

end Integers

section Matching

variable {Number : Type} [DecidableEq Number] (numbers : Numbers Number)
  {payload found : JsonValue Number} {key : String}

/-- Each field of a match is structurally equal to the payload's own. -/
def FieldsEqual (payload : JsonValue Number) (fields : List (String × JsonValue Number)) : Prop :=
  ∀ field ∈ fields, ∃ found, own numbers payload field.1 = some found ∧
    found.alike field.2 = true

/-- The fields are structurally equal, but in one of them some object has its keys in another
order. -/
def Reordered (payload : JsonValue Number) (fields : List (String × JsonValue Number)) : Prop :=
  FieldsEqual numbers payload fields ∧
    ∃ field ∈ fields, ∃ found, own numbers payload field.1 = some found ∧
      found.sameOrder field.2 = false

omit [DecidableEq Number] in
/-- The match asks for a field `__proto__` that the payload has not, but its prototype is written
like that; the other fields are the payload's. -/
def ReadsPrototype (payload : JsonValue Number) (fields : List (String × JsonValue Number)) :
    Prop :=
  own numbers payload "__proto__" = none ∧
    (∃ field ∈ fields, field.1 = "__proto__" ∧ prototype payload = some field.2) ∧
    ∀ field ∈ fields, field.1 ≠ "__proto__" → own numbers payload field.1 = some field.2

omit [DecidableEq Number] in
theorem isObject_of_read (read : readProperty numbers payload key = some found) :
    isObject payload = true := by
  cases payload with
  | arr items => rfl
  | obj fields => rfl
  | _ => simp [readProperty, own, prototype] at read

omit [DecidableEq Number] in
theorem eventMatches_iff (payload : JsonValue Number) (fields : List (String × JsonValue Number)) :
    eventMatches numbers payload fields = true ↔
      ∀ field ∈ fields, readProperty numbers payload field.1 = some field.2 := by
  -- Texts are equal just when the values are.
  have texts : ∀ field : String × JsonValue Number,
      ((readProperty numbers payload field.1).map (·.stringify numbers.toNumberText) ==
        some (field.2.stringify numbers.toNumberText)) = true ↔
      readProperty numbers payload field.1 = some field.2 := by
    intro field
    rw [beq_iff_eq]
    cases readProperty numbers payload field.1 with
    | none => simp
    | some found =>
      rw [Option.map_some, Option.some.injEq, Option.some.injEq]
      constructor
      · exact JsonValue.stringify_inj numbers.toNumberText
      · rintro rfl
        rfl
  simp only [eventMatches, Bool.or_eq_true, Bool.and_eq_true, List.all_eq_true, texts,
    List.isEmpty_iff]
  constructor
  · rintro (rfl | ⟨-, all⟩)
    · simp
    · exact all
  · intro all
    cases fields with
    | nil => exact .inl rfl
    | cons field rest =>
      exact .inr ⟨isObject_of_read numbers (all field List.mem_cons_self), all⟩

omit [DecidableEq Number] in
theorem readProperty_eq_some : readProperty numbers payload key = some found ↔
      own numbers payload key = some found ∨
        own numbers payload key = none ∧ key = "__proto__" ∧ prototype payload = some found := by
  unfold readProperty
  cases own numbers payload key with
  | none =>
    by_cases proto : key = "__proto__" <;> simp [proto]
  | some other => simp

omit [DecidableEq Number] in
theorem distinct_own (distinct : payload.distinct = true)
    (read : own numbers payload key = some found) : found.distinct = true := by
  cases payload with
  | obj fields => exact JsonValue.distinct_of_mem distinct (JsonValue.mem_of_lookup read)
  | arr items =>
    rw [own] at read
    split at read
    · obtain rfl := Option.some.inj read
      rfl
    · obtain ⟨item, at_, rfl⟩ := Option.map_eq_some_iff.mp read
      exact JsonValue.distinct_of_mem_items distinct
        (List.fst_mem_of_mem_zipIdx (List.mem_of_find?_eq_some at_))
  | _ => cases read

omit [DecidableEq Number] in
theorem eventMatches_of_own {fields : List (String × JsonValue Number)}
    (held : ∀ field ∈ fields, own numbers payload field.1 = some field.2) :
    eventMatches numbers payload fields = true :=
  (eventMatches_iff numbers payload fields).mpr fun field listed =>
    (readProperty_eq_some numbers).mpr (.inl (held field listed))

/-- An event matches just when its fields are structurally equal to those of the match, if and only
if they are not equal in another order of keys alone, and no prototype is read for a field. -/
theorem eventMatches_structural_iff (payload : JsonData Number) (criteria : MatchFields Number) :
    (eventMatches numbers payload.value criteria.fields = true ↔
        FieldsEqual numbers payload.value criteria.fields) ↔
      ¬Reordered numbers payload.value criteria.fields ∧
        ¬ReadsPrototype numbers payload.value criteria.fields := by
  constructor
  · intro agrees
    constructor
    · -- A satisfied match has the keys of the payload's fields in their order.
      rintro ⟨equal, field, listed, found, held, order⟩
      have read := (eventMatches_iff numbers _ _).mp (agrees.mpr equal) field listed
      rcases (readProperty_eq_some numbers).mp read with same | ⟨none, -⟩
      · rw [held] at same
        obtain rfl := Option.some.inj same
        rw [JsonValue.sameOrder_refl] at order
        cases order
      · rw [held] at none
        cases none
    · -- Where a prototype is read for a field, the payload has no such field.
      rintro ⟨absent, ⟨field, listed, proto, written⟩, others⟩
      have satisfied : eventMatches numbers payload.value criteria.fields = true := by
        refine (eventMatches_iff numbers _ _).mpr fun other listed' => ?_
        refine (readProperty_eq_some numbers).mpr ?_
        by_cases own_ : other.1 = "__proto__"
        · have same := JsonValue.lookup_of_mem criteria.distinct listed
          have same' := JsonValue.lookup_of_mem criteria.distinct listed'
          rw [own_, ← proto, same] at same'
          rw [own_, ← Option.some.inj same']
          exact .inr ⟨absent, rfl, written⟩
        · exact .inl (others other listed' own_)
      obtain ⟨found, held, -⟩ := agrees.mp satisfied field listed
      rw [proto, absent] at held
      cases held
  · rintro ⟨ordered, noPrototype⟩
    constructor
    · intro satisfied
      have reads := (eventMatches_iff numbers _ _).mp satisfied
      intro field listed
      rcases (readProperty_eq_some numbers).mp (reads field listed) with held | inherited
      · exact ⟨field.2, held, JsonValue.alike_refl _ (distinct_own numbers payload.distinct held)⟩
      · -- A field that is not the payload's own would be read from the prototype.
        obtain ⟨absent, proto, written⟩ := inherited
        refine absurd ⟨proto ▸ absent, ⟨field, listed, proto, written⟩, ?_⟩ noPrototype
        intro other listed' named
        rcases (readProperty_eq_some numbers).mp (reads other listed') with held | ⟨-, same, -⟩
        · exact held
        · exact absurd same named
    · intro equal
      apply eventMatches_of_own
      intro field listed
      obtain ⟨found, held, alike⟩ := equal field listed
      have order : found.sameOrder field.2 = true := by
        by_contra other
        exact ordered ⟨equal, field, listed, found, held, Bool.eq_false_iff.mpr other⟩
      have distinct := distinct_own numbers payload.distinct held
      rw [held, (JsonValue.alike_iff distinct order).mp alike]

end Matching

/-- A payload's box has the keys of the match's in another order. -/
theorem other_order_unmatched :
    ¬∀ (payload : JsonData Int) (criteria : MatchFields Int),
      eventMatches integers payload.value criteria.fields = true ↔
        FieldsEqual integers payload.value criteria.fields := by
  intro agrees
  let left : JsonValue Int := .obj [("a", .bool true), ("b", .null)]
  let right : JsonValue Int := .obj [("b", .null), ("a", .bool true)]
  have refused := agrees ⟨.obj [("box", left)], by decide⟩ ⟨[("box", right)], by decide⟩
  have equal : FieldsEqual integers (.obj [("box", left)]) [("box", right)] := by
    intro field listed
    obtain rfl := List.mem_singleton.mp listed
    exact ⟨left, by simp [own], JsonValue.alike_perm (by decide) (by decide) (.swap _ _ _)⟩
  exact absurd (refused.mpr equal) (by decide +kernel)

section Engine

mutual

def jsonOf : Value → JsonValue Int
  | .null => .null
  | .bool flag => .bool flag
  | .num number => .num number
  | .str text => .str text
  | .arr items => .arr (jsonItems items)
  | .obj fields => .obj (jsonFields fields)

def jsonItems : List Value → List (JsonValue Int)
  | [] => []
  | item :: rest => jsonOf item :: jsonItems rest

def jsonFields : List (String × Value) → List (String × JsonValue Int)
  | [] => []
  | (key, value) :: rest => (key, jsonOf value) :: jsonFields rest

end

mutual

theorem jsonOf_inj : ∀ left right : Value, jsonOf left = jsonOf right → left = right
  | .null, right, same => by cases right <;> simp [jsonOf] at same ⊢
  | .bool _, right, same => by cases right <;> simp [jsonOf] at same ⊢; exact same
  | .num _, right, same => by cases right <;> simp [jsonOf] at same ⊢; exact same
  | .str _, right, same => by cases right <;> simp [jsonOf] at same ⊢; exact same
  | .arr items, right, same => by
    cases right with
    | arr others => rw [jsonItems_inj items others (JsonValue.arr.inj same)]
    | _ => simp [jsonOf] at same
  | .obj fields, right, same => by
    cases right with
    | obj others => rw [jsonFields_inj fields others (JsonValue.obj.inj same)]
    | _ => simp [jsonOf] at same

theorem jsonItems_inj : ∀ left right : List Value, jsonItems left = jsonItems right → left = right
  | [], right, same => by cases right <;> simp [jsonItems] at same ⊢
  | item :: rest, right, same => by
    cases right with
    | nil => simp [jsonItems] at same
    | cons other others =>
      obtain ⟨first, later⟩ := List.cons.inj same
      rw [jsonOf_inj item other first, jsonItems_inj rest others later]

theorem jsonFields_inj : ∀ left right : List (String × Value),
    jsonFields left = jsonFields right → left = right
  | [], right, same => by rcases right with _ | ⟨⟨_, _⟩, _⟩ <;> simp [jsonFields] at same ⊢
  | (key, value) :: rest, right, same => by
    rcases right with _ | ⟨⟨key', value'⟩, others⟩
    · simp [jsonFields] at same
    · obtain ⟨first, later⟩ := List.cons.inj same
      obtain ⟨rfl, values⟩ := Prod.mk.inj first
      rw [jsonOf_inj value value' values, jsonFields_inj rest others later]

end

theorem jsonItems_eq (items : List Value) : jsonItems items = items.map jsonOf := by
  induction items with
  | nil => rfl
  | cons item rest ih => rw [jsonItems, ih, List.map_cons]

theorem lookup_jsonFields (fields : List (String × Value)) (key : String) :
    (jsonFields fields).lookup key = (fields.lookup key).map jsonOf := by
  induction fields with
  | nil => rfl
  | cons field rest ih =>
    obtain ⟨other, value⟩ := field
    rw [jsonFields, List.lookup_cons, List.lookup_cons]
    split
    · rfl
    · exact ih

theorem own_jsonOf (value : Value) (key : String) :
    own integers (jsonOf value) key = (value.property key).map jsonOf := by
  cases value with
  | arr items =>
    rw [jsonOf, jsonItems_eq, own, Value.property]
    split
    · simp [jsonOf, integers]
    · rw [List.zipIdx_map, List.find?_map, Option.map_map, Option.map_map]
      rfl
  | obj fields => exact lookup_jsonFields fields key
  | _ => rfl

/-- The engine's model compares the values themselves, as the texts do where no match asks for a
field `__proto__`. -/
theorem eventMatches_jsonOf (payload : Value) (criteria : EventMatch)
    (plain : ∀ field ∈ criteria, field.1 ≠ "__proto__") :
    eventMatches integers (jsonOf payload) (jsonFields criteria) = true ↔
      Durable.eventMatches (some payload) criteria = true := by
  have fields : jsonFields criteria = criteria.map fun field => (field.1, jsonOf field.2) := by
    clear plain
    induction criteria with
    | nil => rfl
    | cons field rest ih => rw [jsonFields, ih, List.map_cons]
  have reads : ∀ field ∈ criteria,
      (readProperty integers (jsonOf payload) field.1 = some (jsonOf field.2) ↔
        payload.property field.1 = some field.2) := by
    intro field listed
    rw [readProperty_eq_some, own_jsonOf, Option.map_eq_some_iff]
    constructor
    · rintro (⟨found, held, same⟩ | ⟨-, proto, -⟩)
      · rw [held, jsonOf_inj found field.2 same]
      · exact absurd proto (plain field listed)
    · intro held
      exact .inl ⟨field.2, held, rfl⟩
  rw [eventMatches_iff, fields, List.forall_mem_map]
  have each : (∀ field ∈ criteria,
      readProperty integers (jsonOf payload) field.1 = some (jsonOf field.2)) ↔
      ∀ field ∈ criteria, payload.property field.1 = some field.2 :=
    forall₂_congr reads
  rw [each]
  cases criteria with
  | nil => simp [Durable.eventMatches]
  | cons field rest =>
    cases payload with
    | arr items => simp [Durable.eventMatches]
    | obj fields => simp [Durable.eventMatches]
    | _ =>
      -- A value without properties has not the first that is asked for.
      simp only [Durable.eventMatches, List.isEmpty_cons, Bool.false_eq_true, if_false, iff_false]
      intro all
      cases all field List.mem_cons_self

end Engine

end Durable.Events
