import Mathlib.Data.List.Basic

/-! JSON values, and when two of them are the same but for the order of their keys. -/

/-- A JSON value; an object is the list of its fields, in the order of its keys. -/
inductive JsonValue (Number : Type) where
  | null
  | bool (flag : Bool)
  | num (number : Number)
  | str (text : String)
  | arr (items : List (JsonValue Number))
  | obj (fields : List (String × JsonValue Number))
deriving Inhabited

namespace JsonValue

variable {Number : Type}

mutual

/-- No object in the value has two fields of one key. -/
def distinct : JsonValue Number → Bool
  | arr items => distinctItems items
  | obj fields => distinctFields fields
  | _ => true

/-- No object in the items has two fields of one key. -/
def distinctItems : List (JsonValue Number) → Bool
  | [] => true
  | item :: rest => item.distinct && distinctItems rest

/-- The keys of the fields differ, and so do those of the objects in them. -/
def distinctFields : List (String × JsonValue Number) → Bool
  | [] => true
  | (key, value) :: rest =>
    (rest.lookup key).isNone && value.distinct && distinctFields rest

end

mutual

/-- The keys of any two objects at one place come in the same order. -/
def sameOrder : JsonValue Number → JsonValue Number → Bool
  | arr left, arr right => sameOrderItems left right
  | obj left, obj right => sameOrderFields left right
  | _, _ => true

/-- The keys come in the same order in any two items at one index. -/
def sameOrderItems : List (JsonValue Number) → List (JsonValue Number) → Bool
  | left :: lefts, right :: rights => left.sameOrder right && sameOrderItems lefts rights
  | _, _ => true

/-- The fields have the same keys at each place, and so have the objects in them. -/
def sameOrderFields : List (String × JsonValue Number) → List (String × JsonValue Number) → Bool
  | (key, left) :: lefts, (other, right) :: rights =>
    key == other && left.sameOrder right && sameOrderFields lefts rights
  | _, _ => true

end

section Order

variable {fields : List (String × JsonValue Number)} {key : String} {value : JsonValue Number}

/-- A key that is looked up in vain is no field's. -/
theorem lookup_eq_none {Value : Type} {key : String} {fields : List (String × Value)} :
    fields.lookup key = none ↔ ∀ entry ∈ fields, entry.1 ≠ key := by
  rw [List.lookup_eq_none_iff]
  constructor
  · intro absent entry listed same
    simpa [same] using absent entry listed
  · intro absent entry listed
    have apart := absent entry listed
    simp [Ne.symm apart]

/-- A field of an object is the one that its key finds. -/
theorem lookup_of_mem (distinct : distinctFields fields = true) (listed : (key, value) ∈ fields) :
    fields.lookup key = some value := by
  induction fields with
  | nil => cases listed
  | cons field rest ih =>
    obtain ⟨other, first⟩ := field
    simp only [distinctFields, Bool.and_eq_true, Option.isNone_iff_eq_none] at distinct
    rcases List.mem_cons.mp listed with same | later
    · obtain ⟨rfl, rfl⟩ := Prod.mk.inj same
      simp
    · have apart : (key == other) = false := by
        have absent := lookup_eq_none.mp distinct.1.1 (key, value) later
        simpa using absent
      rw [List.lookup_cons, apart]
      exact ih distinct.2 later

/-- A field that a key finds is a field. -/
theorem mem_of_lookup (found : fields.lookup key = some value) : (key, value) ∈ fields := by
  induction fields with
  | nil => cases found
  | cons field rest ih =>
    obtain ⟨other, first⟩ := field
    rw [List.lookup_cons] at found
    cases same : key == other with
    | true =>
      rw [same] at found
      obtain rfl := Option.some.inj found
      obtain rfl := eq_of_beq same
      exact List.mem_cons_self
    | false =>
      rw [same] at found
      exact List.mem_cons_of_mem _ (ih found)

/-- The fields of an object hold values whose keys are distinct. -/
theorem distinct_of_mem (distinct : distinctFields fields = true) (listed : (key, value) ∈ fields) :
    value.distinct = true := by
  induction fields with
  | nil => cases listed
  | cons field rest ih =>
    obtain ⟨other, first⟩ := field
    simp only [distinctFields, Bool.and_eq_true] at distinct
    rcases List.mem_cons.mp listed with same | later
    · obtain ⟨rfl, rfl⟩ := Prod.mk.inj same
      exact distinct.1.2
    · exact ih distinct.2 later

/-- The items of an array hold values whose keys are distinct. -/
theorem distinct_of_mem_items {items : List (JsonValue Number)}
    (distinct : distinctItems items = true)
    (listed : value ∈ items) : value.distinct = true := by
  induction items with
  | nil => cases listed
  | cons item rest ih =>
    simp only [distinctItems, Bool.and_eq_true] at distinct
    rcases List.mem_cons.mp listed with rfl | later
    · exact distinct.1
    · exact ih distinct.2 later

mutual

/-- The keys of a value come in their own order. -/
theorem sameOrder_refl : ∀ value : JsonValue Number, value.sameOrder value = true
  | null => rfl
  | bool _ => rfl
  | num _ => rfl
  | str _ => rfl
  | arr items => by
    rw [sameOrder]
    exact sameOrderItems_refl items
  | obj fields => by
    rw [sameOrder]
    exact sameOrderFields_refl fields

/-- The keys of items come in their own order. -/
theorem sameOrderItems_refl : ∀ items : List (JsonValue Number), sameOrderItems items items = true
  | [] => rfl
  | item :: rest => by
    rw [sameOrderItems, sameOrder_refl item, sameOrderItems_refl rest, Bool.and_self]

/-- The keys of fields come in their own order. -/
theorem sameOrderFields_refl : ∀ fields : List (String × JsonValue Number),
    sameOrderFields fields fields = true
  | [] => rfl
  | (key, value) :: rest => by
    rw [sameOrderFields, beq_self_eq_true, sameOrder_refl value, sameOrderFields_refl rest]
    rfl

end

end Order

variable [DecidableEq Number]

mutual

/-- Two values are structurally equal: the order of an object's keys does not matter. -/
def alike : JsonValue Number → JsonValue Number → Bool
  | null, null => true
  | bool left, bool right => left == right
  | num left, num right => left == right
  | str left, str right => left == right
  | arr left, arr right => alikeItems left right
  | obj left, obj right => left.length == right.length && alikeFields left right
  | _, _ => false

/-- Two arrays are structurally equal. -/
def alikeItems : List (JsonValue Number) → List (JsonValue Number) → Bool
  | [], [] => true
  | left :: lefts, right :: rights => left.alike right && alikeItems lefts rights
  | _, _ => false

/-- Each field has one of its key among the others that is structurally equal. -/
def alikeFields : List (String × JsonValue Number) → List (String × JsonValue Number) → Bool
  | [], _ => true
  | (key, value) :: rest, others =>
    ((others.lookup key).any fun other => value.alike other) && alikeFields rest others

end

section Alike

variable {fields others : List (String × JsonValue Number)} {key : String}
  {value : JsonValue Number}

/-- Fields are alike to others where each key finds an alike one. -/
theorem alikeFields_iff : alikeFields fields others = true ↔
    ∀ field ∈ fields, ∃ other, others.lookup field.1 = some other ∧ field.2.alike other = true := by
  induction fields with
  | nil => simp [alikeFields]
  | cons field rest ih =>
    obtain ⟨key, value⟩ := field
    simp only [alikeFields, Bool.and_eq_true, Option.any_eq_true, ih, List.forall_mem_cons]

mutual

/-- A value is structurally equal to itself. -/
theorem alike_refl : ∀ value : JsonValue Number, value.distinct = true → value.alike value = true
  | null, _ => rfl
  | bool _, _ => by simp [alike]
  | num _, _ => by simp [alike]
  | str _, _ => by simp [alike]
  | arr items, distinct => by
    rw [alike]
    exact alikeItems_refl items distinct
  | obj fields, distinct => by
    rw [alike, beq_self_eq_true, Bool.true_and]
    exact alikeFields_refl fields fields distinct fun _ _ listed => lookup_of_mem distinct listed

/-- Items are structurally equal to themselves. -/
theorem alikeItems_refl : ∀ items : List (JsonValue Number), distinctItems items = true →
    alikeItems items items = true
  | [], _ => rfl
  | item :: rest, distinct => by
    simp only [distinctItems, Bool.and_eq_true] at distinct
    rw [alikeItems, alike_refl item distinct.1, alikeItems_refl rest distinct.2, Bool.and_self]

/-- Fields are structurally equal to those that their keys find. -/
theorem alikeFields_refl : ∀ fields others : List (String × JsonValue Number),
    distinctFields fields = true →
    (∀ key value, (key, value) ∈ fields → others.lookup key = some value) →
    alikeFields fields others = true
  | [], _, _, _ => rfl
  | (key, value) :: rest, others, distinct, found => by
    simp only [distinctFields, Bool.and_eq_true] at distinct
    rw [alikeFields, found key value List.mem_cons_self, Option.any_some,
      alike_refl value distinct.1.2, Bool.true_and]
    exact alikeFields_refl rest others distinct.2 fun key value listed =>
      found key value (List.mem_cons_of_mem _ listed)

end

mutual

/-- Values that are structurally equal, with their keys in the same order, are equal. -/
theorem eq_of_alike : ∀ left right : JsonValue Number, left.distinct = true →
    left.alike right = true → left.sameOrder right = true → left = right
  | null, right, _, alike, _ => by cases right <;> simp [JsonValue.alike] at alike ⊢
  | bool _, right, _, alike, _ => by cases right <;> simp [JsonValue.alike] at alike ⊢; exact alike
  | num _, right, _, alike, _ => by cases right <;> simp [JsonValue.alike] at alike ⊢; exact alike
  | str _, right, _, alike, _ => by cases right <;> simp [JsonValue.alike] at alike ⊢; exact alike
  | arr left, right, distinct, alike, same => by
    cases right with
    | arr right => rw [eq_of_alikeItems left right distinct alike same]
    | _ => simp [JsonValue.alike] at alike
  | obj left, right, distinct, alike, same => by
    cases right with
    | obj right =>
      simp only [JsonValue.alike, Bool.and_eq_true, beq_iff_eq] at alike
      rw [eq_of_alikeFields left right distinct alike.1 alike.2 same]
    | _ => simp [JsonValue.alike] at alike

/-- Items that are structurally equal, with their keys in the same order, are equal. -/
theorem eq_of_alikeItems : ∀ lefts rights : List (JsonValue Number), distinctItems lefts = true →
    alikeItems lefts rights = true → sameOrderItems lefts rights = true → lefts = rights
  | [], rights, _, alike, _ => by cases rights <;> simp [alikeItems] at alike ⊢
  | left :: lefts, rights, distinct, alike, same => by
    cases rights with
    | nil => simp [alikeItems] at alike
    | cons right rights =>
      simp only [distinctItems, alikeItems, sameOrderItems, Bool.and_eq_true] at distinct alike same
      rw [eq_of_alike left right distinct.1 alike.1 same.1,
        eq_of_alikeItems lefts rights distinct.2 alike.2 same.2]

/-- Fields that are structurally equal, with their keys in the same order, are equal. -/
theorem eq_of_alikeFields : ∀ lefts rights : List (String × JsonValue Number),
    distinctFields lefts = true → lefts.length = rights.length →
    alikeFields lefts rights = true → sameOrderFields lefts rights = true → lefts = rights
  | [], rights, _, size, _, _ => (List.length_eq_zero_iff.mp size.symm).symm
  | (key, left) :: lefts, rights, distinct, size, alike, same => by
    cases rights with
    | nil => simp at size
    | cons field rights =>
      obtain ⟨other, right⟩ := field
      simp only [distinctFields, sameOrderFields, Bool.and_eq_true, beq_iff_eq,
        Option.isNone_iff_eq_none] at distinct same
      obtain ⟨⟨rfl, first⟩, later⟩ := same
      rw [alikeFields_iff, List.forall_mem_cons] at alike
      obtain ⟨⟨found, at_, own⟩, others⟩ := alike
      simp only [List.lookup_cons, beq_self_eq_true, Option.some.injEq] at at_
      subst at_
      -- The other fields have other keys, so they find theirs behind the first.
      have rest : alikeFields lefts rights = true := by
        refine alikeFields_iff.mpr fun entry listed => ?_
        obtain ⟨found, at_, alike⟩ := others entry listed
        have apart := lookup_eq_none.mp distinct.1.1 entry listed
        have differ : (entry.1 == key) = false := by simpa using apart
        rw [List.lookup_cons, differ] at at_
        exact ⟨found, at_, alike⟩
      rw [eq_of_alike left right distinct.1.2 own first,
        eq_of_alikeFields lefts rights distinct.2 (by simpa using size) rest later]

end

/-- Values whose keys come in the same order are structurally equal just when they are equal. -/
theorem alike_iff {left right : JsonValue Number} (distinct : left.distinct = true)
    (same : left.sameOrder right = true) : left.alike right = true ↔ left = right := by
  constructor
  · intro alike
    exact eq_of_alike left right distinct alike same
  · rintro rfl
    exact alike_refl left distinct

/-- An object is structurally equal to one with its fields in another order. -/
theorem alike_perm (distinct : distinctFields fields = true)
    (distinct' : distinctFields others = true) (perm : fields.Perm others) :
    (obj fields).alike (obj others) = true := by
  rw [alike, perm.length_eq, beq_self_eq_true, Bool.true_and]
  refine alikeFields_refl fields others distinct fun key value listed => ?_
  exact lookup_of_mem distinct' (perm.subset listed)

end Alike

end JsonValue
