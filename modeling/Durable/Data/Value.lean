/-! JSON values, the only data a payload, an input, or an output can carry. -/

namespace Durable

/-- A JSON value; the absent value `undefined` is the `none` of an optional one. -/
inductive Value where
  | null
  | bool (flag : Bool)
  | num (number : Int)
  | str (text : String)
  | arr (items : List Value)
  | obj (fields : List (String × Value))
deriving Repr, Inhabited

namespace Value

mutual

/-- Two JSON values have the same serialization. -/
def same : Value → Value → Bool
  | null, null => true
  | bool left, bool right => left == right
  | num left, num right => left == right
  | str left, str right => left == right
  | arr left, arr right => sameItems left right
  | obj left, obj right => sameFields left right
  | _, _ => false

/-- Two arrays have the same items in the same order. -/
def sameItems : List Value → List Value → Bool
  | [], [] => true
  | left :: lefts, right :: rights => same left right && sameItems lefts rights
  | _, _ => false

/-- Two objects have the same fields in the same order. -/
def sameFields : List (String × Value) → List (String × Value) → Bool
  | [], [] => true
  | (leftKey, left) :: lefts, (rightKey, right) :: rights =>
    leftKey == rightKey && same left right && sameFields lefts rights
  | _, _ => false

end

mutual

/-- The serialization comparison decides equality of values. -/
theorem same_iff : ∀ left right : Value, same left right = true ↔ left = right
  -- The recursion follows the values, and the two list comparisons are the mutual cases.
  | null, right => by cases right <;> simp [same]
  | bool _, right => by cases right <;> simp [same]
  | num _, right => by cases right <;> simp [same]
  | str _, right => by cases right <;> simp [same]
  | arr _, right => by cases right <;> simp [same, sameItems_iff]
  | obj _, right => by cases right <;> simp [same, sameFields_iff]

/-- The array comparison decides equality of item lists. -/
theorem sameItems_iff : ∀ lefts rights : List Value, sameItems lefts rights = true ↔ lefts = rights
  | [], rights => by cases rights <;> simp [sameItems]
  | _ :: _, rights => by cases rights <;> simp [sameItems, same_iff, sameItems_iff]

/-- The object comparison decides equality of field lists. -/
theorem sameFields_iff :
    ∀ lefts rights : List (String × Value), sameFields lefts rights = true ↔ lefts = rights
  | [], rights => by cases rights <;> simp [sameFields]
  | (_, _) :: _, rights => by
    rcases rights with _ | ⟨⟨_, _⟩, _⟩ <;> simp [sameFields, same_iff, sameFields_iff]

end

instance : DecidableEq Value := fun left right => decidable_of_iff _ (same_iff left right)

/-- The field of an object, or `none` where JavaScript would read `undefined`. -/
def field : Value → String → Option Value
  | obj fields, key => fields.lookup key
  | _, _ => none

end Value

end Durable
