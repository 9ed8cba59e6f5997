import Durable.Json.Text
import Durable.Data.Token

/-! How a wait's match is compared with the payload of an event: by the texts of their fields. -/

namespace Durable.Events

/-- The numbers of a JavaScript engine, among them the lengths of arrays. -/
structure Numbers (Number : Type) extends JsonValue.NumberText Number where
  ofNat : Nat → Number

/-- A JSON value as JavaScript holds it: no object has two fields of one key. -/
structure JsonData (Number : Type) where
  value : JsonValue Number
  distinct : value.distinct = true

/-- The fields of a wait's match. -/
structure MatchFields (Number : Type) where
  fields : List (String × JsonValue Number)
  distinct : JsonValue.distinctFields fields = true

section Reads

variable {Number : Type} (numbers : Numbers Number)

/-- A value's own property. -/
def own : JsonValue Number → String → Option (JsonValue Number)
  | .obj fields, key => fields.lookup key
  | .arr items, key =>
    if key = "length" then some (.num (numbers.ofNat items.length))
    else (items.zipIdx.find? fun item => toString item.2 == key).map Prod.fst
  | _, _ => none

/-- What the prototype of a value is written as: that of an object is empty, and that of an array is
an empty array. -/
def prototype : JsonValue Number → Option (JsonValue Number)
  | .obj _ => some (.obj [])
  | .arr _ => some (.arr [])
  | _ => none

/-- A property as it is read: one that is not the value's own is a method, which is not written, or
the prototype. -/
def readProperty (value : JsonValue Number) (key : String) : Option (JsonValue Number) :=
  match own numbers value key with
  | some found => some found
  | none => if key = "__proto__" then prototype value else none

/-- Whether a payload is an object, or an array. -/
def isObject : JsonValue Number → Bool
  | .obj _ => true
  | .arr _ => true
  | _ => false

/-- Whether a payload satisfies a wait's match. -/
def eventMatches (payload : JsonValue Number) (fields : List (String × JsonValue Number)) : Bool :=
  -- No criteria match any payload.
  fields.isEmpty || isObject payload && fields.all fun field =>
    (readProperty numbers payload field.1).map (·.stringify numbers.toNumberText) ==
      some (field.2.stringify numbers.toNumberText)

end Reads

end Durable.Events
