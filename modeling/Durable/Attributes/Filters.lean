import Mathlib.Data.List.Lex
import Mathlib.Data.List.Nodup
import Mathlib.Data.String.Basic

/-! Filters on search attributes: as JavaScript compares them, and as predicates on a side table. -/

namespace Durable.Attributes

/-- A search attribute's value. -/
inductive AttributeValue (Number : Type) where
  | str (text : String)
  | num (number : Number)
  | bool (flag : Bool)
deriving DecidableEq

/-- A comparison with one operand. -/
inductive ScalarOp where
  | eq | ne | gt | gte | lt | lte
deriving DecidableEq

/-- One predicate on a run's search attributes. -/
inductive AttributeFilter (Number : Type) where
  | scalar (key : String) (op : ScalarOp) (value : AttributeValue Number)
  | within (key : String) (values : List (AttributeValue Number))
deriving DecidableEq

/-- The key of a filter. -/
def AttributeFilter.key {Number : Type} : AttributeFilter Number → String
  | .scalar key _ _ => key
  | .within key _ => key

/-- A run's search attributes: one value under each key. -/
structure SearchAttributes (Number : Type) where
  entries : List (String × AttributeValue Number)
  distinct : (entries.map (·.1)).Nodup

/-- The UTF-16 code units of a text, by which texts are ordered. -/
def utf16 (text : String) : List Nat :=
  text.toList.flatMap fun char =>
    if char.toNat < 0x10000 then [char.toNat]
    else [0xD800 + (char.toNat - 0x10000) / 0x400, 0xDC00 + (char.toNat - 0x10000) % 0x400]

/-- What the comparisons take from JavaScript. -/
structure Coercions (Number : Type) [LinearOrder Number] where
  ofBool : Bool → Number
  ofBool_lt : ofBool false < ofBool true
  toNumber : String → Option Number
  inherited : String → Option String

/-- What is read under a key of an object. -/
inductive Member (Number : Type) where
  | own (value : AttributeValue Number)
  | inherited (text : String)
deriving DecidableEq

/-- Whether two ordered values compare as an operator asks. -/
def ScalarOp.holds {Key : Type} [LinearOrder Key] (op : ScalarOp) (first second : Key) : Bool :=
  match op with
  | .eq => first = second
  | .ne => first ≠ second
  | .gt => second < first
  | .gte => second ≤ first
  | .lt => first < second
  | .lte => first ≤ second

section InProcess

variable {Number : Type} [LinearOrder Number] (js : Coercions Number)

/-- A value as a number. -/
def numberOf : AttributeValue Number → Option Number
  | .str text => js.toNumber text
  | .num number => some number
  | .bool flag => some (js.ofBool flag)

/-- A member as a number. -/
def Member.number : Member Number → Option Number
  | .own value => numberOf js value
  | .inherited text => js.toNumber text

/-- A member as a text, where it compares with a text as one. -/
def Member.text? : Member Number → Option String
  | .own (.str text) => some text
  | .own _ => none
  | .inherited text => some text

/-- Two texts compare in the order of their code units. -/
def textsCompare (op : ScalarOp) (first second : String) : Bool :=
  op.holds (utf16 first) (utf16 second)

/-- Two numbers compare, unless one of them is `NaN`. -/
def numbersCompare (op : ScalarOp) (first second : Option Number) : Bool :=
  match first, second with
  | some first, some second => op.holds first second
  | _, _ => false

/-- The relational operators: two texts compare as texts, anything else as numbers. -/
def relates (op : ScalarOp) (actual : Member Number) (expected : AttributeValue Number) : Bool :=
  match actual.text?, expected with
  | some text, .str other => textsCompare op text other
  | _, _ => numbersCompare op (actual.number js) (numberOf js expected)

/-- `compare`: whether the member under its key meets a filter. -/
def compare (actual : Member Number) : AttributeFilter Number → Bool
  | .scalar _ .eq value => actual = .own value
  | .scalar _ .ne value => actual ≠ .own value
  | .scalar _ op value => relates js op actual value
  | .within _ values => values.any fun value => actual = .own value

/-- The member an object has under a key. -/
def SearchAttributes.member? (attributes : SearchAttributes Number) (key : String) :
    Option (Member Number) :=
  match attributes.entries.find? (·.1 = key) with
  | some entry => some (.own entry.2)
  | none => (js.inherited key).map .inherited

/-- The member a run's attributes have under a key, if the run has attributes. -/
def memberOf (attributes : Option (SearchAttributes Number)) (key : String) :
    Option (Member Number) :=
  attributes.bind (·.member? js key)

/-- `matchesAttributes`: whether a run's attributes meet every filter. -/
def matchesAttributes (attributes : Option (SearchAttributes Number))
    (filters : Option (List (AttributeFilter Number))) : Bool :=
  match filters with
  | none => true
  | some [] => true
  | some filters =>
    match attributes with
    | none => false
    | some attributes => filters.all fun f => (attributes.member? js f.key).any (compare js · f)

end InProcess

section SideTable

variable {Number : Type} [LinearOrder Number]

/-- A row of the side table, with the value in the column of its type. -/
structure RunAttributeRow (Number : Type) where
  runId : String
  key : String
  strValue : Option String
  numValue : Option Number
deriving DecidableEq

/-- A boolean as the side table spells it. -/
def boolText (flag : Bool) : String := if flag then "true" else "false"

/-- `normalizeAttributeRows`: the rows of a run's attributes. -/
def normalizeAttributeRows (runId : String) (attributes : Option (SearchAttributes Number)) :
    List (RunAttributeRow Number) :=
  match attributes with
  | none => []
  | some attributes =>
    attributes.entries.map fun (key, value) =>
      match value with
      | .num number => { runId := runId, key := key, strValue := none, numValue := some number }
      | .bool flag =>
        { runId := runId, key := key, strValue := some (boolText flag), numValue := none }
      | .str text => { runId := runId, key := key, strValue := some text, numValue := none }

/-- `sqlComparator`: the comparison a filter's predicate makes. -/
def sqlComparator : AttributeFilter Number → ScalarOp
  | .scalar _ op _ => op
  | .within _ _ => .eq

/-- A column of the side table. -/
inductive AttributeColumn where
  | numValue | strValue
deriving DecidableEq

/-- Whether a value is a number. -/
def AttributeValue.isNumber : AttributeValue Number → Bool
  | .num _ => true
  | _ => false

/-- `attributeColumnFor`: the column a filter compares against. -/
def attributeColumnFor : AttributeFilter Number → AttributeColumn
  | .scalar _ _ value => if value.isNumber then .numValue else .strValue
  | .within _ values =>
    if !values.isEmpty && values.all (·.isNumber) then .numValue else .strValue

/-- A literal in a predicate, or a value in a column. -/
inductive SqlLiteral (Number : Type) where
  | text (text : String)
  | number (number : Number)
deriving DecidableEq

/-- A value as a literal: a boolean as its text. -/
def literalOf : AttributeValue Number → SqlLiteral Number
  | .str text => .text text
  | .num number => .number number
  | .bool flag => .text (boolText flag)

/-- `attributeOperands`: the literals a filter's predicate compares with. -/
def attributeOperands : AttributeFilter Number → List (SqlLiteral Number)
  | .scalar _ _ value => [literalOf value]
  | .within _ values => values.map literalOf

/-- How a database compares a value with a literal of the other type. -/
abbrev MixedComparison (Number : Type) := ScalarOp → SqlLiteral Number → SqlLiteral Number → Bool

variable (mixed : MixedComparison Number)

/-- Whether a value in a column compares with a literal; texts are equal where they are the same
text, and ordered as JavaScript orders them. -/
def literalsCompare (op : ScalarOp) : SqlLiteral Number → SqlLiteral Number → Bool
  | .number first, .number second => op.holds first second
  | .text first, .text second =>
    match op with
    | .eq => first = second
    | .ne => first ≠ second
    | _ => textsCompare op first second
  | first, second => mixed op first second

/-- The value a row has in a column, or none for NULL. -/
def RunAttributeRow.cell (row : RunAttributeRow Number) :
    AttributeColumn → Option (SqlLiteral Number)
  | .numValue => row.numValue.map .number
  | .strValue => row.strValue.map .text

/-- `applyAttributeExists`: whether a row meets a filter's predicate; NULL meets none. -/
def existsRow (rows : List (RunAttributeRow Number)) (f : AttributeFilter Number) : Bool :=
  rows.any fun row => row.key = f.key &&
    (row.cell (attributeColumnFor f)).any fun cell =>
      (attributeOperands f).any (literalsCompare mixed (sqlComparator f) cell)

/-- Whether a run's rows meet the predicate of every filter. -/
def pushedDown (rows : List (RunAttributeRow Number))
    (filters : Option (List (AttributeFilter Number))) : Bool :=
  (filters.getD []).all (existsRow mixed rows)

end SideTable

end Durable.Attributes
