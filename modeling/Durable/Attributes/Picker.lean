import Durable.Attributes.Filters
import Durable.Data.FirstMentions

/-! The values a picker lists for an axis of the runs, and the filter a picked value is put in. -/

namespace Durable.Attributes

open Grouping (collect sortBy)

/-- What the picker and the filter take from JavaScript. -/
structure TextCoercions (Number : Type) [LinearOrder Number] extends Coercions Number where
  numberText : Number → String
  toNumber_numberText : ∀ number, toNumber (numberText number) = some number
  numberText_ne : ∀ number, numberText number ≠ ""
  toNumber_true : toNumber "true" = none
  toNumber_false : toNumber "false" = none
  trim : String → String
  toLowerCase : String → String
  localeCompare : String → String → Ordering

/-- What the picker reads of a run. -/
structure PickedRun (Number : Type) where
  workflow : String
  status : String
  «namespace» : Option String := none
  origin : Option String := none
  tags : Option (List String) := none
  searchAttributes : Option (SearchAttributes Number) := none

/-- What the values are counted of. -/
inductive RunValueAxis where
  | workflow | status | «namespace» | origin | tag | attributeKey
  | attributeValue (key : String)

/-- A listed value and how many runs carry it; `null` where the axis has a bucket for none. -/
structure RunValueFacetRow where
  value : Option String
  count : Nat
deriving Repr, DecidableEq

/-- What a picker asks of the list. -/
structure RunValueFacetOptions where
  limit : Option Nat := none
  offset : Option Nat := none
  search : Option String := none

/-- How many rows a picker gets that names no bound. -/
def runValueFacetLimit : Nat := 100

/-- Whether a text begins with another. -/
def startsWith (opening text : String) : Bool := opening.toList.isPrefixOf text.toList

/-- Whether a tag is one of those the engine makes for each key. -/
def isEngineMintedTag (value : Option String) : Bool :=
  value.any fun tag => startsWith "singleton:" tag || startsWith "concurrency:" tag

section Facets

variable {Number : Type} [LinearOrder Number] (js : TextCoercions Number)

/-- `String(value)`. -/
def textOf : AttributeValue Number → String
  | .str text => text
  | .num number => js.numberText number
  | .bool flag => boolText flag

/-- A member as a text. -/
def Member.text : Member Number → String
  | .own value => textOf js value
  | .inherited text => text

/-- The values a run has on an axis. -/
def valuesOf (run : PickedRun Number) : RunValueAxis → List (Option String)
  | .workflow => [some run.workflow]
  | .status => [some run.status]
  | .«namespace» => run.«namespace».toList.map some
  | .origin => [run.origin]
  | .tag => (run.tags.getD []).map some
  | .attributeKey =>
    match run.searchAttributes with
    | none => []
    | some attributes => attributes.entries.map fun entry => some entry.1
  | .attributeValue key =>
    (memberOf js.toCoercions run.searchAttributes key).toList.map fun member =>
      some (member.text js)

/-- The order of the listed rows: tags of the engine last, then by count, then by value. -/
def compareRows (a b : RunValueFacetRow) : Ordering :=
  let engineA := isEngineMintedTag a.value
  let engineB := isEngineMintedTag b.value
  if engineA ≠ engineB then (if engineA then .gt else .lt)
  else if b.count ≠ a.count then (if b.count < a.count then .lt else .gt)
  else
    match a.value, b.value with
    | none, _ => .gt
    | _, none => .lt
    | some a, some b => js.localeCompare a b

/-- Whether a row is one of those searched for. -/
def searched (search : Option String) (value : Option String) : Bool :=
  match search with
  | none => true
  | some text =>
    let needle := js.toLowerCase (js.trim text)
    needle = "" || value.any fun text =>
      (js.toLowerCase text).toList.tails.any needle.toList.isPrefixOf

/-- Count the values of some rows, then search, order and bound what is listed. -/
def mergeRunValueFacetRows (rows : List RunValueFacetRow) (opts : RunValueFacetOptions) :
    List RunValueFacetRow :=
  let counts := collect (fun row : RunValueFacetRow => some row.value)
    (fun count row => count.getD 0 + row.count) rows
  let merged := ((counts.map fun entry => (⟨entry.1, entry.2⟩ : RunValueFacetRow)).filter
    fun row => 0 < row.count).filter fun row => searched js opts.search row.value
  ((sortBy (compareRows js) merged).drop (opts.offset.getD 0)).take
    (opts.limit.getD runValueFacetLimit)

/-- The values of an axis that some runs have, counted. -/
def runValueFacetsFromRuns (runs : List (PickedRun Number)) (axis : RunValueAxis)
    (opts : RunValueFacetOptions) : List RunValueFacetRow :=
  mergeRunValueFacetRows js
    (runs.flatMap fun run => (valuesOf js run axis).map fun value => ⟨value, 1⟩) opts

end Facets

section Filters

variable {Number : Type} [LinearOrder Number] (js : TextCoercions Number)

/-- A text of a query as a boolean, a number, or itself. -/
def coerceAttrValue (v : String) : AttributeValue Number :=
  if v = "true" then .bool true
  else if v = "false" then .bool false
  else if v = "" then .str v
  else
    match js.toNumber v with
    | some number => .num number
    | none => .str v

/-- The operator of a text that compares with one value. -/
def scalarOpOf (op : String) : Option ScalarOp :=
  if op = "eq" then some .eq
  else if op = "ne" then some .ne
  else if op = "gt" then some .gt
  else if op = "gte" then some .gte
  else if op = "lt" then some .lt
  else if op = "lte" then some .lte
  else none

/-- The filter of one entry `key:op:value`, if it is one. -/
def parseAttrFilter (entry : String) : Option (AttributeFilter Number) :=
  match entry.toList.splitOn ':' with
  | key :: op :: first :: rest =>
    let value := [':'].intercalate (first :: rest)
    if key.isEmpty then none
    else if String.ofList op = "in" then
      let parts := (value.splitOn '|').filter (!·.isEmpty)
      some (.within (String.ofList key) (parts.map fun part =>
        coerceAttrValue js (String.ofList part)))
    else
      (scalarOpOf (String.ofList op)).map fun op =>
        .scalar (String.ofList key) op (coerceAttrValue js (String.ofList value))
  | _ => none

/-- The filters of the entries of a query; an entry that is no filter is passed over. -/
def parseAttrFilters (attr : List String) : Option (List (AttributeFilter Number)) :=
  let filters := attr.filterMap (parseAttrFilter js)
  if filters.isEmpty then none else some filters

end Filters

end Durable.Attributes
