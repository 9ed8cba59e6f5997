import Durable.Attributes.Picker
import Durable.Data.Ids

/-! When the filter that a picked value is put in selects the runs that are counted under it. -/

namespace Durable.Attributes

open Grouping (keys_collect mem_firsts mem_sortBy)

variable {Number : Type} [LinearOrder Number] (js : TextCoercions Number)
  {runs : List (PickedRun Number)} {opts : RunValueFacetOptions} {row : RunValueFacetRow}
  {key : String}

section Listing

variable {js}

theorem mem_facets {axis : RunValueAxis} (listed : row ∈ runValueFacetsFromRuns js runs axis opts) :
    ∃ run ∈ runs, row.value ∈ valuesOf js run axis := by
  have merged := mem_sortBy.mp (List.mem_of_mem_drop (List.mem_of_mem_take listed))
  obtain ⟨counted, -⟩ := List.mem_filter.mp merged
  obtain ⟨counted, -⟩ := List.mem_filter.mp counted
  obtain ⟨entry, collected, rfl⟩ := List.mem_map.mp counted
  -- The counted values are those of the rows, which are those of the runs.
  have key := List.mem_map_of_mem (f := Prod.fst) collected
  rw [keys_collect, mem_firsts] at key
  obtain ⟨one, member, same⟩ := List.mem_filterMap.mp key
  obtain ⟨run, own, valued⟩ := List.mem_flatMap.mp member
  obtain ⟨value, has, rfl⟩ := List.mem_map.mp valued
  obtain rfl := Option.some.inj same
  exact ⟨run, own, has⟩

end Listing

section Parsing

theorem parseAttrFilter_eq (colonless : ':' ∉ key.toList) (v : String) :
    parseAttrFilter js (key ++ ":eq:" ++ v) =
      if key = "" then none else some (.scalar key .eq (coerceAttrValue js v)) := by
  have text : (key ++ ":eq:" ++ v).toList =
      key.toList ++ ':' :: (['e', 'q'] ++ ':' :: v.toList) := by
    simp
  have pieces : (key ++ ":eq:" ++ v).toList.splitOn ':' =
      key.toList :: ['e', 'q'] :: v.toList.splitOn ':' := by
    rw [text, List.splitOn_append_cons_self_of_not_mem colonless,
      List.splitOn_append_cons_self_of_not_mem (by decide)]
  obtain ⟨first, rest, split⟩ := List.exists_cons_of_ne_nil (List.splitOn_ne_nil ':' v.toList)
  have joined : [':'].intercalate (first :: rest) = v.toList := by
    rw [← split]
    exact List.intercalate_splitOn ':'
  unfold parseAttrFilter
  rw [pieces, split]
  dsimp only
  rw [joined]
  have eq : String.ofList ['e', 'q'] = "eq" := by decide
  by_cases empty : key = ""
  · simp [empty]
  · have filled : key.toList.isEmpty = false := by simpa using empty
    simp [filled, empty, eq, scalarOpOf]

theorem parseAttrFilters_eq (colonless : ':' ∉ key.toList) (v : String) :
    parseAttrFilters js [key ++ ":eq:" ++ v] =
      if key = "" then none else some [.scalar key .eq (coerceAttrValue js v)] := by
  unfold parseAttrFilters
  rw [List.filterMap_cons, parseAttrFilter_eq js colonless]
  by_cases empty : key = "" <;> simp [empty]

end Parsing

section Picking

def selectedBy (key v : String) (run : PickedRun Number) : Bool :=
  matchesAttributes js.toCoercions run.searchAttributes
    (parseAttrFilters js [key ++ ":eq:" ++ v])

def countedUnder (key v : String) (run : PickedRun Number) : Bool :=
  some v ∈ valuesOf js run (.attributeValue key)

/-- The member that a run has under a key. -/
def PickedRun.memberOf (run : PickedRun Number) (key : String) : Option (Member Number) :=
  Attributes.memberOf js.toCoercions run.searchAttributes key

/-- For every listed value of a key, the filter selects the runs that are counted under it. -/
def FindsWhatItLists (runs : List (PickedRun Number)) (key : String)
    (opts : RunValueFacetOptions) : Prop :=
  ∀ row ∈ runValueFacetsFromRuns js runs (.attributeValue key) opts, ∀ v, row.value = some v →
    runs.filter (selectedBy js key v) = runs.filter (countedUnder js key v)

/-- What the listed values of a key have to be. -/
structure ReadsBack (runs : List (PickedRun Number)) (key : String)
    (opts : RunValueFacetOptions) : Prop where
  /-- Under the empty key, of which no filter is made, every run has each listed value. -/
  unkeyed : key = "" → ∀ row ∈ runValueFacetsFromRuns js runs (.attributeValue key) opts,
    ∀ v, row.value = some v → ∀ run ∈ runs, (run.memberOf js key).map (Member.text js) = some v
  /-- A listed text that a run has is read as that text, not as a boolean or a number. -/
  text : key ≠ "" → ∀ row ∈ runValueFacetsFromRuns js runs (.attributeValue key) opts,
    ∀ v, row.value = some v → ∀ run ∈ runs, run.memberOf js key = some (.own (.str v)) →
      coerceAttrValue js v = .str v
  /-- No listed value is that of a member which an object inherits. -/
  own : key ≠ "" → ∀ row ∈ runValueFacetsFromRuns js runs (.attributeValue key) opts,
    ∀ v, row.value = some v → ∀ run ∈ runs, run.memberOf js key ≠ some (.inherited v)

variable {js} {v : String}

theorem countedUnder_iff (key v : String) (run : PickedRun Number) :
    countedUnder js key v run = true ↔ (run.memberOf js key).map (Member.text js) = some v := by
  have values : valuesOf js run (.attributeValue key) =
      (run.memberOf js key).toList.map fun member => some (member.text js) := rfl
  unfold countedUnder
  rw [decide_eq_true_iff, values]
  cases run.memberOf js key <;> simp [eq_comm]

theorem selectedBy_iff (colonless : ':' ∉ key.toList) (v : String) (run : PickedRun Number) :
    selectedBy js key v run = true ↔
      key = "" ∨ run.memberOf js key = some (.own (coerceAttrValue js v)) := by
  unfold selectedBy PickedRun.memberOf
  rw [parseAttrFilters_eq js colonless]
  by_cases empty : key = ""
  · simp [empty, matchesAttributes]
  · rw [if_neg empty]
    cases attributes : run.searchAttributes with
    | none => simp [matchesAttributes, memberOf, empty]
    | some fields =>
      cases found : fields.member? js.toCoercions key with
      | none => simp [matchesAttributes, memberOf, AttributeFilter.key, empty, found]
      | some member =>
        simp [matchesAttributes, memberOf, AttributeFilter.key, empty, found, compare]

theorem coerce_textOf {value : AttributeValue Number} (other : ∀ text, value ≠ .str text) :
    coerceAttrValue js (textOf js value) = value := by
  cases value with
  | str text => exact absurd rfl (other text)
  | bool flag => cases flag <;> simp [textOf, boolText, coerceAttrValue]
  | num number =>
    have read := js.toNumber_numberText number
    have notTrue : js.numberText number ≠ "true" := by
      intro same
      rw [same, js.toNumber_true] at read
      cases read
    have notFalse : js.numberText number ≠ "false" := by
      intro same
      rw [same, js.toNumber_false] at read
      cases read
    simp [textOf, coerceAttrValue, notTrue, notFalse, js.numberText_ne number, read]

theorem exists_member (listed : row ∈ runValueFacetsFromRuns js runs (.attributeValue key) opts)
    (value : row.value = some v) :
    ∃ run ∈ runs, ∃ member, run.memberOf js key = some member ∧ member.text js = v := by
  obtain ⟨run, own, has⟩ := mem_facets listed
  have counted : countedUnder js key v run = true := by
    unfold countedUnder
    rw [← value]
    simpa using has
  rw [countedUnder_iff, Option.map_eq_some_iff] at counted
  obtain ⟨member, found, text⟩ := counted
  exact ⟨run, own, member, found, text⟩

theorem filters_agree_iff (runs : List (PickedRun Number)) (key v : String) :
    runs.filter (selectedBy js key v) = runs.filter (countedUnder js key v) ↔
      ∀ run ∈ runs, selectedBy js key v run = true ↔ countedUnder js key v run = true := by
  constructor
  · intro same run own
    have selected : run ∈ runs.filter (selectedBy js key v) ↔
        run ∈ runs.filter (countedUnder js key v) := by
      rw [same]
    simpa [List.mem_filter, own] using selected
  · intro agree
    apply List.filter_congr
    intro run own
    exact Bool.eq_iff_iff.mpr (agree run own)

/-- A counted member is the one that is read from its text, if texts are read as texts and none
is inherited. -/
theorem read_of_text {member : Member Number} (text : member.text js = v)
    (texts : member = .own (.str v) → coerceAttrValue js v = .str v) (own : member ≠ .inherited v) :
    member = .own (coerceAttrValue js v) := by
  cases member with
  | inherited other => exact absurd (congrArg Member.inherited text) own
  | own value =>
    have spelt : textOf js value = v := text
    cases value with
    | str other =>
      obtain rfl : other = v := spelt
      rw [texts rfl]
    | num number => rw [← spelt, coerce_textOf (by simp)]
    | bool flag => rw [← spelt, coerce_textOf (by simp)]

/-- What a listed text is read as has that text, if texts are read as texts and none of the runs'
members is inherited. -/
theorem text_of_read (named : key ≠ "") (reads : ReadsBack js runs key opts)
    (listed : row ∈ runValueFacetsFromRuns js runs (.attributeValue key) opts)
    (value : row.value = some v) : textOf js (coerceAttrValue js v) = v := by
  obtain ⟨run, own, member, found, text⟩ := exists_member listed value
  have read : member = .own (coerceAttrValue js v) := by
    apply read_of_text text
    · intro isText
      rw [isText] at found
      exact reads.text named row listed v value run own found
    · intro inherited
      rw [inherited] at found
      exact reads.own named row listed v value run own found
  rw [read] at text
  exact text

/-- The filters of the listed values of a key select the runs counted under them just when the
listed texts are read as texts, and no listed value is inherited; under the empty key, when every
run has each listed value. -/
theorem picked_values_found_iff (runs : List (PickedRun Number)) (key : String)
    (colonless : ':' ∉ key.toList) (opts : RunValueFacetOptions) :
    FindsWhatItLists js runs key opts ↔ ReadsBack js runs key opts := by
  constructor
  · intro finds
    -- A run that is counted has to be selected too.
    have agree : ∀ row ∈ runValueFacetsFromRuns js runs (.attributeValue key) opts,
        ∀ v, row.value = some v → ∀ run ∈ runs,
          (key = "" ∨ run.memberOf js key = some (.own (coerceAttrValue js v))) ↔
            (run.memberOf js key).map (Member.text js) = some v := by
      intro row listed v value run own
      rw [← selectedBy_iff colonless, ← countedUnder_iff]
      exact (filters_agree_iff runs key v).mp (finds row listed v value) run own
    refine ⟨?_, ?_, ?_⟩
    · intro empty row listed v value run own
      exact (agree row listed v value run own).mp (.inl empty)
    · intro named row listed v value run own found
      have selected := (agree row listed v value run own).mpr (by rw [found]; rfl)
      rcases selected with empty | read
      · exact absurd empty named
      · rw [found] at read
        simpa using read.symm
    · intro named row listed v value run own found
      have selected := (agree row listed v value run own).mpr (by rw [found]; rfl)
      rcases selected with empty | read
      · exact absurd empty named
      · rw [found] at read
        simp at read
  · intro reads row listed v value
    rw [filters_agree_iff]
    intro run own
    rw [selectedBy_iff colonless, countedUnder_iff]
    by_cases empty : key = ""
    · simp [empty, ← reads.unkeyed empty row listed v value run own]
    · constructor
      · intro selected
        rcases selected with named | found
        · exact absurd named empty
        · rw [found]
          exact congrArg some (text_of_read empty reads listed value)
      · intro counted
        obtain ⟨member, found, text⟩ := Option.map_eq_some_iff.mp counted
        right
        rw [found]
        congr 1
        apply read_of_text text
        · intro isText
          rw [isText] at found
          exact reads.text empty row listed v value run own found
        · intro inherited
          rw [inherited] at found
          exact reads.own empty row listed v value run own found

theorem numeral_ne (number : Nat) : toString number ≠ "" := by
  intro empty
  apply toString_ne_nil number
  rw [empty]
  rfl

/-- Natural numbers as JavaScript spells and reads them. -/
def naturals : TextCoercions Nat where
  ofBool flag := if flag then 1 else 0
  ofBool_lt := by decide
  toNumber text := if text = "" then some 0 else digitsOf text.toList
  inherited _ := none
  numberText number := toString number
  toNumber_numberText number := by
    rw [if_neg (numeral_ne number)]
    exact digitsOf_toString number
  numberText_ne := numeral_ne
  toNumber_true := by decide
  toNumber_false := by decide
  trim text := text
  toLowerCase text := text
  localeCompare first second := if first < second then .lt else .gt

def runWith (value : AttributeValue Nat) : PickedRun Nat where
  workflow := "orders"
  status := "completed"
  searchAttributes := some ⟨[("tier", value)], by simp⟩

/-- A text attribute that reads as no number is found under its value. -/
theorem plain_value_found : FindsWhatItLists naturals [runWith (.str "pro")] "tier" {} := by
  apply (picked_values_found_iff [runWith (.str "pro")] "tier" (by decide) {}).mpr
  have member : (runWith (.str "pro")).memberOf naturals "tier" = some (.own (.str "pro")) := by
    decide
  constructor
  · intro empty
    exact absurd empty (by decide)
  · intro named row listed v value run own found
    obtain rfl := List.mem_singleton.mp own
    rw [member] at found
    obtain rfl : "pro" = v := by simpa using found
    decide +kernel
  · intro named row listed v value run own found
    obtain rfl := List.mem_singleton.mp own
    rw [member] at found
    simp at found

/-- A text of digits is listed, but the filter it is put in reads it as a number. -/
theorem digits_not_found :
    ¬ ∀ (runs : List (PickedRun Nat)) (key : String), ':' ∉ key.toList →
      ∀ opts, FindsWhatItLists naturals runs key opts := by
  intro claim
  have listed : ⟨some "2024", 1⟩ ∈ runValueFacetsFromRuns naturals [runWith (.str "2024")]
      (.attributeValue "tier") {} := by
    decide +kernel
  have found := claim [runWith (.str "2024")] "tier" (by decide) {} _ listed "2024" rfl
  rw [filters_agree_iff] at found
  revert found
  decide +kernel

end Picking

end Durable.Attributes
