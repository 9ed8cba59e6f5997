import Durable.Attributes.Filters
import Mathlib.Tactic.ByContra
import Mathlib.Tactic.Tauto

/-! Where the side table answers a list of attribute filters as the comparison in process does. -/

namespace Durable.Attributes

section Sides

variable {Number : Type}

/-- A value as the text of the side table's column, where it is no number. -/
def AttributeValue.text : AttributeValue Number → String
  | .str text => text
  | .bool flag => boolText flag
  | .num _ => ""

def TextBesideFlag (first second : AttributeValue Number) : Prop :=
  match first, second with
  | .str _, .bool _ => True
  | .bool _, .str _ => True
  | _, _ => False

def Misspells (first second : AttributeValue Number) : Prop :=
  TextBesideFlag first second ∧ first.text = second.text

variable [LinearOrder Number] (js : Coercions Number) (mixed : MixedComparison Number)

/-- Whether a member has no row, or one whose value stands apart from an operand's column. -/
def StandsApart (actual : Member Number) (value : AttributeValue Number) : Prop :=
  ∀ stored, actual = .own stored → stored.isNumber ≠ value.isNumber

/-- A filter is met in process alone by the member under its key. -/
def OnlyInProcess (actual : Member Number) : AttributeFilter Number → Prop
  | .scalar _ .eq _ => False
  | .scalar _ .ne value =>
    StandsApart actual value ∨ ∃ stored, actual = .own stored ∧ Misspells stored value
  | .scalar _ op value =>
    relates js op actual value = true ∧
      (StandsApart actual value ∨ ∃ stored, actual = .own stored ∧ TextBesideFlag stored value ∧
        textsCompare op stored.text value.text = false)
  | .within _ values =>
    ∃ stored, actual = .own stored ∧ stored.isNumber = true ∧ stored ∈ values ∧
      ∃ value ∈ values, value.isNumber = false

/-- A filter is met in the side table alone by the member under its key. -/
def OnlyInTable (actual : Member Number) : AttributeFilter Number → Prop
  | .scalar _ .eq value => ∃ stored, actual = .own stored ∧ Misspells stored value
  | .scalar _ .ne _ => False
  | .scalar _ op value =>
    relates js op actual value = false ∧ ∃ stored, actual = .own stored ∧
      TextBesideFlag stored value ∧ textsCompare op stored.text value.text = true
  | .within _ values =>
    ∃ stored, actual = .own stored ∧ stored.isNumber = false ∧ stored ∉ values ∧
      ∃ value ∈ values, Misspells stored value ∨
        (value.isNumber = true ∧ (∃ other ∈ values, other.isNumber = false) ∧
          mixed .eq (literalOf stored) (literalOf value) = true)

/-- Whether the value a run has under a filter's key meets the filter's predicate. -/
def cellMeets (stored : AttributeValue Number) (f : AttributeFilter Number) : Bool :=
  let cell : Option (SqlLiteral Number) :=
    if stored.isNumber = (attributeColumnFor f == .numValue) then some (literalOf stored) else none
  cell.any fun cell => (attributeOperands f).any (literalsCompare mixed (sqlComparator f) cell)

/-- Whether what a run has under a filter's key has a row that meets the filter's predicate. -/
def memberMeets (actual : Option (Member Number)) (f : AttributeFilter Number) : Bool :=
  match actual with
  | some (.own stored) => cellMeets mixed stored f
  | _ => false

end Sides

section Rows

variable {Number : Type}

theorem any_entry {entries : List (String × AttributeValue Number)}
    (distinct : (entries.map (·.1)).Nodup) (key : String) (meets : AttributeValue Number → Bool) :
    (entries.any fun entry => entry.1 = key && meets entry.2) =
      (entries.find? (·.1 = key)).any fun entry => meets entry.2 := by
  induction entries with
  | nil => rfl
  | cons entry rest ih =>
    rw [List.map_cons, List.nodup_cons] at distinct
    rw [List.any_cons, List.find?_cons, ih distinct.2]
    by_cases same : entry.1 = key
    · -- No later entry is under the key.
      have none : rest.find? (·.1 = key) = none := by
        rw [List.find?_eq_none]
        intro other member later
        have equal : other.1 = key := by simpa using later
        exact distinct.1 (List.mem_map.mpr ⟨other, member, equal.trans same.symm⟩)
      simp [same, none]
    · simp [same]

@[simp]
theorem boolText_inj {first second : Bool} : boolText first = boolText second ↔ first = second := by
  cases first <;> cases second <;> decide

theorem literalOf_inj {first second : AttributeValue Number} :
    literalOf first = literalOf second ↔ first = second ∨ Misspells first second := by
  cases first <;> cases second <;>
    simp [literalOf, Misspells, TextBesideFlag, AttributeValue.text]

theorem TextBesideFlag.isNumber {first second : AttributeValue Number}
    (beside : TextBesideFlag first second) : first.isNumber = second.isNumber := by
  cases first <;> cases second <;> first | rfl | exact absurd beside id

theorem column_within (key : String) (values : List (AttributeValue Number)) :
    attributeColumnFor (.within key values) = .numValue ↔
      values ≠ [] ∧ ∀ value ∈ values, value.isNumber = true := by
  have column : attributeColumnFor (.within key values) =
      if !values.isEmpty && values.all (·.isNumber) then .numValue else .strValue := rfl
  rw [column]
  split
  · rename_i numbers
    simp at numbers
    simpa using numbers
  · rename_i others
    simp at others
    simpa using others

theorem Misspells.ne {first second : AttributeValue Number} (misspells : Misspells first second) :
    first ≠ second := by
  rintro rfl
  cases first <;> exact misspells.1

theorem Misspells.isNumber {first second : AttributeValue Number}
    (misspells : Misspells first second) :
    first.isNumber = false ∧ second.isNumber = false := by
  cases first <;> cases second <;>
    first | exact ⟨rfl, rfl⟩ | exact absurd misspells.1 id

variable [LinearOrder Number] {js : Coercions Number}
  {mixed : MixedComparison Number}

theorem existsRow_entry (runId : String) (f : AttributeFilter Number)
    (entries : List (String × AttributeValue Number)) (distinct : (entries.map (·.1)).Nodup) :
    existsRow mixed (normalizeAttributeRows runId (some ⟨entries, distinct⟩)) f =
      entries.any fun entry => entry.1 = f.key && cellMeets mixed entry.2 f := by
  unfold existsRow normalizeAttributeRows
  rw [List.any_map]
  congr 1
  funext entry
  obtain ⟨key, value⟩ := entry
  cases value <;> cases column : attributeColumnFor f <;>
    simp [cellMeets, column, RunAttributeRow.cell, AttributeValue.isNumber, literalOf]

theorem existsRow_eq (runId : String) (attributes : Option (SearchAttributes Number))
    (f : AttributeFilter Number) :
    existsRow mixed (normalizeAttributeRows runId attributes) f =
      memberMeets mixed (memberOf js attributes f.key) f := by
  cases attributes with
  | none => rfl
  | some attributes =>
    obtain ⟨entries, distinct⟩ := attributes
    rw [existsRow_entry, any_entry distinct f.key (cellMeets mixed · f)]
    unfold memberOf SearchAttributes.member?
    simp only [Option.bind_some]
    cases entries.find? (·.1 = f.key) with
    | some entry => simp [memberMeets]
    | none => cases js.inherited f.key <;> simp [memberMeets]

end Rows

section Kinds

variable {Number : Type} [LinearOrder Number] {js : Coercions Number}
  {mixed : MixedComparison Number}

theorem booleans_ordered (op : ScalarOp) (first second : Bool) :
    numbersCompare op (some (js.ofBool first)) (some (js.ofBool second)) =
      textsCompare op (boolText first) (boolText second) := by
  have less := js.ofBool_lt
  have texts : utf16 (boolText false) < utf16 (boolText true) := by decide
  unfold numbersCompare textsCompare
  cases op <;> cases first <;> cases second <;>
    simp [ScalarOp.holds, less, less.le, less.ne, less.ne', less.not_gt, less.not_ge, texts,
      texts.le, texts.ne, texts.ne', texts.not_gt, texts.not_ge]

theorem cellMeets_eq (key : String) (stored value : AttributeValue Number) :
    cellMeets mixed stored (.scalar key .eq value) = true ↔ literalOf stored = literalOf value := by
  cases stored <;> cases value <;>
    simp [cellMeets, attributeColumnFor, attributeOperands, sqlComparator, literalsCompare,
      literalOf, AttributeValue.isNumber, ScalarOp.holds]

theorem cellMeets_ne (key : String) (stored value : AttributeValue Number) :
    cellMeets mixed stored (.scalar key .ne value) = true ↔
      stored.isNumber = value.isNumber ∧ literalOf stored ≠ literalOf value := by
  cases stored <;> cases value <;>
    simp [cellMeets, attributeColumnFor, attributeOperands, sqlComparator, literalsCompare,
      literalOf, AttributeValue.isNumber, ScalarOp.holds]

def ScalarOp.isRange : ScalarOp → Bool
  | .eq => false
  | .ne => false
  | _ => true

theorem literalsCompare_text {op : ScalarOp} (range : op.isRange = true) (first second : String) :
    literalsCompare mixed op (.text first) (.text second) = textsCompare op first second := by
  cases op <;> first | rfl | cases range

theorem compare_range {op : ScalarOp} (range : op.isRange = true) (key : String)
    (actual : Member Number) (value : AttributeValue Number) :
    compare js actual (.scalar key op value) = relates js op actual value := by
  cases op <;> first | rfl | cases range

theorem relates_booleans (op : ScalarOp) (first second : Bool) :
    relates js op (.own (.bool first)) (.bool second) =
      textsCompare op (boolText first) (boolText second) :=
  booleans_ordered op first second

theorem cellMeets_apart (op : ScalarOp) (key : String) {stored value : AttributeValue Number}
    (apart : stored.isNumber ≠ value.isNumber) :
    cellMeets mixed stored (.scalar key op value) = false := by
  revert apart
  cases stored <;> cases value <;>
    simp [cellMeets, attributeColumnFor, attributeOperands, AttributeValue.isNumber]

section Ranges

variable {op : ScalarOp} (range : op.isRange = true) (key : String)
  {stored value : AttributeValue Number}
include range

theorem cellMeets_beside (beside : TextBesideFlag stored value) :
    cellMeets mixed stored (.scalar key op value) = textsCompare op stored.text value.text := by
  revert beside
  cases stored <;> cases value <;>
    simp [cellMeets, attributeColumnFor, attributeOperands, AttributeValue.isNumber,
      TextBesideFlag, sqlComparator, literalOf, literalsCompare_text range, AttributeValue.text]

theorem cellMeets_alike (js : Coercions Number) (alike : stored.isNumber = value.isNumber)
    (same : ¬TextBesideFlag stored value) :
    cellMeets mixed stored (.scalar key op value) = relates js op (.own stored) value := by
  revert alike same
  cases stored <;> cases value <;>
    simp [cellMeets, attributeColumnFor, attributeOperands, AttributeValue.isNumber,
      TextBesideFlag, sqlComparator, literalOf, literalsCompare_text range, relates_booleans]
  all_goals rfl

end Ranges

theorem literalsCompare_eq (stored value : AttributeValue Number) :
    literalsCompare mixed .eq (literalOf stored) (literalOf value) = true ↔
      literalOf stored = literalOf value ∨
        (stored.isNumber ≠ value.isNumber ∧
          mixed .eq (literalOf stored) (literalOf value) = true) := by
  cases stored <;> cases value <;>
    simp [literalsCompare, literalOf, AttributeValue.isNumber, ScalarOp.holds]

/-- What of a set a value in the side table equals. -/
theorem cellMeets_within (key : String) (stored : AttributeValue Number)
    (values : List (AttributeValue Number)) :
    cellMeets mixed stored (.within key values) = true ↔
      (stored.isNumber = true ∧ stored ∈ values ∧ ∀ value ∈ values, value.isNumber = true) ∨
        (stored.isNumber = false ∧ ∃ value ∈ values, stored = value ∨ Misspells stored value ∨
          (value.isNumber = true ∧ (∃ other ∈ values, other.isNumber = false) ∧
            mixed .eq (literalOf stored) (literalOf value) = true)) := by
  -- The predicate is met in the set's column, by the literal of a member.
  have meets : cellMeets mixed stored (.within key values) = true ↔
      (stored.isNumber = true ↔ attributeColumnFor (.within key values) = .numValue) ∧
        ∃ value ∈ values, literalsCompare mixed .eq (literalOf stored) (literalOf value) = true := by
    have column : stored.isNumber = (attributeColumnFor (.within key values) == .numValue) ↔
        (stored.isNumber = true ↔ attributeColumnFor (.within key values) = .numValue) := by
      rw [Bool.eq_iff_iff, beq_iff_eq]
    unfold cellMeets
    simp only [column, attributeOperands, sqlComparator]
    split <;> rename_i held <;> simp [held]
  rw [meets, column_within]
  simp only [literalsCompare_eq, literalOf_inj]
  cases number : stored.isNumber with
  | true =>
    -- A number is looked up among numbers, and none of them is misspelt.
    constructor
    · intro found
      obtain ⟨column, value, member, same⟩ := found
      have numbers := (column.mp rfl).2
      have apart : ¬Misspells stored value := fun misspells => by
        rw [misspells.isNumber.1] at number
        cases number
      have alike := numbers value member
      have equal : stored = value := by
        rcases same with (equal | misspells) | ⟨differ, -⟩
        · exact equal
        · exact absurd misspells apart
        · exact absurd alike.symm differ
      exact .inl ⟨rfl, equal ▸ member, numbers⟩
    · intro found
      rcases found with ⟨-, member, numbers⟩ | ⟨other, -⟩
      · exact ⟨⟨fun _ => ⟨List.ne_nil_of_mem member, numbers⟩, fun _ => rfl⟩, stored, member,
          .inl (.inl rfl)⟩
      · cases other
  | false =>
    constructor
    · intro found
      obtain ⟨column, value, member, same⟩ := found
      refine .inr ⟨rfl, value, member, ?_⟩
      rcases same with (equal | misspells) | ⟨differ, equal⟩
      · exact .inl equal
      · exact .inr (.inl misspells)
      · -- A number in the set is compared where another member is none.
        have others : ∃ other ∈ values, other.isNumber = false := by
          by_contra none
          push Not at none
          refine absurd (column.mpr ⟨List.ne_nil_of_mem member, fun other listed => ?_⟩) (by simp)
          simpa using none other listed
        have isNumber : value.isNumber = true := by simpa using differ
        exact .inr (.inr ⟨isNumber, others, equal⟩)
    · intro found
      rcases found with ⟨other, -⟩ | ⟨-, value, member, same⟩
      · cases other
      · -- Some member of the set is no number, so the set's column is that of the texts.
        have column (others : ∃ other ∈ values, other.isNumber = false) :
            false = true ↔ values ≠ [] ∧ ∀ value ∈ values, value.isNumber = true := by
          obtain ⟨other, listed, none⟩ := others
          constructor
          · intro isNumber
            cases isNumber
          · intro numbers
            rw [numbers.2 other listed] at none
            cases none
        rcases same with rfl | misspells | ⟨isNumber, others, equal⟩
        · exact ⟨column ⟨stored, member, number⟩, stored, member, .inl (.inl rfl)⟩
        · exact ⟨column ⟨value, member, misspells.isNumber.2⟩, value, member,
            .inl (.inr misspells)⟩
        · exact ⟨column others, value, member, .inr ⟨by simp [isNumber], equal⟩⟩

theorem range_only_in_process {op : ScalarOp} (range : op.isRange = true) (key : String)
    (stored value : AttributeValue Number) :
    OnlyInProcess js (.own stored) (.scalar key op value) ↔
      relates js op (.own stored) value = true ∧
        (stored.isNumber ≠ value.isNumber ∨ (TextBesideFlag stored value ∧
          textsCompare op stored.text value.text = false)) := by
  cases op <;> simp [OnlyInProcess, StandsApart, ScalarOp.isRange] at range ⊢

theorem range_only_in_table {op : ScalarOp} (range : op.isRange = true) (key : String)
    (stored value : AttributeValue Number) :
    OnlyInTable js mixed (.own stored) (.scalar key op value) ↔
      relates js op (.own stored) value = false ∧ TextBesideFlag stored value ∧
        textsCompare op stored.text value.text = true := by
  cases op <;> simp [OnlyInTable, ScalarOp.isRange] at range ⊢

theorem range_only {op : ScalarOp} (range : op.isRange = true) (key : String)
    (stored value : AttributeValue Number) :
    (compare js (.own stored) (.scalar key op value) = true ∧
        cellMeets mixed stored (.scalar key op value) = false ↔
      OnlyInProcess js (.own stored) (.scalar key op value)) ∧
    (compare js (.own stored) (.scalar key op value) = false ∧
        cellMeets mixed stored (.scalar key op value) = true ↔
      OnlyInTable js mixed (.own stored) (.scalar key op value)) := by
  rw [compare_range range, range_only_in_process range, range_only_in_table range]
  by_cases apart : stored.isNumber = value.isNumber
  · by_cases beside : TextBesideFlag stored value
    · -- A text and a boolean are compared as numbers here, as texts there.
      rw [cellMeets_beside range key beside]
      simp [apart, beside]
    · rw [cellMeets_alike range key js apart beside]
      simp [apart, beside]
  · -- A number beside another value meets no predicate of order.
    have other : ¬TextBesideFlag stored value := fun beside => apart beside.isNumber
    rw [cellMeets_apart op key apart]
    simp [apart, other]

/-- In process and the side table differ over equality exactly where one value misspells the
other. -/
theorem eq_only (js : Coercions Number) (mixed : MixedComparison Number) (key : String) (stored value : AttributeValue Number) :
    ¬(compare js (.own stored) (.scalar key .eq value) = true ∧
        cellMeets mixed stored (.scalar key .eq value) = false) ∧
    (compare js (.own stored) (.scalar key .eq value) = false ∧
        cellMeets mixed stored (.scalar key .eq value) = true ↔ Misspells stored value) := by
  rw [← Bool.not_eq_true (cellMeets _ _ _), cellMeets_eq, literalOf_inj]
  simp only [compare, decide_eq_true_eq, decide_eq_false_iff_not, Member.own.injEq]
  constructor
  · intro both
    exact both.2 (.inl both.1)
  · constructor
    · intro both
      exact both.2.resolve_left both.1
    · intro misspells
      exact ⟨misspells.ne, .inr misspells⟩

/-- In process and the side table differ over inequality exactly where a value stands apart, or one
misspells the other. -/
theorem ne_only (js : Coercions Number) (mixed : MixedComparison Number) (key : String) (stored value : AttributeValue Number) :
    (compare js (.own stored) (.scalar key .ne value) = true ∧
        cellMeets mixed stored (.scalar key .ne value) = false ↔
      stored.isNumber ≠ value.isNumber ∨ Misspells stored value) ∧
    ¬(compare js (.own stored) (.scalar key .ne value) = false ∧
        cellMeets mixed stored (.scalar key .ne value) = true) := by
  rw [← Bool.not_eq_true (cellMeets _ _ _), cellMeets_ne, ne_eq, literalOf_inj]
  simp only [compare, decide_eq_true_eq, decide_eq_false_iff_not, Member.own.injEq, ne_eq]
  have differ : stored.isNumber ≠ value.isNumber → stored ≠ value := fun apart same =>
    apart (congrArg AttributeValue.isNumber same)
  have misspelt : Misspells stored value → stored ≠ value := Misspells.ne
  tauto

/-- In process and the side table differ over a set exactly in the cases listed. -/
theorem within_only (key : String) (stored : AttributeValue Number)
    (values : List (AttributeValue Number)) :
    (compare js (.own stored) (.within key values) = true ∧
        cellMeets mixed stored (.within key values) = false ↔
      OnlyInProcess js (.own stored) (.within key values)) ∧
    (compare js (.own stored) (.within key values) = false ∧
        cellMeets mixed stored (.within key values) = true ↔
      OnlyInTable js mixed (.own stored) (.within key values)) := by
  have listed : compare js (.own stored) (.within key values) = true ↔ stored ∈ values := by
    simp [compare]
  have unlisted : compare js (.own stored) (.within key values) = false ↔ stored ∉ values := by
    rw [← Bool.not_eq_true, listed]
  rw [← Bool.not_eq_true (cellMeets _ _ _), cellMeets_within, listed, unlisted]
  simp only [OnlyInProcess, OnlyInTable, Member.own.injEq, exists_eq_left']
  constructor
  · constructor
    · intro found
      obtain ⟨member, unmet⟩ := found
      cases number : stored.isNumber with
      | true =>
        refine ⟨rfl, member, ?_⟩
        by_contra none
        push Not at none
        exact unmet (.inl ⟨number, member, fun value other => by simpa using none value other⟩)
      | false => exact absurd (.inr ⟨number, stored, member, .inl rfl⟩) unmet
    · intro found
      obtain ⟨number, member, value, other, none⟩ := found
      refine ⟨member, fun met => ?_⟩
      rcases met with ⟨-, -, numbers⟩ | ⟨text, -⟩
      · rw [numbers value other] at none
        cases none
      · rw [number] at text
        cases text
  · constructor
    · intro found
      obtain ⟨missing, met⟩ := found
      rcases met with ⟨-, member, -⟩ | ⟨text, value, member, same⟩
      · exact absurd member missing
      · rcases same with rfl | others
        · exact absurd member missing
        · exact ⟨text, missing, value, member, others⟩
    · intro found
      obtain ⟨text, missing, value, member, others⟩ := found
      exact ⟨missing, .inr ⟨text, value, member, .inr others⟩⟩

theorem inherited_only (js : Coercions Number) (mixed : MixedComparison Number) (text : String) (f : AttributeFilter Number) :
    (compare js (.inherited text) f = true ↔ OnlyInProcess js (.inherited text) f) ∧
      ¬OnlyInTable js mixed (.inherited text) f := by
  cases f with
  | within key values => simp [compare, OnlyInProcess, OnlyInTable]
  | scalar key op value =>
    cases op with
    | eq => simp [compare, OnlyInProcess, OnlyInTable]
    | ne => simp [compare, OnlyInProcess, OnlyInTable, StandsApart]
    | _ => simp [compare, OnlyInProcess, OnlyInTable, StandsApart]

theorem member_only (js : Coercions Number) (mixed : MixedComparison Number) (actual : Member Number) (f : AttributeFilter Number) :
    (compare js actual f = true ∧ memberMeets mixed (some actual) f = false ↔
        OnlyInProcess js actual f) ∧
      (compare js actual f = false ∧ memberMeets mixed (some actual) f = true ↔
        OnlyInTable js mixed actual f) := by
  cases actual with
  | inherited text =>
    obtain ⟨process, table⟩ := inherited_only js mixed text f
    constructor
    · rw [← process]
      exact and_iff_left rfl
    · constructor
      · intro met
        cases met.2
      · intro met
        exact absurd met table
  | own stored =>
    cases f with
    | within key values => exact within_only key stored values
    | scalar key op value =>
      cases op with
      | eq =>
        obtain ⟨process, table⟩ := eq_only js mixed key stored value
        refine ⟨⟨fun met => absurd met process, fun none => none.elim⟩, table.trans ?_⟩
        simp [OnlyInTable]
      | ne =>
        obtain ⟨process, table⟩ := ne_only js mixed key stored value
        refine ⟨process.trans ?_, ⟨fun met => absurd met table, fun none => none.elim⟩⟩
        simp [OnlyInProcess, StandsApart]
      | gt => exact range_only rfl key stored value
      | gte => exact range_only rfl key stored value
      | lt => exact range_only rfl key stored value
      | lte => exact range_only rfl key stored value

end Kinds

section Lists

/-- Two conditions hold of a whole list alike where no element tells them apart, where both fail
of one, or where elements tell them apart both ways. -/
theorem all_eq_all_iff {α : Type} (first second : α → Bool) (list : List α) :
    list.all first = list.all second ↔
      (∀ x ∈ list, ¬(first x = true ∧ second x = false) ∧
        ¬(first x = false ∧ second x = true)) ∨
      (∃ x ∈ list, first x = false ∧ ¬(first x = false ∧ second x = true)) ∨
      ((∃ x ∈ list, first x = true ∧ second x = false) ∧
        ∃ x ∈ list, first x = false ∧ second x = true) := by
  rw [Bool.eq_iff_iff, List.all_eq_true, List.all_eq_true]
  constructor
  · intro alike
    by_cases whole : ∀ x ∈ list, first x = true
    · have other := alike.mp whole
      refine .inl fun x member => ⟨fun apart => ?_, fun apart => ?_⟩
      · rw [other x member] at apart
        cases apart.2
      · rw [whole x member] at apart
        cases apart.1
    · have fails : ¬∀ x ∈ list, second x = true := fun other => whole (alike.mpr other)
      push Not at whole fails
      obtain ⟨x, member, unmet⟩ := whole
      obtain ⟨y, listed, failed⟩ := fails
      have unmet : first x = false := by simpa using unmet
      have failed : second y = false := by simpa using failed
      cases met : second x with
      | false => exact .inr (.inl ⟨x, member, unmet, by simp [met]⟩)
      | true =>
        cases here : first y with
        | false => exact .inr (.inl ⟨y, listed, here, by simp [failed]⟩)
        | true => exact .inr (.inr ⟨⟨y, listed, here, failed⟩, x, member, unmet, met⟩)
  · intro cases_
    rcases cases_ with none | ⟨x, member, unmet, alike⟩ | ⟨⟨y, listed, -, failed⟩, x, member, unmet, -⟩
    · -- No element tells them apart.
      have same : ∀ x ∈ list, first x = true ↔ second x = true := by
        intro x member
        obtain ⟨left, right⟩ := none x member
        cases met : first x <;> cases other : second x <;> simp_all
      constructor
      · exact fun whole x member => (same x member).mp (whole x member)
      · exact fun whole x member => (same x member).mpr (whole x member)
    · -- Both fail of one element.
      have failed : second x = false := by
        cases other : second x with
        | false => rfl
        | true => exact absurd ⟨unmet, other⟩ alike
      constructor
      · intro whole
        rw [whole x member] at unmet
        cases unmet
      · intro whole
        rw [whole x member] at failed
        cases failed
    · -- Each fails of some element.
      constructor
      · intro whole
        rw [whole x member] at unmet
        cases unmet
      · intro whole
        rw [whole y listed] at failed
        cases failed

variable {Number : Type} [LinearOrder Number] (js : Coercions Number)
  (mixed : MixedComparison Number) (attributes : Option (SearchAttributes Number))

def InProcessAlone (f : AttributeFilter Number) : Prop :=
  ∃ actual, memberOf js attributes f.key = some actual ∧ OnlyInProcess js actual f

def InTableAlone (f : AttributeFilter Number) : Prop :=
  ∃ actual, memberOf js attributes f.key = some actual ∧ OnlyInTable js mixed actual f

def OnNeitherSide (f : AttributeFilter Number) : Prop :=
  (∀ actual, memberOf js attributes f.key = some actual → compare js actual f = false) ∧
    ¬InTableAlone js mixed attributes f

/-- The two sides answer a list of filters alike: no filter is met on one side alone, or one is met
on neither side, or each side alone meets one. -/
def SidesAgree (filters : List (AttributeFilter Number)) : Prop :=
  (∀ f ∈ filters, ¬InProcessAlone js attributes f ∧ ¬InTableAlone js mixed attributes f) ∨
    (∃ f ∈ filters, OnNeitherSide js mixed attributes f) ∨
      ((∃ f ∈ filters, InProcessAlone js attributes f) ∧
        ∃ f ∈ filters, InTableAlone js mixed attributes f)

/-- Whether a filter is met in process by what a run's attributes have under its key. -/
def metInProcess (f : AttributeFilter Number) : Bool :=
  (memberOf js attributes f.key).any (compare js · f)

theorem matchesAttributes_eq (filters : Option (List (AttributeFilter Number))) :
    matchesAttributes js attributes filters =
      (filters.getD []).all (metInProcess js attributes) := by
  cases filters with
  | none => rfl
  | some filters =>
    cases filters with
    | nil => rfl
    | cons f rest =>
      cases attributes with
      | none => rfl
      | some attributes => rfl

theorem filter_only (f : AttributeFilter Number) :
    (metInProcess js attributes f = true ∧
        memberMeets mixed (memberOf js attributes f.key) f = false ↔
      InProcessAlone js attributes f) ∧
    (metInProcess js attributes f = false ∧
        memberMeets mixed (memberOf js attributes f.key) f = true ↔
      InTableAlone js mixed attributes f) := by
  unfold metInProcess InProcessAlone InTableAlone
  cases memberOf js attributes f.key with
  | none => simp [memberMeets]
  | some actual =>
    obtain ⟨process, table⟩ := member_only js mixed actual f
    simp only [Option.any_some, Option.some.injEq, exists_eq_left']
    exact ⟨process, table⟩

/-- The side table answers a list of filters as the comparison in process does exactly where no
filter is met on one side alone, one is met on neither, or each side alone meets one. -/
theorem pushedDown_agrees_iff (runId : String)
    (filters : Option (List (AttributeFilter Number))) :
    pushedDown mixed (normalizeAttributeRows runId attributes) filters =
        matchesAttributes js attributes filters ↔
      SidesAgree js mixed attributes (filters.getD []) := by
  have table : pushedDown mixed (normalizeAttributeRows runId attributes) filters =
      (filters.getD []).all fun f => memberMeets mixed (memberOf js attributes f.key) f := by
    unfold pushedDown
    congr 1
    funext f
    exact existsRow_eq runId attributes f
  have neither : ∀ f, OnNeitherSide js mixed attributes f ↔
      metInProcess js attributes f = false ∧ ¬InTableAlone js mixed attributes f := by
    intro f
    unfold OnNeitherSide metInProcess
    apply and_congr_left
    intro _
    cases memberOf js attributes f.key <;> simp
  unfold SidesAgree
  rw [table, matchesAttributes_eq, eq_comm, all_eq_all_iff]
  simp only [(filter_only js mixed attributes _).1, (filter_only js mixed attributes _).2, neither]

end Lists

section Spellings

/-- Numbers as integers, with the coercions these filters need. -/
def integerCoercions : Coercions Int where
  ofBool flag := if flag then 1 else 0
  ofBool_lt := by decide
  toNumber text := text.toInt?
  inherited _ := none

/-- A run that is flagged, and a filter that spells the flag as a text. -/
theorem flag_matches_its_text :
    ¬∀ (attributes : Option (SearchAttributes Int)) (filters : Option (List (AttributeFilter Int))),
      pushedDown (fun _ _ _ => false) (normalizeAttributeRows "run" attributes) filters =
        matchesAttributes integerCoercions attributes filters := by
  intro alike
  have flagged := alike (some ⟨[("vip", .bool true)], by decide⟩)
    (some [.scalar "vip" .eq (.str "true")])
  revert flagged
  decide

end Spellings

end Durable.Attributes
