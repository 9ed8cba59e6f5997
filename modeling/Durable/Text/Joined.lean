import Mathlib.Data.List.Basic
import Mathlib.Tactic.ByContra

/-! Two lists joined by a mark, and when two such joins are one. -/

namespace Joined

variable {α : Type} {mark : α} {front back front' back' more : List α}

/-- Behind the shorter of two fronts of one join come the mark and the rest of the other front. -/
theorem longer_cases (longer : front' = front ++ more)
    (rest : mark :: back = more ++ mark :: back') :
    (front' = front ∧ back = back') ∨
      ∃ between, front' = front ++ mark :: between ∧ back = between ++ mark :: back' := by
  cases more with
  | nil => exact .inl ⟨by simpa using longer, (List.cons.inj rest).2⟩
  | cons first between =>
    obtain ⟨own, later⟩ := List.cons.inj rest
    exact .inr ⟨between, by rw [longer, own], later⟩

/-- Two joins are one just when their parts are, or when one front goes on behind the mark with
what the other back begins with. -/
theorem append_mark_eq_iff :
    front ++ mark :: back = front' ++ mark :: back' ↔
      (front = front' ∧ back = back') ∨
      (∃ between, front = front' ++ mark :: between ∧ back' = between ++ mark :: back) ∨
      ∃ between, front' = front ++ mark :: between ∧ back = between ++ mark :: back' := by
  constructor
  · intro same
    rcases List.append_eq_append_iff.mp same with ⟨more, longer, rest⟩ | ⟨more, longer, rest⟩
    · rcases longer_cases longer rest with ⟨fronts, backs⟩ | longer
      · exact .inl ⟨fronts.symm, backs⟩
      · exact .inr (.inr longer)
    · rcases longer_cases longer rest with ⟨fronts, backs⟩ | longer
      · exact .inl ⟨fronts, backs.symm⟩
      · exact .inr (.inl longer)
  · intro cases
    rcases cases with ⟨rfl, rfl⟩ | ⟨between, rfl, rfl⟩ | ⟨between, rfl, rfl⟩ <;> simp

/-- A join is taken apart at its last mark. -/
theorem append_mark_inj_of_back (unmarked : mark ∉ back) (unmarked' : mark ∉ back')
    (same : front ++ mark :: back = front' ++ mark :: back') : front = front' ∧ back = back' := by
  rcases append_mark_eq_iff.mp same with own | ⟨between, -, later⟩ | ⟨between, -, later⟩
  · exact own
  · exact absurd (by simp [later]) unmarked'
  · exact absurd (by simp [later]) unmarked

/-- A join whose front has no mark, where it begins with another's front and the mark. -/
theorem append_mark_cases_of_front (unmarked : mark ∉ front')
    (same : front ++ mark :: back = front' ++ mark :: back') :
    (front = front' ∧ back = back') ∨
      ∃ between, front = front' ++ mark :: between ∧ back' = between ++ mark :: back := by
  rcases append_mark_eq_iff.mp same with own | longer | ⟨between, longer, -⟩
  · exact .inl own
  · exact .inr longer
  · exact absurd (by simp [longer]) unmarked

section Strings

/-- A list between two marks is the characters of a text. -/
theorem exists_text (holds : List Char → Prop) :
    (∃ between, holds between) ↔ ∃ text : String, holds text.toList := by
  constructor
  · rintro ⟨between, here⟩
    exact ⟨String.ofList between, by rw [String.toList_ofList]; exact here⟩
  · rintro ⟨text, here⟩
    exact ⟨text.toList, here⟩

/-- Two texts joined by a mark are one just when their parts are, or one front goes on behind the
mark with what the other back begins with. -/
theorem text_eq_iff {separator : String} {mark : Char} (single : separator.toList = [mark])
    (front back front' back' : String) :
    front ++ separator ++ back = front' ++ separator ++ back' ↔
      (front = front' ∧ back = back') ∨
      (∃ between, front = front' ++ separator ++ between ∧ back' = between ++ separator ++ back) ∨
      ∃ between, front' = front ++ separator ++ between ∧ back = between ++ separator ++ back' := by
  have text : ∀ left right : String, (left ++ separator ++ right).toList =
      left.toList ++ mark :: right.toList := by simp [single]
  rw [← String.toList_inj, text, text, append_mark_eq_iff, exists_text, exists_text]
  simp only [← text, String.toList_inj]

end Strings

section FirstMark

variable [DecidableEq α]

/-- A mark is found within a list, and not before where it is found first. -/
theorem idxOf?_eq_some {list : List α} {index : Nat} (found : list.idxOf? mark = some index) :
    index < list.length ∧ mark ∉ list.take index := by
  obtain ⟨within, -, none⟩ := List.idxOf?_eq_some_iff.mp found
  refine ⟨within, fun listed => ?_⟩
  obtain ⟨place, bound, here⟩ := List.mem_take_iff_getElem.mp listed
  exact none place (by omega) here

/-- The mark of a join is found first behind a front without it. -/
theorem idxOf?_append_mark (unmarked : mark ∉ front) :
    (front ++ mark :: back).idxOf? mark = some front.length := by
  rw [List.idxOf?_eq_some_iff]
  refine ⟨by simp, by simp, fun place before here => unmarked ?_⟩
  rw [List.getElem_append_left before] at here
  exact here ▸ List.getElem_mem before

end FirstMark

section LastMark

variable [DecidableEq α]

/-- Where a mark stands last in a list, if it does. -/
def lastIndexOf (mark : α) : List α → Option Nat
  | [] => none
  | item :: rest =>
    match lastIndexOf mark rest with
    | some index => some (index + 1)
    | none => if item = mark then some 0 else none

/-- A mark that stands nowhere. -/
theorem lastIndexOf_eq_none_iff {list : List α} :
    lastIndexOf mark list = none ↔ mark ∉ list := by
  induction list with
  | nil => simp [lastIndexOf]
  | cons item rest ih =>
    cases later : lastIndexOf mark rest with
    | some index =>
      have listed : mark ∈ rest := by
        by_contra unlisted
        rw [ih.mpr unlisted] at later
        cases later
      simp [lastIndexOf, later, listed]
    | none =>
      have unlisted := ih.mp later
      simp [lastIndexOf, later, unlisted, eq_comm]

/-- A mark stands last where none stands behind it. -/
theorem lastIndexOf_eq_some_iff {list : List α} {index : Nat} :
    lastIndexOf mark list = some index ↔
      ∃ front back, list = front ++ mark :: back ∧ mark ∉ back ∧ front.length = index := by
  constructor
  · intro found
    induction list generalizing index with
    | nil => cases found
    | cons item rest ih =>
      cases later : lastIndexOf mark rest with
      | some position =>
        rw [lastIndexOf, later] at found
        obtain ⟨front, back, rfl, unmarked, rfl⟩ := ih later
        obtain rfl := Option.some.inj found
        exact ⟨item :: front, back, rfl, unmarked, rfl⟩
      | none =>
        rw [lastIndexOf, later] at found
        by_cases here : item = mark
        · obtain rfl : 0 = index := by simpa [here] using found
          exact ⟨[], rest, by rw [here]; rfl, lastIndexOf_eq_none_iff.mp later, rfl⟩
        · simp [here] at found
  · rintro ⟨front, back, rfl, unmarked, rfl⟩
    induction front with
    | nil => simp [lastIndexOf, lastIndexOf_eq_none_iff.mpr unmarked]
    | cons item front ih => simp [lastIndexOf, ih]

end LastMark

end Joined
