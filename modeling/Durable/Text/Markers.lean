import Durable.Text.Joined
import Mathlib.Data.List.TakeWhile

/-! Markers looked for in a text: whether one that ends with a mark stands in a text whose end is
known between the marks, and what stands behind the first one. -/

namespace Markers

variable {α : Type} {mark : α} {stem word other front back last text : List α}

section Occurrences

/-- A marker that ends with the mark stands before the last mark. -/
theorem infix_append_mark_iff (unmarked : mark ∉ last) :
    stem ++ [mark] <:+: front ++ mark :: last ↔ stem ++ [mark] <:+: front ++ [mark] := by
  constructor
  · rintro ⟨before, after, same⟩
    have joined : (before ++ stem) ++ mark :: after = front ++ mark :: last := by
      simpa using same
    rcases Joined.append_mark_eq_iff.mp joined with ⟨fronts, -⟩ | ⟨between, -, later⟩ |
        ⟨between, longer, -⟩
    · exact ⟨before, [], by simp [← fronts]⟩
    · exact absurd (by simp [later]) unmarked
    · exact ⟨before, between ++ [mark], by simp [longer]⟩
  · rintro ⟨before, after, same⟩
    refine ⟨before, after ++ last, ?_⟩
    rw [← List.append_assoc, same]
    simp

/-- A marker that ends with the mark stands at the last mark, or before it. -/
theorem infix_concat_mark_iff :
    stem ++ [mark] <:+: front ++ [mark] ↔ stem <:+ front ∨ stem ++ [mark] <:+: front := by
  rw [List.infix_concat_iff]
  constructor
  · rintro (⟨before, same⟩ | earlier)
    · left
      exact ⟨before, by simpa [← List.append_assoc] using same⟩
    · exact .inr earlier
  · rintro (⟨before, rfl⟩ | earlier)
    · left
      exact ⟨before, by simp⟩
    · exact .inr earlier

/-- A word behind a mark ends a text, just if it is the text's last one and the rest fits. -/
theorem suffix_append_mark_iff (unmarked : mark ∉ word) (unmarked' : mark ∉ last) :
    stem ++ mark :: word <:+ front ++ mark :: last ↔ stem <:+ front ∧ word = last := by
  constructor
  · rintro ⟨before, same⟩
    have joined : (before ++ stem) ++ mark :: word = front ++ mark :: last := by
      simpa using same
    obtain ⟨fronts, rfl⟩ := Joined.append_mark_inj_of_back unmarked unmarked' joined
    exact ⟨⟨before, fronts⟩, rfl⟩
  · rintro ⟨⟨before, rfl⟩, rfl⟩
    exact ⟨before, by simp⟩

/-- A word between marks stands in a text whose last words are known: it is the last word but one,
behind the same stem, or stands further in front. -/
theorem infix_words_iff (unmarked : mark ∉ word) (unmarked' : mark ∉ other)
    (unmarked'' : mark ∉ last) :
    (stem ++ mark :: word) ++ [mark] <:+: front ++ mark :: (other ++ mark :: last) ↔
      (stem <:+ front ∧ word = other) ∨ (stem ++ mark :: word) ++ [mark] <:+: front ++ [mark] := by
  have regroup : front ++ mark :: (other ++ mark :: last) =
      (front ++ mark :: other) ++ mark :: last := by
    simp
  rw [regroup, infix_append_mark_iff unmarked'', infix_concat_mark_iff,
    suffix_append_mark_iff unmarked unmarked', infix_append_mark_iff unmarked']

/-- A marker that ends with the mark begins a text before its last mark. -/
theorem prefix_append_mark_iff (unmarked : mark ∉ last) :
    stem ++ [mark] <+: front ++ mark :: last ↔ stem = front ∨ stem ++ [mark] <+: front := by
  constructor
  · rintro ⟨after, same⟩
    have joined : stem ++ mark :: after = front ++ mark :: last := by
      simpa using same
    rcases Joined.append_mark_eq_iff.mp joined with ⟨fronts, -⟩ | ⟨between, -, later⟩ |
        ⟨between, longer, -⟩
    · exact .inl fronts
    · exact absurd (by simp [later]) unmarked
    · exact .inr ⟨between, by simp [longer]⟩
  · rintro (rfl | ⟨after, rfl⟩)
    · exact ⟨last, by simp⟩
    · exact ⟨after ++ mark :: last, by simp⟩

/-- A word between a stem and a mark begins a text whose last words are known: the stem is the
text's, and the word the last but one, or both stand further in front. -/
theorem prefix_words_iff (unmarked : mark ∉ word) (unmarked' : mark ∉ other)
    (unmarked'' : mark ∉ last) :
    (stem ++ mark :: word) ++ [mark] <+: front ++ mark :: (other ++ mark :: last) ↔
      (stem = front ∧ word = other) ∨ (stem ++ mark :: word) ++ [mark] <+: front ++ [mark] := by
  have regroup : front ++ mark :: (other ++ mark :: last) =
      (front ++ mark :: other) ++ mark :: last := by
    simp
  have own : stem ++ mark :: word = front ++ mark :: other ↔ stem = front ∧ word = other := by
    constructor
    · exact Joined.append_mark_inj_of_back unmarked unmarked'
    · rintro ⟨rfl, rfl⟩
      rfl
  have whole : (stem ++ mark :: word) ++ [mark] = front ++ [mark] ↔
      stem ++ mark :: word = front :=
    List.append_left_inj [mark]
  rw [regroup, prefix_append_mark_iff unmarked'', own, prefix_append_mark_iff unmarked',
    List.prefix_concat_iff, whole]

/-- A marker with which a text begins ends at the mark that is known, behind it, or before it. -/
theorem prefix_cases (here : stem ++ [mark] <+: front ++ mark :: back) :
    stem = front ∨ (∃ between, stem = front ++ mark :: between) ∨ stem ++ [mark] <+: front := by
  obtain ⟨after, same⟩ := here
  have joined : stem ++ mark :: after = front ++ mark :: back := by
    simpa using same
  rcases Joined.append_mark_eq_iff.mp joined with ⟨fronts, -⟩ | ⟨between, longer, -⟩ |
      ⟨between, longer, -⟩
  · exact .inl fronts
  · exact .inr (.inl ⟨between, longer⟩)
  · exact .inr (.inr ⟨between, by simp [longer]⟩)

/-- A marker does not begin a text across a mark that only ends it. -/
theorem not_prefix_append_mark (unmarked : mark ∉ stem) (ends : ¬ stem <:+ front)
    (absent : ¬ stem ++ [mark] <:+: front) : ¬ stem ++ [mark] <+: front ++ mark :: back := by
  intro here
  rcases prefix_cases here with rfl | ⟨between, rfl⟩ | early
  · exact ends List.suffix_rfl
  · exact unmarked (by simp)
  · exact absent early.isInfix

end Occurrences

section First

variable [DecidableEq α] {marker rest : List α}

/-- What stands behind the first marker in a text, if there is one. -/
def afterFirst (marker : List α) : List α → Option (List α)
  | [] => if marker = [] then some [] else none
  | item :: text =>
    if marker <+: item :: text then some ((item :: text).drop marker.length)
    else afterFirst marker text

/-- There is something behind a marker, just if it stands in the text. -/
theorem isSome_afterFirst : (afterFirst marker text).isSome = true ↔ marker <:+: text := by
  induction text with
  | nil => simp [afterFirst]
  | cons item text ih =>
    rw [afterFirst, List.infix_cons_iff]
    split
    · rename_i here
      simp [here]
    · rename_i apart
      simp [apart, ih]

/-- Nothing is behind a marker that stands nowhere. -/
theorem afterFirst_eq_none (absent : ¬ marker <:+: text) : afterFirst marker text = none := by
  rw [← Option.not_isSome_iff_eq_none, isSome_afterFirst]
  exact absent

/-- What stands before the first mark does not depend on what stands behind it. -/
theorem takeWhile_append_mark :
    (front ++ mark :: back).takeWhile (· ≠ mark) = front.takeWhile (· ≠ mark) := by
  induction front with
  | nil => simp
  | cons item front ih =>
    rw [List.cons_append, List.takeWhile_cons, List.takeWhile_cons, ih]

/-- What stands before the first mark is followed by one, if there is one behind the text. -/
theorem takeWhile_concat_prefix :
    front.takeWhile (· ≠ mark) ++ [mark] <+: front ++ [mark] := by
  induction front with
  | nil => exact List.prefix_rfl
  | cons item front ih =>
    rw [List.takeWhile_cons]
    split
    · rw [List.cons_append, List.cons_append, List.prefix_cons_inj]
      exact ih
    · rename_i here
      have same : item = mark := by simpa using here
      subst same
      exact ⟨front ++ [item], rfl⟩

/-- There is no mark before the first one. -/
theorem unmarked_takeWhile : mark ∉ front.takeWhile (· ≠ mark) := by
  intro listed
  have other := List.mem_takeWhile_imp listed
  simp at other

/-- A text without the mark stands before it as a whole. -/
theorem takeWhile_of_unmarked (unmarked : mark ∉ front) :
    front.takeWhile (· ≠ mark) = front := by
  apply List.takeWhile_eq_self_iff.mpr
  intro item listed
  apply decide_eq_true
  intro same
  exact unmarked (same ▸ listed)

/-- A marker that stands in the front of a text is the first one. -/
theorem afterFirst_append (found : afterFirst marker front = some rest) (back : List α) :
    afterFirst marker (front ++ back) = some (rest ++ back) := by
  induction front with
  | nil =>
    simp only [afterFirst, Option.ite_none_right_eq_some] at found
    obtain ⟨rfl, same⟩ := found
    obtain rfl := Option.some.inj same
    cases back with
    | nil => rfl
    | cons item back => simp [afterFirst]
  | cons item front ih =>
    rw [afterFirst] at found
    rw [List.cons_append, afterFirst, ← List.cons_append]
    split at found
    · rename_i here
      obtain rfl := Option.some.inj found
      rw [if_pos (here.trans (List.prefix_append _ _)),
        List.drop_append_of_le_length here.length_le]
    · rename_i apart
      -- A marker that stood here would end in the front, before the one that was found does.
      have later : marker <:+: front := isSome_afterFirst.mp (by rw [found]; rfl)
      have absent : ¬ marker <+: (item :: front) ++ back := by
        intro here
        apply apart
        apply List.prefix_of_prefix_length_le here (List.prefix_append _ _)
        have bound := later.length_le
        rw [List.length_cons]
        omega
      rw [if_neg absent]
      exact ih found

/-- What stands behind a marker that a text begins with. -/
theorem afterFirst_self (nonempty : marker ≠ []) :
    afterFirst marker (marker ++ rest) = some rest := by
  cases marker with
  | nil => exact absurd rfl nonempty
  | cons item more =>
    rw [List.cons_append, afterFirst, ← List.cons_append, if_pos (List.prefix_append _ _),
      List.drop_left]

/-- The first marker is the one at the first mark behind a text that ends with its stem and in
which it does not stand. -/
theorem afterFirst_here (ends : stem <:+ front) (absent : ¬ stem ++ [mark] <:+: front) :
    afterFirst (stem ++ [mark]) (front ++ mark :: rest) = some rest := by
  obtain ⟨before, rfl⟩ := ends
  induction before with
  | nil =>
    have whole : [] ++ stem ++ mark :: rest = (stem ++ [mark]) ++ rest := by simp
    rw [whole]
    apply afterFirst_self
    simp
  | cons item before ih =>
    -- The text goes on in front of the stem, so that the marker does not stand at its beginning.
    have later : ¬ stem ++ [mark] <+: item :: (before ++ stem ++ mark :: rest) := by
      intro here
      have here : stem ++ [mark] <+: (item :: before ++ stem) ++ mark :: rest := here
      rcases prefix_cases here with same | ⟨between, longer⟩ | early
      · have lengths := congrArg List.length same
        simp only [List.length_append, List.length_cons] at lengths
        omega
      · have lengths := congrArg List.length longer
        simp only [List.length_append, List.length_cons] at lengths
        omega
      · exact absent early.isInfix
    have still : ¬ stem ++ [mark] <:+: before ++ stem := by
      intro found
      exact absent (List.infix_cons found)
    rw [List.cons_append, List.cons_append, afterFirst, if_neg later]
    exact ih still

/-- A marker does not stand across a mark that only ends it. -/
theorem afterFirst_skip (unmarked : mark ∉ stem) (ends : ¬ stem <:+ front)
    (absent : ¬ stem ++ [mark] <:+: front) :
    afterFirst (stem ++ [mark]) (front ++ mark :: rest) =
      afterFirst (stem ++ [mark]) rest := by
  induction front with
  | nil =>
    have later : ¬ stem ++ [mark] <+: mark :: rest := not_prefix_append_mark unmarked ends absent
    rw [List.nil_append, afterFirst, if_neg later]
  | cons item front ih =>
    have later : ¬ stem ++ [mark] <+: item :: (front ++ mark :: rest) :=
      not_prefix_append_mark unmarked ends absent
    have ends' : ¬ stem <:+ front := by
      intro found
      exact ends (found.trans (List.suffix_cons item front))
    have absent' : ¬ stem ++ [mark] <:+: front := by
      intro found
      exact absent (List.infix_cons found)
    rw [List.cons_append, afterFirst, if_neg later]
    exact ih ends' absent'

end First

end Markers
