import Mathlib.Data.List.Infix

/-! The pieces of a list between separators, and what stands between two of them. -/

namespace Pieces

variable {α : Type} {sep : α}

/-- Two runs of pieces are joined by a separator. -/
theorem intercalate_append {first second : List (List α)} (one : first ≠ []) (other : second ≠ []) :
    [sep].intercalate (first ++ second) =
      [sep].intercalate first ++ sep :: [sep].intercalate second := by
  induction first with
  | nil => exact absurd rfl one
  | cons piece rest ih =>
    cases rest with
    | nil =>
      rw [List.cons_append, List.nil_append, List.intercalate_cons_of_ne_nil other,
        List.intercalate_singleton]
      simp
    | cons next rest =>
      have later := ih (by simp)
      rw [List.cons_append, List.cons_append, List.intercalate_cons_cons, ← List.cons_append, later,
        List.intercalate_cons_cons]
      simp

variable [DecidableEq α]

/-- A list behind one without separators. -/
theorem splitOn_append_of_notMem {front : List α} (none : sep ∉ front) (rest : List α) :
    (front ++ rest).splitOn sep = (rest.splitOn sep).modifyHead (front ++ ·) := by
  induction front with
  | nil =>
    rw [List.nil_append]
    cases rest.splitOn sep <;> rfl
  | cons item front ih =>
    have apart : (item == sep) = false := by
      simp only [beq_eq_false_iff_ne]
      rintro rfl
      exact none List.mem_cons_self
    have later := ih fun listed => none (List.mem_cons_of_mem _ listed)
    rw [List.cons_append, List.splitOn_cons_eq_if_modifyHead, apart, if_neg Bool.false_ne_true,
      later]
    cases rest.splitOn sep <;> rfl

/-- A list stands between two separators just where its pieces stand among the inner pieces. -/
theorem between_iff (inner list : List α) :
    sep :: inner ++ [sep] <:+: list ↔
      inner.splitOn sep <:+: (list.splitOn sep).tail.dropLast := by
  constructor
  · rintro ⟨before, after, rfl⟩
    have pieces : (before ++ (sep :: inner ++ [sep]) ++ after).splitOn sep =
        before.splitOn sep ++ (inner.splitOn sep ++ after.splitOn sep) := by
      rw [List.append_assoc, List.cons_append, List.cons_append, List.append_assoc,
        List.splitOn_append_cons_self, List.singleton_append, List.splitOn_append_cons_self]
    rw [pieces]
    obtain ⟨piece, front, first⟩ :=
      List.exists_cons_of_ne_nil (List.splitOn_ne_nil sep before)
    have last := List.dropLast_append_getLast (List.splitOn_ne_nil sep after)
    refine ⟨front, (after.splitOn sep).dropLast, ?_⟩
    rw [first, List.cons_append, List.tail_cons, List.dropLast_append_of_ne_nil (by simp),
      List.dropLast_append_of_ne_nil (List.splitOn_ne_nil sep after), List.append_assoc]
  · rintro ⟨before, after, pieces⟩
    have joined : [sep].intercalate (list.splitOn sep) = list := List.intercalate_splitOn sep
    obtain ⟨piece, rest, first⟩ := List.exists_cons_of_ne_nil (List.splitOn_ne_nil sep list)
    rw [first, List.tail_cons] at pieces
    have some_ : rest ≠ [] := by
      rintro rfl
      have none := congrArg List.length pieces
      have pos := List.length_pos_iff.mpr (List.splitOn_ne_nil sep inner)
      simp only [List.dropLast_nil, List.length_append, List.length_nil] at none
      omega
    have last := List.dropLast_append_getLast some_
    have whole : list.splitOn sep =
        (piece :: before) ++ (inner.splitOn sep ++ (after ++ [rest.getLast some_])) := by
      rw [← pieces] at last
      rw [first]
      simpa using last.symm
    rw [whole, intercalate_append (by simp) (by simp), intercalate_append
      (List.splitOn_ne_nil sep inner) (by simp), List.intercalate_splitOn] at joined
    refine ⟨[sep].intercalate (piece :: before),
      [sep].intercalate (after ++ [rest.getLast some_]), ?_⟩
    rw [← joined]
    simp

end Pieces
