import Mathlib.Data.List.Basic

/-! Whole-list rewrites of a set from an earlier read of it, and what is to survive them. -/

namespace Interleaving

variable {α : Type}

/-- A rewrite: the elements it was computed from, and those it writes. -/
structure Rewrite (α : Type) where
  read : List α
  written : List α
deriving Repr, DecidableEq

namespace Rewrite

variable (rewrite : Rewrite α)

/-- The rewrite means to add an element. -/
def Adds (element : α) : Prop := element ∉ rewrite.read ∧ element ∈ rewrite.written

/-- The rewrite means to remove an element. -/
def Removes (element : α) : Prop := element ∈ rewrite.read ∧ element ∉ rewrite.written

/-- What a rewrite leaves alone is there as it was read. -/
def Fresh (current : List α) : Prop :=
  ∀ element, ¬ rewrite.Adds element → ¬ rewrite.Removes element →
    (element ∈ current ↔ element ∈ rewrite.read)

instance [DecidableEq α] (element : α) : Decidable (rewrite.Adds element) :=
  inferInstanceAs (Decidable (_ ∧ _))

instance [DecidableEq α] (element : α) : Decidable (rewrite.Removes element) :=
  inferInstanceAs (Decidable (_ ∧ _))

/-- A rewrite of what is there is fresh. -/
theorem fresh_self {current : List α} (same : rewrite.read = current) :
    rewrite.Fresh current := by
  intro element _ _
  rw [same]

end Rewrite

/-- An element is there after rewrites, the latest first, of which each does just what it means. -/
def Survives (initial : List α) : List (Rewrite α) → α → Prop
  | [], element => element ∈ initial
  | rewrite :: earlier, element =>
    rewrite.Adds element ∨ Survives initial earlier element ∧ ¬ rewrite.Removes element

instance Survives.decidable [DecidableEq α] (initial : List α) (element : α) :
    (rewrites : List (Rewrite α)) → Decidable (Survives initial rewrites element)
  | [] => inferInstanceAs (Decidable (element ∈ initial))
  | rewrite :: earlier =>
    have := Survives.decidable initial element earlier
    inferInstanceAs (Decidable (rewrite.Adds element ∨ _ ∧ ¬ rewrite.Removes element))

/-- The elements that are there are those that survive. -/
def Intact (initial current : List α) (rewrites : List (Rewrite α)) : Prop :=
  ∀ element, element ∈ current ↔ Survives initial rewrites element

/-- Without a rewrite, what is there is what was there. -/
theorem intact_nil (initial : List α) : Intact initial initial [] := fun _ => Iff.rfl

/-- A rewrite leaves just what survives it when what it leaves alone is there as it was read. -/
theorem Intact.rewrite_iff {initial current : List α} {rewrites : List (Rewrite α)}
    (intact : Intact initial current rewrites) (rewrite : Rewrite α) :
    Intact initial rewrite.written (rewrite :: rewrites) ↔ rewrite.Fresh current := by
  constructor
  · intro after element unadded unremoved
    have written := after element
    simp only [Survives, unadded, false_or, unremoved, not_false_eq_true, and_true] at written
    rw [intact element, ← written]
    -- What is neither added nor removed is written just when it was read.
    unfold Rewrite.Adds at unadded
    unfold Rewrite.Removes at unremoved
    by_cases read : element ∈ rewrite.read <;> by_cases kept : element ∈ rewrite.written <;>
      simp_all
  · intro fresh element
    simp only [Survives, ← intact element]
    by_cases added : rewrite.Adds element
    · simp [added, added.2]
    · by_cases removed : rewrite.Removes element
      · simp [added, removed, removed.2]
      · have same := fresh element added removed
        simp only [added, removed, false_or, not_false_eq_true, and_true, same]
        unfold Rewrite.Adds at added
        unfold Rewrite.Removes at removed
        by_cases read : element ∈ rewrite.read <;> by_cases kept : element ∈ rewrite.written <;>
          simp_all

/-- An element that no rewrite means to remove survives, once it was there or was written. -/
theorem survives_lasting {initial : List α} {element : α} :
    ∀ {rewrites : List (Rewrite α)}, (∀ rewrite ∈ rewrites, ¬ rewrite.Removes element) →
      (element ∈ initial ∨ ∃ rewrite ∈ rewrites, element ∈ rewrite.written ∧
        element ∉ rewrite.read) → Survives initial rewrites element := by
  intro rewrites
  induction rewrites with
  | nil =>
    intro _ once
    rcases once with there | ⟨_, listed, _⟩
    · exact there
    · cases listed
  | cons rewrite earlier ih =>
    intro lasting once
    have unremoved := lasting rewrite List.mem_cons_self
    have before := ih fun other listed => lasting other (List.mem_cons_of_mem _ listed)
    rcases once with there | ⟨other, listed, written, unread⟩
    · exact .inr ⟨before (.inl there), unremoved⟩
    · rcases List.mem_cons.mp listed with rfl | listed
      · exact .inl ⟨unread, written⟩
      · exact .inr ⟨before (.inr ⟨other, listed, written, unread⟩), unremoved⟩

end Interleaving
