import Mathlib.Data.List.Basic

/-! Lists in the order of a rank: sorting them, and merging what is chosen from them. -/

namespace Durable

namespace Ranked

variable {Item : Type} (rank : Item → Nat)

/-- Items in the order of their ranks, no two of one rank. -/
def Ordered (items : List Item) : Prop := items.Pairwise fun first second => rank first < rank second

/-- Sort by rank. -/
def sorted (items : List Item) : List Item :=
  items.mergeSort fun first second => decide (rank first ≤ rank second)

/-- The first items of one kind and all items of another, in their order. -/
def firstOf (limit : Nat) (counted kept : Item → Bool) : List Item → List Item
  | [] => []
  | item :: rest =>
    if counted item then
      match limit with
      | 0 => firstOf 0 counted kept rest
      | limit + 1 => item :: firstOf limit counted kept rest
    else if kept item then item :: firstOf limit counted kept rest
    else firstOf limit counted kept rest

variable {rank} {items : List Item}

/-- A part of an ordered list is ordered. -/
theorem Ordered.sublist {part : List Item} (ordered : Ordered rank items)
    (within : part.Sublist items) : Ordered rank part := List.Pairwise.sublist within ordered

/-- Two items of an ordered list with one rank are one item. -/
theorem Ordered.rank_injective (ordered : Ordered rank items) {first second : Item}
    (one : first ∈ items) (other : second ∈ items) (same : rank first = rank second) :
    first = second := by
  induction items with
  | nil => simp at one
  | cons head rest ih =>
    obtain ⟨least, later⟩ := List.pairwise_cons.mp ordered
    -- Only the head has the head's rank.
    rcases List.mem_cons.mp one with atHead | inRest
    · rcases List.mem_cons.mp other with again | behind
      · rw [atHead, again]
      · have less := least second behind
        rw [← atHead] at less
        omega
    · rcases List.mem_cons.mp other with again | behind
      · have less := least first inRest
        rw [← again] at less
        omega
      · exact ih later inRest behind

/-- Sorting a rearranged ordered list restores it. -/
theorem Ordered.sorted_eq {mixed : List Item} (ordered : Ordered rank items)
    (rearranged : mixed.Perm items) : sorted rank mixed = items := by
  have permuted : (sorted rank mixed).Perm items := (List.mergeSort_perm _ _).trans rearranged
  have ascending : (sorted rank mixed).Pairwise fun first second =>
      decide (rank first ≤ rank second) = true := by
    apply List.pairwise_mergeSort
    · intro first second third one two
      simp only [decide_eq_true_eq] at *
      omega
    · intro first second
      simp only [Bool.or_eq_true, decide_eq_true_eq]
      omega
  have climbing : items.Pairwise fun first second => decide (rank first ≤ rank second) = true := by
    apply ordered.imp
    intro first second less
    exact decide_eq_true (Nat.le_of_lt less)
  apply List.Perm.eq_of_pairwise _ ascending climbing permuted
  intro first second one other below above
  have same := Nat.le_antisymm (of_decide_eq_true below) (of_decide_eq_true above)
  exact ordered.rank_injective (permuted.subset one) other same

/-- What is chosen from an ordered list is in order already. -/
theorem Ordered.sorted_filter (ordered : Ordered rank items) (chosen : Item → Bool) :
    sorted rank (items.filter chosen) = items.filter chosen :=
  (ordered.sublist List.filter_sublist).sorted_eq (List.Perm.refl _)

section Merge

variable {counted kept : Item → Bool} {count limit : Nat}

/-- The chosen items are a part of the list. -/
theorem firstOf_sublist (limit : Nat) (items : List Item) :
    (firstOf limit counted kept items).Sublist items := by
  induction items generalizing limit with
  | nil => exact List.Sublist.refl _
  | cons item rest ih =>
    unfold firstOf
    by_cases counts : counted item
    · rw [if_pos counts]
      cases limit with
      | zero => exact (ih 0).cons _
      | succ limit => exact (ih limit).cons_cons _
    · rw [if_neg counts]
      by_cases keeps : kept item
      · rw [if_pos keeps]
        exact (ih limit).cons_cons _
      · rw [if_neg keeps]
        exact (ih limit).cons _

/-- The chosen items are the first of one kind and all of the other. -/
theorem firstOf_perm (apart : ∀ item, counted item = true → kept item = false) (limit : Nat)
    (items : List Item) :
    ((items.filter counted).take limit ++ items.filter kept).Perm
      (firstOf limit counted kept items) := by
  induction items generalizing limit with
  | nil => simp [firstOf]
  | cons item rest ih =>
    unfold firstOf
    by_cases counts : counted item
    · rw [if_pos counts, List.filter_cons_of_pos counts,
        List.filter_cons_of_neg (by simp [apart item counts])]
      cases limit with
      | zero => simpa using ih 0
      | succ limit => exact (ih limit).cons item
    · rw [if_neg counts, List.filter_cons_of_neg counts]
      by_cases keeps : kept item
      · rw [if_pos keeps, List.filter_cons_of_pos keeps]
        exact List.perm_middle.trans ((ih limit).cons item)
      · rw [if_neg keeps, List.filter_cons_of_neg keeps]
        exact ih limit

/-- The first items of both kinds are among the first of each kind. -/
theorem take_firstOf (items : List Item) (enough : count ≤ limit) :
    (firstOf limit counted kept items).take count =
      (items.filter fun item => counted item || kept item).take count := by
  induction items generalizing count limit with
  | nil => simp [firstOf]
  | cons item rest ih =>
    unfold firstOf
    by_cases counts : counted item
    · rw [if_pos counts, List.filter_cons_of_pos (by simp [counts])]
      cases limit with
      | zero =>
        have none : count = 0 := by omega
        subst none
        simp
      | succ limit =>
        cases count with
        | zero => simp
        | succ count =>
          rw [List.take_succ_cons, List.take_succ_cons, ih (by omega)]
    · rw [if_neg counts]
      by_cases keeps : kept item
      · rw [if_pos keeps, List.filter_cons_of_pos (by simp [keeps])]
        cases count with
        | zero => simp
        | succ count =>
          rw [List.take_succ_cons, List.take_succ_cons, ih (by omega)]
      · rw [if_neg keeps, List.filter_cons_of_neg (by simp [counts, keeps]), ih enough]

/-- Merging the first items of one kind with another kind gives the first of both. -/
theorem Ordered.take_merge (ordered : Ordered rank items)
    (apart : ∀ item, counted item = true → kept item = false) (enough : count ≤ limit) :
    (sorted rank ((items.filter counted).take limit ++ items.filter kept)).take count =
      (items.filter fun item => counted item || kept item).take count := by
  rw [(ordered.sublist (firstOf_sublist limit items)).sorted_eq (firstOf_perm apart limit items),
    take_firstOf items enough]

end Merge

end Ranked

end Durable
