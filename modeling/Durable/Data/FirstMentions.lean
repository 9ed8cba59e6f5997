import Durable.Data.Grouping

/-! Stable sorts of what several sources mention, and when the order of the sources shows. -/

namespace Durable

namespace Grouping

variable {Item Source : Type} {items : List Item} {second first : Item}

/-- Two members of a list stand in one order or the other. -/
theorem pair_sublist_or (apart : first ≠ second) (one : first ∈ items) (other : second ∈ items) :
    [first, second].Sublist items ∨ [second, first].Sublist items := by
  induction items with
  | nil => cases one
  | cons item rest ih =>
    rcases List.mem_cons.mp one with here | later
    · rcases List.mem_cons.mp other with here' | later'
      · exact absurd (here.trans here'.symm) apart
      · subst here
        exact .inl (List.cons_sublist_cons.mpr (List.singleton_sublist.mpr later'))
    · rcases List.mem_cons.mp other with here' | later'
      · subst here'
        exact .inr (List.cons_sublist_cons.mpr (List.singleton_sublist.mpr later))
      · exact (ih later later').imp (·.cons _) (·.cons _)

/-- Two items of a list without repeats do not stand in both orders. -/
theorem pair_sublist_asymm (distinct : items.Nodup) (one : [first, second].Sublist items)
    (other : [second, first].Sublist items) : False := by
  induction items with
  | nil => cases one
  | cons item rest ih =>
    obtain ⟨absent, later⟩ := List.nodup_cons.mp distinct
    cases one with
    | cons _ one =>
      cases other with
      | cons _ other => exact ih later one other
      | cons_cons _ other => exact absent (one.subset (by simp))
    | cons_cons _ one =>
      cases other with
      | cons _ other => exact absent (other.subset (by simp))
      | cons_cons _ other => exact absent (List.singleton_sublist.mp one)

section Sorts

variable (compare : Item → Item → Ordering)

/-- A stable sort. -/
def sortBy (items : List Item) : List Item :=
  items.mergeSort fun first second => (compare first second).isLE

variable {compare} [Std.TransCmp compare]

/-- A stable sort leads upwards. -/
theorem pairwise_sortBy (items : List Item) :
    (sortBy compare items).Pairwise fun first second => (compare first second).isLE = true := by
  apply List.pairwise_mergeSort
  · intro first second third one other
    exact Std.TransCmp.isLE_trans one other
  · intro first second
    have swapped : compare second first = (compare first second).swap := Std.OrientedCmp.eq_swap
    rw [swapped]
    cases compare first second <;> rfl

/-- A stable sort keeps two items in their order where that leads upwards. -/
theorem pair_sublist_sortBy (up : (compare first second).isLE = true)
    (pair : [first, second].Sublist items) : [first, second].Sublist (sortBy compare items) := by
  apply List.pair_sublist_mergeSort _ _ up pair
  · intro first second third one other
    exact Std.TransCmp.isLE_trans one other
  · intro first second
    have swapped : compare second first = (compare first second).swap := Std.OrientedCmp.eq_swap
    rw [swapped]
    cases compare first second <;> rfl

omit [Std.TransCmp compare] in
/-- A sorted list has no more repeats than the list. -/
theorem nodup_sortBy (distinct : items.Nodup) :
    (sortBy compare items).Nodup := (List.mergeSort_perm _ _).nodup_iff.mpr distinct

omit [Std.TransCmp compare] in
/-- A sorted list has the items of the list. -/
@[simp]
theorem mem_sortBy {item : Item} : item ∈ sortBy compare items ↔ item ∈ items := List.mem_mergeSort

/-- Two items of a sorted list lead upwards, or tie in the order they had. -/
theorem tie_of_sortBy (distinct : items.Nodup)
    (pair : [first, second].Sublist (sortBy compare items)) : compare first second = .lt ∨
      compare first second = .eq ∧ [first, second].Sublist items := by
  have up := List.pairwise_iff_forall_sublist.mp (pairwise_sortBy items) pair
  cases same : compare first second with
  | lt => exact .inl rfl
  | gt => simp [same] at up
  | eq =>
    refine .inr ⟨rfl, ?_⟩
    have apart : first ≠ second := by
      intro equal
      have repeated := pair.nodup (nodup_sortBy distinct)
      simp [equal] at repeated
    have one : first ∈ items := mem_sortBy.mp (pair.subset (by simp))
    have other : second ∈ items := mem_sortBy.mp (pair.subset (by simp))
    rcases pair_sublist_or apart one other with kept | turned
    · exact kept
    · have swapped : compare second first = (compare first second).swap := Std.OrientedCmp.eq_swap
      have up : (compare second first).isLE = true := by simp [swapped, same]
      exact (pair_sublist_asymm (nodup_sortBy distinct) pair
        (pair_sublist_sortBy up turned)).elim

/-- Lists of the same items are sorted alike where the ties stand in the same order. -/
theorem sortBy_congr {others : List Item} (distinct : items.Nodup) (distinct' : others.Nodup)
    (members : ∀ item, item ∈ items ↔ item ∈ others)
    (ties : ∀ first second, compare first second = .eq → [first, second].Sublist items →
      [first, second].Sublist others) : sortBy compare items = sortBy compare others := by
  have perm : (sortBy compare items).Perm (sortBy compare others) :=
    (List.mergeSort_perm _ _).trans (((List.perm_ext_iff_of_nodup distinct distinct').mpr
      members).trans (List.mergeSort_perm _ _).symm)
  -- Both lead upwards, and tie in the order of the second list.
  let before := fun first second => compare first second = .lt ∨
    compare first second = .eq ∧ [first, second].Sublist others
  have one : (sortBy compare items).Pairwise before := by
    refine List.pairwise_iff_forall_sublist.mpr fun {first second} pair => ?_
    exact (tie_of_sortBy distinct pair).imp_right fun tie =>
      ⟨tie.1, ties first second tie.1 tie.2⟩
  have other : (sortBy compare others).Pairwise before :=
    List.pairwise_iff_forall_sublist.mpr fun pair => tie_of_sortBy distinct' pair
  refine List.Perm.eq_of_pairwise (fun first second _ _ up down => ?_) one other perm
  have swapped : compare second first = (compare first second).swap := Std.OrientedCmp.eq_swap
  rcases up with less | ⟨tie, kept⟩
  · rcases down with less' | ⟨tie, -⟩
    · simp [swapped, less] at less'
    · simp [swapped, less] at tie
  · rcases down with less | ⟨-, turned⟩
    · simp [swapped, tie] at less
    · exact (pair_sublist_asymm distinct' kept turned).elim

end Sorts

section Mentions

variable [DecidableEq Item]

/-- Whether an item is one of two. -/
def isEither (first second item : Item) : Bool := item = first || item = second

/-- One of two items precedes the other among the firsts just where it is met first, and the other
is met. -/
theorem pair_sublist_firsts (apart : first ≠ second) (items : List Item) :
    [first, second].Sublist (firsts items) ↔
      items.find? (isEither first second) = some first ∧ second ∈ items := by
  induction items with
  | nil => simp
  | cons item rest ih =>
    obtain ⟨later, own⟩ : ∃ later, later =
        (firsts rest).filter fun other => decide (other ∉ [item]) := ⟨_, rfl⟩
    have unfolded : firsts (item :: rest) = item :: later := own ▸ firsts_append [item] rest
    have members : ∀ other, other ∈ later ↔ other ∈ rest ∧ other ≠ item := by simp [own]
    rw [unfolded, List.cons_sublist_cons']
    by_cases here : item = first
    · -- The first item is met, and the second comes later.
      subst here
      have absent : ¬[item, second].Sublist later := by
        intro pair
        exact ((members item).mp (pair.subset (by simp))).2 rfl
      simp [absent, isEither, members, Ne.symm apart]
    · have notFirst : first ≠ item := fun same => here same.symm
      by_cases there : item = second
      · subst there
        have absent : ¬[first, item].Sublist later := by
          intro pair
          exact ((members item).mp (pair.subset (by simp))).2 rfl
        simp [absent, isEither, here, notFirst]
      · have notSecond : second ≠ item := fun same => there same.symm
        -- Another item does not matter.
        have kept : [first, second].Sublist later ↔ [first, second].Sublist (firsts rest) := by
          rw [own]
          constructor
          · intro pair
            exact pair.trans List.filter_sublist
          · intro pair
            have chosen := pair.filter fun other => decide (other ∉ [item])
            simpa [notFirst, notSecond] using chosen
        rw [kept, ih]
        simp [isEither, here, there, notFirst, notSecond]

variable (mentions : Source → List Item)

/-- The distinct items that sources mention, each where it is first mentioned. -/
def mentioned (sources : List Source) : List Item := firsts (sources.flatMap mentions)

variable {mentions} {sources : List Source}

/-- What is mentioned does not depend on the order of the sources. -/
theorem mem_mentioned {item : Item} :
    item ∈ mentioned mentions sources ↔ ∃ source ∈ sources, item ∈ mentions source := by
  simp [mentioned]

/-- A source that mentions one of two items first leads them in, when it is the first source. -/
theorem pair_sublist_mentioned (apart : first ≠ second) {source : Source}
    (leads : (mentions source).find? (isEither first second) = some first)
    (met : ∃ source ∈ sources, second ∈ mentions source) :
    [first, second].Sublist (mentioned mentions (source :: sources)) := by
  refine (pair_sublist_firsts apart _).mpr ⟨?_, ?_⟩
  · rw [List.flatMap_cons, List.find?_append, leads]
    rfl
  · obtain ⟨other, listed, mention⟩ := met
    exact List.mem_flatMap.mpr ⟨other, List.mem_cons_of_mem _ listed, mention⟩

/-- The item that is met first is mentioned first by some source. -/
theorem leads_of_pair (apart : first ≠ second)
    (pair : [first, second].Sublist (mentioned mentions sources)) :
    ∃ source ∈ sources, (mentions source).find? (isEither first second) = some first := by
  have found := ((pair_sublist_firsts apart _).mp pair).1
  rw [List.find?_flatMap] at found
  exact List.exists_of_findSome?_eq_some found

/-- Two items are either of each other. -/
theorem isEither_comm (first second : Item) : isEither first second = isEither second first := by
  funext item
  simp only [isEither, Bool.or_comm]

/-- What sources mention is sorted alike in any order of the sources, repeated or not, just when no
two sources mention two tied items first. -/
theorem sortBy_mentioned_iff (compare : Item → Item → Ordering) [Std.TransCmp compare]
    (sources : List Source) :
    (∀ others : List Source, (∀ source, source ∈ others ↔ source ∈ sources) →
      sortBy compare (mentioned mentions others) = sortBy compare (mentioned mentions sources)) ↔
      ∀ one ∈ sources, ∀ other ∈ sources, ∀ first second, compare first second = .eq →
        (mentions one).find? (isEither first second) = some first →
        (mentions other).find? (isEither first second) = some second → first = second := by
  constructor
  · intro stable one listed other listed' first second tie leads leads'
    by_contra apart
    have up : (compare first second).isLE = true := by simp [tie]
    have swapped : compare second first = (compare first second).swap := Std.OrientedCmp.eq_swap
    have down : (compare second first).isLE = true := by simp [swapped, tie]
    -- With either source in front, its item comes first.
    have again : ∀ source ∈ sources, ∀ each, each ∈ source :: sources ↔ each ∈ sources := by
      intro source listed each
      rw [List.mem_cons, or_iff_right_iff_imp]
      rintro rfl
      exact listed
    have mention : ∀ {source : Source} {item : Item},
        (mentions source).find? (isEither first second) = some item → item ∈ mentions source :=
      fun found => List.mem_of_find?_eq_some found
    have pair := pair_sublist_sortBy up
      (pair_sublist_mentioned apart leads ⟨other, listed', mention leads'⟩)
    rw [isEither_comm] at leads'
    have pair' := pair_sublist_sortBy down (pair_sublist_mentioned (Ne.symm apart) leads'
      ⟨one, listed, mention leads⟩)
    rw [stable _ (again one listed)] at pair
    rw [stable _ (again other listed')] at pair'
    exact pair_sublist_asymm (nodup_sortBy (nodup_firsts _)) pair pair'
  · intro ties others members
    apply sortBy_congr (nodup_firsts _) (nodup_firsts _)
    · intro item
      change item ∈ mentioned mentions others ↔ item ∈ mentioned mentions sources
      simp only [mem_mentioned, members]
    · intro first second tie pair
      have apart : first ≠ second := by
        intro equal
        have repeated := pair.nodup (nodup_firsts _)
        simp [equal] at repeated
      have again : ∀ item ∈ mentioned mentions others, item ∈ mentioned mentions sources := by
        intro item mention
        obtain ⟨source, listed, mention⟩ := mem_mentioned.mp mention
        exact mem_mentioned.mpr ⟨source, (members source).mp listed, mention⟩
      have one := again first (pair.subset (by simp))
      have other := again second (pair.subset (by simp))
      rcases pair_sublist_or apart one other with kept | turned
      · exact kept
      · obtain ⟨source, listed, leads⟩ := leads_of_pair apart pair
        obtain ⟨source', listed', leads'⟩ := leads_of_pair (Ne.symm apart) turned
        rw [isEither_comm] at leads'
        exact absurd (ties source ((members source).mp listed) source' listed' first second tie
          leads leads') apart

end Mentions

end Grouping

end Durable
