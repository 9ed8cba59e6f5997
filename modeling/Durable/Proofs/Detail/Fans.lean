import Durable.Proofs.Detail.Tally

/-! A fan summarized from its buckets is the fan summarized from its members. -/

namespace Durable

open Grouping MemberTally

section Names

/-- The smallest and the largest of some names. -/
@[ext]
structure NameSpan where
  least : Option String
  greatest : Option String

instance : Zero NameSpan := ⟨⟨none, none⟩⟩

instance : Add NameSpan :=
  ⟨fun left right =>
    ⟨left.least.merge min right.least, left.greatest.merge max right.greatest⟩⟩

instance : AddCommMonoid NameSpan where
  add_assoc one two three := by ext1 <;> exact merge_assoc _ _ _ _
  zero_add names := by ext1 <;> exact Option.merge_none_left
  add_zero names := by ext1 <;> exact Option.merge_none_right
  add_comm left right := by ext1 <;> exact merge_comm _ _ _
  nsmul := nsmulRec

def nameSpan (cp : TimelineStep) : NameSpan := ⟨some cp.name, some cp.name⟩

def bucketNames (b : CheckpointStat) : NameSpan := ⟨some b.minName, some b.maxName⟩

theorem foldl_names (buckets : List CheckpointStat) :
    ∀ least greatest : Option String,
      (⟨buckets.foldl (fun known b => smallerName known b.minName) least,
        buckets.foldl (fun known b => largerName known b.maxName) greatest⟩ : NameSpan) =
      ⟨least, greatest⟩ + (buckets.map bucketNames).sum := by
  have smaller : ∀ (known : Option String) (name : String),
      smallerName known name = known.merge min (some name) := by
    intro known name
    cases known with
    | none => rfl
    | some known =>
      rw [Option.merge_some_some, ← replaced_min, apply_ite some]
      rfl
  have larger : ∀ (known : Option String) (name : String),
      largerName known name = known.merge max (some name) := by
    intro known name
    cases known with
    | none => rfl
    | some known =>
      rw [Option.merge_some_some, ← replaced_max, apply_ite some]
      rfl
  induction buckets with
  | nil =>
    intro least greatest
    exact (add_zero _).symm
  | cons b rest ih =>
    intro least greatest
    rw [List.foldl_cons, List.foldl_cons, ih, smaller, larger, List.map_cons, List.sum_cons,
      ← add_assoc]
    rfl

theorem sum_bucketNames (checkpoints : List TimelineStep) (group : Option String) :
    ((checkpointStatsOf checkpoints group).map bucketNames).sum =
      ((checkpoints.filter (inGroup group)).map nameSpan).sum := by
  apply sum_stats
  · intro cp
    rfl
  · intro b cp _
    ext1
    · exact congrArg some (replaced_min b.minName cp.name)
    · exact congrArg some (replaced_max b.maxName cp.name)

theorem sum_nameSpan_bounds {members : List TimelineStep} {cp : TimelineStep}
    (listed : cp ∈ members) :
    ∃ least greatest, (members.map nameSpan).sum = ⟨some least, some greatest⟩ ∧
      least ≤ cp.name ∧ cp.name ≤ greatest := by
  induction members with
  | nil => simp at listed
  | cons head rest ih =>
    rw [List.map_cons, List.sum_cons]
    rcases List.mem_cons.mp listed with same | later
    · -- The head's name is merged with what the rest spans, if anything.
      subst same
      obtain ⟨least, greatest⟩ := (rest.map nameSpan).sum
      refine ⟨least.elim cp.name (min cp.name), greatest.elim cp.name (max cp.name), ?_, ?_, ?_⟩
      · cases least <;> cases greatest <;> rfl
      · cases least <;> simp
      · cases greatest <;> simp
    · obtain ⟨least, greatest, spans, above, below⟩ := ih later
      rw [spans]
      refine ⟨min head.name least, max head.name greatest, rfl, ?_, ?_⟩
      · exact le_trans (min_le_right _ _) above
      · exact le_trans below (le_max_right _ _)

theorem sum_nameSpan_same {name : String} {members : List TimelineStep}
    (same : ∀ cp ∈ members, cp.name = name) (some_member : members ≠ []) :
    (members.map nameSpan).sum = ⟨some name, some name⟩ := by
  induction members with
  | nil => exact absurd rfl some_member
  | cons head rest ih =>
    have first : nameSpan head = ⟨some name, some name⟩ := by
      rw [nameSpan, same head (by simp)]
    rw [List.map_cons, List.sum_cons, first]
    by_cases alone : rest = []
    · subst alone
      exact add_zero _
    · rw [ih (fun cp listed => same cp (by simp [listed])) alone]
      show (⟨some (min name name), some (max name name)⟩ : NameSpan) = ⟨some name, some name⟩
      rw [min_self, max_self]

end Names

/-- The label read off the buckets is the label of the members. -/
theorem statsLabel_eq (checkpoints : List TimelineStep) (group : String) :
    statsLabel (checkpointStatsOf checkpoints (some group)) =
      fanLabel (checkpoints.filter (inGroup (some group))) := by
  have kinds := any_stats checkpoints (some group)
    fun key => key.nameKind = .child || key.nameKind = .folded
  have named : ∀ cp : TimelineStep,
      (decide ((bucketKey cp).nameKind = .child) || decide ((bucketKey cp).nameKind = .folded)) =
        (nameStartsWith childWaitPrefix cp.name || (foldedCount cp).isSome) := by
    intro cp
    have folded : (foldedCount cp).isSome = isFoldedName cp.name := by
      unfold foldedCount
      cases isFoldedName cp.name
      · rfl
      · simp only [if_true]
        split <;> rfl
    rw [folded, Bool.eq_iff_iff]
    simp [bucketKey, nameKind_child, nameKind_folded]
  simp only [named] at kinds
  have ends := foldl_names (checkpointStatsOf checkpoints (some group)) none none
  rw [sum_bucketNames, show (⟨none, none⟩ : NameSpan) = 0 from rfl, zero_add] at ends
  unfold statsLabel fanLabel
  rw [kinds]
  split
  · rfl
  · generalize checkpoints.filter (inGroup (some group)) = members at ends ⊢
    cases members with
    | nil =>
      obtain ⟨least, greatest⟩ := NameSpan.mk.inj ends
      simp only [least, greatest]
      rfl
    | cons head rest =>
      by_cases same : ∀ cp ∈ head :: rest, cp.name = head.name
      · -- One name: it is the label on both sides.
        rw [sum_nameSpan_same same (by simp)] at ends
        obtain ⟨least, greatest⟩ := NameSpan.mk.inj ends
        have all : ((head :: rest).all fun cp => decide (cp.name = head.name)) = true := by
          rw [List.all_eq_true]
          intro cp listed
          exact decide_eq_true (same cp listed)
        simp only [least, greatest, List.head?_cons, Option.map_some, Option.getD_some, if_true]
        exact (if_pos all).symm
      · -- Several names: the span has two ends.
        have all : ¬((head :: rest).all fun cp => decide (cp.name = head.name)) = true := by
          intro every
          rw [List.all_eq_true] at every
          exact same fun cp listed => of_decide_eq_true (every cp listed)
        have apart : ¬(checkpointStatsOf checkpoints (some group)).foldl
            (fun known b => smallerName known b.minName) none =
            (checkpointStatsOf checkpoints (some group)).foldl
              (fun known b => largerName known b.maxName) none := by
          intro equal
          apply same
          intro cp listed
          obtain ⟨least, greatest, spans, above, below⟩ := sum_nameSpan_bounds listed
          have headListed : head ∈ head :: rest := List.mem_cons_self
          obtain ⟨first, last, again, beyond, under⟩ := sum_nameSpan_bounds headListed
          rw [spans] at ends again
          obtain ⟨low, high⟩ := NameSpan.mk.inj ends
          obtain ⟨sameLow, sameHigh⟩ := NameSpan.mk.inj again
          have meet : least = greatest := Option.some.inj (low.symm.trans (equal.trans high))
          have one : cp.name = least := le_antisymm (meet ▸ below) above
          have two : head.name = least := by
            rw [Option.some.injEq] at sameLow sameHigh
            exact le_antisymm (by rw [meet, sameHigh]; exact under) (by rw [sameLow]; exact beyond)
          rw [one, two]
        simp only [List.head?_cons, Option.map_some, Option.getD_some]
        rw [if_neg apart]
        exact (if_neg all).symm

theorem foldl_addFailure (members failures : List TimelineStep)
    (room : failures.length ≤ fanSummaryFailures) :
    members.foldl addFailure failures =
      (failures ++ members.filter (·.isFailedMember)).take fanSummaryFailures := by
  induction members generalizing failures with
  | nil => simp [List.take_of_length_le room]
  | cons cp rest ih =>
    have status : memberStatus cp = .failed ↔ cp.isFailedMember = true := by
      unfold memberStatus
      by_cases fails : cp.isFailedMember
      · simp [fails]
      · have unfailed : cp.status ≠ .failed := by
          intro failed
          exact fails (by simp [TimelineStep.isFailedMember, failed])
        simp [fails, unfailed]
    rw [List.foldl_cons]
    by_cases fails : cp.isFailedMember
    · rw [List.filter_cons_of_pos fails]
      by_cases full : failures.length < fanSummaryFailures
      · have added : addFailure failures cp = failures ++ [cp] :=
          if_pos ⟨status.mpr fails, full⟩
        rw [added, ih _ (by simp only [List.length_append, List.length_singleton]; omega)]
        simp
      · -- There is no room for one more.
        have kept : addFailure failures cp = failures := if_neg fun both => full both.2
        have size : failures.length = fanSummaryFailures := by omega
        rw [kept, ih _ room, ← size, List.take_left, List.take_left]
    · have kept : addFailure failures cp = failures :=
        if_neg fun both => fails (status.mp both.1)
      rw [kept, ih _ room, List.filter_cons_of_neg fails]

section Reads

/-- Checkpoints in the order of their positions, no two at one position. -/
abbrev InOrder (checkpoints : List TimelineStep) : Prop :=
  Ranked.Ordered (fun cp : TimelineStep => cp.seq) checkpoints

variable {checkpoints : List TimelineStep} (ordered : InOrder checkpoints)

include ordered

theorem query_eq (query : CheckpointQuery) :
    queryCheckpointsOf checkpoints query =
      query.limit.elim ((checkpoints.filter query.selects).drop query.offset)
        ((checkpoints.filter query.selects).drop query.offset).take := by
  have sorted : sortBySeq (checkpoints.filter query.selects) = checkpoints.filter query.selects :=
    ordered.sorted_filter query.selects
  rw [queryCheckpointsOf, sorted]

theorem completedChildren_eq (group : String) :
    completedChildren checkpoints group (checkpointStatsOf checkpoints (some group)) =
      (checkpoints.filter (inGroup (some group))).filter fun cp =>
        (bucketKey cp).completedChild := by
  have there := any_stats checkpoints (some group) BucketKey.completedChild
  unfold completedChildren
  rw [there]
  by_cases some_child : (checkpoints.filter (inGroup (some group))).any fun cp =>
      (bucketKey cp).completedChild
  · rw [if_pos some_child, query_eq ordered, List.filter_filter]
    simp only [Option.elim, List.drop_zero]
    apply List.filter_congr
    intro cp _
    rw [Bool.eq_iff_iff, Bool.and_eq_true, completedChild_iff]
    simp [CheckpointQuery.selects, inGroup, and_comm, and_left_comm, and_assoc]
  · rw [if_neg some_child]
    symm
    rw [List.filter_eq_nil_iff]
    intro cp listed child
    exact some_child (List.any_eq_true.mpr ⟨cp, listed, child⟩)

theorem failedChildren_eq (group : String) :
    failedChildren checkpoints group (checkpointStatsOf checkpoints (some group)) =
      checkpoints.filter fun cp =>
        inGroup (some group) cp && ((bucketKey cp).completedChild && cp.isFailedMember) := by
  rw [failedChildren, completedChildren_eq ordered, List.filter_filter, List.filter_filter]
  apply List.filter_congr
  intro cp _
  rw [Bool.and_comm (inGroup (some group) cp), Bool.and_comm cp.isFailedMember]

theorem failedRows_eq (group : String) (offset : Nat) (limit : Option Nat) :
    queryCheckpointsOf checkpoints
        { group := some group, statuses := some [.failed], offset, limit } =
      limit.elim
        ((checkpoints.filter fun cp =>
          inGroup (some group) cp && decide (cp.status = .failed)).drop offset)
        ((checkpoints.filter fun cp =>
          inGroup (some group) cp && decide (cp.status = .failed)).drop offset).take := by
  have chosen : checkpoints.filter
      (CheckpointQuery.selects
        { group := some group, statuses := some [.failed], offset, limit }) =
      checkpoints.filter fun cp =>
        inGroup (some group) cp && decide (cp.status = .failed) := by
    apply List.filter_congr
    intro cp _
    rw [Bool.eq_iff_iff]
    simp [CheckpointQuery.selects, inGroup]
  rw [query_eq ordered, chosen]

theorem mergedFailures_eq (group : String) {count limit : Nat} (enough : count ≤ limit) :
    (mergeBySeq
        ((checkpoints.filter fun cp =>
          inGroup (some group) cp && decide (cp.status = .failed)).take limit)
        (failedChildren checkpoints group (checkpointStatsOf checkpoints (some group)))).take
          count =
      ((checkpoints.filter (inGroup (some group))).filter (·.isFailedMember)).take count := by
  -- A failed row is not a completed child.
  have apart : ∀ cp : TimelineStep,
      (inGroup (some group) cp && decide (cp.status = .failed)) = true →
      (inGroup (some group) cp && ((bucketKey cp).completedChild && cp.isFailedMember)) = false := by
    intro cp failed
    rw [Bool.and_eq_true, decide_eq_true_eq] at failed
    have other : (bucketKey cp).completedChild = false := by
      simp [BucketKey.completedChild, bucketKey, failed.2]
    rw [other, Bool.false_and, Bool.and_false]
  rw [failedChildren_eq ordered, mergeBySeq]
  have merged := ordered.take_merge apart enough
  rw [sortBySeq, merged, List.filter_filter]
  congr 1
  apply List.filter_congr
  intro cp _
  -- A failed member is a failed row or a completed child that failed.
  by_cases failed : cp.status = .failed
  · have fails : cp.isFailedMember = true := by simp [TimelineStep.isFailedMember, failed]
    cases inGroup (some group) cp <;> simp [fails, failed]
  · by_cases child : (bucketKey cp).completedChild
    · simp [failed, child, Bool.and_comm]
    · have plain : (bucketKey cp).completedChild = false := by simpa using child
      have fine : cp.isFailedMember = false := by
        rw [Bool.eq_false_iff]
        intro fails
        have status := memberStatus_eq plain
        rw [memberStatus, if_pos fails] at status
        exact failed status.symm
      simp [failed, plain, fine]

/-- A fan summarized from its buckets is the fan summarized from its members. -/
theorem summarizeFanFromStats_eq (group : String) :
    summarizeFanFromStats checkpoints group (checkpointStatsOf checkpoints (some group))
        ((checkpoints.filter (inGroup (some group))).filter fun cp => isFoldedName cp.name) =
      summarizeFan group (checkpoints.filter (inGroup (some group))) := by
  -- A completed child counts under the status its completion gives it.
  have statuses : ∀ (tally : MemberTally), ∀ cp ∈ completedChildren checkpoints group
        (checkpointStatsOf checkpoints (some group)),
      tally.addCount
        (if cp ∈ failedChildren checkpoints group (checkpointStatsOf checkpoints (some group))
          then .failed else .completed) 1 =
        tally.addCount (memberStatus cp) 1 := by
    intro tally cp listed
    have child : (bucketKey cp).completedChild = true := by
      rw [completedChildren_eq ordered] at listed
      exact (List.mem_filter.mp listed).2
    have completed : cp.status = .completed := ((completedChild_iff cp).mp child).2
    unfold memberStatus
    by_cases fails : cp.isFailedMember
    · have within : cp ∈ failedChildren checkpoints group
          (checkpointStatsOf checkpoints (some group)) := List.mem_filter.mpr ⟨listed, fails⟩
      rw [if_pos fails, if_pos within]
    · have outside : cp ∉ failedChildren checkpoints group
          (checkpointStatsOf checkpoints (some group)) := by
        intro within
        exact fails (List.mem_filter.mp within).2
      rw [if_neg fails, if_neg outside, completed]
  -- Without a failed bucket there is no failed row to read.
  have failedRows :
      (if (checkpointStatsOf checkpoints (some group)).any fun b => b.status = .failed then
        queryCheckpointsOf checkpoints
          { group := some group, statuses := some [.failed], limit := some fanSummaryFailures }
      else []) =
      (checkpoints.filter fun cp =>
        inGroup (some group) cp && decide (cp.status = .failed)).take fanSummaryFailures := by
    have there := any_stats checkpoints (some group) fun key => decide (key.status = .failed)
    rw [there]
    split
    · rw [failedRows_eq ordered]
      rfl
    · rename_i nowhere
      symm
      have empty : (checkpoints.filter fun cp =>
          inGroup (some group) cp && decide (cp.status = .failed)) = [] := by
        rw [List.filter_eq_nil_iff]
        intro cp listed failed
        rw [Bool.and_eq_true] at failed
        exact nowhere (List.any_eq_true.mpr ⟨cp, List.mem_filter.mpr ⟨listed, failed.1⟩, failed.2⟩)
      rw [empty, List.take_nil]
  have failures := foldl_addFailure (checkpoints.filter (inGroup (some group))) [] (Nat.zero_le _)
  rw [summarizeFanFromStats, summarizeFan, statsLabel_eq, failedRows,
    mergedFailures_eq ordered group (Nat.le_refl _), failures, List.nil_append]
  congr 1
  rw [List.foldl_ext _ _ _ statuses, completedChildren_eq ordered]
  exact tally_eq checkpoints group

end Reads

end Durable
