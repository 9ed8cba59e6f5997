import Durable.Detail.Aggregates

/-! The buckets of a run's checkpoints: which there are, and what they add up to. -/

namespace Durable

open Grouping

section Names

theorem isPrefixOf_apart {one other : Char} (apart : one ≠ other) (left right name : List Char)
    (opens : (one :: left).isPrefixOf name = true) : (other :: right).isPrefixOf name = false := by
  cases name with
  | nil => rfl
  | cons first rest =>
    simp only [List.isPrefixOf, Bool.and_eq_true, beq_iff_eq] at opens
    simp only [List.isPrefixOf, Bool.and_eq_false_iff, beq_eq_false_iff_ne]
    left
    intro same
    exact apart (opens.1.trans same.symm)

theorem childWait_of_folded {name : String} (folded : isFoldedName name = true) :
    nameStartsWith childWaitPrefix name = false :=
  isPrefixOf_apart (by decide) _ _ _ folded

theorem nameKind_folded (name : String) :
    checkpointNameKind name = .folded ↔ isFoldedName name = true := by
  unfold checkpointNameKind
  by_cases folded : isFoldedName name
  · simp [folded, childWait_of_folded folded]
  · by_cases child : nameStartsWith childWaitPrefix name
    · simp [child, folded]
    · by_cases spawn : nameStartsWith spawnPrefix name <;> simp [child, folded, spawn]

theorem nameKind_child (name : String) :
    checkpointNameKind name = .child ↔ nameStartsWith childWaitPrefix name = true := by
  unfold checkpointNameKind
  by_cases child : nameStartsWith childWaitPrefix name
  · simp [child]
  · by_cases folded : isFoldedName name
    · simp [child, folded]
    · by_cases spawn : nameStartsWith spawnPrefix name <;> simp [child, folded, spawn]

theorem foldedCount_eq_none {cp : TimelineStep} (single : isFoldedName cp.name = false) :
    foldedCount cp = none := by
  simp [foldedCount, single]

theorem completedChild_iff (cp : TimelineStep) :
    (bucketKey cp).completedChild = true ↔
      nameStartsWith childWaitPrefix cp.name = true ∧ cp.status = .completed := by
  simp [BucketKey.completedChild, bucketKey, nameKind_child]

theorem memberStatus_eq {cp : TimelineStep} (plain : (bucketKey cp).completedChild = false) :
    memberStatus cp = cp.status := by
  unfold memberStatus TimelineStep.isFailedMember
  by_cases failed : cp.status = .failed
  · simp [failed]
  · have others : ¬(nameStartsWith childWaitPrefix cp.name = true ∧ cp.status = .completed) := by
      rw [← completedChild_iff, plain]
      exact Bool.false_ne_true
    have guard :
        (!nameStartsWith childWaitPrefix cp.name || decide (cp.status ≠ .completed)) = true := by
      by_cases child : nameStartsWith childWaitPrefix cp.name
      · have unfinished : cp.status ≠ .completed := fun done => others ⟨child, done⟩
        simp [unfinished]
      · simp [child]
    rw [if_neg failed, if_pos guard]
    rfl

theorem others_of_spawn {name : String} (spawn : nameStartsWith spawnPrefix name = true) :
    nameStartsWith childWaitPrefix name = false ∧ isFoldedName name = false := by
  constructor
  · -- The two openings differ in their second character.
    unfold nameStartsWith spawnPrefix at spawn
    unfold nameStartsWith childWaitPrefix
    cases shape : name.toList with
    | nil => rfl
    | cons first rest =>
      rw [shape] at spawn
      have behind : "pawn:".toList.isPrefixOf rest = true := by
        have both : ('s' == first && "pawn:".toList.isPrefixOf rest) = true := spawn
        exact (Bool.and_eq_true _ _ ▸ both).2
      have other : "ignal:child:".toList.isPrefixOf rest = false :=
        isPrefixOf_apart (by decide) _ _ _ behind
      show ('s' == first && "ignal:child:".toList.isPrefixOf rest) = false
      rw [other, Bool.and_false]
  · exact isPrefixOf_apart (by decide) _ _ _ spawn

theorem nameKind_spawn (name : String) :
    checkpointNameKind name = .spawn ↔ nameStartsWith spawnPrefix name = true := by
  unfold checkpointNameKind
  by_cases spawn : nameStartsWith spawnPrefix name
  · simp [spawn, others_of_spawn spawn]
  · by_cases child : nameStartsWith childWaitPrefix name
    · simp [spawn, child]
    · by_cases folded : isFoldedName name <;> simp [spawn, child, folded]

end Names

/-- The checkpoints of the group asked for, or all. -/
def inGroup (group : Option String) (cp : TimelineStep) : Bool :=
  group.isNone || decide (cp.parallelGroup = group)

theorem statKey_eq (group : Option String) (cp : TimelineStep) :
    statKey group cp = if inGroup group cp then some (bucketKey cp) else none := by
  cases group with
  | none => simp [statKey, inGroup]
  | some group =>
    by_cases inside : cp.parallelGroup = some group <;> simp [statKey, inGroup, inside]

theorem bucketKey_of_statKey {group : Option String} {cp : TimelineStep} {key : BucketKey}
    (found : statKey group cp = some key) : bucketKey cp = key := by
  rw [statKey_eq] at found
  split at found
  · exact Option.some.inj found
  · cases found

theorem stat_key (checkpoints : List TimelineStep) (group : Option String) :
    ∀ entry ∈ collect (statKey group) addToBucket checkpoints,
      entry.2.toBucketKey = entry.1 := by
  apply collect_invariant (fun (key : BucketKey) (b : CheckpointStat) => b.toBucketKey = key)
  · intro cp key found
    exact bucketKey_of_statKey found
  · intro cp key b _ same
    exact same

theorem keys_stats (checkpoints : List TimelineStep) (group : Option String) :
    (checkpointStatsOf checkpoints group).map (·.toBucketKey) =
      firsts ((checkpoints.filter (inGroup group)).map bucketKey) := by
  have chosen : checkpoints.filterMap (statKey group) =
      (checkpoints.filter (inGroup group)).map bucketKey := by
    induction checkpoints with
    | nil => rfl
    | cons cp rest ih =>
      by_cases inside : inGroup group cp
      · rw [List.filter_cons_of_pos inside, List.map_cons,
          List.filterMap_cons_some (by rw [statKey_eq, if_pos inside]), ih]
      · rw [List.filter_cons_of_neg inside,
          List.filterMap_cons_none (by rw [statKey_eq, if_neg inside]), ih]
  have keys : (checkpointStatsOf checkpoints group).map (·.toBucketKey) =
      (collect (statKey group) addToBucket checkpoints).map Prod.fst := by
    rw [checkpointStatsOf, List.map_map]
    apply List.map_congr_left
    intro entry listed
    exact stat_key checkpoints group entry listed
  rw [keys, keys_collect, chosen]

theorem any_stats (checkpoints : List TimelineStep) (group : Option String)
    (holds : BucketKey → Bool) :
    ((checkpointStatsOf checkpoints group).any fun b => holds b.toBucketKey) =
      (checkpoints.filter (inGroup group)).any fun cp => holds (bucketKey cp) := by
  have buckets : ((checkpointStatsOf checkpoints group).any fun b => holds b.toBucketKey) =
      ((checkpointStatsOf checkpoints group).map (·.toBucketKey)).any holds := by
    rw [List.any_map]
    rfl
  have members : ((checkpoints.filter (inGroup group)).any fun cp => holds (bucketKey cp)) =
      ((checkpoints.filter (inGroup group)).map bucketKey).any holds := by
    rw [List.any_map]
    rfl
  rw [buckets, members, keys_stats, Bool.eq_iff_iff, List.any_eq_true, List.any_eq_true]
  simp only [mem_firsts]

theorem stats_of_group (checkpoints : List TimelineStep) (group : String) :
    ((checkpointStatsOf checkpoints none).filter fun b => b.group = some group) =
      checkpointStatsOf checkpoints (some group) := by
  have keyed : chosenKey (fun key => decide (key.group = some group)) (statKey none) =
      statKey (some group) := by
    funext cp
    by_cases inside : cp.parallelGroup = some group <;>
      simp [chosenKey, statKey_eq, inGroup, bucketKey, inside]
  have byKey : ∀ entry ∈ collect (statKey none) addToBucket checkpoints,
      decide (entry.2.group = some group) = decide (entry.1.group = some group) := by
    intro entry listed
    rw [← stat_key checkpoints none entry listed]
  rw [checkpointStatsOf, checkpointStatsOf, List.filter_map, ← keyed, ← filter_collect]
  congr 1
  apply List.filter_congr
  exact byKey

def CheckpointStat.atKey (b : CheckpointStat) (key : BucketKey) : CheckpointStat :=
  { b with toBucketKey := key }

theorem sum_stats {Total : Type} [AddCommMonoid Total] (measure : CheckpointStat → Total)
    (share : TimelineStep → Total) (fresh : ∀ cp, measure (bucketOf cp) = share cp)
    (more : ∀ (b : CheckpointStat) cp, b.toBucketKey = bucketKey cp →
      measure (b.add cp) = measure b + share cp)
    (checkpoints : List TimelineStep) (group : Option String) :
    ((checkpointStatsOf checkpoints group).map measure).sum =
      ((checkpoints.filter (inGroup group)).map share).sum := by
  -- A bucket is measured as the bucket of its key, so that the steps need not know it.
  have keyed : (checkpointStatsOf checkpoints group).map measure =
      (collect (statKey group) addToBucket checkpoints).map fun entry =>
        measure (entry.2.atKey entry.1) := by
    rw [checkpointStatsOf, List.map_map]
    apply List.map_congr_left
    intro entry listed
    rw [← stat_key checkpoints group entry listed]
    rfl
  have summed : ((collect (statKey group) addToBucket checkpoints).map fun entry =>
      measure (entry.2.atKey entry.1)).sum =
      (checkpoints.map fun cp => ((statKey group cp).map fun _ => share cp).getD 0).sum := by
    apply sum_collect (fun key b => measure (CheckpointStat.atKey b key)) (fun _ cp => share cp)
    · intro cp key found
      have key := bucketKey_of_statKey found
      subst key
      exact fresh cp
    · intro cp key b found
      exact more (b.atKey key) cp (bucketKey_of_statKey found).symm
  rw [keyed, summed, sum_filter]
  congr 1
  apply List.map_congr_left
  intro cp _
  rw [statKey_eq]
  by_cases inside : inGroup group cp <;> simp [inside]

theorem rowCount_stats (checkpoints : List TimelineStep) (group : Option String)
    (holds : BucketKey → Bool) :
    rowCount ((checkpointStatsOf checkpoints group).filter fun b => holds b.toBucketKey) =
      (checkpoints.filter fun cp => inGroup group cp && holds (bucketKey cp)).length := by
  have counted := sum_stats (fun b => if holds b.toBucketKey then b.count else 0)
    (fun cp => if holds (bucketKey cp) then 1 else 0)
    (fun _ => rfl)
    (fun b cp same => by
      by_cases chosen : holds (bucketKey cp) <;> simp [CheckpointStat.add, same, chosen])
    checkpoints group
  rw [rowCount, foldl_shares (fun _ _ => rfl), sum_filter, counted, Nat.zero_add]
  rw [← sum_filter (fun cp => holds (bucketKey cp)) (fun _ => 1), List.filter_filter]
  simp [Bool.and_comm]

end Durable
