import Mathlib.Order.Lattice
import Durable.Proofs.Detail.Buckets

/-! The walks over a fan's members and over its buckets add up to one tally. -/

namespace Durable

open Grouping

attribute [ext] StatusCounts MemberTally

theorem merge_comm {T : Type} (op : T → T → T) [Std.Commutative op] (left right : Option T) :
    left.merge op right = right.merge op left := Std.Commutative.comm left right

theorem merge_assoc {T : Type} (op : T → T → T) [Std.Associative op] (one two three : Option T) :
    (one.merge op two).merge op three = one.merge op (two.merge op three) :=
  Std.Associative.assoc one two three

theorem replaced_min {T : Type} [LinearOrder T] (known new : T) :
    (if new < known then new else known) = min known new := by
  split
  · rw [min_eq_right (le_of_lt (by assumption))]
  · rw [min_eq_left (not_lt.mp (by assumption))]

theorem replaced_max {T : Type} [LinearOrder T] (known new : T) :
    (if known < new then new else known) = max known new := by
  split
  · rw [max_eq_right (le_of_lt (by assumption))]
  · rw [max_eq_left (not_lt.mp (by assumption))]

namespace StatusCounts

/-- Some members with one status. -/
def single (status : StepStatus) (n : Nat) : StatusCounts := ({} : StatusCounts).add status n

instance : Zero StatusCounts := ⟨{}⟩

instance : Add StatusCounts :=
  ⟨fun left right =>
    { pending := left.pending.merge (· + ·) right.pending
      running := left.running.merge (· + ·) right.running
      completed := left.completed.merge (· + ·) right.completed
      failed := left.failed.merge (· + ·) right.failed }⟩

theorem add_def (left right : StatusCounts) :
    left + right =
      { pending := left.pending.merge (· + ·) right.pending
        running := left.running.merge (· + ·) right.running
        completed := left.completed.merge (· + ·) right.completed
        failed := left.failed.merge (· + ·) right.failed } := rfl

theorem add_eq (counts : StatusCounts) (status : StepStatus) (n : Nat) :
    counts.add status n = counts + single status n := by
  obtain ⟨pending, running, completed, failed⟩ := counts
  cases status with
  | pending => cases pending <;> simp [StatusCounts.add, single, add_def]
  | running => cases running <;> simp [StatusCounts.add, single, add_def]
  | completed => cases completed <;> simp [StatusCounts.add, single, add_def]
  | failed => cases failed <;> simp [StatusCounts.add, single, add_def]

instance : AddCommMonoid StatusCounts where
  add_assoc one two three := by ext1 <;> exact merge_assoc _ _ _ _
  zero_add counts := by ext1 <;> exact Option.merge_none_left
  add_zero counts := by ext1 <;> exact Option.merge_none_right
  add_comm left right := by ext1 <;> exact merge_comm _ _ _
  nsmul := nsmulRec

end StatusCounts

namespace MemberTally

instance : Zero MemberTally := ⟨{}⟩

instance : Add MemberTally :=
  ⟨fun left right =>
    { counts := left.counts + right.counts
      size := left.size + right.size
      startedAt := left.startedAt.merge min right.startedAt
      finishedAt := left.finishedAt.merge max right.finishedAt
      firstSeq := left.firstSeq.merge min right.firstSeq
      lastSeq := left.lastSeq.merge max right.lastSeq }⟩

instance : AddCommMonoid MemberTally where
  add_assoc one two three := by
    ext1
    · exact add_assoc _ _ _
    · exact Nat.add_assoc _ _ _
    all_goals exact merge_assoc _ _ _ _
  zero_add tally := by
    ext1
    · exact zero_add _
    · exact Nat.zero_add _
    all_goals exact Option.merge_none_left
  add_zero tally := by
    ext1
    · exact add_zero _
    · exact Nat.add_zero _
    all_goals exact Option.merge_none_right
  add_comm left right := by
    ext1
    · exact add_comm _ _
    · exact Nat.add_comm _ _
    all_goals exact merge_comm _ _ _
  nsmul := nsmulRec

theorem add_def (left right : MemberTally) :
    left + right =
      { counts := left.counts + right.counts
        size := left.size + right.size
        startedAt := left.startedAt.merge min right.startedAt
        finishedAt := left.finishedAt.merge max right.finishedAt
        firstSeq := left.firstSeq.merge min right.firstSeq
        lastSeq := left.lastSeq.merge max right.lastSeq } := rfl

/-- Some members with one status, and nothing else of them. -/
def counted (status : StepStatus) (n : Nat) : MemberTally :=
  { counts := .single status n, size := n }

/-- The times and the position of one member. -/
def span (cp : TimelineStep) : MemberTally :=
  { startedAt := some (if isTerminalStep cp.status then cp.startedAt else cp.enqueuedAt)
    finishedAt := if isTerminalStep cp.status then some cp.finishedAt else none
    firstSeq := some cp.seq
    lastSeq := some cp.seq }

def bucketSpan (b : CheckpointStat) : MemberTally :=
  { startedAt := some (if isTerminalStep b.status then b.minStartedAt else b.minEnqueuedAt)
    finishedAt := if isTerminalStep b.status then some b.maxFinishedAt else none
    firstSeq := some b.minSeq
    lastSeq := some b.maxSeq }

theorem earlierTime_eq (known : Option Nat) (time : Nat) :
    earlierTime known time = known.merge min (some time) := by
  cases known with
  | none => rfl
  | some known =>
    simp only [earlierTime, Option.merge_some_some, ← replaced_min]
    split <;> rfl

theorem laterTime_eq (known : Option Nat) (time : Nat) :
    laterTime known time = known.merge max (some time) := by
  cases known with
  | none => rfl
  | some known =>
    simp only [laterTime, Option.merge_some_some, ← replaced_max]
    split <;> rfl

theorem addMember_eq (tally : MemberTally) (cp : TimelineStep) :
    tally.addMember cp =
      tally + (span cp + counted (memberStatus cp) ((foldedCount cp).getD 1)) := by
  -- The pieces of the tally are merged one by one; a step that has not ended has no end.
  cases ended : isTerminalStep cp.status <;> ext1 <;>
    simp [addMember, add_def, span, counted, ended, StatusCounts.add_eq, earlierTime_eq,
      laterTime_eq, show ({} : StatusCounts) = 0 from rfl]

theorem addBucket_eq (tally : MemberTally) (b : CheckpointStat) :
    tally.addBucket b =
      tally + (bucketSpan b +
        if b.nameKind = .folded ∨ b.completedChild then 0 else counted b.status b.count) := by
  by_cases waits : b.nameKind = .folded ∨ b.completedChild <;>
    cases ended : isTerminalStep b.status <;> ext1 <;>
    simp [addBucket, add_def, bucketSpan, counted, ended, waits, StatusCounts.add_eq,
      earlierTime_eq, laterTime_eq, show ({} : StatusCounts) = 0 from rfl,
      show (0 : MemberTally) = {} from rfl]

theorem addCount_eq (tally : MemberTally) (status : StepStatus) (n : Nat) :
    tally.addCount status n = tally + counted status n := by
  ext1 <;> simp [addCount, add_def, counted, StatusCounts.add_eq]

theorem counted_add (status : StepStatus) (more : Nat) (n : Nat) :
    counted status (n + more) = counted status n + counted status more := by
  cases status <;> ext1 <;> simp [counted, add_def, StatusCounts.single, StatusCounts.add,
    StatusCounts.add_def]

theorem sum_bucketSpan (checkpoints : List TimelineStep) (group : Option String) :
    ((checkpointStatsOf checkpoints group).map bucketSpan).sum =
      ((checkpoints.filter (inGroup group)).map span).sum := by
  apply sum_stats
  · intro cp
    rfl
  · intro b cp same
    have status : b.status = cp.status := congrArg BucketKey.status same
    cases ended : isTerminalStep cp.status <;> ext1 <;>
      simp [bucketSpan, span, add_def, CheckpointStat.add, status, ended, replaced_min,
        replaced_max, show ({} : StatusCounts) = 0 from rfl]

theorem sum_bucketCount (checkpoints : List TimelineStep) (group : Option String) :
    ((checkpointStatsOf checkpoints group).map fun b =>
      if b.nameKind = .folded ∨ b.completedChild then 0 else counted b.status b.count).sum =
      ((checkpoints.filter (inGroup group)).map fun cp =>
        if (bucketKey cp).nameKind = .folded ∨ (bucketKey cp).completedChild then 0
        else counted cp.status 1).sum := by
  apply sum_stats
  · intro cp
    rfl
  · intro b cp same
    have later : (b.add cp).toBucketKey = bucketKey cp := same
    simp only [later, same]
    split
    · simp
    · exact counted_add _ _ _

theorem counted_member (cp : TimelineStep) :
    counted (memberStatus cp) ((foldedCount cp).getD 1) =
      (if (bucketKey cp).nameKind = .folded ∨ (bucketKey cp).completedChild then 0
        else counted cp.status 1) +
      ((if isFoldedName cp.name then
          counted (memberStatus cp) ((foldedCount cp).getD 1) else 0) +
        if (bucketKey cp).completedChild then counted (memberStatus cp) 1 else 0) := by
  by_cases folded : isFoldedName cp.name
  · -- Folded children are no child's checkpoint.
    have kind : (bucketKey cp).nameKind = .folded := (nameKind_folded cp.name).mpr folded
    have other : (bucketKey cp).completedChild = false := by
      simp [BucketKey.completedChild, kind]
    simp [kind, other, folded]
  · have kind : ¬(bucketKey cp).nameKind = .folded := by
      intro same
      exact folded ((nameKind_folded cp.name).mp same)
    rw [foldedCount_eq_none (by simpa using folded)]
    by_cases child : (bucketKey cp).completedChild
    · simp [child, folded]
    · have plain : (bucketKey cp).completedChild = false := by simpa using child
      rw [memberStatus_eq plain]
      simp [kind, child, folded]

theorem sum_members (members : List TimelineStep) :
    (members.map fun cp =>
        span cp + counted (memberStatus cp) ((foldedCount cp).getD 1)).sum =
      (members.map span).sum +
        ((members.map fun cp =>
          if (bucketKey cp).nameKind = .folded ∨ (bucketKey cp).completedChild then 0
          else counted cp.status 1).sum +
        (((members.filter fun cp => isFoldedName cp.name).map fun cp =>
          counted (memberStatus cp) ((foldedCount cp).getD 1)).sum +
        ((members.filter fun cp => (bucketKey cp).completedChild).map fun cp =>
          counted (memberStatus cp) 1).sum)) := by
  rw [sum_filter, sum_filter, ← List.sum_map_add, ← List.sum_map_add, ← List.sum_map_add]
  congr 1
  apply List.map_congr_left
  intro cp _
  rw [← counted_member]

theorem tally_eq (checkpoints : List TimelineStep) (group : String) :
    let members := checkpoints.filter (inGroup (some group))
    let buckets := (checkpointStatsOf checkpoints (some group)).foldl addBucket {}
    let withFolded := (members.filter fun cp => isFoldedName cp.name).foldl
      (fun tally cp => tally.addCount (memberStatus cp) ((foldedCount cp).getD 1)) buckets
    (members.filter fun cp => (bucketKey cp).completedChild).foldl
      (fun tally cp => tally.addCount (memberStatus cp) 1) withFolded =
        members.foldl addMember {} := by
  intro members buckets withFolded
  rw [foldl_shares addMember_eq, sum_members]
  simp only [withFolded, buckets, foldl_shares addBucket_eq,
    foldl_shares fun tally cp => addCount_eq tally (memberStatus cp) ((foldedCount cp).getD 1),
    foldl_shares fun tally cp => addCount_eq tally (memberStatus cp) 1]
  rw [List.sum_map_add, sum_bucketSpan, sum_bucketCount]
  simp only [add_assoc]
  rfl

end MemberTally

end Durable
