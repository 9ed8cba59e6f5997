import Durable.Detail.Timeline

/-! A run's detail as it is made of a store's aggregates and a few reads. -/

namespace Durable

open Grouping

/-- How a checkpoint's name classifies it. -/
inductive CheckpointNameKind where
  | child | folded | spawn | step
deriving DecidableEq

/-- The kind of a checkpoint's name. -/
def checkpointNameKind (name : String) : CheckpointNameKind :=
  if nameStartsWith childWaitPrefix name then .child
  else if isFoldedName name then .folded
  else if nameStartsWith spawnPrefix name then .spawn
  else .step

/-- What the checkpoints of one bucket share: their group, their status, and their kind of name. -/
structure BucketKey where
  group : Option String
  status : StepStatus
  nameKind : CheckpointNameKind
deriving DecidableEq

/-- One bucket of a run's checkpoints, reduced to aggregates. -/
structure CheckpointStat extends BucketKey where
  count : Nat
  minSeq : Nat
  maxSeq : Nat
  minName : String
  maxName : String
  minEnqueuedAt : Nat
  minStartedAt : Nat
  maxStartedAt : Nat
  maxFinishedAt : Nat
  sumAttempts : Nat
deriving DecidableEq

/-- The bucket a checkpoint belongs to. -/
def bucketKey (cp : TimelineStep) : BucketKey :=
  ⟨cp.parallelGroup, cp.status, checkpointNameKind cp.name⟩

/-- The bucket of one checkpoint alone. -/
def bucketOf (cp : TimelineStep) : CheckpointStat :=
  { bucketKey cp with
    count := 1, minSeq := cp.seq, maxSeq := cp.seq, minName := cp.name, maxName := cp.name
    minEnqueuedAt := cp.enqueuedAt, minStartedAt := cp.startedAt, maxStartedAt := cp.startedAt
    maxFinishedAt := cp.finishedAt, sumAttempts := cp.attempts }

/-- A bucket with one more checkpoint. -/
def CheckpointStat.add (bucket : CheckpointStat) (cp : TimelineStep) : CheckpointStat :=
  { bucket with
    count := bucket.count + 1
    minSeq := min bucket.minSeq cp.seq
    maxSeq := max bucket.maxSeq cp.seq
    -- Any order of names tells a bucket of one name from a bucket of several.
    minName := if cp.name < bucket.minName then cp.name else bucket.minName
    maxName := if cp.name > bucket.maxName then cp.name else bucket.maxName
    minEnqueuedAt :=
      if cp.enqueuedAt < bucket.minEnqueuedAt then cp.enqueuedAt else bucket.minEnqueuedAt
    minStartedAt := if cp.startedAt < bucket.minStartedAt then cp.startedAt else bucket.minStartedAt
    maxStartedAt := if cp.startedAt > bucket.maxStartedAt then cp.startedAt else bucket.maxStartedAt
    maxFinishedAt :=
      if cp.finishedAt > bucket.maxFinishedAt then cp.finishedAt else bucket.maxFinishedAt
    sumAttempts := bucket.sumAttempts + cp.attempts }

/-- What a bucket becomes with a checkpoint. -/
def addToBucket (bucket : Option CheckpointStat) (cp : TimelineStep) : CheckpointStat :=
  match bucket with
  | none => bucketOf cp
  | some bucket => bucket.add cp

/-- The bucket a checkpoint belongs to, if its group is the one asked for. -/
def statKey (group : Option String) (cp : TimelineStep) : Option BucketKey :=
  if group.isSome ∧ cp.parallelGroup ≠ group then none else some (bucketKey cp)

/-- The buckets of some checkpoints, of one group or of all. -/
def checkpointStatsOf (checkpoints : List TimelineStep) (group : Option String) :
    List CheckpointStat :=
  (collect (statKey group) addToBucket checkpoints).map Prod.snd

/-- Which checkpoints a read selects. -/
structure CheckpointQuery where
  group : Option String := none
  excludeGroups : List String := []
  statuses : Option (List StepStatus) := none
  namePrefixes : Option (List String) := none
  offset : Nat := 0
  limit : Option Nat := none

/-- Whether a read selects a checkpoint. -/
def CheckpointQuery.selects (query : CheckpointQuery) (cp : TimelineStep) : Bool :=
  query.group.all (fun group => cp.parallelGroup = some group) &&
    cp.parallelGroup.all (· ∉ query.excludeGroups) &&
    query.statuses.all (cp.status ∈ ·) &&
    query.namePrefixes.all (·.any (nameStartsWith · cp.name))

/-- Checkpoints in the order of their positions. -/
def sortBySeq (checkpoints : List TimelineStep) : List TimelineStep :=
  Ranked.sorted (·.seq) checkpoints

/-- The checkpoints a read selects, in the order of their positions. -/
def queryCheckpointsOf (checkpoints : List TimelineStep) (query : CheckpointQuery) :
    List TimelineStep :=
  let matching := (sortBySeq (checkpoints.filter query.selects)).drop query.offset
  query.limit.elim matching matching.take

/-- The openings of the names that record a child. -/
def childEdgePrefixes : List String := [childWaitPrefix, foldedPrefix, spawnPrefix]

/-- Whether a group with some checkpoints is drawn as one node. -/
def isWide (group : String) (rows : Nat) (threshold : CallerNumber) : Bool :=
  threshold.below rows || threshold.below (declaredSize group)

/-- Two lists of distinct checkpoints as one. -/
def mergeBySeq (first second : List TimelineStep) : List TimelineStep := sortBySeq (first ++ second)

/-- How many checkpoints some buckets count. -/
def rowCount (buckets : List CheckpointStat) : Nat := buckets.foldl (fun n b => n + b.count) 0

/-- Whether a bucket is of completed children: they count by what they completed with. -/
def BucketKey.completedChild (key : BucketKey) : Bool :=
  key.nameKind == .child && key.status == .completed

section Store

-- The run's checkpoints, which the store aggregates.
variable (checkpoints : List TimelineStep)

/-- The completed children of a group. -/
def completedChildren (group : String) (buckets : List CheckpointStat) : List TimelineStep :=
  if buckets.any (·.completedChild) then
    queryCheckpointsOf checkpoints
      { group := some group, statuses := some [.completed]
        namePrefixes := some [childWaitPrefix] }
  else []

/-- The completed children of a group that failed. -/
def failedChildren (group : String) (buckets : List CheckpointStat) : List TimelineStep :=
  (completedChildren checkpoints group buckets).filter (·.isFailedMember)

/-- Add a bucket to the walk over a fan's buckets. -/
def MemberTally.addBucket (tally : MemberTally) (b : CheckpointStat) : MemberTally :=
  let ended := isTerminalStep b.status
  -- Folded rows and completed children count by their payload.
  let later := b.nameKind = .folded ∨ b.completedChild
  { counts := if later then tally.counts else tally.counts.add b.status b.count
    size := if later then tally.size else tally.size + b.count
    startedAt := earlierTime tally.startedAt (if ended then b.minStartedAt else b.minEnqueuedAt)
    finishedAt := if ended then laterTime tally.finishedAt b.maxFinishedAt else tally.finishedAt
    firstSeq := earlierTime tally.firstSeq b.minSeq
    lastSeq := laterTime tally.lastSeq b.maxSeq }

/-- Count members by their payload. -/
def MemberTally.addCount (tally : MemberTally) (status : StepStatus) (n : Nat) : MemberTally :=
  { tally with counts := tally.counts.add status n, size := tally.size + n }

/-- The smaller of a known name, if there is one, and another. -/
def smallerName (known : Option String) (name : String) : Option String :=
  match known with
  | none => some name
  | some known => if name < known then some name else some known

/-- The larger of a known name, if there is one, and another. -/
def largerName (known : Option String) (name : String) : Option String :=
  match known with
  | none => some name
  | some known => if name > known then some name else some known

/-- What a fan's members are called together, from the buckets alone. -/
def statsLabel (buckets : List CheckpointStat) : String :=
  let minName := buckets.foldl (fun known b => smallerName known b.minName) none
  let maxName := buckets.foldl (fun known b => largerName known b.maxName) none
  if buckets.any fun b => b.nameKind = .child || b.nameKind = .folded then "child runs"
  else if minName = maxName then minName.getD "" else "steps"

/-- Summarize a fan from its buckets and its folded checkpoints. -/
def summarizeFanFromStats (group : String) (buckets : List CheckpointStat)
    (folded : List TimelineStep) : FanSummary :=
  let children := completedChildren checkpoints group buckets
  let failed := failedChildren checkpoints group buckets
  let counted := buckets.foldl MemberTally.addBucket {}
  let counted := folded.foldl
    (fun tally cp => tally.addCount (memberStatus cp) ((foldedCount cp).getD 1)) counted
  let counted := children.foldl
    (fun tally cp => tally.addCount (if cp ∈ failed then .failed else .completed) 1) counted
  let failedRows :=
    if buckets.any (·.status = .failed) then
      queryCheckpointsOf checkpoints
        { group := some group, statuses := some [.failed], limit := some fanSummaryFailures }
    else []
  fanSummaryOf group (statsLabel buckets) counted
    ((mergeBySeq failedRows failed).take fanSummaryFailures)

/-- The children read from a store, a page of checkpoints at a time. -/
structure ChildIds where
  ids : List String
  /-- The last page was not full, so every checkpoint that records a child was read. -/
  complete : Bool
  read : Nat
deriving DecidableEq

/-- A page of the checkpoints that record a child. -/
def childEdgePage (offset : Nat) : List TimelineStep :=
  queryCheckpointsOf checkpoints
    { namePrefixes := some childEdgePrefixes, offset, limit := some summaryChildLimit }

/-- A page has no more checkpoints than are left. -/
theorem childEdgePage_length (offset : Nat) :
    (childEdgePage checkpoints offset).length ≤ checkpoints.length - offset := by
  simp only [childEdgePage, queryCheckpointsOf, Option.elim, List.length_take, List.length_drop,
    sortBySeq, Ranked.sorted, List.length_mergeSort]
  have selected := List.length_filter_le
    (CheckpointQuery.selects
      { namePrefixes := some childEdgePrefixes, offset, limit := some summaryChildLimit })
    checkpoints
  omega

/-- The distinct children, read until enough of them are known. -/
def firstChildIds (offset : Nat) (ids : List String) : ChildIds :=
  let page := childEdgePage checkpoints offset
  let known := (childIdsOf page).foldl
    (fun seen item => if item ∈ seen then seen else seen ++ [item]) ids
  if page.length < summaryChildLimit then ⟨known, true, offset + page.length⟩
  else if summaryChildLimit ≤ known.length then ⟨known, false, offset + page.length⟩
  else firstChildIds (offset + summaryChildLimit) known
termination_by checkpoints.length - offset
decreasing_by
  have full : ¬page.length < summaryChildLimit := by assumption
  have bound : page.length ≤ checkpoints.length - offset := childEdgePage_length checkpoints offset
  simp only [summaryChildLimit] at full ⊢
  omega

/-- How many checkpoints record one child, as the buckets count them. -/
def edgeRows (all : List CheckpointStat) : Nat :=
  rowCount (all.filter fun b => b.nameKind = .child || b.nameKind = .spawn)

/-- The children that `summarizeRunFromStore` reads. -/
def childrenRead (all : List CheckpointStat) : ChildIds :=
  if 0 < edgeRows all ∨ all.any (·.nameKind = .folded) then firstChildIds checkpoints 0 []
  else ⟨[], true, 0⟩

/-- What a summarized detail takes from a run's aggregates and a few reads. -/
def summarizeRunFromStore (threshold : CallerNumber) : RunSummary :=
  let all := checkpointStatsOf checkpoints none
  let byGroup := collect (·.group) (fun buckets b => buckets.getD [] ++ [b]) all
  let wide := byGroup.filter fun entry => isWide entry.1 (rowCount entry.2) threshold
  let folded :=
    if all.any (·.nameKind = .folded) then
      queryCheckpointsOf checkpoints { namePrefixes := some [foldedPrefix] }
    else []
  let children := childrenRead checkpoints all
  { timeline := queryCheckpointsOf checkpoints { excludeGroups := wide.map Prod.fst }
    fans := sortFans (wide.map fun entry =>
      summarizeFanFromStats checkpoints entry.1 entry.2
        (folded.filter fun cp => cp.parallelGroup = some entry.1))
    children := children.ids.take summaryChildLimit
    childCount :=
      if children.complete then children.ids.length
      else folded.foldl (fun n cp => n + (childIdsOf [cp]).length) (edgeRows all) }

/-- One page of a fan's members, read from a store. -/
def pageFanFromStore (group : String) (query : FanPageQuery) : FanPage :=
  let buckets := checkpointStatsOf checkpoints (some group)
  let bounds := fanPageBounds query
  if !query.failedOnly then
    { total := rowCount buckets
      items :=
        if rowCount buckets > bounds.1 then
          queryCheckpointsOf checkpoints
            { group := some group, offset := bounds.1, limit := some bounds.2 }
        else [] }
  else
    let failed := failedChildren checkpoints group buckets
    let total := rowCount (buckets.filter fun b => b.status = .failed) + failed.length
    if total ≤ bounds.1 then { items := [], total }
    else if failed.length = 0 then
      { total
        items := queryCheckpointsOf checkpoints
          { group := some group, statuses := some [.failed], offset := bounds.1
            limit := some bounds.2 } }
    else
      -- The page's members are among the first of each kind of failure.
      let failedRows := queryCheckpointsOf checkpoints
        { group := some group, statuses := some [.failed], limit := some (bounds.1 + bounds.2) }
      { total, items := slice (mergeBySeq failedRows failed) bounds.1 bounds.2 }

end Store

end Durable
