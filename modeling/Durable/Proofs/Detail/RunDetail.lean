import Durable.Proofs.Detail.Children

/-! A run's detail and a fan's page read from the aggregates are those of the whole list. -/

namespace Durable

open Grouping

section Groups

/-- The groups of some checkpoints, in the order they are met. -/
def groupsOf (checkpoints : List TimelineStep) : List String :=
  firsts (checkpoints.filterMap (·.parallelGroup))

theorem membersByGroup_eq (checkpoints : List TimelineStep) :
    membersByGroup checkpoints =
      (groupsOf checkpoints).map fun group =>
        (group, checkpoints.filter (inGroup (some group))) := by
  rw [membersByGroup, collect_lists]
  apply List.map_congr_left
  intro group _
  rfl

theorem bucketsByGroup_eq (checkpoints : List TimelineStep) :
    collect (·.group) (fun buckets b => buckets.getD [] ++ [b])
        (checkpointStatsOf checkpoints none) =
      (groupsOf checkpoints).map fun group =>
        (group, checkpointStatsOf checkpoints (some group)) := by
  rw [collect_lists]
  -- The buckets' groups are met in the order of the checkpoints' groups.
  have groups : firsts ((checkpointStatsOf checkpoints none).filterMap (·.group)) =
      groupsOf checkpoints := by
    have keys := keys_stats checkpoints none
    have all : checkpoints.filter (inGroup none) = checkpoints := by
      rw [List.filter_eq_self]
      intro cp _
      rfl
    have byKey : (checkpointStatsOf checkpoints none).filterMap (·.group) =
        ((checkpointStatsOf checkpoints none).map (·.toBucketKey)).filterMap BucketKey.group := by
      rw [List.filterMap_map]
      rfl
    rw [byKey, keys, all, firsts_filterMap, List.filterMap_map]
    rfl
  rw [groups]
  apply List.map_congr_left
  intro group _
  rw [stats_of_group]

def drawnGroups (checkpoints : List TimelineStep) (threshold : CallerNumber) : List String :=
  (groupsOf checkpoints).filter fun group =>
    !(threshold.notBelow (checkpoints.filter (inGroup (some group))).length &&
      threshold.notBelow (declaredSize group))

def wideGroups (checkpoints : List TimelineStep) (threshold : CallerNumber) : List String :=
  (groupsOf checkpoints).filter fun group =>
    isWide group (checkpoints.filter (inGroup (some group))).length threshold

theorem wideGroups_eq {checkpoints : List TimelineStep} {threshold : CallerNumber}
    (number : threshold ≠ .notANumber) :
    wideGroups checkpoints threshold = drawnGroups checkpoints threshold := by
  have below : ∀ rows, threshold.below rows = !threshold.notBelow rows := by
    intro rows
    cases threshold with
    | whole floor =>
      simp only [CallerNumber.below, CallerNumber.notBelow]
      rw [← decide_not, decide_eq_decide]
      omega
    | infinite negative => simp [CallerNumber.below, CallerNumber.notBelow]
    | notANumber => exact absurd rfl number
  unfold wideGroups drawnGroups isWide
  apply List.filter_congr
  intro group _
  rw [below, below, Bool.not_and]

theorem summarizeTimeline_eq (checkpoints : List TimelineStep) (threshold : CallerNumber) :
    summarizeTimeline checkpoints threshold =
      (checkpoints.filter fun cp =>
          cp.parallelGroup.all fun group => group ∉ drawnGroups checkpoints threshold,
        sortFans ((drawnGroups checkpoints threshold).map fun group =>
          summarizeFan group (checkpoints.filter (inGroup (some group))))) := by
  have summarized : (membersByGroup checkpoints).filter (fun entry =>
      !(threshold.notBelow entry.2.length && threshold.notBelow (declaredSize entry.1))) =
      (drawnGroups checkpoints threshold).map fun group =>
        (group, checkpoints.filter (inGroup (some group))) := by
    rw [membersByGroup_eq, List.filter_map]
    rfl
  have named : ∀ groups : List String,
      (groups.map fun group => (group, checkpoints.filter (inGroup (some group)))).map Prod.fst =
        groups := by
    intro groups
    simp [List.map_map, Function.comp_def]
  unfold summarizeTimeline
  simp only [summarized, List.map_map, Function.comp_def, named, List.isEmpty_map]
  split
  · -- Nothing is drawn as one node: nothing leaves the timeline.
    rename_i nothing
    rw [List.isEmpty_iff] at nothing
    have kept : checkpoints.filter (fun cp =>
        cp.parallelGroup.all fun group => decide (group ∉ ([] : List String))) = checkpoints := by
      rw [List.filter_eq_self]
      intro cp _
      cases cp.parallelGroup <;> simp
    have none_sorted : sortFans [] = [] := List.mergeSort_nil
    rw [nothing, kept, List.map_nil, none_sorted]
  · rfl

theorem slice_eq (items : List TimelineStep) (offset limit : Nat) :
    slice items offset limit = (items.take (offset + limit)).drop offset := by
  rw [slice, List.drop_take, Nat.add_sub_cancel_left]

variable {checkpoints : List TimelineStep} (ordered : InOrder checkpoints)

include ordered

/-- What the aggregates split a run into, by the groups drawn. -/
theorem summarizeRunFromStore_eq (threshold : CallerNumber) :
    (summarizeRunFromStore checkpoints threshold).timeline =
        checkpoints.filter (fun cp =>
          cp.parallelGroup.all fun group => group ∉ wideGroups checkpoints threshold) ∧
      (summarizeRunFromStore checkpoints threshold).fans =
        sortFans ((wideGroups checkpoints threshold).map fun group =>
          summarizeFan group (checkpoints.filter (inGroup (some group)))) := by
  have counted : ∀ group, rowCount (checkpointStatsOf checkpoints (some group)) =
      (checkpoints.filter (inGroup (some group))).length := by
    intro group
    have all := rowCount_stats checkpoints (some group) fun _ => true
    simpa using all
  have wide : (collect (·.group) (fun buckets b => buckets.getD [] ++ [b])
        (checkpointStatsOf checkpoints none)).filter
        (fun entry => isWide entry.1 (rowCount entry.2) threshold) =
      (wideGroups checkpoints threshold).map fun group =>
        (group, checkpointStatsOf checkpoints (some group)) := by
    rw [bucketsByGroup_eq, List.filter_map]
    congr 1
    apply List.filter_congr
    intro group _
    simp [counted]
  have members : ∀ group, (checkpoints.filter fun cp => isFoldedName cp.name).filter
      (fun cp => decide (cp.parallelGroup = some group)) =
      (checkpoints.filter (inGroup (some group))).filter fun cp => isFoldedName cp.name := by
    intro group
    rw [List.filter_filter, List.filter_filter]
    apply List.filter_congr
    intro cp _
    simp [inGroup, Bool.and_comm]
  constructor
  · unfold summarizeRunFromStore
    simp only [wide, List.map_map, Function.comp_def, List.map_id']
    rw [query_eq ordered]
    simp only [Option.elim, List.drop_zero]
    apply List.filter_congr
    intro cp _
    simp [CheckpointQuery.selects]
  · unfold summarizeRunFromStore
    simp only [wide, List.map_map, Function.comp_def, folded_eq ordered, members,
      summarizeFanFromStats_eq ordered]

theorem failedMembers_eq (group : String) :
    mergeBySeq
        (checkpoints.filter fun cp => inGroup (some group) cp && decide (cp.status = .failed))
        (failedChildren checkpoints group (checkpointStatsOf checkpoints (some group))) =
      (checkpoints.filter (inGroup (some group))).filter (·.isFailedMember) := by
  have merged := fun limit => mergedFailures_eq ordered group (Nat.le_refl limit)
  generalize checkpoints.filter (fun cp =>
    inGroup (some group) cp && decide (cp.status = .failed)) = rows at merged ⊢
  generalize failedChildren checkpoints group
    (checkpointStatsOf checkpoints (some group)) = children at merged ⊢
  generalize (checkpoints.filter (inGroup (some group))).filter (·.isFailedMember) = failed
    at merged ⊢
  -- A limit that nothing reaches takes every list whole.
  have whole := merged (rows.length + children.length + failed.length)
  have size : (mergeBySeq rows children).length = rows.length + children.length := by
    simp [mergeBySeq, sortBySeq, Ranked.sorted]
  have allRows : rows.take (rows.length + children.length + failed.length) = rows :=
    List.take_of_length_le (by omega)
  have allFailed : failed.take (rows.length + children.length + failed.length) = failed :=
    List.take_of_length_le (by omega)
  rw [allRows, allFailed, List.take_of_length_le (by omega)] at whole
  exact whole

/-- A fan's page read from the aggregates is the page of the whole list. -/
theorem pageFanFromStore_eq (group : String) (query : FanPageQuery) :
    pageFanFromStore checkpoints group query = pageFan checkpoints group query := by
  have members : checkpoints.filter (fun cp =>
        decide (cp.parallelGroup = some group) && (!query.failedOnly || cp.isFailedMember)) =
      (checkpoints.filter (inGroup (some group))).filter fun cp =>
        !query.failedOnly || cp.isFailedMember := by
    rw [List.filter_filter]
    apply List.filter_congr
    intro cp _
    simp [inGroup, Bool.and_comm]
  unfold pageFanFromStore pageFan
  rw [members]
  generalize fanPageBounds query = bounds
  obtain ⟨offset, limit⟩ := bounds
  cases failedOnly : query.failedOnly with
  | false =>
    -- Every member is on some page.
    have all : (checkpoints.filter (inGroup (some group))).filter
        (fun cp => !false || cp.isFailedMember) = checkpoints.filter (inGroup (some group)) := by
      simp
    have counted : rowCount (checkpointStatsOf checkpoints (some group)) =
        (checkpoints.filter (inGroup (some group))).length := by
      have every := rowCount_stats checkpoints (some group) fun _ => true
      simpa using every
    have chosen : checkpoints.filter
        (CheckpointQuery.selects { group := some group, offset, limit := some limit }) =
        checkpoints.filter (inGroup (some group)) := by
      apply List.filter_congr
      intro cp _
      simp [CheckpointQuery.selects, inGroup]
    rw [all]
    simp only [Bool.not_false, if_true, counted, query_eq ordered, chosen, Option.elim]
    congr 1
    by_cases inside : (checkpoints.filter (inGroup (some group))).length > offset
    · rw [if_pos inside]
      rfl
    · rw [if_neg inside, slice, List.drop_of_length_le (Nat.le_of_not_lt inside), List.take_nil]
  | true =>
    have both := failedMembers_eq ordered group
    have rows := rowCount_stats checkpoints (some group) fun key => decide (key.status = .failed)
    have total : rowCount ((checkpointStatsOf checkpoints (some group)).filter
          fun b => decide (b.status = .failed)) +
        (failedChildren checkpoints group (checkpointStatsOf checkpoints (some group))).length =
        ((checkpoints.filter (inGroup (some group))).filter (·.isFailedMember)).length := by
      rw [← both, rows]
      simp only [mergeBySeq, sortBySeq, Ranked.sorted, List.length_mergeSort, List.length_append]
      rfl
    simp only [Bool.not_true, Bool.false_eq_true, if_false, Bool.false_or, total]
    split
    · -- The page lies behind the last failure.
      rename_i behind
      rw [slice, List.drop_of_length_le behind, List.take_nil]
    · split
      · -- Only rows failed, so the read is the page.
        rename_i childless
        have alone : (checkpoints.filter fun cp =>
            inGroup (some group) cp && decide (cp.status = .failed)) =
            (checkpoints.filter (inGroup (some group))).filter (·.isFailedMember) := by
          rw [← both, List.eq_nil_of_length_eq_zero childless, mergeBySeq, List.append_nil]
          exact (ordered.sorted_filter _).symm
        rw [failedRows_eq ordered, alone]
        rfl
      · rw [failedRows_eq ordered, slice_eq, slice_eq]
        simp only [Option.elim, List.drop_zero]
        rw [mergedFailures_eq ordered group (Nat.le_refl (offset + limit))]

end Groups

/-- A run's detail and a page of a fan, read from the aggregates, are those of the whole list; the
number of children is, wherever every checkpoint that records a child was read. -/
structure DetailAgrees (checkpoints : List TimelineStep) (threshold : CallerNumber)
    (group : String) (query : FanPageQuery) : Prop where
  timeline : (summarizeRunFromStore checkpoints threshold).timeline =
    (summarizeRun checkpoints threshold).timeline
  fans : (summarizeRunFromStore checkpoints threshold).fans =
    (summarizeRun checkpoints threshold).fans
  children : (summarizeRunFromStore checkpoints threshold).children =
    (summarizeRun checkpoints threshold).children
  childCount : (childrenRead checkpoints (checkpointStatsOf checkpoints none)).read =
      (childEdges checkpoints).length →
    (summarizeRunFromStore checkpoints threshold).childCount =
      (summarizeRun checkpoints threshold).childCount
  page : pageFanFromStore checkpoints group query = pageFan checkpoints group query

theorem DetailAgrees.counts {checkpoints : List TimelineStep} {threshold : CallerNumber}
    {group : String} {query : FanPageQuery}
    (agrees : DetailAgrees checkpoints threshold group query) (ordered : InOrder checkpoints) :
    ¬(StopsOnLastPage checkpoints ∧
      countedChildren checkpoints ≠ distinctChildren checkpoints) :=
  (childCount_iff ordered threshold).mp agrees.childCount

def HasGroup (checkpoints : List TimelineStep) : Prop :=
  ∃ cp ∈ checkpoints, cp.parallelGroup ≠ none

theorem groupsOf_eq_nil {checkpoints : List TimelineStep} :
    groupsOf checkpoints = [] ↔ ¬HasGroup checkpoints := by
  unfold HasGroup
  rw [List.eq_nil_iff_forall_not_mem]
  constructor
  · rintro groupless ⟨cp, listed, grouped⟩
    obtain ⟨group, named⟩ := Option.ne_none_iff_exists'.mp grouped
    apply groupless group
    rw [groupsOf, mem_firsts, List.mem_filterMap]
    exact ⟨cp, listed, named⟩
  · intro ungrouped group listed
    rw [groupsOf, mem_firsts, List.mem_filterMap] at listed
    obtain ⟨cp, member, grouped⟩ := listed
    exact ungrouped ⟨cp, member, by simp [grouped]⟩

theorem fans_notANumber_iff {checkpoints : List TimelineStep} (ordered : InOrder checkpoints) :
    (summarizeRunFromStore checkpoints .notANumber).fans =
        (summarizeRun checkpoints .notANumber).fans ↔ ¬HasGroup checkpoints := by
  have drawn : drawnGroups checkpoints .notANumber = groupsOf checkpoints := by
    unfold drawnGroups
    rw [List.filter_eq_self]
    intro group _
    rfl
  have wide : wideGroups checkpoints .notANumber = [] := by
    unfold wideGroups
    rw [List.filter_eq_nil_iff]
    intro group _
    simp [isWide, CallerNumber.below]
  have split := summarizeTimeline_eq checkpoints .notANumber
  rw [(summarizeRunFromStore_eq ordered .notANumber).2, wide]
  simp only [summarizeRun, split, drawn]
  rw [← groupsOf_eq_nil]
  constructor
  · intro same
    have sizes := congrArg List.length same
    simp only [sortFans, Ranked.sorted, List.length_mergeSort, List.length_map,
      List.length_nil] at sizes
    exact List.eq_nil_of_length_eq_zero sizes.symm
  · intro groupless
    rw [groupless]

/-- The aggregates give the detail and the page of the whole list, unless the threshold is no number
and there is a group, or the last page of children is full, makes enough of them known, and counts
one twice. -/
theorem detail_agrees_iff {checkpoints : List TimelineStep} (ordered : InOrder checkpoints)
    (threshold : CallerNumber) (group : String) (query : FanPageQuery) :
    DetailAgrees checkpoints threshold group query ↔
      ¬(threshold = .notANumber ∧ HasGroup checkpoints) ∧
        ¬(StopsOnLastPage checkpoints ∧
          countedChildren checkpoints ≠ distinctChildren checkpoints) := by
  constructor
  · intro agrees
    constructor
    · rintro ⟨none, grouped⟩
      subst none
      exact (fans_notANumber_iff ordered).mp agrees.fans grouped
    · exact agrees.counts ordered
  · rintro ⟨comparable, counted⟩
    have split := summarizeTimeline_eq checkpoints threshold
    have read := summarizeRunFromStore_eq ordered threshold
    -- Either the threshold is a number, or there is no group to compare with it.
    have same : wideGroups checkpoints threshold = drawnGroups checkpoints threshold := by
      by_cases number : threshold = .notANumber
      · have groupless := groupsOf_eq_nil.mpr fun grouped => comparable ⟨number, grouped⟩
        simp [wideGroups, drawnGroups, groupless]
      · exact wideGroups_eq number
    rw [same] at read
    constructor
    · rw [read.1]
      simp only [summarizeRun, split]
    · rw [read.2]
      simp only [summarizeRun, split]
    · exact children_eq ordered
    · exact (childCount_iff ordered threshold).mpr counted
    · exact pageFanFromStore_eq ordered group query

def twoStepFan : List TimelineStep :=
  [{ runId := "p", seq := 0, name := "charge", kind := .remote, parallelGroup := some "steps:0:2"
     enqueuedAt := 1, startedAt := 2, finishedAt := 5 },
   { runId := "p", seq := 1, name := "charge", kind := .remote, status := .failed
     parallelGroup := some "steps:0:2", enqueuedAt := 1, startedAt := 3, finishedAt := 4 }]

theorem detail_agrees_twoStepFan :
    DetailAgrees twoStepFan (.whole 1) "steps:0:2" { failedOnly := true } := by
  apply (detail_agrees_iff (by simp [Ranked.Ordered, twoStepFan]) _ _ _).mpr
  constructor
  · simp
  · rintro ⟨⟨pages, size, -⟩, -⟩
    have edgeless : (childEdges twoStepFan).length = 0 := by decide
    rw [edgeless] at size
    simp [summaryChildLimit] at size

def foldedWave : TimelineStep :=
  { runId := "p", seq := 0, name := "fan:p.all.0.", kind := .signal
    output := some (.obj [("from", .num 0), ("values", .arr (List.replicate 200 .null))])
    enqueuedAt := 1, startedAt := 2, finishedAt := 5 }

def startedAgain (index : Nat) : TimelineStep :=
  { runId := "p", seq := index + 1, name := "spawn:p.all.0.0", kind := .local
    output := some (.str "p.all.0.0"), enqueuedAt := 6, startedAt := 6, finishedAt := 6 }

def fullPage : List TimelineStep := foldedWave :: (List.range 199).map startedAgain

theorem fullPage_ordered : InOrder fullPage := by
  unfold InOrder fullPage Ranked.Ordered
  rw [List.pairwise_cons, List.pairwise_map]
  constructor
  · intro cp listed
    obtain ⟨index, -, rfl⟩ := List.mem_map.mp listed
    exact Nat.succ_pos index
  · exact List.pairwise_lt_range.imp Nat.succ_lt_succ

theorem fullPage_edges : childEdges fullPage = fullPage := by
  unfold childEdges
  rw [List.filter_eq_self]
  intro cp listed
  rcases List.mem_cons.mp listed with wave | again
  · subst wave
    decide
  · obtain ⟨index, -, rfl⟩ := List.mem_map.mp again
    show childEdgePrefixes.any (nameStartsWith · "spawn:p.all.0.0") = true
    decide

theorem foldedWave_children :
    childIdsIn foldedWave = (List.range 200).map fun index => "p.all.0." ++ toString index := by
  have behind : nameBehind foldedPrefix "fan:p.all.0." = "p.all.0." := by decide
  have other : nameStartsWith childWaitPrefix "fan:p.all.0." = false := by decide
  have folded : isFoldedName "fan:p.all.0." = true := by decide
  have apart : nameStartsWith spawnPrefix "fan:p.all.0." = false := by decide
  have values : (foldedWave.output.bind (·.field "values")) =
      some (.arr (List.replicate 200 .null)) := rfl
  have first : (foldedWave.output.bind (·.field "from")) = some (.num 0) := rfl
  have ids : foldedChildIds foldedWave = (List.range 200).map fun index : Nat =>
      nameBehind foldedPrefix "fan:p.all.0." ++ toString ((0 : Int) + (index : Int)) := by
    unfold foldedChildIds
    rw [values, first]
    simp only [List.length_replicate]
    rfl
  rw [behind] at ids
  have single : childIdsIn foldedWave = foldedChildIds foldedWave := by
    unfold childIdsIn
    show (if nameStartsWith childWaitPrefix "fan:p.all.0." = true then _ else []) ++
      (if isFoldedName "fan:p.all.0." = true then _ else []) ++
      (if nameStartsWith spawnPrefix "fan:p.all.0." = true then _ else []) = _
    rw [other, folded, apart]
    simp
  rw [single, ids]
  apply List.map_congr_left
  intro index _
  rw [Int.zero_add]
  rfl

theorem fullPage_children :
    childIdsOf fullPage =
      (List.range 200).map (fun index => "p.all.0." ++ toString index) ++
        (List.range 199).flatMap fun _ => ["p.all.0.0"] := by
  have again : ∀ index, childIdsIn (startedAgain index) = ["p.all.0.0"] := by
    intro index
    have other : nameStartsWith childWaitPrefix "spawn:p.all.0.0" = false := by decide
    have unfolded : isFoldedName "spawn:p.all.0.0" = false := by decide
    have spawned : nameStartsWith spawnPrefix "spawn:p.all.0.0" = true := by decide
    simp [childIdsIn, startedAgain, other, unfolded, spawned, spawnedChildId]
  rw [childIdsOf, fullPage, List.flatMap_cons, foldedWave_children, List.flatMap_map]
  simp only [again]

theorem fullPage_distinct : distinctChildren fullPage = 200 := by
  have wave : ((List.range 200).map fun index => "p.all.0." ++ toString index).Nodup :=
    List.nodup_range.map fun left right same => numbered_injective same
  have named : "p.all.0.0" ∈ (List.range 200).map fun index => "p.all.0." ++ toString index :=
    List.mem_map.mpr ⟨0, by simp, rfl⟩
  unfold distinctChildren
  rw [fullPage_children, firsts_append, firsts_eq_self wave, List.length_append, List.length_map,
    List.length_range]
  have nothing_new : (firsts ((List.range 199).flatMap fun _ => ["p.all.0.0"])).filter
      (fun id => decide (id ∉ (List.range 200).map fun index => "p.all.0." ++ toString index)) =
      [] := by
    rw [List.filter_eq_nil_iff]
    intro id listed
    rw [mem_firsts, List.mem_flatMap] at listed
    obtain ⟨_, _, same⟩ := listed
    rw [List.mem_singleton] at same
    rw [same]
    simpa using named
  rw [nothing_new]
  rfl

theorem fullPage_single :
    (fullPage.filter fun cp =>
      nameStartsWith childWaitPrefix cp.name || nameStartsWith spawnPrefix cp.name).length =
      199 := by
  have wave : ¬(nameStartsWith childWaitPrefix foldedWave.name ||
      nameStartsWith spawnPrefix foldedWave.name) = true := by decide
  have again : (nameStartsWith childWaitPrefix "spawn:p.all.0.0" ||
      nameStartsWith spawnPrefix "spawn:p.all.0.0") = true := by decide
  rw [fullPage, List.filter_cons, if_neg wave, List.filter_eq_self.mpr]
  · rw [List.length_map, List.length_range]
  · intro cp listed
    obtain ⟨index, -, rfl⟩ := List.mem_map.mp listed
    exact again

theorem fullPage_folded :
    (childIdsOf (fullPage.filter fun cp => isFoldedName cp.name)).length = 200 := by
  have wave : isFoldedName foldedWave.name = true := by decide
  have again : ¬isFoldedName "spawn:p.all.0.0" = true := by decide
  rw [fullPage, List.filter_cons, if_pos wave, List.filter_eq_nil_iff.mpr]
  · rw [childIdsOf, List.flatMap_cons, List.flatMap_nil, foldedWave_children, List.append_nil,
      List.length_map, List.length_range]
  · intro cp listed
    obtain ⟨index, -, rfl⟩ := List.mem_map.mp listed
    exact again

theorem aggregates_miss_detail :
    (InOrder twoStepFan ∧ ¬DetailAgrees twoStepFan .notANumber "steps:0:2" {}) ∧
      InOrder fullPage ∧ ¬DetailAgrees fullPage (.whole 50) "steps:0:2" {} := by
  have fan : InOrder twoStepFan := by simp [Ranked.Ordered, twoStepFan]
  refine ⟨⟨fan, ?_⟩, fullPage_ordered, ?_⟩
  · intro agrees
    exact (fans_notANumber_iff fan).mp agrees.fans ⟨_, List.mem_cons_self, by decide⟩
  · intro agrees
    have size : fullPage.length = summaryChildLimit := by
      rw [fullPage, List.length_cons, List.length_map, List.length_range]
      rfl
    -- The reading stops on the page that holds every checkpoint, and counts 399 children.
    have stops : StopsOnLastPage fullPage := by
      refine ⟨0, ?_, ?_, ?_⟩
      · rw [fullPage_edges, size]
        rfl
      · rw [Nat.mul_zero, List.take_zero]
        decide
      · rw [fullPage_distinct]
        decide
    have counted : countedChildren fullPage = 399 := by
      unfold countedChildren
      rw [fullPage_single, fullPage_folded]
    apply agrees.counts fullPage_ordered
    refine ⟨stops, ?_⟩
    rw [counted, fullPage_distinct]
    decide

end Durable
