import Durable.Proofs.Detail.Fans

/-! The children a summarized detail lists and counts, read a page of checkpoints at a time. -/

namespace Durable

open Grouping

def recordsChild (cp : TimelineStep) : Bool := childEdgePrefixes.any (nameStartsWith · cp.name)

/-- The checkpoints that record a child. -/
def childEdges (checkpoints : List TimelineStep) : List TimelineStep :=
  checkpoints.filter recordsChild

/-- How many children some checkpoints name, each counted once. -/
def distinctChildren (checkpoints : List TimelineStep) : Nat :=
  (firsts (childIdsOf checkpoints)).length

theorem childIdsOf_edges (checkpoints : List TimelineStep) :
    childIdsOf (childEdges checkpoints) = childIdsOf checkpoints := by
  induction checkpoints with
  | nil => rfl
  | cons cp rest ih =>
    unfold childEdges childIdsOf at *
    by_cases edge : recordsChild cp
    · rw [List.filter_cons_of_pos edge, List.flatMap_cons, List.flatMap_cons, ih]
    · -- Such a name has none of the three openings.
      have named : childIdsIn cp = [] := by
        simp only [recordsChild, childEdgePrefixes, List.any_cons, List.any_nil, Bool.or_false,
          Bool.or_eq_true, not_or, Bool.not_eq_true] at edge
        have folded : isFoldedName cp.name = false := edge.2.1
        simp [childIdsIn, edge.1, folded, edge.2.2]
      rw [List.filter_cons_of_neg edge, List.flatMap_cons, named, ih, List.nil_append]

theorem distinctChildren_take (edges : List TimelineStep) {fewer more : Nat} (least : fewer ≤ more) :
    distinctChildren (edges.take fewer) ≤ distinctChildren (edges.take more) := by
  have split : edges.take more = edges.take fewer ++ (edges.drop fewer).take (more - fewer) := by
    rw [← List.take_add]
    congr 1
    omega
  rw [split]
  unfold distinctChildren childIdsOf
  rw [List.flatMap_append, firsts_append, List.length_append]
  omega

/-- The last page of checkpoints that record a child is full, and the first to make enough children
known: the reading stops there without having seen that nothing is left. -/
def StopsOnLastPage (checkpoints : List TimelineStep) : Prop :=
  ∃ pages, (childEdges checkpoints).length = summaryChildLimit * (pages + 1) ∧
    distinctChildren ((childEdges checkpoints).take (summaryChildLimit * pages)) <
      summaryChildLimit ∧
    summaryChildLimit ≤ distinctChildren checkpoints

/-- The children counted without telling repeats: one for each checkpoint that records one child,
and those of the folded checkpoints. -/
def countedChildren (checkpoints : List TimelineStep) : Nat :=
  (checkpoints.filter fun cp =>
    nameStartsWith childWaitPrefix cp.name || nameStartsWith spawnPrefix cp.name).length +
    (childIdsOf (checkpoints.filter fun cp => isFoldedName cp.name)).length

theorem childEdges_eq_nil {checkpoints : List TimelineStep}
    (uncounted : ¬(0 < edgeRows (checkpointStatsOf checkpoints none) ∨
      (checkpointStatsOf checkpoints none).any (·.nameKind = .folded))) :
    childEdges checkpoints = [] := by
  obtain ⟨single, folded⟩ := not_or.mp uncounted
  have rows := rowCount_stats checkpoints none
    fun key => key.nameKind = .child || key.nameKind = .spawn
  have groups := any_stats checkpoints none fun key => decide (key.nameKind = .folded)
  rw [edgeRows, rows] at single
  rw [groups] at folded
  have none_single := List.eq_nil_of_length_eq_zero (Nat.eq_zero_of_not_pos single)
  rw [List.filter_eq_nil_iff] at none_single
  unfold childEdges
  rw [List.filter_eq_nil_iff]
  intro cp listed edge
  simp only [recordsChild, childEdgePrefixes, List.any_cons, List.any_nil, Bool.or_false,
    Bool.or_eq_true] at edge
  rcases edge with child | fold | spawn
  · apply none_single cp listed
    simp [inGroup, bucketKey, (nameKind_child cp.name).mpr child]
  · apply folded
    rw [List.any_eq_true]
    refine ⟨cp, List.mem_filter.mpr ⟨listed, rfl⟩, ?_⟩
    exact decide_eq_true ((nameKind_folded cp.name).mpr fold)
  · apply none_single cp listed
    simp [inGroup, bucketKey, (nameKind_spawn cp.name).mpr spawn]

theorem countedChildren_eq (checkpoints : List TimelineStep) :
    (checkpoints.filter fun cp => isFoldedName cp.name).foldl
        (fun n cp => n + (childIdsOf [cp]).length)
        (edgeRows (checkpointStatsOf checkpoints none)) =
      countedChildren checkpoints := by
  have rows := rowCount_stats checkpoints none
    fun key => key.nameKind = .child || key.nameKind = .spawn
  have named : checkpoints.filter (fun cp => inGroup none cp &&
      (decide ((bucketKey cp).nameKind = .child) || decide ((bucketKey cp).nameKind = .spawn))) =
      checkpoints.filter fun cp =>
        nameStartsWith childWaitPrefix cp.name || nameStartsWith spawnPrefix cp.name := by
    apply List.filter_congr
    intro cp _
    rw [Bool.eq_iff_iff]
    simp [inGroup, bucketKey, nameKind_child, nameKind_spawn]
  have folded : ∀ (rows : List TimelineStep) (counted : Nat),
      rows.foldl (fun n cp => n + (childIdsOf [cp]).length) counted =
        counted + (childIdsOf rows).length := by
    intro rows
    induction rows with
    | nil =>
      intro counted
      rfl
    | cons cp rest ih =>
      intro counted
      rw [List.foldl_cons, ih]
      simp only [childIdsOf, List.flatMap_cons, List.flatMap_nil, List.append_nil,
        List.length_append]
      omega
  rw [folded, edgeRows, rows, named]
  rfl

section Pages

variable {checkpoints : List TimelineStep} (ordered : InOrder checkpoints)

include ordered

theorem childEdgePage_eq (offset : Nat) :
    childEdgePage checkpoints offset =
      ((childEdges checkpoints).drop offset).take summaryChildLimit := by
  have chosen : checkpoints.filter
      (CheckpointQuery.selects
        { namePrefixes := some childEdgePrefixes, offset, limit := some summaryChildLimit }) =
      childEdges checkpoints := by
    apply List.filter_congr
    intro cp _
    simp [CheckpointQuery.selects, recordsChild]
  rw [childEdgePage, query_eq ordered, chosen]
  rfl

/-- What the reading of the children has come to. -/
structure ReadsEdges (edges : List TimelineStep) (found : ChildIds) : Prop where
  ids : found.ids = firsts (childIdsOf (edges.take found.read))
  complete : found.complete = true → found.read = edges.length ∧
    ∃ pages, summaryChildLimit * pages ≤ edges.length ∧
      edges.length < summaryChildLimit * (pages + 1) ∧
      distinctChildren (edges.take (summaryChildLimit * pages)) < summaryChildLimit
  stopped : found.complete = false →
    ∃ pages, found.read = summaryChildLimit * (pages + 1) ∧ found.read ≤ edges.length ∧
      distinctChildren (edges.take (summaryChildLimit * pages)) < summaryChildLimit ∧
      summaryChildLimit ≤ found.ids.length

/-- The reading goes on page by page until a page is not full or enough children are known. -/
theorem firstChildIds_reads (left pages : Nat)
    (enough : (childEdges checkpoints).length ≤ summaryChildLimit * pages + left)
    (within : summaryChildLimit * pages ≤ (childEdges checkpoints).length)
    (few : distinctChildren ((childEdges checkpoints).take (summaryChildLimit * pages)) <
      summaryChildLimit) :
    ReadsEdges (childEdges checkpoints)
      (firstChildIds checkpoints (summaryChildLimit * pages)
        (firsts (childIdsOf ((childEdges checkpoints).take (summaryChildLimit * pages))))) := by
  induction left using Nat.strongRecOn generalizing pages with
  | ind left ih =>
    have positive : 0 < summaryChildLimit := by decide
    have next : summaryChildLimit * (pages + 1) =
        summaryChildLimit * pages + summaryChildLimit := Nat.mul_succ _ _
    -- What is known after the page is what the checkpoints up to its end name.
    have upTo : (childEdges checkpoints).take (summaryChildLimit * (pages + 1)) =
        (childEdges checkpoints).take (summaryChildLimit * pages) ++
          childEdgePage checkpoints (summaryChildLimit * pages) := by
      rw [childEdgePage_eq ordered, next, List.take_add]
    have known : (childIdsOf (childEdgePage checkpoints (summaryChildLimit * pages))).foldl
          (fun seen item => if item ∈ seen then seen else seen ++ [item])
          (firsts (childIdsOf ((childEdges checkpoints).take (summaryChildLimit * pages)))) =
        firsts (childIdsOf ((childEdges checkpoints).take (summaryChildLimit * (pages + 1)))) := by
      rw [upTo]
      unfold firsts childIdsOf
      rw [List.flatMap_append, List.foldl_append]
    have size : (childEdgePage checkpoints (summaryChildLimit * pages)).length =
        min summaryChildLimit ((childEdges checkpoints).length - summaryChildLimit * pages) := by
      rw [childEdgePage_eq ordered, List.length_take, List.length_drop]
    rw [firstChildIds]
    simp only [known, size]
    by_cases short : min summaryChildLimit
        ((childEdges checkpoints).length - summaryChildLimit * pages) < summaryChildLimit
    · -- The page is not full: it is the last.
      have read : summaryChildLimit * pages + min summaryChildLimit
          ((childEdges checkpoints).length - summaryChildLimit * pages) =
          (childEdges checkpoints).length := by omega
      rw [if_pos short, read]
      constructor
      · rw [List.take_of_length_le (by omega), List.take_length]
      · intro _
        exact ⟨rfl, pages, within, by omega, few⟩
      · intro stopped
        cases stopped
    · have read : summaryChildLimit * pages + min summaryChildLimit
          ((childEdges checkpoints).length - summaryChildLimit * pages) =
          summaryChildLimit * (pages + 1) := by omega
      rw [if_neg short, read]
      by_cases many : summaryChildLimit ≤
          (firsts (childIdsOf
            ((childEdges checkpoints).take (summaryChildLimit * (pages + 1))))).length
      · -- The page is full, and enough children are known.
        rw [if_pos many]
        constructor
        · rfl
        · intro complete
          cases complete
        · intro _
          have within : summaryChildLimit * (pages + 1) ≤ (childEdges checkpoints).length := by omega
          exact ⟨pages, rfl, within, few, many⟩
      · -- One more page is read.
        rw [if_neg many, ← next]
        apply ih (left - summaryChildLimit) (by omega) (pages + 1)
        · omega
        · omega
        · exact Nat.lt_of_not_le many

theorem childrenRead_reads :
    ReadsEdges (childEdges checkpoints)
      (childrenRead checkpoints (checkpointStatsOf checkpoints none)) := by
  unfold childrenRead
  by_cases counted : 0 < edgeRows (checkpointStatsOf checkpoints none) ∨
      (checkpointStatsOf checkpoints none).any (·.nameKind = .folded)
  · rw [if_pos counted]
    have start := firstChildIds_reads ordered (childEdges checkpoints).length 0
      (by omega) (by omega) (by
        rw [Nat.mul_zero, List.take_zero]
        decide)
    exact start
  · rw [if_neg counted, childEdges_eq_nil counted]
    constructor
    · rfl
    · intro _
      exact ⟨rfl, 0, Nat.le_refl _, by decide, by decide⟩
    · intro stopped
      cases stopped

theorem children_eq :
    (childrenRead checkpoints (checkpointStatsOf checkpoints none)).ids.take summaryChildLimit =
      (firsts (childIdsOf checkpoints)).take summaryChildLimit := by
  have reads := childrenRead_reads ordered
  rw [← childIdsOf_edges checkpoints]
  generalize childrenRead checkpoints (checkpointStatsOf checkpoints none) = found at reads ⊢
  cases complete : found.complete with
  | true =>
    rw [reads.ids, (reads.complete complete).1, List.take_length]
  | false =>
    -- The children known are the first ones, and enough of them.
    obtain ⟨-, -, -, -, many⟩ := reads.stopped complete
    have all : firsts (childIdsOf (childEdges checkpoints)) =
        found.ids ++ (firsts (childIdsOf ((childEdges checkpoints).drop found.read))).filter
          (fun id => decide (id ∉ childIdsOf ((childEdges checkpoints).take found.read))) := by
      rw [reads.ids, ← firsts_append]
      unfold childIdsOf
      rw [← List.flatMap_append, List.take_append_drop]
    rw [all, List.take_append_of_le_length many]

/-- The reading stops short of knowing that everything was read on a full last page only. -/
theorem stopsOnLastPage_iff :
    StopsOnLastPage checkpoints ↔
      (childrenRead checkpoints (checkpointStatsOf checkpoints none)).complete = false ∧
        (childrenRead checkpoints (checkpointStatsOf checkpoints none)).read =
          (childEdges checkpoints).length := by
  have reads := childrenRead_reads ordered
  have positive : 0 < summaryChildLimit := by decide
  generalize childrenRead checkpoints (checkpointStatsOf checkpoints none) = found at reads ⊢
  constructor
  · rintro ⟨last, size, few, many⟩
    cases complete : found.complete with
    | true =>
      -- A page after the last is read only if too few children are known.
      obtain ⟨-, pages, reached, ends, fewer⟩ := reads.complete complete
      rw [size] at reached ends
      have above : last + 1 ≤ pages := by
        by_contra below
        have bound := Nat.mul_le_mul_left summaryChildLimit (show pages + 1 ≤ last + 1 by omega)
        omega
      have same : summaryChildLimit * pages = (childEdges checkpoints).length := by
        have bound := Nat.mul_le_mul_left summaryChildLimit above
        omega
      rw [same, List.take_length] at fewer
      unfold distinctChildren at fewer many
      rw [childIdsOf_edges] at fewer
      omega
    | false =>
      refine ⟨rfl, ?_⟩
      obtain ⟨pages, read, within, -, known⟩ := reads.stopped complete
      -- Enough children are not known before the last page.
      by_contra partly
      have before : pages + 1 ≤ last := by
        by_contra behind
        have bound := Nat.mul_le_mul_left summaryChildLimit (show last + 1 ≤ pages + 1 by omega)
        omega
      have fewer := distinctChildren_take (childEdges checkpoints)
        (Nat.mul_le_mul_left summaryChildLimit before)
      rw [reads.ids, read] at known
      unfold distinctChildren at few fewer
      omega
  · rintro ⟨stopped, all⟩
    obtain ⟨pages, read, -, few, known⟩ := reads.stopped stopped
    refine ⟨pages, all.symm.trans read, few, ?_⟩
    rw [reads.ids, all, List.take_length, childIdsOf_edges] at known
    exact known

theorem folded_eq :
    (if (checkpointStatsOf checkpoints none).any (·.nameKind = .folded) then
      queryCheckpointsOf checkpoints { namePrefixes := some [foldedPrefix] }
    else []) = checkpoints.filter fun cp => isFoldedName cp.name := by
  have there := any_stats checkpoints none fun key => decide (key.nameKind = .folded)
  rw [there]
  split
  · rw [query_eq ordered]
    simp only [Option.elim, List.drop_zero]
    apply List.filter_congr
    intro cp _
    simp [CheckpointQuery.selects, isFoldedName, nameStartsWith]
  · rename_i nowhere
    symm
    rw [List.filter_eq_nil_iff]
    intro cp listed folded
    apply nowhere
    rw [List.any_eq_true]
    exact ⟨cp, List.mem_filter.mpr ⟨listed, rfl⟩,
      decide_eq_true ((nameKind_folded cp.name).mpr folded)⟩

theorem childCount_iff (threshold : CallerNumber) :
    ((childrenRead checkpoints (checkpointStatsOf checkpoints none)).read =
          (childEdges checkpoints).length →
        (summarizeRunFromStore checkpoints threshold).childCount = distinctChildren checkpoints) ↔
      ¬(StopsOnLastPage checkpoints ∧
        countedChildren checkpoints ≠ distinctChildren checkpoints) := by
  have reads := childrenRead_reads ordered
  have stops := stopsOnLastPage_iff ordered
  have count : (summarizeRunFromStore checkpoints threshold).childCount =
      if (childrenRead checkpoints (checkpointStatsOf checkpoints none)).complete then
        (childrenRead checkpoints (checkpointStatsOf checkpoints none)).ids.length
      else countedChildren checkpoints := by
    rw [← countedChildren_eq, ← folded_eq ordered]
    rfl
  rw [count, stops]
  generalize childrenRead checkpoints (checkpointStatsOf checkpoints none) = found at reads ⊢
  cases complete : found.complete with
  | true =>
    have all : found.ids.length = distinctChildren checkpoints := by
      rw [reads.ids, (reads.complete complete).1, List.take_length, childIdsOf_edges]
      rfl
    simp [all]
  | false =>
    by_cases read : found.read = (childEdges checkpoints).length <;> simp [read]

end Pages

end Durable
