import Durable.Proofs.Retention.Sweep
import Durable.Retention.Sweep

/-! Deleting a run ends exactly where no run below it is below itself, and then it deletes what the
batch does. -/

namespace Durable.Retention

/-- Deleting a run ends, having deleted each run it reaches once, and as the batch does. -/
def DeletesReachable (store : RunStore) (runId : RunId) : Prop :=
  ∃ (fuel : Nat) (ids : List RunId) (after : RunStore), deleteRun fuel store runId =
      some (after, ids.length) ∧
    ids.Nodup ∧ (∀ run, run ∈ ids ↔ Graph.Reach store.getRunChildren store.hasRun runId run) ∧
      (∀ row, row ∈ after.runs ↔ row ∈ store.runs ∧ row.id ∉ ids) ∧
        deleteRunTrees store [runId] = (after, ids.length)

namespace RunStore

/-- The store without some runs. -/
def without (store : RunStore) (ids : List RunId) : RunStore :=
  (store.deleteRuns ids).sweepRunBufferedSignals ids

@[simp]
theorem without_nil (store : RunStore) : store.without [] = store := by
  simp [without, deleteRuns, sweepRunBufferedSignals]

theorem without_without (store : RunStore) (ids : List RunId) (id : RunId) :
    (store.without ids).without [id] = store.without (ids ++ [id]) := by
  unfold without deleteRuns sweepRunBufferedSignals
  simp only [List.filter_filter, RunStore.mk.injEq]
  refine ⟨?_, ?_, ?_, ?_⟩
  all_goals
    apply List.filter_congr
    intro entry _
    simp [Bool.and_comm]

theorem without_congr (store : RunStore) {first second : List RunId}
    (same : ∀ id, id ∈ first ↔ id ∈ second) : store.without first = store.without second := by
  unfold without deleteRuns sweepRunBufferedSignals
  have equal : ∀ id, decide (id ∉ first) = decide (id ∉ second) := fun id => by
    rw [decide_eq_decide, same]
  have each : ∀ holds : RunId → Bool, first.all holds = second.all holds := by
    intro holds
    rw [Bool.eq_iff_iff, List.all_eq_true, List.all_eq_true]
    exact forall_congr' fun id => by rw [same]
  simp only [equal, each]

theorem hasRun_without (store : RunStore) (ids : List RunId) (id : RunId) :
    (store.without ids).hasRun id = Graph.left store.hasRun ids id := by
  rw [Bool.eq_iff_iff, Graph.left_iff]
  simp only [hasRun, without, deleteRuns, sweepRunBufferedSignals, present, List.any_eq_true,
    List.mem_filter, decide_eq_true_eq, beq_iff_eq]
  constructor
  · intro found
    obtain ⟨row, ⟨member, spared⟩, rfl⟩ := found
    exact ⟨⟨row, member, rfl⟩, spared⟩
  · intro held
    obtain ⟨⟨row, member, rfl⟩, spared⟩ := held
    exact ⟨row, ⟨member, spared⟩, rfl⟩

theorem getRunChildren_without (store : RunStore) {ids : List RunId} {id : RunId}
    (spared : id ∉ ids) : (store.without ids).getRunChildren id = store.getRunChildren id := by
  have checkpoints : (store.without ids).checkpointsOf id = store.checkpointsOf id := by
    unfold checkpointsOf without deleteRuns sweepRunBufferedSignals
    rw [List.filter_filter]
    apply List.filter_congr
    intro cp _
    by_cases own : cp.runId = id
    · simp [own, spared]
    · simp [own]
  have waiters : (store.without ids).waitersOf id = store.waitersOf id := by
    unfold waitersOf without deleteRuns sweepRunBufferedSignals
    rw [List.filter_filter]
    apply List.filter_congr
    intro waiter _
    by_cases own : waiter.runId = id
    · simp [own, spared]
    · simp [own]
  unfold getRunChildren
  rw [checkpoints, waiters]

end RunStore

section Deleting

variable (store : RunStore)

def deletions (fuel : Nat) (removed : List RunId) (runId : RunId) : Option (List RunId) :=
  Graph.cascade store.getRunChildren store.hasRun fuel removed runId

theorem deleteRun_foldlM {fuel : Nat}
    (ih : ∀ (removed : List RunId) (runId : RunId),
      deleteRun fuel (store.without removed) runId =
        (deletions store fuel removed runId).map fun after =>
          (store.without after, after.length - removed.length))
    (base : Nat) (childIds : List RunId) : ∀ (removed : List RunId), base ≤ removed.length →
      childIds.foldlM
          (fun (state : RunStore × Nat) childId => do
            let (after, more) ← deleteRun fuel state.1 childId
            return (after, state.2 + more))
          (store.without removed, removed.length - base) =
        (childIds.foldlM (deletions store fuel) removed).map fun after =>
          (store.without after, after.length - base) := by
  induction childIds with
  | nil => exact fun removed _ => rfl
  | cons childId rest ih' =>
    intro removed longer
    rw [List.foldlM_cons, List.foldlM_cons]
    simp only [ih removed childId]
    cases ran : deletions store fuel removed childId with
    | none => rfl
    | some after =>
      have grown := Graph.cascade_length fuel ran
      have count : removed.length - base + (after.length - removed.length) =
          after.length - base := by omega
      simp only [Option.map_some, Option.bind_eq_bind, Option.bind_some, Option.pure_def, count]
      exact ih' after (Nat.le_trans longer grown)

theorem deleteRun_eq (fuel : Nat) : ∀ (removed : List RunId) (runId : RunId),
    deleteRun fuel (store.without removed) runId =
      (deletions store fuel removed runId).map fun after =>
        (store.without after, after.length - removed.length) := by
  induction fuel with
  | zero => exact fun _ _ => rfl
  | succ fuel ih =>
    intro removed runId
    unfold deleteRun deletions Graph.cascade
    rw [RunStore.hasRun_without]
    cases here : Graph.left store.hasRun removed runId with
    | false => simp
    | true =>
      have spared : runId ∉ removed := (Graph.left_iff.mp here).2
      have folded := deleteRun_foldlM store ih removed.length (store.getRunChildren runId) removed
        (Nat.le_refl _)
      rw [Nat.sub_self] at folded
      rw [RunStore.getRunChildren_without store spared]
      simp only [Bool.not_true, Bool.false_eq_true, if_false, if_true, folded]
      change _ = Option.map _ (Option.map _ (List.foldlM (deletions store fuel) removed
        (store.getRunChildren runId)))
      cases ran : List.foldlM (deletions store fuel) removed (store.getRunChildren runId) with
      | none => rfl
      | some below =>
        have grown : removed.length ≤ below.length :=
          Graph.foldlM_keeps (removed.length ≤ ·.length) _
            (fun _ _ _ _ held ran => Nat.le_trans held (Graph.cascade_length fuel ran))
            (Nat.le_refl _) ran
        have last := store.without_without below runId
        unfold RunStore.without at last ⊢
        simp only [Option.map_some, Option.bind_eq_bind, Option.bind_some, Option.pure_def,
          Option.some.injEq, Prod.mk.injEq, List.length_append, List.length_singleton]
        constructor
        · exact last
        · omega

/-- Deleting a run ends, and deletes the runs it reaches once each, as the batch of its tree does,
exactly where it reaches no run that is below itself. -/
theorem deleteRun_deletes_iff (runId : RunId) :
    DeletesReachable store runId ↔ ¬Circular store runId := by
  have all : ∀ node, store.hasRun node = true → node ∈ store.runs.map (·.id) := by
    intro node here
    simpa [RunStore.hasRun, present] using here
  have starts : ∀ fuel, deleteRun fuel store runId =
      (deletions store fuel [] runId).map fun after => (store.without after, after.length) := by
    intro fuel
    have whole := deleteRun_eq store fuel [] runId
    rwa [RunStore.without_nil] at whole
  unfold Circular
  rw [← Graph.cascade_ends_iff all]
  constructor
  · intro deleted
    obtain ⟨fuel, ids, after, ran, -⟩ := deleted
    rw [starts, Option.map_eq_some_iff] at ran
    obtain ⟨removed, ended, -⟩ := ran
    exact ⟨fuel, removed, ended⟩
  · intro ends
    obtain ⟨fuel, removed, ended⟩ := ends
    have reached := Graph.mem_cascade ended
    have once : removed.Nodup := Graph.cascade_nodup fuel List.nodup_nil ended
    refine ⟨fuel, removed, store.without removed, ?_, once, reached, ?_, ?_⟩
    · rw [starts]
      unfold deletions
      rw [ended]
      rfl
    · intro row
      simp [RunStore.without, RunStore.deleteRuns, RunStore.sweepRunBufferedSignals]
    · -- The batch collects the same runs, each of them once.
      have same : ∀ id, id ∈ runTrees ⟨store.runs, store.getRunChildren⟩ [runId] ↔
          id ∈ removed := by
        intro id
        rw [mem_runTrees, reached id]
        simp only [List.mem_singleton, exists_eq_left]
        rfl
      have counted : (runTrees ⟨store.runs, store.getRunChildren⟩ [runId]).length =
          removed.length := by
        have distinct : (runTrees ⟨store.runs, store.getRunChildren⟩ [runId]).Nodup :=
          Graph.postOrder_nodup _ _
        exact ((List.perm_ext_iff_of_nodup distinct once).mpr same).length_eq
      unfold deleteRunTrees
      dsimp only
      rw [counted]
      exact congrArg (·, removed.length) (store.without_congr same)

end Deleting

section Cycle

/-- The checkpoint in which a run records a child it started under an id of its own choice. -/
def spawnStep (runId childId : RunId) : TimelineStep :=
  { runId := runId, seq := 0, name := spawnPrefix ++ childId, kind := .local
    output := some (.str childId), enqueuedAt := 0, startedAt := 0, finishedAt := 0 }

def mutualRuns : RunStore :=
  { runs :=
      [{ id := "order", workflow := "order", status := .completed, createdAt := 0, updatedAt := 20 },
       { id := "audit", workflow := "audit", status := .completed, createdAt := 10
         updatedAt := 20 }]
    checkpoints := [spawnStep "order" "audit", spawnStep "audit" "order"] }

/-- Deleting one of two runs that started each other does not end. -/
theorem mutual_runs_never_deleted : ¬DeletesReachable mutualRuns "order" := by
  intro deleted
  obtain ⟨fuel, ids, after, ran, -⟩ := deleted
  have starts := deleteRun_eq mutualRuns fuel [] "order"
  rw [RunStore.without_nil, ran, eq_comm, Option.map_eq_some_iff] at starts
  obtain ⟨removed, ended, -⟩ := starts
  have acyclic := Graph.cascade_acyclic ended
  have first : Graph.Reach mutualRuns.getRunChildren mutualRuns.hasRun "order" "order" :=
    .root (by decide)
  have second : Graph.Reach mutualRuns.getRunChildren mutualRuns.hasRun "audit" "order" :=
    .child (.root (by decide)) (by decide +kernel) (by decide)
  rw [Graph.left_nil] at acyclic
  exact acyclic ⟨"order", "audit", first, by decide +kernel, second⟩

end Cycle

end Durable.Retention
