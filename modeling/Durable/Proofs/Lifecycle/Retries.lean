import Durable.Proofs.Lifecycle.RetryKeys

/-! Runs that are fixed and replayed: exactly when they stand on their own. -/

namespace Durable.Retries

open Interleaving (Table)

section Cancelled

variable (localeCompare : String → String → Ordering) (workflows : Workflows)
  {runs : SingletonStore} {run : SingletonRun} {newRunId : String} {runId : String} {clock : Nat}

/-- A run that has just been created is cancelled, and nobody subscribes to that. -/
def cancel (newRunId : String) : LaterOp :=
  .settle newRunId [.pending, .suspended] (.cancelled { message := "cancelled" })
    { subscribers := [], fleetRead := true, traceparent := none } 0

/-- What waking others leaves of a run. -/
structure SameBut (run later : SingletonRun) : Prop where
  workflow : later.workflow = run.workflow
  status : later.status = run.status
  tags : later.tags = run.tags

theorem woken_get (woken : List String) (stored : runs.get runId = some run) :
    ∃ later, (woken.foldl (fun runs runId =>
        patchRun runs runId { wakeAt := some (some clock) }) runs).get runId = some later ∧
      SameBut run later := by
  induction woken generalizing runs run with
  | nil => exact ⟨run, stored, rfl, rfl, rfl⟩
  | cons other woken ih =>
    have next : ∃ middle, (patchRun runs other { wakeAt := some (some clock) }).get runId =
        some middle ∧ SameBut run middle := by
      unfold patchRun
      split
      · exact ⟨run, stored, rfl, rfl, rfl⟩
      · rename_i found there
        rw [Table.get_set]
        split
        · rename_i same
          subst same
          rw [stored, Option.some.injEq] at there
          subst there
          exact ⟨_, rfl, rfl, rfl, rfl⟩
        · exact ⟨run, stored, rfl, rfl, rfl⟩
    obtain ⟨middle, there, same⟩ := next
    obtain ⟨later, last, kept⟩ := ih there
    exact ⟨later, last, kept.workflow.trans same.workflow, kept.status.trans same.status,
      kept.tags.trans same.tags⟩

theorem wakeNext_get {settled : SingletonRun} (stored : runs.get runId = some run) :
    ∃ later, (wakeNext localeCompare workflows runs settled clock).1.get runId = some later ∧
      SameBut run later := by
  unfold wakeNext
  split
  · exact woken_get _ stored
  · exact ⟨run, stored, rfl, rfl, rfl⟩

theorem cancelled_get (stored : runs.get newRunId = some run)
    (fresh : run.status = .pending ∨ run.status = .suspended)
    (unreserved : ∀ tag ∈ run.tags, tag ∉ singletonReservedTags) :
    ∃ later, ((cancel newRunId).apply localeCompare workflows runs).1.get newRunId =
        some later ∧
      later.workflow = run.workflow ∧ later.status = .cancelled ∧ later.tags = run.tags := by
  have expected : [RunStatus.pending, .suspended].contains run.status = true := by
    rcases fresh with same | same
    · rw [same]
      rfl
    · rw [same]
      rfl
  have unmarked (run : SingletonRun) : withLifecycleMarker
      { subscribers := [], fleetRead := true, traceparent := none } run = none := by
    unfold withLifecycleMarker
    simp
  -- Ending the run keeps its tags, for it has no slot to give back.
  have kept : run.tags.filter (· ∉ singletonReservedTags) = run.tags := by
    rw [List.filter_eq_self]
    intro tag listed
    exact decide_eq_true (unreserved tag listed)
  simp only [cancel, LaterOp.apply, settle, stored, expected, if_true]
  unfold patchRun
  rw [stored]
  obtain ⟨later, last, same⟩ :=
    wakeNext_get localeCompare workflows (Table.get_set_self runs newRunId _)
  refine ⟨later, last, same.workflow.trans rfl, same.status.trans rfl, ?_⟩
  rw [same.tags, unmarked]
  exact kept

end Cancelled

section Pruned

variable {runs : SingletonStore} {pass : RetentionPass} {runId : String}

theorem mem_pruned (distinct : runs.Distinct) :
    runId ∈ (prune runs pass).2 ↔ ∃ run, runs.get runId = some run ∧
      pass.statuses.contains run.status = true ∧ pass.tag.all (run.tags.contains ·) = true ∧
      pass.old runId = true ∧ Retention.retentionKeeps run.tags = false ∧
      run.workflow ≠ Retention.lifecycleRegistryWorkflow := by
  unfold prune
  dsimp only
  simp only [List.mem_map, List.mem_filter, Bool.and_eq_true, Bool.not_eq_true',
    Bool.or_eq_false_iff, beq_eq_false_iff_ne]
  constructor
  · rintro ⟨row, ⟨⟨listed, ⟨status, tag⟩, old⟩, kept, other⟩, rfl⟩
    exact ⟨row.2, distinct.mem_rows_iff.mp listed, status, tag, old, kept, other⟩
  · rintro ⟨run, stored, status, tag, old, kept, other⟩
    exact ⟨(runId, run), ⟨⟨distinct.mem_rows_iff.mpr stored, ⟨status, tag⟩, old⟩, kept, other⟩,
      rfl⟩

end Pruned

section Published

variable {runs : SingletonStore} {run : SingletonRun} {runId : String}

/-- An instance at which one workflow subscribes to an ending. -/
def listener : Audience where
  fleetRead := true
  subscribers := ["mail"]
  registered := ["mail"]
  remote := []
  announced := []
  overdue := false
  delivery _ := .declined

theorem published_event (plain : ∀ tag ∈ run.tags, isLifecycleTag tag = false) :
    (publicationOf listener { republish := true } run).event = some (lifecycleEventOf run) := by
  have uncoalesced : coalescedSubscribersOf run.tags = [] := by
    unfold coalescedSubscribersOf subscribersTagged
    rw [List.map_eq_nil_iff, List.filter_eq_nil_iff]
    intro tag listed coalesced
    have lifecycle : isLifecycleTag tag = true := by
      unfold isLifecycleTag
      simp [coalesced]
    rw [plain tag listed] at lifecycle
    cases lifecycle
  unfold publicationOf
  simp [publishPlan, listener, Audience.here, uncoalesced]

theorem lifecycleEventOf_tags (plain : ∀ tag ∈ run.tags, isLifecycleTag tag = false) :
    (lifecycleEventOf run).tags = run.tags := by
  unfold lifecycleEventOf
  rw [List.filter_eq_self]
  intro tag listed
  rw [plain tag listed]
  rfl

end Published

section Alike

variable (localeCompare : String → String → Ordering) (workflows : Workflows)

/-- Every later history has the same answers from the one runs as from the others. -/
def Alike (runs others : SingletonStore) : Prop :=
  ∀ history, answers localeCompare workflows runs history =
    answers localeCompare workflows others history

variable {localeCompare workflows} {runs others : SingletonStore} {run : SingletonRun}
  {newRunId : String} {request : StartRequest} {reg : Registration}

theorem Alike.second (alike : Alike localeCompare workflows runs others) (first second : LaterOp) :
    (second.apply localeCompare workflows (first.apply localeCompare workflows runs).1).2 =
      (second.apply localeCompare workflows (first.apply localeCompare workflows others).1).2 := by
  have both := alike [first, second]
  simp only [answers, List.cons.injEq, and_true] at both
  exact both.2

/-- A pass over the runs that a fresh cancellation has left deletes the cancelled run exactly where
it has the tag that is asked for, and none that keeps it. -/
theorem mem_pruned_cancelled (localeCompare : String → String → Ordering) (workflows : Workflows)
    {runs : SingletonStore} (orderly : Orderly runs) (stored : runs.get newRunId = some run)
    (fresh : run.status = .pending ∨ run.status = .suspended)
    (unreserved : ∀ tag ∈ run.tags, tag ∉ singletonReservedTags)
    (named : run.workflow ≠ Retention.lifecycleRegistryWorkflow) (asked : Option String) :
    newRunId ∈ (prune ((cancel newRunId).apply localeCompare workflows runs).1
        { statuses := [.cancelled], tag := asked, old := fun _ => true }).2 ↔
      asked.all (run.tags.contains ·) = true ∧ Retention.retentionKeeps run.tags = false := by
  obtain ⟨later, last, workflow, status, tags⟩ :=
    cancelled_get localeCompare workflows stored fresh unreserved
  have distinct : ((cancel newRunId).apply localeCompare workflows runs).1.Distinct :=
    ((settle_quiet newRunId _ _ _ 0).orderly orderly).distinct
  rw [mem_pruned distinct]
  constructor
  · rintro ⟨other, there, -, tagged, -, kept, -⟩
    rw [last, Option.some.injEq] at there
    subst there
    rw [tags] at tagged kept
    exact ⟨tagged, kept⟩
  · rintro ⟨tagged, kept⟩
    refine ⟨later, last, ?_, ?_, rfl, ?_, ?_⟩
    · rw [status]
      rfl
    · rw [tags]
      exact tagged
    · rw [tags]
      exact kept
    · rw [workflow]
      exact named

theorem published_cancelled (localeCompare : String → String → Ordering) (workflows : Workflows)
    {runs : SingletonStore} (stored : runs.get newRunId = some run)
    (fresh : run.status = .pending ∨ run.status = .suspended)
    (unreserved : ∀ tag ∈ run.tags, tag ∉ singletonReservedTags)
    (plain : ∀ tag ∈ run.tags, isLifecycleTag tag = false) :
    ∃ publication event, ((LaterOp.publish newRunId listener { republish := true }).apply
        localeCompare workflows ((cancel newRunId).apply localeCompare workflows runs).1).2 =
        .published publication ∧
      publication.event = some event ∧ event.tags = run.tags := by
  obtain ⟨later, last, -, status, tags⟩ :=
    cancelled_get localeCompare workflows stored fresh unreserved
  have laterPlain : ∀ tag ∈ later.tags, isLifecycleTag tag = false := by
    rw [tags]
    exact plain
  have terminal : isTerminalStatus later.status = true := by
    rw [status]
    rfl
  refine ⟨publicationOf listener { republish := true } later, lifecycleEventOf later, ?_,
    published_event laterPlain, ?_⟩
  · show (publish ((cancel newRunId).apply localeCompare workflows runs).1 newRunId listener
      { republish := true }).2 = _
    unfold publish
    rw [last]
    dsimp only
    rw [if_pos terminal]
  · rw [lifecycleEventOf_tags laterPlain, tags]

/-- Two new runs of which every later history has the same answers have the same tags. -/
theorem Alike.tags (orderly : Orderly runs)
    (registered : workflows.latest request.workflow = some reg)
    (alike : Alike localeCompare workflows (runs.set request.runId (newRun reg request))
      (runs.set request.runId (newRun reg request.fresh))) :
    (newRun reg request).tags = (newRun reg request.fresh).tags := by
  have named : request.workflow ≠ Retention.lifecycleRegistryWorkflow := by
    intro same
    rw [same, workflows.unregistered] at registered
    cases registered
  have unreserved (request : StartRequest) : ∀ tag ∈ (newRun reg request).tags,
      tag ∉ singletonReservedTags := by
    intro tag listed reserved
    have kept := ((mem_newRun_tags reg).mp listed).2
    unfold isStripped at kept
    simp [reserved] at kept
  -- Each is cancelled, and a pass asks for it by a tag.
  have retried := mem_pruned_cancelled localeCompare workflows
    (Orderly.created orderly reg request) (Table.get_set_self runs request.runId _)
    (newRun_status reg request) (unreserved request) named
  have fresh := mem_pruned_cancelled localeCompare workflows
    (Orderly.created orderly reg request.fresh) (Table.get_set_self runs request.runId _)
    (newRun_status reg request.fresh) (unreserved request.fresh) named
  have passes (asked : Option String) :
      (asked.all ((newRun reg request).tags.contains ·) = true ∧
        Retention.retentionKeeps (newRun reg request).tags = false) ↔
      (asked.all ((newRun reg request.fresh).tags.contains ·) = true ∧
        Retention.retentionKeeps (newRun reg request.fresh).tags = false) := by
    have both := alike.second (cancel request.runId)
      (.prune { statuses := [.cancelled], tag := asked, old := fun _ => true })
    simp only [LaterOp.apply, Answer.pruned.injEq] at both
    rw [← retried asked, ← fresh asked]
    exact iff_of_eq (congrArg (request.runId ∈ ·) both)
  have freshKept : Retention.retentionKeeps (newRun reg request.fresh).tags = false := by
    apply retentionKeeps_eq_false
    intro tag listed
    exact (fresh_tags reg listed).imp_right isKeyTag_of_minted
  have kept : Retention.retentionKeeps (newRun reg request).tags = false :=
    ((passes none).mpr ⟨rfl, freshKept⟩).2
  -- So the two have the same tags, and neither a lifecycle tag.
  have subset : ∀ tag ∈ (newRun reg request).tags, tag ∈ (newRun reg request.fresh).tags := by
    intro tag listed
    have found := ((passes (some tag)).mp ⟨List.contains_iff_mem.mpr listed, kept⟩).1
    exact List.contains_iff_mem.mp found
  have freshPlain : ∀ tag ∈ (newRun reg request.fresh).tags, isLifecycleTag tag = false := by
    intro tag listed
    rw [← Bool.not_eq_true]
    intro lifecycle
    rcases fresh_tags reg listed with label | minted
    · rw [isEngineTag_of_lifecycle lifecycle] at label
      cases label
    · have key := isKeyTag_of_minted minted
      rw [not_key_of_lifecycle lifecycle] at key
      cases key
  have plain : ∀ tag ∈ (newRun reg request).tags, isLifecycleTag tag = false :=
    fun tag listed => freshPlain tag (subset tag listed)
  -- Then the event of each says its tags, in their order.
  obtain ⟨one, event, answered, published, tags⟩ := published_cancelled localeCompare workflows
    (Table.get_set_self runs request.runId (newRun reg request)) (newRun_status reg request)
    (unreserved request) plain
  obtain ⟨other, event', answered', published', tags'⟩ :=
    published_cancelled localeCompare workflows
      (Table.get_set_self runs request.runId (newRun reg request.fresh))
      (newRun_status reg request.fresh) (unreserved request.fresh) freshPlain
  have both := alike.second (cancel request.runId)
    (.publish request.runId listener { republish := true })
  have same : one = other := by
    rw [answered, answered'] at both
    exact Answer.published.inj both
  rw [same, published', Option.some.injEq] at published
  rw [← tags, ← tags', published]

theorem newRun_eq (same : (newRun reg request).tags = (newRun reg request.fresh).tags) :
    newRun reg request = newRun reg request.fresh := by
  have row (request : StartRequest) : newRun reg request =
      { newRun reg { request with tags := [] } with tags := (newRun reg request).tags } := by
    unfold newRun startedRun
    cases request.startAt with
    | none => rfl
    | some startAt => rfl
  rw [row request, row request.fresh, same]
  rfl

end Alike

section Retried

variable {localeCompare : String → String → Ordering} [Std.TransCmp localeCompare]

/-- A run that was started with the tags of another stands on its own exactly where the engine's
tags among them are the first of its own: then every later history has the same answers as after a
start with the user's tags alone, and neither run is counted for the keys that the other had. -/
theorem retry_stands_alone_iff (workflows : Workflows) {runs : SingletonStore}
    (orderly : Orderly runs) {runId : String} {run : SingletonRun}
    (stored : runs.get runId = some run) {reg : Registration}
    (registered : workflows.latest run.workflow = some reg) (input : Option Value)
    (newRunId : String) (now : Nat) {status : RunStatus}
    (created : (retryWithInput workflows runs runId input newRunId now).2 =
      some (.started status)) :
    let request := retryRequest run input newRunId now
    let retried := (retryWithInput workflows runs runId input newRunId now).1
    let fresh := (startCore workflows runs request.fresh).1
    (Alike localeCompare workflows retried fresh ∧
      ∀ history : List LaterOp, (∀ op ∈ history, ¬ op.Starts newRunId) →
        ∀ tag ∈ run.tags, isKeyTag tag = true → tag ∉ request.minted reg →
          Uncounted localeCompare newRunId tag (after localeCompare workflows retried history) ∧
          Uncounted localeCompare newRunId tag (after localeCompare workflows fresh history)) ↔
      StandsAlone reg request := by
  intro request retried fresh
  have started : (startCore workflows runs request).2 = .started status := by
    simp only [retryWithInput, stored, Option.some.injEq] at created
    exact created
  have allowed : Allowed reg runs request := allowed_of_started registered started
  have retriedRuns : retried = runs.set newRunId (newRun reg request) := by
    have rows : retried = (startCore workflows runs request).1 := by
      show (retryWithInput workflows runs runId input newRunId now).1 = _
      simp only [retryWithInput, stored]
      rfl
    rw [rows]
    exact startCore_allowed registered allowed
  have freshRuns : fresh = runs.set newRunId (newRun reg request.fresh) :=
    startCore_allowed registered allowed.fresh
  rw [retriedRuns, freshRuns]
  constructor
  · rintro ⟨alike, -⟩
    exact (newRun_tags_eq_iff reg request).mp (Alike.tags orderly registered alike)
  · intro alone
    rw [newRun_eq ((newRun_tags_eq_iff reg request).mpr alone)]
    have guarded : Guarded newRunId (request.minted reg)
        (runs.set newRunId (newRun reg request.fresh)) := by
      refine ⟨Orderly.created orderly reg request.fresh, ?_⟩
      intro row there tag listed key
      rw [Table.get_set_self, Option.some.injEq] at there
      subst there
      rcases fresh_tags reg listed with label | minted
      · rw [isEngineTag_of_key key] at label
        cases label
      · exact minted
    refine ⟨fun history => rfl, ?_⟩
    intro history others tag _ key unminted
    have later : Guarded newRunId (request.minted reg) (after localeCompare workflows
        (runs.set newRunId (newRun reg request.fresh)) history) := guarded.after others
    exact ⟨later.uncounted key unminted, later.uncounted key unminted⟩

end Retried

section Imports

def importing : Registration where
  singleton := some { key := fun input => if input = some (.str "acme") then "acme" else "other" }
  labels _ listed := absurd listed List.not_mem_nil

def imports : Workflows where
  latest workflow := if workflow = "import" then some importing else none
  unregistered := by decide +kernel

def failedImport (tags : List String) : SingletonRun where
  id := "import"
  workflow := "import"
  status := .failed
  input := some (.str "acme")
  tags := tags
  createdAt := 0

def failedImports (tags : List String) : SingletonStore :=
  Table.empty.set "import" (failedImport tags)

theorem failedImports_orderly (tags : List String) : Orderly (failedImports tags) where
  distinct := Table.Distinct.set Table.distinct_empty _ _
  keyed runId run stored := by
    unfold failedImports at stored
    rw [Table.get_set] at stored
    split at stored
    · rename_i same
      cases stored
      exact same
    · cases stored

/-- An import is executed that was replayed, and then one for the account that it had before. -/
def importedAgain : List LaterOp :=
  [.execute "again" 0,
    .start { workflow := "import", input := some (.str "acme"), runId := "next", now := 2 },
    .execute "next" 0]

/-- An import that is replayed for the same account stands on its own. -/
theorem same_account_stands_alone :
    let runs := failedImports ["team:blue", "singleton:acme"]
    let request :=
      retryRequest (failedImport ["team:blue", "singleton:acme"]) (some (.str "acme")) "again" 1
    Alike compare imports (retryWithInput imports runs "import" (some (.str "acme")) "again" 1).1
      (startCore imports runs request.fresh).1 := by
  intro runs request
  have alone : StandsAlone importing request :=
    ⟨["singleton:acme"], List.prefix_refl _, by decide +kernel⟩
  have started : (retryWithInput imports runs "import" (some (.str "acme")) "again" 1).2 =
      some (.started .pending) := by
    decide +kernel
  exact ((retry_stands_alone_iff imports (failedImports_orderly _) (Table.get_set_self _ _ _) rfl
    (some (.str "acme")) "again" 1 started).mpr alone).1

/-- An import that is replayed for another account holds up the imports of the account that it had
before: it does not stand on its own. -/
theorem replay_holds_up_old_key :
    let runs := failedImports ["team:blue", "singleton:acme"]
    let request :=
      retryRequest (failedImport ["team:blue", "singleton:acme"]) (some (.str "beta")) "again" 1
    (retryWithInput imports runs "import" (some (.str "beta")) "again" 1).2 =
        some (.started .pending) ∧
      ¬ Alike compare imports
        (retryWithInput imports runs "import" (some (.str "beta")) "again" 1).1
        (startCore imports runs request.fresh).1 := by
  intro runs request
  constructor
  · decide +kernel
  · intro alike
    have both := alike importedAgain
    revert both
    decide +kernel

end Imports

end Durable.Retries
