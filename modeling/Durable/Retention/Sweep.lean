import Durable.Codec.Memory
import Durable.Graph.PostOrder
import Durable.Lifecycle.Tags
import Mathlib.Data.List.Sort
import Durable.Detail.Aggregates
import Durable.Graph.Cascade

/-! The retention sweep: which settled runs it lists, which it keeps, and what it deletes; and the
deletion of a run with the runs below it. -/

namespace Durable.Retention

/-- The id of a run. -/
abbrev RunId := String

/-- What the sweep reads of a run's row. -/
structure RetainedRun where
  id : RunId
  workflow : String
  status : RunStatus
  namespace_ : Option String := none
  tags : List String := []
  createdAt : Int
  updatedAt : Int
deriving Repr, DecidableEq

/-- The runs a bulk operation is confined to; an absent field narrows nothing. -/
structure RunScope where
  workflow : Option String := none
  workflows : Option (List String) := none
  tag : Option String := none
  tags : Option (List String) := none
  namespace_ : Option String := none
  namespaces : Option (List String) := none
  /-- Whether a run meets the predicates on its search attributes. -/
  attributes : RunId → Bool := fun _ => true

/-- What a listing of runs asks for. -/
structure RunQuery extends RunScope where
  excludeWorkflows : List String := []
  statuses : Option (List RunStatus) := none
  createdBefore : Option Int := none
  updatedBefore : Option Int := none
  page : Option Int := none
  size : Option Nat := none

/-- The workflow of the rows in which engines announce their subscriptions. -/
def lifecycleRegistryWorkflow : String := "__lifecycle_registry"

/-- The tag of such a row. -/
def lifecycleRegistryTag : String := "durable:lifecycle:registry"

/-- `namespaceMatches`: whether a stored namespace is the one asked for. -/
def namespaceMatches (stored : Option String) (asked : String) : Bool :=
  normalizeNamespace stored == normalizeNamespace (some asked)

/-- Whether a run is one of those a query asks for. -/
def RunQuery.selects (query : RunQuery) (run : RetainedRun) : Bool :=
  -- An empty workflow name is read like an absent one.
  query.workflow.all (fun name => name.isEmpty || run.workflow == name) &&
  query.workflows.all (·.contains run.workflow) &&
  !query.excludeWorkflows.contains run.workflow &&
  query.namespace_.all (namespaceMatches run.namespace_) &&
  query.namespaces.all (·.any (namespaceMatches run.namespace_)) &&
  query.statuses.all (·.contains run.status) &&
  query.tag.all (fun tag => tag.isEmpty || run.tags.contains tag) &&
  query.tags.all (fun tags => run.tags.any tags.contains) &&
  query.createdBefore.all (fun before => decide (run.createdAt ≤ before)) &&
  query.updatedBefore.all (fun before => decide (run.updatedAt ≤ before)) &&
  query.attributes run.id

/-- `runPageWindow`: how many rows a query skips, and how many it takes. -/
def runPageWindow (query : RunQuery) : Nat × Option Nat :=
  match query.size with
  | none => (0, none)
  | some size => ((max 1 (query.page.getD 1) - 1).toNat * size, some size)

/-- The runs a query selects, those created last first. -/
def listed (query : RunQuery) (runs : List RetainedRun) : List RetainedRun :=
  (runs.filter query.selects).insertionSort fun first second => second.createdAt ≤ first.createdAt

/-- The page of runs a query asks for. -/
def listRuns (query : RunQuery) (runs : List RetainedRun) : List RetainedRun :=
  let (offset, limit) := runPageWindow query
  let rest := (listed query runs).drop offset
  limit.elim rest rest.take

/-- A query that leaves out the rows engines keep for themselves, unless it names them. -/
def withoutBookkeepingRuns (query : RunQuery) : RunQuery :=
  if query.workflow == some lifecycleRegistryWorkflow ||
      query.workflows.any (·.contains lifecycleRegistryWorkflow) ||
      query.excludeWorkflows.contains lifecycleRegistryWorkflow then query
  else { query with excludeWorkflows := query.excludeWorkflows ++ [lifecycleRegistryWorkflow] }

/-- `retentionKeeps`: whether the tags of a run keep it. -/
def retentionKeeps (tags : List String) : Bool :=
  tags.contains lifecyclePendingTag || tags.contains lifecycleRegistryTag

/-- Whether the sweep passes over a run it lists. -/
def kept (run : RetainedRun) : Bool :=
  retentionKeeps run.tags || run.workflow == lifecycleRegistryWorkflow

/-- A retention rule confined to a scope. -/
structure ScopedRetentionPolicy where
  statuses : List RunStatus
  maxAgeMs : Option Int := none
  maxCount : Option Int := none
  scope : RunScope := {}

/-- How an engine is set up for retention. -/
structure RetentionConfig where
  retention : Option (RunStatus → Option Int) := none
  retentionPolicies : List ScopedRetentionPolicy := []
  eventBufferTtlMs : Option Int := none
  namespace_ : Option String := none
  evictListeners : Nat := 0

/-- The statuses of runs that have ended. -/
def terminalRunStatuses : List RunStatus := [.completed, .failed, .cancelled, .dead]

/-- The page size of a pass. -/
def passSize : Nat := 100

/-- The pause between two sweeps of an engine. -/
def sweepPauseMs : Int := 60000

section Passes

variable (config : RetentionConfig) (runs : List RetainedRun) (now : Int)

/-- The passes for the ages of the statuses. -/
def statusPasses : List RunQuery :=
  terminalRunStatuses.filterMap fun status =>
    match config.retention.bind (· status) with
    | none => none
    | some maxAgeMs =>
      if maxAgeMs ≤ 0 then none
      else some { statuses := some [status], namespace_ := config.namespace_
                  updatedBefore := some (now - maxAgeMs) }

/-- The passes of one policy. -/
def policyPasses (policy : ScopedRetentionPolicy) : List RunQuery :=
  let statuses := policy.statuses.filter terminalRunStatuses.contains
  let byAge := policy.maxAgeMs.filter (0 < ·)
  let byCount := policy.maxCount.filter (0 ≤ ·)
  if statuses.isEmpty || (byAge.isNone && byCount.isNone) then []
  -- An engine with a namespace sweeps no other one.
  else if config.namespace_.any fun own => policy.scope.namespace_.any (· != own) then []
  else
    let base : RunQuery :=
      { policy.scope with
        namespace_ := policy.scope.namespace_.or config.namespace_
        statuses := some statuses }
    let aged := byAge.toList.map fun maxAgeMs => { base with updatedBefore := some (now - maxAgeMs) }
    let counted := byCount.toList.flatMap fun maxCount =>
      if maxCount = 0 then [base]
      else
        -- The last run kept marks the cutoff, and a run created with it stays.
        let lastKept := listRuns
          (withoutBookkeepingRuns { base with page := some maxCount, size := some 1 }) runs
        lastKept.head?.toList.map fun last =>
          { base with createdBefore := some (last.createdAt - 1) }
    aged ++ counted

/-- The passes of one sweep. -/
def passes : List RunQuery :=
  statusPasses config now ++ config.retentionPolicies.flatMap (policyPasses config runs now)

end Passes

/-- What a pass meets outside the engine. -/
structure PassWorld where
  /-- Whether a run's checkpoints are read and every archival hook succeeds for it. -/
  archives : RunId → Bool := fun _ => true
  /-- How many runs the store still deletes where its delete fails. -/
  failsAfter : Option Nat := none

/-- What the sweep reads and deletes from. -/
structure RetentionStore where
  runs : List RetainedRun
  /-- The children of a run, as its waiters and its checkpoints name them. -/
  getRunChildren : RunId → List RunId

/-- Whether a run has a row. -/
def present (runs : List RetainedRun) (id : RunId) : Bool := runs.any (·.id == id)

/-- `deleteRunTrees`: the runs below some roots, each after its children. -/
def runTrees (store : RetentionStore) (rootIds : List RunId) : List RunId :=
  Graph.postOrder store.getRunChildren (present store.runs) (store.runs.length + 1) rootIds

/-- What a pass found, and what it left. -/
structure PassReport where
  before : List RetainedRun
  query : RunQuery
  world : PassWorld
  /-- The runs it kept neither for their tags nor for a failed hook. -/
  archived : List RunId
  after : List RetainedRun

section Sweeping

variable (config : RetentionConfig)

/-- Whether the hooks let a run go. -/
def hooksSucceed (world : PassWorld) (id : RunId) : Bool :=
  config.evictListeners == 0 || world.archives id

/-- Whether a pass deletes a run that is on its page. -/
def deletable (world : PassWorld) (run : RetainedRun) : Bool :=
  !kept run && hooksSucceed config world run.id

/-- The query for the candidates of a pass. -/
def candidateQuery (pass : RunQuery) : RunQuery :=
  withoutBookkeepingRuns { pass with size := some passSize }

/-- One pass over the rows. -/
def runPass (store : RetentionStore) (world : PassWorld) (pass : RunQuery) : PassReport :=
  let candidates := listRuns (candidateQuery pass) store.runs
  let archived := (candidates.filter (deletable config world)).map (·.id)
  let ids := runTrees store archived
  let deleted := world.failsAfter.elim ids ids.take
  { before := store.runs
    query := pass
    world := world
    archived := archived
    after := store.runs.filter fun run => !deleted.contains run.id }

/-- The passes of a sweep, one after the other. -/
def runPasses (children : RunId → List RunId) :
    List (RunQuery × PassWorld) → List RetainedRun → List PassReport × List RetainedRun
  | [], runs => ([], runs)
  | (pass, world) :: rest, runs =>
    let report := runPass config ⟨runs, children⟩ world pass
    let (reports, left) := runPasses children rest report.after
    (report :: reports, left)

end Sweeping

/-- One call of `sweepRetention`. -/
structure SweepCall where
  engine : Nat
  now : Int
  draining : Bool := false
  world : Nat → PassWorld := fun _ => {}

/-- The rows, and when each engine swept last. -/
structure SweepState where
  runs : List RetainedRun
  lastRetentionSweepAt : Nat → Option Int := fun _ => none

section Calls

variable (configs : Nat → RetentionConfig) (children : RunId → List RunId)

/-- Whether a call gets to its passes. -/
def sweeps (state : SweepState) (call : SweepCall) : Bool :=
  let config := configs call.engine
  -- An engine that is to delete nothing, or drains, or swept a moment ago, passes over it.
  !((config.retention.isNone && config.retentionPolicies.isEmpty &&
      config.eventBufferTtlMs.isNone) || call.draining) &&
    (state.lastRetentionSweepAt call.engine).all fun last => decide (sweepPauseMs ≤ call.now - last)

/-- The passes of a call, each with what it meets. -/
def callPasses (state : SweepState) (call : SweepCall) : List (RunQuery × PassWorld) :=
  (passes (configs call.engine) state.runs call.now).zipIdx.map fun pass =>
    (pass.1, call.world pass.2)

/-- `sweepRetention`: the passes of a call, and what it leaves. -/
def sweepRetention (state : SweepState) (call : SweepCall) : List PassReport × SweepState :=
  if sweeps configs state call then
    let (reports, left) := runPasses (configs call.engine) children
      (callPasses configs state call) state.runs
    (reports,
      { runs := left
        lastRetentionSweepAt := fun engine =>
          if engine = call.engine then some call.now else state.lastRetentionSweepAt engine })
  else ([], state)

/-- What a sequence of calls leaves. -/
def sweepAll (state : SweepState) : List SweepCall → SweepState
  | [] => state
  | call :: rest => sweepAll (sweepRetention configs children state call).2 rest

/-- The passes of a sequence of calls, each with the setup of its engine. -/
def reports (state : SweepState) : List SweepCall → List (RetentionConfig × PassReport)
  | [] => []
  | call :: rest =>
    let (reported, next) := sweepRetention configs children state call
    reported.map (fun report => (configs call.engine, report)) ++ reports next rest

end Calls

/-- A waiter as a deletion reads it. -/
structure RunWaiter where
  token : String
  runId : RunId
deriving DecidableEq

/-- What a deletion reads and removes. -/
structure RunStore where
  runs : List RetainedRun
  waiters : List RunWaiter := []
  checkpoints : List TimelineStep := []
  /-- The tokens of the buffered signals, which belong to no run. -/
  buffered : List String := []
deriving DecidableEq

/-- The opening of the token that a parent awaits a child under. -/
def childTokenPrefix : String := "child:"

/-- The opening of the token that marks a run for cancelling. -/
def cancelTokenPrefix : String := "cancel:"

namespace RunStore

/-- `getRun`: whether a run has a row. -/
def hasRun (store : RunStore) (id : RunId) : Bool := present store.runs id

/-- The checkpoints of a run. -/
def checkpointsOf (store : RunStore) (id : RunId) : List TimelineStep :=
  store.checkpoints.filter fun cp => cp.runId = id

/-- The waiters of a run. -/
def waitersOf (store : RunStore) (id : RunId) : List RunWaiter :=
  store.waiters.filter fun waiter => waiter.runId = id

/-- The child a waiter awaits, if it awaits one. -/
def awaitedChild (waiter : RunWaiter) : Option RunId :=
  if nameStartsWith childTokenPrefix waiter.token then
    some (nameBehind childTokenPrefix waiter.token)
  else none

/-- `getRunChildren`: the children a run awaits, and those its checkpoints name. -/
def getRunChildren (store : RunStore) (parentRunId : RunId) : List RunId :=
  let edges := queryCheckpointsOf (store.checkpointsOf parentRunId)
    { namePrefixes := some childEdgePrefixes }
  Grouping.firsts ((store.waitersOf parentRunId).filterMap awaitedChild ++ childIdsOf edges)

/-- The store's own `deleteRuns`: the rows of some runs go, with what belongs to them. -/
def deleteRuns (store : RunStore) (ids : List RunId) : RunStore :=
  { store with
    runs := store.runs.filter fun run => run.id ∉ ids
    waiters := store.waiters.filter fun waiter => waiter.runId ∉ ids
    checkpoints := store.checkpoints.filter fun cp => cp.runId ∉ ids }

/-- `sweepRunBufferedSignals`: the buffered completions and cancel marks of some runs go. -/
def sweepRunBufferedSignals (store : RunStore) (ids : List RunId) : RunStore :=
  { store with
    buffered := store.buffered.filter fun token =>
      ids.all fun id => token ≠ childTokenPrefix ++ id && token ≠ cancelTokenPrefix ++ id }

end RunStore

/-- `deleteRun`: the runs below a run are deleted first. The second part is how many runs it
deleted; there is no answer where the recursion is deeper than the fuel. -/
def deleteRun : Nat → RunStore → RunId → Option (RunStore × Nat)
  | 0, _, _ => none
  | fuel + 1, store, runId => do
    if !store.hasRun runId then return (store, 0)
    -- The children are read before the checkpoints that name them are deleted.
    let (below, deleted) ← (store.getRunChildren runId).foldlM
      (fun (state : RunStore × Nat) childId => do
        let (after, more) ← deleteRun fuel state.1 childId
        return (after, state.2 + more))
      (store, 0)
    return ((below.deleteRuns [runId]).sweepRunBufferedSignals [runId], deleted + 1)

/-- `deleteRunTrees`: the runs below some roots are collected, then deleted in one batch. -/
def deleteRunTrees (store : RunStore) (rootIds : List RunId) : RunStore × Nat :=
  let ids := runTrees ⟨store.runs, store.getRunChildren⟩ rootIds
  ((store.deleteRuns ids).sweepRunBufferedSignals ids, ids.length)

/-- Some run below a run, or the run itself, is below itself. -/
def Circular (store : RunStore) (runId : RunId) : Prop :=
  Graph.Cyclic store.getRunChildren store.hasRun runId

end Durable.Retention
