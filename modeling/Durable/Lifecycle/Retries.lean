import Durable.Lifecycle.Tags
import Durable.Retention.Sweep
import Durable.Singleton.Runs

/-! Runs that are started with the tags of another one, and what the tags of a run decide later:
whether it is admitted, what it counts for, whom it releases, what it publishes, and whether it is
kept. -/

namespace Durable.Retries

section Tags

/-- The prefix of the tag that holds the traceparent of a settled run. -/
def lifecycleTraceTagPrefix : String := "durable:lifecycle:trace:"

/-- The prefix of the tags of singletons. -/
def singletonTagPrefix : String := "singleton:"

/-- The prefix of the tags of concurrency quotas. -/
def concurrencyTagPrefix : String := "concurrency:"

/-- The prefix of the tags of runs whose failures were handed off. -/
def onErrorTagPrefix : String := "onError:"

/-- The tag that a run of a quota carries. -/
def concurrencyTag (key : String) : String := concurrencyTagPrefix ++ key

/-- Whether a tag is one of the engine's lifecycle bookkeeping. -/
def isLifecycleTag (tag : String) : Bool :=
  tag == lifecyclePendingTag || tagged lifecycleOwedTagPrefix tag ||
    tagged lifecycleTriggeredTagPrefix tag || tagged lifecycleCoalescedTagPrefix tag ||
    tagged lifecycleTriggerFailedTagPrefix tag || tagged lifecycleTraceTagPrefix tag

/-- Whether a tag counts its run under a key. -/
def isKeyTag (tag : String) : Bool :=
  tagged singletonTagPrefix tag || tagged concurrencyTagPrefix tag

/-- Whether a start strips a tag. -/
def isStripped (tag : String) : Bool :=
  singletonReservedTags.contains tag || tag == childDeliveredTag

/-- Whether the engine writes a tag. -/
def isEngineTag (tag : String) : Bool :=
  isStripped tag || tag == Retention.lifecycleRegistryTag || isLifecycleTag tag ||
    isKeyTag tag || tagged onErrorTagPrefix tag

/-- The tags of a run that its users gave it. -/
def userTags (tags : List String) : List String := tags.filter (!isEngineTag ·)

end Tags

/-- How the runs of a workflow are serialized. -/
structure SingletonConfig where
  key : Option Value → String
  limit : Nat := 1
  maxQueueDepth : Option Nat := none

/-- The singleton of a run with an input. -/
def SingletonConfig.singleton (cfg : SingletonConfig) (workflow : String) (input : Option Value) :
    Singleton where
  workflow := workflow
  key := cfg.key input
  limit := cfg.limit

/-- How many runs with a key may be in flight. -/
structure ConcurrencyQuota where
  key : String
  limit : Int
  countStatuses : Option (List RunStatus) := none

/-- The quotas of a workflow's runs. -/
structure ConcurrencyConfig where
  key : Option Value → Option String
  limit : String → Int
  countStatuses : Option (List RunStatus) := none

/-- What a workflow is registered with; its own tags are labels, none the engine's. -/
structure Registration where
  tags : List String := []
  singleton : Option SingletonConfig := none
  concurrency : Option ConcurrencyConfig := none
  labels : ∀ tag ∈ tags, isEngineTag tag = false

/-- The workflows of an engine; none has the name of the rows that engines keep for themselves. -/
structure Workflows where
  latest : String → Option Registration
  unregistered : latest Retention.lifecycleRegistryWorkflow = none

/-- What a run is started with. -/
structure StartRequest where
  workflow : String
  input : Option Value
  runId : String
  tags : List String := []
  concurrency : Option ConcurrencyQuota := none
  startAt : Option Nat := none
  now : Nat

/-- What a start answers. -/
inductive StartAnswer where
  | notRegistered
  | existing (status : RunStatus)
  | concurrencyLimit (active : Nat)
  | queueFull
  | started (status : RunStatus)
deriving DecidableEq

section Starts

/-- How many runs have a tag and one of some statuses. -/
def countRuns (runs : SingletonStore) (tag : String) (statuses : List RunStatus) : Nat :=
  runs.values.countP fun run => statuses.contains run.status && run.tags.contains tag

/-- The quota that applies to a start. -/
def resolveConcurrency (override_ : Option ConcurrencyQuota) (config : Option ConcurrencyConfig)
    (input : Option Value) : Option ConcurrencyQuota :=
  override_.or (config.bind fun config => (config.key input).map fun key =>
    { key := key, limit := config.limit key, countStatuses := config.countStatuses })

/-- The runs in flight under a quota that a start would exceed. -/
def assertConcurrency (runs : SingletonStore) (quota : ConcurrencyQuota) : Option Nat :=
  if quota.limit ≤ 0 then some 0
  else
    let active := countRuns runs (concurrencyTag quota.key)
      (quota.countStatuses.getD singletonActiveStatuses)
    if quota.limit ≤ active then some active else none

/-- Whether a start would grow a singleton's backlog past its depth. -/
def assertCapacity (runs : SingletonStore) (workflow : String) (input : Option Value)
    (cfg : SingletonConfig) : Bool :=
  let queued := ((cfg.singleton workflow input).active runs.values).length
  cfg.maxQueueDepth.any fun depth => decide (cfg.limit + depth ≤ queued)

/-- The tags of the keys that a run is counted under. -/
def mintedTags (reg : Registration) (quota : Option ConcurrencyQuota) (workflow : String)
    (input : Option Value) : List String :=
  (reg.singleton.map fun cfg => (cfg.singleton workflow input).tag).toList ++
    (quota.map fun quota => concurrencyTag quota.key).toList

/-- The tags of a workflow and those of a run, each once. -/
def mergeTags (staticTags runTags : List String) : List String :=
  (staticTags ++ runTags).eraseDups

/-- The row of a new run. -/
def newRun (reg : Registration) (request : StartRequest) : SingletonRun :=
  let quota := resolveConcurrency request.concurrency reg.concurrency request.input
  let minted := mintedTags reg quota request.workflow request.input
  startedRun
    { id := request.runId
      workflow := request.workflow
      status := .pending
      input := request.input
      tags := mergeTags reg.tags (request.tags ++ minted)
      createdAt := request.now } request.startAt

/-- `startCore`: create a run, unless its id is taken or a limit is reached. -/
def startCore (workflows : Workflows) (runs : SingletonStore) (request : StartRequest) :
    SingletonStore × StartAnswer :=
  match workflows.latest request.workflow with
  | none => (runs, .notRegistered)
  | some reg =>
    match runs.get request.runId with
    | some prior => (runs, .existing prior.status)
    | none =>
      let quota := resolveConcurrency request.concurrency reg.concurrency request.input
      match quota.bind (assertConcurrency runs) with
      | some active => (runs, .concurrencyLimit active)
      | none =>
        if reg.singleton.any (assertCapacity runs request.workflow request.input) then
          (runs, .queueFull)
        else
          let run := newRun reg request
          (runs.set request.runId run, .started run.status)

/-- What a fix-and-replay of a run starts. -/
def retryRequest (run : SingletonRun) (input : Option Value) (newRunId : String) (now : Nat) :
    StartRequest where
  workflow := run.workflow
  input := input
  runId := newRunId
  tags := run.tags
  now := now

/-- `retryWithInput`: start a run anew with a corrected input; nothing if there is no such run. -/
def retryWithInput (workflows : Workflows) (runs : SingletonStore) (runId : String)
    (input : Option Value) (newRunId : String) (now : Nat) :
    SingletonStore × Option StartAnswer :=
  match runs.get runId with
  | none => (runs, none)
  | some run =>
    let (runs, answer) := startCore workflows runs (retryRequest run input newRunId now)
    (runs, some answer)

end Starts

/-- Write some fields of a run that there is. -/
def patchRun (runs : SingletonStore) (runId : String) (patch : RunPatch) : SingletonStore :=
  match runs.get runId with
  | none => runs
  | some run => runs.set runId (run.patch patch)

/-- What a lifecycle event says of its run. -/
structure LifecycleEvent where
  runId : String
  workflow : String
  status : RunStatus
  input : Option Value
  output : Option Value
  error : Option StepError
  tags : List String
deriving DecidableEq

/-- The event that a settled run publishes. -/
def lifecycleEventOf (run : SingletonRun) : LifecycleEvent where
  runId := run.id
  workflow := run.workflow
  status := run.status
  input := run.input
  output := if run.status = .completed then run.output else none
  error := if run.status = .completed then none else run.error
  tags := run.tags.filter (!isLifecycleTag ·)

/-- What a publication delivers and announces. -/
structure Publication where
  event : Option LifecycleEvent
  reached : List String
  failed : List String
  triggered : List String
  triggerFailed : List String
deriving DecidableEq

/-- How a run ends. -/
inductive Ending where
  | completed (output : Option Value)
  | failed (error : StepError)
  | cancelled (error : StepError)
  | dead (error : StepError)

/-- What an ending writes. -/
def Ending.patch : Ending → RunPatch
  | .completed output => { status := some .completed, output := some output, error := some none }
  | .failed error => { status := some .failed, error := some (some error) }
  | .cancelled error =>
    { status := some .cancelled, error := some (some error)
      awaitingDecisionTaskId := some none }
  | .dead error => { status := some .dead, error := some (some error) }

/-- What an instance knows of the subscribers of an ending when it writes it. -/
structure Subscriptions where
  subscribers : List String
  fleetRead : Bool
  traceparent : Option String

/-- One pass of a retention sweep: the statuses and the tag that it asks for, and which runs are
old enough for it. -/
structure RetentionPass where
  statuses : List RunStatus
  tag : Option String
  old : String → Bool

/-- What may happen to the runs later. -/
inductive LaterOp where
  | start (request : StartRequest)
  | retryWithInput (runId : String) (input : Option Value) (newRunId : String) (now : Nat)
  /-- A run is executed, and a singleton's run claims its slot. -/
  | execute (runId : String) (retryWakeAt : Nat)
  | suspend (runId : String) (wakeAt : Option Nat) (subscriptions : Subscriptions)
  | routeFailure (runId : String) (code : Option String)
  | settle (runId : String) (expected : List RunStatus) (ending : Ending)
      (subscriptions : Subscriptions) (clock : Nat)
  | publish (runId : String) (audience : Audience) (opts : PublishOptions)
  | requeue (runId : String) (handedOff : Bool)
  | triggeredRuns (runId : String)
  /-- The trace of a settled run is read for a run that it started. -/
  | traceparent (runId : String)
  | prune (pass : RetentionPass)

/-- What is answered, and what others see of it. -/
inductive Answer where
  | absent
  | refused
  | written
  | start (answer : StartAnswer)
  | retried (answer : Option StartAnswer)
  | admitted (granted : Bool)
  | claimFailed (message : String)
  | settled (woken : List String)
  | published (publication : Publication)
  | triggeredRuns (runIds : List String)
  | traceparent (found : Option String)
  | pruned (runIds : List String)
deriving DecidableEq

section Later

variable (localeCompare : String → String → Ordering) (workflows : Workflows)

/-- Execute a run: mark it started, and claim the slot of a singleton's run. -/
def execute (runs : SingletonStore) (runId : String) (retryWakeAt : Nat) :
    SingletonStore × Answer :=
  match runs.get runId with
  | none => (runs, .absent)
  | some run =>
    match workflows.latest run.workflow with
    | none => (runs, .refused)
    | some reg =>
      if isTerminalStatus run.status then (runs, .refused)
      else
        let runs := (SingletonOp.markStarted runId reg.singleton.isSome).apply localeCompare runs
        match reg.singleton with
        | none => (runs, .admitted true)
        | some cfg =>
          match tryAdmitSingleton localeCompare runs (cfg.singleton run.workflow run.input) runId
              (some retryWakeAt) with
          | .error message => (runs, .claimFailed message)
          | .ok (runs, granted) => (runs, .admitted granted)

/-- The tags of a run whose first suspension records its trace. -/
def withRunTrace (subscriptions : Subscriptions) (run : SingletonRun) : Option (List String) :=
  match subscriptions.traceparent with
  | none => none
  | some traceparent =>
    if tagged "__" run.workflow || run.tags.any (tagged lifecycleTraceTagPrefix) ||
        subscriptions.subscribers.isEmpty || traceparent.isEmpty then none
    else some (run.tags ++ [lifecycleTraceTagPrefix ++ traceparent])

/-- The statuses that a turn's outcome is written over. -/
def settleEligibleStatuses : List RunStatus :=
  [.pending, .running, .suspended, .blocked, .failed]

/-- Suspend a run. -/
def suspend (runs : SingletonStore) (runId : String) (wakeAt : Option Nat)
    (subscriptions : Subscriptions) : SingletonStore × Answer :=
  match runs.get runId with
  | none => (runs, .absent)
  | some run =>
    if settleEligibleStatuses.contains run.status then
      (patchRun runs runId
        { status := some .suspended, wakeAt := some wakeAt
          tags := withRunTrace subscriptions run }, .written)
    else (runs, .refused)

/-- Tag a run whose failure is handed off. -/
def routeFailure (runs : SingletonStore) (runId : String) (code : Option String) :
    SingletonStore × Answer :=
  match runs.get runId with
  | none => (runs, .absent)
  | some run =>
    let tag := onErrorTagPrefix ++ code.getD "*"
    if run.tags.contains tag then (runs, .written)
    else (patchRun runs runId { tags := some (run.tags ++ [tag]) }, .written)

/-- The tags that say whom the ending of a run is owed to. -/
def withLifecycleMarker (subscriptions : Subscriptions) (run : SingletonRun) :
    Option (List String) :=
  if tagged "__" run.workflow ||
      subscriptions.subscribers.isEmpty && subscriptions.fleetRead then none
  else
    let trace := if subscriptions.subscribers.isEmpty ||
        run.tags.any (tagged lifecycleTraceTagPrefix) then none else subscriptions.traceparent
    let marker := [lifecyclePendingTag] ++
      (if subscriptions.fleetRead then subscriptions.subscribers.map lifecycleOwedTag else []) ++
      (trace.map (lifecycleTraceTagPrefix ++ ·)).toList
    if marker.all run.tags.contains then none else some (run.tags ++ marker).eraseDups

/-- `wakeNext`: make the runs due that wait longest for the slot of a settled run. -/
def wakeNext (runs : SingletonStore) (settled : SingletonRun) (clock : Nat) :
    SingletonStore × List String :=
  match (workflows.latest settled.workflow).bind (·.singleton),
      settled.tags.find? (tagged singletonTagPrefix) with
  | some cfg, some tag =>
    let gated := runs.values.filter fun run =>
      run.workflow == settled.workflow && run.status == .suspended && run.tags.contains tag &&
        !run.admitted
    let woken := ((sortedByCreation localeCompare gated).take cfg.limit).map (·.id)
    (woken.foldl (fun runs runId => patchRun runs runId { wakeAt := some (some clock) }) runs,
      woken)
  | _, _ => (runs, [])

/-- End a run, and wake who waits for its slot. -/
def settle (runs : SingletonStore) (runId : String) (expected : List RunStatus)
    (ending : Ending) (subscriptions : Subscriptions) (clock : Nat) : SingletonStore × Answer :=
  match runs.get runId with
  | none => (runs, .absent)
  | some run =>
    if expected.contains run.status then
      let runs := patchRun runs runId
        { ending.patch with tags := withLifecycleMarker subscriptions run }
      let (runs, woken) := wakeNext localeCompare workflows runs run clock
      (runs, .settled woken)
    else (runs, .refused)

/-- What a publication of a settled run delivers, and what it announces: the tags that it adds. -/
def publicationOf (audience : Audience) (opts : PublishOptions) (run : SingletonRun) :
    Publication :=
  let plan := publishPlan audience opts run.tags
  let taking := audience.here.filter (plan.targets.contains ·)
  let started := taking.filter fun subscriber => audience.delivery subscriber = .started
  let coalesced := taking.filter fun subscriber => audience.delivery subscriber = .coalesced
  let failed := taking.filter (fun subscriber => audience.delivery subscriber = .failed) ++
    audience.orphaned plan.owed
  { event := if plan.targets.isEmpty then none else some (lifecycleEventOf run)
    reached := started ++ coalesced
    failed := failed
    triggered :=
      (started.filter fun subscriber =>
        !run.tags.contains (lifecycleTriggeredTagPrefix ++ subscriber)) ++
      coalesced.filter fun subscriber =>
        !run.tags.contains (lifecycleCoalescedTagPrefix ++ subscriber)
    triggerFailed := failed.filter fun subscriber =>
      !run.tags.contains (lifecycleTriggerFailedTag subscriber) }

/-- Publish the event of a run that has ended. -/
def publish (runs : SingletonStore) (runId : String) (audience : Audience)
    (opts : PublishOptions) : SingletonStore × Answer :=
  match runs.get runId with
  | none => (runs, .absent)
  | some run =>
    if isTerminalStatus run.status then
      let tags := publishedTags audience opts run.tags
      let runs :=
        if tags.length ≠ run.tags.length ∨ tags.any (!run.tags.contains ·) then
          patchRun runs runId { tags := some tags }
        else runs
      (runs, .published (publicationOf audience opts run))
    else (runs, .refused)

/-- The event of an ending, if a status is one. -/
def lifecycleKindOf : RunStatus → Option String
  | .completed => some "completed"
  | .failed | .cancelled | .dead => some "failed"
  | .pending | .running | .suspended | .blocked => none

/-- The id of the run that an event starts for a subscriber. -/
def lifecycleRunId (sourceRunId kind subscriber : String) : String :=
  "evt:" ++ sourceRunId ++ ":" ++ kind ++ ":" ++ subscriber

/-- The runs that a settled run has triggered. -/
def triggeredRunsOf (run : SingletonRun) : List String :=
  match lifecycleKindOf run.status with
  | none => []
  | some kind =>
    (subscribersTagged lifecycleTriggeredTagPrefix run.tags).map (lifecycleRunId run.id kind)

/-- The traceparent that a run has recorded. -/
def lifecycleTraceparentOf (tags : List String) : Option String :=
  match tags.find? (tagged lifecycleTraceTagPrefix) with
  | none => none
  | some tag =>
    let traceparent := behind lifecycleTraceTagPrefix tag
    if traceparent.isEmpty then none else some traceparent

/-- Delete the runs that a pass lists, other than those that are kept. -/
def prune (runs : SingletonStore) (pass : RetentionPass) : SingletonStore × List String :=
  let listed := runs.rows.filter fun row =>
    pass.statuses.contains row.2.status && pass.tag.all (row.2.tags.contains ·) && pass.old row.1
  let doomed := (listed.filter fun row => !(Retention.retentionKeeps row.2.tags ||
    row.2.workflow == Retention.lifecycleRegistryWorkflow)).map Prod.fst
  (doomed.foldl Interleaving.Table.erase runs, doomed)

/-- What happens to the runs, and what is answered. -/
def LaterOp.apply (runs : SingletonStore) : LaterOp → SingletonStore × Answer
  | .start request =>
    let (runs, answer) := startCore workflows runs request
    (runs, .start answer)
  | .retryWithInput runId input newRunId now =>
    let (runs, answer) := Retries.retryWithInput workflows runs runId input newRunId now
    (runs, .retried answer)
  | .execute runId retryWakeAt => Retries.execute localeCompare workflows runs runId retryWakeAt
  | .suspend runId wakeAt subscriptions => Retries.suspend runs runId wakeAt subscriptions
  | .routeFailure runId code => Retries.routeFailure runs runId code
  | .settle runId expected ending subscriptions clock =>
    Retries.settle localeCompare workflows runs runId expected ending subscriptions clock
  | .publish runId audience opts => Retries.publish runs runId audience opts
  | .requeue runId handedOff =>
    match runs.get runId with
    | none => (runs, .absent)
    | some _ => ((SingletonOp.requeue runId handedOff).apply localeCompare runs, .written)
  | .triggeredRuns runId =>
    match runs.get runId with
    | none => (runs, .absent)
    | some run => (runs, .triggeredRuns (triggeredRunsOf run))
  | .traceparent runId =>
    (runs, .traceparent ((runs.get runId).bind fun run => lifecycleTraceparentOf run.tags))
  | .prune pass =>
    let (runs, doomed) := Retries.prune runs pass
    (runs, .pruned doomed)

/-- The runs after a history. -/
def after (runs : SingletonStore) (history : List LaterOp) : SingletonStore :=
  history.foldl (fun runs op => (op.apply localeCompare workflows runs).1) runs

/-- The answers of a history. -/
def answers (runs : SingletonStore) : List LaterOp → List Answer
  | [] => []
  | op :: history =>
    let (runs, answer) := op.apply localeCompare workflows runs
    answer :: answers runs history

end Later

end Durable.Retries
