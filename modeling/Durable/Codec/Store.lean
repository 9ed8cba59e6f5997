import Durable.Codec.Calls
import Durable.Data.Value

/-! The store decorator that runs payloads through a codec, and the store it decorates. -/

namespace Durable

open Interleaving

/-- Payloads as the engine writes them. -/
abbrev Json : Payloads PayloadKind := fun _ => Value

/-- What an absent method fails with. -/
def notAFunction : String := "is not a function"

/-- A state store: a service that keeps payloads, and the methods it has. -/
structure StateStore extends Service stateStore String where
  offers : StoreMethod → Bool
  /-- A store that aggregates checkpoints queries them, too. -/
  offers_stats (runId : String) (group : Option String) (query : RunQuery) :
    offers (.plain (.checkpointStats runId group)) = offers (.queryCheckpoints runId query)
  /-- A store that lists schedules has the other methods of schedules, too, or none of them. -/
  offers_schedules (predicates : List (String × String)) (method : StoreMethod)
    (kept : method = .saveSchedule ∨ (∃ id, method = .getSchedule id) ∨
      (∃ id expected, method = .updateSchedule id expected) ∨
        ∃ id, method = .plain (.deleteSchedule id)) :
    offers method = offers (.listSchedules predicates)

/-- The values a run contributes to an axis. -/
def RunColumns.valuesOf (run : RunColumns) : RunValueAxis → List (Option String)
  | .workflow => [some run.workflow]
  | .status => [some run.status.text]
  | .namespace_ => run.namespace_.toList.map some
  -- The runs without an origin are counted as a value of their own.
  | .origin => [run.origin]
  | .tag => (run.tags.getD []).map some
  | .attributeKey => run.searchAttributes.map fun entry => some entry.1
  | .attributeValue key => (run.searchAttributes.lookup key).toList.map some

/-- The runs that are read to count an axis. -/
def runValueFacetScan : Nat := 5000

/-- Whether a run's lease is free, or is of the given owner. -/
def RunColumns.orphaned (run : RunColumns) (nowMs : Nat) (owner : Option String) : Bool :=
  run.lockedUntil.all (· ≤ nowMs) || owner.any fun owner => run.lockedBy == some owner

section Call

variable {P : Payloads PayloadKind} (store : StateStore)

-- The folding, ordering and paging of counted values.
variable (mergeRunValueFacetRows : List RunValueFacetRow → RunValueFacetOptions →
  List RunValueFacetRow)

/-- `scanRunValueFacets`: count the values of an axis over a listing. -/
def runValueFacetsFromRuns (runs : List (RunRow P)) (axis : RunValueAxis)
    (opts : RunValueFacetOptions) : List RunValueFacetRow :=
  mergeRunValueFacetRows (runs.flatMap fun run =>
    (run.toRunColumns.valuesOf axis).map fun value => { value := value, count := 1 }) opts

/-- What stands in for a method that the store does not have. -/
def StateStore.fallback (scopes : List (Option String)) : (method : StoreMethod) →
    method.Given P → store.State P → Except String (method.Answer P) × store.State P
  | .plain .ensureSchema, _, state => (.ok (), state)
  | .plain (.listSignalWaitersByRunIds runIds), _, state =>
    let (waiters, after) := store.exec ⟨scopes, .plain (.listSignalWaiters "")⟩ () state
    (waiters.map (List.filter fun waiter : SignalWaiter => runIds.contains waiter.runId), after)
  | .plain (.countRuns query), _, state =>
    let (runs, after) := store.exec ⟨scopes, .listRuns query⟩ () state
    (runs.map List.length, after)
  | .plain (.runValueFacets axis query opts), _, state =>
    let scan := opts.scan.getD runValueFacetScan
    let (runs, after) := store.exec
      ⟨scopes, .listRuns { query with page := some 1, size := some scan }⟩ () state
    (runs.map fun runs => runValueFacetsFromRuns mergeRunValueFacetRows runs axis opts, after)
  | .listOrphanedRuns nowMs limit namespace_ owner, _, state =>
    let (runs, after) := store.exec ⟨scopes, .listIncompleteRuns namespace_⟩ () state
    (runs.map fun runs : List (RunRow P) =>
      (runs.filter fun run => run.toRunColumns.orphaned nowMs owner).take limit, after)
  | .getLatestCheckpointByName runId name, _, state =>
    let (checkpoints, after) := store.exec ⟨scopes, .listCheckpoints runId⟩ () state
    (checkpoints.map fun checkpoints : List (CheckpointRow P) =>
      (checkpoints.filter fun checkpoint => checkpoint.name == name).getLast?, after)
  | .listCheckpointsByNamePrefix runId prefixes, _, state =>
    let (checkpoints, after) := store.exec ⟨scopes, .listCheckpoints runId⟩ () state
    (checkpoints.map fun checkpoints : List (CheckpointRow P) => checkpoints.filter fun checkpoint =>
      prefixes.any fun pre => pre.toList.isPrefixOf checkpoint.name.toList, after)
  | .recordStepHeartbeat .., _, state => (.ok (), state)
  | .transaction, _, state => (.error "the wrapped store does not support transactions", state)
  | _, _, state => (.error notAFunction, state)

/-- Call a method of a store, or what stands in for it. -/
def StateStore.call : Executor stateStore String P (store.State P) :=
  fun viewed given state =>
    if store.offers viewed.method then store.exec viewed given state
    else store.fallback mergeRunValueFacetRows viewed.scopes viewed.method given state

end Call

/-- A codec of payloads; an absent payload is never given to it. -/
structure PayloadCodec where
  encode : Value → Value
  decode : Value → Value
  decode_encode : ∀ value, decode (encode value) = value

/-- What runs through the codec. -/
inductive CodecCoverage where
  | payloads | extended
deriving Repr, DecidableEq

/-- A codec, with what runs through it. -/
structure CodecStateStore where
  codec : PayloadCodec
  coverage : CodecCoverage

namespace CodecStateStore

variable (wrapper : CodecStateStore)

/-- The events, failures and progress run through the codec, too. -/
def extended : Bool := decide (wrapper.coverage = .extended)

/-- Encode a payload. -/
def enc (value : Option Value) : Option Value := value.map wrapper.codec.encode

/-- Decode a payload. -/
def dec (value : Option Value) : Option Value := value.map wrapper.codec.decode

/-- Encode a run. -/
def encRun (run : RunRow Json) : RunRow Json :=
  let next := { run with input := wrapper.enc run.input, output := wrapper.enc run.output }
  if wrapper.extended then { next with error := wrapper.enc run.error } else next

/-- Decode a run. -/
def decRun (run : RunRow Json) : RunRow Json :=
  let next := { run with input := wrapper.dec run.input, output := wrapper.dec run.output }
  if wrapper.extended then { next with error := wrapper.dec run.error } else next

/-- Encode the input and output of a partial run. -/
def encPatch (patch : RunRowPatch Json) : RunRowPatch Json :=
  { patch with input := patch.input.map wrapper.enc, output := patch.output.map wrapper.enc }

/-- Encode a checkpoint. -/
def encCp (checkpoint : CheckpointRow Json) : CheckpointRow Json :=
  let next := { checkpoint with
    input := wrapper.enc checkpoint.input, output := wrapper.enc checkpoint.output }
  if wrapper.extended then
    { next with
      events := wrapper.enc checkpoint.events
      error := wrapper.enc checkpoint.error
      heartbeatProgress := wrapper.enc checkpoint.heartbeatProgress }
  else next

/-- Decode a checkpoint. -/
def decCp (checkpoint : CheckpointRow Json) : CheckpointRow Json :=
  let next := { checkpoint with
    input := wrapper.dec checkpoint.input, output := wrapper.dec checkpoint.output }
  if wrapper.extended then
    { next with
      events := wrapper.dec checkpoint.events
      error := wrapper.dec checkpoint.error
      heartbeatProgress := wrapper.dec checkpoint.heartbeatProgress }
  else next

/-- Encode a settlement. -/
def encSettlement (settlement : SettlementRow Json) : SettlementRow Json :=
  let next := { settlement with output := wrapper.enc settlement.output }
  if wrapper.extended then
    { next with events := wrapper.enc settlement.events, error := wrapper.enc settlement.error }
  else next

/-- Encode the input a schedule's runs are started with. -/
def encSpec (spec : ScheduleSpec Json) : ScheduleSpec Json :=
  match spec.input with
  | some input => { spec with input := some (wrapper.enc input) }
  | none => spec

/-- Encode a schedule. -/
def encSchedule (row : ScheduleRow Json) : ScheduleRow Json :=
  { row with spec := wrapper.encSpec row.spec }

/-- Decode a schedule. -/
def decSchedule (row : ScheduleRow Json) : ScheduleRow Json :=
  match row.spec.input with
  | some input => { row with spec := { row.spec with input := some (wrapper.dec input) } }
  | none => row

/-- Encode a partial schedule. -/
def encSchedulePatch (patch : SchedulePatch Json) : SchedulePatch Json :=
  match patch.spec with
  | some spec => { patch with spec := some (wrapper.encSpec spec) }
  | none => patch

/-- Encode the progress of a heartbeat. -/
def encProgress (progress : Option Value) : Option Value :=
  if wrapper.extended && progress.isSome then wrapper.enc progress else progress

/-- What the wrapped store is given. -/
def encode : (method : StoreMethod) → method.Given Json → method.Given Json
  | .createRun => wrapper.encRun
  | .updateRun _ => wrapper.encPatch
  | .updateRunIf .. => wrapper.encPatch
  | .saveCheckpoint => wrapper.encCp
  | .saveCheckpointIfPending => wrapper.encCp
  | .compactCheckpoints .. => wrapper.encCp
  | .saveCheckpoints => List.map wrapper.encCp
  | .saveCheckpointsIfPending => List.map wrapper.encCp
  | .transaction => List.map wrapper.encCp
  | .settleCheckpointsIfPending => List.map wrapper.encSettlement
  | .registerChildWaits => List.map fun wait : ChildWaitRow Json =>
    { waiter := wait.waiter, checkpoint := wrapper.encCp wait.checkpoint }
  | .recordStepHeartbeat .. => wrapper.encProgress
  | .bufferSignal _ => wrapper.enc
  | .bufferEvent => fun event : BufferedEventRow Json =>
    { event with payload := wrapper.enc event.payload }
  | .saveSchedule => wrapper.encSchedule
  | .updateSchedule .. => wrapper.encSchedulePatch
  | .plain _ | .getRun _ | .getRuns _ | .listIncompleteRuns _ | .listPendingRuns ..
  | .listDueTimers .. | .listOrphanedRuns .. | .listRuns _ | .getCheckpoint .. | .getCheckpoints ..
  | .getCheckpointsForSettle .. | .listCheckpoints _ | .listCheckpointsForReplay _
  | .queryCheckpoints .. | .getLatestCheckpointByName .. | .listCheckpointsByNamePrefix ..
  | .takeBufferedSignal _ | .listBufferedSignals .. | .listBufferedEvents .. | .getSchedule _
  | .listSchedules _ => id

/-- What the caller is answered. -/
def decode : (method : StoreMethod) → method.Answer Json → method.Answer Json
  | .getRun _ => Option.map wrapper.decRun
  | .getRuns _ => List.map wrapper.decRun
  | .listIncompleteRuns _ => List.map wrapper.decRun
  | .listPendingRuns .. => List.map wrapper.decRun
  | .listDueTimers .. => List.map wrapper.decRun
  | .listOrphanedRuns .. => List.map wrapper.decRun
  | .listRuns _ => List.map wrapper.decRun
  | .getCheckpoint .. => Option.map wrapper.decCp
  | .getLatestCheckpointByName .. => Option.map wrapper.decCp
  | .getCheckpoints .. => List.map wrapper.decCp
  | .getCheckpointsForSettle .. => List.map wrapper.decCp
  | .listCheckpoints _ => List.map wrapper.decCp
  | .listCheckpointsForReplay _ => List.map wrapper.decCp
  | .queryCheckpoints .. => List.map wrapper.decCp
  | .listCheckpointsByNamePrefix .. => List.map wrapper.decCp
  | .takeBufferedSignal _ => Option.map wrapper.dec
  | .listBufferedSignals .. => List.map fun row : BufferedSignalRow Json =>
    { row with payload := wrapper.dec row.payload }
  | .listBufferedEvents .. => List.map fun event : BufferedEventRow Json =>
    { event with payload := wrapper.dec event.payload }
  | .getSchedule _ => Option.map wrapper.decSchedule
  | .listSchedules _ => List.map wrapper.decSchedule
  | .plain _ | .createRun | .updateRun _ | .updateRunIf .. | .saveCheckpoint | .saveCheckpoints
  | .saveCheckpointIfPending | .saveCheckpointsIfPending | .settleCheckpointsIfPending
  | .registerChildWaits | .compactCheckpoints .. | .recordStepHeartbeat .. | .transaction
  | .bufferSignal _ | .bufferEvent | .saveSchedule | .updateSchedule .. => id

/-- The decorator, in whatever view of the store. -/
def decorator : Wrapper stateStore Json where
  encode viewed := wrapper.encode viewed.method
  decode viewed := wrapper.decode viewed.method

/-- How each covered payload is to be handed on. -/
def covered : Relabelling Json Json
  | .payload => wrapper.codec.encode
  | .detail => if wrapper.extended then wrapper.codec.encode else id

end CodecStateStore

section Statement

variable (mergeRunValueFacetRows : List RunValueFacetRow → RunValueFacetOptions →
  List RunValueFacetRow)

/-- The calls answer what they answer without the codec, and hand nothing on unencoded. -/
def CodecStateStore.Transparent (wrapper : CodecStateStore) (store : StateStore)
    (calls : List (Call stateStore Json)) : Prop :=
  answers (wrapper.decorator.exec (store.call mergeRunValueFacetRows)) calls store.init =
    answers (store.call mergeRunValueFacetRows) calls store.init ∧
    ∀ call ∈ calls, wrapper.decorator.Covers wrapper.covered call

/-- The error that a method sets on a run. -/
def StoreMethod.patchedError : (method : StoreMethod) → method.Given Json → Option Value
  | .updateRun _, patch => RunRowPatch.error patch |>.join
  | .updateRunIf .., patch => RunRowPatch.error patch |>.join
  | _, _ => none

end Statement

end Durable
