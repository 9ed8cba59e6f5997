import Durable.Data.Rows
import Durable.Interleaving.Relabel

/-! The methods of a state store, with the payloads in their arguments and answers. -/

namespace Durable

open Interleaving

/-- The kinds of payloads a store keeps. -/
inductive PayloadKind where
  /-- The inputs and outputs, and what signals and events carry. -/
  | payload
  /-- The events and failures of steps and runs, and the progress of heartbeats. -/
  | detail
deriving Repr, DecidableEq

variable {P Q : Payloads PayloadKind}

/-- What a run's row holds besides payloads. -/
structure RunColumns where
  id : String
  workflow : String
  status : RunStatus
  namespace_ : Option String := none
  origin : Option String := none
  tags : Option (List String) := none
  searchAttributes : List (String × String) := []
  wakeAt : Option Nat := none
  lockedBy : Option String := none
  lockedUntil : Option Nat := none
deriving Repr, DecidableEq

/-- A run's row. -/
structure RunRow (P : Payloads PayloadKind) extends RunColumns where
  input : Option (P .payload) := none
  output : Option (P .payload) := none
  error : Option (P .detail) := none

/-- Rewrite the payloads of a run's row. -/
def RunRow.map (change : Relabelling P Q) (run : RunRow P) : RunRow Q :=
  { run with
    input := run.input.map (change .payload)
    output := run.output.map (change .payload)
    error := run.error.map (change .detail) }

/-- A partial row of a run; a field that is absent is left as stored. -/
structure RunRowPatch (P : Payloads PayloadKind) where
  status : Option RunStatus := none
  tags : Option (List String) := none
  wakeAt : Option (Option Nat) := none
  input : Option (Option (P .payload)) := none
  output : Option (Option (P .payload)) := none
  error : Option (Option (P .detail)) := none

/-- Rewrite the payloads of a partial row. -/
def RunRowPatch.map (change : Relabelling P Q) (patch : RunRowPatch P) : RunRowPatch Q :=
  { patch with
    input := patch.input.map (Option.map (change .payload))
    output := patch.output.map (Option.map (change .payload))
    error := patch.error.map (Option.map (change .detail)) }

/-- What a checkpoint holds besides payloads. -/
structure CheckpointColumns where
  runId : String
  seq : Nat
  name : String
  kind : StepKind
  status : StepStatus := .completed
  attempts : Nat := 1
  wakeAt : Option Nat := none
  parallelGroup : Option String := none
  queue : Option String := none
deriving Repr, DecidableEq

/-- A checkpoint. -/
structure CheckpointRow (P : Payloads PayloadKind) extends CheckpointColumns where
  input : Option (P .payload) := none
  output : Option (P .payload) := none
  events : Option (P .detail) := none
  error : Option (P .detail) := none
  heartbeatProgress : Option (P .detail) := none

/-- Rewrite the payloads of a checkpoint. -/
def CheckpointRow.map (change : Relabelling P Q) (checkpoint : CheckpointRow P) :
    CheckpointRow Q :=
  { checkpoint with
    input := checkpoint.input.map (change .payload)
    output := checkpoint.output.map (change .payload)
    events := checkpoint.events.map (change .detail)
    error := checkpoint.error.map (change .detail)
    heartbeatProgress := checkpoint.heartbeatProgress.map (change .detail) }

/-- What settles a step's checkpoint. -/
structure SettlementRow (P : Payloads PayloadKind) where
  runId : String
  seq : Nat
  status : ResultStatus
  output : Option (P .payload) := none
  error : Option (P .detail) := none
  events : Option (P .detail) := none

/-- Rewrite the payloads of a settlement. -/
def SettlementRow.map (change : Relabelling P Q) (settlement : SettlementRow P) :
    SettlementRow Q :=
  { settlement with
    output := settlement.output.map (change .payload)
    error := settlement.error.map (change .detail)
    events := settlement.events.map (change .detail) }

/-- One awaited child: its waiter, and the placeholder of its result. -/
structure ChildWaitRow (P : Payloads PayloadKind) where
  waiter : SignalWaiter
  checkpoint : CheckpointRow P

/-- Rewrite the payloads of an awaited child. -/
def ChildWaitRow.map (change : Relabelling P Q) (wait : ChildWaitRow P) : ChildWaitRow Q :=
  { wait with checkpoint := wait.checkpoint.map change }

/-- A buffered signal. -/
structure BufferedSignalRow (P : Payloads PayloadKind) where
  id : String
  token : String
  payload : Option (P .payload)

/-- Rewrite the payload of a buffered signal. -/
def BufferedSignalRow.map (change : Relabelling P Q) (row : BufferedSignalRow P) :
    BufferedSignalRow Q :=
  { row with payload := row.payload.map (change .payload) }

/-- A buffered event. -/
structure BufferedEventRow (P : Payloads PayloadKind) where
  id : String
  name : String
  payload : Option (P .payload)
  publishedAt : Nat

/-- Rewrite the payload of a buffered event. -/
def BufferedEventRow.map (change : Relabelling P Q) (row : BufferedEventRow P) :
    BufferedEventRow Q :=
  { row with payload := row.payload.map (change .payload) }

/-- The definition of a schedule: the input of its runs, if it has one, and the rest. -/
structure ScheduleSpec (P : Payloads PayloadKind) where
  input : Option (Option (P .payload))
  rest : List (String × String)

/-- Rewrite the payload of a schedule's definition. -/
def ScheduleSpec.map (change : Relabelling P Q) (spec : ScheduleSpec P) : ScheduleSpec Q :=
  { spec with input := spec.input.map (Option.map (change .payload)) }

/-- A schedule. -/
structure ScheduleRow (P : Payloads PayloadKind) where
  id : String
  workflow : String
  paused : Bool
  nextFireAt : Option Nat
  spec : ScheduleSpec P

/-- Rewrite the payload of a schedule. -/
def ScheduleRow.map (change : Relabelling P Q) (row : ScheduleRow P) : ScheduleRow Q :=
  { row with spec := row.spec.map change }

/-- A partial schedule. -/
structure SchedulePatch (P : Payloads PayloadKind) where
  paused : Option Bool := none
  nextFireAt : Option (Option Nat) := none
  spec : Option (ScheduleSpec P) := none

/-- Rewrite the payload of a partial schedule. -/
def SchedulePatch.map (change : Relabelling P Q) (patch : SchedulePatch P) : SchedulePatch Q :=
  { patch with spec := patch.spec.map (ScheduleSpec.map change) }

/-- A query of runs: its predicates, which only the store reads, and its page. -/
structure RunQuery where
  predicates : List (String × String) := []
  page : Option Nat := none
  size : Option Nat := none
deriving Repr, DecidableEq

/-- The axis whose values are counted. -/
inductive RunValueAxis where
  | workflow | status | namespace_ | origin | tag | attributeKey
  | attributeValue (key : String)
deriving Repr, DecidableEq

/-- How much of the values is read and returned. -/
structure RunValueFacetOptions where
  limit : Option Nat := none
  scan : Option Nat := none
  offset : Option Nat := none
  search : Option String := none
deriving Repr, DecidableEq

/-- A value, and how many runs have it. -/
structure RunValueFacetRow where
  value : Option String
  count : Nat
deriving Repr, DecidableEq

/-- The methods that are given no payload and answer none. -/
inductive PlainMethod where
  | ensureSchema
  | deleteRun (runId : String)
  | deleteRuns (runIds : List String)
  | tryAdmitSingleton (runId tag workflow : String) (limit : Nat) (retryWakeAt : Option Nat)
  | renewCheckpointLease (runId : String) (seq : Nat) (expectedWakeAt : Option Nat) (wakeAt : Nat)
  | pullRunWakesIn (runIds : List String) (wakeAt : Nat)
  | tryLockRun (runId owner : String) (leaseUntilMs nowMs : Nat)
  | releaseRunLock (runId : String) (owner : Option String)
  | releaseRunLockUnlessWakeRequested (runId owner : String)
  | renewRunLock (runId owner : String) (leaseUntilMs : Nat)
  | putSignalWaiter (waiter : SignalWaiter)
  | takeSignalWaiter (token : String)
  | listSignalWaiters (pre : String)
  | listSignalWaitersByRunIds (runIds : List String)
  | hasSignalWaiter (runId tokenPrefix : String)
  | removeSignalWaiter (waiter : SignalWaiter)
  | listBufferedSignalTokens (pre : String) (limit : Nat)
  | deleteBufferedSignals (ids : List String)
  | removeBufferedEvent (id : String)
  | pruneBufferedEvents (publishedBefore limit : Nat)
  | countRuns (query : RunQuery)
  | runFacets (query : RunQuery)
  | runValueFacets (axis : RunValueAxis) (query : RunQuery) (opts : RunValueFacetOptions)
  | countCheckpoints (runId : String) (fromSeq toSeq : Nat) (statuses : List StepStatus)
  | hasCheckpoints (runId : String) (fromSeq toSeq : Nat) (statuses : List StepStatus)
  | checkpointStats (runId : String) (group : Option String)
  | deleteSchedule (id : String)

/-- What a method without payloads answers. -/
def PlainMethod.Answer : PlainMethod → Type
  | .tryAdmitSingleton .. | .renewCheckpointLease .. | .tryLockRun ..
  | .releaseRunLockUnlessWakeRequested .. | .renewRunLock .. | .hasSignalWaiter ..
  | .removeBufferedEvent _ | .hasCheckpoints .. | .deleteSchedule _ => Bool
  | .pruneBufferedEvents .. | .countRuns _ | .countCheckpoints .. => Nat
  | .takeSignalWaiter _ => Option SignalWaiter
  | .listSignalWaiters _ | .listSignalWaitersByRunIds _ => List SignalWaiter
  | .listBufferedSignalTokens .. => List String
  | .runFacets _ | .checkpointStats .. => List (String × Nat)
  | .runValueFacets .. => List RunValueFacetRow
  | .ensureSchema | .deleteRun _ | .deleteRuns _ | .pullRunWakesIn .. | .releaseRunLock ..
  | .putSignalWaiter _ | .removeSignalWaiter _ | .deleteBufferedSignals _ => Unit

/-- The methods of a state store. -/
inductive StoreMethod where
  | plain (method : PlainMethod)
  | createRun
  | updateRun (runId : String)
  | updateRunIf (runId : String) (expectedStatuses : List RunStatus)
  | getRun (runId : String)
  | getRuns (runIds : List String)
  | listIncompleteRuns (namespace_ : Option String)
  | listPendingRuns (limit : Nat) (namespace_ : Option String)
  | listDueTimers (nowMs : Nat) (namespace_ : Option String) (limit : Option Nat)
  | listOrphanedRuns (nowMs limit : Nat) (namespace_ owner : Option String)
  | listRuns (query : RunQuery)
  | saveCheckpoint
  | saveCheckpoints
  | saveCheckpointIfPending
  | saveCheckpointsIfPending
  | settleCheckpointsIfPending
  | registerChildWaits
  | compactCheckpoints (runId : String) (fromSeq toSeq : Nat)
  | recordStepHeartbeat (runId : String) (seq : Nat) (lastAt : Nat)
  | transaction
  | getCheckpoint (runId : String) (seq : Nat)
  | getCheckpoints (runId : String) (seqs : List Nat)
  | getCheckpointsForSettle (runId : String) (seqs : List Nat)
  | listCheckpoints (runId : String)
  | listCheckpointsForReplay (runId : String)
  | queryCheckpoints (runId : String) (query : RunQuery)
  | getLatestCheckpointByName (runId name : String)
  | listCheckpointsByNamePrefix (runId : String) (prefixes : List String)
  | bufferSignal (token : String)
  | takeBufferedSignal (token : String)
  | listBufferedSignals (tokenPrefix : String) (afterId : Option String) (limit : Nat)
  | bufferEvent
  | listBufferedEvents (name : String) (limit : Nat)
  | saveSchedule
  | getSchedule (id : String)
  | updateSchedule (id : String) (expectedNextFireAt : Option (Option Nat))
  | listSchedules (predicates : List (String × String))

/-- What a method is given besides its plain arguments. -/
def StoreMethod.Given : StoreMethod → Payloads PayloadKind → Type
  | .createRun, P => RunRow P
  | .updateRun _, P | .updateRunIf .., P => RunRowPatch P
  | .saveCheckpoint, P | .saveCheckpointIfPending, P | .compactCheckpoints .., P => CheckpointRow P
  | .saveCheckpoints, P | .saveCheckpointsIfPending, P => List (CheckpointRow P)
  -- The checkpoints that are saved within the transaction.
  | .transaction, P => List (CheckpointRow P)
  | .settleCheckpointsIfPending, P => List (SettlementRow P)
  | .registerChildWaits, P => List (ChildWaitRow P)
  | .recordStepHeartbeat .., P => Option (P .detail)
  | .bufferSignal _, P => Option (P .payload)
  | .bufferEvent, P => BufferedEventRow P
  | .saveSchedule, P => ScheduleRow P
  | .updateSchedule .., P => SchedulePatch P
  | _, _ => Unit

/-- What a method answers. -/
def StoreMethod.Answer : StoreMethod → Payloads PayloadKind → Type
  | .plain method, _ => method.Answer
  | .getRun _, P => Option (RunRow P)
  | .getRuns _, P | .listIncompleteRuns _, P | .listPendingRuns .., P | .listDueTimers .., P
  | .listOrphanedRuns .., P | .listRuns _, P => List (RunRow P)
  | .getCheckpoint .., P | .getLatestCheckpointByName .., P => Option (CheckpointRow P)
  | .getCheckpoints .., P | .getCheckpointsForSettle .., P | .listCheckpoints _, P
  | .listCheckpointsForReplay _, P | .queryCheckpoints .., P
  | .listCheckpointsByNamePrefix .., P => List (CheckpointRow P)
  | .takeBufferedSignal _, P => Option (Option (P .payload))
  | .listBufferedSignals .., P => List (BufferedSignalRow P)
  | .listBufferedEvents .., P => List (BufferedEventRow P)
  | .getSchedule _, P => Option (ScheduleRow P)
  | .listSchedules _, P => List (ScheduleRow P)
  | .updateRunIf .., _ | .saveCheckpointIfPending, _ | .updateSchedule .., _ => Bool
  | .saveCheckpointsIfPending, _ | .settleCheckpointsIfPending, _ => List Bool
  | _, _ => Unit

/-- Rewrite the payloads a method is given. -/
def StoreMethod.mapGiven (change : Relabelling P Q) : (method : StoreMethod) →
    method.Given P → method.Given Q
  | .createRun => RunRow.map change
  | .updateRun _ => RunRowPatch.map change
  | .updateRunIf .. => RunRowPatch.map change
  | .saveCheckpoint => CheckpointRow.map change
  | .saveCheckpointIfPending => CheckpointRow.map change
  | .compactCheckpoints .. => CheckpointRow.map change
  | .saveCheckpoints => List.map (CheckpointRow.map change)
  | .saveCheckpointsIfPending => List.map (CheckpointRow.map change)
  | .transaction => List.map (CheckpointRow.map change)
  | .settleCheckpointsIfPending => List.map (SettlementRow.map change)
  | .registerChildWaits => List.map (ChildWaitRow.map change)
  | .recordStepHeartbeat .. => Option.map (change .detail)
  | .bufferSignal _ => Option.map (change .payload)
  | .bufferEvent => BufferedEventRow.map change
  | .saveSchedule => ScheduleRow.map change
  | .updateSchedule .. => SchedulePatch.map change
  | .plain _ | .getRun _ | .getRuns _ | .listIncompleteRuns _ | .listPendingRuns ..
  | .listDueTimers .. | .listOrphanedRuns .. | .listRuns _ | .getCheckpoint .. | .getCheckpoints ..
  | .getCheckpointsForSettle .. | .listCheckpoints _ | .listCheckpointsForReplay _
  | .queryCheckpoints .. | .getLatestCheckpointByName .. | .listCheckpointsByNamePrefix ..
  | .takeBufferedSignal _ | .listBufferedSignals .. | .listBufferedEvents .. | .getSchedule _
  | .listSchedules _ => id

/-- Rewrite the payloads a method answers. -/
def StoreMethod.mapAnswer (change : Relabelling P Q) : (method : StoreMethod) →
    method.Answer P → method.Answer Q
  | .getRun _ => Option.map (RunRow.map change)
  | .getRuns _ => List.map (RunRow.map change)
  | .listIncompleteRuns _ => List.map (RunRow.map change)
  | .listPendingRuns .. => List.map (RunRow.map change)
  | .listDueTimers .. => List.map (RunRow.map change)
  | .listOrphanedRuns .. => List.map (RunRow.map change)
  | .listRuns _ => List.map (RunRow.map change)
  | .getCheckpoint .. => Option.map (CheckpointRow.map change)
  | .getLatestCheckpointByName .. => Option.map (CheckpointRow.map change)
  | .getCheckpoints .. => List.map (CheckpointRow.map change)
  | .getCheckpointsForSettle .. => List.map (CheckpointRow.map change)
  | .listCheckpoints _ => List.map (CheckpointRow.map change)
  | .listCheckpointsForReplay _ => List.map (CheckpointRow.map change)
  | .queryCheckpoints .. => List.map (CheckpointRow.map change)
  | .listCheckpointsByNamePrefix .. => List.map (CheckpointRow.map change)
  | .takeBufferedSignal _ => Option.map (Option.map (change .payload))
  | .listBufferedSignals .. => List.map (BufferedSignalRow.map change)
  | .listBufferedEvents .. => List.map (BufferedEventRow.map change)
  | .getSchedule _ => Option.map (ScheduleRow.map change)
  | .listSchedules _ => List.map (ScheduleRow.map change)
  | .plain _ | .createRun | .updateRun _ | .updateRunIf .. | .saveCheckpoint | .saveCheckpoints
  | .saveCheckpointIfPending | .saveCheckpointsIfPending | .settleCheckpointsIfPending
  | .registerChildWaits | .compactCheckpoints .. | .recordStepHeartbeat .. | .transaction
  | .bufferSignal _ | .bufferEvent | .saveSchedule | .updateSchedule .. => id

/-- A method of the view of a store that a number of scopes give, one inside the other. -/
structure ViewedMethod where
  scopes : List (Option String)
  method : StoreMethod

/-- The interface of a state store. -/
abbrev stateStore : Interface PayloadKind where
  Method := ViewedMethod
  Given viewed := viewed.method.Given
  Answer viewed := viewed.method.Answer
  mapGiven viewed change := viewed.method.mapGiven change
  mapAnswer viewed change := viewed.method.mapAnswer change

end Durable
