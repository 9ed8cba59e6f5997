import Mathlib.Data.List.Defs
import Durable.Data.Rows
import Durable.Queue.Controller

/-! The state store the engine instances share, and its operations. -/

namespace Durable

open Interleaving (Table)

/-- A payload; `none` is `undefined`. -/
abbrev Payload := Option Value

/-- What an engine does for a run once its turn has let go of it. -/
inductive Deferred where
  | startChild (childId : String)
  | cancelChild (childId : String)
  | kickEntity (name key : String)
deriving Repr, DecidableEq, Inhabited

/-- A step's attempt, as it is put on the transport. -/
structure TaskDispatch where
  runId : String
  seq : Nat
  attempt : Nat
deriving Repr, DecidableEq, Inhabited

/-- What the program around the store answers at the moment. -/
structure Surroundings where
  /-- What a step's own function does when it is run at a position. -/
  bodies : String → Nat → Nat → Except StepError Payload := fun _ _ _ => .ok none
  refusals : String → Option String := fun _ => none
deriving Inhabited

/-- The tables of the store, with the clock and what the engines have asked for. -/
structure Store where
  runs : Table String WorkflowRun := .empty
  checkpoints : Table (String × Nat) StepCheckpoint := .empty
  signalWaiters : Table Token SignalWaiter := .empty
  bufferedSignals : Table Token (List Payload) := .empty
  bufferedEvents : Table String BufferedEvent := .empty
  wakes : List String := []
  deferred : List Deferred := []
  dispatched : List TaskDispatch := []
  queues : Table String QueueController := .empty
  clock : Nat := 0
  around : Surroundings := {}
deriving Inhabited

/-- A partial run row; a field that is absent is left as stored. -/
structure RunPatch where
  status : Option RunStatus := none
  output : Option (Option Value) := none
  error : Option (Option StepError) := none
  wakeAt : Option (Option Nat) := none
  recoveryAttempts : Option Nat := none
  tags : Option (List String) := none
  awaitingDecisionTaskId : Option (Option String) := none
  lockedBy : Option (Option String) := none
  lockedUntil : Option (Option Nat) := none
  wakeRequestedAt : Option (Option Nat) := none
deriving Repr, DecidableEq

/-- The tags by which a singleton run holds its slot. -/
def singletonReservedTags : List String :=
  ["durable:singleton:admitted", "durable:singleton:tracked"]

/-- Whether a patch ends its run. -/
def settlesTerminally (patch : RunPatch) : Bool :=
  patch.status.any isTerminalStatus

/-- The row a patch makes of a stored one; a run that ends gives its singleton slot back. -/
def WorkflowRun.patched (run : WorkflowRun) (patch : RunPatch) : WorkflowRun :=
  let tags := patch.tags.getD run.tags
  { run with
    status := patch.status.getD run.status
    output := patch.output.getD run.output
    error := patch.error.getD run.error
    wakeAt := patch.wakeAt.getD run.wakeAt
    recoveryAttempts := patch.recoveryAttempts.getD run.recoveryAttempts
    tags := if settlesTerminally patch then tags.filter (· ∉ singletonReservedTags) else tags
    awaitingDecisionTaskId := patch.awaitingDecisionTaskId.getD run.awaitingDecisionTaskId
    lockedBy := patch.lockedBy.getD run.lockedBy
    lockedUntil := patch.lockedUntil.getD run.lockedUntil
    wakeRequestedAt := patch.wakeRequestedAt.getD run.wakeRequestedAt }

/-- One child wait: its waiter and the placeholder at its position. -/
structure ChildWait where
  waiter : SignalWaiter
  checkpoint : StepCheckpoint

/-- One operation of the store, or one look at what surrounds it. -/
inductive StoreOp where
  | getRun (runId : String)
  | createRun (run : WorkflowRun)
  | updateRun (runId : String) (patch : RunPatch)
  | updateRunIf (runId : String) (expected : List RunStatus) (patch : RunPatch)
  | getCheckpoint (runId : String) (seq : Nat)
  | readCheckpoint (runId : String) (seq : Nat) (snapshot : Option StepCheckpoint)
  | saveCheckpoint (checkpoint : StepCheckpoint)
  | saveCheckpointIfPending (checkpoint : StepCheckpoint)
  | settleCheckpointsIfPending (settlements : List StepSettlement)
  | renewCheckpointLease (runId : String) (seq : Nat) (expected : Option Nat) (wakeAt : Nat)
  | listCheckpoints (runId : String)
  | replayCheckpoints (runId : String)
  | checkpointsNamed (runId name : String)
  | putSignalWaiter (waiter : SignalWaiter)
  | takeSignalWaiter (token : Token)
  | removeSignalWaiter (waiter : SignalWaiter)
  | listSignalWaiters (eventName : String)
  | registerChildWaits (entries : List ChildWait)
  | bufferSignal (token : Token) (payload : Payload)
  | takeBufferedSignal (token : Token)
  | bufferEvent (event : BufferedEvent)
  | listBufferedEvents (name : String) (limit : Nat)
  | removeBufferedEvent (id : String)
  | requestWake (runId : String)
  | takeWake (runId : String)
  | deferEffect (effect : Deferred)
  | takeDeferred (effect : Deferred)
  | dispatchTask (task : TaskDispatch)
  | tryAdmit (queue : String) (item : AdmissionItem)
  | releaseSlot (queue : String)
  | runBody (runId : String) (seq attempt : Nat)
  | dispatchRefusal (runId : String)
  | clock

/-- What an operation answers. -/
def StoreOp.Answer : StoreOp → Type
  | getRun _ => Option WorkflowRun
  | createRun _ => Bool
  | updateRun .. => Bool
  | updateRunIf .. => Bool
  | getCheckpoint .. => Option StepCheckpoint
  | readCheckpoint .. => Option StepCheckpoint
  | saveCheckpoint _ => Unit
  | saveCheckpointIfPending _ => Bool
  | settleCheckpointsIfPending _ => List Bool
  | renewCheckpointLease .. => Bool
  | listCheckpoints _ => List StepCheckpoint
  | replayCheckpoints _ => Nat → Option StepCheckpoint
  | checkpointsNamed .. => List StepCheckpoint
  | putSignalWaiter _ => Unit
  | takeSignalWaiter _ => Option SignalWaiter
  | removeSignalWaiter _ => Unit
  | listSignalWaiters _ => List SignalWaiter
  | registerChildWaits _ => Unit
  | bufferSignal .. => Unit
  | takeBufferedSignal _ => Option Payload
  | bufferEvent _ => Unit
  | listBufferedEvents .. => List BufferedEvent
  | removeBufferedEvent _ => Bool
  | requestWake _ => Unit
  | takeWake _ => Bool
  | deferEffect _ => Unit
  | takeDeferred _ => Bool
  | dispatchTask _ => Unit
  | tryAdmit .. => Option QueueAdmission
  | releaseSlot _ => Unit
  | runBody .. => Except StepError Payload
  | dispatchRefusal _ => Option String
  | clock => Nat

/-- Every operation has some answer. -/
instance : (op : StoreOp) → Inhabited op.Answer
  | .getRun _ => ⟨none⟩
  | .createRun _ => ⟨false⟩
  | .updateRun .. => ⟨false⟩
  | .updateRunIf .. => ⟨false⟩
  | .getCheckpoint .. => ⟨none⟩
  | .readCheckpoint .. => ⟨none⟩
  | .saveCheckpoint _ => ⟨()⟩
  | .saveCheckpointIfPending _ => ⟨false⟩
  | .settleCheckpointsIfPending _ => ⟨[]⟩
  | .renewCheckpointLease .. => ⟨false⟩
  | .listCheckpoints _ => ⟨[]⟩
  | .replayCheckpoints _ => ⟨fun _ => none⟩
  | .checkpointsNamed .. => ⟨[]⟩
  | .putSignalWaiter _ => ⟨()⟩
  | .takeSignalWaiter _ => ⟨none⟩
  | .removeSignalWaiter _ => ⟨()⟩
  | .listSignalWaiters _ => ⟨[]⟩
  | .registerChildWaits _ => ⟨()⟩
  | .bufferSignal .. => ⟨()⟩
  | .takeBufferedSignal _ => ⟨none⟩
  | .bufferEvent _ => ⟨()⟩
  | .listBufferedEvents .. => ⟨[]⟩
  | .removeBufferedEvent _ => ⟨false⟩
  | .requestWake _ => ⟨()⟩
  | .takeWake _ => ⟨false⟩
  | .deferEffect _ => ⟨()⟩
  | .takeDeferred _ => ⟨false⟩
  | .dispatchTask _ => ⟨()⟩
  | .tryAdmit .. => ⟨none⟩
  | .releaseSlot _ => ⟨()⟩
  | .runBody .. => ⟨.ok none⟩
  | .dispatchRefusal _ => ⟨none⟩
  | .clock => ⟨(0 : Nat)⟩

namespace Store

variable (store : Store)

/-- Write a run row. -/
def setRun (run : WorkflowRun) : Store :=
  { store with runs := store.runs.set run.id run }

/-- Write a checkpoint. -/
def setCheckpoint (checkpoint : StepCheckpoint) : Store :=
  { store with
    checkpoints := store.checkpoints.set (checkpoint.runId, checkpoint.seq) checkpoint }

/-- Write a waiter; a token has one row, so an earlier one is replaced. -/
def setWaiter (waiter : SignalWaiter) : Store :=
  { store with signalWaiters := store.signalWaiters.set waiter.token waiter }

/-- The buffered payloads of a token. -/
def buffered (token : Token) : List Payload :=
  (store.bufferedSignals.get token).getD []

/-- Insert an event so that the older ones come first. -/
def insertEvent (event : BufferedEvent) : List BufferedEvent → List BufferedEvent
  | [] => [event]
  | other :: rest =>
    if event.publishedAt < other.publishedAt then event :: other :: rest
    else other :: insertEvent event rest

/-- The buffered events of a name, oldest first, rows of one moment in insertion order. -/
def eventsOf (name : String) : List BufferedEvent :=
  (store.bufferedEvents.values.filter (·.name == name)).foldl
    (fun sorted event => insertEvent event sorted) []

/-- The checkpoints of a run. -/
def checkpointsOf (runId : String) : List StepCheckpoint :=
  (store.checkpoints.keys.filter (·.1 == runId)).filterMap store.checkpoints.get

/-- Settle one result onto its step's checkpoint while that is pending. -/
def settleOne (settlement : StepSettlement) : Store × Bool :=
  match store.checkpoints.get (settlement.runId, settlement.seq) with
  | none => (store, false)
  | some held =>
    if held.status = .pending then
      ({ store with
        checkpoints := store.checkpoints.set (settlement.runId, settlement.seq)
          (held.settled settlement) }, true)
    else (store, false)

/-- Settle results in order, and say of each whether it was written. -/
def settleEach : Store → List StepSettlement → Store × List Bool
  | store, [] => (store, [])
  | store, settlement :: rest =>
    let first := store.settleOne settlement
    let later := settleEach first.1 rest
    (later.1, first.2 :: later.2)

/-- What an operation does to the store, and what it answers. -/
def exec : (op : StoreOp) → Store × op.Answer
  | .getRun runId => (store, store.runs.get runId)
  | .createRun run =>
    -- A duplicate id is refused, which is what makes racing starts converge.
    match store.runs.get run.id with
    | some _ => (store, false)
    | none => (store.setRun run, true)
  | .updateRun runId patch =>
    match store.runs.get runId with
    | none => (store, false)
    | some run => ({ store with runs := store.runs.set runId (run.patched patch) }, true)
  | .updateRunIf runId expected patch =>
    match store.runs.get runId with
    | none => (store, false)
    | some run =>
      if run.status ∈ expected then
        ({ store with runs := store.runs.set runId (run.patched patch) }, true)
      else (store, false)
  | .getCheckpoint runId seq => (store, store.checkpoints.get (runId, seq))
  | .readCheckpoint runId seq snapshot =>
    -- A row of the turn's snapshot is answered without asking the store.
    match snapshot with
    | some checkpoint => (store, some checkpoint)
    | none => (store, store.checkpoints.get (runId, seq))
  | .saveCheckpoint checkpoint => (store.setCheckpoint checkpoint, ())
  | .saveCheckpointIfPending checkpoint =>
    match store.checkpoints.get (checkpoint.runId, checkpoint.seq) with
    | none => (store, false)
    | some held =>
      if held.status = .pending then (store.setCheckpoint checkpoint, true) else (store, false)
  | .settleCheckpointsIfPending settlements => store.settleEach settlements
  | .renewCheckpointLease runId seq expected wakeAt =>
    match store.checkpoints.get (runId, seq) with
    | none => (store, false)
    | some held =>
      if held.status = .pending ∧ held.wakeAt = expected then
        ({ store with
          checkpoints :=
            store.checkpoints.set (runId, seq) { held with wakeAt := some wakeAt } }, true)
      else (store, false)
  | .listCheckpoints runId => (store, store.checkpointsOf runId)
  | .replayCheckpoints runId => (store, fun seq => store.checkpoints.get (runId, seq))
  | .checkpointsNamed runId name =>
    (store, store.checkpoints.values.filter fun row => row.runId == runId && row.name == name)
  | .putSignalWaiter waiter => (store.setWaiter waiter, ())
  | .takeSignalWaiter token =>
    match store.signalWaiters.get token with
    | none => (store, none)
    | some waiter =>
      ({ store with signalWaiters := store.signalWaiters.erase token }, some waiter)
  | .removeSignalWaiter waiter =>
    -- Only the exact row: a later wait may have replaced it.
    match store.signalWaiters.get waiter.token with
    | none => (store, ())
    | some held =>
      if held.runId = waiter.runId ∧ held.seq = waiter.seq then
        ({ store with signalWaiters := store.signalWaiters.erase waiter.token }, ())
      else (store, ())
  | .listSignalWaiters eventName =>
    (store, store.signalWaiters.values.filter fun waiter => waiter.token.awaits eventName)
  | .registerChildWaits entries =>
    let waiting := entries.foldl (fun store entry => store.setWaiter entry.waiter) store
    (entries.foldl (fun store entry => store.setCheckpoint entry.checkpoint) waiting, ())
  | .bufferSignal token payload =>
    ({ store with
      bufferedSignals := store.bufferedSignals.set token (store.buffered token ++ [payload]) }, ())
  | .takeBufferedSignal token =>
    match store.buffered token with
    | [] => (store, none)
    | payload :: rest =>
      ({ store with bufferedSignals := store.bufferedSignals.set token rest }, some payload)
  | .bufferEvent event =>
    ({ store with bufferedEvents := store.bufferedEvents.set event.id event }, ())
  | .listBufferedEvents name limit => (store, (store.eventsOf name).take limit)
  | .removeBufferedEvent id =>
    match store.bufferedEvents.get id with
    | none => (store, false)
    | some _ => ({ store with bufferedEvents := store.bufferedEvents.erase id }, true)
  | .requestWake runId => ({ store with wakes := runId :: store.wakes }, ())
  | .takeWake runId =>
    ({ store with wakes := store.wakes.filter (· ≠ runId) }, store.wakes.contains runId)
  | .deferEffect effect => ({ store with deferred := effect :: store.deferred }, ())
  | .takeDeferred effect =>
    ({ store with deferred := store.deferred.filter (· ≠ effect) }, store.deferred.contains effect)
  | .dispatchTask task => ({ store with dispatched := task :: store.dispatched }, ())
  | .tryAdmit queue item =>
    -- A queue nobody has registered does not gate its calls.
    match store.queues.get queue with
    | none => (store, none)
    | some controller =>
      let (asked, admission) := controller.tryAdmit store.clock item
      ({ store with queues := store.queues.set queue asked }, some admission)
  | .releaseSlot queue =>
    match store.queues.get queue with
    | none => (store, ())
    | some controller =>
      ({ store with queues := store.queues.set queue controller.release }, ())
  | .runBody runId seq attempt => (store, store.around.bodies runId seq attempt)
  | .dispatchRefusal runId => (store, store.around.refusals runId)
  | .clock => (store, store.clock)

/-- Every checkpoint is stored under its own run and position. -/
def Keyed : Prop :=
  ∀ key row, store.checkpoints.get key = some row → (row.runId, row.seq) = key

end Store

/-- What the store answers about rows: each under its own run and position, and each once. -/
def fitsRows : (op : StoreOp) → op.Answer → Prop
  | .getCheckpoint id position, answer =>
    ∀ row, answer = some row → (row.runId, row.seq) = (id, position)
  | .readCheckpoint _ _ (some row), answer => answer = some row
  | .readCheckpoint id position none, answer =>
    ∀ row, answer = some row → (row.runId, row.seq) = (id, position)
  | .replayCheckpoints id, answer =>
    ∀ position row, answer position = some row → (row.runId, row.seq) = (id, position)
  | .listCheckpoints id, answer =>
    List.Forall (fun row : StepCheckpoint => row.runId = id) answer ∧
      List.Pairwise (fun row other : StepCheckpoint => row.seq ≠ other.seq) answer
  | _, _ => True

/-- What time does to the store. -/
def Store.elapse (passed : Nat) (store : Store) : Store :=
  { store with clock := store.clock + passed }

end Durable
