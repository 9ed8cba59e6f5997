import Durable.Interleaving.System
import Durable.Store.Store

/-! The operations an engine's programs are written with. -/

namespace Durable

open Interleaving (Program)

/-- A program of the engine over the shared store. -/
abbrev Engine (α : Type) := Program StoreOp StoreOp.Answer α

/-- Run a path for what it writes. -/
def discard {α : Type} (path : Engine α) : Engine Unit := path >>= fun _ => .done ()

namespace Engine

/-- Read a run. -/
def getRun (runId : String) : Engine (Option WorkflowRun) :=
  Program.perform (StoreOp.getRun runId)

/-- Create a run unless its id is taken. -/
def createRun (run : WorkflowRun) : Engine Bool :=
  Program.perform (StoreOp.createRun run)

/-- Write a run, whatever its stored status. -/
def updateRun (runId : String) (patch : RunPatch) : Engine Bool :=
  Program.perform (StoreOp.updateRun runId patch)

/-- Write a run whose stored status is still an expected one. -/
def updateRunIf (runId : String) (expected : List RunStatus) (patch : RunPatch) : Engine Bool :=
  Program.perform (StoreOp.updateRunIf runId expected patch)

/-- Read a checkpoint. -/
def getCheckpoint (runId : String) (seq : Nat) : Engine (Option StepCheckpoint) :=
  Program.perform (StoreOp.getCheckpoint runId seq)

/-- Read a checkpoint for a replay: from the turn's snapshot where it has one, else from the store. -/
def readCheckpoint (runId : String) (seq : Nat) (snapshot : Option StepCheckpoint) :
    Engine (Option StepCheckpoint) :=
  Program.perform (StoreOp.readCheckpoint runId seq snapshot)

/-- The checkpoints of a run, by position. -/
def replayCheckpoints (runId : String) : Engine (Nat → Option StepCheckpoint) :=
  Program.perform (StoreOp.replayCheckpoints runId)

/-- Write a checkpoint. -/
def saveCheckpoint (checkpoint : StepCheckpoint) : Engine Unit :=
  Program.perform (StoreOp.saveCheckpoint checkpoint)

/-- Write a checkpoint over a pending one. -/
def saveCheckpointIfPending (checkpoint : StepCheckpoint) : Engine Bool :=
  Program.perform (StoreOp.saveCheckpointIfPending checkpoint)

/-- Settle results onto their steps' checkpoints, each only over a pending one. -/
def settleCheckpointsIfPending (settlements : List StepSettlement) : Engine (List Bool) :=
  Program.perform (StoreOp.settleCheckpointsIfPending settlements)

/-- Move a pending step's deadline from an expected one. -/
def renewCheckpointLease (runId : String) (seq : Nat) (expected : Option Nat) (wakeAt : Nat) :
    Engine Bool :=
  Program.perform (StoreOp.renewCheckpointLease runId seq expected wakeAt)

/-- The checkpoints of a run. -/
def listCheckpoints (runId : String) : Engine (List StepCheckpoint) :=
  Program.perform (StoreOp.listCheckpoints runId)

/-- Register a waiter. -/
def putSignalWaiter (waiter : SignalWaiter) : Engine Unit :=
  Program.perform (StoreOp.putSignalWaiter waiter)

/-- Take whichever waiter a token has. -/
def takeSignalWaiter (token : Token) : Engine (Option SignalWaiter) :=
  Program.perform (StoreOp.takeSignalWaiter token)

/-- Remove exactly this waiter. -/
def removeSignalWaiter (waiter : SignalWaiter) : Engine Unit :=
  Program.perform (StoreOp.removeSignalWaiter waiter)

/-- The waiters of an event. -/
def listSignalWaiters (eventName : String) : Engine (List SignalWaiter) :=
  Program.perform (StoreOp.listSignalWaiters eventName)

/-- Register children's waits with their placeholders. -/
def registerChildWaits (entries : List ChildWait) : Engine Unit :=
  Program.perform (StoreOp.registerChildWaits entries)

/-- Buffer a signal. -/
def bufferSignal (token : Token) (payload : Payload) : Engine Unit :=
  Program.perform (StoreOp.bufferSignal token payload)

/-- Take the oldest buffered signal of a token. -/
def takeBufferedSignal (token : Token) : Engine (Option Payload) :=
  Program.perform (StoreOp.takeBufferedSignal token)

/-- Buffer an event. -/
def bufferEvent (event : BufferedEvent) : Engine Unit :=
  Program.perform (StoreOp.bufferEvent event)

/-- The oldest buffered events of a name. -/
def listBufferedEvents (name : String) (limit : Nat) : Engine (List BufferedEvent) :=
  Program.perform (StoreOp.listBufferedEvents name limit)

/-- Remove a buffered event, and learn whether it was still there. -/
def removeBufferedEvent (id : String) : Engine Bool :=
  Program.perform (StoreOp.removeBufferedEvent id)

/-- Ask for another turn of a run. -/
def requestWake (runId : String) : Engine Unit :=
  Program.perform (StoreOp.requestWake runId)

/-- Leave something to be done once the turn has let go of its run. -/
def deferEffect (effect : Deferred) : Engine Unit :=
  Program.perform (StoreOp.deferEffect effect)

/-- Put a step's attempt on the transport. -/
def dispatchTask (task : TaskDispatch) : Engine Unit :=
  Program.perform (StoreOp.dispatchTask task)

/-- Ask for a slot of a queue; a queue that does not gate its calls gives no answer. -/
def tryAdmit (queue : String) (item : AdmissionItem) : Engine (Option QueueAdmission) :=
  Program.perform (StoreOp.tryAdmit queue item)

/-- Give a slot of a queue back. -/
def releaseSlot (queue : String) : Engine Unit :=
  Program.perform (StoreOp.releaseSlot queue)

/-- Run a step's own function. -/
def runBody (runId : String) (seq attempt : Nat) : Engine (Except StepError Payload) :=
  Program.perform (StoreOp.runBody runId seq attempt)

/-- Ask why a step of a run cannot be sent. -/
def dispatchRefusal (runId : String) : Engine (Option String) :=
  Program.perform (StoreOp.dispatchRefusal runId)

/-- Read the clock. -/
def clock : Engine Nat := Program.perform StoreOp.clock

end Engine

/-- A program that reads a checkpoint first goes on with the stored one. -/
theorem alone_getCheckpoint {α : Type} (id : String) (position : Nat)
    (rest : Option StepCheckpoint → Engine α) (store : Store) :
    (Engine.getCheckpoint id position >>= rest).alone Store.exec store =
      (rest (store.checkpoints.get (id, position))).alone Store.exec store := rfl

/-- A program that reads the clock first goes on with its reading. -/
theorem alone_clock {α : Type} (rest : Nat → Engine α) (store : Store) :
    (Engine.clock >>= rest).alone Store.exec store =
      (rest store.clock).alone Store.exec store := rfl

/-- A program that reads a run first goes on with the stored one. -/
theorem alone_getRun {α : Type} (id : String) (rest : Option WorkflowRun → Engine α)
    (store : Store) :
    (Engine.getRun id >>= rest).alone Store.exec store =
      (rest (store.runs.get id)).alone Store.exec store := rfl

/-- A program that reads a run's checkpoints first goes on with the stored ones. -/
theorem alone_replayCheckpoints {α : Type} (id : String)
    (rest : (Nat → Option StepCheckpoint) → Engine α) (store : Store) :
    (Engine.replayCheckpoints id >>= rest).alone Store.exec store =
      (rest fun seq => store.checkpoints.get (id, seq)).alone Store.exec store := rfl

end Durable
