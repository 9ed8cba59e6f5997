import Durable.Ctx.Children
import Durable.Engine.Signals
import Durable.Worker.Protocol

/-! What a remote turn's commands make the engine do: `applyCommands`. -/

namespace Durable

open Engine Worker

/-- The error a pending step whose dispatches were all lost is failed with. -/
def lostCallError (checkpoint : StepCheckpoint) : StepError :=
  let name := checkpoint.name
  let attempts := checkpoint.attempts
  { message := s!"remote step \"{name}\" lost — no result after {attempts} dispatch(es)"
    code := some "remote_step_lost", retryable := some false }

/-- When a run parked on a step's lease is looked at again, by the clock of the moment. -/
def RemotePolicy.leaseWake (policy : RemotePolicy) (lease : Nat) : Engine (Option Nat) := do
  let now ← Engine.clock
  return some ({ policy with clock := now }.stepLeaseWakeAt lease)

/-- Look at a pending step again: stamp its lease, wait it out, send the step anew, or fail it. -/
def redriveLostCall (policy : RemotePolicy) (checkpoint : StepCheckpoint) :
    Engine (Option Nat) := do
  if checkpoint.kind ≠ .remote ∨ checkpoint.status ≠ .pending then return none
  else
    match policy.remoteRedispatchMs with
    | none => return none
    | some window =>
      let now ← clock
      match checkpoint.wakeAt with
      | none =>
        saveCheckpoint { checkpoint with wakeAt := some (now + window) }
        policy.leaseWake (now + window)
      | some lease =>
        if now < lease then policy.leaseWake lease
        else if policy.remoteRedispatchMax ≤ checkpoint.attempts then
          saveCheckpoint { checkpoint with
            status := .failed, error := some (lostCallError checkpoint), wakeAt := none }
          return some (← clock)
        else
          let renewed := (← clock) + window
          saveCheckpoint { checkpoint with
            attempts := checkpoint.attempts + 1, wakeAt := some renewed }
          dispatchTask { runId := checkpoint.runId, seq := checkpoint.seq
                         attempt := checkpoint.attempts + 1 }
          policy.leaseWake renewed

/-- The id of a child a remote turn starts. -/
def remoteChildId (runId : String) (seq : Nat) : String := s!"{runId}.child.{seq}"

/-- The completion a remote parent derives from its child's row. -/
def remoteRowCompletion (child : WorkflowRun) : Completion :=
  if child.status = .completed then .ok child.output
  else failedCompletion (child.error.getD { message := child.status.text })

/-- The earlier of two wakes. -/
def earlierWake : Option Nat → Option Nat → Option Nat
  | none, wake | wake, none => wake
  | some left, some right => some (min left right)

section Commands

variable (policy : RemotePolicy) (runId : String)

/-- The checkpoint of a local step the worker ran. -/
def recordedStep (seq : Nat) (name : String) (result : Except StepError (Option Value)) :
    StepCheckpoint :=
  match result with
  | .ok output => { runId, seq, name, kind := .local, output }
  | .error error => { runId, seq, name, kind := .local, status := .failed, error := some error }

/-- Dispatch a step a turn calls, unless it has a checkpoint already. -/
def applyCall (redriveLost : Bool) (seq : Nat) (name : String) (input : Option Value)
    (parallelGroup : Option String) : Engine (Option Nat) := do
  match ← getCheckpoint runId seq with
  | some existing => if redriveLost then redriveLostCall policy existing else return none
  | none =>
    let now ← clock
    let lease := policy.remoteRedispatchMs.map (now + ·)
    saveCheckpoint { runId, seq, name, kind := .remote, status := .pending, input, wakeAt := lease
                     parallelGroup }
    dispatchTask { runId, seq, attempt := 1 }
    match lease with
    | none => return none
    | some lease => policy.leaseWake lease

/-- The checkpoint of a turn's timer. -/
def armedSleep (seq deadline : Nat) : StepCheckpoint :=
  { runId, seq, name := s!"sleep:{seq}", kind := .sleep, status := .pending
    wakeAt := some deadline }

/-- Arm a turn's timer. -/
def applySleep (seq ms : Nat) : Engine (Option Nat) := do
  let deadline := (← clock) + ms
  saveCheckpoint (armedSleep runId seq deadline)
  return some deadline

/-- The waiter of a turn's wait for a signal. -/
def remoteWaiter (seq : Nat) (signal : String) : SignalWaiter :=
  { token := .named signal, runId, seq }

/-- Resolve a turn's wait with a buffered payload, and drive the run again. -/
def deliverBuffered (seq : Nat) (signal : String) (payload : Payload) : Engine Unit := do
  saveCheckpoint ((remoteWaiter runId seq signal).resolved payload)
  requestWake runId

/-- Park a turn on a signal, unless one is buffered. -/
def applyWaitSignal (seq : Nat) (signal : String) : Engine Unit := do
  match ← takeBufferedSignal (.named signal) with
  | some payload => deliverBuffered runId seq signal payload
  | none =>
    putSignalWaiter (remoteWaiter runId seq signal)
    match ← takeBufferedSignal (.named signal) with
    | none => return ()
    | some payload =>
      removeSignalWaiter (remoteWaiter runId seq signal)
      deliverBuffered runId seq signal payload

/-- The waiter of a turn's child. -/
def remoteChildWaiter (seq : Nat) (parallelGroup : Option String) : SignalWaiter :=
  { token := childToken (remoteChildId runId seq), runId, seq, parallelGroup }

/-- Resolve a turn's wait for a child, and drive the run again. -/
def deliverChild (seq : Nat) (parallelGroup : Option String) (payload : Payload) :
    Engine Unit := do
  removeSignalWaiter (remoteChildWaiter runId seq parallelGroup)
  saveCheckpoint ((remoteChildWaiter runId seq parallelGroup).resolved payload)
  requestWake runId

/-- Await a turn's child: what is buffered, what its row says, or its start. -/
def applyStartChild (seq : Nat) (parallelGroup : Option String) : Engine Unit := do
  let childId := remoteChildId runId seq
  putSignalWaiter (remoteChildWaiter runId seq parallelGroup)
  match ← takeBufferedSignal (childToken childId) with
  | some payload => deliverChild runId seq parallelGroup payload
  | none =>
    match ← getRun childId with
    | none => deferEffect (.startChild childId)
    | some child =>
      if isTerminalStatus child.status then
        markChildDelivered child
        deliverChild runId seq parallelGroup (some (remoteRowCompletion child).toValue)
      else return ()

/-- Apply one command, and say when its run is due. -/
def applyCommand (redriveLost : Bool) : WorkflowCommand → Engine (Option Nat)
  | .recordStep seq name result _ _ => do
    saveCheckpoint (recordedStep runId seq name result)
    return none
  | .call seq name _ input parallelGroup =>
    applyCall policy runId redriveLost seq name input parallelGroup
  | .sleep seq ms => applySleep runId seq ms
  | .waitSignal seq signal => do
    applyWaitSignal runId seq signal
    return none
  | .startChild seq _ _ parallelGroup => do
    applyStartChild runId seq parallelGroup
    return none

/-- Apply a turn's commands in order, and say when its run is due. -/
def applyCommands (redriveLost : Bool) : List WorkflowCommand → Engine (Option Nat)
  | [] => return none
  | command :: rest => do
    let due ← applyCommand policy runId redriveLost command
    let later ← applyCommands redriveLost rest
    return earlierWake due later

/-- The token a command waits for, if it waits. -/
def awaitedToken : WorkflowCommand → Option Token
  | .waitSignal _ signal => some (.named signal)
  | .startChild seq .. => some (childToken (remoteChildId runId seq))
  | _ => none

/-- Commands as a turn decides them: a position each, and no token waited for twice. -/
structure Decided (commands : List WorkflowCommand) : Prop where
  placed : commands.Pairwise fun one other => one.seq ≠ other.seq
  aimed : commands.Pairwise fun one other =>
    ∀ token, awaitedToken runId one = some token → awaitedToken runId other ≠ some token

/-- What has been put on the transport for a position. -/
def tasksAt (store : Store) (seq : Nat) : List TaskDispatch :=
  store.dispatched.filter fun task => task.runId == runId && task.seq == seq

/-- How often the start of the child of a position has been asked for. -/
def startsAt (store : Store) (seq : Nat) : Nat :=
  store.deferred.count (.startChild (remoteChildId runId seq))

/-- The store after a turn's commands have been applied. -/
def afterCommands (redriveLost : Bool) (commands : List WorkflowCommand) (store : Store) : Store :=
  ((applyCommands policy runId redriveLost commands).alone Store.exec store).1

/-- Applying commands to what they have been applied to before changed nothing of it. -/
structure Inert (commands : List WorkflowCommand) (before after : Store) : Prop where
  kept : ∀ seq row, before.checkpoints.get (runId, seq) = some row →
    after.checkpoints.get (runId, seq) = some row
  unsent : ∀ seq row, before.checkpoints.get (runId, seq) = some row →
    tasksAt runId after seq = tasksAt runId before seq
  /-- No child is started that has a run, or whose position had a checkpoint. -/
  unstarted : ∀ seq, (before.checkpoints.get (runId, seq)).isSome ∨
      (before.runs.get (remoteChildId runId seq)).isSome →
    startsAt runId after seq = startsAt runId before seq
  unawaited : ∀ command ∈ commands, ∀ token row waiter,
    awaitedToken runId command = some token →
      before.checkpoints.get (runId, command.seq) = some row → row.status = .completed →
        after.signalWaiters.get token = some waiter →
          (waiter.runId, waiter.seq) ≠ (runId, command.seq)

/-- What a command has to find at its position, where a checkpoint is there already. -/
def Tolerates (redriveLost : Bool) (store : Store) (row : StepCheckpoint) :
    WorkflowCommand → Prop
  | .recordStep seq name result _ _ => row = recordedStep runId seq name result
  | .call .. =>
    -- Only a lapsed or missing lease makes the engine send the step again.
    redriveLost = true → row.kind = .remote → row.status = .pending →
      policy.remoteRedispatchMs ≠ none → ∃ lease, row.wakeAt = some lease ∧ store.clock < lease
  | .sleep seq ms => row = armedSleep runId seq (store.clock + ms)
  | .waitSignal seq signal =>
    match store.buffered (.named signal) with
    | payload :: _ => row = (remoteWaiter runId seq signal).resolved payload ∧
        ∀ waiter, store.signalWaiters.get (.named signal) = some waiter →
          (waiter.runId, waiter.seq) ≠ (runId, seq)
    | [] => row.status ≠ .completed
  | .startChild seq _ _ parallelGroup =>
    match store.buffered (childToken (remoteChildId runId seq)) with
    | payload :: _ => row = (remoteChildWaiter runId seq parallelGroup).resolved payload
    | [] =>
      match store.runs.get (remoteChildId runId seq) with
      | none => False
      | some child =>
        if isTerminalStatus child.status then
          row = (remoteChildWaiter runId seq parallelGroup).resolved
            (some (remoteRowCompletion child).toValue)
        else row.status ≠ .completed

end Commands

end Durable
