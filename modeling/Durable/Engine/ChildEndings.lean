import Durable.Ctx.Children
import Durable.Engine.Settle
import Durable.Engine.Signals
import Durable.Interleaving.Process

/-! The ways a child run ends, and how each of them tells the parent that waits for it. -/

namespace Durable

open Engine
open Interleaving

/-- A child, and the wait of its parent for it. -/
structure ChildSite where
  childId : String
  parentId : String
  seq : Nat
  parallelGroup : Option String := none
  /-- Other children of the fan are still out, so its barrier holds the parent's wake back. -/
  siblingsOut : Bool := false

namespace ChildSite

variable (site : ChildSite)

/-- What the parent waits on. -/
def token : Token := childToken site.childId

/-- The parent's waiter. -/
def waiter : SignalWaiter where
  token := site.token
  runId := site.parentId
  seq := site.seq
  parallelGroup := site.parallelGroup

/-- The checkpoint the parent's wait is completed with. -/
def completedWith (completion : Completion) : StepCheckpoint :=
  site.waiter.resolved (some completion.toValue)

end ChildSite

/-- How a run ended, as its parent is told. -/
def endCompletion (run : WorkflowRun) : Completion :=
  if run.status = .completed then .ok run.output
  else failedCompletion (run.error.getD { message := run.status.text })

section Delivery

variable (site : ChildSite)

/-- Complete the wait whose waiter was taken, and wake the parent unless the fan's barrier holds. -/
def deliverToWait (waiter : SignalWaiter) (payload : Payload) : Engine Unit := do
  saveCheckpoint (waiter.resolved payload)
  if site.siblingsOut then return () else requestWake waiter.runId

/-- Whether the parent has settled its wait from the child's row. -/
def isDelivered (childId : String) : Engine Bool := do
  let run ← getRun childId
  return run.any (·.tags.contains childDeliveredTag)

/-- Signal a completion nobody waits for, and take it back when the parent has it already. -/
def signalCompletion (completion : Completion) : Engine Unit := do
  let resumed ← signal site.token (some completion.toValue)
  if resumed then return ()
  else if ← isDelivered site.childId then
    let _ ← takeBufferedSignal site.token
    return ()
  else return ()

/-- Deliver a child's completion to the parent that waits for it, or keep it where one needs it. -/
def deliverToParent (needsBuffer : Engine Bool) (completion : Completion) : Engine Unit := do
  match ← takeSignalWaiter site.token with
  | some waiter => deliverToWait site waiter (some completion.toValue)
  | none =>
    if ← isDelivered site.childId then return ()
    else if ← needsBuffer then signalCompletion site completion
    else return ()

end Delivery

/-- The failure of a run that outlived its execution timeout. -/
def executionTimeout : StepError :=
  { message := "execution timeout", code := some "execution_timeout" }

section Paths

variable (site : ChildSite) (needsBuffer : Engine Bool) (settings : TurnSettings)
  (run : WorkflowRun)

/-- After an applied write, tell the parent; otherwise report the run as it is stored. -/
def tellParent (completion : Completion) (applied : Bool) : Engine Unit :=
  if applied then deliverToParent site needsBuffer completion
  else discard (echoCurrentStatus site.childId)

/-- `settleRun`, for a run that has completed. -/
def completeChild (output : Option Value) : Engine Unit := do
  let applied ← updateRunIf site.childId settleEligibleStatuses
    (withLifecycleMarker settings.marker run
      { status := some .completed, output := some output, error := some none })
  tellParent site needsBuffer (.ok output) applied

/-- `settleRun`, for a run that has failed. -/
def failChild (error : StepError) : Engine Unit := do
  let applied ← updateRunIf site.childId (settleEligibleStatuses.filter (· ≠ .failed))
    (withLifecycleMarker settings.marker run
      { status := some .failed, error := some (some error) })
  tellParent site needsBuffer (failedCompletion error) applied

/-- `settleRun`: apply a turn's outcome, and tell the parent of an ending. -/
def settleChildRun (routeFailure : StepError → Engine (Option RunOutcome))
    (outcome : RunOutcome) : Engine Unit :=
  if settings.leaseLost then discard (echoCurrentStatus site.childId)
  else
    match outcome with
    | .completed output => completeChild site needsBuffer settings run output
    | .suspended wakeAt =>
      discard (settleSuspended settings { run with id := site.childId } wakeAt)
    | .failed error => do
      match ← routeFailure error with
      | some (.completed output) => completeChild site needsBuffer settings run output
      | some (.suspended wakeAt) =>
        discard (settleSuspended settings { run with id := site.childId } wakeAt)
      | some (.failed handed) => failChild site needsBuffer settings run handed
      | none => failChild site needsBuffer settings run error

/-- The write of a cancellation, and the notice of it. -/
def cancelAndTell : Engine Unit := do
  let applied ← writeCancelled settings.marker { run with id := site.childId }
  tellParent site needsBuffer (failedCompletion cancelledError) applied

/-- `cancel`, without compensation. -/
def cancelChild : Engine Unit := do
  match ← getRun site.childId with
  | none => return ()
  | some stored =>
    if isTerminalStatus stored.status then return ()
    else cancelAndTell site needsBuffer settings stored

/-- `compensateAndCancel`. -/
def compensateChild (compensations : Engine Unit) : Engine Unit := do
  if settings.leaseLost then discard (echoCurrentStatus site.childId)
  else
    compensations
    cancelAndTell site needsBuffer settings run

/-- The end of a run that goes on as a new one. -/
def continueChild (startContinuation : Engine Unit) : Engine Unit := do
  startContinuation
  let applied ← updateRun site.childId
    { status := some .completed, output := some none, error := some none }
  tellParent site needsBuffer (.ok none) applied

/-- `deadLetterLeased`. -/
def deadLetterChild (source : List RunStatus) (error : StepError) : Engine Unit := do
  if ← deadLetterLeased settings.marker { run with id := site.childId } source error then
    deliverToParent site needsBuffer (failedCompletion error)
  else return ()

/-- `sweepTimeouts`: the parent is told the message alone. -/
def sweepChild : Engine Unit := do
  if ← sweepTimeout settings.marker { run with id := site.childId } then
    deliverToParent site needsBuffer (.failed executionTimeout.message none none)
  else return ()

/-- The error of an inline remote turn: nobody is told. -/
def failRemoteChild (error : StepError) : Engine Unit := do
  let _ ← updateRun site.childId (withLifecycleMarker settings.marker run
    { status := some .failed, error := some (some error) })
  return ()

/-- A remote turn that could not be sent: nobody is told. -/
def failUndispatchedChild (taskId : String) (error : StepError) : Engine Unit :=
  discard (failUndispatchedTurn settings { run with id := site.childId } taskId error)

/-- The decision of a remote turn that was cancelled: nobody is told. -/
def applyCancelledDecision (applyCommands : Engine Unit) : Engine Unit := do
  applyCommands
  let _ ← updateRun site.childId { status := some .cancelled }
  return ()

end Paths

/-- How far a process has come with an ending of the child. -/
inductive EndingPhase where
  | idle
  /-- It has not ended the child, and would not tell the parent how. -/
  | silent
  /-- It has ended the child, and owes the parent its completion. -/
  | owes (completion : Completion)
  | holds (completion : Completion)
  | recorded (completion : Completion)
  | delivered (completion : Completion)
  | spare
deriving Repr, DecidableEq

/-- The completion a terminal patch ends its run with. -/
def patchCompletion (patch : RunPatch) : Option Completion :=
  match patch.status with
  | some .completed => patch.output.map .ok
  | some .failed | some .cancelled | some .dead =>
    (patch.error.getD none).map failedCompletion
  | _ => none

/-- How a run has ended, if it has. -/
def endingOf (run : WorkflowRun) : Option Completion :=
  if isTerminalStatus run.status then some (endCompletion run) else none

namespace ChildSite

variable (site : ChildSite)

/-- The patch an operation writes the child with, if it does. -/
def patchOf : StoreOp → Option RunPatch
  | .updateRun runId patch => if runId = site.childId then some patch else none
  | .updateRunIf runId _ patch => if runId = site.childId then some patch else none
  | _ => none

/-- The patch an operation has written the child with, as it answers. -/
def writtenBy : (op : StoreOp) → op.Answer → Option RunPatch
  | .updateRun runId patch, true => if runId = site.childId then some patch else none
  | .updateRunIf runId _ patch, true => if runId = site.childId then some patch else none
  | _, _ => none

/-- An operation leaves the parent's wait alone, and does not end the child. -/
def Elsewhere : StoreOp → Prop
  | .updateRun runId patch => runId = site.childId → settlesTerminally patch = false
  | .updateRunIf runId _ patch => runId = site.childId → settlesTerminally patch = false
  | .saveCheckpoint row => (row.runId, row.seq) ≠ (site.parentId, site.seq)
  | .saveCheckpointIfPending row => (row.runId, row.seq) ≠ (site.parentId, site.seq)
  | .settleCheckpointsIfPending rows =>
    ∀ row ∈ rows, (row.runId, row.seq) ≠ (site.parentId, site.seq)
  | .renewCheckpointLease runId seq _ _ => (runId, seq) ≠ (site.parentId, site.seq)
  | .putSignalWaiter waiter => waiter.token ≠ site.token
  | .takeSignalWaiter token => token ≠ site.token
  | .removeSignalWaiter waiter => waiter.token ≠ site.token
  | .registerChildWaits entries => ∀ entry ∈ entries, entry.waiter.token ≠ site.token ∧
      (entry.checkpoint.runId, entry.checkpoint.seq) ≠ (site.parentId, site.seq)
  | .requestWake runId => runId ≠ site.parentId
  | _ => True

/-- The operations a process may perform in a phase. -/
def allows : EndingPhase → StoreOp → Prop
  | .idle, op => site.Elsewhere op ∨ ((site.patchOf op).bind patchCompletion).isSome = true
  | .silent, op => site.Elsewhere op ∨ ∃ patch, site.patchOf op = some patch ∧
      settlesTerminally patch = true
  | .owes _, op => op = .takeSignalWaiter site.token
  | .holds completion, op => op = .saveCheckpoint (site.completedWith completion)
  | .recorded _, op => op = .requestWake site.parentId ∧ site.siblingsOut = false
  | .delivered _, _ => False
  | .spare, op => site.Elsewhere op ∨ op = .takeSignalWaiter site.token

/-- A guarded write finds no ended child, and the parent's waiter is there for one process. -/
def expects : EndingPhase → (op : StoreOp) → op.Answer → Prop
  | .silent, .updateRunIf runId expected patch, answer => runId = site.childId →
      settlesTerminally patch = true → (∀ status ∈ expected, isTerminalStatus status = false) →
        answer = false
  | .owes _, .takeSignalWaiter _, answer => answer = none ∨ answer = some site.waiter
  | .spare, .takeSignalWaiter token, answer => token = site.token → answer = none
  | _, _, _ => True

/-- The phase after an operation has been answered. -/
def advance : EndingPhase → (op : StoreOp) → op.Answer → EndingPhase
  | .idle, op, answer =>
    match (site.writtenBy op answer).bind patchCompletion with
    | some completion => .owes completion
    | none => .idle
  | .owes completion, .takeSignalWaiter _, some _ => .holds completion
  | .owes _, .takeSignalWaiter _, none => .spare
  | .holds completion, .saveCheckpoint _, _ => .recorded completion
  | .recorded completion, .requestWake _, _ => .delivered completion
  | phase, _, _ => phase

/-- The monitor of the processes around an ending. -/
def monitor : Monitor StoreOp StoreOp.Answer EndingPhase where
  allows := site.allows
  expects := site.expects
  advance := site.advance

/-- A process rests with nothing left to tell. -/
def Rested : EndingPhase → Unit → Prop
  | .idle, _ | .silent, _ | .spare, _ => True
  | .recorded _, _ => site.siblingsOut = true
  | .delivered _, _ => site.siblingsOut = false
  | .owes _, _ | .holds _, _ => False

end ChildSite

/-- The store, and what has happened at the parent's wait. -/
structure ChildBoard where
  store : Store
  /-- The checkpoints the parent's wait has been completed with, the latest first. -/
  completions : List StepCheckpoint := []
  woken : Nat := 0

namespace ChildSite

variable (site : ChildSite)

/-- The completions of the parent's wait after an operation. -/
def completionsAfter (completions : List StepCheckpoint) : StoreOp → List StepCheckpoint
  | .saveCheckpoint row =>
    if (row.runId, row.seq) = (site.parentId, site.seq) then row :: completions else completions
  | _ => completions

/-- The wakes of the parent after an operation. -/
def wokenAfter (woken : Nat) : StoreOp → Nat
  | .requestWake runId => if runId = site.parentId then woken + 1 else woken
  | _ => woken

/-- What an operation does, and what it answers. -/
def exec (board : ChildBoard) (op : StoreOp) : ChildBoard × op.Answer :=
  let done := board.store.exec op
  let after : ChildBoard :=
    { store := done.1, completions := site.completionsAfter board.completions op
      woken := site.wokenAfter board.woken op }
  (after, done.2)

/-- The patch an operation will write the child's row with. -/
def appliedPatch (store : Store) : StoreOp → Option RunPatch
  | .updateRun runId patch => if runId = site.childId then some patch else none
  | .updateRunIf runId expected patch =>
    if runId = site.childId ∧ (store.runs.get runId).any (·.status ∈ expected) then some patch
    else none
  | _ => none

/-- A write finds the child open, or leaves how it has ended as it is. -/
def keepsEnding (store : Store) (op : StoreOp) : Bool :=
  (store.runs.get site.childId).all fun run => !isTerminalStatus run.status ||
    (site.appliedPatch store op).all fun patch => endingOf (run.patched patch) = endingOf run

/-- A process that would not tell the parent does not end the open child. -/
def tellsEnding (store : Store) (phase : EndingPhase) (op : StoreOp) : Bool :=
  phase != .silent || (store.runs.get site.childId).all fun run => isTerminalStatus run.status ||
    (site.appliedPatch store op).all fun patch => !settlesTerminally patch

/-- The child is ended by those who tell the parent, and how it has ended is not rewritten. -/
def told : Admission ChildBoard StoreOp EndingPhase where
  step board phase _ op :=
    site.keepsEnding board.store op = true ∧ site.tellsEnding board.store phase op = true

instance (board : ChildBoard) (phase : EndingPhase) (others : List EndingPhase) (op : StoreOp) :
    Decidable (site.told.step board phase others op) :=
  inferInstanceAs (Decidable (_ ∧ _))

instance (board : ChildBoard) (phase : EndingPhase) (others : List EndingPhase) :
    Decidable (site.told.crash board phase others) :=
  inferInstanceAs (Decidable True)

/-- Processes around an ending of the child, one store operation at a time. -/
def system : System ChildBoard StoreOp (Process StoreOp StoreOp.Answer EndingPhase Unit) Empty
    StoreOp.Answer :=
  processes site.monitor site.exec (fun _ => none) fun disturbance _ => disturbance.elim

/-- A piece of work that leaves the parent's wait alone, and does not end the child. -/
def Piece {α : Type} (work : Engine α) : Prop := work.Uses site.Elsewhere

/-- The paths that may end the child, and those beside them; whether they would tell the parent. -/
inductive Path : Bool → Engine Unit → Prop where
  | settleRun {needsBuffer : Engine Bool} {routeFailure : StepError → Engine (Option RunOutcome)}
      (looks : site.Piece needsBuffer) (routes : ∀ error, site.Piece (routeFailure error))
      (settings : TurnSettings) (run : WorkflowRun) (outcome : RunOutcome) :
      Path true (settleChildRun site needsBuffer settings run routeFailure outcome)
  | cancel {needsBuffer : Engine Bool} (looks : site.Piece needsBuffer) (settings : TurnSettings) :
      Path true (cancelChild site needsBuffer settings)
  | compensateAndCancel {needsBuffer : Engine Bool} {compensations : Engine Unit}
      (looks : site.Piece needsBuffer) (compensates : site.Piece compensations)
      (settings : TurnSettings) (run : WorkflowRun) :
      Path true (compensateChild site needsBuffer settings run compensations)
  | continueAsNew {needsBuffer : Engine Bool} {startContinuation : Engine Unit}
      (looks : site.Piece needsBuffer) (continues : site.Piece startContinuation) :
      Path true (continueChild site needsBuffer startContinuation)
  | deadLetterLeased {needsBuffer : Engine Bool} (looks : site.Piece needsBuffer)
      (settings : TurnSettings) (run : WorkflowRun) (source : List RunStatus) (error : StepError) :
      Path true (deadLetterChild site needsBuffer settings run source error)
  | sweepTimeouts {needsBuffer : Engine Bool} (looks : site.Piece needsBuffer)
      (settings : TurnSettings) (run : WorkflowRun) :
      Path false (sweepChild site needsBuffer settings run)
  | remoteTurn (settings : TurnSettings) (run : WorkflowRun) (error : StepError) :
      Path false (failRemoteChild site settings run error)
  | undispatchedTurn (settings : TurnSettings) (run : WorkflowRun) (taskId : String)
      (error : StepError) : Path false (failUndispatchedChild site settings run taskId error)
  | cancelledDecision {applyCommands : Engine Unit} (applies : site.Piece applyCommands) :
      Path false (applyCancelledDecision site applyCommands)
  | beside {program : Engine Unit} (uses : site.Piece program) : Path true program

/-- A path that may tell the parent of an ending, or would not. -/
def process (tells : Bool) (program : Engine Unit) :
    Process StoreOp StoreOp.Answer EndingPhase Unit where
  phase := if tells then .idle else .silent
  rest := program

/-- The parent waits for the child, which is open. -/
structure Awaited (store : Store) : Prop where
  openRun : ∃ run, store.runs.get site.childId = some run ∧ isTerminalStatus run.status = false
  waiting : store.signalWaiters.get site.token = some site.waiter

/-- The parent's wait has been completed once, with the child's ending, and the parent woken. -/
structure ToldOnce (board : ChildBoard) (completion : Completion) : Prop where
  completed : board.completions = [site.completedWith completion]
  stored : board.store.checkpoints.get (site.parentId, site.seq) =
    some (site.completedWith completion)
  answered : board.store.signalWaiters.get site.token = none
  /-- The parent was woken once, unless the fan's barrier holds it back. -/
  woken : board.woken = if site.siblingsOut then 0 else 1

/-- The parent is told of the child's ending, once and as it is stored. -/
structure EndingTold
    (config : Config ChildBoard (Process StoreOp StoreOp.Answer EndingPhase Unit)) : Prop where
  /-- A wait that has been completed has been so once, with the child's ending. -/
  asStored : config.shared.completions = [] ∨
    ∃ run completion, config.shared.store.runs.get site.childId = some run ∧
      endingOf run = some completion ∧
        config.shared.completions = [site.completedWith completion]
  /-- Once every process is done, the parent of an ended child has been told. -/
  atRest : (∀ process ∈ config.pool, process.rests = true) →
    ∀ run completion, config.shared.store.runs.get site.childId = some run →
      endingOf run = some completion → site.ToldOnce config.shared completion

/-- Paths around a child that the parent waits for. -/
def around (store : Store) (paths : List (Bool × Engine Unit)) :
    Config ChildBoard (Process StoreOp StoreOp.Answer EndingPhase Unit) where
  shared := { store }
  pool := paths.map fun path => process path.1 path.2

end ChildSite

end Durable
