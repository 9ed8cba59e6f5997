import Durable.Ctx.All
import Durable.Ctx.Steps
import Durable.Engine.RemoteCommands
import Durable.Engine.StepResults
import Durable.Interleaving.Process

/-! The engine's paths that write a dispatched step's checkpoint, and what each has seen of it. -/

namespace Durable

open Engine Interleaving

/-- Who writes a step's checkpoint. -/
inductive StepWriter where
  | turn
  | requeue
  /-- A result, a redispatch, a heartbeat, a remote turn's command, or something else. -/
  | other
deriving Repr, DecidableEq

/-- A path's part in one step: who it is, and the step's row as it last saw it. -/
structure StepView where
  writer : StepWriter
  seen : Option StepCheckpoint := none

/-- A row holds a result. -/
def StepCheckpoint.isSettled (row : StepCheckpoint) : Prop :=
  row.status = .completed ∨ row.status = .failed

/-- Two rows hold the same result. -/
def StepCheckpoint.sameOutcome (row other : StepCheckpoint) : Prop :=
  row.status = other.status ∧ row.output = other.output ∧ row.error = other.error

section Watched

variable (runId : String) (seq : Nat)

/-- The row a path has seen after an operation on its step. -/
def StepView.after (view : StepView) : (op : StoreOp) → op.Answer → StepView
  | .getCheckpoint id position, answer =>
    if (id, position) = (runId, seq) then { view with seen := answer } else view
  | .readCheckpoint id position _, answer =>
    if (id, position) = (runId, seq) then { view with seen := answer } else view
  | .replayCheckpoints id, answer =>
    if id = runId then { view with seen := answer seq } else view
  | .listCheckpoints id, answer =>
    if id = runId then { view with seen := List.find? (·.seq = seq) answer } else view
  | .saveCheckpoint row, _ =>
    if (row.runId, row.seq) = (runId, seq) then { view with seen := some row } else view
  | .saveCheckpointIfPending row, (answer : Bool) =>
    if (row.runId, row.seq) = (runId, seq) ∧ answer then { view with seen := some row } else view
  | _, _ => view

/-- What a path may write over the row it has seen. -/
def StepView.mayWrite (view : StepView) (row : StepCheckpoint) : Prop :=
  match view.seen with
  | none => True
  | some held =>
    match held.status with
    | .completed => row.status = .completed ∧ row.output = held.output ∧ row.error = none
    | .failed =>
      row.sameOutcome held ∨ view.writer = .turn ∧ row.status = .pending ∨ view.writer = .requeue
    | _ => True

/-- Watch what a path does to one step. -/
def stepWatch : Monitor StoreOp StoreOp.Answer StepView where
  allows view
    | .saveCheckpoint row => (row.runId, row.seq) = (runId, seq) → view.mayWrite row
    | .registerChildWaits entries => ∀ entry ∈ entries,
        (entry.checkpoint.runId, entry.checkpoint.seq) ≠ (runId, seq)
    | _ => True
  expects _ op answer := fitsRows op answer
  advance view op answer := view.after runId seq op answer

instance (row : StepCheckpoint) : Decidable row.isSettled := inferInstanceAs (Decidable (_ ∨ _))

instance (row other : StepCheckpoint) : Decidable (row.sameOutcome other) :=
  inferInstanceAs (Decidable (_ ∧ _))

/-- A path has seen the settlement a row holds, and a completed row has no error left on it. -/
def StepView.Knows (view : StepView) (held : StepCheckpoint) : Prop :=
  (∃ seen ∈ view.seen, seen.sameOutcome held) ∧ (held.status = .completed → held.error = none)

instance (view : StepView) (held : StepCheckpoint) : Decidable (view.Knows held) :=
  inferInstanceAs (Decidable (_ ∧ _))

/-- The row an operation writes whatever is there. -/
def StoreOp.blindWrite : StoreOp → Option StepCheckpoint
  | .saveCheckpoint row => some row
  | _ => none

/-- Blind writes over a settled step are made by paths that know the settlement. -/
def awareWrites : Admission Store StoreOp StepView where
  step store view _ op :=
    ∀ row ∈ op.blindWrite, (row.runId, row.seq) = (runId, seq) →
      ∀ held ∈ store.checkpoints.get (runId, seq), held.isSettled → view.Knows held

instance (store : Store) (view : StepView) (others : List StepView) (op : StoreOp) :
    Decidable ((awareWrites runId seq).step store view others op) :=
  inferInstanceAs (Decidable (∀ _ ∈ _, _))

instance (store : Store) (view : StepView) (others : List StepView) :
    Decidable ((awareWrites runId seq).crash store view others) :=
  inferInstanceAs (Decidable True)

/-- An operation that leaves a step's checkpoint alone. -/
def Elsewhere : StoreOp → Prop
  | .saveCheckpoint row | .saveCheckpointIfPending row => (row.runId, row.seq) ≠ (runId, seq)
  | .registerChildWaits entries => ∀ entry ∈ entries,
      (entry.checkpoint.runId, entry.checkpoint.seq) ≠ (runId, seq)
  | _ => True

/-- An operation that neither reads a step's checkpoint nor writes it. -/
def Apart (op : StoreOp) : Prop :=
  Elsewhere runId seq op ∧ ∀ (view : StepView) answer, view.after runId seq op answer = view

/-- The paths that write a dispatched step's checkpoint. -/
inductive StepPath : StepWriter → Engine Unit → Prop where
  | result (support : StoreSupport) (queuedIn : Nat → Nat → Bool) (result : StepResult) :
      StepPath .other (completeOneRemoteResult support queuedIn result)
  | results (support : StoreSupport) (queuedIn : Nat → Nat → Bool) (id : String)
      (results : List StepResult) :
      StepPath .other (completeRemoteResults support queuedIn id results)
  | step (host : CtxHost)
      (placed : ∀ position row, host.replay position = some row →
        (row.runId, row.seq) = (host.runId, position))
      (step : StepDef) (input : Payload) (current : Nat) :
      StepPath .turn (discard (host.step step input current))
  | fan (host : CtxHost) (fan : StepFan) (own : fan.runId = host.runId) :
      StepPath .turn (discard (host.allSteps fan))
  | command (policy : RemotePolicy) (id : String) (redriveLost : Bool)
      (command : Worker.WorkflowCommand) :
      StepPath .other (discard (applyCommand policy id redriveLost command))
  | redispatch (id : String) : StepPath .other (redispatchPending id)
  | heartbeat (support : StoreSupport) (remoteRedispatchMs : Option Nat) (id : String)
      (position : Nat) : StepPath .other (renewStepLease support remoteRedispatchMs id position)
  | requeue (others : StepCheckpoint → Engine Unit)
      (apart : ∀ row, (others row).Uses (Apart runId seq)) (id : String) :
      StepPath .requeue (requeueCheckpoints others id)
  | foreign (program : Engine Unit) (elsewhere : program.Uses (Elsewhere runId seq)) :
      StepPath .other program

/-- The paths under way, each having seen nothing yet. -/
def stepPool (paths : List (StepWriter × Engine Unit)) :
    List (Process StoreOp StoreOp.Answer StepView Unit) :=
  paths.map fun path => { phase := { writer := path.1 }, rest := path.2 }

end Watched

/-- The paths over one store; any of them may stop for good, and time passes. -/
def stepPaths (runId : String) (seq : Nat) :
    System Store StoreOp (Process StoreOp StoreOp.Answer StepView Unit) Nat StoreOp.Answer :=
  processes (stepWatch runId seq) Store.exec
    (fun process => some { process with rest := .done (), again := none }) Store.elapse

/-- A store, and the paths under way over it. -/
abbrev StepConfig := Config Store (Process StoreOp StoreOp.Answer StepView Unit)

/-- A move tries a failed step again for its run's own execution, or opens it for a requeue. -/
def Retries (config : StepConfig) (move : Move Nat) (row : StepCheckpoint) : Prop :=
  ∃ index process, move = .step index ∧ config.pool[index]? = some process ∧
    (process.phase.writer = .turn ∧ row.status = .pending ∨ process.phase.writer = .requeue)

/-- A settled step stays settled, along all runs of a kind. -/
structure SettlementsLast (runId : String) (seq : Nat) (allowed : StepConfig → Move Nat → Prop)
    (start : StepConfig) : Prop where
  /-- A completed step keeps its status, output, and error for good. -/
  completed : ∀ config held final, (stepPaths runId seq).Reaches allowed start config →
    config.shared.checkpoints.get (runId, seq) = some held → held.status = .completed →
      (stepPaths runId seq).Reaches allowed config final →
        ∃ row, final.shared.checkpoints.get (runId, seq) = some row ∧ row.sameOutcome held
  /-- A failed step changes only by a retry of the run's own, or by a requeue. -/
  failed : ∀ config held move next, (stepPaths runId seq).Reaches allowed start config →
    config.shared.checkpoints.get (runId, seq) = some held → held.status = .failed →
      allowed config move → (stepPaths runId seq).fire config move = some next →
        ∃ row, next.shared.checkpoints.get (runId, seq) = some row ∧
          (row.sameOutcome held ∨ Retries config move row)

end Durable
