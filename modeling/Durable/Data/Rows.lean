import Durable.Data.Failure
import Durable.Data.Token

/-! The rows of the state store: runs, checkpoints, waiters, and buffered events. -/

namespace Durable

/-- The status of a run. -/
inductive RunStatus where
  | pending | running | suspended | blocked | completed | failed | cancelled | dead
deriving Repr, DecidableEq, Inhabited

/-- Whether a status ends its run. -/
def isTerminalStatus : RunStatus → Bool
  | .completed | .failed | .cancelled | .dead => true
  | .pending | .running | .suspended | .blocked => false

/-- The status as the wire and the error texts spell it. -/
def RunStatus.text : RunStatus → String
  | pending => "pending"
  | running => "running"
  | suspended => "suspended"
  | blocked => "blocked"
  | completed => "completed"
  | failed => "failed"
  | cancelled => "cancelled"
  | dead => "dead"

/-- What kind of operation a checkpoint records. -/
inductive StepKind where
  | local | remote | sleep | signal
deriving Repr, DecidableEq, Inhabited

/-- How far a recorded step has come. -/
inductive StepStatus where
  | pending | running | completed | failed
deriving Repr, DecidableEq, Inhabited

/-- The recorded result of the operation at one position of a run. -/
structure StepCheckpoint where
  runId : String
  seq : Nat
  name : String
  kind : StepKind
  status : StepStatus := .completed
  input : Option Value := none
  output : Option Value := none
  error : Option StepError := none
  attempts : Nat := 1
  wakeAt : Option Nat := none
  parallelGroup : Option String := none
  queue : Option String := none
deriving Repr, DecidableEq, Inhabited

/-- The stable identity of a step within a run. -/
def stepId (runId : String) (seq : Nat) : String :=
  s!"{runId}:{seq}"

/-- How a worker's attempt ended. -/
inductive ResultStatus where
  | completed | failed
deriving Repr, DecidableEq, Inhabited

/-- The status a result settles its step with. -/
def ResultStatus.stepStatus : ResultStatus → StepStatus
  | completed => .completed
  | failed => .failed

/-- A worker's result; it does not say which attempt it is of. -/
structure StepResult where
  runId : String
  seq : Nat
  status : ResultStatus
  output : Option Value := none
  error : Option StepError := none
deriving Repr, DecidableEq, Inhabited

/-- What a result changes on its step's checkpoint. -/
structure StepSettlement where
  runId : String
  seq : Nat
  status : ResultStatus
  output : Option Value
  error : Option StepError
deriving Repr, DecidableEq, Inhabited

/-- What a result settles onto its step's checkpoint. -/
def settlementOf (checkpoint : StepCheckpoint) (result : StepResult) : StepSettlement :=
  { runId := checkpoint.runId, seq := checkpoint.seq, status := result.status
    output := if result.status = .completed then result.output else checkpoint.output
    error := result.error }

/-- The row a settlement makes of a stored one. -/
def StepCheckpoint.settled (row : StepCheckpoint) (settlement : StepSettlement) : StepCheckpoint :=
  { row with
    status := settlement.status.stepStatus, output := settlement.output
    error := settlement.error }

/-- A run suspended on a token, to be resumed by a delivery to it. -/
structure SignalWaiter where
  token : Token
  runId : String
  seq : Nat
  parallelGroup : Option String := none
deriving Repr, DecidableEq, Inhabited

/-- An event kept for a later wait. -/
structure BufferedEvent where
  id : String
  name : String
  payload : Option Value
  publishedAt : Nat
deriving Repr, DecidableEq, Inhabited

/-- One execution of a workflow. -/
structure WorkflowRun where
  id : String
  workflow : String
  status : RunStatus
  input : Option Value := none
  output : Option Value := none
  error : Option StepError := none
  wakeAt : Option Nat := none
  lockedBy : Option String := none
  lockedUntil : Option Nat := none
  recoveryAttempts : Nat := 0
  /-- Searchable labels, the engine's own lifecycle tags among them. -/
  tags : List String := []
  awaitingDecisionTaskId : Option String := none
  /-- When a wake that found the lease held asked for another turn. -/
  wakeRequestedAt : Option Nat := none
deriving Repr, DecidableEq, Inhabited

end Durable
