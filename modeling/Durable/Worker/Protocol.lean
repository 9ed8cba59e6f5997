import Durable.Data.Failure

/-! The wire between the engine and a workflow worker: history events, commands, and decisions. -/

namespace Durable.Worker

/-- The kind of a resolved operation in a run's history. -/
inductive HistoryKind where
  | step | call | timer | signal | child
deriving Repr, DecidableEq, Inhabited

/-- The kind as the wire and the error texts spell it. -/
def HistoryKind.text : HistoryKind → String
  | step => "step"
  | call => "call"
  | timer => "timer"
  | signal => "signal"
  | child => "child"

/-- One resolved operation of a run, as the worker replays it. -/
structure HistoryEvent where
  seq : Nat
  kind : HistoryKind
  name : Option String := none
  output : Option Value := none
  error : Option StepError := none
deriving Repr, DecidableEq, Inhabited

/-- A durable operation the replay reached and did not find in the history. -/
inductive WorkflowCommand where
  | call (seq : Nat) (name group : String) (input : Option Value) (parallelGroup : Option String)
  | recordStep (seq : Nat) (name : String) (result : Except StepError (Option Value))
      (startedAt finishedAt : Nat)
  | sleep (seq ms : Nat)
  | waitSignal (seq : Nat) (signal : String)
  | startChild (seq : Nat) (workflow : String) (input : Option Value)
      (parallelGroup : Option String)

namespace WorkflowCommand

/-- The position a command is for. -/
def seq : WorkflowCommand → Nat
  | call seq .. => seq
  | recordStep seq .. => seq
  | sleep seq _ => seq
  | waitSignal seq _ => seq
  | startChild seq .. => seq

/-- The kind of history event the command's result becomes. -/
def kind : WorkflowCommand → HistoryKind
  | call .. => .call
  | recordStep .. => .step
  | sleep .. => .timer
  | waitSignal .. => .signal
  | startChild .. => .child

/-- The step, signal, or workflow a command names; a timer has no name. -/
def name : WorkflowCommand → Option String
  | call _ name .. => some name
  | recordStep _ name .. => some name
  | sleep .. => none
  | waitSignal _ signal => some signal
  | startChild _ workflow .. => some workflow

/-- The result of work the worker already did, which the command only records. -/
def recorded : WorkflowCommand → Option (Except StepError (Option Value))
  | recordStep _ _ result .. => some result
  | _ => none

/-- Whether the command records work already done instead of asking for work. -/
def records (command : WorkflowCommand) : Bool :=
  command.recorded.isSome

end WorkflowCommand

/-- A signal delivered to the run and not yet consumed. -/
structure PendingSignal where
  seq : Nat
  signal : String
  payload : Option Value

/-- One turn's worth of work, sent from the engine to a worker. -/
structure WorkflowTask where
  taskId : String
  runId : String
  workflow : String
  input : Option Value
  history : List HistoryEvent
  pendingSignals : List PendingSignal := []

/-- How a turn ended. -/
inductive DecisionStatus where
  | continue | completed | failed | cancelled
deriving Repr, DecidableEq, Inhabited

/-- The result of replaying one turn. -/
structure WorkflowDecision where
  taskId : String
  runId : String
  status : DecisionStatus
  /-- The new operations, in the order the replay reached them. -/
  commands : List WorkflowCommand
  output : Option Value := none
  error : Option StepError := none

end Durable.Worker
