import Durable.Worker.Turn

/-! The purpose of a replayed workflow, one interpretation of its body against an oracle, and a
remote run: turns replayed one after another, with results reported between them. -/

namespace Durable.Worker

/-- One result, a value or a failure, for every position. -/
abbrev Oracle := Nat → Except StepError (Option Value)

/-- What the operation at a position is: its kind, and its name if it has one. -/
structure Slot where
  kind : HistoryKind
  name : Option String
deriving Repr, DecidableEq

/-- What a command is for. -/
def WorkflowCommand.slot (command : WorkflowCommand) : Slot :=
  ⟨command.kind, command.name⟩

/-- The positions an operation claims from `seq` on, in order. -/
def TurnOp.slots (seq : Nat) : TurnOp → List Slot
  | .step name _ _ => [⟨.call, some name⟩]
  | .sleep _ => [⟨.timer, none⟩]
  | .waitSignal name => [⟨.signal, some name⟩]
  | .startChild workflow _ => [⟨.child, some workflow⟩]
  | .gatherCalls calls _ => calls.map fun call => ⟨.call, some call.name⟩
  | .gatherChildren workflow inputs _ => inputs.map fun _ => ⟨.child, some workflow⟩
  | .now => [⟨.step, some s!"now#{seq}"⟩]
  | .sideEffect => [⟨.step, some "sideEffect"⟩]

/-- The outcome of awaiting one result. -/
def awaited (found : Option Value → Returned) : Except StepError (Option Value) → Outcome
  | .ok output => .ok (found output)
  | .error error => .error (.stepFailed error)

/-- The value a result carries. -/
def outputOf : Except StepError (Option Value) → Option Value
  | .ok output => output
  | .error _ => none

/-- The failure a result carries. -/
def errorOf : Except StepError (Option Value) → Option StepError
  | .ok _ => none
  | .error error => some error

/-- The outcome of a fan that waits for all of its labelled members. -/
def gathered (members : List (String × Except StepError (Option Value))) : Outcome :=
  let failures := members.filterMap fun member =>
    (errorOf member.2).map fun error => (member.1, error)
  if failures.isEmpty then .ok (.many (members.map fun member => outputOf member.2))
  else .error (.stepFailed (gatherFailed failures))

/-- The results the oracle gives to a fan's members, from its first position on. -/
def memberResults (oracle : Oracle) :
    Nat → List String → List (String × Except StepError (Option Value))
  | _, [] => []
  | seq, name :: rest => (name, oracle seq) :: memberResults oracle (seq + 1) rest

/-- The outcome of an operation when the oracle answers it at once. -/
def TurnOp.answer (oracle : Oracle) (seq : Nat) : TurnOp → Outcome
  | .sleep _ => awaited (fun _ => .one none) (oracle seq)
  | .gatherCalls calls _ => gathered (memberResults oracle seq (calls.map GatherCall.name))
  | .gatherChildren workflow inputs _ =>
    gathered (memberResults oracle seq (inputs.map fun _ => workflow))
  | _ => awaited .one (oracle seq)

/-- Interpret the body once, from what it observed so far; `none` when the fuel runs out. -/
def direct (next : List Outcome → BodyStep) (oracle : Oracle) :
    Nat → List Outcome → Nat → Option (Except Thrown (Option Value))
  | 0, _, _ => none
  | fuel + 1, seen, seq =>
    match next seen with
    | .ret output => some (.ok output)
    | .throw error => some (.error error)
    | .op operation =>
      direct next oracle fuel (seen ++ [operation.answer oracle seq])
        (seq + (operation.slots seq).length)

/-- The positions the interpretation claims, in order. -/
def claimed (next : List Outcome → BodyStep) (oracle : Oracle) :
    Nat → List Outcome → Nat → List Slot
  | 0, _, _ => []
  | fuel + 1, seen, seq =>
    match next seen with
    | .op operation =>
      operation.slots seq ++
        claimed next oracle fuel (seen ++ [operation.answer oracle seq])
          (seq + (operation.slots seq).length)
    | _ => []

/-- The run is not cancelled while the turn replays. -/
def Uncancelled (options : TurnOptions) : Prop :=
  ∀ cancelled, options.isCancelled = some cancelled → ∀ seq, cancelled seq = false

/-- A captured body returns or throws what the oracle says, where it has not run yet. -/
def Captures (oracle : Oracle) (ctx : TurnContext) : Prop :=
  ∀ seq, ctx.entryAt seq = none → (ctx.options.capture seq).mapError toStepError = oracle seq

/-- Every fan of the body waits for all of its members. -/
def WaitsAll (next : List Outcome → BodyStep) : Prop :=
  ∀ seen operation, next seen = .op operation →
    match operation with
    | .gatherCalls _ mode => mode = .waitAll
    | .gatherChildren _ _ mode => mode = .waitAll
    | _ => True

/-- The history event the engine reports once the result of a command is known. -/
def WorkflowCommand.resultEvent (command : WorkflowCommand)
    (result : Except StepError (Option Value)) : HistoryEvent where
  seq := command.seq
  kind := command.kind
  name :=
    match command with
    | .call _ name .. => some name
    | .recordStep _ name .. => some name
    | .sleep seq _ => some s!"sleep:{seq}"
    -- A signal and a child resolve through an internal token, which is not reported.
    | .waitSignal .. => none
    | .startChild .. => none
  output := outputOf result
  error := errorOf result

/-- The local steps a turn recorded, as history events. -/
def recordedEvents (commands : List WorkflowCommand) : List HistoryEvent :=
  commands.filterMap fun command => command.recorded.map command.resultEvent

/-- The task of a run's next turn; the engine reports results through the history only. -/
def nextTask (task : WorkflowTask) (taskId : String) (history : List HistoryEvent) :
    WorkflowTask :=
  { taskId, runId := task.runId, workflow := task.workflow, input := task.input, history }

/-- A run between two turns. -/
structure Iteration where
  history : List HistoryEvent := []
  emitted : List WorkflowCommand := []
  ran : List Nat := []
  resolved : Nat := 0
  /-- How many turns were the first since a result was reported. -/
  productive : Nat := 0
  answered : Bool := true

/-- The run after a turn that did not settle it. -/
def Iteration.afterTurn (iteration : Iteration) (decision : WorkflowDecision) (ran : List Nat) :
    Iteration :=
  { iteration with
    history := iteration.history ++ recordedEvents decision.commands
    emitted := iteration.emitted ++ decision.commands
    ran := iteration.ran ++ ran
    productive := iteration.productive + if iteration.answered then 1 else 0
    answered := false }

/-- The run after one commanded operation resolved. -/
def Iteration.afterResult (iteration : Iteration) (command : WorkflowCommand)
    (result : Except StepError (Option Value)) : Iteration :=
  { iteration with
    history := iteration.history ++ [command.resultEvent result]
    resolved := iteration.resolved + 1
    answered := true }

/-- The states a run can be in, with the oracle's results reported in any order. -/
inductive Iterates (bodies : String → Option WorkflowBody) (task : WorkflowTask)
    (oracle : Oracle) : Iteration → Prop where
  | start : Iterates bodies task oracle {}
  | turn {iteration : Iteration} {taskId : String} {options : TurnOptions} {fuel : Nat}
      {decision : WorkflowDecision} {ran : List Nat}
      (reached : Iterates bodies task oracle iteration) (live : Uncancelled options)
      (captures : Captures oracle ⟨iteration.history, [], options⟩)
      (decided : runWorkflowTurn bodies (nextTask task taskId iteration.history) options fuel =
        some (decision, ran))
      (continues : decision.status = .continue) :
      Iterates bodies task oracle (iteration.afterTurn decision ran)
  | result {iteration : Iteration} {command : WorkflowCommand}
      (reached : Iterates bodies task oracle iteration) (emitted : command ∈ iteration.emitted)
      (asks : command.records = false)
      (missing : ∀ event ∈ iteration.history, event.seq ≠ command.seq) :
      Iterates bodies task oracle (iteration.afterResult command (oracle command.seq))
  | reorder {iteration : Iteration} {history : List HistoryEvent}
      (reached : Iterates bodies task oracle iteration)
      (shuffled : iteration.history.Perm history) :
      Iterates bodies task oracle { iteration with history }

/-- A decision settles the run as an interpretation of its body does. -/
def WorkflowDecision.Settles (decision : WorkflowDecision)
    (settled : Except Thrown (Option Value)) : Prop :=
  match settled with
  | .ok output => decision.status = .completed ∧ decision.output = output ∧ decision.error = none
  | .error (.stepFailed error) => decision.status = .failed ∧ decision.error = some error
  | .error (.other error) =>
    decision.status = .failed ∧ decision.error = some (toStepError error)

/-- What a turn of a run does, compared with the interpretation of the body. -/
structure Refines (settled : Except Thrown (Option Value)) (iteration : Iteration)
    (decision : WorkflowDecision) (ran : List Nat) : Prop where
  /-- The turn settles the run as the interpretation does, or asks for a result. -/
  decides : decision.Settles settled ∨
    (decision.status = .continue ∧ ∃ command ∈ decision.commands, command.records = false)
  fresh : ∀ command ∈ decision.commands, ∀ event ∈ iteration.history, event.seq ≠ command.seq
  /-- No position is commanded, in this turn or an earlier one, as two different operations. -/
  stable : ∀ command ∈ decision.commands, ∀ other ∈ iteration.emitted ++ decision.commands,
    other.seq = command.seq → other.kind = command.kind ∧ other.name = command.name
  once : (iteration.ran ++ ran).Nodup

end Durable.Worker
