import Durable.Worker.Protocol

/-! One worker-side workflow turn: the replay context and `runWorkflowTurn`. -/

namespace Durable.Worker

/-- A thrown JavaScript error, with the fields `toStepError` reads. -/
structure JsError where
  message : String
  code : Option String := none
deriving Repr, DecidableEq, Inhabited

/-- Convert a thrown value into the wire error. -/
def toStepError (error : JsError) : StepError :=
  { message := error.message, code := error.code }

/-- An error a workflow body can observe at an operation, or end with. -/
inductive Thrown where
  /-- A `WorkflowStepFailedError` carrying the recorded failure. -/
  | stepFailed (error : StepError)
  | other (error : JsError)
deriving Repr, DecidableEq

/-- The aggregate failure of a fan, naming every failed member. -/
def gatherFailed (failures : List (String × StepError)) : StepError :=
  let names := ", ".intercalate (failures.map Prod.fst)
  let count := failures.length
  { message := s!"gather: {count} item(s) failed: {names}"
    code := some "gather_failed"
    errors := some (.arr (failures.map fun failure =>
      .obj [("name", .str failure.1), ("error", failure.2.toValue)])) }

/-- How a fan settles a member failure. -/
inductive GatherMode where
  | waitAll | failFast
deriving Repr, DecidableEq

/-- One member of a step fan. -/
structure GatherCall where
  name : String
  input : Option Value := none
  group : Option String := none
deriving DecidableEq

/-- An operation of `WorkflowTurnCtx`, as a body calls it. -/
inductive TurnOp where
  | step (name : String) (input : Option Value) (group : Option String)
  | sleep (ms : Nat)
  | waitSignal (name : String)
  | startChild (workflow : String) (input : Option Value)
  | gatherCalls (calls : List GatherCall) (mode : GatherMode)
  | gatherChildren (workflow : String) (inputs : List (Option Value)) (mode : GatherMode)
  | now
  | sideEffect
deriving DecidableEq

/-- What an operation returns: one value, or the outputs of a fan. -/
inductive Returned where
  | one (value : Option Value)
  | many (values : List (Option Value))
deriving DecidableEq

/-- What a body observes of one operation. -/
abbrev Outcome := Except Thrown Returned

/-- What a body does next. -/
inductive BodyStep where
  | op (operation : TurnOp)
  | ret (output : Option Value)
  | throw (error : Thrown)

/-- A deterministic body: its next move is a function of its input and of what it observed. -/
abbrev WorkflowBody := Option Value → List Outcome → BodyStep

/-- What one turn reads from outside: its options, its clock, and the captured bodies it runs. -/
structure TurnOptions where
  partition : Option String := none
  /-- Whether the run counts as cancelled when the operation at a position is reached. -/
  isCancelled : Option (Nat → Bool) := none
  startedAt : Nat → Nat := fun _ => 0
  finishedAt : Nat → Nat := fun _ => 0
  /-- What the captured body at a position returns or throws when this turn runs it. -/
  capture : Nat → Except JsError (Option Value)

/-- The replay context of one turn, apart from its counters. -/
structure TurnContext where
  history : List HistoryEvent
  pendingSignals : List PendingSignal
  options : TurnOptions

/-- What a turn accumulates. -/
structure TurnState where
  seq : Nat := 0
  commands : List WorkflowCommand := []
  ran : List Nat := []

/-- Emit one more command. -/
def TurnState.push (state : TurnState) (command : WorkflowCommand) : TurnState :=
  { state with commands := state.commands ++ [command] }

/-- How one operation ends inside a turn. -/
inductive OpEnd where
  | outcome (result : Outcome)
  | suspended
  /-- `WorkflowTurnCancelled`: the run was cancelled between operations. -/
  | cancelled

namespace TurnContext

variable (ctx : TurnContext)

/-- The history entry at a position; a later entry replaces an earlier one. -/
def entryAt (seq : Nat) : Option HistoryEvent :=
  ctx.history.reverse.find? (·.seq == seq)

/-- Claim the next position, unless the run was cancelled. -/
def next (state : TurnState) : Option (Nat × TurnState) :=
  match ctx.options.isCancelled with
  | some cancelled =>
    if cancelled state.seq then none
    else some (state.seq, { state with seq := state.seq + 1 })
  | none => some (state.seq, { state with seq := state.seq + 1 })

/-- The error of a history entry that another operation recorded. -/
def nondeterminism (event : HistoryEvent) (kind : HistoryKind) (name : Option String) : JsError :=
  let recorded := event.name.getD "undefined"
  let reached := name.getD "undefined"
  let recordedKind := event.kind.text
  let reachedKind := kind.text
  let seq := event.seq
  { message := s!"history at seq {seq} is {recordedKind}/{recorded}, but replay reached "
      ++ s!"{reachedKind}/{reached}" }

/-- The entry at a position, guarded by kind and, where both sides have one, by name. -/
def replayEntry (seq : Nat) (kind : HistoryKind) (name : Option String) :
    Except JsError (Option HistoryEvent) :=
  match ctx.entryAt seq with
  | none => .ok none
  | some event =>
    let nameMismatch := name.isSome && event.name.isSome && event.name != name
    if event.kind != kind || nameMismatch then .error (nondeterminism event kind name)
    else .ok (some event)

/-- The recorded result at a position: nothing, a value, or the failure it throws. -/
def replay (seq : Nat) (kind : HistoryKind) (name : Option String) :
    Except Thrown (Option (Option Value)) :=
  match ctx.replayEntry seq kind name with
  | .error error => .error (.other error)
  | .ok none => .ok none
  | .ok (some event) =>
    match event.error with
    | some error => .error (.stepFailed error)
    | none => .ok (some event.output)

/-- A blocking operation: its recorded result, or its command and the end of the turn. -/
def blocking (state : TurnState) (kind : HistoryKind) (name : Option String)
    (found : Option Value → Returned) (command : Nat → WorkflowCommand) : OpEnd × TurnState :=
  match ctx.next state with
  | none => (.cancelled, state)
  | some (seq, state) =>
    match ctx.replay seq kind name with
    | .error error => (.outcome (.error error), state)
    | .ok (some output) => (.outcome (.ok (found output)), state)
    | .ok none => (.suspended, state.push (command seq))

/-- `step`: dispatch a step by name and await it. -/
def step (state : TurnState) (name : String) (input : Option Value) (group : Option String) :
    OpEnd × TurnState :=
  ctx.blocking state .call (some name) .one fun seq =>
    .call seq name ((group.orElse fun _ => ctx.options.partition).getD "") input none

/-- `sleep`: a durable timer. -/
def sleep (state : TurnState) (ms : Nat) : OpEnd × TurnState :=
  ctx.blocking state .timer none (fun _ => .one none) fun seq => .sleep seq ms

/-- `waitSignal`: the recorded payload, else a pending one, else block. -/
def waitSignal (state : TurnState) (name : String) : OpEnd × TurnState :=
  match ctx.next state with
  | none => (.cancelled, state)
  | some (seq, state) =>
    match ctx.replay seq .signal (some name) with
    | .error error => (.outcome (.error error), state)
    | .ok (some output) => (.outcome (.ok (.one output)), state)
    | .ok none =>
      match ctx.pendingSignals.reverse.find? (·.seq == seq) with
      | some pending => (.outcome (.ok (.one pending.payload)), state)
      | none => (.suspended, state.push (.waitSignal seq name))

/-- `startChild`: start a child run and await its output. -/
def startChild (state : TurnState) (workflow : String) (input : Option Value) :
    OpEnd × TurnState :=
  ctx.blocking state .child (some workflow) .one fun seq => .startChild seq workflow input none

/-- Claim a position for each of `count` members, in order. -/
def reserve : Nat → TurnState → Option (List Nat × TurnState)
  | 0, state => some ([], state)
  | count + 1, state =>
    match ctx.next state with
    | none => none
    | some (seq, state) =>
      match reserve count state with
      | none => none
      | some (seqs, state) => some (seq :: seqs, state)

/-- The entries of a fan's members, up to the first that another operation recorded. -/
def replayEntries (kind : HistoryKind) :
    List (Nat × String) → Except JsError (List (Option HistoryEvent))
  | [] => .ok []
  | (seq, name) :: rest =>
    match ctx.replayEntry seq kind (some name) with
    | .error error => .error error
    | .ok entry =>
      match replayEntries kind rest with
      | .error error => .error error
      | .ok entries => .ok (entry :: entries)

end TurnContext

/-- The first member that already resolved to a failure. -/
def firstFailed (label : String → HistoryEvent → String) :
    List (String × Option HistoryEvent) → Option (String × StepError)
  | [] => none
  | (name, entry) :: rest =>
    match entry with
    | none => firstFailed label rest
    | some event =>
      match event.error with
      | some error => some (label name event, error)
      | none => firstFailed label rest

/-- The outputs of a fan in list order, or the aggregate of its failures. -/
def aggregate (label : HistoryEvent → String) (entries : List (Option HistoryEvent)) : Outcome :=
  let failures := entries.filterMap fun entry =>
    entry.bind fun event => event.error.map fun error => (label event, error)
  if failures.isEmpty then
    .ok (.many (entries.map fun entry => entry.bind HistoryEvent.output))
  else .error (.stepFailed (gatherFailed failures))

namespace TurnContext

variable (ctx : TurnContext)

/-- A fan: reserve its positions, replay its members, and command every missing one at once. -/
def gather (state : TurnState) (kind : HistoryKind) (names : List String) (mode : GatherMode)
    (fastLabel : String → HistoryEvent → String) (label : HistoryEvent → String)
    (command : Nat → Nat → String → WorkflowCommand) : OpEnd × TurnState :=
  -- An empty fan claims no position and has no effect.
  if names.isEmpty then (.outcome (.ok (.many [])), state)
  else
    match ctx.reserve names.length state with
    | none => (.cancelled, state)
    | some (seqs, state) =>
      let parallelGroup := s!"gather:{seqs.headD 0}"
      match ctx.replayEntries kind (seqs.zip names) with
      | .error error => (.outcome (.error (.other error)), state)
      | .ok entries =>
        match (if mode = .failFast then firstFailed fastLabel (names.zip entries) else none) with
        | some failure => (.outcome (.error (.stepFailed (gatherFailed [failure]))), state)
        | none =>
          -- Members already in the history are skipped, and the turn suspends once.
          let missing := (seqs.zip entries).zipIdx.filter fun member => member.1.2.isNone
          if missing.isEmpty then (.outcome (aggregate label entries), state)
          else
            let emitted := missing.map fun member => command member.2 member.1.1 parallelGroup
            (.suspended, { state with commands := state.commands ++ emitted })

/-- `gatherCalls`: dispatch several steps at once and await them all. -/
def gatherCalls (state : TurnState) (calls : List GatherCall) (mode : GatherMode) :
    OpEnd × TurnState :=
  ctx.gather state .call (calls.map GatherCall.name) mode
    (fun name event => event.name.getD name) (fun event => event.name.getD "")
    fun index seq parallelGroup =>
      let member := calls.getD index { name := "" }
      .call seq member.name ((member.group.orElse fun _ => ctx.options.partition).getD "")
        member.input (some parallelGroup)

/-- `gatherChildren`: start several child runs at once and await them all. -/
def gatherChildren (state : TurnState) (workflow : String) (inputs : List (Option Value))
    (mode : GatherMode) : OpEnd × TurnState :=
  ctx.gather state .child (inputs.map fun _ => workflow) mode (fun _ _ => workflow)
    (fun _ => workflow) fun index seq parallelGroup =>
      .startChild seq workflow (inputs.getD index none) (some parallelGroup)

/-- A local step: its recorded result, or one run of its body recorded by a command. -/
def localStep (state : TurnState) (name : String) : OpEnd × TurnState :=
  match ctx.next state with
  | none => (.cancelled, state)
  | some (seq, state) =>
    match ctx.replay seq .step (some name) with
    | .error error => (.outcome (.error error), state)
    | .ok (some output) => (.outcome (.ok (.one output)), state)
    | .ok none =>
      let startedAt := ctx.options.startedAt seq
      let finishedAt := ctx.options.finishedAt seq
      let state := { state with ran := state.ran ++ [seq] }
      match ctx.options.capture seq with
      | .error thrown =>
        let error := toStepError thrown
        (.outcome (.error (.stepFailed error)),
          state.push (.recordStep seq name (.error error) startedAt finishedAt))
      | .ok result =>
        (.outcome (.ok (.one result)),
          state.push (.recordStep seq name (.ok result) startedAt finishedAt))

/-- Perform one operation of the body. -/
def perform (state : TurnState) : TurnOp → OpEnd × TurnState
  | .step name input group => ctx.step state name input group
  | .sleep ms => ctx.sleep state ms
  | .waitSignal name => ctx.waitSignal state name
  | .startChild workflow input => ctx.startChild state workflow input
  | .gatherCalls calls mode => ctx.gatherCalls state calls mode
  | .gatherChildren workflow inputs mode => ctx.gatherChildren state workflow inputs mode
  -- The name carries the position the local step is about to claim.
  | .now => ctx.localStep state s!"now#{state.seq}"
  | .sideEffect => ctx.localStep state "sideEffect"

end TurnContext

/-- How the body of a turn ended. -/
inductive TurnEnd where
  | returned (output : Option Value)
  | threw (error : Thrown)
  | suspended
  | cancelled

/-- Run the body from what it observed so far; `none` when the fuel runs out first. -/
def runBody (next : List Outcome → BodyStep) (ctx : TurnContext) :
    Nat → List Outcome → TurnState → Option (TurnEnd × TurnState)
  | 0, _, _ => none
  | fuel + 1, seen, state =>
    match next seen with
    | .ret output => some (.returned output, state)
    | .throw error => some (.threw error, state)
    | .op operation =>
      match ctx.perform state operation with
      | (.outcome result, state) => runBody next ctx fuel (seen ++ [result]) state
      | (.suspended, state) => some (.suspended, state)
      | (.cancelled, state) => some (.cancelled, state)

/-- The decision a finished body settles the turn with. -/
def decisionOf (task : WorkflowTask) (ended : TurnEnd) (commands : List WorkflowCommand) :
    WorkflowDecision :=
  let base : WorkflowDecision :=
    { taskId := task.taskId, runId := task.runId, status := .continue, commands }
  match ended with
  | .returned output => { base with status := .completed, output }
  | .suspended => base
  | .cancelled => { base with status := .cancelled }
  | .threw (.stepFailed error) => { base with status := .failed, error := some error }
  | .threw (.other error) => { base with status := .failed, error := some (toStepError error) }

/-- The decision of a task whose workflow is not registered. -/
def noWorkflow (task : WorkflowTask) : WorkflowDecision :=
  { taskId := task.taskId, runId := task.runId, status := .failed, commands := []
    error := some
      { message := s!"no workflow registered for '" ++ task.workflow ++ "'"
        code := some "no_workflow" } }

/-- Replay one turn: its decision, and the positions whose captured body it ran. -/
def runWorkflowTurn (bodies : String → Option WorkflowBody) (task : WorkflowTask)
    (options : TurnOptions) (fuel : Nat) : Option (WorkflowDecision × List Nat) :=
  match bodies task.workflow with
  | none => some (noWorkflow task, [])
  | some body =>
    let ctx : TurnContext :=
      { history := task.history, pendingSignals := task.pendingSignals, options }
    match runBody (body task.input) ctx fuel [] {} with
    | none => none
    | some (ended, state) => some (decisionOf task ended state.commands, state.ran)

end Durable.Worker
