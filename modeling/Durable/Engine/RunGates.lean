import Durable.Data.Rows

/-! The execution gate of one run in one engine: executions chained one behind the other. -/

namespace Durable

/-- Whether a resume executes the body of the run it reads. -/
def executesBody (allowFailed : Bool) : Option RunStatus → Bool
  -- A run that is not found makes the resume throw.
  | none => false
  | some .cancelled | some .completed | some .dead => false
  | some .failed => allowFailed
  | some .pending | some .running | some .suspended | some .blocked => true

/-- What a chained execution does once its turn has come. -/
inductive GateWork where
  | resume (allowFailed : Bool)
  | serialized
deriving Repr, DecidableEq

/-- How far a chained execution has come. -/
inductive ExecutionPhase where
  | waiting
  /-- It is in progress; `body` when it executes the run's body. -/
  | running (body : Bool)
  | settled
deriving Repr, DecidableEq

/-- One execution of the run. -/
structure Execution where
  gate : Nat
  work : GateWork
  behind : Option Nat
  phase : ExecutionPhase := .waiting
  closed : Bool := false
deriving Repr, DecidableEq

/-- A gate: its last execution, and the resume that waits in it. -/
structure RunGate where
  tail : Nat
  /-- The resume that later ones coalesce into, until it begins. -/
  queued : Option Nat := none
deriving Repr, DecidableEq

/-- What has happened at the gate. -/
inductive GateEvent where
  | requested (execution : Nat) (allowFailed : Bool)
  | began (execution : Nat) (allowFailed : Bool)
  | ended (execution : Nat)
deriving Repr, DecidableEq

/-- The gates an engine has made for one run, and the executions chained in them. -/
structure Gates where
  /-- Every gate that was made; a gate that was dropped may still be held by a callback. -/
  gates : List RunGate := []
  current : Option Nat := none
  executions : List Execution := []
  history : List GateEvent := []

namespace Gates

variable (state : Gates)

/-- The registered gate. -/
def registered : Option (Nat × RunGate) := do
  let index ← state.current
  let gate ← state.gates[index]?
  return (index, gate)

/-- A queued resume that another is coalesced into. -/
def coalesced (allowFailed : Bool) (execution : Execution) : Execution :=
  match execution.work with
  | .resume already => { execution with work := .resume (already || allowFailed) }
  | .serialized => execution

/-- `resumeRun`, for a run that reads `status`: at once, queued, or coalesced. -/
def resumeRun (allowFailed : Bool) (status : Option RunStatus) : Gates :=
  let next := state.executions.length
  match state.registered with
  | none =>
    let index := state.gates.length
    let execution : Execution :=
      { gate := index, work := .resume allowFailed, behind := none
        phase := .running (executesBody allowFailed status) }
    { gates := state.gates ++ [{ tail := next }]
      current := some index
      executions := state.executions ++ [execution]
      history := .began next allowFailed :: .requested next allowFailed :: state.history }
  | some (index, gate) =>
    match gate.queued with
    | some queued =>
      -- It has not begun, so it will see whatever this resume was asked for.
      { state with
        executions := state.executions.modify queued (coalesced allowFailed)
        history := .requested queued allowFailed :: state.history }
    | none =>
      let execution : Execution :=
        { gate := index, work := .resume allowFailed, behind := some gate.tail }
      { state with
        gates := state.gates.set index { tail := next, queued := some next }
        executions := state.executions ++ [execution]
        history := .requested next allowFailed :: state.history }

/-- `serializeOnRun`: chain a function behind whatever is in the gate. -/
def serializeOnRun : Gates :=
  let next := state.executions.length
  match state.registered with
  | none =>
    let index := state.gates.length
    { state with
      gates := state.gates ++ [{ tail := next }]
      current := some index
      executions := state.executions ++ [{ gate := index, work := .serialized, behind := none }] }
  | some (index, gate) =>
    { state with
      gates := state.gates.set index { gate with tail := next }
      executions := state.executions ++
        [{ gate := index, work := .serialized, behind := some gate.tail }] }

/-- The execution that one is chained behind has settled. -/
def released (execution : Execution) : Bool :=
  match execution.behind with
  | none => true
  | some tail => state.executions[tail]?.any (·.phase = .settled)

/-- A gate gives up its queued resume once that begins. -/
def dequeue (execution : Nat) (gate : RunGate) : RunGate :=
  if gate.queued = some execution then { gate with queued := none } else gate

/-- A chained execution begins, and reads the run. -/
def begin (index : Nat) (status : Option RunStatus) : Option Gates :=
  match state.executions[index]? with
  | none => none
  | some execution =>
    if execution.phase = .waiting ∧ state.released execution = true then
      match execution.work with
      | .serialized =>
        some { state with
          executions := state.executions.set index { execution with phase := .running false } }
      | .resume allowFailed =>
        let running : Execution :=
          { execution with phase := .running (executesBody allowFailed status) }
        some { state with
          gates := state.gates.modify execution.gate (dequeue index)
          executions := state.executions.set index running
          history := .began index allowFailed :: state.history }
    else none

/-- An execution in progress returns or throws. -/
def settle (index : Nat) : Option Gates :=
  match state.executions[index]? with
  | none => none
  | some execution =>
    match execution.phase with
    | .running _ =>
      some { state with
        executions := state.executions.set index { execution with phase := .settled }
        history := .ended index :: state.history }
    | .waiting | .settled => none

/-- The callback of a settled execution drops its gate, unless another was chained meanwhile. -/
def closeGateAfter (index : Nat) : Option Gates :=
  match state.executions[index]? with
  | none => none
  | some execution =>
    if execution.phase = .settled ∧ execution.closed = false then
      let last := state.current = some execution.gate ∧
        state.gates[execution.gate]?.any (·.tail = index) = true
      some { state with
        executions := state.executions.set index { execution with closed := true }
        current := if last then none else state.current }
    else none

end Gates

/-- The calls that lead to an execution of the run. -/
inductive GateCall where
  /-- A dispatched start, or a dispatched retry of `requeue`, picked up with or without the lease. -/
  | runOne (leased : Bool)
  | resume
  /-- A signal, an event or a child's completion, delivered to a wait of the run. -/
  | deliverSignal
  | completeRemoteResult
  | resumeLeased (leased : Bool)
  | recheckWaitSeqs (settled : Bool)
  | completeRemoteDecision
  | releaseStaleSelfLease
deriving Repr, DecidableEq

/-- What a call does at the gate, for a run that reads `status`. -/
def GateCall.enter (state : Gates) (status : Option RunStatus) : GateCall → Gates
  | .resume => state.resumeRun true status
  | .deliverSignal | .completeRemoteResult => state.resumeRun false status
  | .runOne leased | .resumeLeased leased =>
    if leased then state.resumeRun false status else state
  | .recheckWaitSeqs settled => if settled then state.resumeRun false status else state
  | .completeRemoteDecision | .releaseStaleSelfLease => state.serializeOnRun

/-- One move at the gate: a call arrives, or an execution goes on. -/
inductive GateMove where
  | call (call : GateCall) (status : Option RunStatus)
  | begin (index : Nat) (status : Option RunStatus)
  | settle (index : Nat)
  | closeGateAfter (index : Nat)
deriving Repr, DecidableEq

/-- A move the executions make by themselves. -/
def GateMove.internal : GateMove → Bool
  | .call .. => false
  | .begin .. | .settle _ | .closeGateAfter _ => true

/-- The gates after a move, if it is possible. -/
def Gates.fire (state : Gates) : GateMove → Option Gates
  | .call call status => some (call.enter state status)
  | .begin index status => state.begin index status
  | .settle index => state.settle index
  | .closeGateAfter index => state.closeGateAfter index

/-- The gates that moves in any order lead to. -/
inductive Gates.Reached : Gates → Prop where
  | start : Reached {}
  | move {state next : Gates} {move : GateMove} (before : Reached state)
      (fired : state.fire move = some next) : Reached next

namespace Gates

variable (state : Gates)

/-- An execution is in progress. -/
def InProgress (index : Nat) : Prop :=
  ∃ execution body, state.executions[index]? = some execution ∧ execution.phase = .running body

/-- An execution waits for its turn, and will resume the run as asked for. -/
def Awaits (index : Nat) (allowFailed : Bool) : Prop :=
  ∃ execution flag, state.executions[index]? = some execution ∧ execution.phase = .waiting ∧
    execution.work = .resume flag ∧ (allowFailed = true → flag = true)

/-- Among some events, an execution began that resumes the run as asked for. -/
def Began (events : List GateEvent) (index : Nat) (allowFailed : Bool) : Prop :=
  ∃ flag, .began index flag ∈ events ∧ (allowFailed = true → flag = true)

/-- The moves an execution still has before it. -/
def pace (execution : Execution) : Nat :=
  match execution.phase with
  | .waiting => 3
  | .running _ => 2
  | .settled => if execution.closed then 0 else 1

/-- The moves the executions still have before them. -/
def remaining : Nat := state.executions.foldr (fun execution rest => pace execution + rest) 0

/-- No execution has anything left to do. -/
def Quiet : Prop := ∀ move next, move.internal = true → state.fire move ≠ some next

/-- What the gate guarantees. -/
structure Sound : Prop where
  exclusive : ∀ one other, state.InProgress one → state.InProgress other → one = other
  /-- A resume that was asked for is begun after that, or waits in the gate. -/
  followed : ∀ newer older index allowFailed,
    state.history = newer ++ .requested index allowFailed :: older →
      Began newer index allowFailed ∨ state.Awaits index allowFailed
  ends : ∀ move next, move.internal = true → state.fire move = some next →
    next.remaining < state.remaining
  /-- Once they have, no gate is left, and every resume was followed by an execution. -/
  quiet : state.Quiet → state.current = none ∧
    (∀ execution ∈ state.executions, execution.phase = .settled) ∧
      ∀ newer older index allowFailed,
        state.history = newer ++ .requested index allowFailed :: older →
          Began newer index allowFailed

end Gates

end Durable
