import Durable.Engine.Operations

/-! The engine's paths that write a run's status, one store operation at a time. -/

namespace Durable

open Engine

/-- The statuses a turn's outcome may still be written over. -/
def settleEligibleStatuses : List RunStatus := [.pending, .running, .suspended, .blocked, .failed]

/-- What a path reports about its run. -/
structure RunResult where
  runId : String
  status : RunStatus
  output : Option Value := none
  error : Option StepError := none

/-- How a turn ends, as `settleRun` receives it. -/
inductive RunOutcome where
  | completed (output : Option Value)
  | failed (error : StepError)
  | suspended (wakeAt : Option Nat)

/-- Mark a terminal write with the lifecycle tag its subscribers still have to be told about. -/
def withLifecycleMarker (marker : Option String) (run : WorkflowRun) (patch : RunPatch) :
    RunPatch :=
  match marker with
  | none => patch
  | some tag => { patch with tags := some ((patch.tags.getD run.tags) ++ [tag]) }

/-- Report the run as it is stored. -/
def echoCurrentStatus (runId : String) : Engine RunResult := do
  match ← getRun runId with
  | none => return { runId, status := .cancelled }
  | some latest =>
    return { runId, status := latest.status, output := latest.output, error := latest.error }

/-- The settings and the in-memory state a turn is settled with. -/
structure TurnSettings where
  /-- The turn's lease was lost, so another instance owns the run. -/
  leaseLost : Bool := false
  marker : Option String := none
  reconcileMs : Option Nat := some 300000
  blockedPollMs : Nat := 5000
  cancelRequested : Bool := false

/-- The wake a suspended run is stored with. -/
def reconcileWakeAt (settings : TurnSettings) (now : Nat) : Option Nat → Option Nat
  | some wakeAt => some wakeAt
  | none => settings.reconcileMs.map (now + ·)

/-- Settle a run as completed. -/
def settleCompleted (settings : TurnSettings) (run : WorkflowRun) (output : Option Value) :
    Engine RunResult := do
  if ← updateRunIf run.id settleEligibleStatuses (withLifecycleMarker settings.marker run
      { status := some .completed, output := some output, error := some none }) then
    return { runId := run.id, status := .completed, output }
  else echoCurrentStatus run.id

/-- Settle a run as failed; a run that already failed keeps its first failure. -/
def settleFailed (settings : TurnSettings) (run : WorkflowRun) (error : StepError) :
    Engine RunResult := do
  if ← updateRunIf run.id (settleEligibleStatuses.filter (· ≠ .failed))
      (withLifecycleMarker settings.marker run
        { status := some .failed, error := some (some error) }) then
    return { runId := run.id, status := .failed, error := some error }
  else echoCurrentStatus run.id

/-- Park a run until a timer or a delivery. -/
def settleSuspended (settings : TurnSettings) (run : WorkflowRun) (wakeAt : Option Nat) :
    Engine RunResult := do
  let now ← clock
  if ← updateRunIf run.id settleEligibleStatuses
      { status := some .suspended, wakeAt := some (reconcileWakeAt settings now wakeAt) } then
    return { runId := run.id, status := .suspended }
  else echoCurrentStatus run.id

/--
Apply a turn's outcome once.

A failure is first offered to the run's `onError` route, which may answer with another outcome.
-/
def settleRun (settings : TurnSettings) (routeFailure : StepError → Engine (Option RunOutcome))
    (run : WorkflowRun) (outcome : RunOutcome) : Engine RunResult := do
  if settings.leaseLost then echoCurrentStatus run.id
  else
    match outcome with
    | .completed output => settleCompleted settings run output
    | .suspended wakeAt => settleSuspended settings run wakeAt
    | .failed error =>
      match ← routeFailure error with
      | some (.completed output) => settleCompleted settings run output
      | some (.suspended wakeAt) => settleSuspended settings run wakeAt
      | some (.failed handed) => settleFailed settings run handed
      | none => settleFailed settings run error

/-- The failure of a cancelled run. -/
def cancelledError : StepError := { message := "cancelled" }

/-- The write that cancels a run, whatever its stored status. -/
def writeCancelled (marker : Option String) (run : WorkflowRun) : Engine Bool :=
  updateRun run.id (withLifecycleMarker marker run
    { status := some .cancelled, error := some (some cancelledError)
      awaitingDecisionTaskId := some none })

/-- Cancel a run; each child of it is cancelled by a call of its own. -/
def cancel (marker : Option String) (compensate : Bool) (runId : String) :
    Engine (Option RunResult) := do
  match ← getRun runId with
  | none => return none
  | some run =>
    -- A terminal run is immutable: the call only echoes it.
    if isTerminalStatus run.status then
      return some { runId, status := run.status, output := run.output, error := run.error }
    else if compensate ∧ (run.status = .suspended ∨ run.status = .running) then
      -- The durable intent; the unwinding turn is an execution of its own.
      bufferSignal (cancelToken runId) (some (.bool true))
      return some { runId, status := run.status }
    else
      let _ ← writeCancelled marker run
      return some { runId, status := .cancelled, error := some cancelledError }

/-- Whether a compensating cancel is pending; the durable marker is put back. -/
def takeCancelIntent (settings : TurnSettings) (runId : String) : Engine Bool := do
  if settings.cancelRequested then return true
  else
    match ← takeBufferedSignal (cancelToken runId) with
    | none => return false
    | some marker =>
      bufferSignal (cancelToken runId) marker
      return true

/-- Undo the saga and settle the run as cancelled. -/
def compensateAndCancel (settings : TurnSettings) (compensations : Engine Unit)
    (run : WorkflowRun) : Engine RunResult := do
  if settings.leaseLost then echoCurrentStatus run.id
  else
    compensations
    let _ ← writeCancelled settings.marker run
    return { runId := run.id, status := .cancelled, error := some cancelledError }

/-- Park a run no live worker can run. -/
def parkBlocked (settings : TurnSettings) (run : WorkflowRun) (reason : String) :
    Engine RunResult := do
  let now ← clock
  let error : StepError := { message := reason, retryable := some true }
  if ← updateRunIf run.id settleEligibleStatuses
      { status := some .blocked, error := some (some error)
        wakeAt := some (some (now + settings.blockedPollMs)) } then
    return { runId := run.id, status := .blocked, error := some error }
  else echoCurrentStatus run.id

/-- A run's first execution turns it from pending to running. -/
def markStarted (run : WorkflowRun) (tags : Option (List String)) : Engine Unit :=
  if run.status = .pending then do
    let _ ← updateRun run.id { status := some .running, tags }
    return ()
  else return ()

/-- How the body of an in-process turn ends. -/
inductive BodyEnd where
  | returned (output : Option Value)
  | suspended (wakeAt : Option Nat)
  | blocked (reason : String)
  | continuedAsNew
  | threw (error : StepError)

/-- The work of a turn that leaves every run's outcome alone. -/
structure TurnWork where
  body : Engine BodyEnd
  compensations : Engine Unit := .done ()
  routeFailure : StepError → Engine (Option RunOutcome) := fun _ => .done none
  startContinuation : Engine Unit := .done ()

/-- Complete a run whose continuation has been persisted. -/
def completeContinued (work : TurnWork) (run : WorkflowRun) : Engine RunResult := do
  work.startContinuation
  let _ ← updateRun run.id
    { status := some .completed, output := some none, error := some none }
  return { runId := run.id, status := .completed }

/-- Unwind the run if its cancellation has been requested, else settle it. -/
def settleUnlessCancelled (settings : TurnSettings) (work : TurnWork) (run : WorkflowRun)
    (settle : Engine RunResult) : Engine RunResult := do
  if ← takeCancelIntent settings run.id then
    compensateAndCancel settings work.compensations run
  else settle

/-- Settle a turn by the way its body ended. -/
def endTurn (settings : TurnSettings) (work : TurnWork) (run : WorkflowRun) :
    BodyEnd → Engine RunResult
  | .returned output =>
    settleUnlessCancelled settings work run
      (settleRun settings work.routeFailure run (.completed output))
  | .continuedAsNew =>
    if settings.leaseLost then echoCurrentStatus run.id
    else settleUnlessCancelled settings work run (completeContinued work run)
  | .blocked reason => parkBlocked settings run reason
  | .suspended wakeAt =>
    settleUnlessCancelled settings work run
      (settleRun settings work.routeFailure run (.suspended wakeAt))
  | .threw error =>
    settleUnlessCancelled settings work run do
      work.compensations
      settleRun settings work.routeFailure run (.failed error)

/-- One in-process turn of a run, from the snapshot it was picked up with. -/
def runExecution (settings : TurnSettings) (work : TurnWork) (run : WorkflowRun)
    (tags : Option (List String)) : Engine RunResult := do
  markStarted run tags
  let ending ← work.body
  endTurn settings work run ending

/-- What a worker's decision asks the engine to settle. -/
inductive RemoteDecision where
  | completed (output : Option Value)
  | failed (error : Option StepError)
  | cancelled
  | continue

/-- Apply a remote turn's decision; its commands are persisted first. -/
def applyDecision (settings : TurnSettings) (applyCommands : Engine (Option Nat))
    (routeFailure : StepError → Engine (Option RunOutcome)) (run : WorkflowRun) :
    RemoteDecision → Engine RunResult
  | .completed output => do
    let _ ← applyCommands
    settleRun settings routeFailure run (.completed output)
  | .failed error => do
    let _ ← applyCommands
    settleRun settings routeFailure run (.failed (error.getD { message := "workflow failed" }))
  | .cancelled => do
    let _ ← applyCommands
    -- The status is reasserted, whatever the run has become meanwhile.
    let _ ← updateRun run.id { status := some .cancelled }
    return { runId := run.id, status := .cancelled }
  | .continue => do
    let wakeAt ← applyCommands
    settleRun settings routeFailure run (.suspended wakeAt)

/-- What awaiting an inline remote turn yields. -/
inductive AdvanceEnd where
  | decided (decision : RemoteDecision)
  | timedOut
  | threw (error : StepError)

/-- One inline remote turn: its decision is applied, and its error fails the run. -/
def runRemoteExecution (settings : TurnSettings) (advance : Engine AdvanceEnd)
    (applyCommands : Engine (Option Nat))
    (routeFailure : StepError → Engine (Option RunOutcome)) (run : WorkflowRun) :
    Engine RunResult := do
  match ← advance with
  | .decided decision => applyDecision settings applyCommands routeFailure run decision
  | .timedOut =>
    let _ ← updateRunIf run.id [.running, .suspended] { status := some .running }
    return { runId := run.id, status := .running }
  | .threw error =>
    let _ ← updateRun run.id (withLifecycleMarker settings.marker run
      { status := some .failed, error := some (some error) })
    return { runId := run.id, status := .failed, error := some error }

/-- Fail a run whose turn could not be enqueued, if it still awaits this very turn. -/
def failUndispatchedTurn (settings : TurnSettings) (run : WorkflowRun) (taskId : String)
    (error : StepError) : Engine RunResult := do
  let current ← getRun run.id
  if current.bind WorkflowRun.awaitingDecisionTaskId = some taskId then
    if ← updateRunIf run.id [.suspended] (withLifecycleMarker settings.marker run
        { status := some .failed, error := some (some error)
          awaitingDecisionTaskId := some none, wakeAt := some none }) then
      return { runId := run.id, status := .failed, error := some error }
    else echoCurrentStatus run.id
  else echoCurrentStatus run.id

/-- Suspend a run on a dispatched remote turn, and fail it when the turn cannot be enqueued. -/
def dispatchRemoteTurn (settings : TurnSettings) (dispatch : Engine (Option StepError))
    (run : WorkflowRun) (taskId : String) (windowMs : Option Nat) : Engine RunResult := do
  if settings.leaseLost then echoCurrentStatus run.id
  else
    let now ← clock
    if ← updateRunIf run.id settleEligibleStatuses
        { status := some .suspended, awaitingDecisionTaskId := some (some taskId)
          wakeAt := some (windowMs.map (now + ·)) } then
      match ← dispatch with
      | none => return { runId := run.id, status := .suspended }
      | some error => failUndispatchedTurn settings run taskId error
    else echoCurrentStatus run.id

/-- Apply the decision of a dispatched turn, once the run has been claimed for it. -/
def applyRemoteDecision (settings : TurnSettings) (applyCommands : Engine (Option Nat))
    (routeFailure : StepError → Engine (Option RunOutcome)) (runId taskId : String)
    (decision : RemoteDecision) : Engine Unit := do
  match ← getRun runId with
  | none => return ()
  | some fresh =>
    if fresh.status = .suspended ∧ fresh.awaitingDecisionTaskId = some taskId then
      if ← updateRunIf runId [.suspended]
          { status := some .running, awaitingDecisionTaskId := some none
            wakeAt := some none } then
        let _ ← applyDecision settings applyCommands routeFailure
          { fresh with status := .running, awaitingDecisionTaskId := none, wakeAt := none }
          decision
        return ()
      else return ()
    else return ()

/-- Cancel a run whose execution timeout has passed, if it is still in flight. -/
def sweepTimeout (marker : Option String) (run : WorkflowRun) : Engine Bool :=
  updateRunIf run.id [.running, .suspended] (withLifecycleMarker marker run
    { status := some .cancelled
      error := some (some { message := "execution timeout", code := some "execution_timeout" }) })

/-- Dead-letter a leased run that still has an expected status. -/
def deadLetterLeased (marker : Option String) (run : WorkflowRun) (source : List RunStatus)
    (error : StepError) : Engine Bool :=
  updateRunIf run.id source (withLifecycleMarker marker run
    { status := some .dead, error := some (some error) })

/-- The statuses an unregistered run may be dead-lettered from. -/
def unregisteredDeadLetterFrom : List RunStatus := [.pending, .running, .suspended, .blocked]

/-- Dead-letter a run whose workflow no instance has registered, once the grace is over. -/
def settleUnregistered (marker : Option String) (graceOver : Bool) (error : StepError)
    (runId : String) : Engine Bool := do
  match ← getRun runId with
  | none => return false
  | some run =>
    if run.status ∈ unregisteredDeadLetterFrom ∧ graceOver then
      deadLetterLeased marker run [run.status] error
    else return false

/-- What crash recovery finds a `running` orphan to be. -/
inductive Orphan where
  | dispatched (wakeAt : Option Nat)
  | poisoned (error : StepError)
  | recoverable

/-- Recover one orphan, re-read under the lease that was just taken. -/
def recoverIncomplete (marker : Option String) (runId : String) (orphan : Orphan) :
    Engine Bool := do
  match ← getRun runId with
  | none => return false
  | some run =>
    if run.status = .running then
      match orphan with
      | .dispatched wakeAt =>
        updateRunIf runId [.running] { status := some .suspended, wakeAt := some wakeAt }
      | .poisoned error =>
        deadLetterLeased marker
          { run with recoveryAttempts := run.recoveryAttempts + 1 } [.running] error
      | .recoverable =>
        let _ ← updateRun runId { recoveryAttempts := some (run.recoveryAttempts + 1) }
        updateRunIf runId [.running] { status := some .pending }
    else return false

end Durable
