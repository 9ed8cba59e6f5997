import Durable.Data.Rows

/-! `callRemote`: what a replay decides at a dispatched step's position. -/

namespace Durable

/-- A dispatched step as a call site names it. -/
structure StepDef where
  name : String
  retries : Option Nat := none
  timeoutMs : Option Nat := none

/-- The engine settings and the clock a dispatched step is decided with. -/
structure RemotePolicy where
  hasTransport : Bool := true
  /-- How long a dispatch may stay without a result before it is repeated. -/
  remoteRedispatchMs : Option Nat := none
  remoteRedispatchMax : Nat := 10
  clock : Nat
  backoffDelay : Nat → Nat := fun _ => 0
  /-- How long a parked run may stay without being looked at again. -/
  reconcileMs : Option Nat := some 300000

/-- What `callRemote` does at a position. -/
inductive RemoteTurn where
  | returned (output : Option Value)
  | failed (error : StepError)
  | nonDeterminism (expected recorded : String)
  | refused (message : String)
  /-- The run suspends, after this write and, where flagged, a dispatch. -/
  | suspended (wakeAt : Option Nat) (write : Option StepCheckpoint) (dispatches : Bool)
  | awaited
deriving Repr, DecidableEq

/-- The error a step whose dispatches were all lost is given up with. -/
def remoteStepLost (step : StepDef) (attempts : Nat) : StepError :=
  let name := step.name
  { message := s!"remote step \"{name}\" lost — no result after {attempts} re-dispatch(es)"
    code := some "remote_step_lost" }

/-- A failed attempt is the step's last one. -/
def isLastAttempt (step : StepDef) (checkpoint : StepCheckpoint) : Bool :=
  checkpoint.error.bind StepError.retryable == some false ||
    decide (max 1 (step.retries.getD 1) ≤ checkpoint.attempts)

namespace RemotePolicy

variable (policy : RemotePolicy)

/-- When a run parked on a step's deadline is looked at again. -/
def stepLeaseWakeAt (lease : Nat) : Nat :=
  match policy.reconcileMs with
  | none => lease
  | some reconcile => min lease (policy.clock + reconcile)

/-- Dispatch a step's attempt, unless its input or the fleet refuses it. -/
def dispatch (runId : String) (seq : Nat) (step : StepDef) (attempt : Nat)
    (input : Option Value) (group : Option String) (refusal : Option String) : RemoteTurn :=
  match refusal with
  | some message => .refused message
  | none =>
    .suspended none (some { runId, seq, name := step.name, kind := .remote, status := .pending
                            input, attempts := attempt, parallelGroup := group }) true

/-- A pending step: wait for its result, or repeat a dispatch presumed lost. -/
def awaitPending (step : StepDef) (checkpoint : StepCheckpoint) : RemoteTurn :=
  match policy.remoteRedispatchMs with
  | none => .suspended none none false
  | some window =>
    match checkpoint.wakeAt with
    | none =>
      -- The first look at a pending step stamps its deadline.
      let deadline := policy.clock + window
      .suspended (some (policy.stepLeaseWakeAt deadline))
        (some { checkpoint with wakeAt := some deadline }) false
    | some deadline =>
      if policy.clock < deadline then
        .suspended (some (policy.stepLeaseWakeAt deadline)) none false
      else if policy.remoteRedispatchMax ≤ checkpoint.attempts then
        .failed (remoteStepLost step checkpoint.attempts)
      else
        let next := policy.clock + window
        .suspended (some (policy.stepLeaseWakeAt next))
          (some { checkpoint with attempts := checkpoint.attempts + 1, wakeAt := some next }) true

/-- A failed step: give up on its last attempt, else wait out the delay and try again. -/
def retryFailed (runId : String) (seq : Nat) (step : StepDef) (checkpoint : StepCheckpoint)
    (input : Option Value) (group : Option String) (refusal : Option String) : RemoteTurn :=
  if isLastAttempt step checkpoint then
    .failed (checkpoint.error.getD { message := "remote step failed" })
  else
    match checkpoint.wakeAt with
    | none =>
      let retryAt := policy.clock + policy.backoffDelay checkpoint.attempts
      .suspended (some retryAt) (some { checkpoint with wakeAt := some retryAt }) false
    | some retryAt =>
      if policy.clock < retryAt then .suspended (some retryAt) none false
      else dispatch runId seq step (checkpoint.attempts + 1) input group refusal

/-- What a replay decides at a dispatched step's position from the checkpoint stored there. -/
def callRemote (runId : String) (seq : Nat) (step : StepDef) (input : Option Value)
    (group : Option String) (refusal : Option String) (existing : Option StepCheckpoint) :
    RemoteTurn :=
  match existing with
  | none =>
    if !policy.hasTransport then .refused "remote steps require a Transport"
    else if 0 < step.timeoutMs.getD 0 then .awaited
    else dispatch runId seq step 1 input group refusal
  | some checkpoint =>
    if checkpoint.name ≠ step.name then .nonDeterminism step.name checkpoint.name
    else if checkpoint.status = .completed then .returned checkpoint.output
    else if !policy.hasTransport then .refused "remote steps require a Transport"
    else if 0 < step.timeoutMs.getD 0 then .awaited
    else
      match checkpoint.status with
      | .pending => policy.awaitPending step checkpoint
      | .failed => policy.retryFailed runId seq step checkpoint input group refusal
      | _ => dispatch runId seq step 1 input group refusal

/-- A pending step only waits for its result: nothing is written for it. -/
def stepIsWaiting (checkpoint : StepCheckpoint) : Bool :=
  match policy.remoteRedispatchMs with
  | none => true
  | some _ =>
    match checkpoint.wakeAt with
    | some deadline => decide (policy.clock < deadline)
    | none => false

end RemotePolicy

end Durable
