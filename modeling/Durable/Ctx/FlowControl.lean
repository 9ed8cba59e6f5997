import Durable.Ctx.Steps

/-! `ctx.step` with a flow-control queue: a step is sent only once its queue admits it. -/

namespace Durable

open Engine

/-- How a call asks its flow-control queue. -/
structure QueueCall where
  queue : Option String := none
  priority : Option Int := none
  fairnessKey : Option String := none

/-- The hints of a call, under the step's own id across its retries. -/
def QueueCall.item (call : QueueCall) (runId : String) (seq : Nat) : AdmissionItem :=
  { priority := call.priority, key := some (call.fairnessKey.getD runId)
    waiterId := some (stepId runId seq) }

namespace CtxHost

variable (host : CtxHost)

/-- Ask for a slot: the queue that gave one, if the call is gated, or when to ask again. -/
def admitCall (seq : Nat) (call : QueueCall) : Engine (Except Nat (Option String)) :=
  match call.queue with
  | none => return .ok none
  | some queue => do
    match ← tryAdmit queue (call.item host.runId seq) with
    | none => return .ok none
    | some .admitted => return .ok (some queue)
    | some (.blocked retryAt) => return .error retryAt

/-- Send an attempt of a step, once its queue has admitted it and nothing refuses it. -/
def sendGated (seq : Nat) (step : StepDef) (input : Payload) (attempt : Nat) (call : QueueCall) :
    Engine OpEnd := do
  match ← host.admitCall seq call with
  | .error retryAt => return .suspended (some retryAt)
  | .ok queue =>
    match ← dispatchRefusal host.runId with
    | some message => return threwAt (seq + 1) (.failure { message })
    | none =>
      saveCheckpoint { runId := host.runId, seq, name := step.name, kind := .remote
                       status := .pending, input, attempts := attempt, queue }
      dispatchTask { runId := host.runId, seq, attempt }
      return .suspended none

/-- Await a step in memory while it holds a slot, and give the slot back however that ends. -/
def awaitGated (seq : Nat) (step : StepDef) (input : Payload) (call : QueueCall) :
    Engine OpEnd := do
  match ← dispatchRefusal host.runId with
  | some message => return threwAt (seq + 1) (.failure { message })
  | none =>
    match ← host.admitCall seq call with
    | .error retryAt => return .suspended (some retryAt)
    | .ok none => host.awaitRemote seq step input 1 (max 1 (step.retries.getD 1) - 1)
    | .ok (some queue) =>
      let ending ← host.awaitRemote seq step input 1 (max 1 (step.retries.getD 1) - 1)
      releaseSlot queue
      return ending

/-- A failed step: give up on its last attempt, else wait out the delay and send it again. -/
def retryGated (seq : Nat) (step : StepDef) (input : Payload) (call : QueueCall) (now : Nat)
    (checkpoint : StepCheckpoint) : Engine OpEnd :=
  if isLastAttempt step checkpoint then
    return threwAt (seq + 1)
      (.failure (checkpoint.error.getD { message := "remote step failed" }))
  else
    match checkpoint.wakeAt with
    | none => do
      let retryAt := now + host.remote.backoffDelay checkpoint.attempts
      saveCheckpoint { checkpoint with wakeAt := some retryAt }
      return .suspended (some retryAt)
    | some retryAt =>
      if now < retryAt then return .suspended (some retryAt)
      else host.sendGated seq step input (checkpoint.attempts + 1) call

/-- `callRemote` with a queue, from the row that has been read. -/
def decideGated (seq : Nat) (step : StepDef) (input : Payload) (call : QueueCall)
    (again : Engine OpEnd) (existing : Option StepCheckpoint) : Engine OpEnd := do
  let now ← clock
  let send := if 0 < step.timeoutMs.getD 0 then host.awaitGated seq step input call
    else host.sendGated seq step input 1 call
  let noTransport : Engine OpEnd :=
    return threwAt (seq + 1) (.failure { message := "remote steps require a Transport" })
  match existing with
  | none => if !host.remote.hasTransport then noTransport else send
  | some checkpoint =>
    if checkpoint.name ≠ step.name then
      return .nonDeterminism seq step.name checkpoint.name
    else if checkpoint.status = .completed then return returnedAt (seq + 1) checkpoint.output
    else if !host.remote.hasTransport then noTransport
    else if 0 < step.timeoutMs.getD 0 then send
    else
      match checkpoint.status with
      | .pending =>
        host.applyRemote seq step input existing again
          ({ host.remote with clock := now }.awaitPending step checkpoint)
      | .failed => host.retryGated seq step input call now checkpoint
      | _ => send

/-- `callRemote` with a queue, from the stored row, a bounded number of times. -/
def redecideGated (seq : Nat) (step : StepDef) (input : Payload) (call : QueueCall) :
    Nat → Engine OpEnd
  | 0 => return .suspended none
  | rereads + 1 => do
    let existing ← getCheckpoint host.runId seq
    host.decideGated seq step input call (redecideGated seq step input call rereads) existing

/-- `ctx.step` with a queue. -/
def stepGated (step : StepDef) (input : Payload) (call : QueueCall) (current : Nat) :
    Engine OpEnd := do
  let again := host.redecideGated current step input call host.rereads
  let existing ← host.readCheckpoint current
  if isPending existing ∧ (host.replay current).isSome then
    let stored ← getCheckpoint host.runId current
    host.decideGated current step input call again (stored.or existing)
  else host.decideGated current step input call again existing

end CtxHost

end Durable
