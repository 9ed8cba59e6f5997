import Durable.Ctx.Host

/-! The operations of a `ctx` that record a result of the run's own: steps, timers, and markers. -/

namespace Durable

open Engine

namespace CtxHost

variable (host : CtxHost)

/-- Record that a local step's body has begun, where the engine tracks that. -/
def startStep (seq : Nat) (name : String) : Engine Unit :=
  if host.trackStepStart then
    saveCheckpoint { runId := host.runId, seq, name, kind := .local, status := .running }
  else return ()

/-- Record a local step's failure. -/
def failStep (seq : Nat) (name : String) (attempts : Nat) (error : StepError) : Engine Unit :=
  saveCheckpoint { runId := host.runId, seq, name, kind := .local, status := .failed, attempts
                   error := some { error with retryable := none } }

/-- Record a local step's output. -/
def completeStep (seq : Nat) (name : String) (attempts : Nat) (output : Payload) : Engine Unit :=
  saveCheckpoint { runId := host.runId, seq, name, kind := .local, output, attempts }

/-- What follows an attempt of a local step; `again` is the next attempt, while one is left. -/
def settleLocalStep (seq : Nat) (name : String) (attempt : Nat) (again : Option (Engine OpEnd)) :
    Except StepError Payload → Engine OpEnd
  | .ok output => do
    host.completeStep seq name attempt output
    return returnedAt (seq + 1) output
  | .error error =>
    -- A `FatalError` is not retried.
    match if error.retryable = some false then none else again with
    | some again => again
    | none => do
      host.failStep seq name attempt error
      return threwAt (seq + 1) (.failure error)

/-- Run a local step's body until it succeeds, fails for good, or has no attempt left. -/
def attemptLocalStep (seq : Nat) (name : String) (attempt : Nat) : Nat → Engine OpEnd
  | 0 => do
    let result ← runBody host.runId seq attempt
    host.settleLocalStep seq name attempt none result
  | retries + 1 => do
    let result ← runBody host.runId seq attempt
    host.settleLocalStep seq name attempt
      (some (attemptLocalStep seq name (attempt + 1) retries)) result

/-- `ctx.localStep`: only a completed checkpoint replays. -/
def localStep (name : String) (retries : Option Nat) (current : Nat) : Engine OpEnd := do
  match ← host.readCheckpoint current with
  | some existing =>
    if existing.name ≠ name then return .nonDeterminism current name existing.name
    else if existing.status = .completed then return returnedAt (current + 1) existing.output
    else
      host.startStep current name
      host.attemptLocalStep current name 1 (max 1 (retries.getD 1) - 1)
  | none =>
    host.startStep current name
    host.attemptLocalStep current name 1 (max 1 (retries.getD 1) - 1)

/-- Run a transaction's body and record its output with it. -/
def runTransaction (name : String) (current : Nat) : Engine OpEnd := do
  match ← runBody host.runId current 1 with
  | .ok output =>
    host.record current name .local output
    return returnedAt (current + 1) output
  | .error error => return threwAt (current + 1) (.failure error)

/-- The refusal of a transaction on a store without them. -/
def noTransactions : StepError :=
  { message := "ctx.transaction needs a store that supports transactions (the SQL adapters do). " ++
      "Use ctx.step for non-transactional work." }

/-- `ctx.transaction`. -/
def transaction (name : String) (current : Nat) : Engine OpEnd := do
  if !host.hasTransactions then return threwAt current (.failure noTransactions)
  else
    match ← host.readCheckpoint current with
    | some existing =>
      if existing.name ≠ name then return .nonDeterminism current name existing.name
      else if existing.status = .completed then return returnedAt (current + 1) existing.output
      else host.runTransaction name current
    | none => host.runTransaction name current

/-- Record a timer, or wait out the recorded one. -/
def suspendUntil (wakeAt : Nat → Nat) (current : Nat) : Engine OpEnd := do
  let now ← clock
  match ← host.readCheckpoint current with
  | some existing =>
    if existing.wakeAt.getD 0 ≤ now then return returnedAt (current + 1) none
    else return .suspended (some (existing.wakeAt.getD now))
  | none =>
    let at_ := wakeAt (← clock)
    saveCheckpoint { runId := host.runId, seq := current, name := "sleep", kind := .sleep
                     wakeAt := some at_ }
    return .suspended (some at_)

/-- `ctx.sleep`. -/
def sleep (duration : Nat) (current : Nat) : Engine OpEnd :=
  host.suspendUntil (· + duration) current

/-- `ctx.sleepUntil`. -/
def sleepUntil (moment : Nat) (current : Nat) : Engine OpEnd :=
  host.suspendUntil (fun _ => moment) current

/-- `ctx.setEvent`. -/
def setEvent (key : String) (value : Payload) (current : Nat) : Engine OpEnd := do
  let name := "event:" ++ key
  match ← host.readCheckpoint current with
  | some existing =>
    if existing.name ≠ name then return .nonDeterminism current name existing.name
    else if existing.status = .completed then return returnedAt (current + 1) none
    else
      host.record current name .local value
      return returnedAt (current + 1) none
  | none =>
    host.record current name .local value
    return returnedAt (current + 1) none

/-- `ctx.upsertSearchAttributes`; the attributes themselves are merged into the run's row. -/
def upsertSearchAttributes (attrs : Payload) (current : Nat) : Engine OpEnd := do
  match ← host.readCheckpoint current with
  | some existing =>
    if existing.name ≠ "searchAttributes" then
      return .nonDeterminism current "searchAttributes" existing.name
    else return returnedAt (current + 1) none
  | none =>
    host.record current "searchAttributes" .local attrs
    return returnedAt (current + 1) none

/-- The name of a patch marker. -/
def patchMarker (id : String) : String := "patch:" ++ id

/-- A checkpoint is a patch marker, by its name. -/
def isPatchMarker (name : String) : Bool := "patch:".toList.isPrefixOf name.toList

/-- `ctx.patched`: an old run has a step of its own here, and gets the position back. -/
def patched (id : String) (current : Nat) : Engine OpEnd := do
  match ← host.readCheckpoint current with
  | some existing =>
    if existing.name = patchMarker id then return returnedAt (current + 1) (some (.bool true))
    else if isPatchMarker existing.name then
      return .nonDeterminism current (patchMarker id) existing.name
    else return returnedAt current (some (.bool false))
  | none =>
    host.record current (patchMarker id) .local (some (.bool true))
    return returnedAt (current + 1) (some (.bool true))

/-- The error of a step no worker was heard of within its liveness window. -/
def remoteStepTimeout (runId : String) (seq : Nat) (step : StepDef) : StepError :=
  let id := stepId runId seq
  let window := step.timeoutMs.getD 0
  { message := s!"remote step {id} produced no result/heartbeat within {window}ms" }

/-- Record an awaited step's output. -/
def completeRemote (seq : Nat) (step : StepDef) (input : Payload) (attempts : Nat)
    (output : Payload) : Engine OpEnd := do
  saveCheckpoint { runId := host.runId, seq, name := step.name, kind := .remote, input, output
                   attempts }
  return returnedAt (seq + 1) output

/-- What follows an awaited attempt; only a lost worker is tried again. -/
def settleRemote (seq : Nat) (step : StepDef) (input : Payload) (attempt : Nat)
    (again : Option (Engine OpEnd)) : Except StepError Payload → Engine OpEnd
  | .ok output => host.completeRemote seq step input attempt output
  | .error error =>
    if error = remoteStepTimeout host.runId seq step then do
      -- Another instance may have recorded the result meanwhile.
      match ← getCheckpoint host.runId seq with
      | some late =>
        if late.status = .completed then host.completeRemote seq step input attempt late.output
        else again.getD (return threwAt (seq + 1) (.failure error))
      | none => again.getD (return threwAt (seq + 1) (.failure error))
    else return threwAt (seq + 1) (.failure error)

/-- Dispatch a step and await its result in memory, again while its liveness window runs out. -/
def awaitRemote (seq : Nat) (step : StepDef) (input : Payload) (attempt : Nat) :
    Nat → Engine OpEnd
  | 0 => do
    saveCheckpoint { runId := host.runId, seq, name := step.name, kind := .remote
                     status := .pending, input, attempts := attempt }
    let result ← runBody host.runId seq attempt
    host.settleRemote seq step input attempt none result
  | retries + 1 => do
    saveCheckpoint { runId := host.runId, seq, name := step.name, kind := .remote
                     status := .pending, input, attempts := attempt }
    let result ← runBody host.runId seq attempt
    host.settleRemote seq step input attempt
      (some (awaitRemote seq step input (attempt + 1) retries)) result

/-- A checkpoint is still pending. -/
def isPending : Option StepCheckpoint → Bool
  | some checkpoint => checkpoint.status == .pending
  | none => false

/-- Carry out what `callRemote` decided, and look again when the row moved on meanwhile. -/
def applyRemote (seq : Nat) (step : StepDef) (input : Payload) (existing : Option StepCheckpoint)
    (again : Engine OpEnd) : RemoteTurn → Engine OpEnd
  | .returned output => return returnedAt (seq + 1) output
  | .failed error => return threwAt (seq + 1) (.failure error)
  | .nonDeterminism expected recorded => return .nonDeterminism seq expected recorded
  | .refused message => return threwAt (seq + 1) (.failure { message })
  | .awaited => host.awaitRemote seq step input 1 (max 1 (step.retries.getD 1) - 1)
  | .suspended wakeAt none _ => return .suspended wakeAt
  | .suspended wakeAt (some write) _ =>
    if isPending existing then do
      if ← saveCheckpointIfPending write then return .suspended wakeAt else again
    else do
      saveCheckpoint write
      return .suspended wakeAt

/-- Decide a dispatched step from its row, and do what was decided. -/
def decideRemote (seq : Nat) (step : StepDef) (input : Payload) (again : Engine OpEnd)
    (existing : Option StepCheckpoint) : Engine OpEnd := do
  let now ← clock
  let refusal ← dispatchRefusal host.runId
  host.applyRemote seq step input existing again
    ({ host.remote with clock := now }.callRemote host.runId seq step input none refusal existing)

/-- Decide a dispatched step from the stored row, a bounded number of times. -/
def redecideRemote (seq : Nat) (step : StepDef) (input : Payload) : Nat → Engine OpEnd
  | 0 => return .suspended none
  | rereads + 1 => do
    let existing ← getCheckpoint host.runId seq
    host.decideRemote seq step input (redecideRemote seq step input rereads) existing

/-- `ctx.step`: a pending row of the snapshot is read again before anything acts on it. -/
def step (step : StepDef) (input : Payload) (current : Nat) : Engine OpEnd := do
  let again := host.redecideRemote current step input host.rereads
  let existing ← host.readCheckpoint current
  if isPending existing ∧ (host.replay current).isSome then
    let stored ← getCheckpoint host.runId current
    host.decideRemote current step input again (stored.or existing)
  else host.decideRemote current step input again existing

end CtxHost

end Durable
