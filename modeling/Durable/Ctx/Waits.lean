import Durable.Ctx.Host

/-! The operations of a `ctx` that wait for a delivery: signals, events, runs, and callbacks. -/

namespace Durable

open Engine

/-- How many buffered events one look at the buffer considers. -/
def eventBufferScanLimit : Nat := 50

/-- The name of the checkpoint a delivery to a token leaves. -/
def signalName (token : Token) : String := "signal:" ++ token.text

/-- What a run's status says it ended as: `run.completed` or `run.failed`, or neither. -/
def lifecycleKindOf (status : RunStatus) : Option Bool :=
  match status with
  | .completed => some true
  | .failed | .cancelled | .dead => some false
  | _ => none

/-- What a settled run publishes to those that wait for it. -/
def lifecycleEventOf (run : WorkflowRun) : Value :=
  .obj ([("runId", .str run.id), ("workflow", .str run.workflow),
      ("status", .str run.status.text)] ++
    (run.input.map fun input => ("input", input)).toList ++
    (if run.status = .completed then (run.output.map fun output => ("output", output)).toList
     else (run.error.map fun error => ("error", error.toValue)).toList))

/-- A character that ends a line, which `.` does not match. -/
def isLineEnd (char : Char) : Bool :=
  char = '\n' || char = '\r' || char.toNat = 0x2028 || char.toNat = 0x2029

/-- An id that reads as one of a continuation: what stands before its last `~`, and the digits
behind it. -/
def continuationParts (runId : String) : Option (String × List Char) :=
  match runId.toList.reverse.span (· != '~') with
  | (digits, _ :: base) =>
    if !digits.isEmpty && digits.all Char.isDigit && !base.any isLineEnd then
      some (String.ofList base.reverse, digits.reverse)
    else none
  | (_, []) => none

/-- The number of a list of digits. -/
def chainNumber (digits : List Char) : Nat :=
  digits.foldl (fun number digit => 10 * number + (digit.toNat - 48)) 0

/-- The id of the run that continues a run as new. -/
def nextContinuationId (runId : String) : String :=
  match continuationParts runId with
  | some (base, digits) => base ++ "~" ++ toString (chainNumber digits + 1)
  | none => runId ++ "~1"

/-- How far a continue-as-new chain is followed. -/
def runWaitMaxHops : Nat := 100

/-- Follow a completed run's continuations to the last of them. -/
def followChain (run : WorkflowRun) : Nat → Engine WorkflowRun
  | 0 => return run
  | hops + 1 =>
    if run.status = .completed then do
      match ← getRun (nextContinuationId run.id) with
      | some next => followChain next hops
      | none => return run
    else return run

/-- The last run of a continue-as-new chain. -/
def lastRunOfChain (runId : String) : Engine (Option WorkflowRun) := do
  match ← getRun runId with
  | some run => return some (← followChain run runWaitMaxHops)
  | none => return none

namespace CtxHost

variable (host : CtxHost)

/-- Consume a buffered signal, recording it as the wait's own checkpoint. -/
def consumeBuffered (token : Token) (seq : Nat) : Engine (Option Payload) := do
  match ← takeBufferedSignal token with
  | none => return none
  | some payload =>
    host.record seq (signalName token) .signal payload
    return some payload

/-- Look at buffered events in turn, and consume the first that matches and is still there. -/
def consumeFirstMatch (criteria : EventMatch) (token : Token) (seq : Nat) (now : Nat) :
    List BufferedEvent → Engine (Option Payload)
  | [] => return none
  | candidate :: rest =>
    if host.eventBufferTtlMs.any fun ttl => decide (ttl < now - candidate.publishedAt) then do
      -- An expired event is pruned, whatever it carries.
      let _ ← removeBufferedEvent candidate.id
      consumeFirstMatch criteria token seq now rest
    else if !eventMatches candidate.payload criteria then
      consumeFirstMatch criteria token seq now rest
    else do
      if ← removeBufferedEvent candidate.id then
        removeSignalWaiter (host.waiter token seq)
        host.record seq (signalName token) .signal candidate.payload
        return some candidate.payload
      else consumeFirstMatch criteria token seq now rest

/-- Consume a buffered event that matches, recording it as the wait's own checkpoint. -/
def consumeBufferedEvent (name : String) (criteria : EventMatch) (token : Token) (seq : Nat) :
    Engine (Option Payload) := do
  let candidates ← listBufferedEvents name eventBufferScanLimit
  match host.eventBufferTtlMs with
  | none => host.consumeFirstMatch criteria token seq 0 candidates
  | some _ => host.consumeFirstMatch criteria token seq (← clock) candidates

/-- The deadline of a bounded wait: stamped once, and read back on every later replay. -/
def stampDeadline (deadlineSeq : Nat) (label : String) (timeoutMs : Nat) : Engine Nat := do
  match ← host.readCheckpoint deadlineSeq with
  | some recorded =>
    match recorded.wakeAt with
    | some deadline => return deadline
    | none => return (← clock) + timeoutMs
  | none =>
    let deadline := (← clock) + timeoutMs
    saveCheckpoint { runId := host.runId, seq := deadlineSeq, name := "timeout:" ++ label
                     kind := .sleep, wakeAt := some deadline }
    return deadline

/-- Register a waiter, look at the buffer once more, and suspend. -/
def registerAndRecheck (token : Token) (seq next : Nat) (wakeAt : Option Nat) : Engine OpEnd := do
  putSignalWaiter (host.waiter token seq)
  match ← host.consumeBuffered token seq with
  | some payload =>
    removeSignalWaiter (host.waiter token seq)
    return returnedAt next payload
  | none => return .suspended wakeAt

/-- Give up a bounded wait whose deadline has passed. -/
def timeOut (token : Token) (seq next : Nat) (label : String) (timeoutMs : Nat) :
    Engine OpEnd := do
  removeSignalWaiter (host.waiter token seq)
  return threwAt next (.timeout label timeoutMs)

/-- Check the buffer, register, and check again. -/
def awaitSignal (token : Token) (current : Nat) : Engine OpEnd := do
  match ← host.consumeBuffered token current with
  | some payload => return returnedAt (current + 1) payload
  | none => host.registerAndRecheck token current (current + 1) none

/-- `ctx.waitForSignal` without a timeout. -/
def waitForSignal (token : Token) (current : Nat) : Engine OpEnd := do
  match ← host.readCheckpoint current with
  | some existing =>
    if existing.status = .completed then return returnedAt (current + 1) existing.output
    else host.awaitSignal token current
  | none => host.awaitSignal token current

/-- Check the buffer, then the deadline, then register and check again. -/
def awaitSignalUntil (token : Token) (waitSeq timeoutMs deadline : Nat) : Engine OpEnd := do
  match ← host.consumeBuffered token waitSeq with
  | some payload => return returnedAt (waitSeq + 1) payload
  | none =>
    let now ← clock
    if deadline ≤ now then host.timeOut token waitSeq (waitSeq + 1) token.text timeoutMs
    else host.registerAndRecheck token waitSeq (waitSeq + 1) (some deadline)

/-- `ctx.waitForSignal` with a timeout: a deadline and a wait, at two positions. -/
def waitForSignalUntil (token : Token) (timeoutMs current : Nat) : Engine OpEnd := do
  let deadline ← host.stampDeadline current token.text timeoutMs
  match ← host.readCheckpoint (current + 1) with
  | some waited =>
    if waited.status = .completed then return returnedAt (current + 2) waited.output
    else host.awaitSignalUntil token (current + 1) timeoutMs deadline
  | none => host.awaitSignalUntil token (current + 1) timeoutMs deadline

/-- Register for an event, scan the buffer, and suspend. -/
def registerForEvent (name : String) (criteria : EventMatch) (token : Token) (seq : Nat)
    (wakeAt : Option Nat) : Engine OpEnd := do
  putSignalWaiter (host.waiter token seq)
  match ← host.consumeBufferedEvent name criteria token seq with
  | some payload => return returnedAt (seq + 1) payload
  | none => return .suspended wakeAt

/-- `ctx.waitForEvent` without a timeout. -/
def waitForEvent (name : String) (criteria : Option EventMatch) (current : Nat) :
    Engine OpEnd := do
  let token := eventToken name criteria host.runId current
  match ← host.readCheckpoint current with
  | some existing =>
    if existing.status = .completed then return returnedAt (current + 1) existing.output
    else host.registerForEvent name (criteria.getD []) token current none
  | none => host.registerForEvent name (criteria.getD []) token current none

/-- Check the deadline, then register for the event. -/
def awaitEventUntil (name : String) (criteria : EventMatch) (token : Token)
    (waitSeq timeoutMs deadline : Nat) : Engine OpEnd := do
  let now ← clock
  if deadline ≤ now then host.timeOut token waitSeq (waitSeq + 1) ("event:" ++ name) timeoutMs
  else host.registerForEvent name criteria token waitSeq (some deadline)

/-- `ctx.waitForEvent` with a timeout. -/
def waitForEventUntil (name : String) (criteria : Option EventMatch) (timeoutMs current : Nat) :
    Engine OpEnd := do
  let token := eventToken name criteria host.runId (current + 1)
  let deadline ← host.stampDeadline current ("event:" ++ name) timeoutMs
  match ← host.readCheckpoint (current + 1) with
  | some waited =>
    if waited.status = .completed then return returnedAt (current + 2) waited.output
    else host.awaitEventUntil name (criteria.getD []) token (current + 1) timeoutMs deadline
  | none => host.awaitEventUntil name (criteria.getD []) token (current + 1) timeoutMs deadline

/-- The failure of a wait for a run that does not exist. -/
def runNotFound (target : String) : StepError :=
  { message := s!"run {target} not found", code := some "run_not_found", retryable := some false }

/-- Settle a wait whose target has settled, unless its delivery was taken on elsewhere. -/
def settledTarget (target : String) (token : Token) (seq : Nat) (wakeAt : Option Nat) :
    Engine OpEnd := do
  match ← lastRunOfChain target with
  | none =>
    removeSignalWaiter (host.waiter token seq)
    return threwAt (seq + 1) (.failure (runNotFound target))
  | some run =>
    if (lifecycleKindOf run.status).isNone then return .suspended wakeAt
    else
      match ← takeSignalWaiter token with
      | some _ =>
        let event := some (lifecycleEventOf run)
        host.record seq (signalName token) .signal event
        return returnedAt (seq + 1) event
      | none =>
        match ← getCheckpoint host.runId seq with
        | some delivered =>
          if delivered.status = .completed then return returnedAt (seq + 1) delivered.output
          else return .suspended wakeAt
        | none => return .suspended wakeAt

/-- Register for a run's end, then look whether it has ended. -/
def registerForRun (target : String) (token : Token) (seq : Nat) (wakeAt : Option Nat) :
    Engine OpEnd := do
  putSignalWaiter (host.waiter token seq)
  host.settledTarget target token seq wakeAt

/-- `ctx.waitForRun` without a timeout. -/
def waitForRun (target : String) (current : Nat) : Engine OpEnd := do
  let token := runWaitToken target host.runId current
  match ← host.readCheckpoint current with
  | some existing =>
    if existing.status = .completed then return returnedAt (current + 1) existing.output
    else host.registerForRun target token current none
  | none => host.registerForRun target token current none

/-- Check the deadline, then register for the run's end. -/
def awaitRunUntil (target : String) (token : Token) (waitSeq timeoutMs deadline : Nat) :
    Engine OpEnd := do
  let now ← clock
  if deadline ≤ now then host.timeOut token waitSeq (waitSeq + 1) ("run:" ++ target) timeoutMs
  else host.registerForRun target token waitSeq (some deadline)

/-- `ctx.waitForRun` with a timeout. -/
def waitForRunUntil (target : String) (timeoutMs current : Nat) : Engine OpEnd := do
  let token := runWaitToken target host.runId (current + 1)
  let deadline ← host.stampDeadline current ("run:" ++ target) timeoutMs
  match ← host.readCheckpoint (current + 1) with
  | some waited =>
    if waited.status = .completed then return returnedAt (current + 2) waited.output
    else host.awaitRunUntil target token (current + 1) timeoutMs deadline
  | none => host.awaitRunUntil target token (current + 1) timeoutMs deadline

/-- The token of an update point. -/
def updateToken (name : String) : Token := .named s!"update:{host.runId}:{name}"

/-- `ctx.onUpdate` without a timeout. -/
def onUpdate (name : String) (current : Nat) : Engine OpEnd :=
  host.waitForSignal (host.updateToken name) current

/-- `ctx.onUpdate` with a timeout. -/
def onUpdateUntil (name : String) (timeoutMs current : Nat) : Engine OpEnd :=
  host.waitForSignalUntil (host.updateToken name) timeoutMs current

/-- The token a webhook minted at a position. -/
def webhookToken (minted : Nat) : Token := .named s!"wh:{host.runId}:{minted}"

/-- `ctx.webhook`: claim a position for the callback. -/
def webhook (current : Nat) : Engine OpEnd :=
  return returnedAt (current + 1) (some (.str (host.webhookToken current).text))

/-- Check the buffer, register, and check again, at the webhook's own position. -/
def awaitCallback (minted current : Nat) : Engine OpEnd := do
  match ← host.consumeBuffered (host.webhookToken minted) minted with
  | some payload => return returnedAt current payload
  | none => host.registerAndRecheck (host.webhookToken minted) minted current none

/-- A webhook's `wait` without a timeout. -/
def webhookWait (minted current : Nat) : Engine OpEnd := do
  match ← host.readCheckpoint minted with
  | some existing =>
    if existing.status = .completed then return returnedAt current existing.output
    else host.awaitCallback minted current
  | none => host.awaitCallback minted current

/-- Check the buffer, stamp and check the deadline, then register and check again. -/
def awaitCallbackUntil (minted timeoutMs current : Nat) : Engine OpEnd := do
  let token := host.webhookToken minted
  match ← host.consumeBuffered token minted with
  | some payload => return returnedAt (current + 1) payload
  | none =>
    let deadline ← host.stampDeadline current token.text timeoutMs
    let now ← clock
    if deadline ≤ now then host.timeOut token minted (current + 1) token.text timeoutMs
    else host.registerAndRecheck token minted (current + 1) (some deadline)

/-- A webhook's `wait` with a timeout, whose deadline claims a position of its own. -/
def webhookWaitUntil (minted timeoutMs current : Nat) : Engine OpEnd := do
  match ← host.readCheckpoint minted with
  | some existing =>
    if existing.status = .completed then return returnedAt (current + 1) existing.output
    else host.awaitCallbackUntil minted timeoutMs current
  | none => host.awaitCallbackUntil minted timeoutMs current

/-- The name of a breakpoint's checkpoint. -/
def breakpointName : Option String → String
  | some label => if label.isEmpty then "breakpoint" else "breakpoint:" ++ label
  | none => "breakpoint"

/-- `ctx.breakpoint`. -/
def breakpoint (label : Option String) (current : Nat) : Engine OpEnd := do
  match ← host.readCheckpoint current with
  | some existing =>
    if existing.status = .completed then return returnedAt (current + 1) none
    else return .suspended none
  | none =>
    saveCheckpoint { runId := host.runId, seq := current, name := breakpointName label
                     kind := .signal, status := .pending }
    putSignalWaiter (host.waiter (breakpointToken host.runId current) current)
    return .suspended none

end CtxHost

end Durable
