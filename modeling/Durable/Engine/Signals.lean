import Durable.Ctx.Waits

/-! Deliveries to a wait: signals, and published events. -/

namespace Durable

open Engine

/-- The checkpoint that resolves a waiter with a payload. -/
def SignalWaiter.resolved (waiter : SignalWaiter) (payload : Payload) : StepCheckpoint :=
  { runId := waiter.runId, seq := waiter.seq, name := signalName waiter.token, kind := .signal
    output := payload, parallelGroup := waiter.parallelGroup }

/-- Resolve a waiter that has been taken, and wake its run. -/
def deliverSignal (waiter : SignalWaiter) (payload : Payload) : Engine Unit := do
  saveCheckpoint (waiter.resolved payload)
  requestWake waiter.runId

/-- What follows the signal's buffering: a waiter registered meanwhile is delivered to. -/
def reclaimBuffered (token : Token) : Engine Bool := do
  match ← takeSignalWaiter token with
  | none => return false
  | some lateWaiter =>
    match ← takeBufferedSignal token with
    -- The waiter side consumed the buffer itself, and the taken waiter is dropped.
    | none => return false
    | some reclaimed =>
      deliverSignal lateWaiter reclaimed
      return true

/-- `engine.signal`: whether a waiting run was resumed. -/
def signal (token : Token) (payload : Payload) : Engine Bool := do
  match ← takeSignalWaiter token with
  | some waiter =>
    deliverSignal waiter payload
    return true
  | none =>
    bufferSignal token payload
    reclaimBuffered token

/-- Signal every listed waiter whose match the payload satisfies, and count them. -/
def signalMatching (payload : Payload) : List SignalWaiter → Engine Nat
  | [] => return 0
  | waiter :: rest =>
    if eventMatches payload (eventMatchOf waiter.token) then do
      let _ ← signal waiter.token payload
      return (← signalMatching payload rest) + 1
    else signalMatching payload rest

/-- Start the runs that subscribe to an event, each under an id of its own, and count them. -/
def startSubscribers (eventId : String) (payload : Payload) : List String → Engine Nat
  | [] => return 0
  | workflow :: rest => do
    -- A start is idempotent by its id: one that exists is reached too.
    let _ ← createRun { id := "evt:" ++ eventId ++ ":" ++ workflow, workflow, status := .pending
                        input := payload }
    return (← startSubscribers eventId payload rest) + 1

/-- One call of `engine.publishEvent`. -/
structure Publication where
  name : String
  payload : Payload
  eventId : String
  bufferedId : String
  subscribers : List String := []
  buffer : Bool := true

namespace Publication

variable (event : Publication)

/-- Whether a waiter's match accepts the event. -/
def accepts (waiter : SignalWaiter) : Bool :=
  eventMatches event.payload (eventMatchOf waiter.token)

/-- Look once more for a waiter after buffering the event, and deliver the buffered copy to it. -/
def recheck : Engine Nat := do
  let lateWaiters ← listSignalWaiters event.name
  match lateWaiters.find? event.accepts with
  | none => return 0
  | some lateWaiter =>
    if ← removeBufferedEvent event.bufferedId then
      match ← takeSignalWaiter lateWaiter.token with
      | some waiter =>
        deliverSignal waiter event.payload
        return 1
      -- The registration resolved itself meanwhile, and the copy is spent.
      | none => return 0
    else return 0

/-- Buffer one copy of the event, and look once more. -/
def keep : Engine Nat := do
  let publishedAt ← clock
  bufferEvent { id := event.bufferedId, name := event.name, payload := event.payload, publishedAt }
  event.recheck

/-- `engine.publishEvent`: how many waits and subscribers it touched. -/
def publish : Engine Nat := do
  let waiters ← listSignalWaiters event.name
  let touched ← signalMatching event.payload waiters
  let reached ← startSubscribers event.eventId event.payload event.subscribers
  if 0 < touched + reached ∨ event.buffer = false then return touched + reached
  else event.keep

end Publication

end Durable
