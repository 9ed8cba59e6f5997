import Durable.Ctx.Waits

/-! The operations of a `ctx` that send to a durable entity. -/

namespace Durable

open Engine

/-- The run of an entity, which is also the token its messages are buffered under. -/
def entityRunId (name key : String) : String := s!"entity:{name}:{key}"

/-- The message an operation on an entity travels as. -/
def entityMessage (op : String) (arg : Payload) (id : String) (reply : Option Token) : Value :=
  .obj ([("op", .str op)] ++ (arg.map fun arg => ("arg", arg)).toList ++ [("id", .str id)] ++
    (reply.map fun reply => ("reply", Value.str reply.text)).toList)

/-- What an intent to call an entity records: whether the message was sent. -/
def entityIntent (sent : Bool) : Value := .obj [("sent", .bool sent)]

namespace CtxHost

variable (host : CtxHost)

/-- Buffer an operation on an entity; false where the engine cannot. -/
def sendEntityOp (name key op : String) (arg : Payload) (seq : Nat) (reply : Option Token) :
    Engine Bool :=
  if host.hasEntities then do
    bufferSignal (.named (entityRunId name key))
      (some (entityMessage op arg (stepId host.runId seq) reply))
    return true
  else return false

/-- The token an entity's answer is signalled on. -/
def entityReplyToken (seq : Nat) : Token := .named s!"entityreply:{host.runId}:{seq}"

/-- The checkpoint of an intent to call an entity. -/
def intentCheckpoint (seq : Nat) (sent : Bool) : StepCheckpoint :=
  { runId := host.runId, seq, name := signalName (host.entityReplyToken seq), kind := .signal
    status := .pending, output := some (entityIntent sent) }

/-- Send an intended call, mark the intent as sent, wake the entity, and suspend. -/
def sendIntent (name key op : String) (arg : Payload) (seq : Nat) : Engine OpEnd := do
  if ← host.sendEntityOp name key op arg seq (some (host.entityReplyToken seq)) then
    let _ ← saveCheckpointIfPending (host.intentCheckpoint seq true)
    deferEffect (.kickEntity name key)
    return .suspended none
  else
    deferEffect (.kickEntity name key)
    return .suspended none

/-- A recorded intent says that its call was sent. -/
def isSent (intent : StepCheckpoint) : Bool :=
  intent.output.bind (·.field "sent") == some (.bool true)

/-- Wait for the answer to a recorded intent, sending the call unless it was. -/
def awaitReply (name key op : String) (arg : Payload) (current : Nat)
    (intent : StepCheckpoint) : Engine OpEnd := do
  match ← host.consumeBuffered (host.entityReplyToken current) current with
  | some payload =>
    removeSignalWaiter (host.waiter (host.entityReplyToken current) current)
    return returnedAt (current + 1) payload
  | none =>
    if isSent intent then
      deferEffect (.kickEntity name key)
      return .suspended none
    else host.sendIntent name key op arg current

/-- `ctx.callEntity`: an intent, the buffered call, and the intent marked as sent. -/
def callEntity (name key op : String) (arg : Payload) (current : Nat) : Engine OpEnd := do
  let intentName := signalName (host.entityReplyToken current)
  match ← host.readCheckpoint current with
  | some existing =>
    if existing.status = .completed then return returnedAt (current + 1) existing.output
    else if existing.name ≠ intentName then
      return .nonDeterminism current intentName existing.name
    else if (host.replay current).isSome then
      -- The answer may have landed since the snapshot.
      let stored ← getCheckpoint host.runId current
      let latest := stored.getD existing
      if latest.status = .completed then return returnedAt (current + 1) latest.output
      else host.awaitReply name key op arg current latest
    else host.awaitReply name key op arg current existing
  | none =>
    putSignalWaiter (host.waiter (host.entityReplyToken current) current)
    saveCheckpoint (host.intentCheckpoint current false)
    host.sendIntent name key op arg current

/-- Send an operation on an entity without awaiting its result, and record that it was sent. -/
def dispatchEntityOp (name key op : String) (arg : Payload) (current : Nat) : Engine OpEnd := do
  let durable ← host.sendEntityOp name key op arg current none
  if durable then
    host.record current ("entitysig:" ++ name ++ ":" ++ key) .local none
    deferEffect (.kickEntity name key)
    return returnedAt (current + 1) none
  else
    deferEffect (.kickEntity name key)
    host.record current ("entitysig:" ++ name ++ ":" ++ key) .local none
    return returnedAt (current + 1) none

/-- `ctx.signalEntity`. -/
def signalEntity (name key op : String) (arg : Payload) (current : Nat) : Engine OpEnd := do
  match ← host.readCheckpoint current with
  | some existing =>
    if existing.status = .completed then return returnedAt (current + 1) none
    else host.dispatchEntityOp name key op arg current
  | none => host.dispatchEntityOp name key op arg current

end CtxHost

end Durable
