import Durable.Interleaving.Runs
import Durable.Interleaving.Table

/-! The start-run and run-request messages that one control-plane instance handles, and whom it
addresses the replies to. -/

namespace Durable.RunReplies

open Interleaving (Table)

/-- The transports that address a reply to one instance. -/
inductive Transport where
  | db | queue
deriving Repr, DecidableEq

/-- What a message is; each kind is consumed by a loop of its own. -/
inductive MessageKind where
  | startRun | runRequest
deriving Repr, DecidableEq

/-- A message of an instance that waits for the reply; the transport stamps it with that
instance's id. -/
inductive Message where
  | startRun (runId : Option String) (replyTo : Option String)
  | runRequest (requestId : String) (replyTo : Option String)
deriving Repr, DecidableEq

/-- What handling a message comes to. -/
inductive Answer where
  | started (runId : String)
  /-- A request is answered, or a start or a request is refused or fails. -/
  | answered
deriving Repr, DecidableEq

namespace Message

/-- The kind of a message. -/
def kind : Message → MessageKind
  | startRun .. => .startRun
  | runRequest .. => .runRequest

/-- The id that a message and its reply are matched by. -/
def correlationId : Message → Option String
  | startRun runId _ => runId
  | runRequest requestId _ => some requestId

/-- The instance that a message names as its sender. -/
def replyTo : Message → Option String
  | startRun _ replyTo => replyTo
  | runRequest _ replyTo => replyTo

/-- The id that the responder's reply to a message is given, if there is one. A start without an id
is answered under that of the run it started. -/
def replyId : Message → Answer → Option String
  | startRun runId _, .started started => some (runId.getD started)
  | startRun runId _, .answered => runId
  | runRequest requestId _, _ => some requestId

/-- The instance that a reply to a message is for; an empty id in a row is none. -/
def requester (transport : Transport) (msg : Message) : Option String :=
  match transport with
  | .db => msg.replyTo.filter (· ≠ "")
  | .queue => msg.replyTo

/-- What is remembered while a message is handled: its id, and the instance that asked. -/
def route (transport : Transport) (msg : Message) : Option (String × String) :=
  msg.correlationId.bind fun id => (msg.requester transport).map fun owner => (id, owner)

end Message

/-- One control-plane instance. -/
structure State where
  replyRoutes : Table String String := .empty
  startRun : Option Message := none
  runRequest : Option Message := none
deriving Repr, DecidableEq

/-- What happens next. -/
inductive Move where
  | receive (msg : Message)
  /-- The responder publishes its reply to a message that is being handled. -/
  | publishRunReply (msg : Message) (answer : Answer)
  | finish (msg : Message)
deriving Repr, DecidableEq

section Operations

variable (transport : Transport) (state : State)

/-- The message that the loop of a kind handles. -/
def State.handled : MessageKind → Option Message
  | .startRun => state.startRun
  | .runRequest => state.runRequest

/-- The loop of a kind handles another message, or none. -/
def State.handle (kind : MessageKind) (msg : Option Message) : State :=
  match kind with
  | .startRun => { state with startRun := msg }
  | .runRequest => { state with runRequest := msg }

/-- `#withReplyRoute`, before the handler: who asked is remembered. -/
def remember (msg : Message) : Table String String :=
  match msg.route transport with
  | none => state.replyRoutes
  | some (id, owner) => state.replyRoutes.set id owner

/-- `#withReplyRoute`, after it: who asked is forgotten, unless another instance asked since. -/
def forget (msg : Message) : Table String String :=
  match msg.route transport with
  | none => state.replyRoutes
  | some (id, owner) =>
    if state.replyRoutes.get id = some owner then state.replyRoutes.erase id
    else state.replyRoutes

/-- `publishRunReply`: the instance that a reply is addressed to, or none where it is dropped. -/
def publishRunReply (requestId : String) : Option String := state.replyRoutes.get requestId

/-- The responder's reply to a message, if there is one: whom it is addressed to, if anyone. -/
def reply (msg : Message) (answer : Answer) : Option (Option String) :=
  (msg.replyId answer).map (publishRunReply state)

/-- What a move makes of the instance, if it can happen. -/
def step : Move → Option State
  | .receive msg =>
    if state.handled msg.kind = none then
      some { state.handle msg.kind (some msg) with replyRoutes := remember transport state msg }
    else none
  | .publishRunReply msg _ =>
    if state.handled msg.kind = some msg then some state else none
  | .finish msg =>
    if state.handled msg.kind = some msg then
      some { state.handle msg.kind none with replyRoutes := forget transport state msg }
    else none

end Operations

end Durable.RunReplies
