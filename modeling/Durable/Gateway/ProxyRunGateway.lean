import Durable.Interleaving.Runs
import Durable.Interleaving.Table

/-! Calls on one proxy run gateway, and the replies, send failures and timers that settle them. -/

namespace Durable.ProxyRunGateway

open Interleaving (Table)

/-- What a control plane answered. -/
inductive ReplyResult (Data : Type) where
  | ok (data : Data)
  | error (message : String) (code : Option String)

/-- An answer, with the id of the message that it answers. -/
structure RunReply (Data : Type) where
  requestId : String
  result : ReplyResult Data

/-- What a call fails with. -/
inductive CallError where
  | unsupported (message : String)
  | refused (message : String) (code : Option String)
  | send (error : String)
  | timeout (message : String)
deriving Repr, DecidableEq

/-- What a call ends with. -/
inductive Settlement (Data : Type) where
  | resolved (data : Data)
  | rejected (error : CallError)

/-- What settled a call. -/
inductive Source where
  /-- A reply, and the call whose message it answers, if it is one of this gateway. -/
  | reply (message : Option Nat)
  | send (call : Nat)
  | timer (call : Nat)
deriving Repr, DecidableEq

/-- A call that waits for a reply, or has been settled. -/
structure Call (Data : Type) where
  correlationId : String
  verbLabel : String
  armed : Bool := true
  sending : Bool := true
  settled : List (Source × Settlement Data) := []

/-- The gateway's map of pending replies, and the calls there have been. -/
structure State (Data : Type) where
  /-- Under each correlation id, the call whose promise and timer are kept. -/
  pending : Table String Nat := Table.empty
  calls : List (Call Data) := []

/-- What happens next. -/
inductive Move (Data : Type) where
  | request (kind requestId : String)
  | start (runId : Option String) (minted : String)
  | reply (reply : RunReply Data) (message : Option Nat)
  | sent (call : Nat)
  | sendFails (call : Nat) (error : String)
  | timer (call : Nat)

/-- The code of a request that a control plane does not know. -/
def unsupportedRunRequest : String := "unsupported-request"

/-- What the message of an older control plane begins with that does not know a verb. -/
def legacyUnknownVerb : String := "unknown run-request verb: "

section Operations

variable {Data : Type} (timeoutMs : Nat) (state : State Data)

/-- What a reply settles its call with. -/
def settlementOf (result : ReplyResult Data) : Settlement Data :=
  match result with
  | .ok data => .resolved data
  | .error message code =>
    if code = some unsupportedRunRequest ||
        (code = none && legacyUnknownVerb.toList.isPrefixOf message.toList) then
      .rejected (.unsupported message)
    else .rejected (.refused message code)

/-- Settle a call, whose timer is cleared. -/
def settle (index : Nat) (source : Source) (settlement : Settlement Data) : State Data :=
  { state with
    calls := state.calls.modify index fun call =>
      { call with armed := false, settled := call.settled ++ [(source, settlement)] } }

/-- Settle the call that is pending under an id, if one is. -/
def settlePending (correlationId : String) (source : Source) (settlement : Settlement Data) :
    State Data :=
  match state.pending.get correlationId with
  | none => state
  | some index =>
    settle { state with pending := state.pending.erase correlationId } index source settlement

/-- `#awaitReply`: a call waits for a reply under an id. -/
def awaitReply (correlationId verbLabel : String) : State Data where
  pending := state.pending.set correlationId state.calls.length
  calls := state.calls ++ [{ correlationId := correlationId, verbLabel := verbLabel }]

/-- `#handleReply`: a reply settles the call that is pending under its id. -/
def handleReply (reply : RunReply Data) (message : Option Nat) : State Data :=
  settlePending state reply.requestId (.reply message) (settlementOf reply.result)

/-- A call's message is sent no more. -/
def stopSending (index : Nat) : State Data :=
  { state with calls := state.calls.modify index fun call => { call with sending := false } }

/-- The message of a call cannot be sent. -/
def sendFails (index : Nat) (call : Call Data) (error : String) : State Data :=
  settlePending (stopSending state index) call.correlationId (.send index)
    (.rejected (.send error))

/-- The text of a timeout. -/
def timeoutText (verbLabel : String) : String :=
  s!"durable control plane did not answer {verbLabel} within {timeoutMs}ms"

/-- A call's timer fires. -/
def expire (index : Nat) (call : Call Data) : State Data :=
  settle { state with pending := state.pending.erase call.correlationId } index (.timer index)
    (.rejected (.timeout (timeoutText timeoutMs call.verbLabel)))

/-- Whether no call has had an id. -/
def unused (correlationId : String) : Bool :=
  state.calls.all fun call => call.correlationId ≠ correlationId

/-- What a move makes of the state, if it can happen. -/
def step : Move Data → Option (State Data)
  | .request kind requestId =>
    if unused state requestId then some (awaitReply state requestId kind) else none
  | .start (some runId) _ => some (awaitReply state runId "start")
  | .start none minted =>
    if unused state minted then some (awaitReply state minted "start") else none
  | .reply reply message =>
    -- A reply has the id of the message it answers.
    if message.all fun index =>
        (state.calls[index]?).any fun call => call.correlationId = reply.requestId then
      some (handleReply state reply message)
    else none
  | .sent index =>
    match state.calls[index]? with
    | none => none
    | some call => if call.sending then some (stopSending state index) else none
  | .sendFails index error =>
    match state.calls[index]? with
    | none => none
    | some call => if call.sending then some (sendFails state index call error) else none
  | .timer index =>
    match state.calls[index]? with
    | none => none
    | some call => if call.armed then some (expire timeoutMs state index call) else none

end Operations

end Durable.ProxyRunGateway
