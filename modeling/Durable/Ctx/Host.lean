import Durable.Ctx.Fan
import Durable.Engine.Operations
import Durable.Engine.RemoteStep

/-! What a turn's `ctx` is built over, and how its operations end. -/

namespace Durable

open Engine

/-- The run, the settings, and the checkpoints one turn's `ctx` is built over. -/
structure CtxHost where
  runId : String
  replay : Nat → Option StepCheckpoint
  eventBufferTtlMs : Option Nat := none
  /-- Whether a local step is recorded as running before its body runs. -/
  trackStepStart : Bool := false
  hasTransactions : Bool := true
  hasEntities : Bool := true
  /-- How dispatched steps are sent and repeated; its clock is read at each call. -/
  remote : RemotePolicy := { clock := 0 }
  /-- How often a dispatched step's row may move on while it is being rewritten. -/
  rereads : Nat := 1

/-- What an operation throws into its body. -/
inductive Thrown where
  | failure (error : StepError)
  | timeout (label : String) (timeoutMs : Nat)
  | gather (error : GatherError)
deriving Repr, DecidableEq

/-- What a body sees of an operation. -/
inductive Observed where
  | returned (value : Payload)
  | outputs (values : List (Option Value))
  | settled (results : List Settled)
  | threw (error : Thrown)
deriving Repr, DecidableEq

/-- How an operation's call ends. -/
inductive OpEnd where
  /-- The body goes on, and its next operation claims this position. -/
  | observed (result : Observed) (next : Nat)
  | suspended (wakeAt : Option Nat)
  /-- A `NonDeterminismError`: another operation is recorded at the position. -/
  | nonDeterminism (seq : Nat) (expected recorded : String)
deriving Repr, DecidableEq

/-- An operation returned to its body. -/
def returnedAt (next : Nat) (value : Payload) : OpEnd := .observed (.returned value) next

/-- An operation threw into its body. -/
def threwAt (next : Nat) (error : Thrown) : OpEnd := .observed (.threw error) next

/-- An operation handed its body a completion's value, or threw its failure. -/
def unwrappedAt (next : Nat) (label : String) (payload : Payload) : OpEnd :=
  match unwrapCompletion label payload with
  | .ok value => returnedAt next value
  | .error error => threwAt next (.failure error)

namespace CtxHost

variable (host : CtxHost)

/-- Read the checkpoint at a position for the replay. -/
def readCheckpoint (seq : Nat) : Engine (Option StepCheckpoint) :=
  Engine.readCheckpoint host.runId seq (host.replay seq)

/-- Write a completed checkpoint of the run. -/
def record (seq : Nat) (name : String) (kind : StepKind) (output : Payload) : Engine Unit :=
  saveCheckpoint { runId := host.runId, seq, name, kind, output }

/-- The run's own waiter at a position. -/
def waiter (token : Token) (seq : Nat) : SignalWaiter :=
  { token, runId := host.runId, seq }

end CtxHost

end Durable
