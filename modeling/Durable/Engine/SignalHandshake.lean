import Durable.Ctx.Body
import Durable.Engine.Signals
import Durable.Interleaving.Process

/-! Calls of `engine.signal` beside the turns of one run that waits for their token. -/

namespace Durable

open Engine Interleaving

/-- A body that waits for one token a number of times in sequence. -/
def Body.waits (token : Token) : Nat → Body
  | 0 => .finished none
  | count + 1 => .perform (.waitForSignal token none) fun _ => Body.waits token count

/-- One turn of a run over its checkpoints as they are when the turn begins. -/
def Body.execution (host : CtxHost) (body : Body) : Engine TurnEnd := do
  let replay ← replayCheckpoints host.runId
  body.turn { host with replay } 0

/-- How far a process has come with its payload or its wait. -/
inductive SignalPhase where
  | owes (payload : Payload)
  /-- A call holds a payload and the waiter it will resolve with it. -/
  | held (payload : Payload) (waiter : SignalWaiter)
  /-- A call has buffered its payload, and looks for a waiter once more. -/
  | buffered
  | late (waiter : SignalWaiter)
  /-- A call has delivered its payload, or left it in the buffer. -/
  | sent
  | between
  | opened (seq : Nat)
  /-- A turn has found the buffer empty, and registers its wait. -/
  | missed (seq : Nat)
  /-- A turn has registered its wait, and looks at the buffer once more. -/
  | registered (seq : Nat)
  | parked (seq : Nat)
  | inHand (payload : Payload) (seq : Nat)
deriving DecidableEq

namespace SignalPhase

/-- The payload a process holds in memory. -/
def payload? : SignalPhase → Option Payload
  | owes payload | held payload _ | inHand payload _ => some payload
  | _ => none

/-- The wait the payload in a process's memory is meant for. -/
def target : SignalPhase → Option Nat
  | held _ waiter => some waiter.seq
  | inHand _ seq => some seq
  | _ => none

/-- A phase of the run's turns, rather than of a call. -/
def isTurn : SignalPhase → Bool
  | between | opened _ | missed _ | registered _ | parked _ | inHand .. => true
  | _ => false

/-- A turn has its wait registered. -/
def waits : SignalPhase → Option Nat
  | registered seq | parked seq => some seq
  | _ => none

/-- The phase after an operation and its answer. -/
def next : SignalPhase → (op : StoreOp) → op.Answer → SignalPhase
  | owes payload, .takeSignalWaiter _, some waiter => held payload waiter
  | owes _, .bufferSignal .., _ => buffered
  | held .., .saveCheckpoint _, _ => sent
  | buffered, .takeSignalWaiter _, some waiter => late waiter
  | buffered, .takeSignalWaiter _, none => sent
  | late waiter, .takeBufferedSignal _, some payload => held payload waiter
  | late _, .takeBufferedSignal _, none => sent
  | between, .readCheckpoint _ seq _, none => opened seq
  | opened seq, .takeBufferedSignal _, some payload => inHand payload seq
  | opened seq, .takeBufferedSignal _, none => missed seq
  | missed seq, .putSignalWaiter _, _ => registered seq
  | registered seq, .takeBufferedSignal _, some payload => inHand payload seq
  | registered seq, .takeBufferedSignal _, none => parked seq
  | inHand .., .saveCheckpoint _, _ => between
  | parked _, .replayCheckpoints _, _ => between
  | phase, _, _ => phase

end SignalPhase

/-- One token, and the run that waits for it a number of times. -/
structure Waiting where
  token : Token
  host : CtxHost
  count : Nat

namespace Waiting

variable (waiting : Waiting)

/-- The run's waiter at a position. -/
def waiter (seq : Nat) : SignalWaiter := waiting.host.waiter waiting.token seq

/-- The checkpoint the run records for a wait. -/
def recorded (payload : Payload) (seq : Nat) : StepCheckpoint :=
  { runId := waiting.host.runId, seq, name := signalName waiting.token, kind := .signal
    output := payload }

/-- The operations a process may perform in a phase. -/
def allows : SignalPhase → StoreOp → Prop
  | .owes payload, op => op = .takeSignalWaiter waiting.token ∨
      op = .bufferSignal waiting.token payload
  | .held payload waiter, op => op = .saveCheckpoint (waiter.resolved payload)
  | .buffered, op => op = .takeSignalWaiter waiting.token
  | .late _, op => op = .takeBufferedSignal waiting.token
  | .sent, op => ∃ runId, op = .requestWake runId
  | .between, op => op = .replayCheckpoints waiting.host.runId ∨
      (∃ seq, op = .removeSignalWaiter (waiting.waiter seq)) ∨
      ∃ seq snapshot, op = .readCheckpoint waiting.host.runId seq snapshot ∧ seq < waiting.count ∧
        ∀ row, snapshot = some row → row.status = .completed
  | .opened _, op => op = .takeBufferedSignal waiting.token
  | .missed seq, op => op = .putSignalWaiter (waiting.waiter seq)
  | .registered _, op => op = .takeBufferedSignal waiting.token
  | .parked _, op => op = .replayCheckpoints waiting.host.runId
  | .inHand payload seq, op => op = .saveCheckpoint (waiting.recorded payload seq)

/-- The checkpoints a turn reads are completed ones. -/
def expects : (op : StoreOp) → op.Answer → Prop
  | .readCheckpoint .., answer => ∀ row, answer = some row → row.status = .completed
  | .replayCheckpoints _, answer => ∀ seq row, answer seq = some row → row.status = .completed
  | _, _ => True

/-- The monitor of the calls and of the run's turns. -/
def monitor : Monitor StoreOp StoreOp.Answer SignalPhase where
  allows := waiting.allows
  expects _ := expects
  advance := SignalPhase.next

/-- A process that makes one call of `engine.signal`. -/
def caller (payload : Payload) : Process StoreOp StoreOp.Answer SignalPhase Unit where
  phase := .owes payload
  rest := do
    let _ ← signal waiting.token payload
    return ()

/-- The process that runs the turns of the waiting run, one after the other. -/
def runner : Process StoreOp StoreOp.Answer SignalPhase Unit where
  phase := .between
  rest := .done ()
  again := some do
    let _ ← (Body.waits waiting.token waiting.count).execution waiting.host
    return ()

/-- The calls and the turns over the store, one store operation at a time. -/
def system : System Store StoreOp (Process StoreOp StoreOp.Answer SignalPhase Unit) Empty
    StoreOp.Answer :=
  processes waiting.monitor Store.exec (fun _ => none) fun disturbance _ => disturbance.elim

/-- A wait has no checkpoint yet, and nobody holds a payload for it. -/
def Free (store : Store) (every : List SignalPhase) (seq : Nat) : Prop :=
  store.checkpoints.get (waiting.host.runId, seq) = none ∧
    ∀ phase ∈ every, phase.target ≠ some seq

/-- The wait an operation takes a payload in hand for. -/
def claims (store : Store) : SignalPhase → StoreOp → Option Nat
  | .opened seq, .takeBufferedSignal token | .registered seq, .takeBufferedSignal token =>
    if store.buffered token = [] then none else some seq
  | .late waiter, .takeBufferedSignal token =>
    if store.buffered token = [] then none else some waiter.seq
  | .owes _, .takeSignalWaiter token => (store.signalWaiters.get token).map SignalWaiter.seq
  | _, _ => none

/-- The wait whose waiter an operation drops. -/
def drops (store : Store) : SignalPhase → StoreOp → Option Nat
  | .late waiter, .takeBufferedSignal token =>
    if store.buffered token = [] then some waiter.seq else none
  | _, _ => none

/--
A payload is taken in hand only for a free wait, and a waiter is dropped only where none is.

Each is a condition on the store and on the processes before the operation.
-/
def undisturbed : Admission Store StoreOp SignalPhase where
  step store phase others op :=
    (∀ seq ∈ claims store phase op, waiting.Free store (phase :: others) seq) ∧
      ∀ seq ∈ drops store phase op, ¬ waiting.Free store (phase :: others) seq

instance (store : Store) (every : List SignalPhase) (seq : Nat) :
    Decidable (waiting.Free store every seq) :=
  inferInstanceAs (Decidable (_ ∧ _))

instance (store : Store) (phase : SignalPhase) (others : List SignalPhase) (op : StoreOp) :
    Decidable (waiting.undisturbed.step store phase others op) :=
  inferInstanceAs (Decidable (_ ∧ _))

instance (store : Store) (phase : SignalPhase) (others : List SignalPhase) :
    Decidable (waiting.undisturbed.crash store phase others) :=
  inferInstanceAs (Decidable True)

/-- The payloads the waits have been completed with. -/
def delivered (store : Store) : List Payload :=
  (List.range waiting.count).filterMap fun seq =>
    (store.checkpoints.get (waiting.host.runId, seq)).map StepCheckpoint.output

/-- Where the payloads are: in memory, in the buffer, or in the checkpoint of a wait. -/
def whereabouts (store : Store) (every : List SignalPhase) : List Payload :=
  every.filterMap SignalPhase.payload? ++ store.buffered waiting.token ++ waiting.delivered store

/-- Nothing of the token or of the run has happened yet. -/
structure Fresh (store : Store) : Prop where
  unrecorded : ∀ seq, store.checkpoints.get (waiting.host.runId, seq) = none
  unawaited : store.signalWaiters.get waiting.token = none
  unbuffered : store.buffered waiting.token = []

/-- A configuration of the calls and of the waiting run. -/
abbrev Configuration := Config Store (Process StoreOp StoreOp.Answer SignalPhase Unit)

/-- The calls are about to be made, and no turn has begun. -/
def begin (store : Store) (payloads : List Payload) : Configuration :=
  ⟨store, waiting.runner :: payloads.map waiting.caller⟩

/-- No payload is lost or delivered twice, and no wait is stranded. -/
structure Kept (payloads : List Payload) (config : Configuration) : Prop where
  /-- Each payload is in memory, in the buffer, or in the checkpoint of one wait. -/
  accounted : (waiting.whereabouts config.shared (phases config.pool)).Perm payloads
  settled : (∀ process ∈ config.pool, process.rests) →
    (config.shared.buffered waiting.token ++ waiting.delivered config.shared).Perm payloads
  /-- At rest a run suspended at an open wait has its waiter, and nothing is buffered beside it. -/
  reachable : (∀ process ∈ config.pool, process.rests) →
    ∀ seq, .parked seq ∈ phases config.pool →
      config.shared.checkpoints.get (waiting.host.runId, seq) = none →
        config.shared.signalWaiters.get waiting.token = some (waiting.waiter seq) ∧
          config.shared.buffered waiting.token = []

end Waiting

end Durable
