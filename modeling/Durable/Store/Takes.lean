import Durable.Interleaving.Runs

/-! The waiter and the buffered signals of one token: as SQL statements, and in memory. -/

namespace Durable.Takes

open Interleaving (CallRecord Placed Explains)

/-- The waiter of a token. -/
structure Waiter where
  runId : String
  seq : Nat
  parallelGroup : Option String := none
deriving Repr, DecidableEq

/-- A call of the store on the token. -/
inductive SignalCall where
  | putSignalWaiter (waiter : Waiter)
  /-- The waiters of the entries that are registered under the token. -/
  | registerChildWaits (waiters : List Waiter)
  | removeSignalWaiter (waiter : Waiter)
  | takeSignalWaiter
  | bufferSignal (payload : String)
  | takeBufferedSignal
deriving Repr, DecidableEq

/-- What a call answers. -/
inductive SignalAnswer where
  | done
  | waiter (found : Option Waiter)
  | signal (payload : Option String)
deriving Repr, DecidableEq

/-- What the in-memory store keeps under the token. -/
structure MemoryToken where
  signalWaiter : Option Waiter := none
  bufferedSignals : List String := []
deriving Repr, DecidableEq

/-- Whether a row is the one its caller registered. -/
def Waiter.matches (row waiter : Waiter) : Bool := row.runId = waiter.runId ∧ row.seq = waiter.seq

/-- The operations of the in-memory store. -/
def MemoryToken.exec (memory : MemoryToken) : SignalCall → MemoryToken × SignalAnswer
  | .putSignalWaiter waiter => ({ memory with signalWaiter := some waiter }, .done)
  | .registerChildWaits waiters =>
    ({ memory with
        signalWaiter := waiters.foldl (fun _ waiter => some waiter) memory.signalWaiter },
      .done)
  | .removeSignalWaiter waiter =>
    ({ memory with signalWaiter := memory.signalWaiter.filter fun row => !row.matches waiter },
      .done)
  | .takeSignalWaiter => ({ memory with signalWaiter := none }, .waiter memory.signalWaiter)
  | .bufferSignal payload =>
    ({ memory with bufferedSignals := memory.bufferedSignals ++ [payload] }, .done)
  | .takeBufferedSignal =>
    ({ memory with bufferedSignals := memory.bufferedSignals.tail },
      .signal memory.bufferedSignals.head?)

/-- The rows of the token in the database. -/
structure Tables where
  waiter : Option Waiter := none
  signals : List (Nat × String) := []
  nextId : Nat := 1
deriving Repr, DecidableEq

/-- What the in-memory store would keep for these rows. -/
def Tables.memory (tables : Tables) : MemoryToken :=
  { signalWaiter := tables.waiter, bufferedSignals := tables.signals.map (·.2) }

/-- How far a call has come. -/
inductive Phase where
  | made
  /-- It has read this waiter, and is to delete the row of the token. -/
  | readWaiter (row : Waiter)
  /-- It has read this signal, and is to delete the row with its id. -/
  | readSignal (id : Nat) (payload : String)
  | answered (answer : SignalAnswer)
  | returned (answer : SignalAnswer)
deriving Repr, DecidableEq

/-- A call that is under way, or has returned. -/
structure LiveCall where
  call : SignalCall
  phase : Phase := .made
  after : List Nat := []
  /-- It has read a signal, and since then there was a moment without buffered signals. -/
  emptied : Bool := false
deriving Repr, DecidableEq

/-- The rows, the calls there have been, and a sequential order of those that are decided. -/
structure State where
  tables : Tables := {}
  calls : List LiveCall := []
  order : List (Placed SignalCall SignalAnswer) := []

/-- Whether a call has returned. -/
def LiveCall.hasReturned (live : LiveCall) : Bool :=
  match live.phase with
  | .returned _ => true
  | _ => false

/-- Whether a call is to delete a signal it has read, and there was one at every moment since. -/
def LiveCall.waits (live : LiveCall) : Bool :=
  match live.phase with
  | .readSignal _ _ => !live.emptied
  | _ => false

/-- A call, noted that there is no signal now. -/
def LiveCall.noted (live : LiveCall) : LiveCall :=
  if live.waits then { live with emptied := true } else live

section Steps

variable (state : State)

/-- A call is made. -/
def invoke (call : SignalCall) : State :=
  let returned := (state.calls.zipIdx.filter fun entry => entry.1.hasReturned).map (·.2)
  { state with calls := state.calls ++ [{ call := call, after := returned }] }

/-- A call's last statement is executed, and that decides its answer. -/
def decided (index : Nat) (live : LiveCall) (tables : Tables) (answer : SignalAnswer) : State :=
  { tables := tables
    calls := state.calls.set index { live with phase := .answered answer }
    order := state.order ++ [⟨index, live.call, answer⟩] }

/-- The calls that wait to delete a signal, each with the answer that there was none. -/
def doomed : List (Placed SignalCall SignalAnswer) :=
  (state.calls.zipIdx.filter fun entry => entry.1.waits).map fun entry =>
    ⟨entry.2, entry.1.call, .signal none⟩

/-- Without buffered signals, a call whose signal was taken by another is bound to find nothing. -/
def noteEmptied : State :=
  { state with calls := state.calls.map (·.noted), order := state.order ++ doomed state }

/-- A call's first statement is executed. -/
def firstStatement (index : Nat) (live : LiveCall) : State :=
  let tables := state.tables
  match live.call with
  | .putSignalWaiter waiter =>
    decided state index live { tables with waiter := some waiter } .done
  | .registerChildWaits waiters =>
    -- One transaction: the token's row is that of the last entry under it.
    decided state index live
      { tables with waiter := waiters.foldl (fun _ waiter => some waiter) tables.waiter } .done
  | .removeSignalWaiter waiter =>
    decided state index live
      { tables with waiter := tables.waiter.filter fun row => !row.matches waiter } .done
  | .takeSignalWaiter =>
    match tables.waiter with
    | none => decided state index live tables (.waiter none)
    | some row =>
      { state with calls := state.calls.set index { live with phase := .readWaiter row } }
  | .bufferSignal payload =>
    decided state index live
      { tables with
        signals := tables.signals ++ [(tables.nextId, payload)], nextId := tables.nextId + 1 }
      .done
  | .takeBufferedSignal =>
    match tables.signals with
    | [] => decided state index live tables (.signal none)
    | (id, payload) :: _ =>
      { state with
        calls := state.calls.set index
          { live with phase := .readSignal id payload, emptied := false } }

/-- `takeSignalWaiter` deletes the row of its token: the waiter it read is its own if it deleted
one. -/
def deleteWaiter (index : Nat) (live : LiveCall) (row : Waiter) : State :=
  match state.tables.waiter with
  | none => decided state index live state.tables (.waiter none)
  | some _ => decided state index live { state.tables with waiter := none } (.waiter (some row))

/-- `takeBufferedSignal` deletes the row it read by its id: the signal is its own if it did. -/
def deleteSignal (index : Nat) (live : LiveCall) (id : Nat) (payload : String) : State :=
  if state.tables.signals.any (·.1 = id) then
    let rest := state.tables.signals.filter (·.1 ≠ id)
    let taken := decided state index live { state.tables with signals := rest }
      (.signal (some payload))
    if rest.isEmpty then noteEmptied taken else taken
  else if live.emptied then
    -- Its place in the order is where there was no signal.
    { state with calls := state.calls.set index { live with phase := .answered (.signal none) } }
  else decided state index live state.tables (.signal none)

end Steps

/-- One step: a call is made, its next statement is executed, or it returns. -/
inductive Move where
  | invoke (call : SignalCall)
  | advance (index : Nat)
  | finish (index : Nat)
deriving Repr, DecidableEq

/-- What a step leads to, where it can be taken. -/
def step (state : State) : Move → Option State
  | .invoke call => some (invoke state call)
  | .advance index =>
    match state.calls[index]? with
    | none => none
    | some live =>
      match live.phase with
      | .made => some (firstStatement state index live)
      | .readWaiter row => some (deleteWaiter state index live row)
      | .readSignal id payload => some (deleteSignal state index live id payload)
      | .answered _ => none
      | .returned _ => none
  | .finish index =>
    match state.calls[index]? with
    | none => none
    | some live =>
      match live.phase with
      | .answered answer =>
        some { state with calls := state.calls.set index { live with phase := .returned answer } }
      | _ => none

/-- A state is reached by steps that are allowed where they are taken. -/
inductive Reaches (allowed : State → Move → Prop) : State → Prop where
  | start : Reaches allowed {}
  | step {state next : State} {move : Move} (before : Reaches allowed state)
      (permitted : allowed state move) (moved : Takes.step state move = some next) :
      Reaches allowed next

/-- What is seen of a call from outside. -/
def LiveCall.record (live : LiveCall) : CallRecord SignalCall SignalAnswer :=
  { op := live.call
    after := live.after
    returned :=
      match live.phase with
      | .returned answer => some answer
      | _ => none }

/-- Some sequential order of the calls, in which the in-memory store answers as they did and ends
with the same rows, keeps to their order in time. -/
def Linearizable (state : State) : Prop :=
  ∃ order, Explains MemoryToken.exec {} state.tables.memory (state.calls.map (·.record)) order

end Durable.Takes
