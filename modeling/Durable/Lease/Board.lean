import Durable.Engine.Settle
import Durable.Interleaving.Histories

/-! The lease of a run: its store operations, what an instance remembers of it, and its history. -/

namespace Durable

open Interleaving (Program Table since)

/-- What the owner of a lease that a lifecycle publish holds is marked with. -/
def lifecycleLeaseMark : String := "#lifecycle#"

/-- Who calls an operation: an instance, in a turn, in a lifecycle publish or in neither. -/
structure LeaseActor where
  instanceId : String
  publish : Option String := none
  turn : Option Nat := none
deriving Repr, DecidableEq

/-- The owner a lease of the caller is held under. -/
def LeaseActor.owner (actor : LeaseActor) : String :=
  match actor.publish with
  | none => actor.instanceId
  | some call => actor.instanceId ++ lifecycleLeaseMark ++ call

/-- What an instance remembers of a run while a turn of it is in flight. -/
structure TurnMemory where
  /-- The run is in `leaseLostRuns`: a renewal found its lease gone. -/
  leaseLost : Bool := false
  renewing : Bool := false
  handedOff : Bool := false
  claimsInFlight : Nat := 0
  claimsMade : Nat := 0
deriving Repr, DecidableEq, Inhabited

/-- What an instance notes of a run. -/
inductive TurnNote where
  | began
  | ended
  | handedOff
  | leaseLost
  | claimed
  | unclaimed
deriving Repr, DecidableEq

/-- What is remembered after a note. -/
def TurnMemory.noted (memory : TurnMemory) : TurnNote → TurnMemory
  | .began => { memory with renewing := true, handedOff := false }
  | .ended => { memory with renewing := false, leaseLost := false }
  | .handedOff => { memory with handedOff := true }
  | .leaseLost => { memory with leaseLost := true }
  | .claimed =>
    { memory with
      claimsInFlight := memory.claimsInFlight + 1, claimsMade := memory.claimsMade + 1 }
  | .unclaimed => { memory with claimsInFlight := memory.claimsInFlight - 1 }

/-- One operation of the store on leases, of the rest of the store, or of an instance's memory. -/
inductive LeaseCall where
  | store (op : StoreOp)
  | readHolder (runId : String)
  | tryLockRun (runId : String) (leaseUntilMs nowMs : Nat)
  | renewRunLock (runId : String) (leaseUntilMs : Nat)
  | releaseRunLock (runId : String) (owner : Option String)
  | releaseRunLockUnlessWakeRequested (runId : String)
  | leaseLostRuns (runId : String)
  | memory (runId : String)
  | note (runId : String) (note : TurnNote)

/-- An operation, and who calls it. -/
structure LeaseOp where
  actor : LeaseActor
  call : LeaseCall

/-- What an operation answers. -/
def LeaseCall.Answer : LeaseCall → Type
  | store op => op.Answer
  | readHolder _ => Option WorkflowRun
  | tryLockRun .. => Bool
  | renewRunLock .. => Bool
  | releaseRunLock .. => Unit
  | releaseRunLockUnlessWakeRequested _ => Bool
  | leaseLostRuns _ => Bool
  | memory _ => TurnMemory
  | note .. => Unit

/-- What an operation answers, whoever calls it. -/
abbrev LeaseOp.Answer (op : LeaseOp) : Type := op.call.Answer

/-- What has happened to a run's lease, and to its row. -/
inductive LeaseEvent where
  | took (actor : LeaseActor)
  | proved (actor : LeaseActor)
  /-- The lease of an owner came to its end; it had expired, or had not. -/
  | ended (owner : String) (actor : LeaseActor) (expired : Bool)
  | passed (actor : LeaseActor)
  | wrote (actor : LeaseActor)
deriving Repr, DecidableEq

namespace LeaseEvent

/-- Who an event is of. -/
def actor : LeaseEvent → LeaseActor
  | took actor => actor
  | proved actor => actor
  | ended _ actor _ => actor
  | passed actor => actor
  | wrote actor => actor

/-- A turn writes. -/
def isWrote : LeaseEvent → Bool
  | wrote _ => true
  | _ => false

/-- A turn finds its lease not lost. -/
def isPassed : LeaseEvent → Bool
  | passed _ => true
  | _ => false

/-- A turn comes to hold the lease. -/
def enters (turn : LeaseActor) : LeaseEvent → Bool
  | took actor => decide (actor = turn)
  | proved actor => decide (actor = turn)
  | _ => false

/-- Another instance than a turn's takes the lease. -/
def takes (turn : LeaseActor) : LeaseEvent → Bool
  | took actor => decide (actor.instanceId ≠ turn.instanceId)
  | _ => false

/-- A turn finds its own lease not lost. -/
def passes (turn : LeaseActor) : LeaseEvent → Bool
  | passed actor => decide (actor = turn)
  | _ => false

end LeaseEvent

/-- Another instance has taken the lease since a turn came to hold it. -/
def leaseTaken (turn : LeaseActor) (log : List LeaseEvent) : Bool :=
  since (LeaseEvent.enters turn) (LeaseEvent.takes turn) log

/-- Another instance has taken the lease since a turn last looked whether it was lost. -/
def takenSincePassed (turn : LeaseActor) (log : List LeaseEvent) : Bool :=
  since (fun event => LeaseEvent.enters turn event || LeaseEvent.passes turn event)
    (LeaseEvent.takes turn) log

/-- The lease of a run is free at a time. -/
def WorkflowRun.leaseFree (run : WorkflowRun) (nowMs : Nat) : Bool :=
  run.lockedUntil.all (· ≤ nowMs)

namespace Store

variable (store : Store)

/-- `tryLockRun`: take the lease of a run that is free. -/
def tryLockRun (runId owner : String) (leaseUntilMs nowMs : Nat) : Store × Bool :=
  match store.runs.get runId with
  | none => (store, false)
  | some run =>
    if run.leaseFree nowMs then
      let taken := { run with lockedBy := some owner, lockedUntil := some leaseUntilMs }
      ({ store with runs := store.runs.set runId taken }, true)
    else (store, false)

/-- `renewRunLock`: extend a lease that its owner still holds. -/
def renewRunLock (runId owner : String) (leaseUntilMs : Nat) : Store × Bool :=
  match store.runs.get runId with
  | none => (store, false)
  | some run =>
    if run.lockedBy = some owner then
      let renewed := { run with lockedUntil := some leaseUntilMs }
      ({ store with runs := store.runs.set runId renewed }, true)
    else (store, false)

/-- `releaseRunLock`: clear a lease, whoever holds it unless an owner is named. -/
def releaseRunLock (runId : String) (owner : Option String) : Store :=
  match store.runs.get runId with
  | none => store
  | some run =>
    if owner.all fun owner => run.lockedBy == some owner then
      let released := { run with lockedBy := none, lockedUntil := none }
      { store with runs := store.runs.set runId released }
    else store

/-- `releaseRunLockUnlessWakeRequested`: clear a lease unless another turn was asked for. -/
def releaseRunLockUnlessWakeRequested (runId owner : String) : Store × Bool :=
  match store.runs.get runId with
  | none => (store, true)
  | some run =>
    if run.lockedBy = some owner then
      if run.wakeRequestedAt.isSome then (store, false)
      else (store.releaseRunLock runId (some owner), true)
    else (store, true)

/-- Who holds the lease of a run. -/
def leaseHolder (runId : String) : Option String := (store.runs.get runId).bind (·.lockedBy)

/-- The lease of a run has expired at a time, or there is none. -/
def leaseExpired (runId : String) (nowMs : Nat) : Bool :=
  (store.runs.get runId).all (·.leaseFree nowMs)

end Store

/-- A patch writes the status, the output or the timer. -/
def RunPatch.settles (patch : RunPatch) : Bool :=
  patch.status.isSome || patch.output.isSome || patch.wakeAt.isSome

/-- A store operation writes the status, the output or the timer of a run, as it answers. -/
def StoreOp.wroteRun (runId : String) : (op : StoreOp) → op.Answer → Bool
  | .updateRun written patch, applied => written == runId && patch.settles && applied
  | .updateRunIf written _ patch, applied => written == runId && patch.settles && applied
  | _, _ => false

/-- The store, what the instances remember, and what has happened to one run. -/
structure LeaseBoard where
  runId : String
  store : Store
  memory : Table (String × String) TurnMemory := .empty
  log : List LeaseEvent := []

namespace LeaseBoard

variable (board : LeaseBoard)

/-- What an instance remembers of a run. -/
def remembered (instanceId runId : String) : TurnMemory :=
  (board.memory.get (instanceId, runId)).getD {}

/-- What an operation does, and what it answers, its history apart. -/
def perform (actor : LeaseActor) : (call : LeaseCall) → LeaseBoard × call.Answer
  | .store op =>
    let done := board.store.exec op
    ({ board with store := done.1 }, done.2)
  | .readHolder runId => (board, board.store.runs.get runId)
  | .tryLockRun runId leaseUntilMs nowMs =>
    let done := board.store.tryLockRun runId actor.owner leaseUntilMs nowMs
    ({ board with store := done.1 }, done.2)
  | .renewRunLock runId leaseUntilMs =>
    let done := board.store.renewRunLock runId actor.owner leaseUntilMs
    ({ board with store := done.1 }, done.2)
  | .releaseRunLock runId owner =>
    ({ board with store := board.store.releaseRunLock runId owner }, ())
  | .releaseRunLockUnlessWakeRequested runId =>
    let done := board.store.releaseRunLockUnlessWakeRequested runId actor.owner
    ({ board with store := done.1 }, done.2)
  | .leaseLostRuns runId => (board, (board.remembered actor.instanceId runId).leaseLost)
  | .memory runId => (board, board.remembered actor.instanceId runId)
  | .note runId note =>
    let noted := (board.remembered actor.instanceId runId).noted note
    ({ board with memory := board.memory.set (actor.instanceId, runId) noted }, ())

/-- The time an operation goes by: the one it was told, or the clock. -/
def time : LeaseCall → Nat
  | .tryLockRun _ _ nowMs => nowMs
  | _ => board.store.clock

/-- The lease an operation has ended. -/
def endings (op : LeaseOp) (after : Store) : List LeaseEvent :=
  match board.store.leaseHolder board.runId with
  | none => []
  | some owner =>
    if after.leaseHolder board.runId = some owner then []
    else [.ended owner op.actor (board.store.leaseExpired board.runId (board.time op.call))]

/-- What an operation is besides, as it answers. -/
def notice (actor : LeaseActor) : (call : LeaseCall) → call.Answer → List LeaseEvent
  | .store op, answer =>
    if actor.turn.isSome && op.wroteRun board.runId answer then [.wrote actor] else []
  | .readHolder runId, found =>
    -- A run read for its holder is taken on by the holder's own turn only.
    if runId == board.runId && found.any (·.lockedBy == some actor.owner) then [.proved actor]
    else []
  | .tryLockRun runId _ _, acquired =>
    if runId == board.runId && acquired then [.took actor] else []
  | .renewRunLock runId _, renewed =>
    if actor.turn.isSome && runId == board.runId && renewed then [.proved actor] else []
  | .leaseLostRuns runId, lost =>
    if runId == board.runId && !lost then [.passed actor] else []
  | _, _ => []

/-- What an operation does, and what it answers. -/
def exec (op : LeaseOp) : LeaseBoard × op.Answer :=
  let done := board.perform op.actor op.call
  let noticed := board.notice op.actor op.call done.2 ++ board.endings op done.1.store
  ({ done.1 with log := noticed ++ board.log }, done.2)

/-- The clock moves on. -/
def drift (elapsed : Nat) : LeaseBoard :=
  { board with store := { board.store with clock := board.store.clock + elapsed } }

end LeaseBoard

end Durable
