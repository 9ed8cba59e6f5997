import Durable.Lease.Board

/-! The paths of an engine that take, renew, prove or release the lease of a run. -/

namespace Durable

open Interleaving (Program)

/-- A program over the store, the leases and the instances' memory. -/
abbrev LeaseProgram (α : Type) := Program LeaseOp LeaseOp.Answer α

/-- A store operation leaves the lease of every run as it is. -/
def LeavesLease : StoreOp → Prop
  | .updateRun _ patch => patch.lockedBy = none
  | .updateRunIf _ _ patch => patch.lockedBy = none
  | _ => True

/-- A piece of work on the store: whatever it does, it leaves the leases as they are. -/
structure Piece (α : Type) where
  work : Engine α
  leaves : work.Uses LeavesLease

/-- No work, with a result. -/
def Piece.nothing {α : Type} (result : α) : Piece α := ⟨.done result, trivial⟩

/-- An engine, as its turns know it. -/
structure EngineInstance where
  instanceId : String
  leaseMs : Nat
  bootedAt : Nat
  settings : TurnSettings

namespace LeaseProgram

variable {α : Type} (actor : LeaseActor)

/-- Call an operation. -/
def perform (operation : LeaseCall) : LeaseProgram operation.Answer :=
  Program.call ⟨actor, operation⟩ Program.done

/-- Work on the store. -/
def asked : Engine α → LeaseProgram α
  | .done result => Program.done result
  | .call op next => Program.call ⟨actor, .store op⟩ fun answer => asked (next answer)

/-- Read the clock. -/
def clock : LeaseProgram Nat := perform actor (.store .clock)

/-- Read a run. -/
def getRun (runId : String) : LeaseProgram (Option WorkflowRun) :=
  perform actor (.store (.getRun runId))

/-- Read a run, and who holds its lease. -/
def readHolder (runId : String) : LeaseProgram (Option WorkflowRun) :=
  perform actor (.readHolder runId)

/-- Take a lease that is free. -/
def tryLockRun (runId : String) (leaseUntilMs nowMs : Nat) : LeaseProgram Bool :=
  perform actor (.tryLockRun runId leaseUntilMs nowMs)

/-- Extend a lease the caller still holds. -/
def renewRunLock (runId : String) (leaseUntilMs : Nat) : LeaseProgram Bool :=
  perform actor (.renewRunLock runId leaseUntilMs)

/-- Release a lease, if the caller holds it. -/
def releaseOwnLock (runId : String) : LeaseProgram Unit :=
  perform actor (.releaseRunLock runId (some actor.owner))

/-- Release a lease, whoever holds it. -/
def releaseAnyLock (runId : String) : LeaseProgram Unit :=
  perform actor (.releaseRunLock runId none)

/-- Release a lease the caller holds, unless another turn was asked for. -/
def releaseRunLockUnlessWakeRequested (runId : String) : LeaseProgram Bool :=
  perform actor (.releaseRunLockUnlessWakeRequested runId)

/-- Whether a turn's lease is known to be lost. -/
def leaseLostRuns (runId : String) : LeaseProgram Bool := perform actor (.leaseLostRuns runId)

/-- What the instance remembers of a run. -/
def memory (runId : String) : LeaseProgram TurnMemory := perform actor (.memory runId)

/-- Note something of a run. -/
def note (runId : String) (noted : TurnNote) : LeaseProgram Unit :=
  perform actor (.note runId noted)

/-- Write unless the turn's lease is known to be lost. -/
def fenced (runId : String) (write : LeaseProgram RunResult) : LeaseProgram RunResult := do
  if ← leaseLostRuns actor runId then asked actor (echoCurrentStatus runId)
  else write

section Settle

variable (settings : TurnSettings) (routeFailure : StepError → Piece (Option RunOutcome))
  (run : WorkflowRun)

/-- Settle a failed turn: what its `onError` route answers is settled in its place. -/
def settleFailure (error : StepError) : LeaseProgram RunResult := do
  match ← asked actor (routeFailure error).work with
  | some (.completed output) =>
    fenced actor run.id (asked actor (settleCompleted settings run output))
  | some (.suspended wakeAt) =>
    fenced actor run.id (asked actor (settleSuspended settings run wakeAt))
  | some (.failed handed) => asked actor (settleFailed settings run handed)
  | none => asked actor (settleFailed settings run error)

/-- Apply a turn's outcome once, unless its lease is known to be lost. -/
def settleRun (outcome : RunOutcome) : LeaseProgram RunResult :=
  fenced actor run.id <|
    match outcome with
    | .completed output => asked actor (settleCompleted settings run output)
    | .suspended wakeAt => asked actor (settleSuspended settings run wakeAt)
    | .failed error => settleFailure actor settings routeFailure run error

/-- Undo the saga and settle the run as cancelled. -/
def compensateAndCancel (compensations : Piece Unit) : LeaseProgram RunResult :=
  fenced actor run.id do
    asked actor compensations.work
    let _ ← asked actor (writeCancelled settings.marker run)
    return { runId := run.id, status := .cancelled, error := some cancelledError }

/-- Park a run no live worker can run, and release its lease. -/
def parkBlocked (reason : String) : LeaseProgram RunResult := do
  let now ← clock actor
  let error : StepError := { message := reason, retryable := some true }
  let applied ← asked actor (Engine.updateRunIf run.id settleEligibleStatuses
    { status := some .blocked, error := some (some error)
      wakeAt := some (some (now + settings.blockedPollMs)) })
  -- The release names no owner.
  releaseAnyLock actor run.id
  if applied then return { runId := run.id, status := .blocked, error := some error }
  else asked actor (echoCurrentStatus run.id)

/-- Give the lease away in the midst of a turn. -/
def releaseTurnLease (runId : String) : LeaseProgram Unit := do
  note actor runId .handedOff
  releaseOwnLock actor runId

end Settle

end LeaseProgram

/-- What an in-process turn does besides settling its run. -/
structure LocalPieces where
  tags : Option (List String) := none
  admission : Option (Piece Bool) := none
  handoff : Piece (Option RunOutcome) := .nothing none
  body : Piece BodyEnd
  compensations : Piece Unit := .nothing ()
  routeFailure : StepError → Piece (Option RunOutcome) := fun _ => .nothing none
  startContinuation : Piece Unit := .nothing ()
  /-- Spend the wakes the turn has answered; another one may be owed. -/
  spendReasons : Piece Bool := .nothing false

/-- How the turn of a remote workflow reaches its worker. -/
inductive RemoteTransport where
  | dispatch (taskId : String) (windowMs : Option Nat) (send : Piece (Option StepError))
  | advance (await : Piece AdvanceEnd)

/-- What the turn of a remote workflow does besides settling its run. -/
structure RemotePieces where
  tags : Option (List String) := none
  admission : Option (Piece Bool) := none
  blocked : Piece (Option String) := .nothing none
  handoff : Piece (Option RunOutcome) := .nothing none
  turnInput : Piece (Option StepError) := .nothing none
  transport : RemoteTransport
  applyCommands : Piece (Option Nat) := .nothing none
  routeFailure : StepError → Piece (Option RunOutcome) := fun _ => .nothing none

/-- What a turn runs. -/
inductive TurnWorkload where
  | inProcess (pieces : LocalPieces)
  | remote (pieces : RemotePieces)

namespace LeaseProgram

variable (engine : EngineInstance) (actor : LeaseActor)

/-- How often a suspended turn tries to let go of its lease. -/
def letGoRounds : Nat := 5

/-- Let go of the lease of a suspended run, unless another turn was asked for. -/
def letGoOfSuspendedTurn (spendReasons : Piece Bool) (runId : String) :
    Nat → LeaseProgram Unit
  | 0 => return ()
  | rounds + 1 => do
    if ← releaseRunLockUnlessWakeRequested actor runId then return ()
    else if ← asked actor spendReasons.work then
      letGoOfSuspendedTurn spendReasons runId rounds
    else return ()

/-- The lease of a run that was denied a slot is released. -/
def singletonWaitResult (runId : String) : LeaseProgram Unit := do
  let _ ← getRun actor runId
  releaseOwnLock actor runId

/-- Whether a turn is admitted to a slot, or needs none. -/
def admitted (admission : Option (Piece Bool)) : LeaseProgram Bool :=
  match admission with
  | none => return true
  | some piece => asked actor piece.work

section InProcess

variable (pieces : LocalPieces) (run : WorkflowRun)

/-- Unwind the run if its cancellation has been requested, else settle it. -/
def settleUnlessCancelled (settle : LeaseProgram RunResult) : LeaseProgram RunResult := do
  if ← asked actor (takeCancelIntent engine.settings run.id) then
    compensateAndCancel actor engine.settings run pieces.compensations
  else settle

/-- Complete a run whose continuation has been persisted. -/
def completeContinued : LeaseProgram RunResult := do
  asked actor pieces.startContinuation.work
  let _ ← asked actor (Engine.updateRun run.id
    { status := some .completed, output := some none, error := some none })
  return { runId := run.id, status := .completed }

/-- Settle a turn by the way its body ended, and say whether it parked the run. -/
def endTurn (ending : BodyEnd) : LeaseProgram Bool := do
  let settle := settleRun actor engine.settings pieces.routeFailure run
  match ending with
  | .returned output =>
    let _ ← settleUnlessCancelled engine actor pieces run (settle (.completed output))
    return false
  | .continuedAsNew =>
    let _ ← fenced actor run.id
      (settleUnlessCancelled engine actor pieces run (completeContinued actor pieces run))
    return false
  | .blocked reason =>
    let _ ← parkBlocked actor engine.settings run reason
    return false
  | .suspended wakeAt =>
    let settled ← settleUnlessCancelled engine actor pieces run (settle (.suspended wakeAt))
    return settled.status == .suspended
  | .threw error =>
    let _ ← settleUnlessCancelled engine actor pieces run do
      asked actor pieces.compensations.work
      settle (.failed error)
    return false

/-- Follow the handler a failure was handed to, or run the body; say whether the run is parked. -/
def runBody : LeaseProgram Bool := do
  match ← asked actor pieces.handoff.work with
  | some outcome =>
    let _ ← settleRun actor engine.settings pieces.routeFailure run outcome
    return false
  | none =>
    let ending ← asked actor pieces.body.work
    endTurn engine actor pieces run ending

/-- One in-process turn; whatever it has come to, it lets go of the lease. -/
def runExecution : LeaseProgram Unit := do
  asked actor (markStarted run pieces.tags)
  if ← admitted actor pieces.admission then
    if ← runBody engine actor pieces run then
      letGoOfSuspendedTurn actor pieces.spendReasons run.id letGoRounds
    else releaseOwnLock actor run.id
  else singletonWaitResult actor run.id

end InProcess

section Remote

variable (pieces : RemotePieces) (run : WorkflowRun)

/-- Apply a remote turn's decision; its commands are persisted first. -/
def applyDecision (decision : RemoteDecision) : LeaseProgram Unit := do
  let wakeAt ← asked actor pieces.applyCommands.work
  let settle := settleRun actor engine.settings pieces.routeFailure run
  match decision with
  | .completed output =>
    let _ ← settle (.completed output)
    return ()
  | .failed error =>
    let _ ← settle (.failed (error.getD { message := "workflow failed" }))
    return ()
  | .cancelled =>
    let _ ← asked actor (Engine.updateRun run.id { status := some .cancelled })
    return ()
  | .continue =>
    let _ ← settle (.suspended wakeAt)
    return ()

/-- Suspend a run on a dispatched turn, release its lease, and fail it if nothing was sent. -/
def dispatchRemoteTurn (taskId : String) (windowMs : Option Nat)
    (send : Piece (Option StepError)) : LeaseProgram RunResult :=
  fenced actor run.id do
    let now ← clock actor
    let marked ← asked actor (Engine.updateRunIf run.id settleEligibleStatuses
      { status := some .suspended, awaitingDecisionTaskId := some (some taskId)
        wakeAt := some (windowMs.map (now + ·)) })
    releaseTurnLease actor run.id
    if marked then
      match ← asked actor send.work with
      | none => return { runId := run.id, status := .suspended }
      | some error => asked actor (failUndispatchedTurn engine.settings run taskId error)
    else asked actor (echoCurrentStatus run.id)

/-- Await an inline turn: its decision is applied, and its error fails the run. -/
def advanceRemoteTurn (await : Piece AdvanceEnd) : LeaseProgram Unit := do
  match ← asked actor await.work with
  | .decided decision => applyDecision engine actor pieces run decision
  | .timedOut =>
    let _ ← asked actor
      (Engine.updateRunIf run.id [.running, .suspended] { status := some .running })
    releaseTurnLease actor run.id
  | .threw error =>
    let _ ← asked actor (Engine.updateRun run.id (withLifecycleMarker engine.settings.marker run
      { status := some .failed, error := some (some error) }))
    return ()

/-- A dispatched turn of the run is still out, within its window. -/
def turnOut (now : Nat) : Bool :=
  run.status == .suspended && run.awaitingDecisionTaskId.isSome && run.wakeAt.all (now < ·)

/-- Run the turn of a remote workflow that is not blocked. -/
def runRemoteTurn : LeaseProgram Unit := do
  match ← asked actor pieces.handoff.work with
  | some outcome =>
    let _ ← settleRun actor engine.settings pieces.routeFailure run outcome
    return ()
  | none =>
    match ← asked actor pieces.turnInput.work with
    | some error =>
      let _ ← settleRun actor engine.settings pieces.routeFailure run (.failed error)
      return ()
    | none =>
      match pieces.transport with
      | .dispatch taskId windowMs send =>
        let _ ← dispatchRemoteTurn engine actor run taskId windowMs send
        return ()
      | .advance await => advanceRemoteTurn engine actor pieces run await

/-- One turn of a remote workflow. -/
def runRemoteExecution : LeaseProgram Unit := do
  if ← asked actor (takeCancelIntent engine.settings run.id) then
    let _ ← compensateAndCancel actor engine.settings run (.nothing ())
    return ()
  else
    let now ← clock actor
    if turnOut run now then releaseTurnLease actor run.id
    else
      asked actor (markStarted run pieces.tags)
      if ← admitted actor pieces.admission then
        match ← asked actor pieces.blocked.work with
        | some reason =>
          let _ ← parkBlocked actor engine.settings run reason
          return ()
        | none => runRemoteTurn engine actor pieces run
      else singletonWaitResult actor run.id

end Remote

section Lease

variable (runId : String)

/-- Whether the instance holds the run's lease for a turn, asked of the store by owner. -/
def proveOwnLease (nowMs : Nat) : LeaseProgram Bool := do
  let before ← memory actor runId
  if before.claimsInFlight ≠ 0 then return false
  else
    let renewed ← renewRunLock actor runId (nowMs + engine.leaseMs)
    let after ← memory actor runId
    -- A claim begun meanwhile, even one that is over, leaves the renewal unproved.
    return renewed && after.claimsInFlight == 0 && after.claimsMade == before.claimsMade

/-- The lease of a run is held by a lifecycle publish. -/
def heldByPublish (held : Option WorkflowRun) : Bool :=
  (held.bind (·.lockedBy)).any fun owner =>
    (owner.splitOn lifecycleLeaseMark).length != 1

/-- Take the lease for a turn, waiting while a lifecycle publish holds it. -/
def lockRunPastLifecyclePublish (nowMs : Nat) : Nat → LeaseProgram Bool
  | 0 => tryLockRun actor runId (nowMs + engine.leaseMs) nowMs
  | attempts + 1 => do
    if ← tryLockRun actor runId (nowMs + engine.leaseMs) nowMs then return true
    else if heldByPublish (← getRun actor runId) then
      let later ← clock actor
      lockRunPastLifecyclePublish later attempts
    else return false

/-- The lease is renewed while the turn holds it, and a renewal refused is noted. -/
def renewTick : LeaseProgram Unit := do
  let before ← memory actor runId
  if before.renewing && !before.handedOff then
    let now ← clock actor
    if ← renewRunLock actor runId (now + engine.leaseMs) then return ()
    else
      let later ← memory actor runId
      if later.handedOff then return () else note actor runId .leaseLost
  else return ()

end Lease

/-- Run what a turn is for. -/
def runWorkload (workload : TurnWorkload) (run : WorkflowRun) : LeaseProgram Unit :=
  match workload with
  | .inProcess pieces => runExecution engine actor pieces run
  | .remote pieces => runRemoteExecution engine actor pieces run

/-- Whether a turn holds the lease already: it is proved, never read off the snapshot. -/
def reentered (lockedForTurn : Bool) (run : WorkflowRun) (lockNow : Nat) : LeaseProgram Bool :=
  if run.lockedBy = some actor.owner ∧ run.leaseFree lockNow = false then
    if lockedForTurn then return true else proveOwnLease engine actor run.id lockNow
  else return false

/-- The turn answers the wakes that were asked for before it. -/
def serveWakes (run : WorkflowRun) : LeaseProgram Unit := do
  if run.wakeRequestedAt.isSome then
    let _ ← asked actor (Engine.updateRun run.id { wakeRequestedAt := some none })
    return ()
  else return ()

/-- Take the lease for a turn, unless it is held for the turn already. -/
def leaseForTurn (attempts : Nat) (lockedForTurn : Bool) (run : WorkflowRun) :
    LeaseProgram Bool := do
  let lockNow ← clock actor
  if ← reentered engine actor lockedForTurn run lockNow then return true
  else lockRunPastLifecyclePublish engine actor run.id lockNow attempts

/-- Execute a run under its lease. -/
def execute (workload : TurnWorkload) (attempts : Nat) (lockedForTurn : Bool)
    (run : WorkflowRun) : LeaseProgram Unit := do
  if ← leaseForTurn engine actor attempts lockedForTurn run then
    serveWakes actor run
    note actor run.id .began
    runWorkload engine actor workload run
    note actor run.id .ended
  else return ()

/-- Read a run and execute it, unless it has ended or belongs to another namespace. -/
def resumeRunNow (workload : TurnWorkload) (attempts : Nat)
    (lockedForTurn allowFailed foreign : Bool) (runId : String) : LeaseProgram Unit := do
  match ← getRun actor runId with
  | none => return ()
  | some run =>
    if isTerminalStatus run.status ∧ ¬ (run.status = .failed ∧ allowFailed = true) then return ()
    else if foreign then releaseOwnLock actor runId
    else execute engine actor workload attempts lockedForTurn run

section Sweeps

variable (runId : String)

/-- Take the lease of a due run and execute it, unless the engine is draining. -/
def resumeLeased (workload : TurnWorkload) (draining : Bool) (redispatch : Piece Unit)
    (foreign : Bool) : LeaseProgram Unit := do
  let nowMs ← clock actor
  if ← tryLockRun actor runId (nowMs + engine.leaseMs) nowMs then
    if draining then releaseOwnLock actor runId
    else
      asked actor redispatch.work
      resumeRunNow engine actor workload 0 true false foreign runId
  else return ()

/-- Claim a due run for as long as it takes to hand it to the queue. -/
def handOffDue (redispatch : Piece Unit) (run : WorkflowRun) : LeaseProgram Unit := do
  let nowMs ← clock actor
  note actor run.id .claimed
  if ← tryLockRun actor run.id (nowMs + engine.leaseMs) nowMs then
    let claimed ← asked actor (Engine.updateRunIf run.id [run.status]
      { wakeAt := some (some (nowMs + engine.leaseMs)) })
    if claimed then
      asked actor redispatch.work
      releaseOwnLock actor run.id
      note actor run.id .unclaimed
    else
      releaseOwnLock actor run.id
      note actor run.id .unclaimed
  else note actor run.id .unclaimed

/-- Release a lease that an earlier process of the same name has left behind. -/
def releaseStaleSelfLease : LeaseProgram Unit := do
  match ← getRun actor runId with
  | none => return ()
  | some run =>
    let stale := run.lockedUntil.any (· < engine.bootedAt + engine.leaseMs)
    if run.status = .running ∧ run.lockedBy = some actor.owner ∧ stale = true then
      releaseOwnLock actor runId
    else return ()

/-- Recover one orphan under its lease. -/
def recoverIncomplete (redispatch : Piece Unit) (orphan : Orphan) : LeaseProgram Unit := do
  let nowMs ← clock actor
  if ← tryLockRun actor runId (nowMs + engine.leaseMs) nowMs then
    asked actor redispatch.work
    let _ ← asked actor (Durable.recoverIncomplete engine.settings.marker runId orphan)
    releaseOwnLock actor runId
  else return ()

/-- Dead-letter a leased run whose workflow no instance has registered. -/
def settleUnregistered (graceOver : Bool) (error : StepError) : LeaseProgram Unit := do
  let nowMs ← clock actor
  if ← tryLockRun actor runId (nowMs + engine.leaseMs) nowMs then
    let _ ← asked actor
      (Durable.settleUnregistered engine.settings.marker graceOver error runId)
    releaseOwnLock actor runId
  else return ()

/-- Take the lease of a run that waits, and run a turn of it. -/
def wake (workload : TurnWorkload) (foreign : Bool) : LeaseProgram Unit := do
  let nowMs ← clock actor
  if ← tryLockRun actor runId (nowMs + engine.leaseMs) nowMs then
    match ← getRun actor runId with
    | none => releaseOwnLock actor runId
    | some fresh =>
      if fresh.status = .suspended ∨ fresh.status = .blocked then
        resumeRunNow engine actor workload 0 false false foreign runId
      else releaseOwnLock actor runId
  else return ()

/-- Take the lease to apply a decision, unless the instance holds it. -/
def leaseForDecision (taskId : String) : Nat → LeaseProgram Bool
  | 0 => return false
  | attempts + 1 => do
    match ← readHolder actor runId with
    | none => return false
    | some run =>
      if run.status = .suspended ∧ run.awaitingDecisionTaskId = some taskId then
        let now ← clock actor
        if run.lockedBy = some actor.owner ∧ run.leaseFree now = false then return true
        else if ← tryLockRun actor runId (now + engine.leaseMs) now then return true
        else leaseForDecision taskId attempts
      else return false

/-- Claim the turn a run awaits, and apply its decision. -/
def claimAndApply (pieces : RemotePieces) (taskId : String) (decision : RemoteDecision)
    (fresh : Option WorkflowRun) : LeaseProgram Unit :=
  match fresh with
  | none => return ()
  | some run => do
    if run.status = .suspended ∧ run.awaitingDecisionTaskId = some taskId then
      let claimed ← asked actor (Engine.updateRunIf runId [.suspended]
        { status := some .running, awaitingDecisionTaskId := some none, wakeAt := some none })
      if claimed then
        applyDecision engine actor pieces
          { run with status := .running, awaitingDecisionTaskId := none, wakeAt := none } decision
      else return ()
    else return ()

/-- Apply the decision of a dispatched turn under the lease. -/
def applyRemoteDecision (pieces : RemotePieces) (taskId : String) (decision : RemoteDecision)
    (attempts : Nat) : LeaseProgram Unit := do
  if ← leaseForDecision engine actor runId taskId attempts then
    note actor runId .began
    let fresh ← getRun actor runId
    claimAndApply engine actor runId pieces taskId decision fresh
    note actor runId .ended
    releaseOwnLock actor runId
  else return ()

/-- Give the leases of the turns in flight away when the engine is drained. -/
def releaseInflightLock : LeaseProgram Unit := do
  note actor runId .leaseLost
  releaseOwnLock actor runId

/-- Do some work under the lease, held under an owner of its own. -/
def withLifecycleLease (work : Piece Unit) : Nat → LeaseProgram Unit
  | 0 => return ()
  | attempts + 1 => do
    let nowMs ← clock actor
    if ← tryLockRun actor runId (nowMs + engine.leaseMs) nowMs then
      asked actor work.work
      releaseOwnLock actor runId
    else withLifecycleLease work attempts

/-- Put a run back to be executed again: its failures are reset, and its lease is cleared. -/
def requeue (reset : Piece Unit) (recoveryAttempts : Option Nat) (tags : Option (List String)) :
    LeaseProgram Unit := do
  match ← getRun actor runId with
  | none => return ()
  | some _ =>
    asked actor reset.work
    -- The release names no owner: whoever holds the lease loses it.
    releaseAnyLock actor runId
    let _ ← asked actor (Engine.updateRun runId
      { status := some .pending, error := some none, awaitingDecisionTaskId := some none
        recoveryAttempts, tags })
    return ()

end Sweeps

end LeaseProgram

/-- A path of an engine that has to do with the lease of a run. -/
inductive LeasePath where
  | resume (engine : EngineInstance) (workload : TurnWorkload) (attempts : Nat)
      (allowFailed foreign : Bool) (runId : String)
  | resumeLeased (engine : EngineInstance) (workload : TurnWorkload) (draining : Bool)
      (redispatch : Piece Unit) (foreign : Bool) (runId : String)
  | wake (engine : EngineInstance) (workload : TurnWorkload) (foreign : Bool) (runId : String)
  | applyRemoteDecision (engine : EngineInstance) (pieces : RemotePieces)
      (taskId : String) (decision : RemoteDecision) (attempts : Nat) (runId : String)
  | renewTick (engine : EngineInstance) (runId : String)
  | handOffDue (engine : EngineInstance) (redispatch : Piece Unit) (run : WorkflowRun)
  | releaseStaleSelfLease (engine : EngineInstance) (runId : String)
  | recoverIncomplete (engine : EngineInstance) (redispatch : Piece Unit) (orphan : Orphan)
      (runId : String)
  | settleUnregistered (engine : EngineInstance) (graceOver : Bool) (error : StepError)
      (runId : String)
  | releaseInflightLock (engine : EngineInstance) (runId : String)
  | publishSettled (engine : EngineInstance) (call : String) (work : Piece Unit)
      (attempts : Nat) (runId : String)
  | requeue (engine : EngineInstance) (reset : Piece Unit) (recoveryAttempts : Option Nat)
      (tags : Option (List String)) (runId : String)
  | cancel (engine : EngineInstance) (compensate : Bool) (runId : String)
  | sweepTimeout (engine : EngineInstance) (run : WorkflowRun)

namespace LeasePath

open LeaseProgram

/-- The instance, in a turn with a number. -/
def inTurn (engine : EngineInstance) (number : Nat) : LeaseActor where
  instanceId := engine.instanceId
  turn := some number

/-- The instance, outside of a turn. -/
def apart (engine : EngineInstance) : LeaseActor where
  instanceId := engine.instanceId

/-- What a path does; its turn, if it runs one, goes under a number. -/
def program (number : Nat) : LeasePath → LeaseProgram Unit
  | resume engine workload attempts allowFailed foreign runId =>
    resumeRunNow engine (inTurn engine number) workload attempts false allowFailed foreign runId
  | resumeLeased engine workload draining redispatch foreign runId =>
    LeaseProgram.resumeLeased engine (inTurn engine number) runId workload draining redispatch
      foreign
  | wake engine workload foreign runId =>
    LeaseProgram.wake engine (inTurn engine number) runId workload foreign
  | applyRemoteDecision engine pieces taskId decision attempts runId =>
    LeaseProgram.applyRemoteDecision engine (inTurn engine number) runId pieces taskId decision
      attempts
  | renewTick engine runId => LeaseProgram.renewTick engine (apart engine) runId
  | handOffDue engine redispatch run =>
    LeaseProgram.handOffDue engine (apart engine) redispatch run
  | releaseStaleSelfLease engine runId =>
    LeaseProgram.releaseStaleSelfLease engine (apart engine) runId
  | recoverIncomplete engine redispatch orphan runId =>
    LeaseProgram.recoverIncomplete engine (apart engine) runId redispatch orphan
  | settleUnregistered engine graceOver error runId =>
    LeaseProgram.settleUnregistered engine (apart engine) runId graceOver error
  | releaseInflightLock engine runId =>
    LeaseProgram.releaseInflightLock (apart engine) runId
  | publishSettled engine call work attempts runId =>
    withLifecycleLease engine { instanceId := engine.instanceId, publish := some call } runId work
      attempts
  | requeue engine reset recoveryAttempts tags runId =>
    LeaseProgram.requeue (apart engine) runId reset recoveryAttempts tags
  | cancel engine compensate runId => do
    let _ ← asked (apart engine) (Durable.cancel engine.settings.marker compensate runId)
    return ()
  | sweepTimeout engine run => do
    let _ ← asked (apart engine) (Durable.sweepTimeout engine.settings.marker run)
    return ()

end LeasePath

end Durable
