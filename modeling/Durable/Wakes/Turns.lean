import Durable.Wakes.Board

/-! Turns of a run, and the wakes that find it leased to a turn of another instance. -/

namespace Durable

open Interleaving (Program Table)

/-- A program about one run. -/
abbrev WakePath (α : Type) := Program WakeOp WakeOp.Answer α

namespace RunCall

/-- Read the clock. -/
def clock : WakePath Nat := Program.perform WakeOp.clock

/-- Read the run. -/
def getRun : WakePath RunLook := Program.perform WakeOp.getRun

/-- Take the run's lease, if it is free. -/
def tryLockRun (owner : String) (leaseUntil now : Nat) : WakePath Bool :=
  Program.perform (WakeOp.tryLockRun owner leaseUntil now)

/-- Prolong the run's lease, if it is one's own. -/
def renewRunLock (owner : String) (leaseUntil : Nat) : WakePath Bool :=
  Program.perform (WakeOp.renewRunLock owner leaseUntil)

/-- Let go of the run's lease, if it is one's own. -/
def releaseRunLock (owner : String) : WakePath Unit := Program.perform (WakeOp.releaseRunLock owner)

/-- Let go of the run's lease, unless another turn is asked for. -/
def releaseRunLockUnlessWakeRequested (owner : String) : WakePath Bool :=
  Program.perform (WakeOp.releaseRunLockUnlessWakeRequested owner)

/-- Ask for another turn of a live run. -/
def requestTurn (at_ : Nat) : WakePath Bool := Program.perform (WakeOp.requestTurn at_)

/-- Ask for another turn once more. -/
def requestAgain (at_ : Nat) : WakePath Unit := Program.perform (WakeOp.requestAgain at_)

/-- No other turn is asked for any more. -/
def clearRequest (starts : Bool) : WakePath Unit := Program.perform (WakeOp.clearRequest starts)

/-- Keep the reason of a wake. -/
def keepReason (payload : Option (List (Nat × Nat))) (causes : List WakeCause) : WakePath Unit :=
  Program.perform (WakeOp.keepReason payload causes)

/-- Read the oldest reasons that are kept. -/
def keptReasons (look : ReasonLook) (most : Nat) : WakePath (List KeptReason) :=
  Program.perform (WakeOp.keptReasons look most)

/-- Drop a reason. -/
def removeReason (id : Nat) : WakePath Unit := Program.perform (WakeOp.removeReason id)

/-- Read the run's checkpoints, as a turn does that starts. -/
def replay : WakePath Unit := Program.perform WakeOp.replay

/-- Read the checkpoints of a fan. -/
def listFan (call : StepFanCall) : WakePath (Table Nat FanMember) :=
  Program.perform (WakeOp.listFan call)

/-- Send steps of a fan. -/
def sendMembers (first : Nat) (seqs : List Nat) : WakePath Unit :=
  Program.perform (WakeOp.sendMembers first seqs)

/-- Ask whether the turn is known to have lost its lease. -/
def fenced : WakePath Bool := Program.perform WakeOp.fenced

/-- Ask for the timer a turn parks the run on. -/
def parksOn : WakePath (Option Nat) := Program.perform WakeOp.parksOn

/-- Park the run. -/
def park (wakeAt : Option Nat) : WakePath Bool := Program.perform (WakeOp.park wakeAt)

/-- Write something the run is woken for. -/
def writeCause : WakePath WakeCause := Program.perform WakeOp.writeCause

/-- Settle a step of a fan, if it is in flight. -/
def settleMember (seq : Nat) (completed : Bool) : WakePath (Option (WakeCause × Nat)) :=
  Program.perform (WakeOp.settleMember seq completed)

end RunCall

/-- The most kept reasons that are read at once. -/
def wakeRequestScan : Nat := 100

/-- The most steps of a fan that are sent at once. -/
def stepFanSendRound : Nat := 2000

/-- Why a run is woken again after its turn, or by a timer. -/
def againReason : WakeReason := { generic := true }

/-- An instance's settings. -/
structure WakeEngine where
  instanceId : String
  leaseMs : Nat := 60000
  /-- Whether its store lets go of a lease only while no other turn is asked for. -/
  conditionalRelease : Bool := true

/-- Send steps of a fan, so many at once. -/
def sendRounds (first : Nat) : Nat → List Nat → WakePath Unit
  | 0, _ => return ()
  | rounds + 1, seqs => do
    if seqs.isEmpty then return ()
    else
      RunCall.sendMembers first (seqs.take stepFanSendRound)
      sendRounds first rounds (seqs.drop stepFanSendRound)

/-- `turnSettledFans`: one more fan was read with nothing in flight. -/
def noteSettledFan (settled : Table Nat Nat) (call : StepFanCall) : Option Nat → Table Nat Nat
  | none => settled
  | some highest =>
    settled.set call.first (max ((settled.get call.first).getD highest) highest)

/-- A turn's fans were read settled at least so far. -/
def settledFar (settled : Table Nat Nat) (first seq : Nat) : Bool :=
  (settled.get first).any (seq ≤ ·)

/--
The fans a turn comes to: `callRemoteAll` for each, until one of them suspends the turn.

What is returned is how far each fan was read with nothing in flight.
-/
def callFans : List StepFanCall → Table Nat Nat → WakePath (Table Nat Nat)
  | [], settled => return settled
  | call :: rest, settled => do
    let members ← RunCall.listFan call
    -- The body goes on from a failure that ends the fan at once.
    if call.failFast && call.anyFailed members then callFans rest settled
    else
      let later := noteSettledFan settled call (call.readSettled members)
      let batch := call.batch members
      sendRounds call.first batch.length batch
      if call.inFlight members = [] ∧ batch = [] then callFans rest later
      else return later

namespace WakeEngine

variable (engine : WakeEngine)

/-- Drop reasons, one after the other. -/
def removeReasons : List Nat → WakePath Unit
  | [] => return ()
  | id :: rest => do
    RunCall.removeReason id
    removeReasons rest

/-- `dropWakeReasons`: drop those of the kept reasons that were served. -/
def dropWakeReasons (served : List Nat) : WakePath Unit := do
  let kept ← RunCall.keptReasons .dropping wakeRequestScan
  removeReasons ((kept.filter (·.id ∈ served)).map (·.id))

/-- `releaseSuspendedLease`: let go of the lease, unless another turn is asked for. -/
def releaseSuspendedLease : WakePath Bool :=
  if engine.conditionalRelease then
    RunCall.releaseRunLockUnlessWakeRequested engine.instanceId
  else do
    let before ← RunCall.getRun
    if before.wakeRequestedAt.isSome && before.lease.any (·.1 == engine.instanceId) then
      return false
    else
      RunCall.releaseRunLock engine.instanceId
      return true

/--
`letGoOfSuspendedTurn`: let go of the lease, unless another turn is owed.

A request whose every kept reason the turn has seen is spent instead.
-/
def letGoOfSuspendedTurn (served : List Nat) (settled : Table Nat Nat) : Nat → WakePath Bool
  | 0 => return false
  | rounds + 1 => do
    if ← engine.releaseSuspendedLease then
      if served.isEmpty then return true
      else
        dropWakeReasons served
        return true
    else
      let kept ← RunCall.keptReasons .lettingGo wakeRequestScan
      let seen := kept.filter fun reason =>
        decide (reason.id ∈ served) || wakeReasonSeen (settledFar settled) reason.payload
      if kept.isEmpty || decide (seen.length < kept.length) then return false
      else
        let spent := seen.map (·.id)
        removeReasons spent
        RunCall.clearRequest false
        -- A reason kept after the look above may have had its request cleared just now.
        let later ← RunCall.keptReasons .again wakeRequestScan
        if later.any fun reason => !decide (reason.id ∈ spent) &&
            !wakeReasonSeen (settledFar settled) reason.payload then
          let now ← RunCall.clock
          RunCall.requestAgain now
          return false
        else letGoOfSuspendedTurn served settled rounds

/-- `stampWakeRequest`: keep a wake's reason, and ask for another turn. -/
def stampWakeRequest (reason : WakeReason) : WakePath Bool := do
  RunCall.keepReason reason.payload reason.causes
  let now ← RunCall.clock
  RunCall.requestTurn now

/-- `requestWake`: ask for another turn, and look whether the lease is free by now. -/
def requestWake (reason : WakeReason) (resume : WakePath Unit) : WakePath Unit := do
  if ← stampWakeRequest reason then
    let now ← RunCall.clock
    if ← RunCall.tryLockRun engine.instanceId (now + engine.leaseMs) now then
      let fresh ← RunCall.getRun
      if fresh.status = .suspended ∨ fresh.status = .blocked then resume
      else RunCall.releaseRunLock engine.instanceId
    else return ()
  else return ()

/-- Take the lease for a turn: prove that it is one's own, or take it if it is free. -/
def leaseForTurn (run : RunLook) (lockedForTurn : Bool) : WakePath Bool := do
  let now ← RunCall.clock
  if run.lease.any fun lease => lease.1 == engine.instanceId && decide (now < lease.2) then
    if lockedForTurn then return true
    else if ← RunCall.renewRunLock engine.instanceId (now + engine.leaseMs) then return true
    else RunCall.tryLockRun engine.instanceId (now + engine.leaseMs) now
  else RunCall.tryLockRun engine.instanceId (now + engine.leaseMs) now

/-- What a turn that starts has to serve: the request it clears, and the reasons it finds. -/
def startTurn (run : RunLook) : WakePath (List Nat) := do
  if run.wakeRequestedAt.isSome then
    RunCall.clearRequest true
    let kept ← RunCall.keptReasons .starting wakeRequestScan
    RunCall.replay
    return kept.map (·.id)
  else
    RunCall.replay
    return []

/-- Park the run a turn leaves suspended; whether it is suspended then. -/
def settleSuspended : WakePath Bool := do
  if ← RunCall.fenced then
    let latest ← RunCall.getRun
    return latest.status == .suspended
  else
    let wakeAt ← RunCall.parksOn
    if ← RunCall.park wakeAt then return true
    else
      let latest ← RunCall.getRun
      return latest.status == .suspended

/-- One turn under the lease, which suspends; whether no other turn is owed after it. -/
def runTurn (run : RunLook) (fans : List StepFanCall) : WakePath Bool := do
  let served ← startTurn run
  let settled ← callFans fans .empty
  if ← settleSuspended then engine.letGoOfSuspendedTurn served settled 5
  else
    RunCall.releaseRunLock engine.instanceId
    return true

/-- `resumeRunNow` and `execute`: run a turn, and the turns it owes, so many at most. -/
def resume (fans : List StepFanCall) : Nat → Bool → WakeReason → WakePath Unit
  | 0, _, _ => return ()
  | turns + 1, lockedForTurn, reason => do
    let run ← RunCall.getRun
    if isTerminalStatus run.status then return ()
    else if ← engine.leaseForTurn run lockedForTurn then
      if ← engine.runTurn run fans then return ()
      else resume fans turns false againReason
    else engine.requestWake reason (resume fans turns false againReason)

/-- `leaseAndResume`: take the lease, and run a turn; a wake that finds it taken asks for one. -/
def leaseAndResume (fans : List StepFanCall) (turns : Nat) (recheck : Bool) (reason : WakeReason) :
    WakePath Unit := do
  let now ← RunCall.clock
  if ← RunCall.tryLockRun engine.instanceId (now + engine.leaseMs) now then
    engine.resume fans (turns + 1) true { reason with generic := true }
  else if recheck then
    engine.requestWake { reason with generic := true }
      (engine.resume fans turns false againReason)
  else return ()

end WakeEngine

/-- Something a run is woken for: a step of one of its fans ended, or anything else. -/
inductive CauseWrite where
  | plain
  | member (seq : Nat) (completed : Bool)
deriving Repr, DecidableEq

/-- Write what a run is woken for; the reason of the wake. -/
def writeCauses : List CauseWrite → WakeReason → WakePath WakeReason
  | [], reason => return reason
  | .plain :: rest, reason => do
    let cause ← RunCall.writeCause
    writeCauses rest (reason.note cause none)
  | .member seq completed :: rest, reason => do
    match ← RunCall.settleMember seq completed with
    | none => writeCauses rest reason
    | some (cause, first) =>
      writeCauses rest (reason.note cause (if completed then some (first, seq) else none))

namespace WakeEngine

variable (engine : WakeEngine)

/-- Write something, and wake the run for it where it was written. -/
def writeAndWake (fans : List StepFanCall) (turns : Nat) (writes : List CauseWrite) :
    WakePath Unit := do
  let reason ← writeCauses writes {}
  if reason.causes.isEmpty then return ()
  else engine.resume fans (turns + 1) false reason

/-- Write something, and wake the run for it on the instance that takes it from the queue. -/
def writeAndQueue (fans : List StepFanCall) (turns : Nat) (writes : List CauseWrite) :
    WakePath Unit := do
  let reason ← writeCauses writes {}
  if reason.causes.isEmpty then return ()
  else engine.leaseAndResume fans turns true reason

/-- `retryDroppedWake`: look again whether a run that was leased is free. -/
def retryDroppedWake (fans : List StepFanCall) (turns : Nat) (stamped : Bool) : WakePath Unit := do
  let run ← RunCall.getRun
  if isTerminalStatus run.status then return ()
  else if stamped && run.wakeRequestedAt.isNone then return ()
  else
    let now ← RunCall.clock
    if run.lease.any fun lease => decide (now < lease.2) then return ()
    else if run.status ≠ .suspended ∧ run.status ≠ .blocked then return ()
    else if ← RunCall.tryLockRun engine.instanceId (now + engine.leaseMs) now then
      let fresh ← RunCall.getRun
      if fresh.status = .suspended ∨ fresh.status = .blocked then
        engine.resume fans turns false againReason
      else RunCall.releaseRunLock engine.instanceId
    else return ()

end WakeEngine

end Durable
