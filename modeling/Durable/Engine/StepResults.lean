import Durable.Data.Ids
import Durable.Engine.Operations
import Durable.Engine.StepFan

/-! What a worker's result, a redispatch, a heartbeat and a requeue do to a step's checkpoint. -/

namespace Durable

open Engine

/-- The optional operations a store has. -/
structure StoreSupport where
  settles : Bool := true
  savesIfPending : Bool := true
  renews : Bool := true

/-- Write a row over a pending one, or over whatever is there where the store cannot tell. -/
def savePendingCheckpoint (support : StoreSupport) (checkpoint : StepCheckpoint) : Engine Bool :=
  if support.savesIfPending then saveCheckpointIfPending checkpoint
  else do
    saveCheckpoint checkpoint
    return true

/-- Settle one pending step, and say whether it was written. -/
def settlePendingCheckpoint (support : StoreSupport) (checkpoint : StepCheckpoint)
    (settlement : StepSettlement) : Engine Bool :=
  if support.settles then do
    let wrote ← settleCheckpointsIfPending [settlement]
    return wrote == [true]
  else savePendingCheckpoint support (checkpoint.settled settlement)

/-- Settle pending steps one after the other, through their whole rows. -/
def saveEachPending (support : StoreSupport) :
    List (StepCheckpoint × StepSettlement) → Engine (List Bool)
  | [] => return []
  | (checkpoint, settlement) :: rest => do
    let wrote ← savePendingCheckpoint support (checkpoint.settled settlement)
    let others ← saveEachPending support rest
    return wrote :: others

/-- Settle several pending steps, and say of each whether it was written. -/
def settlePendingCheckpoints (support : StoreSupport)
    (entries : List (StepCheckpoint × StepSettlement)) : Engine (List Bool) :=
  if support.settles then settleCheckpointsIfPending (entries.map Prod.snd)
  else saveEachPending support entries

/-- Give back the slot a dispatched step holds, if it holds one. -/
def releaseQueueSlot (checkpoint : StepCheckpoint) : Engine Unit :=
  match checkpoint.queue with
  | some queue => releaseSlot queue
  | none => return ()

/-- Keep the late success of a step whose run has failed, for a later retry to find. -/
def salvageResult (support : StoreSupport) (checkpoint : StepCheckpoint) (result : StepResult) :
    Engine Unit := do
  let salvage := { settlementOf checkpoint result with error := checkpoint.error }
  if support.settles then
    let _ ← settleCheckpointsIfPending [salvage]
    return ()
  else saveCheckpoint (checkpoint.settled salvage)

/-- Settle a result of a pending step onto its checkpoint, as the status of its run asks for. -/
def settlePendingResult (support : StoreSupport) (result : StepResult)
    (checkpoint : StepCheckpoint) (run : Option WorkflowRun) : Engine (Option StepCheckpoint) := do
  match run.map WorkflowRun.status with
  | some .cancelled | some .completed =>
    -- The run is over: the result only frees the step's slot.
    releaseQueueSlot checkpoint
    return none
  | some .failed | some .dead =>
    releaseQueueSlot checkpoint
    if result.status = .completed then salvageResult support checkpoint result
    return none
  | _ =>
    if ← settlePendingCheckpoint support checkpoint (settlementOf checkpoint result) then
      releaseQueueSlot checkpoint
    return some checkpoint

/-- Settle a result onto its step's checkpoint; the checkpoint, when its run should be resumed. -/
def settleRemoteCheckpoint (support : StoreSupport) (result : StepResult) :
    Engine (Option StepCheckpoint) := do
  match ← getCheckpoint result.runId result.seq with
  | none => return none
  | some checkpoint =>
    let run ← getRun result.runId
    if checkpoint.status = .pending then settlePendingResult support result checkpoint run
    else if run.any (isTerminalStatus ·.status) then return none
    else return some checkpoint

/-- The block of positions a step fan's group names. -/
def parseStepFanGroup (group : String) : Option (Nat × Nat) :=
  match group.toList.splitOn ':' with
  | [['s', 't', 'e', 'p', 's'], first, size]
  | [['s', 't', 'e', 'p', 's'], first, size, ['f', 'a', 'i', 'l', 'F', 'a', 's', 't']] =>
    let digits := if size.head? = some 'n' then size.tail else size
    match digitsOf first, digitsOf digits with
    | some firstSeq, some size => some (firstSeq, size)
    | _, _ => none
  | _ => none

/-- The block of the step fan a checkpoint belongs to. -/
def stepFanOf (checkpoint : StepCheckpoint) : Option (Nat × Nat) :=
  checkpoint.parallelGroup.bind parseStepFanGroup

/-- Whether any step of a block of positions is still pending. -/
def stepFanHasPending (runId : String) (firstSeq size : Nat) : Engine Bool := do
  let rows ← listCheckpoints runId
  return rows.any fun row =>
    decide (firstSeq ≤ row.seq) && decide (row.seq < firstSeq + size) && row.status == .pending

/-- Whether a result leaves its fan to a later one, which is queued or still to come. -/
def stepFanStillRunning (queuedIn : Nat → Nat → Bool) (checkpoint : StepCheckpoint)
    (result : StepResult) : Engine Bool :=
  match stepFanOf checkpoint with
  | none => return false
  | some (firstSeq, size) =>
    if result.status = .failed then return false
    else if queuedIn firstSeq size then return true
    else stepFanHasPending result.runId firstSeq size

/-- Settle one result, then resume its run unless its fan is still running. -/
def completeOneRemoteResult (support : StoreSupport) (queuedIn : Nat → Nat → Bool)
    (result : StepResult) : Engine Unit := do
  match ← settleRemoteCheckpoint support result with
  | none => return ()
  | some checkpoint =>
    if ← stepFanStillRunning queuedIn checkpoint result then return ()
    else requestWake result.runId

/-- Settle results one by one. -/
def settleOneByOne (support : StoreSupport) (queuedIn : Nat → Nat → Bool) :
    List StepResult → Engine Unit
  | [] => return ()
  | result :: rest => do
    completeOneRemoteResult support queuedIn result
    settleOneByOne support queuedIn rest

/-- The first result of each position. -/
def liveResults : List StepResult → List StepResult
  | [] => []
  | result :: rest => result :: (liveResults rest).filter (·.seq ≠ result.seq)

/-- The slots of the steps a batch has settled are given back. -/
def releaseClaimed : List (StepCheckpoint × Bool) → Engine Unit
  | [] => return ()
  | (checkpoint, wrote) :: rest => do
    if wrote then releaseQueueSlot checkpoint
    releaseClaimed rest

/-- Ask the barriers of a batch's fans, each once, and resume the run at the first open one. -/
def resumeBatch (queuedIn : Nat → Nat → Bool) (runId : String) :
    List (StepCheckpoint × StepResult) → List Nat → Engine Unit
  | [], _ => return ()
  | (checkpoint, result) :: rest, closed =>
    match stepFanOf checkpoint with
    | none => requestWake runId
    | some (firstSeq, size) =>
      if result.status = .failed then requestWake runId
      else if firstSeq ∈ closed then resumeBatch queuedIn runId rest closed
      else if queuedIn firstSeq size then resumeBatch queuedIn runId rest (firstSeq :: closed)
      else do
        if ← stepFanHasPending runId firstSeq size then
          resumeBatch queuedIn runId rest (firstSeq :: closed)
        else requestWake runId

/-- Settle a batch of one run's results, with one resume for all of them. -/
def completeRemoteResults (support : StoreSupport) (queuedIn : Nat → Nat → Bool) (runId : String)
    (results : List StepResult) : Engine Unit := do
  if results.length = 1 then settleOneByOne support queuedIn results
  else
    let live := liveResults results
    let run ← getRun runId
    if run.all (isTerminalStatus ·.status) then settleOneByOne support queuedIn live
    else
      let rows ← replayCheckpoints runId
      let read := live.filterMap fun result => (rows result.seq).map (·, result)
      let pending := read.filter (·.1.status = .pending)
      let claims ← settlePendingCheckpoints support
        (pending.map fun entry => (entry.1, settlementOf entry.1 entry.2))
      releaseClaimed ((pending.map Prod.fst).zip claims)
      -- What was settled before comes first, then what this batch has settled, or lost to another.
      resumeBatch queuedIn runId (read.filter (·.1.status ≠ .pending) ++ pending) []

/-- Put the pending steps of a run on the transport again. -/
def redispatchEach (runId : String) : List StepCheckpoint → Engine Unit
  | [] => return ()
  | checkpoint :: rest => do
    let attempt := checkpoint.attempts + 1
    saveCheckpoint { checkpoint with attempts := attempt }
    dispatchTask { runId, seq := checkpoint.seq, attempt }
    redispatchEach runId rest

/-- `redispatchPending`: dispatch every remote step of a run that is still pending again. -/
def redispatchPending (runId : String) : Engine Unit := do
  match ← getRun runId with
  | none => return ()
  | some _ =>
    let rows ← listCheckpoints runId
    redispatchEach runId (rows.filter fun row => row.kind = .remote ∧ row.status = .pending)

/-- Carry the wake of a run parked exactly on a renewed lease forward. -/
def carryWake (runId : String) (previous renewed : Nat) : Engine Unit := do
  match ← getRun runId with
  | none => return ()
  | some run =>
    if run.status = .suspended ∧ run.wakeAt = some previous then
      let _ ← updateRun runId { wakeAt := some (some renewed) }
      return ()
    else return ()

/-- Renew a pending step's lease once half of it is spent. -/
def renewPending (support : StoreSupport) (window now : Nat) (checkpoint : StepCheckpoint) :
    Engine Unit := do
  let halfWindow := (window + 1) / 2
  if checkpoint.wakeAt.any (now + halfWindow < ·) then return ()
  else
    let renewed := now + window
    let wrote ←
      if support.renews then
        renewCheckpointLease checkpoint.runId checkpoint.seq checkpoint.wakeAt renewed
      else savePendingCheckpoint support { checkpoint with wakeAt := some renewed }
    match wrote, checkpoint.wakeAt with
    | true, some previous => carryWake checkpoint.runId previous renewed
    | _, _ => return ()

/-- `renewStepLease`: a heartbeat of a dispatched step. -/
def renewStepLease (support : StoreSupport) (remoteRedispatchMs : Option Nat) (runId : String)
    (seq : Nat) : Engine Unit := do
  match remoteRedispatchMs with
  | none => return ()
  | some window =>
    let now ← clock
    match ← getCheckpoint runId seq with
    | none => return ()
    | some checkpoint =>
      if checkpoint.kind = .remote ∧ checkpoint.status = .pending then
        renewPending support window now checkpoint
      else return ()

/-- A failed step made ready to be tried again at once, as its first attempt. -/
def StepCheckpoint.reopened (checkpoint : StepCheckpoint) (now : Nat) : StepCheckpoint :=
  { checkpoint with
    attempts := 0, wakeAt := some now
    error := checkpoint.error.map fun error => { error with retryable := some true } }

/-- Make the failed steps of a run ready to be tried again; other rows are left to `others`. -/
def reopenEach (others : StepCheckpoint → Engine Unit) : List StepCheckpoint → Engine Unit
  | [] => return ()
  | checkpoint :: rest => do
    if checkpoint.kind = .remote ∧ checkpoint.status = .failed then
      let now ← clock
      saveCheckpoint (checkpoint.reopened now)
    else others checkpoint
    reopenEach others rest

/-- What `requeue` does to the checkpoints of a run that has failed. -/
def requeueCheckpoints (others : StepCheckpoint → Engine Unit) (runId : String) :
    Engine Unit := do
  match ← getRun runId with
  | none => return ()
  | some run =>
    if run.status = .failed ∨ run.status = .dead then
      let rows ← listCheckpoints runId
      reopenEach others rows
    else return ()

end Durable
