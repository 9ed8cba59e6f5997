import Mathlib.Logic.Function.Basic
import Durable.Engine.StepResults

/-! A run's results settled one by one and in a batch, with writes and slot releases that fail. -/

namespace Durable

/-- What comes of a result: it is done with, or its transport is to deliver it again. -/
inductive ResultOutcome where
  | done | writeError | releaseError
deriving DecidableEq

/-- A result, with what goes wrong while it is settled. -/
structure ResultDelivery where
  result : StepResult
  writeFails : Bool := false
  releaseFails : Bool := false
deriving DecidableEq

/-- The position of the step a result is of. -/
def ResultDelivery.seq (d : ResultDelivery) : Nat := d.result.seq

/-- Where results are settled: the store, the run, and the results still to come. -/
structure Settling where
  support : StoreSupport := {}
  /-- The store writes several rows over pending ones in one call. -/
  savesMany : Bool := true
  /-- A call of several writes is refused though none of them would be alone. -/
  rejects : Bool := false
  run : Option RunStatus
  /-- Whether a result for a block of positions is queued behind these. -/
  queuedIn : Nat → Nat → Bool := fun _ _ => false

/-- What settling changes. -/
structure SettleState where
  rows : Nat → Option StepCheckpoint
  /-- The queues of dispatched steps that this process remembers, by the step's position. -/
  stepQueue : Nat → Option String := fun _ => none
  /-- The slots given back, each with the position of its step. -/
  freed : List (Nat × String) := []
  outcomes : Nat → ResultOutcome := fun _ => .done
  resumed : Bool := false

/-- What comes of one of several writes. -/
inductive Claim where
  | wrote (flag : Bool)
  | failed
deriving DecidableEq

/-- Whether a run is past any result: it is over. -/
def Settling.isOver (env : Settling) : Bool := env.run.any isTerminalStatus

section Writes

variable (env : Settling)

/-- Settle one pending step, in the way its store can; whether it was written. -/
def Settling.write (rows : Nat → Option StepCheckpoint) (cp : StepCheckpoint)
    (d : ResultDelivery) : (Nat → Option StepCheckpoint) × Bool :=
  let settlement := settlementOf cp d.result
  if env.support.settles || env.support.savesIfPending then
    match rows d.seq with
    | some row =>
      if row.status = .pending then
        -- A settlement changes the row as it is stored, a saved row replaces it whole.
        let base := if env.support.settles then row else cp
        (Function.update rows d.seq (some (base.settled settlement)), true)
      else (rows, false)
    | none => (rows, false)
  else (Function.update rows d.seq (some (cp.settled settlement)), true)

/-- Settle pending steps with one write each. -/
def Settling.settleEach : (Nat → Option StepCheckpoint) →
    List (StepCheckpoint × ResultDelivery) → (Nat → Option StepCheckpoint) × List Claim
  | rows, [] => (rows, [])
  | rows, (cp, d) :: rest =>
    if d.writeFails then
      let others := settleEach rows rest
      (others.1, .failed :: others.2)
    else
      let written := env.write rows cp d
      let others := settleEach written.1 rest
      (others.1, .wrote written.2 :: others.2)

/-- Settle pending steps with one call that is not refused. -/
def Settling.settleTogether : (Nat → Option StepCheckpoint) →
    List (StepCheckpoint × ResultDelivery) → (Nat → Option StepCheckpoint) × List Claim
  | rows, [] => (rows, [])
  | rows, (cp, d) :: rest =>
    let written := env.write rows cp d
    let others := settleTogether written.1 rest
    (others.1, .wrote written.2 :: others.2)

/-- Settle pending steps: in one call where the store has it, else, or where it is refused, with
one write each. -/
def Settling.settlePendingCheckpoints (rows : Nat → Option StepCheckpoint)
    (entries : List (StepCheckpoint × ResultDelivery)) :
    (Nat → Option StepCheckpoint) × List Claim :=
  let several := decide (1 < entries.length)
  let refused := entries.any (·.2.writeFails) || (several && env.rejects)
  if (env.support.settles || (several && env.savesMany)) && !refused then
    env.settleTogether rows entries
  else env.settleEach rows entries

/-- Give back the slot of a step, if it holds one; whether nothing went wrong. -/
def SettleState.releaseQueueSlot (state : SettleState) (cp : StepCheckpoint) (d : ResultDelivery) :
    SettleState × Bool :=
  let queue := cp.queue <|> state.stepQueue d.seq
  let forgotten := { state with stepQueue := Function.update state.stepQueue d.seq none }
  match queue with
  | none => (forgotten, true)
  | some queue =>
    if d.releaseFails then (forgotten, false)
    else ({ forgotten with freed := state.freed ++ [(d.seq, queue)] }, true)

/-- A result ends in an error. -/
def SettleState.fail (state : SettleState) (index : Nat) (outcome : ResultOutcome) : SettleState :=
  { state with outcomes := Function.update state.outcomes index outcome }

/-- Whether a step of a block of positions is still pending. -/
def blockHasPending (rows : Nat → Option StepCheckpoint) (firstSeq size : Nat) : Bool :=
  (List.range size).any fun place => (rows (firstSeq + place)).any (·.status = .pending)

/-- Whether a result leaves its fan to a later one. -/
def Settling.stepFanStillRunning (rows : Nat → Option StepCheckpoint) (cp : StepCheckpoint)
    (d : ResultDelivery) : Bool :=
  match stepFanOf cp with
  | none => false
  | some (firstSeq, size) =>
    d.result.status ≠ .failed &&
      (env.queuedIn firstSeq size || blockHasPending rows firstSeq size)

/-- Resume the run, if there is one. -/
def Settling.resume (state : SettleState) : SettleState :=
  { state with resumed := state.resumed || env.run.isSome }

/-- Resume the run of a settled result unless its fan is still running. -/
def Settling.resumeAfter (state : SettleState) (cp : StepCheckpoint) (d : ResultDelivery) :
    SettleState :=
  if env.stepFanStillRunning state.rows cp d then state else env.resume state

end Writes

section OneByOne

variable (env : Settling)

/-- Keep the late success of a step whose run has failed. -/
def Settling.salvage (state : SettleState) (index : Nat) (cp : StepCheckpoint)
    (d : ResultDelivery) : SettleState :=
  if d.result.status ≠ .completed then state
  else if d.writeFails then state.fail index .writeError
  else
    let settlement := { settlementOf cp d.result with error := cp.error }
    let written :=
      if env.support.settles then
        (state.rows d.seq).map fun row =>
          if row.status = .pending then row.settled settlement else row
      else some (cp.settled settlement)
    { state with rows := Function.update state.rows d.seq written }

/-- Settle a result of a pending step whose run is over. -/
def Settling.settleLate (state : SettleState) (index : Nat) (cp : StepCheckpoint)
    (d : ResultDelivery) : SettleState :=
  let released := state.releaseQueueSlot cp d
  if !released.2 then released.1.fail index .releaseError
  else
    match env.run with
    | some .failed | some .dead => env.salvage released.1 index cp d
    | _ => released.1

/-- Settle a result of a pending step whose run goes on. -/
def Settling.settleLive (state : SettleState) (index : Nat) (cp : StepCheckpoint)
    (d : ResultDelivery) : SettleState :=
  let settled := env.settlePendingCheckpoints state.rows [(cp, d)]
  let written := { state with rows := settled.1 }
  match settled.2 with
  | .wrote true :: _ =>
    let released := written.releaseQueueSlot cp d
    if released.2 then env.resumeAfter released.1 cp d else released.1.fail index .releaseError
  | .wrote false :: _ => env.resumeAfter written cp d
  | _ => written.fail index .writeError

/-- `completeOneRemoteResult`: settle a result, then resume its run unless its fan still runs. -/
def Settling.completeOne (state : SettleState) (entry : ResultDelivery × Nat) : SettleState :=
  match state.rows entry.1.seq with
  | none => state
  | some cp =>
    if cp.status = .pending then
      if env.isOver then env.settleLate state entry.2 cp entry.1
      else env.settleLive state entry.2 cp entry.1
    else if env.isOver then state
    else env.resumeAfter state cp entry.1

/-- Settle results one by one. -/
def Settling.settleOneByOne (state : SettleState) (entries : List (ResultDelivery × Nat)) :
    SettleState :=
  entries.foldl env.completeOne state

end OneByOne

section Batch

variable (env : Settling)

/-- The first copies of the results. -/
def firstCopies : List (ResultDelivery × Nat) → List (ResultDelivery × Nat)
  | [] => []
  | entry :: rest => entry :: (firstCopies rest).filter (·.1.seq ≠ entry.1.seq)

/-- A result with the checkpoint read for it. -/
structure ReadResult where
  cp : StepCheckpoint
  entry : ResultDelivery × Nat

/-- The results that have a checkpoint, each with it. -/
def readResults (rows : Nat → Option StepCheckpoint) (live : List (ResultDelivery × Nat)) :
    List ReadResult :=
  live.filterMap fun entry => (rows entry.1.seq).map (⟨·, entry⟩)

/-- Take what came of one write: free the slot of a settled step, note an error. -/
def SettleState.takeClaim (state : SettleState) (read : ReadResult) (claim : Claim) :
    SettleState :=
  match claim with
  | .wrote true =>
    let released := state.releaseQueueSlot read.cp read.entry.1
    -- Written but not acknowledged: the redelivery finds the step settled.
    if released.2 then released.1 else released.1.fail read.entry.2 .releaseError
  | .wrote false => state
  | .failed => state.fail read.entry.2 .writeError

/-- Take what came of the writes, one after the other. -/
def SettleState.takeClaims (state : SettleState) :
    List (ReadResult × Claim) → SettleState
  | [] => state
  | (read, claim) :: rest => (state.takeClaim read claim).takeClaims rest

/-- Whether the barriers of a batch's fans, each asked once, resume the run. -/
def Settling.batchWakes (rows : Nat → Option StepCheckpoint) : List ReadResult → List Nat → Bool
  | [], _ => false
  | read :: rest, closed =>
    match stepFanOf read.cp with
    | none => true
    | some (firstSeq, size) =>
      if read.entry.1.result.status = .failed then true
      else if firstSeq ∈ closed then batchWakes rows rest closed
      else if env.queuedIn firstSeq size || blockHasPending rows firstSeq size then
        batchWakes rows rest (firstSeq :: closed)
      else true

/-- Settle a batch of results of a run that goes on. -/
def Settling.settleBatch (state : SettleState) (live : List (ResultDelivery × Nat)) : SettleState :=
  let reads := readResults state.rows live
  let pending := reads.filter (·.cp.status = .pending)
  let settled := env.settlePendingCheckpoints state.rows
    (pending.map fun read => (read.cp, read.entry.1))
  let claimed := pending.zip settled.2
  let state := ({ state with rows := settled.1 } : SettleState).takeClaims claimed
  -- What was settled before comes first, then what this batch has settled, or lost to another.
  let resumable := reads.filter (·.cp.status ≠ .pending) ++
    (claimed.filter (·.2 ≠ .failed)).map Prod.fst
  if env.batchWakes state.rows resumable [] then env.resume state else state

/-- `completeRemoteResults`: settle a batch of one run's results. -/
def Settling.completeResults (state : SettleState) (entries : List (ResultDelivery × Nat)) :
    SettleState :=
  if entries.length = 1 then env.settleOneByOne state entries
  else
    let live := firstCopies entries
    -- A finished or unknown run takes the single-result path.
    if env.run.all isTerminalStatus then env.settleOneByOne state live
    else env.settleBatch state live

end Batch

end Durable
