import Durable.Ctx.Host

/-! The operations of a `ctx` that start and await one child run. -/

namespace Durable

open Engine

/-- The tag of a child whose parent has settled its wait from the child's row. -/
def childDeliveredTag : String := "durable:child:delivered"

/-- Stamp a child as delivered, before its parent removes the wait it settles. -/
def markChildDelivered (child : WorkflowRun) : Engine Unit :=
  if childDeliveredTag ∈ child.tags then return ()
  else do
    let _ ← updateRun child.id { tags := some (child.tags ++ [childDeliveredTag]) }
    return ()

/-- The completion a parent derives from its child's row. -/
def rowCompletion (child : WorkflowRun) : Completion :=
  if child.status = .completed then .ok child.output
  else .failed ((child.error.map StepError.message).getD child.status.text) none none

/-- The name of the checkpoint of a child's wait. -/
def childName (childId : String) : String := "signal:child:" ++ childId

namespace CtxHost

variable (host : CtxHost)

/-- The wait of a child: its waiter and its placeholder. -/
def childWait (childId : String) (seq : Nat) (group : Option String) : ChildWait :=
  { waiter := { token := childToken childId, runId := host.runId, seq, parallelGroup := group }
    checkpoint := { runId := host.runId, seq, name := childName childId, kind := .signal
                    status := .running, parallelGroup := group } }

/-- The label of a child's failure. -/
def childLabel (childId : String) : String := s!"child \"{childId}\""

/-- Settle a child's wait with a payload. -/
def settleChild (childId : String) (seq : Nat) (payload : Payload) : Engine OpEnd := do
  removeSignalWaiter (host.waiter (childToken childId) seq)
  host.record seq (childName childId) .signal payload
  return unwrappedAt (seq + 1) (childLabel childId) payload

/-- Settle a child's wait from what is buffered, or from its row, or start it and wait. -/
def joinChild (childId : String) (current : Nat) : Engine OpEnd := do
  match ← takeBufferedSignal (childToken childId) with
  | some payload => host.settleChild childId current payload
  | none =>
    match ← getRun childId with
    | none =>
      deferEffect (.startChild childId)
      return .suspended none
    | some childRun =>
      if isTerminalStatus childRun.status then
        markChildDelivered childRun
        host.settleChild childId current (some (rowCompletion childRun).toValue)
      else return .suspended none

/-- The id of a child: its caller's, or one of the run's own. -/
def childIdAt (childId : Option String) (current : Nat) : String :=
  childId.getD s!"{host.runId}.child.{current}"

/-- `ctx.child`: register the wait once, then join the child. -/
def child (childId : Option String) (current : Nat) : Engine OpEnd := do
  let id := host.childIdAt childId current
  match ← host.readCheckpoint current with
  | some existing =>
    if existing.status = .completed then
      return unwrappedAt (current + 1) (childLabel id) existing.output
    else host.joinChild id current
  | none =>
    registerChildWaits [host.childWait id current none]
    host.joinChild id current

/-- Ask for a child's start unless it has a run. -/
def startUnlessExists (childId : String) : Engine Unit := do
  match ← getRun childId with
  | some _ => return ()
  | none => deferEffect (.startChild childId)

/-- Start a child unless it exists, and record its id. -/
def spawnChild (childId : String) (current : Nat) : Engine OpEnd := do
  startUnlessExists childId
  host.record current ("spawn:" ++ childId) .local (some (.str childId))
  return returnedAt (current + 1) (some (.str childId))

/-- `ctx.startChild`. -/
def startChild (childId : Option String) (current : Nat) : Engine OpEnd := do
  let id := host.childIdAt childId current
  match ← host.readCheckpoint current with
  | some existing =>
    if existing.status = .completed then return returnedAt (current + 1) existing.output
    else host.spawnChild id current
  | none => host.spawnChild id current

end CtxHost

end Durable
