import Durable.Ctx.Children
import Durable.Ctx.Steps
import Durable.Engine.StepFan

/-! `ctx.all` and `ctx.allSettled`, over child workflows and over a dispatched step. -/

namespace Durable

open Engine

namespace CtxHost

variable (host : CtxHost)

/-- Read a block of checkpoints. -/
def readFan (firstSeq : Nat) : List Nat → Engine FanRows
  | [] => return fun _ => none
  | index :: rest => do
    let row ← host.readCheckpoint (firstSeq + index)
    let rows ← readFan firstSeq rest
    return fun other => if other = index then row else rows other

/-- Read the runs of children. -/
def readRuns (fan : ChildFan) : List Nat → Engine (Nat → Option WorkflowRun)
  | [] => return fun _ => none
  | index :: rest => do
    let run ← getRun (fan.id index)
    let runs ← readRuns fan rest
    return fun other => if other = index then run else runs other

/-- Settle a member's placeholder with a payload. -/
def resolveMember (fan : ChildFan) (index : Nat) (payload : Payload) : Engine Unit := do
  removeSignalWaiter (host.waiter (childToken (fan.id index)) (fan.firstSeq + index))
  saveCheckpoint (fan.resolved index payload)

/-- Look for the completion of a member whose child has ended, or has no run. -/
def deliverMember (fan : ChildFan) (index : Nat) (childRun : Option WorkflowRun) :
    Engine (Option Payload) := do
  match ← takeBufferedSignal (childToken (fan.id index)) with
  | some payload =>
    host.resolveMember fan index payload
    return some payload
  | none =>
    match childRun with
    | none =>
      deferEffect (.startChild (fan.id index))
      return none
    | some childRun =>
      let payload := some (rowCompletion childRun).toValue
      markChildDelivered childRun
      host.resolveMember fan index payload
      return some payload

/-- The completions the lost-notify guard finds for placeholders. -/
def deliverMembers (fan : ChildFan) (runs : Nat → Option WorkflowRun) :
    List Nat → Engine (Nat → Option Payload)
  | [] => return fun _ => none
  | index :: rest => do
    let found ← host.deliverMember fan index (runs index)
    let others ← deliverMembers fan runs rest
    return fun other => if other = index then found else others other

/-- Cancel the siblings of a failed member. -/
def cancelSiblings : List String → Engine Unit
  | [] => return ()
  | childId :: rest => do
    deferEffect (.cancelChild childId)
    cancelSiblings rest

/-- Start children whose waits have been registered. -/
def startMembers (fan : ChildFan) : List Nat → Engine Unit
  | [] => return ()
  | index :: rest => do
    deferEffect (.startChild (fan.id index))
    startMembers fan rest

/-- A member was sent and is not settled. -/
def isPlaceholder (row : Option StepCheckpoint) : Bool := row.isSome && !isSettled row

/-- Carry out what a turn of the fan came to. -/
def concludeAll (fan : ChildFan) : FanOutcome → Engine OpEnd
  | .threw error cancelled => do
    cancelSiblings cancelled
    return threwAt (fan.firstSeq + fan.size) (.gather error)
  | .suspended registered => do
    registerChildWaits (registered.map fun index =>
      host.childWait (fan.id index) (fan.firstSeq + index)
        (some (allGroup fan.firstSeq fan.size fan.mode)))
    startMembers fan registered
    return .suspended none
  | .returned outputs => return .observed (.outputs outputs) (fan.firstSeq + fan.size)
  | .settled results => return .observed (.settled results) (fan.firstSeq + fan.size)

/-- `ctx.all` over child workflows. -/
def allChildren (fan : ChildFan) : Engine OpEnd := do
  let members := List.range fan.size
  let rows ← host.readFan fan.firstSeq members
  -- Children without a run, or with a finished one, may have a completion to deliver.
  let placeholders := members.filter fun index => isPlaceholder (rows index)
  let runs ← readRuns fan placeholders
  let deliverable := placeholders.filter fun index =>
    match runs index with
    | some run => isTerminalStatus run.status
    | none => true
  let completions ← host.deliverMembers fan runs deliverable
  host.concludeAll fan (fan.turn rows completions)

/-- Write the pending rows of the steps a turn sends. -/
def sendSteps (fan : StepFan) : List Nat → Engine Unit
  | [] => return ()
  | index :: rest => do
    saveCheckpoint { runId := fan.runId, seq := fan.firstSeq + index, name := fan.step.name
                     kind := .remote, status := .pending, input := fan.inputs.getD index none
                     parallelGroup := some (stepFanGroup fan.firstSeq fan.inputs.length fan.mode) }
    sendSteps fan rest

/-- A member's row that neither ends the turn nor settles nor waits, and is left to `callRemote`. -/
def isHandedOver (fan : StepFan) (policy : RemotePolicy) (row : StepCheckpoint) : Bool :=
  row.name == fan.step.name && row.status != .completed &&
    !(row.status == .pending && policy.stepIsWaiting row)

/-- Decide a member by `callRemote` from its stored row, a bounded number of times. -/
def decideMember (fan : StepFan) (policy : RemotePolicy) (refusals : Nat → Option String)
    (index : Nat) : Nat → Engine RemoteTurn
  | 0 => return .suspended none none false
  | rereads + 1 => do
    let stored ← getCheckpoint fan.runId (fan.firstSeq + index)
    let group := stepFanGroup fan.firstSeq fan.inputs.length fan.mode
    let turn := policy.callRemote fan.runId (fan.firstSeq + index) fan.step
      (fan.inputs.getD index none) (some group) (refusals index) stored
    match turn with
    | .suspended _ (some write) _ =>
      if isPending stored then do
        -- The row may have moved on since it was read: then it is read again.
        if ← saveCheckpointIfPending write then return turn
        else decideMember fan policy refusals index rereads
      else do
        saveCheckpoint write
        return turn
    | _ => return turn

/-- Count a member `callRemote` has decided, or end the turn. -/
def takeDecided (fan : StepFan) (index : Nat) (tally : FanTally) :
    RemoteTurn → Except StepFanOutcome FanTally
  | .returned output => .ok { tally with outputs := tally.outputs ++ [(index, output)] }
  | .suspended wakeAt _ _ =>
    .ok { tally with inFlight := tally.inFlight + 1, wakeAt := earlier tally.wakeAt wakeAt }
  | .failed error =>
    let failure := fan.failureOf index error
    if fan.mode = .failFast then .error (.threw ⟨[failure], fan.inputs.length⟩)
    else .ok { tally with failures := tally.failures ++ [failure] }
  | .nonDeterminism expected recorded => .error (.nonDeterminism expected recorded)
  | .refused message => .error (.refused message)
  | .awaited => .error (.refused "unreachable: a step fan has no liveness timeout")

/-- A member's row among those the turn has read. -/
def lookUp (fan : StepFan) (index : Nat) : Option StepCheckpoint → Engine (Option StepCheckpoint)
  | none => return none
  | some checkpoint =>
    Engine.readCheckpoint fan.runId (fan.firstSeq + index) (some checkpoint)

/-- Look at one member: from the row the turn has read, or by `callRemote` from the stored one. -/
def surveyMember (fan : StepFan) (policy : RemotePolicy) (refusals : Nat → Option String)
    (rereads index : Nat) (tally : FanTally) (row : Option StepCheckpoint) :
    Engine (Except StepFanOutcome FanTally) :=
  if row.any (isHandedOver fan policy) then do
    let turn ← decideMember fan policy refusals index rereads
    return takeDecided fan index tally turn
  else return fan.look policy refusals index row tally

/-- Look at the members in input order, writing what their steps ask for. -/
def surveySteps (fan : StepFan) (policy : RemotePolicy) (refusals : Nat → Option String)
    (rereads : Nat) (rows : FanRows) :
    List Nat → FanTally → Engine (Except (Nat × StepFanOutcome) FanTally)
  | [], tally => return .ok tally
  | index :: rest, tally => do
    let row ← lookUp fan index (rows index)
    match ← surveyMember fan policy refusals rereads index tally row with
    | .error ended => return .error (index, ended)
    | .ok tally => surveySteps fan policy refusals rereads rows rest tally

/-- Carry out what a turn of the step fan came to at a member. -/
def concludeSteps (fan : StepFan) (index : Nat) : StepFanOutcome → Engine OpEnd
  | .threw error => return threwAt (fan.firstSeq + fan.inputs.length) (.gather error)
  | .nonDeterminism expected recorded =>
    return .nonDeterminism (fan.firstSeq + index) expected recorded
  | .refused message => return threwAt (fan.firstSeq + fan.inputs.length) (.failure { message })
  | .suspended wakeAt sent => do
    sendSteps fan sent
    return .suspended wakeAt
  | .returned outputs => return .observed (.outputs outputs) (fan.firstSeq + fan.inputs.length)
  | .settled results => return .observed (.settled results) (fan.firstSeq + fan.inputs.length)

/-- `ctx.all` over a dispatched step whose rows have been read. -/
def runSteps (fan : StepFan) (policy : RemotePolicy) (refusal : Option String) (rereads : Nat)
    (rows : FanRows) : Engine OpEnd := do
  let refusals := fun _ => refusal
  match ← surveySteps fan policy refusals rereads rows (List.range fan.inputs.length) {} with
  | .error (index, ended) => concludeSteps fan index ended
  | .ok tally => concludeSteps fan fan.inputs.length (fan.conclude policy refusals tally)

/-- `ctx.all` over a dispatched step. -/
def allSteps (fan : StepFan) : Engine OpEnd := do
  let name := fan.step.name
  let refuse := fun message =>
    (return threwAt (fan.firstSeq + fan.inputs.length) (.failure { message }) : Engine OpEnd)
  if 0 < fan.step.timeoutMs.getD 0 then
    refuse s!"ctx.all: step \"{name}\" has a liveness timeoutMs; a step fan needs durable steps"
  else if fan.concurrency = some 0 then
    refuse "ctx.all: concurrency must be a positive integer, got 0"
  else if !host.remote.hasTransport then refuse "remote steps require a Transport"
  else
    let stored ← replayCheckpoints host.runId
    let now ← clock
    let refusal ← dispatchRefusal host.runId
    runSteps fan { host.remote with clock := now } refusal (host.rereads + 1) fun index =>
      stored (fan.firstSeq + index)

end CtxHost

end Durable
