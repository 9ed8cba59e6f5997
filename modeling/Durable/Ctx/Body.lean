import Durable.Ctx.All
import Durable.Ctx.Entities

/-! Workflow bodies over the operations of a `ctx`, one turn of a body, and what each operation
records at the positions it claims. -/

namespace Durable

open Engine

/-- One call of a `ctx` operation; `timeoutMs` makes a wait a bounded one. -/
inductive CtxOp where
  | localStep (name : String) (retries : Option Nat)
  | transaction (name : String)
  | now
  | sideEffect
  | step (step : StepDef) (input : Payload)
  | sleep (duration : Nat)
  | sleepUntil (moment : Nat)
  | setEvent (key : String) (value : Payload)
  | upsertSearchAttributes (attrs : Payload)
  | patched (id : String)
  | waitForSignal (token : Token) (timeoutMs : Option Nat)
  | waitForEvent (name : String) (criteria : Option EventMatch) (timeoutMs : Option Nat)
  | waitForRun (target : String) (timeoutMs : Option Nat)
  | onUpdate (name : String) (timeoutMs : Option Nat)
  | webhook
  | webhookWait (minted : Nat) (timeoutMs : Option Nat)
  | breakpoint (label : Option String)
  | child (childId : Option String)
  | startChild (childId : Option String)
  | callEntity (name key op : String) (arg : Payload)
  | signalEntity (name key op : String) (arg : Payload)
  | allChildren (size : Nat) (mode : FanMode) (settle : Bool) (waves : Option Waves)
  | allSteps (step : StepDef) (inputs : List Payload) (mode : FanMode) (settle : Bool)
      (concurrency : Option Nat)

namespace CtxHost

variable (host : CtxHost)

/-- The fan of children a call at a position stands for. -/
def childFan (size : Nat) (mode : FanMode) (settle : Bool) (waves : Option Waves)
    (current : Nat) : ChildFan :=
  { runId := host.runId, firstSeq := current, size, mode, settle, waves }

/-- The fan of steps a call at a position stands for. -/
def stepFan (step : StepDef) (inputs : List Payload) (mode : FanMode) (settle : Bool)
    (concurrency : Option Nat) (current : Nat) : StepFan :=
  { runId := host.runId, firstSeq := current, inputs, step, mode, settle, concurrency }

/-- What a call does at a position. -/
def call (current : Nat) : CtxOp → Engine OpEnd
  | .localStep name retries => host.localStep name retries current
  | .transaction name => host.transaction name current
  | .now => host.localStep "now" none current
  | .sideEffect => host.localStep "sideEffect" none current
  | .step step input => host.step step input current
  | .sleep duration => host.sleep duration current
  | .sleepUntil moment => host.sleepUntil moment current
  | .setEvent key value => host.setEvent key value current
  | .upsertSearchAttributes attrs => host.upsertSearchAttributes attrs current
  | .patched id => host.patched id current
  | .waitForSignal token none => host.waitForSignal token current
  | .waitForSignal token (some timeoutMs) => host.waitForSignalUntil token timeoutMs current
  | .waitForEvent name criteria none => host.waitForEvent name criteria current
  | .waitForEvent name criteria (some timeoutMs) =>
    host.waitForEventUntil name criteria timeoutMs current
  | .waitForRun target none => host.waitForRun target current
  | .waitForRun target (some timeoutMs) => host.waitForRunUntil target timeoutMs current
  | .onUpdate name none => host.onUpdate name current
  | .onUpdate name (some timeoutMs) => host.onUpdateUntil name timeoutMs current
  | .webhook => host.webhook current
  | .webhookWait minted none => host.webhookWait minted current
  | .webhookWait minted (some timeoutMs) => host.webhookWaitUntil minted timeoutMs current
  | .breakpoint label => host.breakpoint label current
  | .child childId => host.child childId current
  | .startChild childId => host.startChild childId current
  | .callEntity name key op arg => host.callEntity name key op arg current
  | .signalEntity name key op arg => host.signalEntity name key op arg current
  | .allChildren size mode settle waves =>
    host.allChildren (host.childFan size mode settle waves current)
  | .allSteps step inputs mode settle concurrency =>
    host.allSteps (host.stepFan step inputs mode settle concurrency current)

/-- The token of an external task. -/
def taskToken (name : String) : Token := .named s!"task:{host.runId}:{name}"

end CtxHost

/-- A deterministic workflow body: what it does next is decided by what it has observed. -/
inductive Body where
  | finished (output : Payload)
  | failed (error : Thrown)
  | continuedAsNew (input : Payload)
  | perform (op : CtxOp) (next : Observed → Body)

/-- What a body does with a task's completion. -/
def Body.unwrapTask (name : String) (next : Observed → Body) : Observed → Body
  | .returned payload =>
    match unwrapCompletion s!"task \"{name}\"" payload with
    | .ok value => next (.returned value)
    | .error error => next (.threw (.failure error))
  | other => next other

/-- `ctx.task`: a checkpointed dispatch, then a wait for the task's completion. -/
def Body.task (host : CtxHost) (name : String) (retries : Option Nat) (next : Observed → Body) :
    Body :=
  .perform (.localStep ("task:dispatch:" ++ name) retries) fun
    | .returned _ =>
      .perform (.waitForSignal (host.taskToken name) none) (Body.unwrapTask name next)
    | other => next other

/-- How a turn of a body ends. -/
inductive TurnEnd where
  | returned (output : Payload)
  | threw (error : Thrown)
  | continuedAsNew (input : Payload)
  | suspended (wakeAt : Option Nat)
  | nonDeterminism (seq : Nat) (expected recorded : String)
deriving Repr, DecidableEq

/-- One turn of a body: it is run from its start, each operation at the next position. -/
def Body.turn (host : CtxHost) : Body → Nat → Engine TurnEnd
  | .finished output, _ => return .returned output
  | .failed error, _ => return .threw error
  | .continuedAsNew input, _ => return .continuedAsNew input
  | .perform op next, current => do
    match ← host.call current op with
    | .observed result position => (next result).turn host position
    | .suspended wakeAt => return .suspended wakeAt
    | .nonDeterminism seq expected recorded => return .nonDeterminism seq expected recorded

/-- What a turn goes on with after an operation has ended. -/
def Body.resume (host : CtxHost) (next : Observed → Body) : OpEnd → Engine TurnEnd
  | .observed result position => (next result).turn host position
  | .suspended wakeAt => return .suspended wakeAt
  | .nonDeterminism seq expected recorded => return .nonDeterminism seq expected recorded

/-- A turn performs an operation, and goes on with how it ended. -/
theorem Body.turn_perform (host : CtxHost) (op : CtxOp) (next : Observed → Body) (current : Nat) :
    (Body.perform op next).turn host current = host.call current op >>= Body.resume host next := by
  rw [Body.turn]
  congr 1

/-- The identity of what an operation records at a position. -/
inductive Owner where
  | recorded (kind : StepKind) (name : String)
  /-- A checkpoint of a breakpoint, which its resumption records under another name. -/
  | paused (pending resumed : String)
  | timer
  /-- A patch marker, whose position goes back to a checkpoint that is none. -/
  | marker (id : String)

/-- The name an operation expects at a position. -/
def Owner.name : Owner → String
  | recorded _ name => name
  | paused pending _ => pending
  | timer => "sleep"
  | marker id => CtxHost.patchMarker id

/-- A checkpoint is one the operation itself records, or one it gives the position back to. -/
def Owner.admits (row : StepCheckpoint) : Owner → Bool
  | recorded kind name => row.kind == kind && row.name == name
  | paused pending resumed => row.kind == .signal && (row.name == pending || row.name == resumed)
  | timer => row.kind == .sleep
  | marker id =>
    (row.kind == .local && row.name == CtxHost.patchMarker id) ||
      !CtxHost.isPatchMarker row.name

namespace CtxOp

/-- What a call at a position records at one of the positions it reads. -/
def ownerAt (host : CtxHost) (current seq : Nat) : CtxOp → Owner
  | localStep name _ => .recorded .local name
  | transaction name => .recorded .local name
  | now => .recorded .local "now"
  | sideEffect => .recorded .local "sideEffect"
  | step dispatched _ => .recorded .remote dispatched.name
  | sleep _ => .timer
  | sleepUntil _ => .timer
  | setEvent key _ => .recorded .local ("event:" ++ key)
  | upsertSearchAttributes _ => .recorded .local "searchAttributes"
  | patched id => .marker id
  | waitForSignal token none => .recorded .signal (signalName token)
  | waitForSignal token (some _) =>
    if seq = current then .timer else .recorded .signal (signalName token)
  | waitForEvent name criteria none =>
    .recorded .signal (signalName (eventToken name criteria host.runId current))
  | waitForEvent name criteria (some _) =>
    if seq = current then .timer
    else .recorded .signal (signalName (eventToken name criteria host.runId (current + 1)))
  | waitForRun target none =>
    .recorded .signal (signalName (runWaitToken target host.runId current))
  | waitForRun target (some _) =>
    if seq = current then .timer
    else .recorded .signal (signalName (runWaitToken target host.runId (current + 1)))
  | onUpdate name none => .recorded .signal (signalName (host.updateToken name))
  | onUpdate name (some _) =>
    if seq = current then .timer else .recorded .signal (signalName (host.updateToken name))
  | webhook => .timer
  | webhookWait minted none => .recorded .signal (signalName (host.webhookToken minted))
  | webhookWait minted (some _) =>
    if seq = minted then .recorded .signal (signalName (host.webhookToken minted)) else .timer
  | breakpoint label =>
    .paused (CtxHost.breakpointName label) (signalName (breakpointToken host.runId current))
  | child childId => .recorded .signal (childName (host.childIdAt childId current))
  | startChild childId => .recorded .local ("spawn:" ++ host.childIdAt childId current)
  | callEntity _ _ _ _ => .recorded .signal (signalName (host.entityReplyToken current))
  | signalEntity name key _ _ => .recorded .local ("entitysig:" ++ name ++ ":" ++ key)
  | allChildren size mode settle waves =>
    .recorded .signal (childName ((host.childFan size mode settle waves current).id
      (seq - current)))
  | allSteps dispatched _ _ _ _ => .recorded .remote dispatched.name

/-- The operation compares the name of a checkpoint it finds with its own. -/
def checksName (row : StepCheckpoint) : CtxOp → Bool
  | localStep .. | transaction _ | now | sideEffect | step .. | setEvent ..
  | upsertSearchAttributes _ | allSteps .. => true
  | callEntity .. => row.status != .completed
  | patched _ => CtxHost.isPatchMarker row.name
  | _ => false

end CtxOp

end Durable
