import Durable.Ctx.Children
import Durable.Ctx.Waits
import Durable.Engine.Settle
import Durable.Interleaving.Process
import Durable.Lease.Board

/-! The turn of a run that continues as new, and what goes on beside it. -/

namespace Durable

open Interleaving

/-- The concurrency quota of one start. -/
structure ConcurrencyQuota where
  key : String
  limit : Int
  countStatuses : Option (List RunStatus) := none

/-- A workflow's standing quota; its limit may depend on the key. -/
structure ConcurrencyConfig where
  /-- The key of an input; without one, a start is not limited. -/
  key : Payload → Option String
  limit : String → Int
  countStatuses : Option (List RunStatus) := none

/-- How the runs of a singleton workflow are kept apart. -/
structure SingletonConfig where
  key : Payload → String
  limit : Option Int := none
  maxQueueDepth : Option Int := none

/-- What an engine knows of a workflow when it starts a run of it. -/
structure RegisteredWorkflow where
  name : String
  tags : List String := []
  validateInput : Payload → Option StepError := fun _ => none
  concurrency : Option ConcurrencyConfig := none
  singleton : Option SingletonConfig := none

/-- The statuses a quota counts unless it names others. -/
def defaultConcurrencyStatuses : List RunStatus := [.pending, .running, .suspended, .blocked]

/-- The tag by which the runs of a quota are counted. -/
def concurrencyTag (key : String) : String := "concurrency:" ++ key

/-- The tag by which the runs of a singleton key are counted. -/
def singletonTag (config : SingletonConfig) (input : Payload) : String :=
  "singleton:" ++ config.key input

/-- `resolveConcurrency`, for a start without a quota of its own. -/
def resolveConcurrency (config : Option ConcurrencyConfig) (input : Payload) :
    Option ConcurrencyQuota :=
  config.bind fun config => (config.key input).map fun key =>
    { key, limit := config.limit key, countStatuses := config.countStatuses }

/-- The runs a count is about. -/
structure CountQuery where
  tag : String
  workflow : Option String := none
  statuses : List RunStatus
deriving Repr, DecidableEq

/-- What a quota counts. -/
def ConcurrencyQuota.query (quota : ConcurrencyQuota) : CountQuery where
  tag := concurrencyTag quota.key
  statuses := quota.countStatuses.getD defaultConcurrencyStatuses

/-- What the back-pressure of a singleton counts. -/
def SingletonConfig.query (config : SingletonConfig) (workflow : String) (input : Payload) :
    CountQuery where
  tag := singletonTag config input
  workflow := some workflow
  statuses := defaultConcurrencyStatuses

/-- How many runs a singleton's key may have, if that is bounded. -/
def SingletonConfig.cap (config : SingletonConfig) : Option Int :=
  config.maxQueueDepth.map fun depth => config.limit.getD 1 + depth

/-- How many runs a count finds. -/
def Store.countRuns (store : Store) (query : CountQuery) : Nat :=
  store.runs.values.countP fun run =>
    run.tags.contains query.tag && query.workflow.all (run.workflow == ·) &&
      query.statuses.contains run.status

/-- The failure of a start over its quota. -/
def concurrencyLimitError (workflow : String) (quota : ConcurrencyQuota) (active : Nat) :
    StepError :=
  let limit := toString quota.limit
  let head := "concurrency limit reached for key \"" ++ quota.key ++ "\" (" ++ toString active
  { message := head ++ "/" ++ limit ++ " in flight); " ++ workflow ++
      " was not started — retry later" }

/-- The failure of a start behind a full queue. -/
def singletonQueueFullError (workflow key : String) (maxQueueDepth : Int) : StepError :=
  { message := "singleton queue for " ++ workflow ++ " key \"" ++ key ++
      "\" is full (maxQueueDepth=" ++ toString maxQueueDepth ++ "); retry later" }

/-- What a turn or a path beside it calls. -/
inductive ContinueCall where
  | store (op : StoreOp)
  | tryLockRun (runId owner : String) (leaseUntilMs nowMs : Nat)
  | renewRunLock (runId owner : String) (leaseUntilMs : Nat)
  | releaseRunLock (runId : String) (owner : Option String)
  | leaseLostRuns (instanceId : String)
  | countRuns (query : CountQuery)
  | pickUp (runId : String)

/-- A call, and the instance whose turn makes it in order to hand its run on. -/
structure ContinueOp where
  who : Option String := none
  call : ContinueCall

/-- What a call answers. -/
def ContinueCall.Answer : ContinueCall → Type
  | store op => op.Answer
  | tryLockRun .. => Bool
  | renewRunLock .. => Bool
  | releaseRunLock .. => Unit
  | leaseLostRuns _ => Bool
  | countRuns _ => Nat
  | pickUp _ => Unit

/-- What an operation answers, whoever calls it. -/
abbrev ContinueOp.Answer (op : ContinueOp) : Type := op.call.Answer

/-- A program of a turn, or beside it. -/
abbrev ContinueProgram (α : Type) := Program ContinueOp ContinueOp.Answer α

/-- The store, what the instances have noticed, and which runs have been taken up. -/
structure ContinueBoard where
  store : Store
  /-- The instances that have found the lease of their turn gone. -/
  lost : List String := []
  /-- The runs that were pending and have been taken up for execution. -/
  pickedUp : List String := []
  /-- A turn has handed on a run that was cancelled, or that another instance owned. -/
  trespassed : Bool := false

/-- How a turn, or a path beside it, has ended. -/
inductive ContinueEnd where
  | refused
  | echoed
  | cancelled
  /-- The start of the continuation was rejected, and the error goes through the turn. -/
  | rejected (error : StepError)
  | handedOff
  | crashed
  | beside

namespace ContinueProgram

/-- Call an operation. -/
def perform (who : Option String) (call : ContinueCall) : ContinueProgram call.Answer :=
  Program.call ⟨who, call⟩ Program.done

/-- Whether an instance has found its lease gone. -/
def leaseLostRuns (instanceId : String) : ContinueProgram Bool :=
  perform none (.leaseLostRuns instanceId)

/-- Take a lease that is free. -/
def tryLockRun (runId owner : String) (leaseUntilMs nowMs : Nat) : ContinueProgram Bool :=
  perform none (.tryLockRun runId owner leaseUntilMs nowMs)

/-- Extend a lease that its owner still holds. -/
def renewRunLock (runId owner : String) (leaseUntilMs : Nat) : ContinueProgram Bool :=
  perform none (.renewRunLock runId owner leaseUntilMs)

/-- Release a lease. -/
def releaseRunLock (runId : String) (owner : Option String) : ContinueProgram Unit :=
  perform none (.releaseRunLock runId owner)

/-- Count runs for a start. -/
def countRuns (who : Option String) (query : CountQuery) : ContinueProgram Nat :=
  perform who (.countRuns query)

/-- Take up a run that is pending. -/
def pickUp (who : Option String) (runId : String) : ContinueProgram Unit :=
  perform who (.pickUp runId)

/-- Work on the store. -/
def asked {α : Type} (who : Option String) : Engine α → ContinueProgram α
  | .done result => Program.done result
  | .call op next => Program.call ⟨who, .store op⟩ fun answer => asked who (next answer)

end ContinueProgram

/-- A run whose turns throw `ContinueAsNew`, and what they throw it with. -/
structure ContinueSite where
  runId : String
  registered : RegisteredWorkflow
  input : Payload

/-- One turn of the run. -/
structure ContinueTurn where
  instanceId : String
  leaseMs : Nat
  /-- The turn goes on under a lease that its instance has already. -/
  reentered : Bool := false
  settings : TurnSettings := {}
  run : WorkflowRun
  tags : Option (List String) := none
  body : Engine Unit := .done ()
  compensations : Engine Unit := .done ()

namespace ContinueSite

variable (site : ContinueSite)

/-- The id of the continuation. -/
def nextId : String := nextContinuationId site.runId

/-- The quota of the continuation's start. -/
def quota : Option ConcurrencyQuota := resolveConcurrency site.registered.concurrency site.input

/-- The tags the continuation is created with. -/
def startTags : List String :=
  let minted :=
    (site.registered.singleton.map fun config => singletonTag config site.input).toList ++
      (site.quota.map fun quota => concurrencyTag quota.key).toList
  (site.registered.tags ++ minted).dedup.filter fun tag =>
    tag ∉ singletonReservedTags ∧ tag ≠ childDeliveredTag

/-- The row the continuation is created with. -/
def startRow : WorkflowRun where
  id := site.nextId
  workflow := site.registered.name
  status := .pending
  input := site.input
  tags := site.startTags

section Start

open ContinueProgram

variable (who : Option String)

/-- Create the continuation, or converge on the one that exists. -/
def persist : ContinueProgram (Except StepError RunStatus) := do
  let created ← asked who (Engine.createRun site.startRow)
  if created then return .ok .pending
  else
    match ← asked who (Engine.getRun site.nextId) with
    | some winner => return .ok winner.status
    | none => return .error { message := "create failed" }

/-- `assertCapacity`: reject a start that would grow the backlog past its bound. -/
def assertCapacity (go : ContinueProgram (Except StepError RunStatus)) :
    ContinueProgram (Except StepError RunStatus) :=
  match site.registered.singleton with
  | none => go
  | some config =>
    match config.maxQueueDepth with
    | none => go
    | some depth => do
      let queued ← countRuns who (config.query site.registered.name site.input)
      if config.limit.getD 1 + depth ≤ (queued : Int) then
        return .error (singletonQueueFullError site.registered.name (config.key site.input) depth)
      else go

/-- `assertConcurrency`: reject a start that would exceed its quota. -/
def assertConcurrency (go : ContinueProgram (Except StepError RunStatus)) :
    ContinueProgram (Except StepError RunStatus) :=
  match site.quota with
  | none => go
  | some quota =>
    if quota.limit ≤ 0 then
      return .error (concurrencyLimitError site.registered.name quota 0)
    else do
      let active ← countRuns who quota.query
      if quota.limit ≤ (active : Int) then
        return .error (concurrencyLimitError site.registered.name quota active)
      else go

/-- `startCore`, for the continuation; its dispatch is the handoff's own. -/
def startCore : ContinueProgram (Except StepError RunStatus) :=
  match site.registered.validateInput site.input with
  | some error => return .error error
  | none =>
    let start := site.assertConcurrency who (site.assertCapacity who (site.persist who))
    -- A quota or a singleton must not reject a start for a run that exists already.
    if site.registered.singleton.isSome || site.registered.concurrency.isSome then do
      match ← asked who (Engine.getRun site.nextId) with
      | some prior => return .ok prior.status
      | none => start
    else start

end Start

section Turns

open ContinueProgram

/-- The write that completes a run which has been continued. -/
def completedPatch : RunPatch :=
  { status := some .completed, output := some none, error := some none }

variable (turn : ContinueTurn)

/-- `handoffRun`: converge on the continuation, and take it up unless somebody has. -/
def handoffRun (who : Option String) : ContinueProgram Unit := do
  match ← site.startCore who with
  | .ok .pending => pickUp who site.nextId
  | _ => return ()

/-- `compensateAndCancel`, for a turn that found its run's cancellation requested. -/
def compensateAndCancelTurn : ContinueProgram ContinueEnd := do
  if ← leaseLostRuns turn.instanceId then
    asked none (discard (echoCurrentStatus site.runId))
    return .echoed
  else
    asked none turn.compensations
    asked none (discard (writeCancelled turn.settings.marker { turn.run with id := site.runId }))
    return .cancelled

/-- Persist the continuation, complete the run, and see to it that the continuation is taken up. -/
def handOn (instanceId : String) : ContinueProgram ContinueEnd := do
  match ← site.startCore (some instanceId) with
  | .error error => return .rejected error
  | .ok _ =>
    asked (some instanceId) (discard (Engine.updateRun site.runId completedPatch))
    site.handoffRun (some instanceId)
    return .handedOff

/-- Hand the run on, unless its cancellation has been requested. -/
def handOnUnlessCancelled : ContinueProgram ContinueEnd := do
  if ← asked none (takeCancelIntent turn.settings site.runId) then
    site.compensateAndCancelTurn turn
  else site.handOn turn.instanceId

/-- The end of a turn whose body has thrown `ContinueAsNew`. -/
def continueAsNew : ContinueProgram ContinueEnd := do
  if ← leaseLostRuns turn.instanceId then
    asked none (discard (echoCurrentStatus site.runId))
    return .echoed
  else site.handOnUnlessCancelled turn

/-- A turn under its lease; whatever it comes to, it lets go of the lease. -/
def runTurn : ContinueProgram ContinueEnd := do
  asked none (markStarted { turn.run with id := site.runId } turn.tags)
  asked none turn.body
  let ended ← site.continueAsNew turn
  releaseRunLock site.runId (some turn.instanceId)
  return ended

/-- One turn of the run, if it gets the lease. -/
def turnProgram : ContinueProgram ContinueEnd :=
  if turn.reentered then site.runTurn turn
  else do
    let now ← asked none Engine.clock
    if ← tryLockRun site.runId turn.instanceId (now + turn.leaseMs) now then
      site.runTurn turn
    else return .refused

end Turns

/-- `cancel`, for this run. -/
def cancelRun (marker : Option String) (compensate : Bool) : Engine Unit := do
  match ← Engine.getRun site.runId with
  | none => return ()
  | some run =>
    if isTerminalStatus run.status then return ()
    else if compensate ∧ (run.status = .suspended ∨ run.status = .running) then
      Engine.bufferSignal (cancelToken site.runId) (some (.bool true))
    else discard (writeCancelled marker { run with id := site.runId })

/-- `recoverIncomplete`, for this run. -/
def recoverRun (marker : Option String) (orphan : Orphan) : Engine Unit := do
  match ← Engine.getRun site.runId with
  | none => return ()
  | some run =>
    if run.status = .running then
      match orphan with
      | .dispatched wakeAt =>
        discard (Engine.updateRunIf site.runId [.running]
          { status := some .suspended, wakeAt := some wakeAt })
      | .poisoned error =>
        discard (deadLetterLeased marker { run with id := site.runId } [.running] error)
      | .recoverable =>
        let _ ← Engine.updateRun site.runId
          { recoveryAttempts := some (run.recoveryAttempts + 1) }
        discard (Engine.updateRunIf site.runId [.running] { status := some .pending })
    else return ()

/-- A path beside the turns, over the store. -/
def besideProgram (path : Engine Unit) : ContinueProgram ContinueEnd := do
  ContinueProgram.asked none path
  return .beside

/-- What a call writes the row of a run with, if it does. -/
def patchOf (runId : String) : ContinueCall → Option (Option (List RunStatus) × RunPatch)
  | .store (.updateRun written patch) => if written = runId then some (none, patch) else none
  | .store (.updateRunIf written expected patch) =>
    if written = runId then some (some expected, patch) else none
  | _ => none

/-- Only the turns complete the run, it does not fail, and its continuation runs by itself. -/
def Open (call : ContinueCall) : Prop :=
  (∀ guard patch, patchOf site.runId call = some (guard, patch) →
    patch.status ≠ some .completed ∧ patch.status ≠ some .failed) ∧
  ∀ guard patch, patchOf site.nextId call = some (guard, patch) → patch.status = none

/-- How far a turn has come with handing its run on. -/
inductive Phase where
  | opened
  | persisted
  | handed
  | picked
deriving Repr, DecidableEq

/-- What a turn calls in a phase. -/
def allows : Phase → ContinueOp → Prop
  | .opened, op => site.Open op.call
  | .persisted, op => op.call = .store (.updateRun site.runId completedPatch) ∨
      op.call = .store (.getRun site.nextId)
  | .handed, op => op.call = .store (.getRun site.nextId) ∨
      op.call = .store (.createRun site.startRow) ∨ op.call = .pickUp site.nextId
  | .picked, op => site.Open op.call

/-- A count is answered below the bound it is made for. -/
def Below (query : CountQuery) (answer : Nat) : Prop :=
  (∀ quota ∈ site.quota, query = quota.query → (answer : Int) < quota.limit) ∧
    ∀ config ∈ site.registered.singleton, ∀ cap ∈ config.cap,
      query = config.query site.registered.name site.input → (answer : Int) < cap

/-- A start is within its bounds, and the continuation is there once it has been seen. -/
def expects : Phase → (op : ContinueOp) → op.Answer → Prop
  | .opened, ⟨some _, .countRuns query⟩, answer => site.Below query answer
  | .persisted, ⟨_, .store (.getRun runId)⟩, answer => runId = site.nextId → answer ≠ none
  | .handed, ⟨_, .store (.getRun runId)⟩, answer => runId = site.nextId → answer ≠ none
  | .handed, ⟨_, .store (.createRun run)⟩, answer => run.id = site.nextId → answer = false
  | _, _, _ => True

/-- The phase after an operation has been answered. -/
def advance : Phase → (op : ContinueOp) → op.Answer → Phase
  | .opened, ⟨some _, .store (.getRun runId)⟩, some _ =>
    if runId = site.nextId then .persisted else .opened
  | .opened, ⟨some _, .store (.createRun run)⟩, _ =>
    if run.id = site.nextId then .persisted else .opened
  | .persisted, ⟨_, .store (.updateRun ..)⟩, _ => .handed
  | .handed, ⟨_, .store (.getRun _)⟩, some run => if run.status = .pending then .handed else .picked
  | .handed, ⟨_, .pickUp _⟩, _ => .picked
  | phase, _, _ => phase

/-- The monitor of the turns and of the paths beside them. -/
def monitor : Monitor ContinueOp ContinueOp.Answer Phase where
  allows := site.allows
  expects := site.expects
  advance := site.advance

/-- A turn that handed its run on has seen the continuation taken up, and none is rejected. -/
def Ended : Phase → ContinueEnd → Prop
  | _, .rejected _ => False
  | phase, .handedOff => phase = .picked
  | _, _ => True

/-- What a call does to the board, and what it answers. -/
def performOn (board : ContinueBoard) : (call : ContinueCall) → ContinueBoard × call.Answer
  | .store op =>
    let done := board.store.exec op
    ({ board with store := done.1 }, done.2)
  | .tryLockRun runId owner leaseUntilMs nowMs =>
    let done := board.store.tryLockRun runId owner leaseUntilMs nowMs
    ({ board with store := done.1 }, done.2)
  | .renewRunLock runId owner leaseUntilMs =>
    let done := board.store.renewRunLock runId owner leaseUntilMs
    ({ board with store := done.1 }, done.2)
  | .releaseRunLock runId owner =>
    ({ board with store := board.store.releaseRunLock runId owner }, ())
  | .leaseLostRuns instanceId => (board, board.lost.contains instanceId)
  | .countRuns query => (board, board.store.countRuns query)
  | .pickUp runId =>
    match board.store.runs.get runId with
    | none => (board, ())
    | some run =>
      if run.status = .pending then
        ({ board with
          store := board.store.setRun { run with id := runId, status := .running }
          pickedUp := runId :: board.pickedUp }, ())
      else (board, ())

/-- A call creates the continuation, or completes the run. -/
def handsOn (store : Store) : ContinueCall → Bool
  | .store (.createRun run) => run.id == site.nextId && (store.runs.get site.nextId).isNone
  | .store (.updateRun runId patch) =>
    runId == site.runId && patch.status == some .completed &&
      (store.runs.get site.runId).any (·.status != .completed)
  | _ => false

/-- A turn hands on a run that is cancelled, or that another instance owns. -/
def trespasses (store : Store) (op : ContinueOp) : Bool :=
  op.who.any fun instanceId => site.handsOn store op.call &&
    (store.runs.get site.runId).any fun run =>
      run.status == .cancelled || run.lockedBy.any (· != instanceId)

/-- What an operation does, and what it answers. -/
def exec (board : ContinueBoard) (op : ContinueOp) : ContinueBoard × op.Answer :=
  let done := performOn board op.call
  let trespassed := board.trespassed || site.trespasses board.store op
  ({ done.1 with trespassed := trespassed }, done.2)

/-- What happens around the turns and the paths. -/
inductive Around where
  | elapse (passed : Nat)
  /-- An instance finds the lease of its turn gone, or its turn is over. -/
  | notice (lost : List String)
  | poll (runId : String)
  | execute (status : RunStatus)

/-- What that does to the board. -/
def drift (board : ContinueBoard) : Around → ContinueBoard
  | .elapse passed => { board with store := board.store.elapse passed }
  | .notice lost => { board with lost }
  | .poll runId => if runId = site.runId then board else (performOn board (.pickUp runId)).1
  | .execute status =>
    if site.nextId ∈ board.pickedUp then
      { board with store := (board.store.exec (.updateRun site.nextId { status := some status })).1 }
    else board

/-- A start of the continuation is within its quota and its backlog's bound. -/
def HasRoom (store : Store) : Prop :=
  (∀ quota ∈ site.quota, (store.countRuns quota.query : Int) < quota.limit) ∧
    ∀ config ∈ site.registered.singleton, ∀ cap ∈ config.cap,
      (store.countRuns (config.query site.registered.name site.input) : Int) < cap

instance (store : Store) : Decidable (site.HasRoom store) :=
  inferInstanceAs (Decidable ((∀ quota ∈ site.quota, _) ∧ ∀ config ∈ site.registered.singleton,
    ∀ cap ∈ config.cap, _))

/-- A status is written over that of the run: an open one, and not for good by recovery. -/
def writesOpen (store : Store) (call : ContinueCall) : Bool :=
  (patchOf site.runId call).all fun written =>
    written.2.status.all fun status =>
      (store.runs.get site.runId).all fun run =>
        !written.1.all (·.contains run.status) ||
          (status != .dead &&
            (!isTerminalStatus run.status || (status == .completed && run.status == .completed)))

/-- A run that is created under the continuation's id is the continuation. -/
def createsOwn (store : Store) : ContinueCall → Bool
  | .store (.createRun run) =>
    run.id != site.nextId || (store.runs.get site.nextId).isSome ||
      (run.status == .pending && run.input == site.input)
  | _ => true

/-- A count is made for the start of the continuation. -/
def counts : ContinueOp → Bool
  | ⟨some _, .countRuns _⟩ => true
  | _ => false

/-- A step finds room where it counts, the run its own and open where it writes, and the id free. -/
def clear : Admission ContinueBoard ContinueOp Phase where
  step board _ _ op := (counts op = true → site.HasRoom board.store) ∧
    site.trespasses board.store op = false ∧ site.writesOpen board.store op.call = true ∧
      site.createsOwn board.store op.call = true

instance (board : ContinueBoard) (phase : Phase) (others : List Phase) (op : ContinueOp) :
    Decidable (site.clear.step board phase others op) :=
  inferInstanceAs (Decidable ((_ → _) ∧ _ ∧ _ ∧ _))

instance (board : ContinueBoard) (phase : Phase) (others : List Phase) :
    Decidable (site.clear.crash board phase others) :=
  inferInstanceAs (Decidable True)

/-- A process of the system. -/
abbrev Proc := Process ContinueOp ContinueOp.Answer Phase ContinueEnd

/-- What a crash leaves of a turn; recovery is a turn of its own. -/
def crash (process : Proc) : Option Proc :=
  some { process with phase := .opened, rest := .done .crashed, again := none }

/-- Turns of the run and paths beside them, one store operation at a time. -/
def system : System ContinueBoard ContinueOp Proc Around ContinueOp.Answer :=
  processes site.monitor site.exec crash fun around board => site.drift board around

/-- Work on the store that is none of the turns'. -/
def Beside {α : Type} (work : Engine α) : Prop := work.Uses fun op => site.Open (.store op)

/-- The turns of the run, and the paths beside them. -/
inductive Path : ContinueProgram ContinueEnd → Prop where
  | turn {turn : ContinueTurn} (bodied : site.Beside turn.body)
      (compensated : site.Beside turn.compensations) : Path (site.turnProgram turn)
  | cancel (marker : Option String) (compensate : Bool) :
      Path (besideProgram (site.cancelRun marker compensate))
  | timeout (marker : Option String) (run : WorkflowRun) :
      Path (besideProgram (discard (sweepTimeout marker { run with id := site.runId })))
  | recovery (marker : Option String) (orphan : Orphan) :
      Path (besideProgram (site.recoverRun marker orphan))
  | takeOver (owner : String) (leaseUntilMs nowMs : Nat) :
      Path (ContinueProgram.tryLockRun site.runId owner leaseUntilMs nowMs >>=
        fun _ => .done .beside)
  | renew (owner : String) (leaseUntilMs : Nat) :
      Path (ContinueProgram.renewRunLock site.runId owner leaseUntilMs >>=
        fun _ => .done .beside)
  | beside {path : Engine Unit} (uses : site.Beside path) : Path (besideProgram path)

/-- The run is open, and nothing has been created under its continuation's id. -/
structure Admitted (store : Store) : Prop where
  openRun : ∃ run, store.runs.get site.runId = some run ∧ isTerminalStatus run.status = false
  fresh : store.runs.get site.nextId = none

/-- The input is valid, and the quota has room for one run at least. -/
structure Accepts : Prop where
  valid : site.registered.validateInput site.input = none
  positive : ∀ quota ∈ site.quota, 0 < quota.limit

/-- The chain neither breaks nor forks. -/
structure Unbroken (config : Config ContinueBoard Proc) : Prop where
  carries : ∀ row, config.shared.store.runs.get site.nextId = some row → row.input = site.input
  continued : ∀ run, config.shared.store.runs.get site.runId = some run →
    run.status = .completed → (config.shared.store.runs.get site.nextId).isSome = true
  settles : ∀ run, config.shared.store.runs.get site.runId = some run →
    isTerminalStatus run.status = true → run.status = .completed ∨ run.status = .cancelled
  /-- No turn has handed on a run that was cancelled or owned by another instance. -/
  fenced : config.shared.trespassed = false
  accepted : ∀ process ∈ config.pool, ∀ error, process.rest ≠ .done (.rejected error)
  /-- A turn that went through has completed the run, and its continuation is taken up. -/
  handedOff : ∀ process ∈ config.pool, process.rest = .done .handedOff →
    (∃ run, config.shared.store.runs.get site.runId = some run ∧ run.status = .completed) ∧
      (∃ row, config.shared.store.runs.get site.nextId = some row ∧ row.input = site.input) ∧
        site.nextId ∈ config.shared.pickedUp

/-- Turns and paths over a store. -/
def atStart (store : Store) (programs : List (ContinueProgram ContinueEnd)) :
    Config ContinueBoard Proc where
  shared := { store }
  pool := programs.map fun program => { phase := .opened, rest := program }

end ContinueSite

end Durable
