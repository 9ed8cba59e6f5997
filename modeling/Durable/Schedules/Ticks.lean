import Durable.Schedules.Client

/-! The config schedules, and the tick of the worker loop that starts their windows. -/

namespace Durable

open Interleaving

/-- What a config schedule's `workflow` names. -/
inductive ScheduleWorkflowRef where
  | named (name : String)
  /-- A class, and the name of its `static workflow` if it has one. -/
  | workflowClass (className : String) (registered : Option String)
  | lazyImport
deriving DecidableEq

/-- A recurring start of a workflow, on a fixed interval or a cron. -/
structure ScheduledWorkflow where
  key : String
  workflow : ScheduleWorkflowRef
  input : Payload := none
  everyMs : Option { ms : Nat // 0 < ms } := none
  cron : Option String := none
  timezone : Option String := none
  paused : Bool := false
  overlap : Overlap := .allow
  jitter : Nat := 0
  /-- How many earlier windows are caught up at most, if any are. -/
  maxCatchup : Option Nat := none
  «namespace» : Option String := none
deriving DecidableEq

/-- The registered name of the workflow a schedule starts. -/
def resolveSchedule (s : ScheduledWorkflow) : Except String String :=
  let key := s.key
  match s.workflow with
  | .named name => .ok name
  | .lazyImport =>
    .error (s!"schedule \"{key}\" names its workflow with a lazy import — "
      ++ "resolve the list with resolveSchedules() first")
  | .workflowClass _ (some name) => .ok name
  | .workflowClass className none =>
    .error (s!"workflow class {className} has no registered name — "
      ++ "does it declare `static workflow = \x7b name \x7d`?")

/-- The id of a fixed-interval schedule's run for the window at a time. -/
def scheduledRunId (key : String) (everyMs : { ms : Nat // 0 < ms }) (nowMs : Nat) : String :=
  windowRunId key (nowMs / everyMs.val)

section Windows

variable (parser : CronParser)

/-- The run id of a schedule's current window. -/
def scheduleRunIdAt (s : ScheduledWorkflow) (nowMs : Nat) : Except String String :=
  let key := s.key
  match s.cron, s.everyMs with
  | some expr, _ => (prevCronFireMs parser expr nowMs s.timezone).map (windowRunId key)
  | none, some everyMs => .ok (scheduledRunId key everyMs nowMs)
  | none, none => .error s!"schedule \"{key}\" needs either \"everyMs\" or \"cron\""

/-- The fires of a cron expression before one of its fires, the latest first. -/
def priorFires (expr : String) (timezone : Option String) : Nat → Nat → Except String (List Nat)
  | 0, _ => .ok []
  | count + 1, cursor => do
    -- The last fire at or before the millisecond ahead of the cursor.
    let before ← parser.prev expr cursor (timezone.getD "UTC")
    return before :: (← priorFires expr timezone count before)

/-- The run ids a schedule should have fired by a time, the oldest window first. -/
def scheduleRunIdsAt (s : ScheduledWorkflow) (nowMs : Nat) : Except String (List String) := do
  let current ← scheduleRunIdAt parser s nowMs
  let maxCatchup := s.maxCatchup.getD 0
  if maxCatchup = 0 then
    return [current]
  else match s.everyMs, s.cron with
    | some everyMs, _ =>
      let bucket := nowMs / everyMs.val
      let oldest := bucket - maxCatchup
      return (List.range' oldest (bucket - oldest)).map (windowRunId s.key) ++ [current]
    | none, some expr => do
      let cursor ← prevCronFireMs parser expr nowMs s.timezone
      let prior ← priorFires parser expr s.timezone maxCatchup cursor
      return (prior.map (windowRunId s.key)).reverse ++ [current]
    | none, none => return [current]

end Windows

/-- The ids of a list, each where it first occurs. -/
def firstOccurrences : List String → List String
  | [] => []
  | runId :: rest => runId :: (firstOccurrences rest).filter (· ≠ runId)

/-- What a process remembers of the schedules it ticks, for one engine. -/
structure SchedulerMemory where
  settledRunIds : Table String (List String) := .empty
  /-- By schedule key: the windows put off, and when each fires. -/
  jitterFireAt : Table String (List (String × Nat)) := .empty
deriving DecidableEq

namespace SchedulerMemory

/-- The run ids noted as existing for a schedule. -/
def settled (memory : SchedulerMemory) (key : String) : List String :=
  (memory.settledRunIds.get key).getD []

/-- The windows put off for a schedule, and when each fires. -/
def deferred (memory : SchedulerMemory) (key : String) : List (String × Nat) :=
  (memory.jitterFireAt.get key).getD []

/-- The windows put off for a schedule. -/
def deferredWindows (memory : SchedulerMemory) (key : String) : List String :=
  (memory.deferred key).map Prod.fst

/-- Note a run id as existing. -/
def remember (memory : SchedulerMemory) (key runId : String) : SchedulerMemory :=
  match memory.settledRunIds.get key with
  | none => { memory with settledRunIds := memory.settledRunIds.set key [runId] }
  | some seen =>
    let seen := if runId ∈ seen then seen else seen ++ [runId]
    -- Past sixty-four ids only the last one is kept.
    let kept := if 64 < seen.length then [runId] else seen
    { memory with settledRunIds := memory.settledRunIds.set key kept }

end SchedulerMemory

/-- A run that a schedule's window started. -/
structure ScheduledRun where
  workflow : String
  input : Payload
  «namespace» : Option String
  startedAt : Nat
deriving DecidableEq

/-- How a start of a run ends. -/
inductive StartAnswer where
  | started
  | threw (created : Bool) (error : String)
deriving DecidableEq

/-- The reads of a tick. -/
inductive ScheduleRead where
  | previous (key runId : String)
  | existing (key runId : String)
deriving DecidableEq

/-- A tick: its time, and what the engine answers to its calls. -/
structure Tick where
  nowMs : Nat
  /-- Whether the engine is draining when the tick comes to a schedule. -/
  drainingAt : String → Bool := fun _ => false
  /-- Whether the engine is draining when the tick comes to a window of a schedule. -/
  drainingAtWindow : String → String → Bool := fun _ _ => false
  schedulePauseOverride : String → Option Bool := fun _ => none
  readError : ScheduleRead → Option String := fun _ => none
  status : String → ScheduledRun → RunStatus := fun _ _ => .completed
  /-- The draw for a window that is first seen due, scaled to its jitter below. -/
  random : String → Nat := fun _ => 0
  start : String → StartAnswer := fun _ => .started

/-- The state of a tick under way. -/
structure SchedulePass where
  runs : Table String ScheduledRun
  memory : SchedulerMemory
  ids : List String := []
  thrown : Option String := none
deriving DecidableEq

/-- A pass ended by an error. -/
def SchedulePass.throw (pass : SchedulePass) (error : String) : SchedulePass :=
  { pass with thrown := some error }

/-- A pass that noted a run id as existing. -/
def SchedulePass.noted (pass : SchedulePass) (key runId : String) : SchedulePass :=
  { pass with memory := pass.memory.remember key runId }

/-- A pass after a run was created, which leaves a run of that id as it is. -/
def SchedulePass.create (pass : SchedulePass) (runId : String) (run : ScheduledRun) :
    SchedulePass :=
  match pass.runs.get runId with
  | some _ => pass
  | none => { pass with runs := pass.runs.set runId run }

/-- What the memory says not to ask the store about again: of a key, the ids to leave out. -/
abbrev KnownIds := SchedulerMemory → String → List String

section Ticks

variable (parser : CronParser) (known : KnownIds)

/-- The windows a schedule may have to fire: the due ones, and before them those put off. -/
def scheduleWindows (s : ScheduledWorkflow) (memory : SchedulerMemory) (nowMs : Nat) :
    Except String (List String) := do
  let due ← scheduleRunIdsAt parser s nowMs
  return if 0 < s.jitter then firstOccurrences (memory.deferredWindows s.key ++ due) else due

/-- The windows that are not left out. -/
def scheduleCandidates (s : ScheduledWorkflow) (memory : SchedulerMemory) (nowMs : Nat) :
    Except String (List String) :=
  (scheduleWindows parser s memory nowMs).map fun windows =>
    windows.filter (· ∉ known memory s.key)

/-- Whether a run read by the overlap check is in flight. -/
def Tick.inFlight (tick : Tick) (runId : String) (run : ScheduledRun) : Bool :=
  tick.status runId run = .running ∨ tick.status runId run = .suspended

/-- Whether the overlap check leaves a schedule out of a tick. -/
def Tick.overlaps (tick : Tick) (s : ScheduledWorkflow) (runs : Table String ScheduledRun) :
    Except String Bool :=
  match s.overlap, s.everyMs with
  | .skip, some everyMs =>
    match tick.nowMs / everyMs.val with
    | 0 => .ok false
    | prevBucket + 1 =>
      let runId := windowRunId s.key prevBucket
      match tick.readError (.previous s.key runId) with
      | some error => .error error
      | none => .ok ((runs.get runId).any (tick.inFlight runId))
  | _, _ => .ok false

/-- The fire time of each candidate: as drawn by an earlier tick, else drawn now. -/
def Tick.fireTimes (tick : Tick) (s : ScheduledWorkflow) (memory : SchedulerMemory)
    (candidates : List String) : List (String × Nat) :=
  candidates.map fun runId =>
    (runId, ((memory.deferred s.key).lookup runId).getD
      (tick.nowMs + tick.random runId % s.jitter))

/-- The candidates whose fire time has come; the others are put off. -/
def Tick.jitterDue (tick : Tick) (s : ScheduledWorkflow) (memory : SchedulerMemory)
    (candidates : List String) : SchedulerMemory × List String :=
  let times := tick.fireTimes s memory candidates
  ({ memory with
      jitterFireAt := memory.jitterFireAt.set s.key (times.filter (tick.nowMs < ·.2)) },
    (times.filter (·.2 ≤ tick.nowMs)).map Prod.fst)

/-- The candidates a tick fires, and the memory with the others put off. -/
def Tick.firing (tick : Tick) (s : ScheduledWorkflow) (memory : SchedulerMemory)
    (candidates : List String) : SchedulerMemory × List String :=
  if 0 < s.jitter then tick.jitterDue s memory candidates
  else ({ memory with jitterFireAt := memory.jitterFireAt.erase s.key }, candidates)

/-- Start the run of a window that has none. -/
def Tick.fire (tick : Tick) (s : ScheduledWorkflow) (runId : String) (pass : SchedulePass) :
    SchedulePass :=
  match resolveSchedule s with
  | .error error => pass.throw error
  | .ok workflow =>
    let run : ScheduledRun :=
      { workflow, input := s.input, «namespace» := s.namespace, startedAt := tick.nowMs }
    match tick.start runId with
    | .started => { pass.create runId run with ids := pass.ids ++ [runId] }
    | .threw created error => (if created then pass.create runId run else pass).throw error

/-- Fire the windows of a schedule one after the other. -/
def Tick.fireEach (tick : Tick) (s : ScheduledWorkflow) : List String → SchedulePass → SchedulePass
  | [], pass => pass
  | runId :: rest, pass =>
    if tick.drainingAtWindow s.key runId then pass
    else match tick.readError (.existing s.key runId) with
      | some error => pass.throw error
      | none =>
        -- The id is noted before the start, whatever becomes of it.
        let noted := pass.noted s.key runId
        if (pass.runs.get runId).isSome then tick.fireEach s rest noted
        else
          let fired := tick.fire s runId noted
          if fired.thrown.isSome then fired else tick.fireEach s rest fired

/-- The part of a tick that is about one schedule. -/
def Tick.runSchedule (tick : Tick) (s : ScheduledWorkflow) (pass : SchedulePass) : SchedulePass :=
  if (tick.schedulePauseOverride s.key).getD s.paused then pass
  else match scheduleCandidates parser known s pass.memory tick.nowMs with
    | .error error => pass.throw error
    | .ok candidates =>
      if candidates = [] then pass
      else match tick.overlaps s pass.runs with
        | .error error => pass.throw error
        | .ok true => pass
        | .ok false =>
          let (memory, firing) := tick.firing s pass.memory candidates
          tick.fireEach s firing { pass with memory }

/-- A tick over a list of schedules. -/
def Tick.runEach (tick : Tick) : List ScheduledWorkflow → SchedulePass → SchedulePass
  | [], pass => pass
  | s :: rest, pass =>
    if tick.drainingAt s.key then pass
    else
      let after := tick.runSchedule parser known s pass
      if after.thrown.isSome then after else tick.runEach rest after

/-- A tick that leaves out the ids the memory has noted as existing. -/
def runSchedules (tick : Tick) (schedules : List ScheduledWorkflow) (pass : SchedulePass) :
    SchedulePass :=
  tick.runEach parser SchedulerMemory.settled schedules pass

/-- A tick that asks the store about every window, whatever the memory says. -/
def runSchedulesUnremembered (tick : Tick) (schedules : List ScheduledWorkflow)
    (pass : SchedulePass) : SchedulePass :=
  tick.runEach parser (fun _ _ => []) schedules pass

/-- The store's runs, and the memory of each engine that ticks. -/
structure SchedulerWorld where
  runs : Table String ScheduledRun := .empty
  memory : Nat → SchedulerMemory := fun _ => {}

/-- What happens to a world. -/
inductive SchedulerMove where
  | tick (engine : Nat) (tick : Tick)
  /-- Another caller starts a run, of a schedule's window or not. -/
  | created (runId : String) (run : ScheduledRun)

/-- A world after a pass of an engine. -/
def SchedulerWorld.after (world : SchedulerWorld) (engine : Nat) (pass : SchedulePass) :
    SchedulerWorld where
  runs := pass.runs
  memory other := if other = engine then pass.memory else world.memory other

/-- The pass that an engine begins a tick with. -/
def SchedulerWorld.pass (world : SchedulerWorld) (engine : Nat) : SchedulePass where
  runs := world.runs
  memory := world.memory engine

/-- A world after a move, whose ticks leave out the given ids. -/
def SchedulerWorld.move (schedules : List ScheduledWorkflow) (world : SchedulerWorld) :
    SchedulerMove → SchedulerWorld
  | .tick engine tick =>
    world.after engine (tick.runEach parser known schedules (world.pass engine))
  | .created runId run =>
    { world with runs := if (world.runs.get runId).isSome then world.runs
                         else world.runs.set runId run }

/-- A world after a sequence of moves. -/
def SchedulerWorld.play (schedules : List ScheduledWorkflow) (world : SchedulerWorld)
    (moves : List SchedulerMove) : SchedulerWorld :=
  moves.foldl (SchedulerWorld.move parser known schedules) world

end Ticks

end Durable
