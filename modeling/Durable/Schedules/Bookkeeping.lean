import Durable.Schedules.Client

/-! Pollers, and clients that change schedules beside them: what the schedules remember. -/

namespace Durable

open Interleaving

/-- A run, as the host started it. -/
structure StartedRun where
  workflow : String
  input : Payload
  opts : StartOptions
  status : RunStatus := .pending

/-- What the starts of an engine come to. -/
inductive Outage where
  | rejects (message : String)
  | breaks (message : String)
deriving Repr, DecidableEq

/-- The start of a window: its schedule, and how many windows had been counted when it was listed. -/
structure WindowStart where
  id : String
  window : Nat
  fires : Nat
deriving Repr, DecidableEq

/-- The schedules, the runs, and a record of what the pollers have done. -/
structure ScheduleBoard where
  schedules : Table String ScheduleRecord := .empty
  runs : Table String StartedRun := .empty
  clockMs : Nat := 0
  draining : Bool := false
  outage : Option Outage := none
  starts : List WindowStart := []
  /-- The windows whose run a poller has created, each with its schedule. -/
  launches : List (String × Nat) := []
  counted : String → List Nat := fun _ => []
  /-- The latest definition of a schedule, with the note of the latest pause. -/
  defined : String → Option SpecDoc := fun _ => none

/-- Change what a function gives for one name. -/
def changeAt {α : Type} (name : String) (value : α) (known : String → α) : String → α :=
  fun other => if other = name then value else known other

namespace ScheduleBoard

variable (board : ScheduleBoard)

/-- How many windows the row of a schedule says it has fired. -/
def fires (id : String) : Nat := (board.schedules.get id).elim 0 (·.fires)

/-- Whether a schedule is listed as due. -/
def isDue (dueBy : Nat) («namespace» : Option String) (record : ScheduleRecord) : Bool :=
  !record.paused && record.nextFireAt.any (· ≤ dueBy) &&
    «namespace».all fun filter =>
      record.namespace == filter || (filter == "default" && record.namespace == "")

/-- The due schedules, the soonest first. -/
def listing (dueBy : Nat) («namespace» : Option String) (limit : Nat) : List ScheduleRecord :=
  let due := board.schedules.stored.filter (isDue dueBy «namespace»)
  (due.insertionSort fun left right =>
    left.nextFireAt.getD 0 < right.nextFireAt.getD 0 ∨
      (left.nextFireAt.getD 0 = right.nextFireAt.getD 0 ∧ left.id ≤ right.id)).take limit

/-- Keep a record under its id, as its definition written anew. -/
def save (record : ScheduleRecord) : ScheduleBoard :=
  { board with
    schedules := board.schedules.set record.id record
    defined := changeAt record.id (some record.spec) board.defined }

/-- What an applied update means to the record of what has been done. -/
def noteUpdate (id : String) : SchedulePurpose → ScheduleBoard
  | .plain => board
  | .fire _ window =>
    { board with counted := changeAt id (board.counted id ++ [window]) board.counted }
  | .pause note =>
    { board with
      defined := changeAt id ((board.defined id).map (·.noted note)) board.defined }

/-- Update a schedule, if it is due when it is expected to be. -/
def update (id : String) (patch : ScheduleChange) (expectedNextFireAt : Option (Option Nat))
    (purpose : SchedulePurpose) : ScheduleBoard × Bool :=
  match board.schedules.get id with
  | none => (board, false)
  | some record =>
    if expectedNextFireAt.all (record.nextFireAt = ·) then
      let updated := { board with schedules := board.schedules.set id (patch.apply record) }
      (updated.noteUpdate id purpose, true)
    else (board, false)

/-- Remember that the start of a window has been called. -/
def noteStart : SchedulePurpose → ScheduleBoard
  | .fire record window =>
    let start : WindowStart := { id := record.id, window, fires := record.fires }
    { board with starts := board.starts ++ [start] }
  | _ => board

/-- Remember that the run of a window has been created. -/
def noteLaunch : SchedulePurpose → ScheduleBoard
  | .fire record window => { board with launches := board.launches ++ [(record.id, window)] }
  | _ => board

/-- Create a run, for a purpose. -/
def createRun (runId : String) (run : StartedRun) (purpose : SchedulePurpose) : ScheduleBoard :=
  ({ board with runs := board.runs.set runId run } : ScheduleBoard).noteLaunch purpose

/-- Start a run, or find the one that exists. -/
def start (runId : String) (run : StartedRun) (purpose : SchedulePurpose) :
    ScheduleBoard × Except String Unit :=
  match board.runs.get runId, board.outage with
  | some _, _ => (board, .ok ())
  | none, none => (board.createRun runId run purpose, .ok ())
  | none, some (.rejects message) => (board, .error message)
  | none, some (.breaks message) => (board.createRun runId run purpose, .error message)

/-- What an operation does to the board, and what it answers. -/
def exec (op : ScheduleOp) : ScheduleBoard × op.Answer :=
  match op with
  | ⟨_, .now⟩ => (board, board.clockMs)
  | ⟨_, .isDraining⟩ => (board, board.draining)
  | ⟨_, .listSchedules dueBy «namespace» limit⟩ => (board, board.listing dueBy «namespace» limit)
  | ⟨_, .getSchedule id⟩ => (board, board.schedules.get id)
  | ⟨_, .saveSchedule record⟩ => (board.save record, ())
  | ⟨purpose, .updateSchedule id patch expected⟩ => board.update id patch expected purpose
  | ⟨_, .getRun runId⟩ => (board, (board.runs.get runId).map (·.status))
  | ⟨purpose, .start workflow input runId opts⟩ =>
    (board.noteStart purpose).start runId { workflow, input, opts } purpose

/-- What happens around the pollers and the clients. -/
inductive Around where
  | elapse (passed : Nat)
  | drain (draining : Bool)
  | fail (outage : Option Outage)
  | progress (runId : String) (status : RunStatus)
  | create (runId : String) (run : StartedRun)

/-- What that does to the board. -/
def drift : Around → ScheduleBoard
  | .elapse passed => { board with clockMs := board.clockMs + passed }
  | .drain draining => { board with draining }
  | .fail outage => { board with outage }
  | .progress runId status =>
    match board.runs.get runId with
    | none => board
    | some run => { board with runs := board.runs.set runId { run with status } }
  | .create runId run =>
    match board.runs.get runId with
    | none => { board with runs := board.runs.set runId run }
    | some _ => board

end ScheduleBoard

/-- How far a call of the schedule client has come. -/
inductive SchedulePhase where
  | idle
  | timed (nowMs : Nat)
  | due (nowMs : Nat) (records : List ScheduleRecord)
  | refused (nowMs : Nat) (record : ScheduleRecord) (window : Nat) (rest : List ScheduleRecord)
  | launched (nowMs : Nat) (record : ScheduleRecord) (window : Nat) (rest : List ScheduleRecord)
  | read (id : String) (existing : Option ScheduleRecord)
  | readAt (id : String) (existing : Option ScheduleRecord) (nowMs : Nat)

namespace SchedulePhase

/-- A window has been started that has not been counted. -/
def owes : SchedulePhase → String → Nat → Prop
  | refused _ record window _, id, other => record.id = id ∧ window = other
  | launched _ record window _, id, other => record.id = id ∧ window = other
  | _, _, _ => False

/-- A poller is between two ticks. -/
def Polls : SchedulePhase → Prop
  | idle | timed _ | due _ _ => True
  | _ => False

/-- A state carries on the history of another one. -/
def Continues (state : StateDoc) (fires : Nat) (lastRunId : Option String) : Prop :=
  state.fires.getD 0 = fires ∧ state.lastRunId = lastRunId

/-- A due time belongs to a window after a time. -/
def DueAfter (nowMs : Nat) (nextFireAt : Option Nat) (state : StateDoc) : Prop :=
  ∀ dueAt, nextFireAt = some dueAt → ∃ window, state.window = some window ∧ window ≤ dueAt ∧
    nowMs < window

/-- A tick's update of a record. -/
structure Advances (nowMs : Nat) (record : ScheduleRecord) (fires : Nat)
    (lastRunId : Option String) (id : String) (patch : ScheduleChange)
    (expected : Option (Option Nat)) : Prop where
  same : id = record.id
  expects : expected = some record.nextFireAt
  spec : patch.spec = none
  moves : ∃ nextFireAt state, patch.nextFireAt = some nextFireAt ∧ patch.state = some state ∧
    Continues state fires lastRunId ∧ DueAfter nowMs nextFireAt state

/-- A window of a record is due at a time. -/
def Fires (nowMs : Nat) (record : ScheduleRecord) (window : Nat) : Prop :=
  window ≤ nowMs ∧ ∀ planned, record.state.window = some planned → planned ≤ window

/-- What a call does in a phase. -/
inductive Allows : SchedulePhase → ScheduleOp → Prop where
  | draining {phase : SchedulePhase} : Allows phase ⟨.plain, .isDraining⟩
  | look {nowMs : Nat} {records : List ScheduleRecord} {runId : String} :
      Allows (due nowMs records) ⟨.plain, .getRun runId⟩
  | clock {phase : SchedulePhase} (polls : phase.Polls) : Allows phase ⟨.plain, .now⟩
  | clockRead {id : String} {existing : Option ScheduleRecord} :
      Allows (read id existing) ⟨.plain, .now⟩
  | clockAgain {id : String} {existing : Option ScheduleRecord} {nowMs : Nat} :
      Allows (readAt id existing nowMs) ⟨.plain, .now⟩
  | list {nowMs limit : Nat} {scope : Option String} :
      Allows (timed nowMs) ⟨.plain, .listSchedules nowMs scope limit⟩
  | listAgain {nowMs limit : Nat} {scope : Option String} :
      Allows (due nowMs []) ⟨.plain, .listSchedules nowMs scope limit⟩
  | start {nowMs window : Nat} {record : ScheduleRecord} {rest : List ScheduleRecord}
      {workflow : String} {input : Payload} {opts : StartOptions}
      (fires : Fires nowMs record window) :
      Allows (due nowMs (record :: rest))
        ⟨.fire record window, .start workflow input (windowRunId record.id window) opts⟩
  | lookUp {nowMs window : Nat} {record : ScheduleRecord} {rest : List ScheduleRecord} :
      Allows (refused nowMs record window rest)
        ⟨.plain, .getRun (windowRunId record.id window)⟩
  | move {nowMs : Nat} {record : ScheduleRecord} {rest : List ScheduleRecord} {id : String}
      {patch : ScheduleChange} {expected : Option (Option Nat)}
      (advances : Advances nowMs record record.fires record.state.lastRunId id patch expected) :
      Allows (due nowMs (record :: rest)) ⟨.plain, .updateSchedule id patch expected⟩
  | count {nowMs window : Nat} {record : ScheduleRecord} {rest : List ScheduleRecord} {id : String}
      {patch : ScheduleChange} {expected : Option (Option Nat)}
      (advances : Advances nowMs record (record.fires + 1)
        (some (windowRunId record.id window)) id patch expected) :
      Allows (launched nowMs record window rest)
        ⟨.fire record window, .updateSchedule id patch expected⟩
  | get {id : String} : Allows idle ⟨.plain, .getSchedule id⟩
  | save {id : String} {existing : Option ScheduleRecord} {nowMs : Nat} {record : ScheduleRecord}
      (same : record.id = id)
      (continues : Continues record.state (existing.elim 0 (·.fires))
        (existing.bind (·.state.lastRunId)))
      (later : DueAfter nowMs record.nextFireAt record.state) :
      Allows (readAt id existing nowMs) ⟨.plain, .saveSchedule record⟩
  | resume {id : String} {existing : ScheduleRecord} {nowMs : Nat} {patch : ScheduleChange}
      {nextFireAt : Option Nat} {state : StateDoc} (spec : patch.spec = none)
      (moved : patch.nextFireAt = some nextFireAt) (stated : patch.state = some state)
      (continues : Continues state existing.fires existing.state.lastRunId)
      (later : DueAfter nowMs nextFireAt state) :
      Allows (readAt id (some existing) nowMs) ⟨.plain, .updateSchedule id patch none⟩
  | pause {id : String} {existing : ScheduleRecord} {nowMs : Nat} {patch : ScheduleChange}
      {note : Option String} (spec : patch.spec = some (existing.spec.noted note))
      (kept : patch.nextFireAt = none) (stated : patch.state = none) :
      Allows (readAt id (some existing) nowMs) ⟨.pause note, .updateSchedule id patch none⟩

/-- The phase after an operation has been answered. -/
def advance : SchedulePhase → (op : ScheduleOp) → op.Answer → SchedulePhase
  | idle, ⟨_, .now⟩, nowMs => timed nowMs
  | timed _, ⟨_, .now⟩, nowMs => timed nowMs
  | due _ _, ⟨_, .now⟩, nowMs => timed nowMs
  | idle, ⟨_, .getSchedule id⟩, existing => read id existing
  | timed nowMs, ⟨_, .listSchedules ..⟩, records => due nowMs records
  | due nowMs _, ⟨_, .listSchedules ..⟩, records => due nowMs records
  | due nowMs (record :: rest), ⟨.fire _ window, .start ..⟩, .ok _ =>
    launched nowMs record window rest
  | due nowMs (record :: rest), ⟨.fire _ window, .start ..⟩, .error _ =>
    refused nowMs record window rest
  | due nowMs (_ :: rest), ⟨_, .updateSchedule ..⟩, _ => due nowMs rest
  | refused nowMs record window rest, ⟨_, .getRun _⟩, some _ => launched nowMs record window rest
  | refused nowMs record _ rest, ⟨_, .getRun _⟩, none => due nowMs (record :: rest)
  | launched nowMs _ _ rest, ⟨_, .updateSchedule ..⟩, _ => due nowMs rest
  | read id existing, ⟨_, .now⟩, nowMs => readAt id existing nowMs
  | readAt .., ⟨_, .saveSchedule _⟩, _ => idle
  | readAt .., ⟨_, .updateSchedule ..⟩, _ => idle
  | phase, _, _ => phase

/-- A call ends with every window it has started counted. -/
def Rests (phase : SchedulePhase) (_ : ScheduleEnd) : Prop := ∀ id window, ¬ phase.owes id window

end SchedulePhase

namespace ScheduleClient

/-- The monitor of the calls. -/
def monitor : Monitor ScheduleOp ScheduleOp.Answer SchedulePhase where
  allows := SchedulePhase.Allows
  expects := fun _ _ _ => True
  advance := SchedulePhase.advance

/-- Whether a write finds the schedule as its process has read it. -/
def findsAsRead (board : ScheduleBoard) : SchedulePhase → ScheduleOp → Bool
  | .readAt id existing _, ⟨_, .saveSchedule _⟩ => board.fires id == existing.elim 0 (·.fires)
  | .readAt id existing _, ⟨.plain, .updateSchedule ..⟩ =>
    board.fires id == existing.elim 0 (·.fires)
  | .readAt id existing _, ⟨.pause note, .updateSchedule ..⟩ =>
    (board.schedules.get id).all fun row =>
      existing.all fun existing => row.spec.noted note = existing.spec.noted note
  | .due _ (record :: _), ⟨_, .updateSchedule id _ _⟩ =>
    (board.schedules.get id).all fun row =>
      row.nextFireAt != record.nextFireAt || row.fires == record.fires
  | .launched _ record window _, ⟨_, .updateSchedule id _ _⟩ =>
    (board.schedules.get id).all fun row =>
      if row.nextFireAt = record.nextFireAt then row.fires == record.fires
      else (board.counted id).contains window
  | _, _ => true

/-- Every write finds the schedule as its process has read it. -/
def clear : Admission ScheduleBoard ScheduleOp SchedulePhase where
  step board phase _ op := findsAsRead board phase op = true

instance (board : ScheduleBoard) (phase : SchedulePhase) (others : List SchedulePhase)
    (op : ScheduleOp) : Decidable (clear.step board phase others op) :=
  inferInstanceAs (Decidable (findsAsRead board phase op = true))

instance (board : ScheduleBoard) (phase : SchedulePhase) (others : List SchedulePhase) :
    Decidable (clear.crash board phase others) :=
  inferInstanceAs (Decidable True)

/-- A process of the system. -/
abbrev Proc := Process ScheduleOp ScheduleOp.Answer SchedulePhase ScheduleEnd

/-- Pollers and clients over one store, one store operation at a time. -/
def system : System ScheduleBoard ScheduleOp Proc ScheduleBoard.Around ScheduleOp.Answer :=
  processes monitor ScheduleBoard.exec (fun _ => none) fun around board => board.drift around

/-- What the pollers and the clients call. -/
inductive Path (parser : CronParser) : ScheduleProgram ScheduleEnd → Prop where
  | tick {client : ScheduleClient} (same : client.parser = parser) : Path parser client.tick
  | create {client : ScheduleClient} (same : client.parser = parser) (opts : ScheduleOptions) :
      Path parser (client.create opts)
  | upsert {client : ScheduleClient} (same : client.parser = parser) (opts : ScheduleOptions) :
      Path parser (client.upsert opts)
  | pause (id : String) (note : Option String) : Path parser (pause id note)
  | resume {client : ScheduleClient} (same : client.parser = parser) (id : String) :
      Path parser (client.resume id)

/-- Pollers that tick again and again, and calls made once, over a store without schedules. -/
def atStart (runs : Table String StartedRun) (clockMs : Nat) (pollers : List ScheduleClient)
    (calls : List (ScheduleProgram ScheduleEnd)) : Config ScheduleBoard Proc where
  shared := { runs, clockMs }
  pool := pollers.map (fun poller =>
      { phase := .idle, rest := .done (.ticked []), again := some poller.tick }) ++
    calls.map fun call => { phase := .idle, rest := call }

/-- The schedules keep their bookkeeping. -/
structure Keeps (config : Config ScheduleBoard Proc) : Prop where
  once : config.shared.launches.Nodup
  /-- A window that has been counted is not fired from what is read of its schedule afterwards. -/
  fresh : ∀ start ∈ config.shared.starts,
    ∀ window ∈ (config.shared.counted start.id).take start.fires, window < start.window
  increasing : ∀ id, (config.shared.counted id).Pairwise (· < ·)
  /-- A window whose run has been created is counted, or a tick has yet to count it. -/
  covered : ∀ id window, (id, window) ∈ config.shared.launches →
    window ∈ config.shared.counted id ∨
      ∃ process ∈ config.pool, process.rests = false ∧ process.phase.owes id window
  /-- The count of fires is that of the windows, and the last run that of the last window. -/
  counts : ∀ id record, config.shared.schedules.get id = some record →
    record.fires = (config.shared.counted id).length ∧
      record.state.lastRunId = (config.shared.counted id).getLast?.map (windowRunId id)
  /-- The definition is the latest one, with the note of the latest pause. -/
  defined : ∀ id record, config.shared.schedules.get id = some record →
    config.shared.defined id = some record.spec

end ScheduleClient

end Durable
