import Mathlib.Data.List.Sort
import Durable.Engine.Continuations

/-! The persisted schedules: their records, their store, and what the schedule client does. -/

namespace Durable

open Interleaving

deriving instance DecidableEq for ConcurrencyQuota

/-- What a schedule does with a window while its previous run is in flight. -/
inductive Overlap where
  | allow | skip
deriving Repr, DecidableEq

/-- What a schedule does with the windows nobody polled for. -/
inductive Catchup where
  | latest | skip
deriving Repr, DecidableEq

/-- When a schedule fires. -/
inductive Cadence where
  | cron (expr : String)
  | every (everyMs : { ms : Nat // 0 < ms })
deriving DecidableEq

/-- The persisted definition of a schedule. -/
structure SpecDoc where
  input : Payload := none
  cadence : Cadence
  timezone : Option String := none
  jitterMs : Option Nat := none
  overlap : Overlap := .allow
  catchup : Catchup := .latest
  note : Option String := none
  searchAttributes : Option (List (String × Value)) := none
  priority : Option Int := none
  concurrency : Option ConcurrencyQuota := none
deriving DecidableEq

/-- The definition with another note, if one is given. -/
def SpecDoc.noted (spec : SpecDoc) (note : Option String) : SpecDoc :=
  { spec with note := note.or spec.note }

/-- The persisted bookkeeping of a schedule. -/
structure StateDoc where
  window : Option Nat := none
  lastFireAt : Option Nat := none
  lastRunId : Option String := none
  fires : Option Nat := none
  lastError : Option String := none
deriving DecidableEq

/-- A schedule, as the store keeps it. -/
structure ScheduleRecord where
  id : String
  «namespace» : String
  workflow : String
  paused : Bool
  /-- When it is due next, its jitter included; `none` when it never fires again. -/
  nextFireAt : Option Nat
  tags : Option (List String) := none
  spec : SpecDoc
  state : StateDoc
  createdAt : Nat
  updatedAt : Nat
deriving DecidableEq

/-- What an update changes of a schedule. -/
structure ScheduleChange where
  paused : Option Bool := none
  nextFireAt : Option (Option Nat) := none
  spec : Option SpecDoc := none
  state : Option StateDoc := none
  updatedAt : Nat

/-- A schedule after an update. -/
def ScheduleChange.apply (patch : ScheduleChange) (record : ScheduleRecord) : ScheduleRecord :=
  { record with
    paused := patch.paused.getD record.paused
    nextFireAt := patch.nextFireAt.getD record.nextFireAt
    spec := patch.spec.getD record.spec
    state := patch.state.getD record.state
    updatedAt := patch.updatedAt }

/-- How many windows a schedule says it has fired. -/
def ScheduleRecord.fires (record : ScheduleRecord) : Nat := record.state.fires.getD 0

/-- What `create` and `upsert` take; durations are in milliseconds already. -/
structure ScheduleOptions where
  id : String
  workflow : String
  input : Payload := none
  cron : Option String := none
  every : Option Int := none
  timezone : Option String := none
  jitter : Option Int := none
  overlap : Option Overlap := none
  catchup : Option Catchup := none
  paused : Option Bool := none
  note : Option String := none
  «namespace» : Option String := none
  tags : Option (List String) := none
  searchAttributes : Option (List (String × Value)) := none
  priority : Option Int := none
  concurrency : Option ConcurrencyQuota := none

/-- The definition that options describe, if they describe one. -/
def toSpec (opts : ScheduleOptions) : Except String SpecDoc :=
  let id := opts.id
  let spec (cadence : Cadence) : SpecDoc :=
    { input := opts.input, cadence, timezone := opts.timezone
      jitterMs := (opts.jitter.filter (0 < ·)).map Int.toNat
      overlap := opts.overlap.getD .allow, catchup := opts.catchup.getD .latest
      note := opts.note, searchAttributes := opts.searchAttributes
      priority := opts.priority, concurrency := opts.concurrency }
  match opts.cron, opts.every with
  | some expr, none => .ok (spec (.cron expr))
  | none, some every =>
    if positive : 0 < every.toNat then .ok (spec (.every ⟨every.toNat, positive⟩))
    else .error s!"schedule \"{id}\": \"every\" must be a positive duration"
  | _, _ => .error s!"schedule \"{id}\" needs exactly one of \"cron\" or \"every\""

/-- The cron library: the fires of an expression on either side of a time. -/
structure CronParser where
  prev : String → Nat → String → Except String Nat
  next : String → Nat → String → Except String Nat

/-- The library's answers are about one set of fires for each expression and timezone. -/
def CronParser.Lawful (parser : CronParser) : Prop :=
  ∀ expr timezone, ∃ fires : Nat → Prop,
    (∀ at' found, parser.prev expr at' timezone = .ok found →
      fires found ∧ found < at' ∧ ∀ fire, fires fire → fire < at' → fire ≤ found) ∧
    ∀ at' found, parser.next expr at' timezone = .ok found →
      fires found ∧ at' < found ∧ ∀ fire, fires fire → at' < fire → found ≤ fire

section Windows

variable (parser : CronParser)

/-- The last fire of a cron expression at or before a time. -/
def prevCronFireMs (expr : String) (nowMs : Nat) (timezone : Option String) : Except String Nat :=
  -- A fire exactly at the time counts.
  parser.prev expr (nowMs + 1) (timezone.getD "UTC")

/-- The first fire of a cron expression after a time. -/
def nextCronFireMs (expr : String) (nowMs : Nat) (timezone : Option String) : Except String Nat :=
  parser.next expr nowMs (timezone.getD "UTC")

/-- The latest window at or before a time. -/
def latestWindowAtOrBefore (spec : SpecDoc) (atMs : Nat) : Except String Nat :=
  match spec.cadence with
  | .cron expr => prevCronFireMs parser expr atMs spec.timezone
  | .every every => .ok (atMs / every.val * every.val)

/-- The first window strictly after a time. -/
def nextWindowAfter (spec : SpecDoc) (afterMs : Nat) : Except String (Option Nat) :=
  match spec.cadence with
  | .cron expr => (nextCronFireMs parser expr afterMs spec.timezone).map some
  | .every every => .ok (some ((afterMs / every.val + 1) * every.val))

end Windows

/-- A stable offset below the jitter, for each schedule and window. -/
def jitterFor (id : String) (window : Nat) (spec : SpecDoc) : Nat :=
  let max := spec.jitterMs.getD 0
  if max = 0 then 0
  else
    let hash := s!"{id}@{window}".toList.foldl
      (fun (hash : UInt32) char => (hash ^^^ (utf16Head char)) * 0x01000193) 0x811c9dc5
    hash.toNat % max
where
  /-- The first UTF-16 code unit of a character. -/
  utf16Head (char : Char) : UInt32 :=
    if char.val < 0x10000 then char.val
    else (0xD800 : UInt32) + ((char.val - 0x10000) >>> (10 : UInt32))

/-- What a start is called with beside the workflow and its input. -/
structure StartOptions where
  tags : List String
  «namespace» : String
  searchAttributes : Option (List (String × Value))
  priority : Option Int
  concurrency : Option ConcurrencyQuota

/-- The options of the starts of a schedule. -/
def startOptions (record : ScheduleRecord) : StartOptions where
  tags := record.tags.getD [] ++ ["schedule:" ++ record.id]
  «namespace» := record.namespace
  searchAttributes := record.spec.searchAttributes
  priority := record.spec.priority
  concurrency := record.spec.concurrency

/-- The id of the run of a schedule's window. -/
def windowRunId (id : String) (window : Nat) : String := s!"sched:{id}:{window}"

/-- What an operation is performed for, which the store does not see. -/
inductive SchedulePurpose where
  | plain
  | fire (record : ScheduleRecord) (window : Nat)
  | pause (note : Option String)

/-- What the schedule client calls. -/
inductive ScheduleCall where
  | now
  | isDraining
  | listSchedules (dueBy : Nat) («namespace» : Option String) (limit : Nat)
  | getSchedule (id : String)
  | saveSchedule (record : ScheduleRecord)
  | updateSchedule (id : String) (patch : ScheduleChange) (expectedNextFireAt : Option (Option Nat))
  | getRun (runId : String)
  | start (workflow : String) (input : Payload) (runId : String) (opts : StartOptions)

/-- A call, and what it is made for. -/
structure ScheduleOp where
  purpose : SchedulePurpose := .plain
  call : ScheduleCall

/-- What a call answers. -/
def ScheduleCall.Answer : ScheduleCall → Type
  | now => Nat
  | isDraining => Bool
  | listSchedules .. => List ScheduleRecord
  | getSchedule _ => Option ScheduleRecord
  | saveSchedule _ => Unit
  | updateSchedule .. => Bool
  | getRun _ => Option RunStatus
  | start .. => Except String Unit

/-- What an operation answers, whatever it is for. -/
abbrev ScheduleOp.Answer (op : ScheduleOp) : Type := op.call.Answer

/-- A program of the schedule client. -/
abbrev ScheduleProgram (α : Type) := Program ScheduleOp ScheduleOp.Answer α

/-- How a call of the schedule client has ended. -/
inductive ScheduleEnd where
  | ticked (runIds : List String)
  | described (record : ScheduleRecord)
  | failed (message : String)

namespace ScheduleProgram

/-- Call an operation. -/
def perform (call : ScheduleCall) (purpose : SchedulePurpose := .plain) :
    ScheduleProgram call.Answer :=
  Program.call ⟨purpose, call⟩ Program.done

def now : ScheduleProgram Nat := perform .now

def isDraining : ScheduleProgram Bool := perform .isDraining

def listSchedules (dueBy : Nat) («namespace» : Option String) (limit : Nat) :
    ScheduleProgram (List ScheduleRecord) :=
  perform (.listSchedules dueBy «namespace» limit)

def getSchedule (id : String) : ScheduleProgram (Option ScheduleRecord) := perform (.getSchedule id)

def saveSchedule (record : ScheduleRecord) : ScheduleProgram Unit := perform (.saveSchedule record)

def updateSchedule (id : String) (patch : ScheduleChange)
    (expectedNextFireAt : Option (Option Nat) := none) (purpose : SchedulePurpose := .plain) :
    ScheduleProgram Bool :=
  perform (.updateSchedule id patch expectedNextFireAt) purpose

def getRun (runId : String) : ScheduleProgram (Option RunStatus) := perform (.getRun runId)

def start (workflow : String) (input : Payload) (runId : String) (opts : StartOptions)
    (purpose : SchedulePurpose) : ScheduleProgram (Except String Unit) :=
  perform (.start workflow input runId opts) purpose

end ScheduleProgram

/-- How late a window may fire and still count as on time. -/
def onTimeGraceMs : Nat := 60000

/-- How many due schedules one listing returns. -/
def tickBatch : Nat := 100

/-- A schedule client: the cron library, and the namespace of its engine. -/
structure ScheduleClient where
  parser : CronParser
  «namespace» : Option String := none

namespace ScheduleClient

open ScheduleProgram

variable (client : ScheduleClient)

/-- `overlap: 'skip'`, and the previous run of the schedule is in flight. -/
def overlapping (spec : SpecDoc) (state : StateDoc) : ScheduleProgram Bool :=
  match spec.overlap, state.lastRunId with
  | .skip, some lastRunId => do
    match ← getRun lastRunId with
    | some status => return !isTerminalStatus status
    | none => return false
  | _, _ => return false

/-- Stop a schedule whose definition does not evaluate. -/
def stop (record : ScheduleRecord) (nowMs : Nat) (message : String) :
    ScheduleProgram (Option String) := do
  let state := { record.state with lastError := some s!"invalid schedule: {message}" }
  let _ ← updateSchedule record.id
    { paused := some true, nextFireAt := some none, state := some state, updatedAt := nowMs }
    (some record.nextFireAt)
  return none

/-- The bookkeeping after a window has been dealt with. -/
def nextState (record : ScheduleRecord) (latest : Nat) (next : Option Nat) (fired : Bool)
    (lastError : Option String) : StateDoc :=
  let moved := { record.state with window := next }
  if fired then
    { moved with
      lastFireAt := some latest
      lastRunId := some (windowRunId record.id latest)
      fires := some (record.fires + 1)
      lastError := none }
  else { moved with lastError := lastError.or record.state.lastError }

/-- Move a schedule on to its next window. -/
def advance (record : ScheduleRecord) (nowMs latest : Nat) (next : Option Nat) (fired : Bool)
    (lastError : Option String) : ScheduleProgram (Option String) := do
  let _ ← updateSchedule record.id
    { nextFireAt := some (next.map fun next => next + jitterFor record.id next record.spec)
      state := some (nextState record latest next fired lastError)
      updatedAt := nowMs }
    (some record.nextFireAt) (if fired then .fire record latest else .plain)
  return if fired then some (windowRunId record.id latest) else none

/-- Start the run of a window, and move the schedule on. -/
def launch (record : ScheduleRecord) (nowMs latest : Nat) (next : Option Nat) :
    ScheduleProgram (Option String) := do
  let runId := windowRunId record.id latest
  match ← start record.workflow record.spec.input runId (startOptions record)
    (.fire record latest) with
  | .ok _ => advance record nowMs latest next true none
  | .error message =>
    -- A racing poller may have created the same run first: that is a success.
    match ← getRun runId with
    | some _ => advance record nowMs latest next true none
    | none => advance record nowMs latest next false (some message)

/-- Whether a window is not to be fired, whatever the previous run does. -/
def notDue (record : ScheduleRecord) (nowMs latest : Nat) : Bool :=
  let onTime := decide (nowMs - latest ≤ onTimeGraceMs + record.spec.jitterMs.getD 0)
  let skipMissed := decide (record.spec.catchup = .skip) && !onTime
  skipMissed || decide (latest < record.state.window.getD latest)

/-- Fire one due schedule and advance it. -/
def fire (record : ScheduleRecord) (nowMs : Nat) : ScheduleProgram (Option String) :=
  match latestWindowAtOrBefore client.parser record.spec nowMs with
  | .error message => stop record nowMs message
  | .ok latest =>
    match nextWindowAfter client.parser record.spec latest with
    | .error message => stop record nowMs message
    | .ok next =>
      if notDue record nowMs latest then advance record nowMs latest next false none
      else do
        if ← overlapping record.spec record.state then advance record nowMs latest next false none
        else launch record nowMs latest next

/-- Fire the listed schedules one by one, until the engine shuts down. -/
def fireEach (nowMs : Nat) : List ScheduleRecord → List String →
    ScheduleProgram (List String × Bool)
  | [], started => return (started, false)
  | record :: due, started => do
    if ← isDraining then return (started, true)
    else
      let runId ← client.fire record nowMs
      fireEach nowMs due (started ++ runId.toList)

/-- The rounds of one tick. -/
def tickRounds (nowMs : Nat) : Nat → List String → ScheduleProgram ScheduleEnd
  | 0, started => return .ticked started
  | rounds + 1, started => do
    if ← isDraining then return .ticked started
    else
      let due ← listSchedules nowMs client.namespace tickBatch
      let (started, drained) ← client.fireEach nowMs due started
      if drained || decide (due.length < tickBatch) then return .ticked started
      else tickRounds nowMs rounds started

/-- Fire every due schedule. -/
def tick : ScheduleProgram ScheduleEnd := do
  let nowMs ← now
  client.tickRounds nowMs 50 []

/-- The failure of a call about a schedule that does not exist. -/
def notFound (id : String) : ScheduleEnd := .failed s!"schedule \"{id}\" not found"

/-- The schedule as it is after a change. -/
def describe (id : String) : ScheduleProgram ScheduleEnd := do
  match ← getSchedule id with
  | some record => return .described record
  | none => return notFound id

/-- Stop firing until the schedule is resumed. -/
def pause (id : String) (note : Option String) : ScheduleProgram ScheduleEnd := do
  match ← getSchedule id with
  | none => return notFound id
  | some record =>
    let spec := record.spec.noted note
    let nowMs ← now
    let _ ← updateSchedule id { paused := some true, spec := some spec, updatedAt := nowMs } none
      (.pause note)
    describe id

/-- Fire again, from the first window after now. -/
def resume (id : String) : ScheduleProgram ScheduleEnd := do
  match ← getSchedule id with
  | none => return notFound id
  | some record =>
    let nowMs ← now
    match nextWindowAfter client.parser record.spec nowMs with
    | .error message => return .failed message
    | .ok window =>
      let updatedAt ← now
      let nextFireAt := window.map fun window => window + jitterFor record.id window record.spec
      let state := { record.state with window }
      let _ ← updateSchedule id
        { paused := some false, nextFireAt := some nextFireAt, state := some state, updatedAt }
      describe id

/-- The record that options and the record they replace make. -/
def recordOf (opts : ScheduleOptions) (existing : Option ScheduleRecord) (spec : SpecDoc)
    (nowMs : Nat) (window : Option Nat) : ScheduleRecord where
  id := opts.id
  «namespace» := (opts.namespace.or client.namespace).getD "default"
  workflow := opts.workflow
  paused := (opts.paused.or (existing.map (·.paused))).getD false
  nextFireAt := window.map fun window => window + jitterFor opts.id window spec
  tags := opts.tags
  spec := spec
  state := { (existing.elim {} (·.state) : StateDoc) with window }
  createdAt := (existing.map (·.createdAt)).getD nowMs
  updatedAt := nowMs

/-- Write a definition, over the record that exists or as a new one. -/
def write (opts : ScheduleOptions) (existing : Option ScheduleRecord) :
    ScheduleProgram ScheduleEnd :=
  match toSpec opts with
  | .error message => return .failed message
  | .ok spec => do
    let nowMs ← now
    match nextWindowAfter client.parser spec nowMs with
    | .error message => return .failed message
    | .ok window =>
      let record := client.recordOf opts existing spec nowMs window
      saveSchedule record
      return .described record

/-- Create a schedule, unless its id is taken. -/
def create (opts : ScheduleOptions) : ScheduleProgram ScheduleEnd := do
  match ← getSchedule opts.id with
  | some _ =>
    let id := opts.id
    return .failed s!"schedule \"{id}\" already exists"
  | none => client.write opts none

/-- Create a schedule, or replace the definition of the one that exists. -/
def upsert (opts : ScheduleOptions) : ScheduleProgram ScheduleEnd := do
  let existing ← getSchedule opts.id
  client.write opts existing

end ScheduleClient

end Durable
