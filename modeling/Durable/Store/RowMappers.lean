import Durable.Codec.Memory
import Durable.Store.PendingWrites

/-! Runs and checkpoints written to the columns of their rows, changed there, and read back. -/

namespace Durable.Lucid

/-- A column of numbers. -/
inductive NumericColumn where
  | wakeAt | lockedUntil | recoveryAttempts | priority | wakeRequestedAt | createdAt | updatedAt
  | seq | attempts | enqueuedAt | startedAt | finishedAt | lastHeartbeatAt
deriving Repr, DecidableEq

/-- A number as a driver hands it back. -/
inductive Handed (Number : Type) where
  | number (value : Number)
  | text (value : String)
deriving DecidableEq

/-- One execution of a workflow. -/
structure WorkflowRun (Number Json : Type) where
  id : String
  workflow : String
  workflowVersion : String
  status : RunStatus
  namespace_ : Option String := none
  origin : Option String := none
  input : Option Json := none
  output : Option Json := none
  error : Option Json := none
  wakeAt : Option Number := none
  lockedBy : Option String := none
  lockedUntil : Option Number := none
  recoveryAttempts : Option Number := none
  tags : Option Json := none
  searchAttributes : Option Json := none
  priority : Option Number := none
  awaitingDecisionTaskId : Option String := none
  wakeRequestedAt : Option Number := none
  createdAt : Number
  updatedAt : Number

/-- The fields of a run, none where one is absent or undefined. -/
@[ext] structure RunFields (Number Json : Type) where
  id : Option String
  workflow : Option String
  workflowVersion : Option String
  status : Option RunStatus
  namespace_ : Option String
  origin : Option String
  input : Option Json
  output : Option Json
  error : Option Json
  wakeAt : Option Number
  lockedBy : Option String
  lockedUntil : Option Number
  recoveryAttempts : Option Number
  tags : Option Json
  searchAttributes : Option Json
  priority : Option Number
  awaitingDecisionTaskId : Option String
  wakeRequestedAt : Option Number
  createdAt : Option Number
  updatedAt : Option Number
deriving DecidableEq

/-- Some fields of a run: none where the patch lacks one, and some of none where it clears it. -/
structure RunPatch (Number Json : Type) where
  id : Option (Option String) := none
  workflow : Option (Option String) := none
  workflowVersion : Option (Option String) := none
  status : Option (Option RunStatus) := none
  namespace_ : Option (Option String) := none
  origin : Option (Option String) := none
  input : Option (Option Json) := none
  output : Option (Option Json) := none
  error : Option (Option Json) := none
  wakeAt : Option (Option Number) := none
  lockedBy : Option (Option String) := none
  lockedUntil : Option (Option Number) := none
  recoveryAttempts : Option (Option Number) := none
  tags : Option (Option Json) := none
  searchAttributes : Option (Option Json) := none
  priority : Option (Option Number) := none
  awaitingDecisionTaskId : Option (Option String) := none
  wakeRequestedAt : Option (Option Number) := none
  createdAt : Option (Option Number) := none
  updatedAt : Option (Option Number) := none

/-- A row of the runs, none where a column is NULL or missing. -/
structure RunRow (Column : Type) where
  id : String
  workflow : Option String
  workflowVersion : Option String
  status : Option RunStatus
  namespace_ : Option String
  origin : Option String
  input : Option String
  output : Option String
  error : Option String
  wakeAt : Option Column
  lockedBy : Option String
  lockedUntil : Option Column
  recoveryAttempts : Option Column
  tags : Option String
  searchAttributes : Option String
  priority : Option Column
  awaitingDecisionTaskId : Option String
  wakeRequestedAt : Option Column
  createdAt : Column
  updatedAt : Column

/-- The columns that a patch writes. -/
structure RunColumns (Number : Type) where
  workflow : Option (Option String)
  workflowVersion : Option (Option String)
  status : Option (Option RunStatus)
  namespace_ : Option (Option String)
  origin : Option (Option String)
  input : Option (Option String)
  output : Option (Option String)
  error : Option (Option String)
  wakeAt : Option (Option Number)
  lockedBy : Option (Option String)
  lockedUntil : Option (Option Number)
  recoveryAttempts : Option (Option Number)
  tags : Option (Option String)
  searchAttributes : Option (Option String)
  priority : Option (Option Number)
  awaitingDecisionTaskId : Option (Option String)
  wakeRequestedAt : Option (Option Number)
  createdAt : Option Number
  updatedAt : Option Number

/-- A worker's result with the fields that it carries: none where it lacks one, and some of none
where that is undefined. -/
structure CarriedSettlement (Number Json : Type) where
  runId : String
  seq : Number
  status : ResultStatus
  output : Option (Option Json) := none
  error : Option (Option Json) := none
  events : Option (Option Json) := none
  startedAt : Number
  finishedAt : Number

namespace InMemory

variable {Number Json : Type}

/-- The fields of a run, with those of a patch over them. -/
def merge (run : RunFields Number Json) (patch : RunPatch Number Json) :
    RunFields Number Json where
  id := patch.id.getD run.id
  workflow := patch.workflow.getD run.workflow
  workflowVersion := patch.workflowVersion.getD run.workflowVersion
  status := patch.status.getD run.status
  namespace_ := patch.namespace_.getD run.namespace_
  origin := patch.origin.getD run.origin
  input := patch.input.getD run.input
  output := patch.output.getD run.output
  error := patch.error.getD run.error
  wakeAt := patch.wakeAt.getD run.wakeAt
  lockedBy := patch.lockedBy.getD run.lockedBy
  lockedUntil := patch.lockedUntil.getD run.lockedUntil
  recoveryAttempts := patch.recoveryAttempts.getD run.recoveryAttempts
  tags := patch.tags.getD run.tags
  searchAttributes := patch.searchAttributes.getD run.searchAttributes
  priority := patch.priority.getD run.priority
  awaitingDecisionTaskId := patch.awaitingDecisionTaskId.getD run.awaitingDecisionTaskId
  wakeRequestedAt := patch.wakeRequestedAt.getD run.wakeRequestedAt
  createdAt := patch.createdAt.getD run.createdAt
  updatedAt := patch.updatedAt.getD run.updatedAt

/-- A run with its namespace as it is stored. -/
def copyRun (run : RunFields Number Json) : RunFields Number Json :=
  { run with namespace_ := some (normalizeNamespace run.namespace_) }

/-- A run about to be stored. -/
def withNormalizedNamespace (run : RunFields Number Json) : RunFields Number Json :=
  if run.namespace_ = none ∨ run.namespace_ = some "" then copyRun run else run

/-- The run that is stored for a new one. -/
def createRun (run : WorkflowRun Number Json) : RunFields Number Json where
  id := some run.id
  workflow := some run.workflow
  workflowVersion := some run.workflowVersion
  status := some run.status
  namespace_ := some (normalizeNamespace run.namespace_)
  origin := run.origin
  input := run.input
  output := run.output
  error := run.error
  wakeAt := run.wakeAt
  lockedBy := run.lockedBy
  lockedUntil := run.lockedUntil
  recoveryAttempts := run.recoveryAttempts
  tags := run.tags
  searchAttributes := run.searchAttributes
  priority := run.priority
  awaitingDecisionTaskId := run.awaitingDecisionTaskId
  wakeRequestedAt := run.wakeRequestedAt
  createdAt := some run.createdAt
  updatedAt := some run.updatedAt

/-- The run that is stored after a patch. -/
def updateRun (existing : RunFields Number Json) (patch : RunPatch Number Json) :
    RunFields Number Json :=
  withNormalizedNamespace (merge existing patch)

/-- The checkpoint that is stored after a settlement. -/
def settle (row : StepCheckpoint Number Json) (s : CarriedSettlement Number Json) :
    StepCheckpoint Number Json :=
  { row with
    status := s.status.stepStatus
    output := s.output.getD row.output
    error := s.error.getD row.error
    events := s.events.getD row.events
    startedAt := s.startedAt
    finishedAt := s.finishedAt }

end InMemory

section Mappers

variable {Number Json : Type} (js : Columns Number Json)

/-- The value of a column of texts; a text that is not one of JSON reads as absent. -/
def parseJsonColumn (value : Option String) : Option Json := value.bind js.parse

/-- The number of a column, which a driver may hand back as a text. -/
def toNum (value : Option (Handed Number)) : Option Number :=
  value.bind fun
    | .number value => some value
    | .text value => js.number value

/-- The number of a required column. -/
def toNumOr0 [OfNat Number 0] (value : Option (Handed Number)) : Number := (toNum js value).getD 0

/-- The columns of a new run. -/
def runToRow (run : WorkflowRun Number Json) : RunRow Number where
  id := run.id
  workflow := some run.workflow
  workflowVersion := some run.workflowVersion
  status := some run.status
  namespace_ := some (normalizeNamespace run.namespace_)
  origin := run.origin
  input := toJson js run.input
  output := toJson js run.output
  error := toJson js run.error
  wakeAt := run.wakeAt
  lockedBy := run.lockedBy
  lockedUntil := run.lockedUntil
  recoveryAttempts := run.recoveryAttempts
  tags := toJson js run.tags
  searchAttributes := toJson js run.searchAttributes
  priority := run.priority
  awaitingDecisionTaskId := run.awaitingDecisionTaskId
  -- The columns of a new run leave the wake request out.
  wakeRequestedAt := none
  createdAt := run.createdAt
  updatedAt := run.updatedAt

/-- The columns that a patch writes: those of the fields in it, other than the id. -/
def runPatchToRow (patch : RunPatch Number Json) : RunColumns Number where
  workflow := patch.workflow
  workflowVersion := patch.workflowVersion
  status := patch.status
  namespace_ := patch.namespace_.map fun given => some (normalizeNamespace given)
  origin := patch.origin
  input := patch.input.map (toJson js)
  output := patch.output.map (toJson js)
  error := patch.error.map (toJson js)
  wakeAt := patch.wakeAt
  lockedBy := patch.lockedBy
  lockedUntil := patch.lockedUntil
  recoveryAttempts := patch.recoveryAttempts
  tags := patch.tags.map (toJson js)
  searchAttributes := patch.searchAttributes.map (toJson js)
  priority := patch.priority
  awaitingDecisionTaskId := patch.awaitingDecisionTaskId
  wakeRequestedAt := patch.wakeRequestedAt
  -- The two dates are written where they are defined: they are never cleared.
  createdAt := patch.createdAt.join
  updatedAt := patch.updatedAt.join

/-- A row with the columns of a patch. -/
def RunRow.merge (row : RunRow Number) (columns : RunColumns Number) : RunRow Number where
  id := row.id
  workflow := columns.workflow.getD row.workflow
  workflowVersion := columns.workflowVersion.getD row.workflowVersion
  status := columns.status.getD row.status
  namespace_ := columns.namespace_.getD row.namespace_
  origin := columns.origin.getD row.origin
  input := columns.input.getD row.input
  output := columns.output.getD row.output
  error := columns.error.getD row.error
  wakeAt := columns.wakeAt.getD row.wakeAt
  lockedBy := columns.lockedBy.getD row.lockedBy
  lockedUntil := columns.lockedUntil.getD row.lockedUntil
  recoveryAttempts := columns.recoveryAttempts.getD row.recoveryAttempts
  tags := columns.tags.getD row.tags
  searchAttributes := columns.searchAttributes.getD row.searchAttributes
  priority := columns.priority.getD row.priority
  awaitingDecisionTaskId := columns.awaitingDecisionTaskId.getD row.awaitingDecisionTaskId
  wakeRequestedAt := columns.wakeRequestedAt.getD row.wakeRequestedAt
  createdAt := columns.createdAt.getD row.createdAt
  updatedAt := columns.updatedAt.getD row.updatedAt

/-- The run of a row. -/
def rowToRun [OfNat Number 0] (row : RunRow (Handed Number)) : RunFields Number Json where
  id := some row.id
  workflow := row.workflow
  workflowVersion := row.workflowVersion
  status := row.status
  namespace_ := some (normalizeNamespace row.namespace_)
  origin := row.origin
  input := parseJsonColumn js row.input
  output := parseJsonColumn js row.output
  error := parseJsonColumn js row.error
  wakeAt := toNum js row.wakeAt
  lockedBy := row.lockedBy
  lockedUntil := toNum js row.lockedUntil
  recoveryAttempts := toNum js row.recoveryAttempts
  tags := parseJsonColumn js row.tags
  searchAttributes := parseJsonColumn js row.searchAttributes
  priority := toNum js row.priority
  awaitingDecisionTaskId := row.awaitingDecisionTaskId
  wakeRequestedAt := toNum js row.wakeRequestedAt
  createdAt := some (toNumOr0 js (some row.createdAt))
  updatedAt := some (toNumOr0 js (some row.updatedAt))

/-- What a settlement reads as: a field that it lacks is undefined. -/
def CarriedSettlement.read (s : CarriedSettlement Number Json) : StepSettlement Number Json where
  runId := s.runId
  seq := s.seq
  status := s.status
  output := s.output.join
  error := s.error.join
  events := s.events.join
  startedAt := s.startedAt
  finishedAt := s.finishedAt

/-- The checkpoint of a row. -/
def rowToCheckpoint [OfNat Number 0] (row : CheckpointRow (Handed Number)) :
    StepCheckpoint Number Json where
  runId := row.runId
  seq := toNumOr0 js (some row.seq)
  name := row.name
  kind := row.kind
  stepId := row.stepId
  status := row.status
  input := parseJsonColumn js row.input
  output := parseJsonColumn js row.output
  error := parseJsonColumn js row.error
  events := parseJsonColumn js row.events
  attempts := toNumOr0 js (some row.attempts)
  workerGroup := row.workerGroup
  queue := row.queue
  wakeAt := toNum js row.wakeAt
  parallelGroup := row.parallelGroup
  enqueuedAt := some ((toNum js row.enqueuedAt).getD (toNumOr0 js (some row.startedAt)))
  startedAt := toNumOr0 js (some row.startedAt)
  finishedAt := toNumOr0 js (some row.finishedAt)
  lastHeartbeatAt := toNum js row.lastHeartbeatAt
  heartbeatProgress := parseJsonColumn js row.heartbeatProgress

/-- A number as a driver hands it back: as it is, or as a decimal text. -/
def handBack (asText : Bool) (value : Number) : Handed Number :=
  if asText then .text (js.numberText value) else .number value

/-- A row of the runs as a driver hands it back. -/
def RunRow.handBack (asText : NumericColumn → Bool) (row : RunRow Number) :
    RunRow (Handed Number) :=
  { row with
    wakeAt := row.wakeAt.map (Lucid.handBack js (asText .wakeAt))
    lockedUntil := row.lockedUntil.map (Lucid.handBack js (asText .lockedUntil))
    recoveryAttempts := row.recoveryAttempts.map (Lucid.handBack js (asText .recoveryAttempts))
    priority := row.priority.map (Lucid.handBack js (asText .priority))
    wakeRequestedAt := row.wakeRequestedAt.map (Lucid.handBack js (asText .wakeRequestedAt))
    createdAt := Lucid.handBack js (asText .createdAt) row.createdAt
    updatedAt := Lucid.handBack js (asText .updatedAt) row.updatedAt }

/-- A row of the checkpoints as a driver hands it back. -/
def CheckpointRow.handBack (asText : NumericColumn → Bool) (row : CheckpointRow Number) :
    CheckpointRow (Handed Number) :=
  { row with
    seq := Lucid.handBack js (asText .seq) row.seq
    attempts := Lucid.handBack js (asText .attempts) row.attempts
    wakeAt := row.wakeAt.map (Lucid.handBack js (asText .wakeAt))
    enqueuedAt := row.enqueuedAt.map (Lucid.handBack js (asText .enqueuedAt))
    startedAt := Lucid.handBack js (asText .startedAt) row.startedAt
    finishedAt := Lucid.handBack js (asText .finishedAt) row.finishedAt
    lastHeartbeatAt := row.lastHeartbeatAt.map (Lucid.handBack js (asText .lastHeartbeatAt)) }

end Mappers

end Durable.Lucid
