import Durable.Data.Rows

/-! The rows of a database that runs and checkpoints are stored as. -/

namespace Durable.Lucid

/-- What the columns take from JavaScript and the driver. -/
structure Columns (Number Json : Type) where
  numberText : Number → String
  number : String → Option Number
  number_numberText : ∀ value, number (numberText value) = some value
  numberText_plain : ∀ value, Char.ofNat 0 ∉ (numberText value).toList
  stringify : Json → String
  /-- The value of a text, or none where it is not one of JSON. -/
  parse : String → Option Json
  parse_stringify : ∀ value, parse (stringify value) = some value

/-- The recorded result of the operation at one position of a run. -/
structure StepCheckpoint (Number Json : Type) where
  runId : String
  seq : Number
  name : String
  kind : StepKind
  stepId : String
  status : StepStatus
  input : Option Json := none
  output : Option Json := none
  error : Option Json := none
  events : Option Json := none
  attempts : Number
  workerGroup : Option String := none
  queue : Option String := none
  wakeAt : Option Number := none
  parallelGroup : Option String := none
  enqueuedAt : Option Number := none
  startedAt : Number
  finishedAt : Number
  lastHeartbeatAt : Option Number := none
  heartbeatProgress : Option Json := none
deriving DecidableEq

/-- What a worker's result changes on its step's checkpoint. -/
structure StepSettlement (Number Json : Type) where
  runId : String
  seq : Number
  status : ResultStatus
  output : Option Json := none
  error : Option Json := none
  events : Option Json := none
  startedAt : Number
  finishedAt : Number
deriving DecidableEq

/-- The checkpoint columns that a settlement writes. -/
structure SettledCheckpointColumns (Number : Type) where
  status : StepStatus
  output : Option String
  error : Option String
  events : Option String
  startedAt : Number
  finishedAt : Number
deriving DecidableEq

/-- The checkpoint columns that a settlement leaves. -/
structure KeptCheckpointColumns (Number : Type) where
  runId : String
  seq : Number
  name : String
  kind : StepKind
  stepId : String
  input : Option String
  attempts : Number
  workerGroup : Option String
  queue : Option String
  wakeAt : Option Number
  parallelGroup : Option String
  enqueuedAt : Option Number
deriving DecidableEq

/-- The columns that a checkpoint is written to. -/
structure WrittenCheckpointColumns (Number : Type) extends
    KeptCheckpointColumns Number, SettledCheckpointColumns Number
deriving DecidableEq

/-- A row of the checkpoints; only heartbeats write its last two columns. -/
structure CheckpointRow (Number : Type) extends WrittenCheckpointColumns Number where
  lastHeartbeatAt : Option Number
  heartbeatProgress : Option String
deriving DecidableEq

section Mappers

variable {Number Json : Type} (js : Columns Number Json)

/-- A payload as a text, an absent one as NULL. -/
def toJson (value : Option Json) : Option String := value.map js.stringify

/-- The columns of a checkpoint. -/
def checkpointToRow (cp : StepCheckpoint Number Json) : WrittenCheckpointColumns Number where
  runId := cp.runId
  seq := cp.seq
  name := cp.name
  kind := cp.kind
  stepId := cp.stepId
  status := cp.status
  input := toJson js cp.input
  output := toJson js cp.output
  error := toJson js cp.error
  events := toJson js cp.events
  attempts := cp.attempts
  workerGroup := cp.workerGroup
  queue := cp.queue
  wakeAt := cp.wakeAt
  parallelGroup := cp.parallelGroup
  enqueuedAt := some (cp.enqueuedAt.getD cp.startedAt)
  startedAt := cp.startedAt
  finishedAt := cp.finishedAt

/-- The columns of a settlement. -/
def settlementToRow (s : StepSettlement Number Json) : SettledCheckpointColumns Number where
  status := s.status.stepStatus
  output := toJson js s.output
  error := toJson js s.error
  events := toJson js s.events
  startedAt := s.startedAt
  finishedAt := s.finishedAt

end Mappers

end Durable.Lucid
