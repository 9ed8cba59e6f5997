import Durable.Ctx.Entities

/-! The built-in runner of durable entities, over crashes and replays. -/

namespace Durable

namespace EntityRuns

/-- The message an entity's run takes from its token. -/
structure EntityMessage where
  op : Option String
  arg : Payload
  /-- The token that is signalled the result. -/
  reply : Option String
  /-- The id of a send from inside a workflow, which may be repeated. -/
  id : Option String
  /-- A wake-up with no operation. -/
  nudge : Bool
deriving DecidableEq

/-- A signal as a message; of `undefined` and `null` no property can be read. -/
def EntityMessage.ofPayload : Payload → Option EntityMessage
  | none | some .null => none
  | some signal =>
    some {
      op := textField (some signal) "op"
      arg := signal.field "arg"
      reply := (textField (some signal) "reply").filter (· ≠ "")
      id := textField (some signal) "id"
      nudge := signal.field "nudge" == some (.bool true) }

/-- An entity, as it was registered. -/
structure EntityConfig where
  initialState : Payload
  /-- The operations that have a handler. -/
  handlers : List String

/-- What a handler comes to: its result and the state it leaves, or its failure. -/
abbrev EntityOutcome := Except StepError (Payload × Payload)

/-- What the checkpoint of an operation holds. -/
def entityOutput (result state : Payload) : Value :=
  .obj ((result.map fun value => ("result", value)).toList ++
    (state.map fun value => ("state", value)).toList)

/-- What a runner is at. -/
inductive EntityPhase where
  /-- It waits for a message. -/
  | waiting
  /-- It runs the handler of a message. -/
  | handling (message : EntityMessage)
  /-- It publishes the state. -/
  | publishing (message : EntityMessage) (result : Payload)
  /-- It answers the caller. -/
  | replying (reply : String) (result : Payload)
  /-- It has failed. -/
  | failed
deriving DecidableEq

/-- The runner of an entity, as its body keeps it in memory. -/
structure EntityRun where
  /-- The turns of its loop. -/
  round : Nat := 0
  state : Payload
  /-- The ids of the sends that were handled. -/
  seen : List String := []
  phase : EntityPhase := .waiting
deriving DecidableEq

namespace EntityRun

variable (run : EntityRun)

/-- The next turn of the loop. -/
def again : EntityRun := { run with round := run.round + 1, phase := .waiting }

/-- A nudge, and a copy of a send that was handled, are skipped. -/
def hear (message : EntityMessage) : EntityRun :=
  if message.nudge then run.again
  else
    match message.id with
    | none => { run with phase := .handling message }
    | some id =>
      if id ∈ run.seen then run.again
      else { run with seen := run.seen ++ [id], phase := .handling message }

/-- A runner after what it observes. -/
def answer (observed : Observed) : EntityRun :=
  match run.phase, observed with
  | .waiting, .returned signal =>
    match EntityMessage.ofPayload signal with
    | none => { run with phase := .failed }
    | some message => run.hear message
  | .handling message, .returned output =>
    { run with
      state := output.bind (·.field "state")
      phase := .publishing message (output.bind (·.field "result")) }
  | .publishing message result, .returned _ =>
    match message.reply with
    | none => run.again
    | some reply => { run with phase := .replying reply result }
  | .replying _ _, .returned _ => run.again
  | _, .threw _ => { run with phase := .failed }
  | _, _ => run

end EntityRun

/-- The operations among messages: no nudges, and no copies of earlier sends. -/
def operations (messages : List EntityMessage) : List EntityMessage :=
  messages.foldl (fun earlier message =>
    if message.nudge || message.id.any (· ∈ earlier.filterMap (·.id)) then earlier
    else earlier ++ [message]) []

/-- An entity's run: what is stored of it, the turn that is under way, and what it has done. -/
structure EntityWorld where
  /-- What its operations came to, by their checkpoints. -/
  records : List Observed := []
  /-- A turn, and how many records it has replayed. -/
  turn : Option (EntityRun × Nat) := none
  /-- A ghost: the messages it has taken from its token. -/
  heard : List EntityMessage := []
  /-- The states that were published, each with the place of the operation that left it. -/
  published : List (Nat × Payload) := []
  /-- The answers that were signalled, each with the place of the operation it is to. -/
  replies : List (Nat × String × Payload) := []

/-- What can happen to an entity's run. -/
inductive EntityMove where
  /-- A turn begins, with nothing in memory. -/
  | begin
  /-- The turn's process crashes, or loses its lease. -/
  | crash
  /-- The turn reads a checkpoint. -/
  | replay
  /-- The turn's wait takes a signal. -/
  | hear (signal : Payload)
  /-- The turn runs a handler, and records what it came to unless it crashes first. -/
  | handle (outcome : EntityOutcome) (recorded : Bool)
  /-- The turn publishes the state. -/
  | publish
  /-- The turn answers a caller, and records that unless it crashes first. -/
  | send (recorded : Bool)

namespace EntityWorld

variable (world : EntityWorld)

/-- A turn that has replayed everything. -/
def live : Option EntityRun :=
  match world.turn with
  | some (run, replayed) => if replayed = world.records.length then some run else none
  | none => none

/-- The place of the latest operation. -/
def place : Nat := (operations world.heard).length - 1

/-- An operation of the turn is recorded, and the turn goes on. -/
def record (run : EntityRun) (observed : Observed) : EntityWorld :=
  { world with
    records := world.records ++ [observed]
    turn := some (run.answer observed, world.records.length + 1) }

/-- What a handler comes to fails the turn, or is recorded, unless the turn crashes. -/
def settle (run : EntityRun) (outcome : EntityOutcome) (recorded : Bool) : EntityWorld :=
  match outcome with
  | .ok (result, state) =>
    if recorded then world.record run (.returned (some (entityOutput result state)))
    else { world with turn := none }
  | .error _ => { world with turn := none }

/-- One step of an entity's run. -/
def step (config : EntityConfig) (world : EntityWorld) : EntityMove → Option EntityWorld
  | .begin => some { world with turn := some ({ state := config.initialState }, 0) }
  | .crash => some { world with turn := none }
  | .replay => do
    let (run, replayed) ← world.turn
    let observed ← world.records[replayed]?
    return { world with turn := some (run.answer observed, replayed + 1) }
  | .hear signal => do
    let run ← world.live
    match run.phase with
    | .waiting =>
      return { world.record run (.returned signal) with
        heard := world.heard ++ (EntityMessage.ofPayload signal).toList }
    | _ => none
  | .handle outcome recorded => do
    let run ← world.live
    match run.phase with
    | .handling message =>
      -- An operation without a handler is a `FatalError`.
      if message.op.any (· ∈ config.handlers) then return world.settle run outcome recorded
      else return { world with turn := none }
    | _ => none
  | .publish => do
    let run ← world.live
    match run.phase with
    | .publishing _ _ =>
      return { world.record run (.returned none) with
        published := world.published ++ [(world.place, run.state)] }
    | _ => none
  | .send recorded => do
    let run ← world.live
    match run.phase with
    | .replying reply result =>
      let sent := { world with replies := world.replies ++ [(world.place, reply, result)] }
      return if recorded then sent.record run (.returned none) else { sent with turn := none }
    | _ => none

end EntityWorld

end EntityRuns

end Durable
