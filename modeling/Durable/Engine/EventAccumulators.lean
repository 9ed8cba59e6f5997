import Durable.Ctx.Body
import Durable.Engine.Addresses

/-! The accumulators that coalesce the events of a trigger into fewer runs of its target. -/

namespace Durable

namespace EventAccumulators

open Addresses (accumulatorRunId)

/-- How the events of a burst become one input of the target. -/
inductive BatchMode where
  /-- The last event, once there has been quiet for a while. -/
  | debounce
  /-- All events, once there are enough of them or the window is over. -/
  | batch (maxSize : Nat)
deriving Repr, DecidableEq

/-- A subscriber's `debounce` or `batch`; its key may fail to be a text, and has a type then. -/
structure EventBatchConfig where
  mode : BatchMode
  windowMs : Nat
  key : Option (Payload → Except String String) := none

/-- The input of an accumulator's run. -/
structure AccumulatorInput where
  target : String
  mode : BatchMode
  windowMs : Nat
  key : Option String := none
  /-- The dedupe ids that the run before took over. -/
  seen : Option (List String) := none
deriving Repr, DecidableEq

/-- What an accumulator takes from its token: its dedupe id when it has one, and the input. -/
structure RoutedEvent where
  id : Option String
  payload : Payload

/-- The key of a dedupe id in the payload of a signal. -/
def routedEvent : String := "__durableRoutedEvent"

/-- How many dedupe ids an accumulator takes over into its next burst. -/
def seenCap : Nat := 200

/-- An event as it is signalled. -/
def routed (payload : Payload) : Option String → Payload
  | some id =>
    some (.obj ([(routedEvent, .str id)] ++ (payload.map fun value => ("payload", value)).toList))
  | none => payload

/-- A signal as it was routed. -/
def unwrap (signal : Payload) : RoutedEvent :=
  match signal.bind (·.field routedEvent) with
  | some (.str id) => { id := some id, payload := signal.bind (·.field "payload") }
  | _ => { id := none, payload := signal }

/-- What `signalWithStart` is asked for. -/
structure SignalWithStart where
  workflow : String
  input : AccumulatorInput
  runId : String
  token : String
  payload : Payload

/-- The accumulator of an event's key is signalled, and started if there is none. -/
def signalWithStart (target : String) (config : EventBatchConfig) (key : Option String)
    (payload : Payload) (dedupeId : Option String) : SignalWithStart where
  workflow :=
    match config.mode with
    | .debounce => "__evt_debounce"
    | .batch _ => "__evt_batch"
  input := { target, mode := config.mode, windowMs := config.windowMs, key }
  runId := accumulatorRunId target key
  token := accumulatorRunId target key
  payload := routed payload dedupeId

/-- Route an event to the accumulator of its key; a key that is no text is a `TypeError`. -/
def route (target : String) (config : EventBatchConfig) (payload : Payload)
    (dedupeId : Option String) : Except String SignalWithStart :=
  match config.key with
  | none => .ok (signalWithStart target config none payload dedupeId)
  | some keyOf =>
    match keyOf payload with
    | .ok key => .ok (signalWithStart target config (some key) payload dedupeId)
    | .error type => .error s!"eventBatch key for {target} returned {type}, expected a string"

/-- The dedupe ids an accumulator has taken: this burst's, and the last ones of earlier bursts. -/
structure Seen where
  ids : List String
deriving Repr, DecidableEq

namespace Seen

/-- What the input of a run brings along. -/
def ofCarried (carried : Option (List String)) : Seen := ⟨carried.getD []⟩

/-- Record an id; false when it was already taken. An event without an id is always new. -/
def take (seen : Seen) : Option String → Bool × Seen
  | none => (true, seen)
  | some id => if id ∈ seen.ids then (false, seen) else (true, ⟨seen.ids ++ [id]⟩)

/-- The input of the next burst. -/
def carry (seen : Seen) (input : AccumulatorInput) : AccumulatorInput :=
  { input with
    seen := if 0 < seen.ids.length then some (seen.ids.drop (seen.ids.length - seenCap)) else none }

end Seen

/-- What an accumulator's run is at. -/
inductive Phase where
  /-- It waits for the first event of a burst. -/
  | parked
  /-- A debounce waits for quiet. -/
  | extending (last : Payload)
  /-- A batch reads the clock, for its deadline. -/
  | opened (events : List Payload)
  /-- A batch reads the clock, for what remains until its deadline. -/
  | checking (events : List Payload) (deadline : Int)
  /-- A batch waits for its next event. -/
  | collecting (events : List Payload) (deadline : Int) (remaining : Nat)
  /-- It starts its target. -/
  | firing (input : Payload)
  /-- It has failed. -/
  | failed (error : Thrown)

/-- One run of an accumulator. -/
structure AccumulatorRun where
  input : AccumulatorInput
  ids : Seen
  phase : Phase

/-- The input of the target that a batch is started with. -/
def batchInput (events : List Payload) : Payload :=
  some (.obj [("events", .arr (events.map (·.getD .null)))])

namespace AccumulatorRun

/-- A run from its start. -/
def start (input : AccumulatorInput) : AccumulatorRun :=
  { input, ids := .ofCarried input.seen, phase := .parked }

variable (run : AccumulatorRun)

/-- The operation of its `ctx` that a run performs. -/
def asks : Option CtxOp :=
  let token := Token.named (accumulatorRunId run.input.target run.input.key)
  match run.phase with
  | .parked => some (.waitForSignal token none)
  | .extending _ => some (.waitForSignal token (some run.input.windowMs))
  | .opened _ | .checking _ _ => some .now
  | .collecting _ _ remaining => some (.waitForSignal token (some remaining))
  | .firing _ => some (.startChild none)
  | .failed _ => none

/-- A signal's event is taken, or dropped if its id already was. -/
def receive (signal : Payload) (taken : Payload → Phase) (dropped : Phase) : AccumulatorRun :=
  let event := unwrap signal
  let isNew := run.ids.take event.id
  { run with ids := isNew.2, phase := if isNew.1 then taken event.payload else dropped }

/-- A batch goes on while it has room. -/
def gather (maxSize : Nat) (events : List Payload) (deadline : Int) : Phase :=
  if events.length < maxSize then .checking events deadline else .firing (batchInput events)

/-- What a debounce does with what it observes. -/
def debounce (observed : Observed) : AccumulatorRun :=
  match run.phase, observed with
  | .parked, .returned signal => run.receive signal .extending .parked
  | .extending last, .returned signal => run.receive signal .extending (.extending last)
  | .extending last, .threw (.timeout _ _) => { run with phase := .firing last }
  | _, .threw error => { run with phase := .failed error }
  | _, _ => run

/-- What a batch does with what it observes. -/
def batch (maxSize : Nat) (observed : Observed) : AccumulatorRun :=
  match run.phase, observed with
  | .parked, .returned signal => run.receive signal (fun payload => .opened [payload]) .parked
  | .opened events, .returned (some (.num now)) =>
    { run with phase := gather maxSize events (now + run.input.windowMs) }
  | .checking events deadline, .returned (some (.num now)) =>
    let remaining := deadline - now
    if remaining ≤ 0 then { run with phase := .firing (batchInput events) }
    else { run with phase := .collecting events deadline remaining.toNat }
  | .collecting events deadline _, .returned signal =>
    run.receive signal (fun payload => gather maxSize (events ++ [payload]) deadline)
      (gather maxSize events deadline)
  | .collecting events _ _, .threw (.timeout _ _) =>
    { run with phase := .firing (batchInput events) }
  | _, .threw error => { run with phase := .failed error }
  | _, _ => run

/-- A run after what it observes. -/
def answer (observed : Observed) : AccumulatorRun :=
  match run.input.mode with
  | .debounce => run.debounce observed
  | .batch maxSize => run.batch maxSize observed

end AccumulatorRun

end EventAccumulators

end Durable
