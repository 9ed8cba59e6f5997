import Mathlib.Algebra.GroupWithZero.Nat
import Durable.Ctx.FlowControl
import Durable.Engine.StepResults
import Durable.Interleaving.Process

/-! Who holds the slots of a flow-control queue: dispatched steps, and paths on their way. -/

namespace Durable

open Engine Interleaving

/-- What a path does with slots. -/
inductive SlotRole where
  /-- It calls a step: it may be given a slot, and books it on the step's row. -/
  | call
  /-- It settles results: it gives back the slots of the steps it settles. -/
  | result
  | other
deriving Repr, DecidableEq

/-- A path's part in the slots. -/
structure SlotPhase where
  role : SlotRole
  seen : String × Nat → Option StepCheckpoint := fun _ => none
  latest : Option (String × Nat) := none
  admitted : Option String := none
  owed : List String := []
  dropped : List (String × Nat) := []

namespace SlotPhase

/-- A path that has settled a step's row owes the row's slot, unless it has dropped it already. -/
def settles (phase : SlotPhase) (key : String × Nat) (queue : Option String) : SlotPhase :=
  if key ∈ phase.dropped then phase else { phase with owed := queue.toList ++ phase.owed }

/-- What a path owes after it has settled some of several results. -/
def settlesEach (phase : SlotPhase) : List (StepSettlement × Bool) → SlotPhase
  | [] => phase
  | (settlement, wrote) :: rest =>
    let key := (settlement.runId, settlement.seq)
    settlesEach (if wrote then phase.settles key ((phase.seen key).bind (·.queue)) else phase) rest

/-- The path writes a row to book the slot it has been given. -/
def books (phase : SlotPhase) (row : StepCheckpoint) : Prop :=
  phase.role = .call ∧ row.status = .pending ∧ row.queue = phase.admitted ∧ phase.admitted ≠ none

instance (phase : SlotPhase) (row : StepCheckpoint) : Decidable (phase.books row) :=
  inferInstanceAs (Decidable (_ ∧ _))

/-- What a path has in hand after it has written a row. -/
def writes (phase : SlotPhase) (row : StepCheckpoint) : SlotPhase :=
  if phase.books row then { phase with admitted := none }
  else if phase.role = .result then phase.settles (row.runId, row.seq) row.queue
  else phase

/-- What a path has in hand after it has given a slot back. -/
def gives (phase : SlotPhase) (queue : String) : SlotPhase :=
  if phase.admitted = some queue then { phase with admitted := none }
  else if queue ∈ phase.owed then { phase with owed := phase.owed.erase queue }
  else { phase with dropped := phase.latest.toList ++ phase.dropped }

/-- A path's part in the slots after an operation. -/
def after (phase : SlotPhase) : (op : StoreOp) → op.Answer → SlotPhase
  | .getCheckpoint runId seq, answer =>
    { phase with
      seen := fun key => if key = (runId, seq) then answer else phase.seen key
      latest := some (runId, seq) }
  | .replayCheckpoints runId, answer =>
    { phase with seen := fun key => if key.1 = runId then answer key.2 else phase.seen key }
  | .tryAdmit queue _, (answer : Option QueueAdmission) =>
    if answer = some .admitted then { phase with admitted := some queue } else phase
  | .saveCheckpoint row, _ => phase.writes row
  | .saveCheckpointIfPending row, (answer : Bool) =>
    if phase.role = .result ∧ answer then phase.settles (row.runId, row.seq) row.queue else phase
  | .settleCheckpointsIfPending settlements, (answer : List Bool) =>
    if phase.role = .result then phase.settlesEach (settlements.zip answer) else phase
  | .releaseSlot queue, _ => phase.gives queue
  | _, _ => phase

end SlotPhase

/-- What a path may do with slots. -/
def SlotPhase.may (phase : SlotPhase) : StoreOp → Prop
  | .tryAdmit .. => phase.role = .call ∧ phase.admitted = none
  | .releaseSlot queue =>
    phase.admitted = some queue ∨ queue ∈ phase.owed ∨
      phase.role = .result ∧ phase.owed = [] ∧
        ∃ key row, phase.latest = some key ∧ phase.seen key = some row ∧ row.status = .pending ∧
          row.queue = some queue
  | _ => True

/-- What the store answers a path: rows where they belong, and no refusal once it has a slot. -/
def SlotPhase.fits (phase : SlotPhase) (op : StoreOp) (answer : op.Answer) : Prop :=
  fitsRows op answer ∧
    match op, answer with
    | .settleCheckpointsIfPending settlements, answer =>
      List.length (α := Bool) answer = settlements.length
    | .dispatchRefusal _, answer => phase.admitted ≠ none → answer = none
    | _, _ => True

/-- Watch what a path does with slots. -/
def slotWatch : Monitor StoreOp StoreOp.Answer SlotPhase where
  allows := SlotPhase.may
  expects := SlotPhase.fits
  advance := SlotPhase.after

/-- The queue whose slot a row's attempt holds. -/
def StepCheckpoint.slot (row : StepCheckpoint) : Option String :=
  if row.status = .pending then row.queue else none

namespace Store

variable (store : Store)

/-- The queue whose slot the step at a position holds. -/
def slotAt (key : String × Nat) : Option String :=
  (store.checkpoints.get key).bind StepCheckpoint.slot

/-- The steps of a queue that were sent, and whose result was neither settled nor dropped. -/
def outstanding (every : List SlotPhase) (queue : String) : List (String × Nat) :=
  store.checkpoints.keys.filter fun key =>
    store.slotAt key = some queue ∧ ∀ phase ∈ every, key ∉ phase.dropped

end Store

/-- The slots of a queue a path has in hand: given and not booked, or to be given back. -/
def SlotPhase.hand (phase : SlotPhase) (queue : String) : Nat :=
  (if phase.admitted = some queue then 1 else 0) + phase.owed.count queue

/-- The slots of a queue that paths have in hand. -/
def inHand (every : List SlotPhase) (queue : String) : Nat :=
  (every.map (·.hand queue)).sum

/-- Each slot of a queue is held by one outstanding step or one path, and the cap is kept. -/
def SlotsConserved (store : Store) (every : List SlotPhase) : Prop :=
  ∀ queue controller, store.queues.get queue = some controller →
    controller.inFlight = (store.outstanding every queue).length + inHand every queue ∧
      ∀ cap, controller.config.concurrency = some cap → controller.inFlight ≤ cap

/-- A result's path pays for the step it settles: the step holds this slot, or it was dropped. -/
def SlotPhase.pays (phase : SlotPhase) (others : List SlotPhase) (store : Store)
    (key : String × Nat) (queue : Option String) : Prop :=
  key ∈ phase.dropped ∨ store.slotAt key = queue ∧ ∀ other ∈ others, key ∉ other.dropped

/-- A write over a step's row pays for the slot the row holds, or leaves it as it is. -/
def SlotPhase.accounts (phase : SlotPhase) (others : List SlotPhase) (store : Store)
    (row : StepCheckpoint) : Prop :=
  if phase.role = .result then
    phase.pays others store (row.runId, row.seq) row.queue ∧ row.slot = none
  else store.slotAt (row.runId, row.seq) = row.slot

/-- Every slot is accounted for by the operation that moves it. -/
def SlotPhase.careful (store : Store) (phase : SlotPhase) (others : List SlotPhase) :
    StoreOp → Prop
  | .saveCheckpoint row =>
    if phase.books row then
      -- A slot is booked on a row that holds none, for a step whose result nobody has dropped.
      store.slotAt (row.runId, row.seq) = none ∧
        ∀ other ∈ phase :: others, (row.runId, row.seq) ∉ other.dropped
    else phase.accounts others store row
  | .saveCheckpointIfPending row =>
    ∀ held ∈ store.checkpoints.get (row.runId, row.seq), held.status = .pending →
      phase.accounts others store row
  | .settleCheckpointsIfPending settlements => ∀ settlement ∈ settlements,
      ∀ held ∈ store.checkpoints.get (settlement.runId, settlement.seq), held.status = .pending →
        if phase.role = .result then
          phase.pays others store (settlement.runId, settlement.seq)
            ((phase.seen (settlement.runId, settlement.seq)).bind (·.queue))
        else held.queue = none
  | .registerChildWaits entries => ∀ entry ∈ entries,
      store.slotAt (entry.checkpoint.runId, entry.checkpoint.seq) = none ∧
        entry.checkpoint.slot = none
  | .releaseSlot queue => phase.admitted ≠ some queue → queue ∉ phase.owed →
      ∀ key ∈ phase.latest, store.slotAt key = some queue ∧
        ∀ other ∈ phase :: others, key ∉ other.dropped
  | .dispatchRefusal runId => phase.admitted ≠ none → store.around.refusals runId = none
  | _ => True

/-- Slots are moved with care, and no path stops with a slot in hand. -/
def carefulMoves : Admission Store StoreOp SlotPhase where
  step store phase others op := phase.careful store others op
  crash _ phase _ := phase.admitted = none ∧ phase.owed = []

instance (phase : SlotPhase) (others : List SlotPhase) (store : Store) (key : String × Nat)
    (queue : Option String) : Decidable (phase.pays others store key queue) :=
  inferInstanceAs (Decidable (_ ∨ _))

instance (phase : SlotPhase) (others : List SlotPhase) (store : Store) (row : StepCheckpoint) :
    Decidable (phase.accounts others store row) := by
  unfold SlotPhase.accounts
  infer_instance

instance (store : Store) (phase : SlotPhase) (others : List SlotPhase) (op : StoreOp) :
    Decidable (carefulMoves.step store phase others op) := by
  cases op <;> unfold carefulMoves SlotPhase.careful <;> infer_instance

instance (store : Store) (phase : SlotPhase) (others : List SlotPhase) :
    Decidable (carefulMoves.crash store phase others) :=
  inferInstanceAs (Decidable (_ ∧ _))

/-- A path that neither asks for slots nor gives any back. -/
def Slotless : StoreOp → Prop
  | .tryAdmit .. | .releaseSlot _ => False
  | _ => True

/-- The paths of steps with a queue, of their results, and of everything else. -/
inductive SlotPath : SlotRole → Engine Unit → Prop where
  | step (host : CtxHost) (step : StepDef) (input : Payload) (call : QueueCall) (current : Nat) :
      SlotPath .call (discard (host.stepGated step input call current))
  | result (support : StoreSupport) (queuedIn : Nat → Nat → Bool) (result : StepResult) :
      SlotPath .result (completeOneRemoteResult support queuedIn result)
  | results (support : StoreSupport) (queuedIn : Nat → Nat → Bool) (id : String)
      (results : List StepResult) :
      SlotPath .result (completeRemoteResults support queuedIn id results)
  | other (path : Engine Unit) (slotless : path.Uses Slotless) : SlotPath .other path

/-- The paths under way, none with a slot in hand. -/
def slotPool (paths : List (SlotRole × Engine Unit)) :
    List (Process StoreOp StoreOp.Answer SlotPhase Unit) :=
  paths.map fun path => { phase := { role := path.1 }, rest := path.2 }

/-- The paths over one store; any of them may stop for good, and time passes. -/
def slotPaths : System Store StoreOp (Process StoreOp StoreOp.Answer SlotPhase Unit) Nat
    StoreOp.Answer :=
  processes slotWatch Store.exec
    (fun process => some { process with rest := .done (), again := none }) Store.elapse

/-- A store, and the paths under way over it. -/
abbrev SlotConfig := Config Store (Process StoreOp StoreOp.Answer SlotPhase Unit)

/-- No slot is taken, and no step holds one. -/
structure SlotsFree (store : Store) : Prop where
  keyed : store.Keyed
  idle : ∀ queue controller, store.queues.get queue = some controller → controller.inFlight = 0
  vacant : ∀ key, store.slotAt key = none

/-- What holds of the slots in a configuration. -/
structure SlotsKept (config : SlotConfig) : Prop where
  /-- Each slot is an outstanding step's or in a path's hand, and the cap is kept. -/
  conserved : SlotsConserved config.shared (phases config.pool)
  /-- Once every path is at rest, as many slots are taken as steps are outstanding. -/
  settled : (∀ process ∈ config.pool, process.rests = true) →
    ∀ queue controller, config.shared.queues.get queue = some controller →
      controller.inFlight = (config.shared.outstanding (phases config.pool) queue).length

end Durable
