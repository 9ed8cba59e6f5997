import Mathlib.Logic.Relation
import Durable.Ctx.Children
import Durable.Ctx.Fan

/-! The turns of a fan of children: what is read, folded, registered and started, and the crashes. -/

namespace Durable

/-- The prefix of the name of a folded checkpoint. -/
def foldedPrefix : String := "fan:"

/-- A checkpoint stands for a wave of children that has been folded. -/
def isFoldedName (name : String) : Bool := foldedPrefix.toList.isPrefixOf name.toList

/-- A settled wave, as one checkpoint records it. -/
structure FoldedChildren where
  first : Nat
  values : List Value
deriving Repr

/-- The output of a folded checkpoint. -/
def FoldedChildren.toValue (folded : FoldedChildren) : Value :=
  .obj [("from", .num folded.first), ("values", .arr folded.values)]

/-- Read the output of a folded checkpoint. -/
def foldedChildren (output : Option Value) : Option FoldedChildren :=
  match output.bind (·.field "from"), output.bind (·.field "values") with
  | some (.num first), some (.arr values) => some ⟨first.toNat, values⟩
  | _, _ => none

/-- The checkpoints of a fan as a turn reads them, and which of them are folded. -/
structure FanView where
  rows : FanRows
  folded : Nat → Bool := fun _ => false

/-- The smallest fan whose settled waves are folded. -/
def foldMinFan : Nat := 100

/-- One store operation of a turn. -/
inductive FanWrite where
  | resolve (index : Nat) (payload : Option Value)
  | fold (items : List Nat) (row : StepCheckpoint)
  | register (index : Nat)
  | start (index : Nat)

namespace ChildFan

variable (fan : ChildFan)

/-- What the ids of a wave's children begin with. -/
def allBase (wave : Option Nat) : String :=
  match wave with
  | none => s!"{fan.runId}.all.{fan.firstSeq}."
  | some wave => s!"{fan.runId}.all.{fan.firstSeq}.w{wave}."

/-- The name of the checkpoint of a folded wave. -/
def allFoldedName (wave : Option Nat) : String := foldedPrefix ++ fan.allBase wave

/-- The checkpoint of a child that a folded one stands for. -/
def unfolded (row : StepCheckpoint) (index : Nat) (value : Value) : StepCheckpoint :=
  { row with seq := fan.firstSeq + index, output := some (Completion.ok (some value)).toValue }

/-- The view with the children of one fold filled in. -/
def fill (row : StepCheckpoint) (view : FanView) (folded : FoldedChildren) : FanView where
  rows index :=
    match (if folded.first ≤ index then folded.values[index - folded.first]? else none) with
    | some value => some (fan.unfolded row index value)
    | none => view.rows index
  folded index :=
    view.folded index ||
      (decide (folded.first ≤ index) && (folded.values[index - folded.first]?).isSome)

/-- Expand the checkpoint at one position, if it is a fold that has not been expanded. -/
def expandAt (view : FanView) (index : Nat) : Except String FanView :=
  match view.rows index with
  | none => .ok view
  | some row =>
    if !isFoldedName row.name || view.folded index then .ok view
    else
      match foldedChildren row.output with
      | some folded => .ok (fan.fill row view folded)
      | none =>
        let name := row.name
        let seq := row.seq
        .error s!"ctx.all: folded checkpoint \"{name}\" at seq {seq} is malformed"

/-- Expand the folds at some positions, one after the other. -/
def expandEach : List Nat → FanView → Except String FanView
  | [], view => .ok view
  | index :: rest, view =>
    match fan.expandAt view index with
    | .error message => .error message
    | .ok view => expandEach rest view

/--
`readFan`: the fan's checkpoints, with every fold expanded.

What the turn's replay snapshot does not hold is read from the store.
-/
def readFan (replay stored : FanRows) : Except String FanView :=
  match fan.expandEach (List.range fan.size) { rows := replay } with
  | .error message => .error message
  | .ok view =>
    if (List.range fan.size).all fun index => (view.rows index).isSome then .ok view
    else
      fan.expandEach (List.range fan.size) { view with
        rows := fun index => (view.rows index).orElse fun _ => stored index }

/-- The value of a child that has succeeded; an array of JSON values holds no `undefined`. -/
def okValue (row : Option StepCheckpoint) : Option Value :=
  match row with
  | none => none
  | some row =>
    if row.status = .completed ∧
        row.output.bind (·.field "ok") = some (.bool true) then
      some ((row.output.bind (·.field "value")).getD .null)
    else none

/-- The values of the children of a wave, if all of them have succeeded. -/
def foldValues (rows : FanRows) : List Nat → Option (List Value)
  | [] => some []
  | index :: rest =>
    match okValue (rows index), foldValues rows rest with
    | some value, some values => some (value :: values)
    | _, _ => none

/-- The checkpoint that a settled wave is folded into. -/
def foldRow (wave first : Nat) (values : List Value) : StepCheckpoint where
  runId := fan.runId
  seq := fan.firstSeq + first
  name := fan.allFoldedName (fan.waves.map fun _ => wave)
  kind := .signal
  output := some (FoldedChildren.toValue ⟨first, values⟩)
  parallelGroup := some (allGroup fan.firstSeq fan.size fan.mode)

/-- The fold of a wave, if it has one to make. -/
def foldWave (view : FanView) (rows : FanRows) (wave : Nat) : Option FanWrite :=
  match fan.waveItems wave with
  | [] => none
  | first :: rest =>
    if view.folded first then none
    else
      match foldValues rows (first :: rest) with
      | some values => some (.fold (first :: rest) (fan.foldRow wave first values))
      | none => none

/-- The placeholder of a child, as its wait is registered. -/
def placeholder (index : Nat) : StepCheckpoint where
  runId := fan.runId
  seq := fan.firstSeq + index
  name := childName (fan.id index)
  kind := .signal
  status := .running
  parallelGroup := some (allGroup fan.firstSeq fan.size fan.mode)

/-- A child has been sent, and has no completion. -/
def isPending (row : Option StepCheckpoint) : Bool := row.isSome && !isSettled row

/--
The store operations of a turn, in the groups it makes them in.

A group's operations reach the store in any order; the next group's only after all of them.
-/
def turnStages (compacts : Bool) (view : FanView) (found : Nat → Option (Option Value))
    (hasRun : Nat → Bool) : List (List FanWrite) :=
  let members := List.range fan.size
  let waiting := members.filter fun index => isPending (view.rows index)
  let resolves := waiting.filterMap fun index => (found index).map (.resolve index)
  let restarts := (waiting.filter fun index => (found index).isNone && !hasRun index).map .start
  let rows := fan.guardRows view.rows found
  match (if fan.mode = .failFast then fan.firstFailed rows else none) with
  | some _ => [resolves, restarts]
  | none =>
    let folds :=
      if compacts && decide (foldMinFan ≤ fan.size) then
        (List.range fan.waveCount).filterMap (fan.foldWave view rows)
      else []
    let unsent :=
      ((fan.activeWaves rows).flatMap fan.waveItems).filter fun index => (rows index).isNone
    [resolves, folds, unsent.map .register, restarts ++ unsent.map .start]

end ChildFan

/-- The children's runs: their completion, once they have ended. -/
abbrev ChildRuns := Nat → Option (Option Completion)

/-- A fan of children between two store operations. -/
structure ChildFanState where
  stored : FanRows := fun _ => none
  replay : FanRows := fun _ => none
  runs : ChildRuns := fun _ => none
  stages : List (List FanWrite) := []
  started : List String := []

namespace ChildFanState

variable (fan : ChildFan) (state : ChildFanState)

/-- Perform one operation. -/
def perform : FanWrite → ChildFanState
  | .resolve index payload =>
    { state with
      stored := fun other =>
        if other = index then some (fan.resolved index payload) else state.stored other }
  | .fold items row =>
    { state with
      stored := fun other =>
        if items.head? = some other then some row
        else if other ∈ items then none
        else state.stored other }
  | .register index =>
    { state with
      stored := fun other =>
        if other = index then some (fan.placeholder index) else state.stored other }
  | .start index =>
    match state.runs index with
    | some _ => state
    | none =>
      { state with
        runs := fun other => if other = index then some none else state.runs other
        started := state.started ++ [fan.id index] }

end ChildFanState

/-- A failure without what tells how it was delivered, and in which wave its child was sent. -/
def GatherItemFailure.plainly (failure : GatherItemFailure) : GatherItemFailure :=
  { failure with id := "", code := none, details := none }

/-- A result with its failure told plainly. -/
def Settled.plainly : Settled → Settled
  | .fulfilled value => .fulfilled value
  | .rejected failure => .rejected failure.plainly

/-- What a turn comes to, with its failures told plainly. -/
def FanOutcome.plainly : FanOutcome → FanOutcome
  | .threw error cancelled =>
    .threw ⟨error.failures.map GatherItemFailure.plainly, error.total⟩ cancelled
  | .suspended registered => .suspended registered
  | .returned outputs => .returned outputs
  | .settled results => .settled (results.map Settled.plainly)

namespace ChildFan

variable (fan : ChildFan)

/-- A payload tells how a child has ended: as it was delivered, or as its row tells it. -/
def Tells (completion : Completion) (payload : Option Value) : Prop :=
  payload = some completion.toValue ∨
    ∃ error code details, completion = .failed error code details ∧
      payload = some (Completion.failed error none none).toValue

/-- What a turn finds are the completions of children that have ended. -/
def Told (outcome : Nat → Completion) (runs : ChildRuns)
    (found : Nat → Option (Option Value)) : Prop :=
  ∀ index payload, found index = some payload →
    runs index = some (some (outcome index)) ∧ Tells (outcome index) payload

/-- One move of a fan whose children end as the outcomes say. -/
inductive Step (compacts : Bool) (outcome : Nat → Completion) :
    ChildFanState → ChildFanState → Prop where
  | snapshot {state : ChildFanState} (free : state.stages = []) :
      Step compacts outcome state { state with replay := state.stored }
  | turn {state : ChildFanState} {view : FanView} (found : Nat → Option (Option Value))
      (free : state.stages = []) (read : fan.readFan state.replay state.stored = .ok view)
      (told : Told outcome state.runs found) :
      Step compacts outcome state { state with
        stages := fan.turnStages compacts view found fun index => (state.runs index).isSome }
  /-- An operation of the turn's first group reaches the store. -/
  | write {state : ChildFanState} {before after : List FanWrite} {write : FanWrite}
      {later : List (List FanWrite)}
      (next : state.stages = (before ++ write :: after) :: later) :
      Step compacts outcome state
        { state.perform fan write with stages := (before ++ after) :: later }
  | goOn {state : ChildFanState} {later : List (List FanWrite)}
      (done : state.stages = [] :: later) :
      Step compacts outcome state { state with stages := later }
  | crash {state : ChildFanState} : Step compacts outcome state { state with stages := [] }
  | ends {state : ChildFanState} {index : Nat} (live : state.runs index = some none) :
      Step compacts outcome state { state with
        runs := fun other =>
          if other = index then some (some (outcome index)) else state.runs other }
  /-- A delivery that took the child's waiter writes its completion, however late. -/
  | deliver {state : ChildFanState} {index : Nat}
      (ended : state.runs index = some (some (outcome index))) :
      Step compacts outcome state (state.perform fan
        (.resolve index (some (outcome index).toValue)))

/-- What a fan comes to, from nothing. -/
def Reachable (compacts : Bool) (outcome : Nat → Completion) (state : ChildFanState) : Prop :=
  Relation.ReflTransGen (fan.Step compacts outcome) {} state

/-- The fan without a concurrency limit. -/
def unbounded : ChildFan := { fan with waves := none }

/-- What the fan comes to without waves and without folds, from how its children end. -/
def verdict (outcome : Nat → Completion) : FanOutcome :=
  (fan.unbounded.collect fun index =>
    some (fan.unbounded.resolved index (some (outcome index).toValue))).plainly

/-- A child has been sent, or has a run, and has not ended. -/
def isUnsettled (state : ChildFanState) (index : Nat) : Bool :=
  match state.runs index with
  | some (some _) => false
  | some none => true
  | none => (state.stored index).isSome

/-- How many children of the fan are unsettled. -/
def unsettled (state : ChildFanState) : Nat :=
  (List.range fan.size).countP (isUnsettled state)

end ChildFan

end Durable
