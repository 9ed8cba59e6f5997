import Mathlib.Logic.Relation
import Durable.Engine.StepFan

/-! The turns of a step fan: what they write, and how its members settle meanwhile. -/

namespace Durable

namespace StepFan

variable (fan : StepFan) (policy : RemotePolicy) (refusals : Nat → Option String)

/-- What `callRemote` writes for a member that a turn looks at, if it calls it. -/
def lookWrite (index : Nat) (row : Option StepCheckpoint) : Option StepCheckpoint :=
  match row with
  | none => none
  | some checkpoint =>
    if checkpoint.name ≠ fan.step.name ∨ checkpoint.status = .completed ∨
        (checkpoint.status = .pending ∧ policy.stepIsWaiting checkpoint = true) then none
    else
      let group := stepFanGroup fan.firstSeq fan.inputs.length fan.mode
      match policy.callRemote fan.runId (fan.firstSeq + index) fan.step
          (fan.inputs.getD index none) (some group) (refusals index) (some checkpoint) with
      | .suspended _ write _ => write
      | _ => none

/-- What a turn writes while it looks at the members in input order. -/
def surveyWrites (rows : FanRows) : List Nat → FanTally → List (Nat × StepCheckpoint)
  | [], _ => []
  | index :: rest, tally =>
    let own := (fan.lookWrite policy refusals index (rows index)).toList.map (index, ·)
    match fan.look policy refusals index (rows index) tally with
    | .error _ => own
    | .ok tally => own ++ surveyWrites rows rest tally

/-- The checkpoint `sendStepFan` writes for a member before it dispatches it. -/
def firstAttempt (index : Nat) : StepCheckpoint where
  runId := fan.runId
  seq := fan.firstSeq + index
  name := fan.step.name
  kind := .remote
  status := .pending
  input := fan.inputs.getD index none
  attempts := 1
  wakeAt := policy.remoteRedispatchMs.map (policy.clock + ·)
  parallelGroup := some (stepFanGroup fan.firstSeq fan.inputs.length fan.mode)

/-- The checkpoints of the members a turn sends; none where one of them is refused. -/
def sends (tally : FanTally) : List (Nat × StepCheckpoint) :=
  match (fan.batch tally).findSome? refusals with
  | some _ => []
  | none => (fan.batch tally).map fun index => (index, fan.firstAttempt policy index)

/-- The turn is refused before it reads anything. -/
def refusedAtOnce : Bool :=
  decide (0 < fan.step.timeoutMs.getD 0) || decide (fan.concurrency = some 0) ||
    !policy.hasTransport

/-- Everything a turn writes, in its order. -/
def turnWrites (rows : FanRows) : List (Nat × StepCheckpoint) :=
  if fan.refusedAtOnce policy then []
  else
    let members := List.range fan.inputs.length
    fan.surveyWrites policy refusals rows members {} ++
      match fan.survey policy refusals rows members {} with
      | .error _ => []
      | .ok tally => fan.sends policy refusals tally

end StepFan

/-- The checkpoints of a fan with one of them written. -/
def FanRows.write (rows : FanRows) (index : Nat) (checkpoint : StepCheckpoint) : FanRows :=
  fun other => if other = index then some checkpoint else rows other

/-- A fan between two store operations. -/
structure FanState where
  rows : FanRows := fun _ => none
  todo : List (Nat × StepCheckpoint) := []
  /-- The members whose first attempt has been written as pending, once for each such write. -/
  sent : List Nat := []
  reported : Nat → Option (Option Value) := fun _ => none

namespace FanState

/-- The first attempt of a member, on its way to its worker. -/
def isFirstSend (checkpoint : StepCheckpoint) : Bool :=
  checkpoint.status == .pending && checkpoint.attempts == 1

variable (state : FanState)

/-- One write is performed. -/
def written (index : Nat) (checkpoint : StepCheckpoint) (todo : List (Nat × StepCheckpoint)) :
    FanState :=
  { state with
    rows := state.rows.write index checkpoint
    todo := todo
    sent := if isFirstSend checkpoint then state.sent ++ [index] else state.sent }

/-- A result settles a member. -/
def settled (index : Nat) (row : StepCheckpoint) (result : StepResult) : FanState :=
  { state with
    rows := state.rows.write index (row.settled (settlementOf row result))
    reported := fun other =>
      if other = index ∧ result.status = .completed then some result.output
      else state.reported other }

/-- Perform every write that is left. -/
def flush : FanState → FanState := fun state =>
  state.todo.foldl (fun state entry => state.written entry.1 entry.2 []) { state with todo := [] }

end FanState

namespace StepFan

variable (fan : StepFan)

/-- A member is on its way: its checkpoint is pending. -/
def isInFlight : Option StepCheckpoint → Bool
  | some checkpoint => checkpoint.status == .pending
  | none => false

/-- How many members are in flight. -/
def inFlight (rows : FanRows) : Nat :=
  (List.range fan.inputs.length).countP fun index => isInFlight (rows index)

/-- One move of the fan, with the lost-dispatch self-heal off. -/
inductive Step : FanState → FanState → Prop where
  /-- A turn reads the checkpoints, and has its writes to make. -/
  | turn {state : FanState} (policy : RemotePolicy) (refusals : Nat → Option String)
      (healOff : policy.remoteRedispatchMs = none) (free : state.todo = []) :
      Step state { state with todo := fan.turnWrites policy refusals state.rows }
  /-- A write of the turn reaches the store; those of one round do so in any order. -/
  | write {state : FanState} {before after : List (Nat × StepCheckpoint)} {index : Nat}
      {checkpoint : StepCheckpoint} (next : state.todo = before ++ (index, checkpoint) :: after) :
      Step state (state.written index checkpoint (before ++ after))
  | cut {state : FanState} : Step state { state with todo := [] }
  | settle {state : FanState} {index : Nat} {row : StepCheckpoint} (result : StepResult)
      (found : state.rows index = some row) (waiting : row.status = .pending) :
      Step state (state.settled index row result)

/-- What the fan comes to, from nothing. -/
def Reachable (state : FanState) : Prop := Relation.ReflTransGen fan.Step {} state

/-- Every member has been sent. -/
def AllSent (rows : FanRows) : Prop := ∀ index < fan.inputs.length, rows index ≠ none

/-- A turn that is not cut short, once everything sent has settled and every retry is due. -/
structure FullTurn (policy : RemotePolicy) (refusals : Nat → Option String)
    (before after : FanState) : Prop where
  free : before.todo = []
  drained : ∀ index, isInFlight (before.rows index) = false
  due : ∀ index row retryAt, before.rows index = some row → row.status = .failed →
    row.wakeAt = some retryAt → retryAt ≤ policy.clock
  /-- The turn is not refused at once, and the lost-dispatch self-heal is off. -/
  reads : fan.refusedAtOnce policy = false
  healOff : policy.remoteRedispatchMs = none
  complete : after =
    ({ before with todo := fan.turnWrites policy refusals before.rows } : FanState).flush

/-- Turns that are not cut short, one after the other, with anything in between. -/
structure Rounds (policies : Nat → RemotePolicy) (refusals : Nat → Nat → Option String)
    (states : Nat → FanState) : Prop where
  start : fan.Reachable (states 0)
  round : ∀ round, ∃ before, Relation.ReflTransGen fan.Step (states round) before ∧
    fan.FullTurn (policies round) (refusals round) before (states (round + 1)) ∧
      ∀ error, fan.mode = .failFast →
        fan.turn (policies round) (refusals round) before.rows ≠ .threw error

/-- How many writes the members of the fan can take at most. -/
def writeBound : Nat := fan.inputs.length * (3 * max 1 (fan.step.retries.getD 1) + 3)

/-- A fan sends each member once, within its limit, and returns each member's own output. -/
structure Delivers : Prop where
  once : ∀ state, fan.Reachable state → state.sent.Nodup
  bounded : ∀ state limit, fan.Reachable state → fan.concurrency = some limit →
    fan.inFlight state.rows ≤ limit
  /-- What is returned holds what each member's worker has returned, at the member's index. -/
  returned : ∀ state policy refusals outputs, fan.Reachable state →
    policy.remoteRedispatchMs = none → fan.turn policy refusals state.rows = .returned outputs →
      outputs.length = fan.inputs.length ∧ ∀ index < fan.inputs.length,
        ∃ output, state.reported index = some output ∧ outputs[index]? = some output
  /-- So does what settles failures as results, with the failures of the members that failed. -/
  settled : ∀ state policy refusals results, fan.Reachable state →
    policy.remoteRedispatchMs = none → fan.turn policy refusals state.rows = .settled results →
      results.length = fan.inputs.length ∧ ∀ index < fan.inputs.length,
        (∃ output, state.reported index = some output ∧
            results[index]? = some (.fulfilled output)) ∨
          ∃ row failure, state.rows index = some row ∧ row.status = .failed ∧
            failure.index = index ∧ results[index]? = some (.rejected failure)
  /-- Once everything sent settles between full turns, everything is sent before long. -/
  sent : ∀ policies refusals states, fan.Rounds policies refusals states →
    (∀ round index, refusals round index = none) →
      ∀ round, fan.writeBound < round → fan.AllSent (states round).rows

end StepFan

end Durable
