import Durable.Ctx.Fan
import Durable.Engine.RemoteStep

/-! `callRemoteAll`: one turn of `ctx.all` over a dispatched step. -/

namespace Durable

/-- One call of `ctx.all` or `ctx.allSettled` over a dispatched step. -/
structure StepFan where
  runId : String
  firstSeq : Nat
  inputs : List (Option Value)
  step : StepDef
  mode : FanMode
  settle : Bool := false
  concurrency : Option Nat := none

/-- The group a step fan's checkpoints carry. -/
def stepFanGroup (firstSeq size : Nat) : FanMode → String
  | .waitAll => s!"steps:{firstSeq}:{size}"
  | .failFast => s!"steps:{firstSeq}:{size}:failFast"

/-- How a turn of a step fan ends. -/
inductive StepFanOutcome where
  | threw (error : GatherError)
  | nonDeterminism (expected recorded : String)
  | refused (message : String)
  | suspended (wakeAt : Option Nat) (sent : List Nat)
  | returned (outputs : List (Option Value))
  | settled (results : List Settled)
deriving Repr, DecidableEq

/-- What a turn has learned of the members it has looked at. -/
structure FanTally where
  outputs : List (Nat × Option Value) := []
  failures : List GatherItemFailure := []
  unsent : List Nat := []
  inFlight : Nat := 0
  wakeAt : Option Nat := none

/-- The earlier of two moments, where either is set. -/
def earlier : Option Nat → Option Nat → Option Nat
  | some left, some right => some (min left right)
  | some left, none => some left
  | none, right => right

namespace StepFan

variable (fan : StepFan) (policy : RemotePolicy) (refusals : Nat → Option String)

/-- The failure a member's dispatched step reported. -/
def failureOf (index : Nat) (error : StepError) : GatherItemFailure :=
  { index, id := stepId fan.runId (fan.firstSeq + index), error := error.message
    code := error.code, details := error.details }

/-- Look at one member: count it, or end the turn. -/
def look (index : Nat) (row : Option StepCheckpoint) (tally : FanTally) :
    Except StepFanOutcome FanTally :=
  match row with
  | none => .ok { tally with unsent := tally.unsent ++ [index] }
  | some checkpoint =>
    if checkpoint.name ≠ fan.step.name then
      .error (.nonDeterminism fan.step.name checkpoint.name)
    else if checkpoint.status = .completed then
      .ok { tally with outputs := tally.outputs ++ [(index, checkpoint.output)] }
    else if checkpoint.status = .pending ∧ policy.stepIsWaiting checkpoint then
      .ok { tally with
        inFlight := tally.inFlight + 1
        wakeAt := earlier tally.wakeAt (checkpoint.wakeAt.map policy.stepLeaseWakeAt) }
    else
      let group := stepFanGroup fan.firstSeq fan.inputs.length fan.mode
      match policy.callRemote fan.runId (fan.firstSeq + index) fan.step
          (fan.inputs.getD index none) (some group) (refusals index) (some checkpoint) with
      | .returned output => .ok { tally with outputs := tally.outputs ++ [(index, output)] }
      | .suspended wakeAt _ _ =>
        .ok { tally with
          inFlight := tally.inFlight + 1, wakeAt := earlier tally.wakeAt wakeAt }
      | .failed error =>
        let failure := fan.failureOf index error
        if fan.mode = .failFast then .error (.threw ⟨[failure], fan.inputs.length⟩)
        else .ok { tally with failures := tally.failures ++ [failure] }
      | .nonDeterminism expected recorded => .error (.nonDeterminism expected recorded)
      | .refused message => .error (.refused message)
      | .awaited => .error (.refused "unreachable: a step fan has no liveness timeout")

/-- Look at the members in input order, until one of them ends the turn. -/
def survey (rows : FanRows) : List Nat → FanTally → Except StepFanOutcome FanTally
  | [], tally => .ok tally
  | index :: rest, tally =>
    match fan.look policy refusals index (rows index) tally with
    | .error ended => .error ended
    | .ok tally => survey rows rest tally

/-- The members the turn sends: none while others are out, else up to the concurrency limit. -/
def batch (tally : FanTally) : List Nat :=
  if 0 < tally.inFlight then []
  else
    match fan.concurrency with
    | none => tally.unsent
    | some limit => tally.unsent.take limit

/-- The moment the members a turn sends are looked at again. -/
def lease (sent : List Nat) : Option Nat :=
  if sent.isEmpty then none
  else policy.remoteRedispatchMs.map fun window => policy.stepLeaseWakeAt (policy.clock + window)

/-- The result of a fan whose members all have theirs. -/
def finish (tally : FanTally) : StepFanOutcome :=
  let indexes := List.range fan.inputs.length
  let output := fun index => (tally.outputs.lookup index).getD none
  if fan.settle then
    .settled (indexes.map fun index =>
      match tally.failures.find? (·.index == index) with
      | some failure => .rejected failure
      | none => .fulfilled (output index))
  else if tally.failures.isEmpty then .returned (indexes.map output)
  else .threw ⟨tally.failures, fan.inputs.length⟩

/-- What the turn ends with once every member has been looked at. -/
def conclude (tally : FanTally) : StepFanOutcome :=
  match (fan.batch tally).findSome? refusals with
  | some message => .refused message
  | none =>
    if 0 < tally.inFlight + (fan.batch tally).length then
      .suspended (earlier tally.wakeAt (lease policy (fan.batch tally))) (fan.batch tally)
    else fan.finish tally

/-- One turn of the fan over its checkpoints. -/
def turn (rows : FanRows) : StepFanOutcome :=
  let name := fan.step.name
  if 0 < fan.step.timeoutMs.getD 0 then
    .refused s!"ctx.all: step \"{name}\" has a liveness timeoutMs; a step fan needs durable steps"
  else
    match fan.concurrency with
    | some 0 => .refused "ctx.all: concurrency must be a positive integer, got 0"
    | _ =>
      if !policy.hasTransport then .refused "remote steps require a Transport"
      else
        match fan.survey policy refusals rows (List.range fan.inputs.length) {} with
        | .error ended => ended
        | .ok tally => fan.conclude policy refusals tally

end StepFan

end Durable
