import Durable.Data.Rows

/-! `ctx.all` over child workflows: one turn of the fan, decided from its checkpoints. -/

namespace Durable

/-- How a fan settles a member failure. -/
inductive FanMode where
  | waitAll | failFast
deriving Repr, DecidableEq, Inhabited

/-- One failed item of a fan. -/
structure GatherItemFailure where
  index : Nat
  id : String
  error : String
  code : Option String := none
  details : Option Value := none
deriving Repr, DecidableEq, Inhabited

/-- The error a fan throws for its failed items. -/
structure GatherError where
  failures : List GatherItemFailure
  total : Nat
deriving Repr, DecidableEq

/-- The text of a fan's error. -/
def GatherError.message (error : GatherError) : String :=
  let ids := ", ".intercalate (error.failures.map GatherItemFailure.id)
  let count := error.failures.length
  let total := error.total
  s!"ctx.all: {count} of {total} child(ren) failed: {ids}"

/-- One item of `ctx.allSettled`. -/
inductive Settled where
  | fulfilled (value : Option Value)
  | rejected (failure : GatherItemFailure)
deriving Repr, DecidableEq

/-- How a fan of children is sent under a `concurrency` limit. -/
structure Waves where
  waveSize : Nat
  maxWaves : Nat
deriving Repr, DecidableEq

/-- The waves of a fan, or none where the limit does not bind. -/
def allWaves (size : Nat) : Option Nat → Except String (Option Waves)
  | none => .ok none
  | some concurrency =>
    if concurrency < 1 then
      .error s!"ctx.all: concurrency must be a positive integer, got {concurrency}"
    else if size ≤ concurrency then .ok none
    else if concurrency = 1 then .ok (some ⟨1, 1⟩)
    -- Two half-size waves: an odd limit runs one child under it.
    else .ok (some ⟨concurrency / 2, 2⟩)

/-- The id of a fan's child. -/
def allChildId (runId : String) (firstSeq index : Nat) : Option Nat → String
  | none => s!"{runId}.all.{firstSeq}.{index}"
  | some wave => s!"{runId}.all.{firstSeq}.w{wave}.{index}"

/-- The group a fan's checkpoints and waiters carry. -/
def allGroup (firstSeq size : Nat) : FanMode → String
  | .waitAll => s!"all:{firstSeq}:n{size}"
  | .failFast => s!"all:{firstSeq}:n{size}:failFast"

/-- One call of `ctx.all` or `ctx.allSettled` over child workflows. -/
structure ChildFan where
  runId : String
  firstSeq : Nat
  size : Nat
  mode : FanMode
  settle : Bool := false
  waves : Option Waves := none

/-- The fan's checkpoints, one entry for each of its positions. -/
abbrev FanRows := Nat → Option StepCheckpoint

/-- A member's checkpoint is completed. -/
def isSettled : Option StepCheckpoint → Bool
  | some checkpoint => checkpoint.status == .completed
  | none => false

/-- A member's checkpoint is completed with a failed completion. -/
def isFailedMember : Option StepCheckpoint → Bool
  | some checkpoint => checkpoint.status == .completed && isFailedCompletion checkpoint.output
  | none => false

/-- How a turn of the fan ends. -/
inductive FanOutcome where
  | threw (error : GatherError) (cancelled : List String)
  /-- It suspends after registering and starting these children. -/
  | suspended (registered : List Nat)
  /-- Every child succeeded, or the fan settles failures as results. -/
  | returned (outputs : List (Option Value))
  | settled (results : List Settled)
deriving Repr, DecidableEq

namespace ChildFan

variable (fan : ChildFan)

/-- The wave a child is sent in. -/
def waveOf (index : Nat) : Option Nat :=
  fan.waves.map fun waves => index / waves.waveSize

/-- The run id of a child. -/
def id (index : Nat) : String :=
  allChildId fan.runId fan.firstSeq index (fan.waveOf index)

/-- The checkpoint a delivered completion leaves at a child's position. -/
def resolved (index : Nat) (payload : Option Value) : StepCheckpoint :=
  { runId := fan.runId, seq := fan.firstSeq + index, name := "signal:child:" ++ fan.id index
    kind := .signal, output := payload, parallelGroup := some (allGroup fan.firstSeq fan.size
      fan.mode) }

/--
The checkpoints after the lost-notify guard.

A placeholder whose child has a completion, buffered or derived from its row, is settled with it.
-/
def guardRows (rows : FanRows) (completions : Nat → Option (Option Value)) : FanRows :=
  fun index =>
    match rows index with
    | none => none
    | some checkpoint =>
      if isSettled (some checkpoint) then some checkpoint
      else
        match completions index with
        | some payload => some (fan.resolved index payload)
        | none => some checkpoint

/-- The failure of a member whose completion failed. -/
def failureOf (index : Nat) (row : Option StepCheckpoint) (absent : String) :
    GatherItemFailure :=
  let error := completionError (row.bind StepCheckpoint.output) absent
  { index, id := fan.id index, error := error.message, code := error.code
    details := error.details }

/-- The failure `failFast` throws for a member: its index, its id, and its text. -/
def fastFailureOf (index : Nat) (row : Option StepCheckpoint) : GatherItemFailure :=
  { index, id := fan.id index
    error := (completionError (row.bind StepCheckpoint.output) "unknown").message }

/-- The first member that is settled as failed. -/
def firstFailed (rows : FanRows) : Option Nat :=
  (List.range fan.size).find? fun index => isFailedMember (rows index)

/-- The siblings a failure cancels: those already sent and not settled. -/
def siblings (rows : FanRows) (failed : Nat) : List Nat :=
  (List.range fan.size).filter fun index =>
    index != failed && (rows index).isSome && !isSettled (rows index)

/-- The children of a wave. -/
def waveItems (wave : Nat) : List Nat :=
  (List.range fan.size).filter fun index =>
    match fan.waves with
    | some waves => index / waves.waveSize == wave
    | none => true

/-- How many waves the fan has; an unbounded fan is one wave. -/
def waveCount : Nat :=
  match fan.waves with
  | some waves => (fan.size + waves.waveSize - 1) / waves.waveSize
  | none => 1

/-- The waves a turn waits on: those already sent, and new ones while fewer than the limit are. -/
def activeWaves (rows : FanRows) : List Nat :=
  let maxWaves := (fan.waves.map Waves.maxWaves).getD 1
  let settled := fun wave => (fan.waveItems wave).all fun index => isSettled (rows index)
  let sent := fun wave => (fan.waveItems wave).any fun index => (rows index).isSome
  (List.range fan.waveCount).foldl (fun active wave =>
    if settled wave then active
    else if sent wave || active.length < maxWaves then active ++ [wave]
    else active) []

/-- The outputs of a fan whose members are all settled, with its failures. -/
def collect (rows : FanRows) : FanOutcome :=
  let indexes := List.range fan.size
  let failures := (indexes.filter fun index => isFailedMember (rows index)).map fun index =>
    fan.failureOf index (rows index) "unknown"
  let value := fun index => ((rows index).bind StepCheckpoint.output).bind (·.field "value")
  if fan.settle then
    .settled (indexes.map fun index =>
      if isFailedMember (rows index) then
        .rejected (fan.failureOf index (rows index) "unknown")
      else .fulfilled (value index))
  else if failures.isEmpty then .returned (indexes.map value)
  else .threw ⟨failures, fan.size⟩ []

/-- One turn of the fan over its checkpoints and the completions its guard finds. -/
def turn (rows : FanRows) (completions : Nat → Option (Option Value)) : FanOutcome :=
  let rows := fan.guardRows rows completions
  match (if fan.mode = .failFast then fan.firstFailed rows else none) with
  | some index =>
    .threw ⟨[fan.fastFailureOf index (rows index)], fan.size⟩
      ((fan.siblings rows index).map fan.id)
  | none =>
    let active := fan.activeWaves rows
    if active.isEmpty then fan.collect rows
    else
      .suspended ((active.flatMap fan.waveItems).filter fun index => (rows index).isNone)

end ChildFan

end Durable
