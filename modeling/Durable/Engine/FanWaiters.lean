import Durable.Detail.Timeline
import Durable.Engine.BufferedSignals
import Durable.Engine.StepResults

/-! The join barrier of `ctx.all`: which fan a waiter belongs to, and whether that fan waits on. -/

namespace Durable

/-- The id of the handler of a run's failure. -/
def onErrorRunId (runId : String) (attempt : Nat) : String := s!"{runId}.onError.{attempt}"

/-- What the waiters and the checkpoints of a fan's children, or of one wave's, begin with. -/
structure FanWait where
  waiterPrefix : String
  checkpointPrefix : String
deriving Repr, DecidableEq

/-- The openings that a fan, or one wave of it, waits under. -/
def ChildFan.allWait (fan : ChildFan) (wave : Option Nat) : FanWait where
  waiterPrefix := "child:" ++ fan.allBase wave
  checkpointPrefix := "signal:child:" ++ fan.allBase wave

/-- The waiter that a fan registers for the child at an index. -/
def ChildFan.waiter (fan : ChildFan) (wave : Option Nat) (index : Nat) : SignalWaiter where
  token := childToken (allChildId fan.runId fan.firstSeq index wave)
  runId := fan.runId
  seq := fan.firstSeq + index
  parallelGroup := some (allGroup fan.firstSeq fan.size fan.mode)

/-- Whether a part of a text is digits, and not empty. -/
def isFigures (part : List Char) : Bool := (digitsOf part).isSome

/-- Whether a part of a group is a fan's size behind its mark. -/
def isMarkedSize : List Char → Bool
  | 'n' :: digits => isFigures digits
  | _ => false

/-- What a waiter's group says of its fan. -/
structure WaiterGroup where
  firstSeq : List Char
  failFast : Bool
deriving DecidableEq

/-- Read a group of the form `all:<seq>`, perhaps with `:n<size>`, perhaps with `:failFast`. -/
def waiterGroup (group : String) : Option WaiterGroup :=
  match group.toList.splitOn ':' with
  | [kind, first] =>
    if kind = "all".toList ∧ isFigures first then some ⟨first, false⟩ else none
  | [kind, first, third] =>
    if kind = "all".toList ∧ isFigures first then
      if third = "failFast".toList then some ⟨first, true⟩
      else if isMarkedSize third then some ⟨first, false⟩
      else none
    else none
  | [kind, first, size, last] =>
    if kind = "all".toList ∧ isFigures first ∧ isMarkedSize size ∧ last = "failFast".toList then
      some ⟨first, true⟩
    else none
  | _ => none

/-- Read what a token has behind its fan's opening, of the form `<index>` or `w<wave>.<index>`: the
wave's opening, as it is written. -/
def waveOpening (rest : List Char) : Option (List Char) :=
  match rest.splitOn '.' with
  | [index] => if isFigures index then some [] else none
  | ['w' :: wave, index] =>
    if isFigures wave ∧ isFigures index then some ('w' :: wave ++ ['.']) else none
  | _ => none

/-- A fan, or one wave of it, as the barrier asks for it. -/
structure WaitingFan where
  waiterPrefix : String
  failFast : Bool
deriving Repr, DecidableEq

/-- The fan, or the wave of one, that a waiter belongs to; its group and its token have to agree. -/
def fanOfWaiter (waiter : SignalWaiter) : Option WaitingFan := do
  let group ← waiterGroup (← waiter.parallelGroup)
  let base := s!"child:{waiter.runId}.all.{String.ofList group.firstSeq}."
  if nameStartsWith base waiter.token.text then
    let opening ← waveOpening (nameBehind base waiter.token.text).toList
    return { waiterPrefix := base ++ String.ofList opening, failFast := group.failFast }
  else none

/-- Whether a waiter is one of a run's with an opening. -/
def SignalWaiter.isOneOf (waiter : SignalWaiter) (runId tokenPrefix : String) : Bool :=
  waiter.runId = runId && nameStartsWith tokenPrefix waiter.token.text

/-- Whether a run has a waiter whose token has an opening. -/
def hasSignalWaiter (waiters : List SignalWaiter) (runId tokenPrefix : String) : Bool :=
  waiters.any (·.isOneOf runId tokenPrefix)

/-- Whether the fan of a waiter that has been consumed waits on: a failure wakes a fan that fails
fast. -/
def fanStillWaiting (waiters : List SignalWaiter) (waiter : SignalWaiter)
    (payload : Option Value) : Bool :=
  match fanOfWaiter waiter with
  | none => false
  | some fan =>
    if fan.failFast && isFailedCompletion payload then false
    else hasSignalWaiter waiters waiter.runId fan.waiterPrefix

end Durable
