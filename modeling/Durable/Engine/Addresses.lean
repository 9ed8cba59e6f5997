import Durable.Ctx.Waits
import Durable.Data.Token
import Durable.Json.Parse
import Durable.Text.Base64
import Durable.Text.Percent

/-! The addresses that the engine makes of names, keys and run ids, and what it reads back out of
them. -/

namespace Durable.Addresses

section Texts

/-- `text.startsWith(front)` -/
def startsWith (text front : String) : Bool := front.toList.isPrefixOf text.toList

/-- `text.endsWith(back)` -/
def endsWith (text back : String) : Bool := back.toList.isSuffixOf text.toList

/-- `text.slice(start, -back)` -/
def sliced (text : String) (start back : Nat) : String :=
  String.ofList ((text.toList.take (text.toList.length - back)).drop start)

end Texts

section Entities

/-- The run of an entity's key. -/
def entityRunId (name key : String) : String := "entity:" ++ name ++ ":" ++ key

/-- The entity and the key that a run id is kicked for, if it is one of an entity that is known. -/
def kickRunId (configs : String → Bool) (runId : String) : Option (String × String) :=
  if startsWith runId "entity:" then
    let rest := runId.toList.drop "entity:".toList.length
    match rest.idxOf? ':' with
    | none => none
    | some sep =>
      let name := String.ofList (rest.take sep)
      if sep = 0 then none
      else if configs name then some (name, String.ofList (rest.drop (sep + 1)))
      else none
  else none

end Entities

section Lifecycle

/-- How a settled run ended. -/
inductive LifecycleKind where
  | completed
  | failed
deriving Repr, DecidableEq

/-- The ending as it stands in a run id. -/
def LifecycleKind.text : LifecycleKind → String
  | completed => "completed"
  | failed => "failed"

/-- The run that a lifecycle event starts for a subscriber. -/
def lifecycleRunId (sourceRunId : String) (kind : LifecycleKind) (subscriber : String) : String :=
  "evt:" ++ sourceRunId ++ ":" ++ kind.text ++ ":" ++ subscriber

/-- The run that a run's id says it was started by, for an ending of one kind. -/
def lifecycleSourceAs (id workflow : String) (kind : LifecycleKind) :
    Option (String × LifecycleKind) :=
  let back := ":" ++ kind.text ++ ":" ++ workflow
  if endsWith id back && "evt:".toList.length + back.toList.length < id.toList.length then
    some (sliced id "evt:".toList.length back.toList.length, kind)
  else none

/-- The run whose settling started a run, read from its id. -/
def lifecycleSourceOf (id workflow : String) : Option (String × LifecycleKind) :=
  if startsWith id "evt:" then
    (lifecycleSourceAs id workflow .completed).or (lifecycleSourceAs id workflow .failed)
  else none

end Lifecycle

section Accumulators

/-- A tilde is written as digits, since it marks a continuation. -/
def escapeTilde (char : Char) : List Char := if char = '~' then ['%', '7', 'E'] else [char]

/-- A key as it stands in an accumulator's id. -/
def encodeKey (key : String) : String :=
  String.ofList ((Percent.encode key).toList.flatMap escapeTilde)

/-- The run of a target's accumulator, with or without a key. -/
def accumulatorRunId (target : String) (key : Option String) : String :=
  match key with
  | none => "__evtacc__:" ++ target
  | some key => "__evtacc__:" ++ target ++ "#" ++ encodeKey key

end Accumulators

section Events

/-- The text whose bytes were written in base64. What is no text is read with replacement
characters, as `replaced` does. -/
def dec (replaced : ByteArray → String) (text : List Char) : String :=
  let bytes : ByteArray := ⟨((Base64.decode text).map UInt8.ofNat).toArray⟩
  (String.fromUTF8? bytes).getD (replaced bytes)

/-- `token.split(':')[place]`, or nothing. -/
def piece (token : String) (place : Nat) : List Char := (token.toList.splitOn ':').getD place []

variable {Number : Type} (numbers : JsonValue.NumberFormat Number)

/-- A JavaScript object, its properties in the order in which they are listed. -/
structure EventMatch (Number : Type) where
  fields : List (String × JsonValue Number)
  regular : (JsonValue.obj fields).Regular

/-- The fields a wait asks for: none, if it gives no match. -/
def criteria (asked : Option (EventMatch Number)) : List (String × JsonValue Number) :=
  (asked.map EventMatch.fields).getD []

/-- The token of one `waitForEvent` call. -/
def eventToken (name : String) (asked : Option (EventMatch Number)) (runId : String) (seq : Nat) :
    String :=
  eventPrefix name ++ enc ((JsonValue.obj (criteria asked)).stringify numbers.toNumberText) ++
    ":" ++ runId ++ "#" ++ toString seq

/-- The event in a token. -/
def eventNameOf (replaced : ByteArray → String) (token : String) : String :=
  dec replaced (piece token 1)

/-- The match in a token, or the empty one if none can be read. -/
def eventMatchOf (replaced : ByteArray → String) (token : String) : JsonValue Number :=
  (JsonValue.parse numbers (dec replaced (piece token 2))).getD (.obj [])

end Events

section RunWaits

/-- What the token of every wait for a run begins with. -/
def runWaitTokenPrefix : String := "runwait:"

/-- What the token of every wait for one run begins with. -/
def runWaitPrefix (targetRunId : String) : String := runWaitTokenPrefix ++ targetRunId ++ "#"

/-- The token of one `waitForRun` call. -/
def runWaitToken (targetRunId runId : String) (seq : Nat) : String :=
  runWaitPrefix targetRunId ++ runId ++ "#" ++ toString seq

/-- A waiter: its token, and the call of a run that waits. -/
structure Waiter where
  token : String
  runId : String
  seq : Nat
deriving Repr, DecidableEq

/-- The run that a waiter waits for, read from its token. -/
def runWaitTargetOf (waiter : Waiter) : Option String :=
  if startsWith waiter.token runWaitTokenPrefix then
    let back := "#" ++ waiter.runId ++ "#" ++ toString waiter.seq
    if endsWith waiter.token back then
      let target := sliced waiter.token runWaitTokenPrefix.toList.length back.toList.length
      if target = "" then none else some target
    else none
  else none

/-- The run of a chain by its number: the first one has the bare id. -/
def numbered (base : String) (number : Nat) : String :=
  if number = 0 then base else base ++ "~" ++ toString number

/-- The runs whose chain a run may end, as far as a wait follows it. -/
def chainPredecessorsOf (runId : String) : List String :=
  match continuationParts runId with
  | none => []
  | some (base, digits) =>
    let n := chainNumber digits
    (List.range' (n - runWaitMaxHops) (n - (n - runWaitMaxHops))).map (numbered base)

/-- A run of the engine's own. -/
def isInternal (workflow : Option String) : Bool :=
  (workflow.map fun name => startsWith name "__").getD false

/-- What `notifyRunWaiters` lists the waiters of a settled run by. -/
def listingFront (runId : String) : String :=
  match chainPredecessorsOf runId with
  | first :: _ => runWaitTokenPrefix ++ first
  | [] => runWaitPrefix runId

/-- The waiters that `notifyRunWaiters` selects for a settled run. -/
def notifyRunWaiters (waiters : List Waiter) (runId : String) (workflow : Option String) :
    List Waiter :=
  if isInternal workflow then []
  else
    (waiters.filter fun waiter => startsWith waiter.token (listingFront runId)).filter fun waiter =>
      (runId :: chainPredecessorsOf runId).contains ((runWaitTargetOf waiter).getD "")

end RunWaits

end Durable.Addresses
