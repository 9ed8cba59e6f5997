import Mathlib.Data.String.Basic
import Durable.Ctx.FanFolds
import Durable.Data.Grouping
import Durable.Data.Ids
import Durable.Data.Ranked

/-! A run's detail as it is made of its whole list of checkpoints. -/

namespace Durable

open Grouping

/-- A checkpoint of a timeline, with its times and its last recorded heartbeat. -/
structure TimelineStep extends StepCheckpoint where
  enqueuedAt : Nat
  startedAt : Nat
  finishedAt : Nat
  lastHeartbeatAt : Option Nat := none
  heartbeatProgress : Option Value := none
deriving DecidableEq, Inhabited

/-- Whether a name begins with an opening. -/
def nameStartsWith (opening name : String) : Bool := opening.toList.isPrefixOf name.toList

/-- What a name has behind an opening. -/
def nameBehind (opening name : String) : String :=
  String.ofList (name.toList.drop opening.length)

/-- The opening of the name of the checkpoint that awaits a child. -/
def childWaitPrefix : String := "signal:child:"

/-- The opening of the name of the checkpoint that records a child nobody awaits. -/
def spawnPrefix : String := "spawn:"

/-- What kind of fan a group names. -/
inductive FanGroupKind where
  | all | steps
deriving DecidableEq

/-- What the group of a fan says of it. -/
structure FanGroup where
  kind : FanGroupKind
  firstSeq : Nat
  /-- The declared size; a fan of children sent before its group carried it has none. -/
  size : Option Nat := none
  failFast : Bool := false
deriving DecidableEq

/-- The kind a group begins with. -/
def fanGroupKind : List Char → Option FanGroupKind
  | ['a', 'l', 'l'] => some .all
  | ['s', 't', 'e', 'p', 's'] => some .steps
  | _ => none

/-- The size in a group, with or without its mark. -/
def fanGroupSize : List Char → Option Nat
  | 'n' :: digits => digitsOf digits
  | digits => digitsOf digits

/-- The parts of a group as they are written. -/
def fanGroupParts (group : String) : Option FanGroup := do
  match group.toList.splitOn ':' with
  | [kind, first] => return ⟨← fanGroupKind kind, ← digitsOf first, none, false⟩
  | [kind, first, third] =>
    if third = "failFast".toList then
      return ⟨← fanGroupKind kind, ← digitsOf first, none, true⟩
    else return ⟨← fanGroupKind kind, ← digitsOf first, some (← fanGroupSize third), false⟩
  | [kind, first, size, last] =>
    if last = "failFast".toList then
      return ⟨← fanGroupKind kind, ← digitsOf first, some (← fanGroupSize size), true⟩
    else none
  | _ => none

/-- What a group says of its fan; a fan of steps always declares its size. -/
def parseFanGroup (group : String) : Option FanGroup :=
  (fanGroupParts group).filter fun fan => !(fan.kind == .steps && fan.size.isNone)

/-- The declared size of a group's fan. -/
def declaredSize (group : String) : Nat := ((parseFanGroup group).bind FanGroup.size).getD 0

/-- How many members of a fan have a status; a status no member has is absent. -/
structure StatusCounts where
  pending : Option Nat := none
  running : Option Nat := none
  completed : Option Nat := none
  failed : Option Nat := none
deriving DecidableEq

/-- Count some more members with a status. -/
def StatusCounts.add (counts : StatusCounts) (status : StepStatus) (more : Nat) : StatusCounts :=
  match status with
  | .pending => { counts with pending := some (counts.pending.getD 0 + more) }
  | .running => { counts with running := some (counts.running.getD 0 + more) }
  | .completed => { counts with completed := some (counts.completed.getD 0 + more) }
  | .failed => { counts with failed := some (counts.failed.getD 0 + more) }

/-- The earlier of a known time, if there is one, and another. -/
def earlierTime (known : Option Nat) (time : Nat) : Option Nat :=
  match known with
  | none => some time
  | some known => if time < known then some time else some known

/-- The later of a known time, if there is one, and another. -/
def laterTime (known : Option Nat) (time : Nat) : Option Nat :=
  match known with
  | none => some time
  | some known => if time > known then some time else some known

/-- What a walk over a fan's members adds up. -/
structure MemberTally where
  counts : StatusCounts := {}
  size : Nat := 0
  startedAt : Option Nat := none
  finishedAt : Option Nat := none
  /-- The smallest position met; none is JavaScript's infinity. -/
  firstSeq : Option Nat := none
  /-- The largest position met; none is JavaScript's negative infinity. -/
  lastSeq : Option Nat := none
deriving DecidableEq

/-- A fan reduced to one node of a detail. -/
structure FanSummary extends MemberTally where
  group : String
  label : String
  total : Option Nat
  notStarted : Option Nat
  failFast : Bool
  failures : List TimelineStep
deriving DecidableEq

/-- How many failed members a summary lists. -/
def fanSummaryFailures : Nat := 20

/-- How many children a summarized detail lists. -/
def summaryChildLimit : Nat := 200

/-- The largest page of a fan. -/
def fanPageMax : Nat := 500

/-- How many children a folded checkpoint stands for; none for any other checkpoint. -/
def foldedCount (cp : TimelineStep) : Option Nat :=
  if isFoldedName cp.name then
    match cp.output.bind (·.field "values") with
    | some (.arr values) => some values.length
    | _ => some 0
  else none

/-- A failed step, or a child whose completion says that it failed. -/
def TimelineStep.isFailedMember (cp : TimelineStep) : Bool :=
  if cp.status = .failed then true
  else if !nameStartsWith childWaitPrefix cp.name || cp.status ≠ .completed then false
  else isFailedCompletion cp.output

/-- The status a member counts under. -/
def memberStatus (cp : TimelineStep) : StepStatus :=
  if cp.isFailedMember then .failed else cp.status

/-- Whether a step is at its end. -/
def isTerminalStep (status : StepStatus) : Bool := status ≠ .pending && status ≠ .running

/-- The children a folded checkpoint stands for. -/
def foldedChildIds (cp : TimelineStep) : List String :=
  match cp.output.bind (·.field "values"), cp.output.bind (·.field "from") with
  | some (.arr values), some (.num first) =>
    (List.range values.length).map fun j : Nat =>
      nameBehind foldedPrefix cp.name ++ toString (first + (j : Int))
  | _, _ => []

/-- The child that a checkpoint of a child nobody awaits names. -/
def spawnedChildId (cp : TimelineStep) : List String :=
  match cp.output with
  | some (.str childId) => [childId]
  | _ => []

/-- The children a checkpoint names. -/
def childIdsIn (cp : TimelineStep) : List String :=
  (if nameStartsWith childWaitPrefix cp.name then [nameBehind childWaitPrefix cp.name] else []) ++
    (if isFoldedName cp.name then foldedChildIds cp else []) ++
    (if nameStartsWith spawnPrefix cp.name then spawnedChildId cp else [])

/-- The children that some checkpoints name, in their order. -/
def childIdsOf (checkpoints : List TimelineStep) : List String := checkpoints.flatMap childIdsIn

/-- What a fan's members are called together. -/
def fanLabel (members : List TimelineStep) : String :=
  if members.any fun cp => nameStartsWith childWaitPrefix cp.name || (foldedCount cp).isSome then
    "child runs"
  else
    let first := (members.head?.map (·.name)).getD ""
    if members.all fun cp => cp.name = first then first else "steps"

/-- Add a member to the walk over a fan. -/
def MemberTally.addMember (tally : MemberTally) (cp : TimelineStep) : MemberTally :=
  let n := (foldedCount cp).getD 1
  let ended := isTerminalStep cp.status
  { counts := tally.counts.add (memberStatus cp) n
    size := tally.size + n
    startedAt := earlierTime tally.startedAt (if ended then cp.startedAt else cp.enqueuedAt)
    finishedAt := if ended then laterTime tally.finishedAt cp.finishedAt else tally.finishedAt
    firstSeq := earlierTime tally.firstSeq cp.seq
    lastSeq := laterTime tally.lastSeq cp.seq }

/-- List a member that failed, while there is room. -/
def addFailure (failures : List TimelineStep) (cp : TimelineStep) : List TimelineStep :=
  if memberStatus cp = .failed ∧ failures.length < fanSummaryFailures then failures ++ [cp]
  else failures

/-- The summary of a group, given what was added up. -/
def fanSummaryOf (group label : String) (tally : MemberTally) (failures : List TimelineStep) :
    FanSummary :=
  let parsed := parseFanGroup group
  let total := parsed.bind FanGroup.size
  { tally with
    group, label, total, failures
    notStarted := total.map (· - tally.size)
    failFast := (parsed.map FanGroup.failFast).getD false }

/-- Summarize a fan's members. -/
def summarizeFan (group : String) (members : List TimelineStep) : FanSummary :=
  fanSummaryOf group (fanLabel members) (members.foldl MemberTally.addMember {})
    (members.foldl addFailure [])

/-- A number a caller passes; below a fraction only the whole number under it matters here. -/
inductive CallerNumber where
  | whole (floor : Int)
  | infinite (negative : Bool)
  | notANumber
deriving DecidableEq

/-- `rows > over`. -/
def CallerNumber.below (threshold : CallerNumber) (rows : Nat) : Bool :=
  match threshold with
  | whole floor => floor < rows
  | infinite negative => negative
  | notANumber => false

/-- `rows <= over`. -/
def CallerNumber.notBelow (threshold : CallerNumber) (rows : Nat) : Bool :=
  match threshold with
  | whole floor => rows ≤ floor
  | infinite negative => !negative
  | notANumber => false

/-- What a summarized detail takes from a run's checkpoints. -/
structure RunSummary where
  timeline : List TimelineStep
  fans : List FanSummary
  children : List String
  childCount : Nat
deriving DecidableEq

/-- Fans in the order of their first positions. -/
def sortFans (fans : List FanSummary) : List FanSummary :=
  Ranked.sorted (fun fan => fan.firstSeq.getD 0) fans

/-- The checkpoints of each group, the groups in the order they are met. -/
def membersByGroup (timeline : List TimelineStep) : List (String × List TimelineStep) :=
  collect (·.parallelGroup) (fun members cp => members.getD [] ++ [cp]) timeline

/-- Split a timeline into the checkpoints listed one by one and the fans drawn as one node. -/
def summarizeTimeline (timeline : List TimelineStep) (threshold : CallerNumber) :
    List TimelineStep × List FanSummary :=
  -- A fan sent in small waves has few rows yet; its declared size is what makes it wide.
  let summarized := (membersByGroup timeline).filter fun entry =>
    !(threshold.notBelow entry.2.length && threshold.notBelow (declaredSize entry.1))
  let fans := summarized.map fun entry => summarizeFan entry.1 entry.2
  if fans.isEmpty then (timeline, fans)
  else
    (timeline.filter fun cp => cp.parallelGroup.all fun group => group ∉ summarized.map Prod.fst,
      sortFans fans)

/-- What `loadRunDetail` makes of the whole list of a run's checkpoints. -/
def summarizeRun (full : List TimelineStep) (threshold : CallerNumber) : RunSummary :=
  let split := summarizeTimeline full threshold
  let ids := firsts (childIdsOf full)
  { timeline := split.1, fans := split.2, children := ids.take summaryChildLimit
    childCount := ids.length }

/-- Which page of a fan is asked for. -/
structure FanPageQuery where
  offset : Option CallerNumber := none
  limit : Option CallerNumber := none
  failedOnly : Bool := false
deriving DecidableEq

/-- A page of a fan's members. -/
structure FanPage where
  items : List TimelineStep
  total : Nat
deriving DecidableEq

/-- The first place and the size of a page, within bounds. -/
def fanPageBounds (query : FanPageQuery) : Nat × Nat :=
  (match query.offset with
    | some (.whole floor) => (max 0 floor).toNat
    | _ => 0,
  match query.limit with
    | some (.whole floor) => (min (fanPageMax : Int) (max 1 floor)).toNat
    | _ => 100)

/-- A part of a list, from a place on. -/
def slice (items : List TimelineStep) (offset limit : Nat) : List TimelineStep :=
  (items.drop offset).take limit

/-- One page of a fan's members out of a run's timeline. -/
def pageFan (timeline : List TimelineStep) (group : String) (query : FanPageQuery) : FanPage :=
  let matching := timeline.filter fun cp =>
    decide (cp.parallelGroup = some group) && (!query.failedOnly || cp.isFailedMember)
  let bounds := fanPageBounds query
  { items := slice matching bounds.1 bounds.2, total := matching.length }

end Durable
