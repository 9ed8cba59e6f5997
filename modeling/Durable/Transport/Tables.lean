import Mathlib.Data.List.Sort
import Durable.Data.Rows
import Durable.Interleaving.Program
import Durable.Interleaving.Table

/-! The tables of the database transport, and the statements that are run on them. -/

namespace Durable

open Interleaving (Program Table)

/-- The mark a claim round leaves on the rows it wins: the instance, and a clock of its own. -/
structure ClaimToken where
  instanceId : String
  /-- When the round began, on a clock that never shows the same time twice. -/
  stamp : Nat
deriving Repr, DecidableEq, Inhabited

/-- A row that is claimed before it is worked on. -/
structure ClaimRow (P : Type) where
  stepId : String
  namespaceValue : String
  claimedBy : Option ClaimToken := none
  claimedAt : Option Nat := none
  createdAt : Nat
  /-- A ghost: the number of the task row it is, or it is the result of. -/
  serial : Nat
  carries : P
deriving Repr, DecidableEq

/-- A step to be run by a worker. -/
structure RemoteTask where
  runId : String
  seq : Nat
  stepId : String
  name : String
  group : String
  input : Option Value := none
  attempt : Nat
  priority : Option Int := none
deriving Repr, DecidableEq

/-- What a task row carries. -/
structure TaskColumns where
  task : RemoteTask
  priority : Int := 0
  reclaims : Nat := 0
deriving Repr, DecidableEq

/-- A task row. -/
abbrev TaskRow := ClaimRow TaskColumns

/-- A result row. -/
abbrev ResultRow := ClaimRow StepResult

/-- The least and the greatest value of the `priority` column. -/
def priorityRange : Int × Int := (-2147483648, 2147483647)

/-- The `priority` column of a dispatch priority: within the column's range, and normal when absent. -/
def toDbPriority (priority : Option Int) : Int :=
  min priorityRange.2 (max priorityRange.1 (priority.getD 0))

/-- A table rows are claimed from. -/
inductive Channel where
  | tasks | results
deriving Repr, DecidableEq

/-- A column of the task table that an older table lacks. -/
inductive TaskColumn where
  | reclaims | priority
deriving Repr, DecidableEq

/-- What has happened to task rows and their results; no statement reads it. -/
structure TransportLedger where
  inserted : Nat := 0
  /-- The task rows that were deleted to be settled, with their results. -/
  settled : List (Nat × StepResult) := []
  written : List (Nat × StepResult) := []
  /-- The results that were handed to a handler, with their task rows. -/
  handed : List (Nat × StepResult) := []
  /-- The task rows whose lapsed claim was taken over, once for each time. -/
  takeovers : List Nat := []
deriving Repr, DecidableEq

/-- What the program around the tables answers, by how often it has been asked. -/
structure TransportAround where
  work : Nat → RemoteTask → Except StepError (Option Value) := fun _ _ => .ok none
  handles : Nat → Bool := fun _ => true
  slots : Nat → Nat := fun _ => 1
  closing : Nat → Bool := fun _ => false
  columns : Nat → TaskColumn → Bool := fun _ _ => true
deriving Inhabited

/-- The tables of the transport, with the instances' clocks. -/
structure Transport where
  tasks : Table String TaskRow := .empty
  results : Table String ResultRow := .empty
  clock : Nat := 0
  skews : String → Nat := fun _ => 0
  hrtime : Nat := 0
  asked : Nat := 0
  around : TransportAround := {}
  ledger : TransportLedger := {}
deriving Inhabited

/-- The rows a claim round may take. -/
structure ClaimQuery where
  namespaceValue : String
  groups : Option (List String) := none
  now : Nat
  leaseMs : Nat
  byPriority : Bool := false
  limit : Nat
deriving Repr, DecidableEq

/-- A claim has lapsed for an instance. -/
def lapsedFor (now leaseMs : Nat) (claimedAt : Option Nat) : Bool :=
  claimedAt.any (· + leaseMs < now)

namespace ClaimQuery

variable (query : ClaimQuery)

/-- A row may be claimed: it is not claimed, or its claim has lapsed. -/
def open_ {P : Type} (row : ClaimRow P) : Bool :=
  row.namespaceValue == query.namespaceValue &&
    (row.claimedAt.isNone || lapsedFor query.now query.leaseMs row.claimedAt)

/-- A row is of one of the groups asked for. -/
def inGroups (row : TaskRow) : Bool :=
  query.groups.all (row.carries.task.group ∈ ·)

/-- One task row is claimed before another. -/
def tasksOrder (row other : TaskRow) : Prop :=
  if query.byPriority ∧ row.carries.priority ≠ other.carries.priority then
    other.carries.priority < row.carries.priority
  else row.createdAt ≤ other.createdAt

instance : DecidableRel query.tasksOrder := fun row other => by
  unfold tasksOrder
  infer_instance

/-- One result row is claimed before another. -/
def resultsOrder (row other : ResultRow) : Prop := row.createdAt ≤ other.createdAt

instance : DecidableRel resultsOrder := fun row other =>
  inferInstanceAs (Decidable (row.createdAt ≤ other.createdAt))

/-- The task rows a round may claim, the next first. -/
def taskCandidates (tasks : Table String TaskRow) : List TaskRow :=
  ((tasks.stored.filter fun row => query.open_ row && query.inGroups row).insertionSort
    query.tasksOrder).take query.limit

/-- The result rows a round may claim, the oldest first. -/
def resultCandidates (results : Table String ResultRow) : List ResultRow :=
  ((results.stored.filter query.open_).insertionSort resultsOrder).take query.limit

end ClaimQuery

/-- One statement, or transaction, on the tables, or one look at what surrounds them. -/
inductive TransportOp where
  | now (instanceId : String)
  | hrtime (instanceId : String)
  | hasTaskColumn (column : TaskColumn)
  | freeSlots
  | closing
  | insertTasks (namespaceValue : String) (withPriority : Bool) (createdAt : Nat)
      (tasks : List RemoteTask)
  | candidates (channel : Channel) (query : ClaimQuery)
  | claimFresh (channel : Channel) (namespaceValue : String) (ids : List String)
      (token : ClaimToken) (stampedAt : Nat)
  | claimLapsed (channel : Channel) (query : ClaimQuery) (ids : List String)
      (token : ClaimToken) (stampedAt : Nat) (countReclaims : Bool)
  | claimedTasks (token : ClaimToken) (stampedAt : Nat)
  | claimedResults (token : ClaimToken) (stampedAt : Nat)
  | unclaimTasks (token : ClaimToken) (ids : List String)
  | restampTask (stepId : String) (token : ClaimToken) (stampedAt : Nat)
  | settleTask (stepId : String) (token : ClaimToken) (result : StepResult)
      (namespaceValue : String) (createdAt : Nat)
  | renew (channel : Channel) (tokens : List ClaimToken) (stampedAt : Nat)
  | handBack (channel : Channel) (tokens : List ClaimToken)
  | runHandler (task : RemoteTask)
  | handleResult (row : ResultRow)
  | deleteResults (token : ClaimToken) (ids : List String)

/-- What a statement answers. -/
def TransportOp.Answer : TransportOp → Type
  | now _ => Nat
  | hrtime _ => Nat
  | hasTaskColumn _ => Bool
  | freeSlots => Nat
  | closing => Bool
  | insertTasks .. => Unit
  | candidates .. => List (String × Option Nat)
  | claimFresh .. => Unit
  | claimLapsed .. => Unit
  | claimedTasks .. => List TaskRow
  | claimedResults .. => List ResultRow
  | unclaimTasks .. => Unit
  | restampTask .. => Bool
  | settleTask .. => Bool
  | renew .. => Unit
  | handBack .. => Unit
  | runHandler _ => Except StepError (Option Value)
  | handleResult _ => Bool
  | deleteResults .. => Unit

namespace ClaimRow

variable {P : Type} (row : ClaimRow P)

/-- A round holds the row. -/
def heldBy (token : ClaimToken) : Bool := row.claimedBy == some token

/-- A round takes the row. -/
def claimed (token : ClaimToken) (stampedAt : Nat) : ClaimRow P :=
  { row with claimedBy := some token, claimedAt := some stampedAt }

/-- Nobody holds the row. -/
def unclaimed : ClaimRow P := { row with claimedBy := none, claimedAt := none }

/-- A round takes the row if it is one of some, and nobody has claimed it. -/
def claimedFresh (namespaceValue : String) (ids : List String) (token : ClaimToken)
    (stampedAt : Nat) : ClaimRow P :=
  if row.namespaceValue = namespaceValue ∧ row.stepId ∈ ids ∧ row.claimedAt = none then
    row.claimed token stampedAt
  else row

/-- The row is one of some, and its claim has lapsed. -/
def lapsedIn (query : ClaimQuery) (ids : List String) : Bool :=
  row.namespaceValue == query.namespaceValue && decide (row.stepId ∈ ids) &&
    lapsedFor query.now query.leaseMs row.claimedAt

/-- A round takes the row if it is one of some, and its claim has lapsed. -/
def claimedLapsed (query : ClaimQuery) (ids : List String) (token : ClaimToken)
    (stampedAt : Nat) : ClaimRow P :=
  if row.lapsedIn query ids then row.claimed token stampedAt else row

/-- A round that holds the row says so again. -/
def renewed (tokens : List ClaimToken) (stampedAt : Nat) : ClaimRow P :=
  if row.claimedBy.any (· ∈ tokens) then { row with claimedAt := some stampedAt } else row

/-- A round that holds the row gives it back. -/
def handedBack (tokens : List ClaimToken) : ClaimRow P :=
  if row.claimedBy.any (· ∈ tokens) then row.unclaimed else row

end ClaimRow

/-- A task row whose claim is taken over counts it. -/
def TaskRow.takenOver (row : TaskRow) (countReclaims : Bool) : TaskRow :=
  { row with
    carries := { row.carries with
      reclaims := if countReclaims then row.carries.reclaims + 1 else row.carries.reclaims } }

namespace Transport

variable (transport : Transport)

/-- The program around the tables has been asked once more. -/
def asks : Transport := { transport with asked := transport.asked + 1 }

/-- Insert a task row, unless its step has one. -/
def insertTask (namespaceValue : String) (withPriority : Bool) (createdAt : Nat)
    (transport : Transport) (task : RemoteTask) : Transport :=
  match transport.tasks.get task.stepId with
  | some _ => transport
  | none =>
    { transport with
      tasks := transport.tasks.set task.stepId
        { stepId := task.stepId, namespaceValue, createdAt, serial := transport.ledger.inserted
          carries :=
            { task, priority := if withPriority then toDbPriority task.priority else 0 } }
      ledger := { transport.ledger with inserted := transport.ledger.inserted + 1 } }

/-- Insert a result row, unless its step has one. -/
def insertResult (stepId : String) (serial : Nat) (result : StepResult) (namespaceValue : String)
    (createdAt : Nat) : Transport :=
  match transport.results.get stepId with
  | some _ => transport
  | none =>
    { transport with
      results := transport.results.set stepId
        { stepId, namespaceValue, createdAt, serial, carries := result }
      ledger := { transport.ledger with
        written := (serial, result) :: transport.ledger.written } }

/-- Delete a task row and write its result, if a round holds it. -/
def settle (stepId : String) (token : ClaimToken) (result : StepResult) (namespaceValue : String)
    (createdAt : Nat) : Transport × Bool :=
  match transport.tasks.get stepId with
  | none => (transport, false)
  | some row =>
    if row.heldBy token then
      let removed := { transport with
        tasks := transport.tasks.erase stepId
        ledger := { transport.ledger with
          settled := (row.serial, result) :: transport.ledger.settled } }
      (removed.insertResult stepId row.serial result namespaceValue createdAt, true)
    else (transport, false)

/-- Delete a result row, if a round holds it. -/
def deleteResult (token : ClaimToken) (transport : Transport) (stepId : String) : Transport :=
  match transport.results.get stepId with
  | none => transport
  | some row =>
    if row.heldBy token then { transport with results := transport.results.erase stepId }
    else transport

/-- What a statement does to the tables, and what it answers. -/
def exec : (op : TransportOp) → Transport × op.Answer
  | .now instanceId => (transport, (transport.clock + transport.skews instanceId : Nat))
  | .hrtime _ => ({ transport with hrtime := transport.hrtime + 1 }, transport.hrtime)
  | .hasTaskColumn column =>
    (transport.asks, transport.around.columns transport.asked column)
  | .freeSlots => (transport.asks, transport.around.slots transport.asked)
  | .closing => (transport.asks, transport.around.closing transport.asked)
  | .insertTasks namespaceValue withPriority createdAt tasks =>
    (tasks.foldl (insertTask namespaceValue withPriority createdAt) transport, ())
  | .candidates .tasks query =>
    (transport, (query.taskCandidates transport.tasks).map fun row => (row.stepId, row.claimedAt))
  | .candidates .results query =>
    (transport,
      (query.resultCandidates transport.results).map fun row => (row.stepId, row.claimedAt))
  | .claimFresh .tasks namespaceValue ids token stampedAt =>
    ({ transport with
      tasks := transport.tasks.update (·.claimedFresh namespaceValue ids token stampedAt) }, ())
  | .claimFresh .results namespaceValue ids token stampedAt =>
    ({ transport with
      results := transport.results.update (·.claimedFresh namespaceValue ids token stampedAt) }, ())
  | .claimLapsed .tasks query ids token stampedAt countReclaims =>
    let taken := transport.tasks.stored.filter (·.lapsedIn query ids)
    ({ transport with
      tasks := transport.tasks.update fun row =>
        if row.lapsedIn query ids then
          TaskRow.takenOver (row.claimed token stampedAt) countReclaims
        else row
      ledger := { transport.ledger with
        takeovers := taken.map (·.serial) ++ transport.ledger.takeovers } }, ())
  | .claimLapsed .results query ids token stampedAt _ =>
    ({ transport with
      results := transport.results.update (·.claimedLapsed query ids token stampedAt) }, ())
  | .claimedTasks token stampedAt =>
    (transport, transport.tasks.stored.filter fun row =>
      row.heldBy token && row.claimedAt == some stampedAt)
  | .claimedResults token stampedAt =>
    (transport, transport.results.stored.filter fun row =>
      row.heldBy token && row.claimedAt == some stampedAt)
  | .unclaimTasks token ids =>
    ({ transport with
      tasks := transport.tasks.update fun row =>
        if row.heldBy token ∧ row.stepId ∈ ids then row.unclaimed else row }, ())
  | .restampTask stepId token stampedAt =>
    match transport.tasks.get stepId with
    | none => (transport, false)
    | some row =>
      if row.heldBy token then
        ({ transport with
          tasks := transport.tasks.set stepId { row with claimedAt := some stampedAt } }, true)
      else (transport, false)
  | .settleTask stepId token result namespaceValue createdAt =>
    transport.settle stepId token result namespaceValue createdAt
  | .renew .tasks tokens stampedAt =>
    ({ transport with tasks := transport.tasks.update (·.renewed tokens stampedAt) }, ())
  | .renew .results tokens stampedAt =>
    ({ transport with results := transport.results.update (·.renewed tokens stampedAt) }, ())
  | .handBack .tasks tokens =>
    ({ transport with tasks := transport.tasks.update (·.handedBack tokens) }, ())
  | .handBack .results tokens =>
    ({ transport with results := transport.results.update (·.handedBack tokens) }, ())
  | .runHandler task => (transport.asks, transport.around.work transport.asked task)
  | .handleResult row =>
    ({ transport.asks with
      ledger := { transport.ledger with
        handed := (row.serial, row.carries) :: transport.ledger.handed } },
      transport.around.handles transport.asked)
  | .deleteResults token ids => (ids.foldl (deleteResult token) transport, ())

/-- Time passes. -/
def elapse (passed : Nat) (transport : Transport) : Transport :=
  { transport with clock := transport.clock + passed }

end Transport

end Durable
