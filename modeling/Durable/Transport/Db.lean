import Durable.Transport.Tables

/-! The database transport: tasks are rows workers claim, and results rows engines claim. -/

namespace Durable

open Interleaving (Program)

/-- A program of an instance over the transport's tables. -/
abbrev TransportPath (α : Type) := Program TransportOp TransportOp.Answer α

namespace Statement

/-- Read an instance's clock. -/
def now (instanceId : String) : TransportPath Nat := Program.perform (TransportOp.now instanceId)

/-- Read the clock claim rounds are told apart by. -/
def hrtime (instanceId : String) : TransportPath Nat :=
  Program.perform (TransportOp.hrtime instanceId)

/-- Ask whether the task table is known to have a column. -/
def hasTaskColumn (column : TaskColumn) : TransportPath Bool :=
  Program.perform (TransportOp.hasTaskColumn column)

/-- Count the free slots. -/
def freeSlots : TransportPath Nat := Program.perform TransportOp.freeSlots

/-- Ask whether the instance is closing. -/
def closing : TransportPath Bool := Program.perform TransportOp.closing

/-- Insert task rows. -/
def insertTasks (namespaceValue : String) (withPriority : Bool) (createdAt : Nat)
    (tasks : List RemoteTask) : TransportPath Unit :=
  Program.perform (TransportOp.insertTasks namespaceValue withPriority createdAt tasks)

/-- Pick the rows a round may claim. -/
def candidates (channel : Channel) (query : ClaimQuery) :
    TransportPath (List (String × Option Nat)) :=
  Program.perform (TransportOp.candidates channel query)

/-- Claim rows nobody has claimed. -/
def claimFresh (channel : Channel) (namespaceValue : String) (ids : List String)
    (token : ClaimToken) (stampedAt : Nat) : TransportPath Unit :=
  Program.perform (TransportOp.claimFresh channel namespaceValue ids token stampedAt)

/-- Claim rows whose claim has lapsed. -/
def claimLapsed (channel : Channel) (query : ClaimQuery) (ids : List String) (token : ClaimToken)
    (stampedAt : Nat) (countReclaims : Bool) : TransportPath Unit :=
  Program.perform (TransportOp.claimLapsed channel query ids token stampedAt countReclaims)

/-- Read the task rows a round has won. -/
def claimedTasks (token : ClaimToken) (stampedAt : Nat) : TransportPath (List TaskRow) :=
  Program.perform (TransportOp.claimedTasks token stampedAt)

/-- Read the result rows a round has won. -/
def claimedResults (token : ClaimToken) (stampedAt : Nat) : TransportPath (List ResultRow) :=
  Program.perform (TransportOp.claimedResults token stampedAt)

/-- Give some of a round's task rows back. -/
def unclaimTasks (token : ClaimToken) (ids : List String) : TransportPath Unit :=
  Program.perform (TransportOp.unclaimTasks token ids)

/-- Say again that a round holds a task row, if it does. -/
def restampTask (stepId : String) (token : ClaimToken) (stampedAt : Nat) : TransportPath Bool :=
  Program.perform (TransportOp.restampTask stepId token stampedAt)

/-- Delete a task row and write its result, if a round holds the row. -/
def settleTask (stepId : String) (token : ClaimToken) (result : StepResult)
    (namespaceValue : String) (createdAt : Nat) : TransportPath Bool :=
  Program.perform (TransportOp.settleTask stepId token result namespaceValue createdAt)

/-- Renew the rows rounds hold. -/
def renew (channel : Channel) (tokens : List ClaimToken) (stampedAt : Nat) : TransportPath Unit :=
  Program.perform (TransportOp.renew channel tokens stampedAt)

/-- Give the rows rounds hold back. -/
def handBack (channel : Channel) (tokens : List ClaimToken) : TransportPath Unit :=
  Program.perform (TransportOp.handBack channel tokens)

/-- Run a task's handler. -/
def runHandler (task : RemoteTask) : TransportPath (Except StepError (Option Value)) :=
  Program.perform (TransportOp.runHandler task)

/-- Hand a result to its handler, which succeeds or not. -/
def handleResult (row : ResultRow) : TransportPath Bool :=
  Program.perform (TransportOp.handleResult row)

/-- Delete the result rows a round holds. -/
def deleteResults (token : ClaimToken) (ids : List String) : TransportPath Unit :=
  Program.perform (TransportOp.deleteResults token ids)

end Statement

/-- An instance's settings. -/
structure DbTransport where
  instanceId : String
  namespaceValue : String := "default"
  leaseMs : Nat := 30000
  batchSize : Nat := 20
  maxStalledCount : Nat := 3
  handlers : List String := []
  servedTokens : List String := []

/-- The most task rows one insert carries. -/
def taskInsertChunk : Nat := 200

/-- The most result rows one round takes. -/
def resultRound : Nat := 256

/-- The result of a task its workers could not finish. -/
def infrastructureFailure (task : RemoteTask) (reason : String) : StepResult :=
  { runId := task.runId, seq := task.seq, status := .failed
    error := some { message := s!"remote step worker failed: {reason}", retryable := some true } }

/-- The result of a task whose step nobody has registered. -/
def noHandler (task : RemoteTask) : StepResult :=
  let name := task.name
  { runId := task.runId, seq := task.seq, status := .failed
    error := some { message := s!"no handler for {name}", retryable := some false } }

/-- The result of a task whose handler has ended. -/
def resultOf (task : RemoteTask) : Except StepError (Option Value) → StepResult
  | .ok output => { runId := task.runId, seq := task.seq, status := .completed, output }
  | .error error => { runId := task.runId, seq := task.seq, status := .failed, error := some error }

namespace DbTransport

variable (transport : DbTransport)

/-- Insert the chunks of a dispatch one after the other. -/
def insertChunks (withPriority : Bool) (createdAt : Nat) : List (List RemoteTask) →
    TransportPath Unit
  | [] => return ()
  | chunk :: rest => do
    Statement.insertTasks transport.namespaceValue withPriority createdAt chunk
    insertChunks withPriority createdAt rest

/-- `dispatchMany`: insert task rows; a step that has one already keeps it. -/
def dispatchMany (tasks : List RemoteTask) : TransportPath Unit :=
  if tasks.isEmpty then return ()
  else do
    let withPriority ← Statement.hasTaskColumn .priority
    let createdAt ← Statement.now transport.instanceId
    transport.insertChunks withPriority createdAt (tasks.toChunks taskInsertChunk)

/-- Stamp the rows of a round: the round's token and time, if there was any row to claim. -/
def stampClaim (channel : Channel) (limit : Nat) (groups : Option (List String))
    (countReclaims byPriority : Bool) : TransportPath (ClaimToken × Option Nat) := do
  let now ← Statement.now transport.instanceId
  let stamp ← Statement.hrtime transport.instanceId
  let token : ClaimToken := { instanceId := transport.instanceId, stamp }
  let stampedAt ← Statement.now transport.instanceId
  let query : ClaimQuery :=
    { namespaceValue := transport.namespaceValue, groups, now, leaseMs := transport.leaseMs
      byPriority, limit }
  let candidates ← Statement.candidates channel query
  let fresh := (candidates.filter (·.2.isNone)).map Prod.fst
  let lapsed := (candidates.filter (·.2.isSome)).map Prod.fst
  if candidates.isEmpty then return (token, none)
  else
    -- Each row is taken only where it still is as it was found, so no row is taken twice.
    if !fresh.isEmpty then
      Statement.claimFresh channel transport.namespaceValue fresh token stampedAt
    if !lapsed.isEmpty then
      Statement.claimLapsed channel query lapsed token stampedAt countReclaims
    return (token, some stampedAt)

/-- Claim task rows. -/
def claimTasks (limit : Nat) (countReclaims byPriority : Bool) :
    TransportPath (List TaskRow × ClaimToken) := do
  match ← transport.stampClaim .tasks limit (some transport.servedTokens) countReclaims byPriority
    with
  | (token, none) => return ([], token)
  | (token, some stampedAt) =>
    let rows ← Statement.claimedTasks token stampedAt
    return (rows, token)

/-- Claim result rows. -/
def claimResults (limit : Nat) : TransportPath (List ResultRow × ClaimToken) := do
  match ← transport.stampClaim .results limit none false false with
  | (token, none) => return ([], token)
  | (token, some stampedAt) =>
    let rows ← Statement.claimedResults token stampedAt
    return (rows, token)

/-- `#taskTick`: claim as many tasks as there are free slots; the rows to be run, and their token. -/
def taskTick : TransportPath (List TaskRow × ClaimToken) := do
  if transport.servedTokens.isEmpty then return ([], default)
  else
    let free ← Statement.freeSlots
    if free = 0 then return ([], default)
    else
      let countReclaims ← Statement.hasTaskColumn .reclaims
      let byPriority ← Statement.hasTaskColumn .priority
      let (rows, token) ←
        transport.claimTasks (min free transport.batchSize) countReclaims byPriority
      if rows.isEmpty then return ([], token)
      else if ← Statement.closing then
        Statement.handBack .tasks [token]
        return ([], token)
      else
        -- The limit may have dropped meanwhile, and what no longer fits is given back.
        let fits ← Statement.freeSlots
        if fits < rows.length then
          Statement.unclaimTasks token ((rows.drop fits).map (·.stepId))
        return (rows.take fits, token)

/-- `#settleTask`: delete the task row and write its result, while the round still holds the row. -/
def settleTask (stepId : String) (token : ClaimToken) (result : StepResult) :
    TransportPath Bool := do
  let createdAt ← Statement.now transport.instanceId
  Statement.settleTask stepId token result transport.namespaceValue createdAt

/-- Run a task's handler, if the instance has one. -/
def runStepHandler (task : RemoteTask) : TransportPath StepResult :=
  if task.name ∈ transport.handlers then do
    let ended ← Statement.runHandler task
    return resultOf task ended
  else return noHandler task

/-- `#runTask`: run a claimed task and settle it; a task whose claims keep lapsing has failed. -/
def runTask (row : TaskRow) (token : ClaimToken) : TransportPath Unit := do
  if transport.maxStalledCount < row.carries.reclaims then
    let most := transport.maxStalledCount
    let _ ← transport.settleTask row.stepId token
      (infrastructureFailure row.carries.task s!"claim lapsed more than {most} times")
    return ()
  else
    let stampedAt ← Statement.now transport.instanceId
    if ← Statement.restampTask row.stepId token stampedAt then
      let result ← transport.runStepHandler row.carries.task
      let _ ← transport.settleTask row.stepId token result
      return ()
    else return ()

/-- Hand results to the handler, in the order their handlers end; the steps whose handler succeeded. -/
def handleEach : List ResultRow → TransportPath (List String)
  | [] => return []
  | row :: rest => do
    let succeeded ← Statement.handleResult row
    let others ← handleEach rest
    return if succeeded then row.stepId :: others else others

/-- One round of `onResult`: claim results, hand them over, and delete those that were handled. -/
def resultTick (order : List ResultRow → List ResultRow) : TransportPath Unit := do
  let free ← Statement.freeSlots
  if free = 0 then return ()
  else
    let (rows, token) ← transport.claimResults (min free resultRound)
    if rows.isEmpty then return ()
    else
      let handled ← handleEach (order rows)
      if handled.isEmpty then return ()
      else Statement.deleteResults token handled

/-- `#renewHeld`: renew what an instance holds of each table. -/
def renewHeld : List (Channel × List ClaimToken) → TransportPath Unit
  | [] => return ()
  | (channel, tokens) :: rest => do
    if tokens.isEmpty then renewHeld rest
    else
      let stampedAt ← Statement.now transport.instanceId
      Statement.renew channel tokens stampedAt
      renewHeld rest

end DbTransport

end Durable
