import Durable.Data.Grouping
import Durable.Sql.Upsert
import Durable.Store.LucidRows

/-! Writes to the checkpoints that are still pending: one at a time, and a batch in one
transaction. -/

namespace Durable.Lucid

open Grouping (collect upsert)
open Sql (slices upsertSlices)

/-- How many positions one read of the checkpoints names. -/
def checkpointBatch : Nat := 500

/-- How many rows one upsert of the checkpoints writes. -/
def checkpointUpsertBatch : Nat := 200

section Rows

variable {Number : Type}

/-- The primary key of a row. -/
def CheckpointRow.key (row : CheckpointRow Number) : String × Number := (row.runId, row.seq)

/-- The checkpoints of a store: one row under each key. -/
structure CheckpointTable (Number : Type) where
  rows : List (CheckpointRow Number)
  primary : (rows.map CheckpointRow.key).Nodup

variable [DecidableEq Number]

/-- Whether a row is the one of a key, and is pending. -/
def CheckpointRow.pendingAt (runId : String) (seq : Number) (row : CheckpointRow Number) : Bool :=
  row.runId = runId && row.seq = seq && row.status = .pending

/-- Update the row of a key where it is pending: how many rows it is, and the rows. -/
def updatePending (runId : String) (seq : Number)
    (change : CheckpointRow Number → CheckpointRow Number) (rows : List (CheckpointRow Number)) :
    Nat × List (CheckpointRow Number) :=
  (rows.countP (·.pendingAt runId seq),
    rows.map fun row => if row.pendingAt runId seq then change row else row)

end Rows

section Writes

variable {Number Json : Type} [DecidableEq Number] (js : Columns Number Json)

/-- The text that a row is kept under in memory. -/
def checkpointKey (runId : String) (seq : Number) : String :=
  runId ++ String.singleton (Char.ofNat 0) ++ js.numberText seq

/-- A row with the columns of a checkpoint, other than its key. -/
def CheckpointRow.overwritten (cp : StepCheckpoint Number Json) (row : CheckpointRow Number) :
    CheckpointRow Number :=
  { row with
    toWrittenCheckpointColumns :=
      { checkpointToRow js cp with runId := row.runId, seq := row.seq } }

/-- A row with the columns of a settlement. -/
def CheckpointRow.settled (s : StepSettlement Number Json) (row : CheckpointRow Number) :
    CheckpointRow Number :=
  { row with toSettledCheckpointColumns := settlementToRow js s }

/-- Write a checkpoint whose row is still pending. -/
def saveCheckpointIfPending (checkpoint : StepCheckpoint Number Json)
    (rows : List (CheckpointRow Number)) : Bool × List (CheckpointRow Number) :=
  let (affected, rows) :=
    updatePending checkpoint.runId checkpoint.seq (·.overwritten js checkpoint) rows
  (0 < affected, rows)

/-- Settle a checkpoint whose row is still pending. -/
def settleCheckpointIfPending (only : StepSettlement Number Json)
    (rows : List (CheckpointRow Number)) : Bool × List (CheckpointRow Number) :=
  let (affected, rows) := updatePending only.runId only.seq (·.settled js only) rows
  (0 < affected, rows)

/-- The positions that are asked for of each run. -/
def seqsByRun (entries : List (String × Number)) : List (String × List Number) :=
  collect (fun entry => some entry.1)
    (fun seqs entry =>
      let seqs := seqs.getD []
      if entry.2 ∈ seqs then seqs else seqs ++ [entry.2]) entries

/-- The rows of some keys that are still pending, read run by run. -/
def readPending (entries : List (String × Number)) (rows : List (CheckpointRow Number)) :
    List (String × CheckpointRow Number) :=
  (seqsByRun entries).flatMap fun (runId, seqs) =>
    (slices checkpointBatch seqs).flatMap fun chunk =>
      (rows.filter fun row =>
        row.runId = runId && row.seq ∈ chunk && row.status = .pending).map fun row =>
          (checkpointKey js runId row.seq, row)

/-- Lock the rows of some keys that are still pending, under their texts. Where rows have no locks,
a write that changes nothing takes the database's. -/
def lockPendingCheckpoints (locksRows : Bool) (entries : List (String × Number))
    (rows : List (CheckpointRow Number)) :
    List (String × CheckpointRow Number) × List (CheckpointRow Number) :=
  let rows :=
    match entries with
    | first :: _ =>
      if locksRows then rows
      else (updatePending first.1 first.2 (fun row => { row with status := .pending }) rows).2
    | [] => rows
  ((readPending js entries rows).foldl
    (fun pending row => upsert row.1 (fun _ => row.2) pending) [], rows)

/-- What a batch has decided: the rows that are still pending, the verdicts, and what is to be
written. -/
structure Decided (Number Writes : Type) where
  pending : List (String × CheckpointRow Number)
  wrote : List Bool
  writes : Writes

/-- Drop the row of a text. -/
def dropKey {Row : Type} (k : String) (pending : List (String × Row)) : List (String × Row) :=
  pending.filter fun entry => entry.1 ≠ k

/-- Decide a checkpoint of a batch. -/
def decideSave (decided : Decided Number (List (String × StepCheckpoint Number Json)))
    (cp : StepCheckpoint Number Json) :
    Decided Number (List (String × StepCheckpoint Number Json)) :=
  let k := checkpointKey js cp.runId cp.seq
  if (decided.pending.lookup k).isNone then { decided with wrote := decided.wrote ++ [false] }
  else
    { pending := if cp.status ≠ .pending then dropKey k decided.pending else decided.pending
      wrote := decided.wrote ++ [true]
      writes := upsert k (fun _ => cp) decided.writes }

/-- The row that a checkpoint inserts. -/
def insertedCheckpoint (cp : StepCheckpoint Number Json) : CheckpointRow Number :=
  { checkpointToRow js cp with lastHeartbeatAt := none, heartbeatProgress := none }

/-- A row with every column that another row inserts. -/
def mergeInserted (row excluded : CheckpointRow Number) : CheckpointRow Number :=
  { row with toWrittenCheckpointColumns := excluded.toWrittenCheckpointColumns }

/-- Write a batch of checkpoints whose rows are still pending: the verdicts and the rows, unless a
statement fails. -/
def saveCheckpointsIfPending (locksRows : Bool)
    (checkpoints : List (StepCheckpoint Number Json)) (rows : List (CheckpointRow Number)) :
    Option (List Bool × List (CheckpointRow Number)) :=
  if checkpoints.isEmpty then some ([], rows)
  else
    let (pending, rows) :=
      lockPendingCheckpoints js locksRows (checkpoints.map fun cp => (cp.runId, cp.seq)) rows
    let decided := checkpoints.foldl (decideSave js) ⟨pending, [], []⟩
    (upsertSlices CheckpointRow.key mergeInserted checkpointUpsertBatch rows
      (decided.writes.map fun entry => insertedCheckpoint js entry.2)).map fun rows =>
        (decided.wrote, rows)

/-- The row that a settlement inserts: what an insert requires is taken from the locked row. -/
def insertedSettlement (s : StepSettlement Number Json) (row : CheckpointRow Number) :
    CheckpointRow Number :=
  { settlementToRow js s with
    runId := s.runId, seq := s.seq, name := row.name, kind := row.kind, stepId := row.stepId
    input := none, attempts := row.attempts, workerGroup := none, queue := none, wakeAt := none
    parallelGroup := none, enqueuedAt := none, lastHeartbeatAt := none
    heartbeatProgress := none }

/-- A row with the settled columns of another. -/
def mergeSettled (row excluded : CheckpointRow Number) : CheckpointRow Number :=
  { row with toSettledCheckpointColumns := excluded.toSettledCheckpointColumns }

/-- Decide a settlement of a batch. -/
def decideSettle (decided : Decided Number (List (CheckpointRow Number)))
    (s : StepSettlement Number Json) : Decided Number (List (CheckpointRow Number)) :=
  let k := checkpointKey js s.runId s.seq
  match decided.pending.lookup k with
  | none => { decided with wrote := decided.wrote ++ [false] }
  | some row =>
    { pending := dropKey k decided.pending
      wrote := decided.wrote ++ [true]
      writes := decided.writes ++ [insertedSettlement js s row] }

/-- Settle a batch of checkpoints whose rows are still pending: the verdicts and the rows, unless a
statement fails. -/
def settleCheckpointsIfPending (locksRows : Bool)
    (settlements : List (StepSettlement Number Json)) (rows : List (CheckpointRow Number)) :
    Option (List Bool × List (CheckpointRow Number)) :=
  match settlements with
  | [] => some ([], rows)
  | [only] =>
    let (wrote, rows) := settleCheckpointIfPending js only rows
    some ([wrote], rows)
  | settlements =>
    let (pending, rows) :=
      lockPendingCheckpoints js locksRows (settlements.map fun s => (s.runId, s.seq)) rows
    let decided := settlements.foldl (decideSettle js) ⟨pending, [], []⟩
    (upsertSlices CheckpointRow.key mergeSettled checkpointUpsertBatch rows
      decided.writes).map fun rows => (decided.wrote, rows)

end Writes

end Durable.Lucid
