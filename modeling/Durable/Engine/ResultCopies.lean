import Durable.Engine.StepResults

/-! Histories in which a worker's result is delivered more than once. -/

namespace Durable

open Interleaving

/-- Results of one run that are delivered together, each of them new or a copy. -/
structure ResultBatch where
  runId : String
  /-- The results, each with whether it is a copy of one delivered before. -/
  entries : List (StepResult × Bool)
  own : ∀ entry ∈ entries, entry.1.runId = runId

namespace ResultBatch

variable (batch : ResultBatch)

/-- The results as they are delivered. -/
def all : List StepResult := batch.entries.map Prod.fst

/-- The results without the copies. -/
def once : List StepResult := (batch.entries.filter (!·.2)).map Prod.fst

end ResultBatch

/-- An operation that does not pick up a wake. -/
def NotTakingWake (op : StoreOp) : Prop := ∀ runId, op ≠ .takeWake runId

/-- What happens in a history: some path performs an operation, or results are delivered. -/
inductive HistoryOp where
  /-- An operation; which turns a run takes is the history's own choice. -/
  | store (op : StoreOp) (chosen : NotTakingWake op)
  | deliver (support : StoreSupport) (queuedIn : Nat → Nat → Bool) (batch : ResultBatch)

/-- What the history is answered. -/
def HistoryOp.Answer : HistoryOp → Type
  | store op _ => op.Answer
  | deliver .. => Unit

/-- A history over one store: what happens, each thing after the answers before it. -/
abbrev CopyHistory := Program HistoryOp HistoryOp.Answer Unit

/-- What happens to the store, with the results of a batch that are delivered. -/
def HistoryOp.exec (delivered : ResultBatch → List StepResult) (store : Store) :
    (op : HistoryOp) → Store × op.Answer
  | .store op _ => store.exec op
  | .deliver support queuedIn batch =>
    let settled := (completeRemoteResults support queuedIn batch.runId (delivered batch)).alone
      Store.exec store
    (settled.1, ())

namespace Store

variable (store : Store)

/-- The store but for the turns that have been asked for. -/
def asleep : Store := { store with wakes := [] }

/-- The store once a step has given back the slot it holds, if it holds one. -/
def freed (row : StepCheckpoint) : Store :=
  match row.queue with
  | none => store
  | some queue => (store.exec (.releaseSlot queue)).1

/-- The store once a result of a pending step has been handled. -/
def settledBy (result : StepResult) (row : StepCheckpoint) : Store :=
  match (store.runs.get result.runId).map WorkflowRun.status with
  | some .cancelled | some .completed => store.freed row
  | some .failed | some .dead =>
    if result.status = .completed then
      (store.freed row).setCheckpoint
        (row.settled { settlementOf row result with error := row.error })
    else store.freed row
  | _ => (store.setCheckpoint (row.settled (settlementOf row result))).freed row

/-- The store once a result has been handled. -/
def afterResult (result : StepResult) : Store :=
  match store.checkpoints.get (result.runId, result.seq) with
  | none => store
  | some row => if row.status = .pending then store.settledBy result row else store

/-- A result still has something to do for its pending step, with the run as it stands. -/
def stillDue (result : StepResult) (row : StepCheckpoint) : Prop :=
  match (store.runs.get result.runId).map WorkflowRun.status with
  | some .cancelled | some .completed => row.queue ≠ none
  | some .failed | some .dead => row.queue ≠ none ∨ result.status = .completed
  | _ => True

instance (result : StepResult) (row : StepCheckpoint) : Decidable (store.stillDue result row) := by
  unfold stillDue
  split <;> infer_instance

/-- A result still has something to do: its step is pending, and its run not past it. -/
def heeds (result : StepResult) : Prop :=
  ∃ row ∈ store.checkpoints.get (result.runId, result.seq),
    row.status = .pending ∧ store.stillDue result row

instance (result : StepResult) : Decidable (store.heeds result) :=
  inferInstanceAs (Decidable (∃ _ ∈ _, _))

end Store

/--
The copies of a batch come too late to do anything.

Each follows a result of its step in the batch, or neither it nor a new result of its step behind it
has anything left to do.
-/
def ResultBatch.Spent (batch : ResultBatch) (store : Store) : Prop :=
  ∀ before copy after, batch.entries = before ++ (copy, true) :: after →
    (∃ entry ∈ before, entry.1.seq = copy.seq) ∨
      ¬ store.heeds copy ∧
        ∀ entry ∈ after, entry.2 = false → entry.1.seq = copy.seq → ¬ store.heeds entry.1

/-- The copies of whatever is delivered come too late. -/
def HistoryOp.Spent (store : Store) : HistoryOp → Prop
  | .store .. => True
  | .deliver _ _ batch => batch.Spent store

/-- Along a history, every copy comes too late to do anything. -/
def CopiesSpent : CopyHistory → Store → Prop
  | .done _, _ => True
  | .call op next, store =>
    op.Spent store ∧
      CopiesSpent (next (op.exec ResultBatch.all store).2) (op.exec ResultBatch.all store).1

/-- The copies of a batch are copies of results delivered before them. -/
def HistoryOp.Repeats (delivered : List StepResult) : HistoryOp → Prop
  | .store .. => True
  | .deliver _ _ batch => ∀ before copy after, batch.entries = before ++ (copy, true) :: after →
      copy ∈ before.map Prod.fst ∨ copy ∈ delivered

/-- The results an event of a history delivers. -/
def HistoryOp.results : HistoryOp → List StepResult
  | .store .. => []
  | .deliver _ _ batch => batch.all

/-- Along a history, every copy is of a result delivered before it. -/
def CopiesRepeat (delivered : List StepResult) : CopyHistory → Store → Prop
  | .done _, _ => True
  | .call op next, store =>
    op.Repeats delivered ∧
      CopiesRepeat (op.results ++ delivered) (next (op.exec ResultBatch.all store).2)
        (op.exec ResultBatch.all store).1

/-- A history comes to the same with its copies as without them, but for the turns asked for. -/
def CopiesHarmless (history : CopyHistory) (store : Store) : Prop :=
  (history.alone (HistoryOp.exec ResultBatch.all) store).1.asleep =
    (history.alone (HistoryOp.exec ResultBatch.once) store).1.asleep

end Durable
