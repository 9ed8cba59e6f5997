import Durable.Engine.ResultCopies
import Durable.Proofs.Engine.StepResults

/-! What results delivered again do to the store: nothing, where each copy comes too late. -/

namespace Durable

open Engine Interleaving

variable {α : Type} {results : List StepResult}

/-! ### The store but for the turns asked for -/

section Asleep

variable {store : Store}

@[simp] theorem asleep_checkpoints : store.asleep.checkpoints = store.checkpoints := rfl

@[simp] theorem asleep_runs : store.asleep.runs = store.runs := rfl

theorem asleep_settleEach (settlements : List StepSettlement) (store : Store) :
    store.asleep.settleEach settlements =
      ((store.settleEach settlements).1.asleep, (store.settleEach settlements).2) := by
  have one : ∀ (settlement : StepSettlement) (store : Store),
      store.asleep.settleOne settlement =
        ((store.settleOne settlement).1.asleep, (store.settleOne settlement).2) := by
    intro settlement store
    unfold Store.settleOne
    rw [asleep_checkpoints]
    split
    · rfl
    · split <;> rfl
  induction settlements generalizing store with
  | nil => rfl
  | cons settlement rest ih =>
    simp only [Store.settleEach, one, ih]

theorem asleep_registerChildWaits (entries : List ChildWait) (store : Store) :
    (store.asleep.exec (.registerChildWaits entries)).1 =
      (store.exec (.registerChildWaits entries)).1.asleep := by
  have waited : ∀ (entries : List ChildWait) (store : Store),
      entries.foldl (fun store entry => store.setWaiter entry.waiter) store.asleep =
        (entries.foldl (fun store entry => store.setWaiter entry.waiter) store).asleep := by
    intro entries
    induction entries with
    | nil => exact fun store => rfl
    | cons entry rest ih => exact fun store => ih (store.setWaiter entry.waiter)
  have placed : ∀ (entries : List ChildWait) (store : Store),
      entries.foldl (fun store entry => store.setCheckpoint entry.checkpoint) store.asleep =
        (entries.foldl (fun store entry => store.setCheckpoint entry.checkpoint) store).asleep := by
    intro entries
    induction entries with
    | nil => exact fun store => rfl
    | cons entry rest ih => exact fun store => ih (store.setCheckpoint entry.checkpoint)
  simp only [Store.exec, waited, placed]

theorem asleep_exec (store : Store) (op : StoreOp) (chosen : NotTakingWake op) :
    (store.asleep.exec op).1.asleep = (store.exec op).1.asleep ∧
      (store.asleep.exec op).2 = (store.exec op).2 := by
  cases op with
  | takeWake runId => exact absurd rfl (chosen runId)
  | settleCheckpointsIfPending settlements =>
    have settled := asleep_settleEach settlements store
    simp only [Store.exec, settled]
    exact ⟨rfl, rfl⟩
  | registerChildWaits entries =>
    rw [asleep_registerChildWaits]
    exact ⟨rfl, rfl⟩
  | takeBufferedSignal token =>
    cases filled : store.buffered token with
    | nil =>
      rw [store.asleep.exec_takeBufferedSignal_nil filled, store.exec_takeBufferedSignal_nil filled]
      exact ⟨rfl, rfl⟩
    | cons payload rest =>
      rw [store.asleep.exec_takeBufferedSignal_cons filled,
        store.exec_takeBufferedSignal_cons filled]
      exact ⟨rfl, rfl⟩
  | _ =>
    -- The other operations read and write other tables.
    first
    | exact ⟨rfl, rfl⟩
    | (simp only [Store.exec, Store.asleep]
       split <;> first | exact ⟨rfl, rfl⟩ | (split <;> exact ⟨rfl, rfl⟩))

end Asleep

/-! ### Stores that agree but for the turns asked for -/

namespace Store

/-- Two stores are the same but for the turns asked for. -/
def Agrees (one other : Store) : Prop := one.asleep = other.asleep

variable {one other third : Store}

theorem Agrees.refl (store : Store) : Agrees store store := rfl

theorem Agrees.trans (first : Agrees one other) (second : Agrees other third) :
    Agrees one third :=
  Eq.trans first second

theorem Agrees.symm (agree : Agrees one other) : Agrees other one := Eq.symm agree

theorem Agrees.exec (agree : Agrees one other) (op : StoreOp) (chosen : NotTakingWake op) :
    Agrees (one.exec op).1 (other.exec op).1 ∧ (one.exec op).2 = (other.exec op).2 := by
  have first := asleep_exec one op chosen
  have second := asleep_exec other op chosen
  unfold Agrees at agree ⊢
  rw [agree] at first
  exact ⟨first.1.symm.trans second.1, first.2.symm.trans second.2⟩

end Store

theorem agrees_alone {program : Engine α} (uses : program.Uses Asks) (store : Store) :
    Store.Agrees store (program.alone Store.exec store).1 := by
  refine uses.alone_related Store.Agrees.refl Store.Agrees.trans ?_ store
  intro shared op asks
  cases op with
  | getRun | getCheckpoint | listCheckpoints | replayCheckpoints | requestWake => rfl
  | _ => exact asks.elim

theorem agrees_known {β : Type} {first : Engine α} {rest : α → Engine β}
    {target before after : Store} {answer : α}
    (known : first.alone Store.exec before = (after, answer))
    (agree : Store.Agrees target ((rest answer).alone Store.exec after).1) :
    Store.Agrees target ((first >>= rest).alone Store.exec before).1 := by
  rw [Program.alone_known known]
  exact agree

/-! ### What handling one result does to the store -/

section OneResult

variable {store : Store} {support : StoreSupport} {row : StepCheckpoint} {result : StepResult}

theorem freed_frame (store : Store) (row : StepCheckpoint) :
    ∃ queues, store.freed row = { store with queues } := by
  unfold Store.freed
  split
  · exact ⟨store.queues, rfl⟩
  · simp only [Store.exec]
    split
    · exact ⟨store.queues, rfl⟩
    · exact ⟨_, rfl⟩

theorem freed_none (store : Store) (slotless : row.queue = none) : store.freed row = store := by
  simp [Store.freed, slotless]

theorem freed_setCheckpoint (store : Store) (row written : StepCheckpoint) :
    (store.setCheckpoint written).freed row = (store.freed row).setCheckpoint written := by
  unfold Store.freed
  split
  · rfl
  · rename_i queue _
    unfold Store.setCheckpoint Store.exec
    simp only
    split <;> rfl

theorem releaseQueueSlot_alone (store : Store) (row : StepCheckpoint) :
    (releaseQueueSlot row).alone Store.exec store = (store.freed row, ()) := by
  unfold releaseQueueSlot Store.freed
  cases row.queue <;> rfl

theorem exec_saveCheckpointIfPending (written : StepCheckpoint)
    (found : store.checkpoints.get (written.runId, written.seq) = some row)
    (pending : row.status = .pending) :
    store.exec (.saveCheckpointIfPending written) = (store.setCheckpoint written, true) := by
  simp only [Store.exec, found]
  exact if_pos pending

theorem settleOne_pending (settlement : StepSettlement)
    (found : store.checkpoints.get (row.runId, row.seq) = some row)
    (pending : row.status = .pending)
    (own : (settlement.runId, settlement.seq) = (row.runId, row.seq)) :
    store.settleOne settlement = (store.setCheckpoint (row.settled settlement), true) := by
  unfold Store.settleOne
  rw [own, found]
  simp only [pending, if_true]
  rfl

theorem settlePendingCheckpoint_alone {settlement : StepSettlement}
    (found : store.checkpoints.get (row.runId, row.seq) = some row)
    (pending : row.status = .pending)
    (own : (settlement.runId, settlement.seq) = (row.runId, row.seq)) :
    (settlePendingCheckpoint support row settlement).alone Store.exec store =
      (store.setCheckpoint (row.settled settlement), true) := by
  unfold settlePendingCheckpoint
  split
  · have settled : store.exec (.settleCheckpointsIfPending [settlement]) =
        (store.setCheckpoint (row.settled settlement), [true]) := by
      simp only [Store.exec, Store.settleEach, settleOne_pending settlement found pending own]
      rfl
    exact Program.alone_step settled _
  · unfold savePendingCheckpoint
    split
    · exact Program.alone_step
        (exec_saveCheckpointIfPending (row.settled settlement) found pending) Program.done
    · rfl

theorem salvageResult_alone (found : store.checkpoints.get (row.runId, row.seq) = some row)
    (pending : row.status = .pending) :
    ((salvageResult support row result).alone Store.exec store).1 =
      store.setCheckpoint (row.settled { settlementOf row result with error := row.error }) := by
  unfold salvageResult
  split
  · have settled : store.exec (.settleCheckpointsIfPending
        [{ settlementOf row result with error := row.error }]) =
        (store.setCheckpoint (row.settled { settlementOf row result with error := row.error }),
          [true]) := by
      simp only [Store.exec, Store.settleEach]
      rw [settleOne_pending _ found pending rfl]
    exact congrArg Prod.fst (Program.alone_step settled _)
  · rfl

theorem Store.freed_get (store : Store) (row : StepCheckpoint) (key : String × Nat) :
    (store.freed row).checkpoints.get key = store.checkpoints.get key := by
  obtain ⟨queues, freed⟩ := freed_frame store row
  rw [freed]

theorem Store.Keyed.freed (keyed : store.Keyed) (row : StepCheckpoint) :
    (store.freed row).Keyed := by
  intro key held found
  rw [Store.freed_get] at found
  exact keyed key held found

/-- A result of a pending step does to the store what its run's status asks for. -/
theorem settlePendingResult_alone (keyed : store.Keyed)
    (found : store.checkpoints.get (result.runId, result.seq) = some row)
    (pending : row.status = .pending) :
    ((settlePendingResult support result row (store.runs.get result.runId)).alone
      Store.exec store).1 = store.settledBy result row := by
  have own : (row.runId, row.seq) = (result.runId, result.seq) := keyed _ row found
  have here : store.checkpoints.get (row.runId, row.seq) = some row := by rw [own]; exact found
  have late : ((do
      releaseQueueSlot row
      if result.status = .completed then salvageResult support row result
      return none : Engine (Option StepCheckpoint)).alone Store.exec store).1 =
      if result.status = .completed then
        (store.freed row).setCheckpoint
          (row.settled { settlementOf row result with error := row.error })
      else store.freed row := by
    rw [Program.alone_known (releaseQueueSlot_alone store row)]
    split
    · rename_i completed
      rw [Program.alone_bind]
      have still : (store.freed row).checkpoints.get (row.runId, row.seq) = some row := by
        rw [Store.freed_get]
        exact here
      exact salvageResult_alone still pending
    · rfl
  have released : ((do
      releaseQueueSlot row
      return none : Engine (Option StepCheckpoint)).alone Store.exec store).1 =
      store.freed row := by
    rw [Program.alone_known (releaseQueueSlot_alone store row)]
    rfl
  have settled : ((do
      if ← settlePendingCheckpoint support row (settlementOf row result) then
        releaseQueueSlot row
      return some row : Engine (Option StepCheckpoint)).alone Store.exec store).1 =
      (store.setCheckpoint (row.settled (settlementOf row result))).freed row := by
    rw [Program.alone_known (settlePendingCheckpoint_alone here pending rfl)]
    simp only [if_true]
    rw [Program.alone_known (releaseQueueSlot_alone _ row)]
    rfl
  unfold settlePendingResult Store.settledBy
  cases known : (store.runs.get result.runId).map WorkflowRun.status with
  | none => exact settled
  | some status =>
    cases status with
    | cancelled | completed => exact released
    | failed | dead => exact late
    | _ => exact settled

theorem settleRemoteCheckpoint_alone (keyed : store.Keyed) :
    ((settleRemoteCheckpoint support result).alone Store.exec store).1 =
      store.afterResult result := by
  unfold Store.afterResult
  cases found : store.checkpoints.get (result.runId, result.seq) with
  | none =>
    exact congrArg Prod.fst (Program.alone_step (store.exec_getCheckpoint found) _)
  | some row =>
    refine (congrArg Prod.fst (Program.alone_step (store.exec_getCheckpoint found) _)).trans ?_
    refine (congrArg Prod.fst (Program.alone_step (store.exec_getRun rfl) _)).trans ?_
    by_cases pending : row.status = .pending
    · simp only [pending, if_true]
      exact settlePendingResult_alone keyed found pending
    · simp only [pending, if_false]
      split <;> rfl

end OneResult

/-! ### Handling results one after the other -/

section Results

variable {store one other : Store}

theorem Store.Keyed.alone (keyed : store.Keyed) (program : Engine α) :
    (program.alone Store.exec store).1.Keyed := by
  induction program generalizing store with
  | done result => exact keyed
  | call op next ih => exact ih _ (keyed.exec op)

theorem Store.asleep_freed (store : Store) (row : StepCheckpoint) :
    store.asleep.freed row = (store.freed row).asleep := by
  unfold Store.freed
  cases row.queue with
  | none => rfl
  | some queue =>
    simp only [Store.exec, Store.asleep]
    split <;> rfl

theorem Store.asleep_setCheckpoint (store : Store) (row : StepCheckpoint) :
    store.asleep.setCheckpoint row = (store.setCheckpoint row).asleep := rfl

theorem Store.asleep_afterResult (store : Store) (result : StepResult) :
    store.asleep.afterResult result = (store.afterResult result).asleep := by
  unfold Store.afterResult Store.settledBy
  simp only [asleep_checkpoints, asleep_runs, Store.asleep_freed, Store.asleep_setCheckpoint]
  split
  · rfl
  · split
    · split
      · rfl
      · rfl
      · split <;> rfl
      · split <;> rfl
      · rfl
    · rfl

theorem Store.Agrees.foldl (agree : Store.Agrees one other) (results : List StepResult) :
    Store.Agrees (results.foldl Store.afterResult one) (results.foldl Store.afterResult other) := by
  induction results generalizing one other with
  | nil => exact agree
  | cons result rest ih =>
    apply ih
    unfold Store.Agrees at agree ⊢
    rw [← Store.asleep_afterResult, agree, Store.asleep_afterResult]

theorem completeOneRemoteResult_alone (support : StoreSupport) (queuedIn : Nat → Nat → Bool)
    (result : StepResult) (keyed : store.Keyed) :
    Store.Agrees (store.afterResult result)
      ((completeOneRemoteResult support queuedIn result).alone Store.exec store).1 := by
  unfold completeOneRemoteResult
  rw [Program.alone_bind, settleRemoteCheckpoint_alone keyed]
  split
  · exact Store.Agrees.refl _
  · apply agrees_alone
    apply Program.uses_bind (stepFanStillRunning_asks queuedIn _ result)
    intro running
    split
    · trivial
    · exact ⟨trivial, fun _ => trivial⟩

theorem settleOneByOne_alone (support : StoreSupport) (queuedIn : Nat → Nat → Bool)
    (results : List StepResult) (keyed : store.Keyed) :
    Store.Agrees (results.foldl Store.afterResult store)
      ((settleOneByOne support queuedIn results).alone Store.exec store).1 := by
  induction results generalizing store with
  | nil => exact Store.Agrees.refl _
  | cons result rest ih =>
    have first := completeOneRemoteResult_alone support queuedIn result keyed
    have later := ih (keyed.alone (completeOneRemoteResult support queuedIn result))
    unfold settleOneByOne
    rw [Program.alone_bind]
    exact (first.foldl rest).trans later

end Results

/-! ### A batch of results -/

section Batch

variable {store : Store} {support : StoreSupport} {entries : List (StepCheckpoint × StepResult)}
  {result : StepResult} {entry : StepCheckpoint × StepResult} {rows : Nat → Option StepCheckpoint}
  {run : WorkflowRun} {runId : String}

/-- The store with a result written over its pending step. -/
def Store.written (store : Store) (entry : StepCheckpoint × StepResult) : Store :=
  store.setCheckpoint (entry.1.settled (settlementOf entry.1 entry.2))

theorem Store.written_get {key : String × Nat} (apart : (entry.1.runId, entry.1.seq) ≠ key) :
    (store.written entry).checkpoints.get key = store.checkpoints.get key := by
  unfold Store.written
  rw [Store.setCheckpoint_get]
  exact if_neg apart

/-- The entries' steps are pending in the store, each at a position of its own. -/
structure PendingIn (store : Store) (entries : List (StepCheckpoint × StepResult)) : Prop where
  found : ∀ entry ∈ entries, store.checkpoints.get (entry.1.runId, entry.1.seq) = some entry.1
  pending : ∀ entry ∈ entries, entry.1.status = .pending
  apart : entries.Pairwise fun one other =>
    (one.1.runId, one.1.seq) ≠ (other.1.runId, other.1.seq)

theorem PendingIn.rest (due : PendingIn store (entry :: entries)) :
    PendingIn (store.written entry) entries := by
  obtain ⟨first, later⟩ := List.pairwise_cons.mp due.apart
  refine ⟨?_, fun other listed => due.pending other (List.mem_cons_of_mem _ listed), later⟩
  intro other listed
  rw [Store.written_get (first other listed)]
  exact due.found other (List.mem_cons_of_mem _ listed)

theorem settleEach_pending (due : PendingIn store entries) :
    store.settleEach (entries.map fun entry => settlementOf entry.1 entry.2) =
      (entries.foldl Store.written store, entries.map fun _ => true) := by
  induction entries generalizing store with
  | nil => rfl
  | cons entry rest ih =>
    have first := settleOne_pending (settlementOf entry.1 entry.2)
      (due.found entry (.head _)) (due.pending entry (.head _)) rfl
    simp only [List.map_cons, Store.settleEach, first, List.foldl_cons]
    rw [show store.setCheckpoint (entry.1.settled (settlementOf entry.1 entry.2)) =
      store.written entry from rfl, ih due.rest]

theorem saveEachPending_alone (due : PendingIn store entries) :
    (saveEachPending support (entries.map fun entry =>
      (entry.1, settlementOf entry.1 entry.2))).alone Store.exec store =
      (entries.foldl Store.written store, entries.map fun _ => true) := by
  induction entries generalizing store with
  | nil => rfl
  | cons entry rest ih =>
    have first : (savePendingCheckpoint support
        (entry.1.settled (settlementOf entry.1 entry.2))).alone Store.exec store =
        (store.written entry, true) := by
      unfold savePendingCheckpoint
      split
      · exact exec_saveCheckpointIfPending (entry.1.settled (settlementOf entry.1 entry.2))
          (due.found entry (.head _)) (due.pending entry (.head _))
      · rfl
    rw [List.map_cons, saveEachPending, Program.alone_known first,
      Program.alone_known (ih due.rest)]
    rfl

theorem settlePendingCheckpoints_alone (due : PendingIn store entries) :
    (settlePendingCheckpoints support (entries.map fun entry =>
      (entry.1, settlementOf entry.1 entry.2))).alone Store.exec store =
      (entries.foldl Store.written store, entries.map fun _ => true) := by
  unfold settlePendingCheckpoints
  split
  · rw [List.map_map]
    exact settleEach_pending due
  · exact saveEachPending_alone due

theorem releaseClaimed_alone (entries : List (StepCheckpoint × StepResult)) (store : Store) :
    (releaseClaimed ((entries.map Prod.fst).zip (entries.map fun _ => true))).alone
      Store.exec store = (entries.foldl (fun store entry => store.freed entry.1) store, ()) := by
  induction entries generalizing store with
  | nil => rfl
  | cons entry rest ih =>
    rw [List.map_cons, List.map_cons, List.zip_cons_cons, releaseClaimed]
    simp only [if_true]
    rw [Program.alone_known (releaseQueueSlot_alone store entry.1)]
    exact ih (store.freed entry.1)

theorem freed_foldl_written (entries : List (StepCheckpoint × StepResult)) (store : Store)
    (row : StepCheckpoint) :
    (entries.foldl Store.written store).freed row =
      entries.foldl Store.written (store.freed row) := by
  induction entries generalizing store with
  | nil => rfl
  | cons entry rest ih =>
    rw [List.foldl_cons, ih, List.foldl_cons]
    unfold Store.written
    rw [freed_setCheckpoint]

def pendingRead (rows : Nat → Option StepCheckpoint) (results : List StepResult) :
    List (StepCheckpoint × StepResult) :=
  (rowsRead rows results).filter (·.1.status = .pending)

theorem pendingIn_read (keyed : store.Keyed) (runId : String)
    (distinct : results.Pairwise fun one other => one.seq ≠ other.seq) :
    PendingIn store (pendingRead (fun seq => store.checkpoints.get (runId, seq)) results) := by
  have placed : ∀ position row, store.checkpoints.get (runId, position) = some row →
      (row.runId, row.seq) = (runId, position) := fun position row found => keyed _ row found
  refine ⟨?_, ?_, (rowsRead_pairwise placed distinct).filter _⟩
  · intro entry listed
    obtain ⟨result, -, read⟩ := List.mem_filterMap.mp (List.mem_filter.mp listed).1
    obtain ⟨row, found, rfl⟩ := Option.map_eq_some_iff.mp read
    rw [placed _ row found]
    exact found
  · intro entry listed
    exact of_decide_eq_true (List.mem_filter.mp listed).2

theorem pendingRead_skip (settled : ∀ row, rows result.seq = some row → row.status ≠ .pending)
    (rest : List StepResult) : pendingRead rows (result :: rest) = pendingRead rows rest := by
  unfold pendingRead rowsRead
  cases found : rows result.seq with
  | none => simp [found]
  | some row => simp [found, settled row found]

theorem pendingRead_cons {row : StepCheckpoint} (found : rows result.seq = some row)
    (pending : row.status = .pending) (rest : List StepResult) :
    pendingRead rows (result :: rest) = (row, result) :: pendingRead rows rest := by
  unfold pendingRead rowsRead
  simp [found, pending]

theorem Store.settledBy_live (known : store.runs.get result.runId = some run)
    (goes : isTerminalStatus run.status = false) (row : StepCheckpoint) :
    store.settledBy result row = (store.written (row, result)).freed row := by
  unfold Store.settledBy Store.written
  rw [known, Option.map_some]
  cases status : run.status with
  | completed | failed | cancelled | dead => simp [status, isTerminalStatus] at goes
  | _ => rfl

/-- The results of a batch write the pending steps they are read for, then free their slots. -/
theorem foldl_afterResult_live (rows : Nat → Option StepCheckpoint)
    (goes : isTerminalStatus run.status = false) (own : ∀ result ∈ results, result.runId = runId)
    (distinct : results.Pairwise fun one other => one.seq ≠ other.seq) (keyed : store.Keyed)
    (known : store.runs.get runId = some run)
    (stored : ∀ result ∈ results, store.checkpoints.get (runId, result.seq) = rows result.seq) :
    results.foldl Store.afterResult store =
      (pendingRead rows results).foldl (fun store entry => store.freed entry.1)
        ((pendingRead rows results).foldl Store.written store) := by
  induction results generalizing store with
  | nil => rfl
  | cons result rest ih =>
    obtain ⟨first, later⟩ := List.pairwise_cons.mp distinct
    have own_rest : ∀ other ∈ rest, other.runId = runId := fun other listed =>
      own other (List.mem_cons_of_mem _ listed)
    have here : store.checkpoints.get (result.runId, result.seq) = rows result.seq := by
      rw [own result (.head _)]
      exact stored result (.head _)
    rw [List.foldl_cons]
    by_cases due : ∃ row, rows result.seq = some row ∧ row.status = .pending
    · obtain ⟨row, found, pending⟩ := due
      have place : (row.runId, row.seq) = (result.runId, result.seq) :=
        keyed _ row (here.trans found)
      have step : store.afterResult result = (store.written (row, result)).freed row := by
        unfold Store.afterResult
        rw [here, found]
        simp only [pending, if_true]
        exact Store.settledBy_live (by rw [own result (.head _)]; exact known) goes row
      obtain ⟨queues, freed⟩ := freed_frame (store.written (row, result)) row
      -- What the first result writes is at none of the positions that follow.
      have still : ((store.written (row, result)).freed row).Keyed :=
        (keyed.setCheckpoint _).freed row
      have rested := ih own_rest later still (by rw [freed]; exact known) (by
          intro other listed
          rw [Store.freed_get, Store.written_get]
          · exact stored other (List.mem_cons_of_mem _ listed)
          · rw [place, own result (.head _)]
            intro same
            exact first other listed (Prod.mk.inj same).2)
      rw [step, rested, pendingRead_cons found pending, ← freed_foldl_written]
      rfl
    · have settled : ∀ row, rows result.seq = some row → row.status ≠ .pending :=
        fun row found pending => due ⟨row, found, pending⟩
      have step : store.afterResult result = store := by
        unfold Store.afterResult
        rw [here]
        cases found : rows result.seq with
        | none => rfl
        | some row => simp [settled row found]
      rw [step, pendingRead_skip settled]
      exact ih own_rest later keyed known fun other listed =>
        stored other (List.mem_cons_of_mem _ listed)

theorem mem_of_mem_liveResults (kept : result ∈ liveResults results) : result ∈ results := by
  induction results with
  | nil => exact kept
  | cons first rest ih =>
    rcases List.mem_cons.mp kept with same | later
    · rw [same]
      exact .head _
    · exact List.mem_cons_of_mem _ (ih (List.mem_filter.mp later).1)

theorem completeRemoteResults_alone (support : StoreSupport) (queuedIn : Nat → Nat → Bool)
    (own : ∀ result ∈ results, result.runId = runId) (keyed : store.Keyed) :
    Store.Agrees ((liveResults results).foldl Store.afterResult store)
      ((completeRemoteResults support queuedIn runId results).alone Store.exec store).1 := by
  unfold completeRemoteResults
  by_cases single : results.length = 1
  · obtain ⟨result, rfl⟩ := List.length_eq_one_iff.mp single
    exact settleOneByOne_alone support queuedIn [result] keyed
  · simp only [single, if_false]
    rw [alone_getRun]
    cases known : (store.runs.get runId).all (isTerminalStatus ·.status) with
    | true => exact settleOneByOne_alone support queuedIn (liveResults results) keyed
    | false =>
      obtain ⟨run, found, goes⟩ : ∃ run, store.runs.get runId = some run ∧
          isTerminalStatus run.status = false := by
        cases found : store.runs.get runId with
        | none => simp [found] at known
        | some run => exact ⟨run, rfl, by simpa [found] using known⟩
      have live := foldl_afterResult_live (fun seq => store.checkpoints.get (runId, seq)) goes
        (fun result kept => own result (mem_of_mem_liveResults kept))
        (liveResults_pairwise results) keyed found fun _ _ => rfl
      have due := pendingIn_read keyed runId (liveResults_pairwise results)
      simp only [Bool.false_eq_true, if_false]
      rw [alone_replayCheckpoints, live]
      apply agrees_known (settlePendingCheckpoints_alone due)
      apply agrees_known (releaseClaimed_alone _ _)
      exact agrees_alone (resumeBatch_asks queuedIn runId _ []) _

end Batch

/-! ### Copies that come too late -/

section Copies

variable {store : Store} {result : StepResult} {seen : List Nat}
  {entries : List (StepResult × Bool)} {seq : Nat}

theorem Store.afterResult_spent (spent : ¬ store.heeds result) :
    store.afterResult result = store := by
  unfold Store.afterResult
  cases found : store.checkpoints.get (result.runId, result.seq) with
  | none => rfl
  | some row =>
    by_cases pending : row.status = .pending
    · have past : ¬ store.stillDue result row := fun due => spent ⟨row, found, pending, due⟩
      simp only [pending, if_true]
      unfold Store.settledBy
      unfold Store.stillDue at past
      cases known : (store.runs.get result.runId).map WorkflowRun.status with
      | none => simp [known] at past
      | some status =>
        cases status with
        | cancelled | completed =>
          have slotless : row.queue = none := by simpa [known] using past
          exact freed_none store slotless
        | failed | dead =>
          have nothing : row.queue = none ∧ ¬ result.status = .completed := by
            simpa [known] using past
          simp only [nothing.2, if_false]
          exact freed_none store nothing.1
        | _ => simp [known] at past
    · simp [pending]

theorem Store.afterResult_frame (keyed : store.Keyed) (result : StepResult) :
    (store.afterResult result).runs = store.runs ∧
      ∀ key, (result.runId, result.seq) ≠ key →
        (store.afterResult result).checkpoints.get key = store.checkpoints.get key := by
  unfold Store.afterResult
  split
  · exact ⟨rfl, fun _ _ => rfl⟩
  · rename_i row found
    have place : (row.runId, row.seq) = (result.runId, result.seq) := keyed _ row found
    split
    · -- The row's slot may be given back, and nothing but its own place written.
      have kept : (store.freed row).runs = store.runs ∧
          ∀ key, (result.runId, result.seq) ≠ key →
            (store.freed row).checkpoints.get key = store.checkpoints.get key := by
        obtain ⟨queues, freed⟩ := freed_frame store row
        rw [freed]
        exact ⟨rfl, fun _ _ => rfl⟩
      have wrote : ∀ settlement,
          ((store.freed row).setCheckpoint (row.settled settlement)).runs = store.runs ∧
            ∀ key, (result.runId, result.seq) ≠ key →
              ((store.freed row).setCheckpoint (row.settled settlement)).checkpoints.get key =
                store.checkpoints.get key := by
        intro settlement
        refine ⟨kept.1, fun key apart => ?_⟩
        rw [Store.setCheckpoint_get, ← kept.2 key apart]
        exact if_neg fun same => apart (place.symm.trans same)
      unfold Store.settledBy
      split
      · exact kept
      · exact kept
      · -- A step of a failed or dead run is still settled by a completed result.
        split
        · exact wrote _
        · exact kept
      · split
        · exact wrote _
        · exact kept
      · rw [freed_setCheckpoint]
        exact wrote _
    · exact ⟨rfl, fun _ _ => rfl⟩

theorem Store.Keyed.afterResult (keyed : store.Keyed) (result : StepResult) :
    (store.afterResult result).Keyed := by
  have handled : ((settleRemoteCheckpoint {} result).alone Store.exec store).1 =
      store.afterResult result := settleRemoteCheckpoint_alone keyed
  rw [← handled]
  exact keyed.alone _

theorem Store.heeds_afterResult (keyed : store.Keyed) {other : StepResult}
    (apart : result.seq ≠ other.seq) :
    (store.afterResult result).heeds other ↔ store.heeds other := by
  obtain ⟨runs, rows⟩ := Store.afterResult_frame keyed result
  have row := rows (other.runId, other.seq) fun same => apart (Prod.mk.inj same).2
  unfold Store.heeds Store.stillDue
  rw [runs, row]

theorem foldl_afterResult_filter
    (distinct : results.Pairwise fun one other => one.seq ≠ other.seq) (keyed : store.Keyed) :
    results.foldl Store.afterResult store =
      (results.filter fun result => store.heeds result).foldl Store.afterResult store := by
  induction results generalizing store with
  | nil => rfl
  | cons result rest ih =>
    obtain ⟨first, later⟩ := List.pairwise_cons.mp distinct
    rw [List.foldl_cons]
    by_cases heeded : store.heeds result
    · have kept := Store.Keyed.afterResult keyed result
      have same : (rest.filter fun other => (store.afterResult result).heeds other) =
          rest.filter fun other => store.heeds other := by
        apply List.filter_congr
        intro other listed
        rw [decide_eq_decide]
        exact Store.heeds_afterResult keyed (first other listed)
      rw [ih later kept, same, List.filter_cons, if_pos (by simpa using heeded), List.foldl_cons]
    · rw [Store.afterResult_spent heeded, ih later keyed, List.filter_cons,
        if_neg (by simpa using heeded)]

/-- The copies among entries come too late, or behind a result of their step seen before. -/
def SpentBehind (store : Store) (seen : List Nat) (entries : List (StepResult × Bool)) : Prop :=
  ∀ before copy after, entries = before ++ (copy, true) :: after →
    (∃ entry ∈ before, entry.1.seq = copy.seq) ∨ copy.seq ∈ seen ∨
      ¬ store.heeds copy ∧
        ∀ entry ∈ after, entry.2 = false → entry.1.seq = copy.seq → ¬ store.heeds entry.1

theorem SpentBehind.rest {first : StepResult × Bool}
    (spent : SpentBehind store seen (first :: entries)) :
    SpentBehind store (first.1.seq :: seen) entries := by
  intro before copy after split
  rcases spent (first :: before) copy after (by rw [split]; rfl) with
    ⟨entry, listed, same⟩ | behind | late
  · rcases List.mem_cons.mp listed with own | earlier
    · exact .inr (.inl (List.mem_cons.mpr (.inl (by rw [← same, own]))))
    · exact .inl ⟨entry, earlier, same⟩
  · exact .inr (.inl (List.mem_cons_of_mem _ behind))
  · exact .inr (.inr late)

/-- The results a batch keeps that have something to do, but for steps seen before. -/
def heededPast (store : Store) (seen : List Nat) (results : List StepResult) : List StepResult :=
  (liveResults results).filter fun result => store.heeds result ∧ result.seq ∉ seen

theorem heededPast_cons (seen : List Nat) (result : StepResult) (rest : List StepResult) :
    heededPast store seen (result :: rest) =
      if store.heeds result ∧ result.seq ∉ seen then
        result :: heededPast store (result.seq :: seen) rest
      else heededPast store (result.seq :: seen) rest := by
  have behind : ((liveResults rest).filter (·.seq ≠ result.seq)).filter
      (fun other => store.heeds other ∧ other.seq ∉ seen) =
      heededPast store (result.seq :: seen) rest := by
    unfold heededPast
    rw [List.filter_filter]
    apply List.filter_congr
    intro other _
    rw [Bool.eq_iff_iff]
    simp only [Bool.and_eq_true, decide_eq_true_eq, List.mem_cons, not_or, ne_eq]
    constructor
    · intro ⟨⟨heeded, unseen⟩, apart⟩
      exact ⟨heeded, apart, unseen⟩
    · intro ⟨heeded, apart, unseen⟩
      exact ⟨⟨heeded, unseen⟩, apart⟩
  unfold heededPast at behind ⊢
  rw [liveResults, List.filter_cons, behind]
  simp only [decide_eq_true_eq]

theorem heededPast_seen (known : seq ∈ seen) (results : List StepResult) :
    heededPast store (seq :: seen) results = heededPast store seen results := by
  unfold heededPast
  apply List.filter_congr
  intro other _
  rw [decide_eq_decide, List.mem_cons, not_or]
  constructor
  · intro ⟨heeded, _, unseen⟩
    exact ⟨heeded, unseen⟩
  · intro ⟨heeded, unseen⟩
    exact ⟨heeded, fun same => unseen (same ▸ known), unseen⟩

theorem heededPast_idle (idle : ∀ result ∈ results, result.seq = seq → ¬ store.heeds result) :
    heededPast store (seq :: seen) results = heededPast store seen results := by
  unfold heededPast
  apply List.filter_congr
  intro other kept
  rw [decide_eq_decide, List.mem_cons, not_or]
  constructor
  · intro ⟨heeded, _, unseen⟩
    exact ⟨heeded, unseen⟩
  · intro ⟨heeded, unseen⟩
    exact ⟨heeded, fun same => idle other (mem_of_mem_liveResults kept) same heeded, unseen⟩

theorem liveResults_copies (spent : SpentBehind store seen entries) :
    heededPast store seen (entries.map Prod.fst) =
      heededPast store seen ((entries.filter (!·.2)).map Prod.fst) := by
  induction entries generalizing seen with
  | nil => rfl
  | cons entry rest ih =>
    obtain ⟨result, copy⟩ := entry
    have later := ih spent.rest
    cases copy with
    | false =>
      have kept : ((result, false) :: rest).filter (!·.2) =
          (result, false) :: rest.filter (!·.2) := rfl
      rw [kept, List.map_cons, List.map_cons, heededPast_cons, heededPast_cons, later]
    | true =>
      have dropped : ((result, true) :: rest).filter (!·.2) = rest.filter (!·.2) := rfl
      rw [dropped, List.map_cons, heededPast_cons, later]
      by_cases known : result.seq ∈ seen
      · have unkept : ¬ (store.heeds result ∧ result.seq ∉ seen) := fun both => both.2 known
        rw [if_neg unkept]
        exact heededPast_seen known _
      · -- The copy comes first of its step, so it and the new ones behind it come too late.
        rcases spent [] result rest rfl with ⟨other, none, -⟩ | behind | ⟨late, idle⟩
        · exact absurd none List.not_mem_nil
        · exact absurd behind known
        · have unkept : ¬ (store.heeds result ∧ result.seq ∉ seen) := fun both => late both.1
          rw [if_neg unkept]
          apply heededPast_idle
          intro other listed same
          obtain ⟨entry, kept, rfl⟩ := List.mem_map.mp listed
          obtain ⟨among, fresh⟩ := List.mem_filter.mp kept
          exact idle entry among (by simpa using fresh) same

theorem batch_agrees (keyed : store.Keyed) {batch : ResultBatch} (spent : batch.Spent store) :
    (liveResults batch.all).foldl Store.afterResult store =
      (liveResults batch.once).foldl Store.afterResult store := by
  have behind : SpentBehind store [] batch.entries := by
    intro before copy after split
    rcases spent before copy after split with earlier | late
    · exact .inl earlier
    · exact .inr (.inr late)
  have same := liveResults_copies behind
  unfold heededPast at same
  simp only [List.not_mem_nil, not_false_eq_true, and_true] at same
  rw [foldl_afterResult_filter (liveResults_pairwise _) keyed,
    foldl_afterResult_filter (liveResults_pairwise batch.once) keyed]
  exact congrArg (List.foldl Store.afterResult store) same

end Copies

/-! ### Histories with copies -/

section Histories

variable {one other : Store}

theorem ResultBatch.all_own (batch : ResultBatch) :
    ∀ result ∈ batch.all, result.runId = batch.runId := by
  intro result listed
  obtain ⟨entry, among, rfl⟩ := List.mem_map.mp listed
  exact batch.own entry among

theorem ResultBatch.once_own (batch : ResultBatch) :
    ∀ result ∈ batch.once, result.runId = batch.runId := by
  intro result listed
  obtain ⟨entry, among, rfl⟩ := List.mem_map.mp listed
  exact batch.own entry (List.mem_filter.mp among).1

theorem HistoryOp.exec_agrees (agree : Store.Agrees one other) (keyed : one.Keyed)
    (keyed_other : other.Keyed) {op : HistoryOp} (spent : op.Spent one) :
    Store.Agrees (op.exec ResultBatch.all one).1 (op.exec ResultBatch.once other).1 ∧
      (op.exec ResultBatch.all one).2 = (op.exec ResultBatch.once other).2 := by
  cases op with
  | store op chosen => exact agree.exec op chosen
  | deliver support queuedIn batch =>
    have delivered := completeRemoteResults_alone support queuedIn batch.all_own keyed
    have once := completeRemoteResults_alone support queuedIn batch.once_own keyed_other
    rw [batch_agrees keyed spent] at delivered
    exact ⟨delivered.symm.trans ((agree.foldl _).trans once), rfl⟩

theorem HistoryOp.exec_keyed (keyed : one.Keyed) (delivered : ResultBatch → List StepResult)
    (op : HistoryOp) : (op.exec delivered one).1.Keyed := by
  cases op with
  | store op chosen => exact keyed.exec op
  | deliver support queuedIn batch => exact keyed.alone _

theorem copies_agree (history : CopyHistory) (agree : Store.Agrees one other) (keyed : one.Keyed)
    (keyed_other : other.Keyed) (spent : CopiesSpent history one) :
    Store.Agrees (history.alone (HistoryOp.exec ResultBatch.all) one).1
      (history.alone (HistoryOp.exec ResultBatch.once) other).1 := by
  induction history generalizing one other with
  | done result => exact agree
  | call op next ih =>
    obtain ⟨now, later⟩ := spent
    obtain ⟨after, answered⟩ := op.exec_agrees agree keyed keyed_other now
    -- Both histories go on alike, as they have been answered alike.
    have rest := ih (op.exec ResultBatch.all one).2 after
      (HistoryOp.exec_keyed keyed ResultBatch.all op)
      (HistoryOp.exec_keyed keyed_other ResultBatch.once op) later
    simp only [Program.alone_call]
    rw [← answered]
    exact rest

/-- A history whose copies all come too late comes to the same without them. -/
theorem copies_harmless (history : CopyHistory) (store : Store) (keyed : store.Keyed)
    (spent : CopiesSpent history store) : CopiesHarmless history store :=
  copies_agree history (Store.Agrees.refl store) keyed keyed spent

end Histories

def chargeDone : StepResult := { runId := "order", seq := 0, status := .completed }

/-- The delivery of that result alone, new or as a copy. -/
def lone (copy : Bool) : ResultBatch where
  runId := "order"
  entries := [(chargeDone, copy)]
  own := by
    intro entry listed
    rw [List.mem_singleton.mp listed]
    rfl

def deliveredTwice : CopyHistory :=
  .call (.deliver {} (fun _ _ => false) (lone false)) fun _ =>
    .call (.deliver {} (fun _ _ => false) (lone true)) .done

/-- A queue of two slots that are both taken, one of them by the step of a run. -/
def slotsTaken (status : RunStatus) : Store where
  runs := Table.empty.set "order" { id := "order", workflow := "order", status }
  checkpoints := Table.empty.set ("order", 0)
    { runId := "order", seq := 0, name := "charge", kind := .remote, status := .pending
      queue := some "payments" }
  queues := Table.empty.set "payments"
    { config := { name := "payments", concurrency := some 2 }, inFlight := 2 }

theorem lone_spent_new (store : Store) : (lone false).Spent store := by
  intro before copy after split
  cases before with
  | nil =>
    have first := (List.cons.inj split).1
    exact absurd (congrArg Prod.snd first) Bool.false_ne_true
  | cons head rest =>
    have tail := (List.cons.inj split).2
    simp at tail

theorem lone_spent_copy {store : Store} (late : ¬ store.heeds chargeDone) :
    (lone true).Spent store := by
  intro before copy after split
  cases before with
  | nil =>
    obtain ⟨first, tail⟩ := List.cons.inj split
    have own : copy = chargeDone := (congrArg Prod.fst first).symm
    refine .inr ⟨own ▸ late, fun entry listed => ?_⟩
    rw [← tail] at listed
    exact absurd listed List.not_mem_nil
  | cons head rest =>
    have tail := (List.cons.inj split).2
    simp at tail

theorem deliveredTwice_repeats (store : Store) : CopiesRepeat [] deliveredTwice store := by
  refine ⟨?_, ?_, trivial⟩
  · intro before copy after split
    exact absurd split (by
      cases before with
      | nil => simp [lone]
      | cons head rest => simp [lone])
  · intro before copy after split
    cases before with
    | nil =>
      have first := (List.cons.inj split).1
      have own : chargeDone = copy := congrArg Prod.fst first
      rw [← own]
      exact .inr List.mem_cons_self
    | cons head rest =>
      have tail := (List.cons.inj split).2
      simp at tail

theorem slotsTaken_keyed (status : RunStatus) : (slotsTaken status).Keyed := by
  have empty : ({ slotsTaken status with checkpoints := .empty } : Store).Keyed :=
    fun _ _ found => nomatch found
  exact empty.set rfl

/-- A result delivered again to a parked run comes too late, and does no harm. -/
theorem copies_harmless_parked : CopiesHarmless deliveredTwice (slotsTaken .suspended) :=
  copies_harmless deliveredTwice (slotsTaken .suspended) (slotsTaken_keyed .suspended)
    ⟨lone_spent_new _, lone_spent_copy (by decide +kernel), trivial⟩

/-- Delivered again to a cancelled run, it gives back a slot that another step holds. -/
theorem copy_releases_again :
    ¬ ∀ (history : CopyHistory) (store : Store), store.Keyed → CopiesRepeat [] history store →
      CopiesHarmless history store := by
  intro every
  have harmless := every deliveredTwice (slotsTaken .cancelled) (slotsTaken_keyed .cancelled)
    (deliveredTwice_repeats _)
  have slots := congrArg
    (fun store : Store => (store.queues.get "payments").map QueueController.inFlight) harmless
  revert slots
  decide +kernel

end Durable
