import Mathlib.Data.List.Basic
import Durable.Store.Store

/-! What the store's operations answer, and what they leave of its tables. -/

namespace Durable

namespace Store

variable (store : Store) {key : String × Nat} {runId : String} {token : Token}
  {held : StepCheckpoint} {waiter : SignalWaiter} {row : StepCheckpoint} {entries : List ChildWait}

theorem setCheckpoint_get (checkpoint : StepCheckpoint) (key : String × Nat) :
    (store.setCheckpoint checkpoint).checkpoints.get key =
      if (checkpoint.runId, checkpoint.seq) = key then some checkpoint
      else store.checkpoints.get key :=
  store.checkpoints.get_set _ _ _

theorem setCheckpoint_own {checkpoint : StepCheckpoint}
    (own : (checkpoint.runId, checkpoint.seq) = key) :
    (store.setCheckpoint checkpoint).checkpoints.get key = some checkpoint := by
  rw [setCheckpoint_get, if_pos own]

theorem setWaiter_get (waiter : SignalWaiter) (token : Token) :
    (store.setWaiter waiter).signalWaiters.get token =
      if waiter.token = token then some waiter else store.signalWaiters.get token :=
  store.signalWaiters.get_set _ _ _

theorem setWaiter_own (waiter : SignalWaiter) :
    (store.setWaiter waiter).signalWaiters.get waiter.token = some waiter := by
  rw [setWaiter_get, if_pos rfl]

theorem exec_getCheckpoint {seq : Nat} {found : Option StepCheckpoint}
    (stored : store.checkpoints.get (runId, seq) = found) :
    store.exec (.getCheckpoint runId seq) = (store, found) := by
  rw [← stored]
  rfl

theorem exec_getRun {found : Option WorkflowRun} (stored : store.runs.get runId = found) :
    store.exec (.getRun runId) = (store, found) := by
  rw [← stored]
  rfl

theorem exec_takeSignalWaiter_none (absent : store.signalWaiters.get token = none) :
    store.exec (.takeSignalWaiter token) = (store, none) := by
  simp only [exec, absent]
  rfl

theorem exec_takeSignalWaiter_some (present : store.signalWaiters.get token = some waiter) :
    store.exec (.takeSignalWaiter token) =
      ({ store with signalWaiters := store.signalWaiters.erase token }, some waiter) := by
  simp only [exec, present]
  rfl

theorem exec_takeBufferedSignal_nil (empty : store.buffered token = []) :
    store.exec (.takeBufferedSignal token) = (store, none) := by
  simp only [exec, empty]
  rfl

theorem exec_takeBufferedSignal_cons {payload : Payload} {rest : List Payload}
    (filled : store.buffered token = payload :: rest) : store.exec (.takeBufferedSignal token) =
      ({ store with bufferedSignals := store.bufferedSignals.set token rest }, some payload) := by
  simp only [exec, filled]
  rfl

theorem buffered_set (token other : Token) (payloads : List Payload) :
    { store with bufferedSignals := store.bufferedSignals.set token payloads }.buffered other =
      if token = other then payloads else store.buffered other := by
  simp only [buffered, Interleaving.Table.get_set]
  split <;> rfl

theorem exec_removeSignalWaiter (waiter : SignalWaiter) :
    ∃ waiters, (store.exec (.removeSignalWaiter waiter)).1 =
        { store with signalWaiters := waiters } ∧
      ∀ token held, waiters.get token = some held → store.signalWaiters.get token = some held := by
  simp only [exec]
  split
  · exact ⟨store.signalWaiters, rfl, fun _ _ held => held⟩
  · split
    · refine ⟨store.signalWaiters.erase waiter.token, rfl, fun token held present => ?_⟩
      rw [Interleaving.Table.get_erase] at present
      split at present
      · cases present
      · exact present
    · exact ⟨store.signalWaiters, rfl, fun _ _ held => held⟩

theorem exec_removeSignalWaiter_own (present : store.signalWaiters.get waiter.token = some waiter) :
    store.exec (.removeSignalWaiter waiter) =
      ({ store with signalWaiters := store.signalWaiters.erase waiter.token }, ()) := by
  simp only [exec, present]
  exact if_pos ⟨trivial, trivial⟩

theorem settleOne_frame (settlement : StepSettlement) :
    ∃ checkpoints, (store.settleOne settlement).1 = { store with checkpoints } := by
  unfold settleOne
  split
  · exact ⟨store.checkpoints, rfl⟩
  · split
    · exact ⟨_, rfl⟩
    · exact ⟨store.checkpoints, rfl⟩

theorem settleEach_frame (settlements : List StepSettlement) (store : Store) :
    ∃ checkpoints, (store.settleEach settlements).1 = { store with checkpoints } := by
  induction settlements generalizing store with
  | nil => exact ⟨store.checkpoints, rfl⟩
  | cons settlement rest ih =>
    obtain ⟨first, settled⟩ := store.settleOne_frame settlement
    obtain ⟨later, rested⟩ := ih (store.settleOne settlement).1
    refine ⟨later, ?_⟩
    rw [settleEach, rested, settled]

variable {store}

theorem Keyed.set (keyed : store.Keyed) (own : (row.runId, row.seq) = key) :
    Keyed { store with checkpoints := store.checkpoints.set key row } := by
  intro other held found
  rw [Interleaving.Table.get_set] at found
  split at found
  · -- The row found is the one just written.
    rename_i same
    cases found
    exact own.trans same
  · exact keyed other held found

theorem Keyed.setCheckpoint (keyed : store.Keyed) (checkpoint : StepCheckpoint) :
    (store.setCheckpoint checkpoint).Keyed :=
  keyed.set rfl

theorem Keyed.mem_checkpointsOf (keyed : store.Keyed) (listed : row ∈ store.checkpointsOf runId) :
    row.runId = runId ∧ store.checkpoints.get (runId, row.seq) = some row := by
  obtain ⟨key, member, found⟩ := List.mem_filterMap.mp listed
  have own := keyed key row found
  have here : key.1 = runId := beq_iff_eq.mp (List.mem_filter.mp member).2
  subst own
  exact ⟨here, here ▸ found⟩

theorem Keyed.checkpointsOf_pairwise (keyed : store.Keyed) (runId : String) :
    (store.checkpointsOf runId).Pairwise fun row other => row.seq ≠ other.seq := by
  have keys : (store.checkpoints.keys.filter (·.1 == runId)).Nodup :=
    store.checkpoints.keys_nodup.filter _
  refine List.pairwise_filterMap.mpr (List.Pairwise.imp_of_mem ?_ keys)
  intro left right listed member apart row found other located same
  apply apart
  -- Two rows of one run at one position are under one key.
  have here : left.1 = runId := beq_iff_eq.mp (List.mem_filter.mp listed).2
  have there : right.1 = runId := beq_iff_eq.mp (List.mem_filter.mp member).2
  have first : row.seq = left.2 := congrArg Prod.snd (keyed left row found)
  have second : other.seq = right.2 := congrArg Prod.snd (keyed right other located)
  exact Prod.ext (here.trans there.symm) (first.symm.trans (same.trans second))

theorem Keyed.settleOne (keyed : store.Keyed) (settlement : StepSettlement) :
    (store.settleOne settlement).1.Keyed := by
  unfold Store.settleOne
  split
  · exact keyed
  · rename_i held found
    split
    · exact keyed.set (keyed _ held found)
    · exact keyed

theorem Keyed.settleEach (keyed : store.Keyed) (settlements : List StepSettlement) :
    (store.settleEach settlements).1.Keyed := by
  induction settlements generalizing store with
  | nil => exact keyed
  | cons settlement rest ih => exact ih (keyed.settleOne settlement)

theorem settleOne_get (found : store.checkpoints.get key = some held)
    (settled : held.status ≠ .pending) (settlement : StepSettlement) :
    (store.settleOne settlement).1.checkpoints.get key = some held := by
  unfold Store.settleOne
  split
  · exact found
  · rename_i row located
    split
    · rename_i pending
      -- The row that is written over is pending, so it is not this one.
      refine (Interleaving.Table.get_set_ne _ _ fun same => settled ?_).trans found
      rw [same, found] at located
      cases located
      exact pending
    · exact found

theorem settleEach_get (settled : held.status ≠ .pending) (settlements : List StepSettlement)
    {store : Store} (found : store.checkpoints.get key = some held) :
    (store.settleEach settlements).1.checkpoints.get key = some held := by
  induction settlements generalizing store with
  | nil => exact found
  | cons settlement rest ih => exact ih (store.settleOne_get found settled settlement)

theorem settleEach_get_ne (settlements : List StepSettlement) {store : Store}
    (apart : ∀ settlement ∈ settlements, (settlement.runId, settlement.seq) ≠ key) :
    (store.settleEach settlements).1.checkpoints.get key = store.checkpoints.get key := by
  induction settlements generalizing store with
  | nil => rfl
  | cons settlement rest ih =>
    have first : (store.settleOne settlement).1.checkpoints.get key =
        store.checkpoints.get key := by
      unfold Store.settleOne
      split
      · rfl
      · split
        · exact Interleaving.Table.get_set_ne _ _ (apart settlement List.mem_cons_self)
        · rfl
    exact (ih fun other later => apart other (List.mem_cons_of_mem _ later)).trans first

theorem exec_registerChildWaits_get
    (apart : ∀ entry ∈ entries, (entry.checkpoint.runId, entry.checkpoint.seq) ≠ key) :
    (store.exec (.registerChildWaits entries)).1.checkpoints.get key = store.checkpoints.get key := by
  have waited : ∀ (entries : List ChildWait) (store : Store),
      (entries.foldl (fun store entry => store.setWaiter entry.waiter) store).checkpoints =
        store.checkpoints := by
    intro entries
    induction entries with
    | nil => exact fun store => rfl
    | cons entry rest ih => exact fun store => ih (store.setWaiter entry.waiter)
  have placed : ∀ (entries : List ChildWait) (store : Store),
      (∀ entry ∈ entries, (entry.checkpoint.runId, entry.checkpoint.seq) ≠ key) →
      (entries.foldl (fun store entry => store.setCheckpoint entry.checkpoint)
        store).checkpoints.get key = store.checkpoints.get key := by
    intro entries
    induction entries with
    | nil => exact fun store _ => rfl
    | cons entry rest ih =>
      intro store apart
      refine (ih _ fun other later => apart other (List.mem_cons_of_mem _ later)).trans ?_
      rw [setCheckpoint_get, if_neg (apart entry List.mem_cons_self)]
  exact (placed entries _ apart).trans (congrArg (·.get key) (waited entries store))

theorem exec_registerChildWaits_frame (entries : List ChildWait) :
    ∃ signalWaiters checkpoints, (store.exec (.registerChildWaits entries)).1 =
      { store with signalWaiters, checkpoints } := by
  have waited : ∀ (entries : List ChildWait) (store : Store), ∃ signalWaiters,
      entries.foldl (fun store entry => store.setWaiter entry.waiter) store =
        { store with signalWaiters } := by
    intro entries
    induction entries with
    | nil => exact fun store => ⟨store.signalWaiters, rfl⟩
    | cons entry rest ih => exact fun store => ih (store.setWaiter entry.waiter)
  have placed : ∀ (entries : List ChildWait) (store : Store), ∃ checkpoints,
      entries.foldl (fun store entry => store.setCheckpoint entry.checkpoint) store =
        { store with checkpoints } := by
    intro entries
    induction entries with
    | nil => exact fun store => ⟨store.checkpoints, rfl⟩
    | cons entry rest ih => exact fun store => ih (store.setCheckpoint entry.checkpoint)
  obtain ⟨signalWaiters, first⟩ := waited entries store
  obtain ⟨checkpoints, second⟩ := placed entries { store with signalWaiters }
  refine ⟨signalWaiters, checkpoints, ?_⟩
  simp only [exec, first, second]

theorem exec_registerChildWaits_waiter (apart : ∀ entry ∈ entries, entry.waiter.token ≠ token) :
    (store.exec (.registerChildWaits entries)).1.signalWaiters.get token =
      store.signalWaiters.get token := by
  have placed : ∀ (entries : List ChildWait) (store : Store),
      (entries.foldl (fun store entry => store.setCheckpoint entry.checkpoint)
        store).signalWaiters = store.signalWaiters := by
    intro entries
    induction entries with
    | nil => exact fun store => rfl
    | cons entry rest ih => exact fun store => ih (store.setCheckpoint entry.checkpoint)
  have waited : ∀ (entries : List ChildWait) (store : Store),
      (∀ entry ∈ entries, entry.waiter.token ≠ token) →
      (entries.foldl (fun store entry => store.setWaiter entry.waiter)
        store).signalWaiters.get token = store.signalWaiters.get token := by
    intro entries
    induction entries with
    | nil => exact fun store _ => rfl
    | cons entry rest ih =>
      intro store apart
      refine (ih _ fun other later => apart other (List.mem_cons_of_mem _ later)).trans ?_
      rw [setWaiter_get, if_neg (apart entry List.mem_cons_self)]
  exact (congrArg (·.get token) (placed entries _)).trans (waited entries store apart)

/-- A row that is not pending changes only where it is written over blindly. -/
theorem exec_settled (found : store.checkpoints.get key = some held)
    (settled : held.status ≠ .pending) (op : StoreOp)
    (registered : ∀ entries, op = .registerChildWaits entries → ∀ entry ∈ entries,
      (entry.checkpoint.runId, entry.checkpoint.seq) ≠ key) :
    (store.exec op).1.checkpoints.get key = some held ∨
      ∃ row, op = .saveCheckpoint row ∧ (row.runId, row.seq) = key ∧
        (store.exec op).1.checkpoints.get key = some row := by
  cases op with
  | saveCheckpoint row =>
    by_cases own : (row.runId, row.seq) = key
    · exact .inr ⟨row, rfl, own, store.setCheckpoint_own own⟩
    · exact .inl ((store.setCheckpoint_get row key).trans ((if_neg own).trans found))
  | saveCheckpointIfPending row =>
    refine .inl ?_
    simp only [Store.exec]
    split
    · exact found
    · rename_i other located
      split
      · rename_i pending
        rw [setCheckpoint_get, if_neg, found]
        rintro rfl
        rw [found] at located
        cases located
        exact settled pending
      · exact found
  | renewCheckpointLease runId seq expected wakeAt =>
    refine .inl ?_
    simp only [Store.exec]
    split
    · exact found
    · rename_i other located
      split
      · rename_i pending
        refine (Interleaving.Table.get_set_ne _ _ ?_).trans found
        rintro rfl
        rw [found] at located
        cases located
        exact settled pending.1
      · exact found
  | settleCheckpointsIfPending settlements => exact .inl (settleEach_get settled settlements found)
  | registerChildWaits entries =>
    exact .inl ((exec_registerChildWaits_get (registered entries rfl)).trans found)
  | createRun | updateRun | takeSignalWaiter | takeBufferedSignal | removeBufferedEvent | tryAdmit
    | releaseSlot | readCheckpoint =>
    refine .inl ?_
    simp only [Store.exec]
    split <;> exact found
  | updateRunIf | removeSignalWaiter =>
    refine .inl ?_
    simp only [Store.exec]
    split
    · exact found
    · split <;> exact found
  | _ => exact .inl found

/-- Every operation keeps the checkpoints under their own keys. -/
theorem Keyed.exec (keyed : store.Keyed) (op : StoreOp) : (store.exec op).1.Keyed := by
  have placed : ∀ (entries : List ChildWait) (store : Store), store.Keyed →
      (entries.foldl (fun store entry => store.setCheckpoint entry.checkpoint) store).Keyed := by
    intro entries
    induction entries with
    | nil => exact fun store keyed => keyed
    | cons entry rest ih => exact fun store keyed => ih _ (keyed.setCheckpoint entry.checkpoint)
  have waited : ∀ (entries : List ChildWait) (store : Store), store.Keyed →
      (entries.foldl (fun store entry => store.setWaiter entry.waiter) store).Keyed := by
    intro entries
    induction entries with
    | nil => exact fun store keyed => keyed
    | cons entry rest ih => exact fun store keyed => ih (store.setWaiter entry.waiter) keyed
  -- Only three operations write checkpoints, and all of them under the row's own key.
  cases op with
  | saveCheckpoint checkpoint => exact keyed.setCheckpoint checkpoint
  | saveCheckpointIfPending checkpoint =>
    simp only [Store.exec]
    split
    · exact keyed
    · split
      · exact keyed.setCheckpoint checkpoint
      · exact keyed
  | registerChildWaits entries => exact placed entries _ (waited entries store keyed)
  | settleCheckpointsIfPending settlements => exact keyed.settleEach settlements
  | renewCheckpointLease runId seq expected wakeAt =>
    simp only [Store.exec]
    split
    · exact keyed
    · rename_i held found
      split
      · exact keyed.set (keyed _ held found)
      · exact keyed
  | tryAdmit queue item =>
    simp only [Store.exec]
    split <;> exact keyed
  | releaseSlot queue =>
    simp only [Store.exec]
    split <;> exact keyed
  | readCheckpoint runId seq snapshot =>
    simp only [Store.exec]
    split <;> exact keyed
  | createRun run =>
    simp only [Store.exec]
    split <;> exact keyed
  | updateRun runId patch =>
    simp only [Store.exec]
    split <;> exact keyed
  | updateRunIf runId expected patch =>
    simp only [Store.exec]
    split
    · exact keyed
    · split <;> exact keyed
  | takeSignalWaiter token =>
    simp only [Store.exec]
    split <;> exact keyed
  | removeSignalWaiter waiter =>
    simp only [Store.exec]
    split
    · exact keyed
    · split <;> exact keyed
  | takeBufferedSignal token =>
    simp only [Store.exec]
    split <;> exact keyed
  | removeBufferedEvent id =>
    simp only [Store.exec]
    split <;> exact keyed
  | _ => exact keyed

/-- The row of a run changes by its creation, and by a write that goes to it and is applied. -/
theorem exec_row_cases (store : Store) (op : StoreOp) (runId : String) :
    (store.exec op).1.runs.get runId = store.runs.get runId ∨
      (∃ run, op = .createRun run ∧ run.id = runId ∧ store.runs.get runId = none ∧
        (store.exec op).1.runs.get runId = some run) ∨
      ∃ patch run, store.runs.get runId = some run ∧
        (op = .updateRun runId patch ∨
          ∃ expected, op = .updateRunIf runId expected patch ∧ run.status ∈ expected) ∧
        (store.exec op).1.runs.get runId = some (run.patched patch) := by
  cases op with
  | createRun created =>
    dsimp only [Store.exec]
    cases found : store.runs.get created.id with
    | some held => exact .inl rfl
    | none =>
      by_cases own : created.id = runId
      · refine .inr (.inl ⟨created, rfl, own, own ▸ found, ?_⟩)
        exact own ▸ Interleaving.Table.get_set_self _ _ _
      · exact .inl (Interleaving.Table.get_set_ne _ _ own)
  | updateRun written patch =>
    dsimp only [Store.exec]
    cases found : store.runs.get written with
    | none => exact .inl rfl
    | some run =>
      by_cases own : written = runId
      · subst own
        exact .inr (.inr ⟨patch, run, found, .inl rfl, Interleaving.Table.get_set_self _ _ _⟩)
      · exact .inl (Interleaving.Table.get_set_ne _ _ own)
  | updateRunIf written expected patch =>
    dsimp only [Store.exec]
    cases found : store.runs.get written with
    | none => exact .inl rfl
    | some run =>
      by_cases eligible : run.status ∈ expected
      · simp only [eligible, if_true]
        by_cases own : written = runId
        · subst own
          exact .inr (.inr ⟨patch, run, found, .inr ⟨expected, rfl, eligible⟩,
            Interleaving.Table.get_set_self _ _ _⟩)
        · exact .inl (Interleaving.Table.get_set_ne _ _ own)
      · refine .inl ?_
        simp only [eligible, if_false]
  | registerChildWaits entries =>
    obtain ⟨waiters, checkpoints, registered⟩ := store.exec_registerChildWaits_frame entries
    rw [registered]
    exact .inl rfl
  | settleCheckpointsIfPending settlements =>
    obtain ⟨checkpoints, settled⟩ := Store.settleEach_frame settlements store
    rw [show (store.exec (.settleCheckpointsIfPending settlements)).1 = _ from settled]
    exact .inl rfl
  | _ =>
    -- No other operation touches the runs.
    refine .inl ?_
    first
    | rfl
    | (dsimp only [Store.exec]; split <;> first | rfl | (split <;> rfl))

end Store

theorem exec_fitsRows {store : Store} (keyed : store.Keyed) (op : StoreOp) :
    fitsRows op (store.exec op).2 := by
  cases op with
  | getCheckpoint id position => exact fun row found => keyed (id, position) row found
  | readCheckpoint id position snapshot =>
    cases snapshot with
    | some row => rfl
    | none => exact fun row found => keyed (id, position) row found
  | replayCheckpoints id => exact fun position row found => keyed (id, position) row found
  | listCheckpoints id =>
    exact ⟨List.forall_iff_forall_mem.mpr fun row listed => (keyed.mem_checkpointsOf listed).1,
      keyed.checkpointsOf_pairwise id⟩
  | _ => trivial

end Durable
