import Durable.Proofs.Engine.RemoteCommands

/-! When applying a remote turn's commands again is inert. -/

namespace Durable

open Engine Interleaving Worker

variable {policy : RemotePolicy} {runId : String} {redriveLost : Bool}

def afterCommand (policy : RemotePolicy) (runId : String) (redriveLost : Bool)
    (command : WorkflowCommand) (store : Store) : Store :=
  ((applyCommand policy runId redriveLost command).alone Store.exec store).1

theorem afterCommands_cons (command : WorkflowCommand) (rest : List WorkflowCommand)
    (store : Store) :
    afterCommands policy runId redriveLost (command :: rest) store =
      afterCommands policy runId redriveLost rest
        (afterCommand policy runId redriveLost command store) := by
  unfold afterCommands afterCommand
  rw [applyCommands, Program.alone_bind, Program.alone_bind]
  rfl

/-- What a store shows of one command's position, token, and child. -/
structure SameAt (runId : String) (command : WorkflowCommand) (one other : Store) : Prop where
  row : other.checkpoints.get (runId, command.seq) = one.checkpoints.get (runId, command.seq)
  waiter : ∀ token, awaitedToken runId command = some token →
    other.signalWaiters.get token = one.signalWaiters.get token
  buffer : ∀ token, awaitedToken runId command = some token →
    other.buffered token = one.buffered token
  ending : ∀ id, (other.runs.get id).map WorkflowRun.ending =
    (one.runs.get id).map WorkflowRun.ending
  clock : other.clock = one.clock
  tasks : tasksAt runId other command.seq = tasksAt runId one command.seq
  starts : startsAt runId other command.seq = startsAt runId one command.seq

namespace SameAt

variable {command : WorkflowCommand} {first second third : Store}

theorem refl (store : Store) : SameAt runId command store store :=
  ⟨rfl, fun _ _ => rfl, fun _ _ => rfl, fun _ => rfl, rfl, rfl, rfl⟩

theorem trans (one : SameAt runId command first second) (two : SameAt runId command second third) :
    SameAt runId command first third where
  row := two.row.trans one.row
  waiter token awaits := (two.waiter token awaits).trans (one.waiter token awaits)
  buffer token awaits := (two.buffer token awaits).trans (one.buffer token awaits)
  ending id := (two.ending id).trans (one.ending id)
  clock := two.clock.trans one.clock
  tasks := two.tasks.trans one.tasks
  starts := two.starts.trans one.starts

end SameAt

theorem Beside.sameAt {command other : WorkflowCommand} {before after : Store}
    (beside : Beside runId other.seq (awaitedToken runId other) before after)
    (apart : command.seq ≠ other.seq)
    (aimed : ∀ token, awaitedToken runId command = some token →
      awaitedToken runId other ≠ some token) :
    SameAt runId command before after where
  row := beside.rows _ fun same => apart (Prod.ext_iff.mp same).2
  waiter token awaits := beside.waiters token (aimed token awaits)
  buffer token awaits := beside.buffers token (aimed token awaits)
  ending := beside.endings
  clock := beside.clock
  tasks := beside.tasks _ apart
  starts := beside.starts _ apart

theorem afterCommand_keyed (command : WorkflowCommand) {store : Store} (keyed : store.Keyed) :
    (afterCommand policy runId redriveLost command store).Keyed :=
  (applyCommand_beside policy redriveLost command keyed).keyed keyed

theorem afterCommands_sameAt {command : WorkflowCommand} :
    ∀ (rest : List WorkflowCommand) (store : Store), store.Keyed →
      (∀ other ∈ rest, command.seq ≠ other.seq) →
      (∀ other ∈ rest, ∀ token, awaitedToken runId command = some token →
        awaitedToken runId other ≠ some token) →
      SameAt runId command store (afterCommands policy runId redriveLost rest store) := by
  intro rest
  induction rest with
  | nil => exact fun store _ _ _ => .refl store
  | cons other rest ih =>
    intro store keyed placed aimed
    rw [afterCommands_cons]
    have first := (applyCommand_beside policy redriveLost other keyed).sameAt
      (placed other (.head _)) (aimed other (.head _))
    refine first.trans (ih _ (afterCommand_keyed other keyed) ?_ ?_)
    · exact fun other among => placed other (.tail _ among)
    · exact fun other among => aimed other (.tail _ among)

variable (policy redriveLost) in
theorem applied_between {command : WorkflowCommand} :
    ∀ (commands : List WorkflowCommand) (store : Store), store.Keyed → Decided runId commands →
      command ∈ commands →
      ∃ met : Store, met.Keyed ∧ SameAt runId command store met ∧
        SameAt runId command (afterCommand policy runId redriveLost command met)
          (afterCommands policy runId redriveLost commands store) := by
  intro commands
  induction commands with
  | nil => exact fun _ _ _ among => nomatch among
  | cons first rest ih =>
    intro store keyed decided among
    obtain ⟨placed, placedRest⟩ := List.pairwise_cons.mp decided.placed
    obtain ⟨aimed, aimedRest⟩ := List.pairwise_cons.mp decided.aimed
    rw [afterCommands_cons]
    cases among with
    | head =>
      -- The command comes first, and the rest leaves alone what it has done.
      exact ⟨store, keyed, .refl store,
        afterCommands_sameAt rest _ (afterCommand_keyed command keyed) placed aimed⟩
    | tail _ among =>
      -- The first command leaves alone what the later one is about.
      have opening := (applyCommand_beside policy redriveLost first keyed).sameAt
        (placed command among).symm fun token awaits taken => aimed command among token taken awaits
      obtain ⟨met, kept, before, after⟩ :=
        ih _ (afterCommand_keyed first keyed) ⟨placedRest, aimedRest⟩ among
      exact ⟨met, kept, opening.trans before, after⟩

/-- Applying one command to where its position may have a checkpoint changed nothing of it. -/
structure InertAt (runId : String) (command : WorkflowCommand) (before after : Store) : Prop where
  kept : ∀ row, before.checkpoints.get (runId, command.seq) = some row →
    after.checkpoints.get (runId, command.seq) = some row
  unsent : ∀ row, before.checkpoints.get (runId, command.seq) = some row →
    tasksAt runId after command.seq = tasksAt runId before command.seq
  unstarted : (before.checkpoints.get (runId, command.seq)).isSome ∨
      (before.runs.get (remoteChildId runId command.seq)).isSome →
    startsAt runId after command.seq = startsAt runId before command.seq
  unawaited : ∀ token row waiter, awaitedToken runId command = some token →
    before.checkpoints.get (runId, command.seq) = some row → row.status = .completed →
      after.signalWaiters.get token = some waiter →
        (waiter.runId, waiter.seq) ≠ (runId, command.seq)

section OneCommand

variable {command : WorkflowCommand} {before after : Store}

def Unawaited (runId : String) (command : WorkflowCommand) (row : StepCheckpoint) (after : Store) :
    Prop :=
  ∀ token waiter, awaitedToken runId command = some token → row.status = .completed →
    after.signalWaiters.get token = some waiter →
      (waiter.runId, waiter.seq) ≠ (runId, command.seq)

theorem inertAt_iff (sent : tasksAt runId after command.seq = tasksAt runId before command.seq)
    (started : startsAt runId after command.seq = startsAt runId before command.seq) :
    InertAt runId command before after ↔
      ∀ row, before.checkpoints.get (runId, command.seq) = some row →
        after.checkpoints.get (runId, command.seq) = some row ∧
          Unawaited runId command row after := by
  constructor
  · intro inert row found
    refine ⟨inert.kept row found, ?_⟩
    exact fun token waiter awaits done held => inert.unawaited token row waiter awaits found done held
  · intro clean
    refine ⟨fun row found => (clean row found).1, fun _ _ => sent, fun _ => started, ?_⟩
    exact fun token row waiter awaits found done held =>
      (clean row found).2 token waiter awaits done held

theorem inertAt_of_written {written : StepCheckpoint}
    (sent : tasksAt runId after command.seq = tasksAt runId before command.seq)
    (started : startsAt runId after command.seq = startsAt runId before command.seq)
    (stored : after.checkpoints.get (runId, command.seq) = some written) :
    InertAt runId command before after ↔
      ∀ row, before.checkpoints.get (runId, command.seq) = some row →
        row = written ∧ Unawaited runId command row after := by
  refine (inertAt_iff sent started).trans ?_
  refine forall₂_congr fun row found => and_congr_left fun _ => ?_
  rw [stored, Option.some.injEq]
  exact eq_comm

theorem unawaited_of_none (row : StepCheckpoint) (store : Store)
    (none : awaitedToken runId command = none) : Unawaited runId command row store := by
  intro token waiter awaits
  rw [none] at awaits
  cases awaits

theorem unawaited_of_free {token : Token} (row : StepCheckpoint)
    (awaits : awaitedToken runId command = some token)
    (free : after.signalWaiters.get token = none) : Unawaited runId command row after := by
  intro other waiter same _ held
  rw [awaits, Option.some.injEq] at same
  rw [← same, free] at held
  cases held

theorem unawaited_of_waiting (waiter : SignalWaiter) (row : StepCheckpoint)
    (awaits : awaitedToken runId command = some waiter.token)
    (own : (waiter.runId, waiter.seq) = (runId, command.seq))
    (waiting : after.signalWaiters.get waiter.token = some waiter) :
    Unawaited runId command row after ↔ row.status ≠ .completed := by
  constructor
  · intro clean done
    exact clean waiter.token waiter awaits done waiting own
  · intro pending token held _ done
    exact absurd done pending

end OneCommand

theorem recordStep_inertAt (store : Store) (seq : Nat) (name : String)
    (result : Except StepError (Option Value)) (startedAt finishedAt : Nat) :
    InertAt runId (.recordStep seq name result startedAt finishedAt) store
        (store.setCheckpoint (recordedStep runId seq name result)) ↔
      ∀ row, store.checkpoints.get (runId, seq) = some row →
        row = recordedStep runId seq name result := by
  have own : ((recordedStep runId seq name result).runId,
      (recordedStep runId seq name result).seq) = (runId, seq) := by
    cases result <;> rfl
  refine Iff.trans (inertAt_of_written rfl rfl (store.setCheckpoint_own own)) ?_
  exact forall₂_congr fun row _ => and_iff_left (unawaited_of_none row _ rfl)

theorem sleep_inertAt (store : Store) (seq ms : Nat) :
    InertAt runId (.sleep seq ms) store
        (store.setCheckpoint (armedSleep runId seq (store.clock + ms))) ↔
      ∀ row, store.checkpoints.get (runId, seq) = some row →
        row = armedSleep runId seq (store.clock + ms) := by
  refine Iff.trans (inertAt_of_written rfl rfl (store.setCheckpoint_own rfl)) ?_
  exact forall₂_congr fun row _ => and_iff_left (unawaited_of_none row _ rfl)

theorem applyWaitSignal_buffered {store : Store} {seq : Nat} {signal : String} {payload : Payload}
    {rest : List Payload} (filled : store.buffered (.named signal) = payload :: rest) :
    (applyWaitSignal runId seq signal).alone Store.exec store =
      ({ store.setCheckpoint ((remoteWaiter runId seq signal).resolved payload) with
          bufferedSignals := store.bufferedSignals.set (.named signal) rest
          wakes := runId :: store.wakes }, ()) :=
  Program.alone_step (store.exec_takeBufferedSignal_cons filled) _

theorem applyWaitSignal_empty {store : Store} {seq : Nat} {signal : String}
    (empty : store.buffered (.named signal) = []) :
    (applyWaitSignal runId seq signal).alone Store.exec store =
      (store.setWaiter (remoteWaiter runId seq signal), ()) := by
  refine (Program.alone_step (store.exec_takeBufferedSignal_nil empty) _).trans ?_
  refine (Program.alone_perform _ (StoreOp.putSignalWaiter (remoteWaiter runId seq signal)) _ _).trans ?_
  -- Nothing is buffered meanwhile, as nothing else runs.
  have still : (store.setWaiter (remoteWaiter runId seq signal)).buffered (.named signal) = [] :=
    empty
  exact Program.alone_step (Store.exec_takeBufferedSignal_nil _ still) _

theorem waitSignal_inertAt (store : Store) (seq : Nat) (signal : String) :
    InertAt runId (.waitSignal seq signal) store
        ((applyWaitSignal runId seq signal).alone Store.exec store).1 ↔
      ∀ row, store.checkpoints.get (runId, seq) = some row →
        Tolerates policy runId redriveLost store row (.waitSignal seq signal) := by
  simp only [Tolerates]
  split
  · -- A buffered payload is written over whatever is there.
    rename_i payload rest filled
    rw [applyWaitSignal_buffered filled]
    refine Iff.trans (inertAt_of_written rfl rfl (store.setCheckpoint_own rfl)) ?_
    refine forall₂_congr fun row _ => and_congr_right fun same => ?_
    -- The payload's row is completed, so its wait is over.
    constructor
    · intro clean waiter held
      exact clean _ waiter rfl (same ▸ rfl) held
    · intro clean token waiter awaits _ held
      rw [awaitedToken, Option.some.injEq] at awaits
      exact clean waiter (awaits ▸ held)
  · -- The wait is registered again, whatever its checkpoint says.
    rename_i empty
    rw [applyWaitSignal_empty empty]
    refine Iff.trans (inertAt_iff rfl rfl) ?_
    refine forall₂_congr fun row found => ?_
    have waiting := store.setWaiter_own (remoteWaiter runId seq signal)
    rw [unawaited_of_waiting (remoteWaiter runId seq signal) row rfl rfl waiting]
    exact and_iff_right found

theorem deliverChild_alone {store : Store} {seq : Nat} {group : Option String} (payload : Payload)
    (waiting : store.signalWaiters.get (childToken (remoteChildId runId seq)) =
      some (remoteChildWaiter runId seq group)) :
    (deliverChild runId seq group payload).alone Store.exec store =
      ({ store.setCheckpoint ((remoteChildWaiter runId seq group).resolved payload) with
          signalWaiters := store.signalWaiters.erase (childToken (remoteChildId runId seq))
          wakes := runId :: store.wakes }, ()) :=
  Program.alone_step (store.exec_removeSignalWaiter_own waiting) _

section StartChild

variable {store : Store} {seq : Nat} {group : Option String}

/-- What a child's wait finds once it is registered. -/
def registered (runId : String) (seq : Nat) (group : Option String) (store : Store) : Store :=
  store.setWaiter (remoteChildWaiter runId seq group)

theorem registered_waiter :
    (registered runId seq group store).signalWaiters.get (childToken (remoteChildId runId seq)) =
      some (remoteChildWaiter runId seq group) :=
  store.setWaiter_own (remoteChildWaiter runId seq group)

theorem applyStartChild_buffered {payload : Payload} {rest : List Payload}
    (filled : store.buffered (childToken (remoteChildId runId seq)) = payload :: rest) :
    (applyStartChild runId seq group).alone Store.exec store =
      (deliverChild runId seq group payload).alone Store.exec
        { registered runId seq group store with
          bufferedSignals :=
            store.bufferedSignals.set (childToken (remoteChildId runId seq)) rest } := by
  refine (Program.alone_perform _ (StoreOp.putSignalWaiter _) _ _).trans ?_
  have still : (registered runId seq group store).buffered (childToken (remoteChildId runId seq)) =
      payload :: rest := filled
  exact Program.alone_step (Store.exec_takeBufferedSignal_cons _ still) _

theorem applyStartChild_absent
    (empty : store.buffered (childToken (remoteChildId runId seq)) = [])
    (absent : store.runs.get (remoteChildId runId seq) = none) :
    (applyStartChild runId seq group).alone Store.exec store =
      ({ registered runId seq group store with
          deferred := .startChild (remoteChildId runId seq) :: store.deferred }, ()) := by
  refine (Program.alone_perform _ (StoreOp.putSignalWaiter _) _ _).trans ?_
  have still : (registered runId seq group store).buffered (childToken (remoteChildId runId seq)) =
      [] := empty
  refine (Program.alone_step (Store.exec_takeBufferedSignal_nil _ still) _).trans ?_
  have stored : (registered runId seq group store).runs.get (remoteChildId runId seq) = none :=
    absent
  exact Program.alone_step (Store.exec_getRun _ stored) _

theorem applyStartChild_ended {child : WorkflowRun}
    (empty : store.buffered (childToken (remoteChildId runId seq)) = [])
    (present : store.runs.get (remoteChildId runId seq) = some child)
    (ended : isTerminalStatus child.status = true) :
    (applyStartChild runId seq group).alone Store.exec store =
      (deliverChild runId seq group (some (remoteRowCompletion child).toValue)).alone Store.exec
        ((markChildDelivered child).alone Store.exec (registered runId seq group store)).1 := by
  refine (Program.alone_perform _ (StoreOp.putSignalWaiter _) _ _).trans ?_
  have still : (registered runId seq group store).buffered (childToken (remoteChildId runId seq)) =
      [] := empty
  refine (Program.alone_step (Store.exec_takeBufferedSignal_nil _ still) _).trans ?_
  have stored : (registered runId seq group store).runs.get (remoteChildId runId seq) =
      some child := present
  refine (Program.alone_step (Store.exec_getRun _ stored) _).trans ?_
  dsimp only
  rw [if_pos ended, Program.alone_bind]

theorem applyStartChild_running {child : WorkflowRun}
    (empty : store.buffered (childToken (remoteChildId runId seq)) = [])
    (present : store.runs.get (remoteChildId runId seq) = some child)
    (going : isTerminalStatus child.status = false) :
    (applyStartChild runId seq group).alone Store.exec store =
      (registered runId seq group store, ()) := by
  refine (Program.alone_perform _ (StoreOp.putSignalWaiter _) _ _).trans ?_
  have still : (registered runId seq group store).buffered (childToken (remoteChildId runId seq)) =
      [] := empty
  refine (Program.alone_step (Store.exec_takeBufferedSignal_nil _ still) _).trans ?_
  have stored : (registered runId seq group store).runs.get (remoteChildId runId seq) =
      some child := present
  refine (Program.alone_step (Store.exec_getRun _ stored) _).trans ?_
  dsimp only
  rw [if_neg (by simp [going])]
  rfl

theorem markChildDelivered_alone (child : WorkflowRun) (store : Store) :
    ∃ runs, ((markChildDelivered child).alone Store.exec store).1 = { store with runs } := by
  unfold markChildDelivered
  split
  · exact ⟨store.runs, rfl⟩
  · change ∃ runs, (store.exec (.updateRun child.id _)).1 = _
    simp only [Store.exec]
    split
    · exact ⟨store.runs, rfl⟩
    · exact ⟨_, rfl⟩

theorem deliverChild_inertAt (workflow : String) (input : Option Value) (payload : Payload)
    {met : Store} (sent : met.dispatched = store.dispatched)
    (started : met.deferred = store.deferred)
    (waiting : met.signalWaiters.get (childToken (remoteChildId runId seq)) =
      some (remoteChildWaiter runId seq group)) :
    InertAt runId (.startChild seq workflow input group) store
        ((deliverChild runId seq group payload).alone Store.exec met).1 ↔
      ∀ row, store.checkpoints.get (runId, seq) = some row →
        row = (remoteChildWaiter runId seq group).resolved payload := by
  rw [deliverChild_alone payload waiting]
  have free := met.signalWaiters.get_erase (childToken (remoteChildId runId seq))
    (childToken (remoteChildId runId seq))
  rw [if_pos rfl] at free
  have sentNone : tasksAt runId met seq = tasksAt runId store seq := by rw [tasksAt, sent, tasksAt]
  have startedNone : startsAt runId met seq = startsAt runId store seq := by
    rw [startsAt, started, startsAt]
  refine Iff.trans (inertAt_of_written sentNone startedNone (met.setCheckpoint_own rfl)) ?_
  exact forall₂_congr fun row _ => and_iff_left (unawaited_of_free row rfl free)

/-- Awaiting a child is inert where its tolerance says so. -/
theorem startChild_inertAt (workflow : String) (input : Option Value) :
    InertAt runId (.startChild seq workflow input group) store
        ((applyStartChild runId seq group).alone Store.exec store).1 ↔
      ∀ row, store.checkpoints.get (runId, seq) = some row →
        Tolerates policy runId redriveLost store row (.startChild seq workflow input group) := by
  simp only [Tolerates]
  split
  · -- A buffered completion is written over whatever is there.
    rename_i payload rest filled
    rw [applyStartChild_buffered filled]
    exact deliverChild_inertAt workflow input payload rfl rfl registered_waiter
  · rename_i empty
    split
    · -- The start of a child without a run is asked for again.
      rename_i absent
      rw [applyStartChild_absent empty absent]
      constructor
      · intro inert row found
        have kept := inert.unstarted (.inl (by simp [WorkflowCommand.seq, found]))
        simp [startsAt, WorkflowCommand.seq] at kept
      · intro fresh
        have unfilled : store.checkpoints.get (runId, seq) = none :=
          Option.eq_none_iff_forall_ne_some.mpr fresh
        refine ⟨?_, ?_, ?_, ?_⟩
        · exact fun row found => absurd found (fresh row)
        · exact fun row found => absurd found (fresh row)
        · intro known
          simp [WorkflowCommand.seq, unfilled, absent] at known
        · exact fun token row waiter _ found => absurd found (fresh row)
    · rename_i child present
      split
      · -- The row of a child that has ended is written over whatever is there.
        rename_i ended
        rw [applyStartChild_ended empty present ended]
        obtain ⟨runs, marked⟩ := markChildDelivered_alone child (registered runId seq group store)
        rw [marked]
        exact deliverChild_inertAt workflow input _ rfl rfl registered_waiter
      · -- The wait for a child that goes on is registered again.
        rename_i going
        rw [applyStartChild_running empty present (by simpa using going)]
        refine Iff.trans (inertAt_iff rfl rfl) ?_
        refine forall₂_congr fun row found => ?_
        rw [unawaited_of_waiting (remoteChildWaiter runId seq group) row rfl rfl registered_waiter]
        exact and_iff_right found

end StartChild

section Call

variable {store : Store} {seq : Nat} {name : String}

theorem not_inertAt_of_changed {command : WorkflowCommand} {before after : Store}
    {row changed : StepCheckpoint}
    (found : before.checkpoints.get (runId, command.seq) = some row)
    (stored : after.checkpoints.get (runId, command.seq) = some changed) (differs : changed ≠ row) :
    ¬InertAt runId command before after := by
  intro inert
  have kept := inert.kept row found
  rw [stored, Option.some.injEq] at kept
  exact differs kept

theorem inertAt_same {command : WorkflowCommand} (store : Store)
    (none : awaitedToken runId command = none) : InertAt runId command store store :=
  (inertAt_iff rfl rfl).mpr fun row found => ⟨found, unawaited_of_none row store none⟩

/-- Looking at a pending step again changes nothing before its lease has lapsed, and then does. -/
theorem redriveLostCall_inertAt {group : String} {input : Option Value}
    {parallelGroup : Option String} {row : StepCheckpoint}
    (found : store.checkpoints.get (runId, seq) = some row)
    (own : (row.runId, row.seq) = (runId, seq)) :
    InertAt runId (.call seq name group input parallelGroup) store
        ((redriveLostCall policy row).alone Store.exec store).1 ↔
      (row.kind = .remote → row.status = .pending → policy.remoteRedispatchMs ≠ none →
        ∃ lease, row.wakeAt = some lease ∧ store.clock < lease) := by
  unfold redriveLostCall
  split
  · -- A step that is not pending is left alone.
    rename_i settled
    refine iff_of_true (inertAt_same store rfl) fun remote pending => ?_
    exact absurd settled (by simp [remote, pending])
  · rename_i pending
    have remote : row.kind = .remote ∧ row.status = .pending := by simpa using pending
    split
    · -- Without the self-heal nothing is sent again.
      rename_i off
      exact iff_of_true (inertAt_same store rfl) fun _ _ on => absurd off on
    · rename_i window on
      rw [alone_clock]
      split
      · -- A step without a lease is given one.
        rename_i unleased
        refine iff_of_false ?_ ?_
        · refine not_inertAt_of_changed found (store.setCheckpoint_own own) fun same => ?_
          have stamped := congrArg StepCheckpoint.wakeAt same
          simp [unleased] at stamped
        · intro tolerated
          obtain ⟨lease, leased, _⟩ := tolerated remote.1 remote.2 (by simp [on])
          rw [unleased] at leased
          cases leased
      · rename_i lease leased
        split
        · -- A lease that runs is waited out.
          rename_i running
          exact iff_of_true (inertAt_same store rfl) fun _ _ _ => ⟨lease, leased, running⟩
        · rename_i lapsed
          -- A lapsed lease is not tolerated: the step is failed or sent again.
          refine iff_of_false ?_ ?_
          · split
            · refine not_inertAt_of_changed found (store.setCheckpoint_own own) fun same => ?_
              have failed := congrArg StepCheckpoint.status same
              simp [remote.2] at failed
            · rw [alone_clock]
              refine not_inertAt_of_changed found (store.setCheckpoint_own own) fun same => ?_
              have counted := congrArg StepCheckpoint.attempts same
              simp at counted
          · intro tolerated
            obtain ⟨other, same, running⟩ := tolerated remote.1 remote.2 (by simp [on])
            rw [leased, Option.some.injEq] at same
            exact lapsed (same ▸ running)

theorem call_inertAt (group : String) (input : Option Value) (parallelGroup : Option String)
    (keyed : store.Keyed) :
    InertAt runId (.call seq name group input parallelGroup) store
        ((applyCall policy runId redriveLost seq name input parallelGroup).alone
          Store.exec store).1 ↔
      ∀ row, store.checkpoints.get (runId, seq) = some row →
        Tolerates policy runId redriveLost store row
          (.call seq name group input parallelGroup) := by
  rw [applyCall, alone_getCheckpoint]
  cases stored : store.checkpoints.get (runId, seq) with
  | none =>
    -- A position without a checkpoint has nothing to leave alone but the child's start.
    refine iff_of_true ⟨?_, ?_, fun _ => ?_, ?_⟩ fun row found => by cases found
    · exact fun row found => by cases stored.symm.trans found
    · exact fun row found => by cases stored.symm.trans found
    · -- A call starts no child, with a lease or without.
      cases policy.remoteRedispatchMs with
      | none => rfl
      | some window => rfl
    · exact fun token row waiter awaits found => by cases stored.symm.trans found
  | some row =>
    have settled : ∀ (tolerated : StepCheckpoint → Prop),
        (∀ other, some row = some other → tolerated other) ↔ tolerated row := fun tolerated =>
      ⟨fun all => all row rfl, fun here other same => Option.some.inj same ▸ here⟩
    rw [settled, Tolerates]
    cases redriveLost with
    | false => exact iff_of_true (inertAt_same store rfl) fun on => by cases on
    | true =>
      refine Iff.trans (redriveLostCall_inertAt stored (keyed _ row stored)) ?_
      exact ⟨fun tolerated _ => tolerated, fun tolerated => tolerated rfl⟩

end Call

theorem afterCommand_inertAt (command : WorkflowCommand) {store : Store} (keyed : store.Keyed) :
    InertAt runId command store (afterCommand policy runId redriveLost command store) ↔
      ∀ row, store.checkpoints.get (runId, command.seq) = some row →
        Tolerates policy runId redriveLost store row command := by
  cases command with
  | recordStep seq name result startedAt finishedAt =>
    exact recordStep_inertAt store seq name result startedAt finishedAt
  | call seq name group input parallelGroup => exact call_inertAt group input parallelGroup keyed
  | sleep seq ms => exact sleep_inertAt store seq ms
  | waitSignal seq signal =>
    have applied : afterCommand policy runId redriveLost (.waitSignal seq signal) store =
        ((applyWaitSignal runId seq signal).alone Store.exec store).1 := by
      rw [afterCommand, applyCommand, Program.alone_bind]
      rfl
    rw [applied]
    exact waitSignal_inertAt store seq signal
  | startChild seq workflow input group =>
    have applied : afterCommand policy runId redriveLost (.startChild seq workflow input group)
        store = ((applyStartChild runId seq group).alone Store.exec store).1 := by
      rw [afterCommand, applyCommand, Program.alone_bind]
      rfl
    rw [applied]
    exact startChild_inertAt workflow input

section Seen

variable {command : WorkflowCommand} {one other : Store}

theorem SameAt.run_isSome (same : SameAt runId command one other) (id : String) :
    (other.runs.get id).isSome = (one.runs.get id).isSome := by
  have ending := congrArg Option.isSome (same.ending id)
  simpa using ending

theorem InertAt.congr {before after met left : Store} (opening : SameAt runId command before met)
    (closing : SameAt runId command left after) :
    InertAt runId command before after ↔ InertAt runId command met left := by
  constructor
  · intro inert
    refine ⟨?_, ?_, ?_, ?_⟩
    · intro row found
      exact closing.row ▸ inert.kept row (opening.row ▸ found)
    · intro row found
      rw [← closing.tasks, opening.tasks]
      exact inert.unsent row (opening.row ▸ found)
    · intro known
      rw [← closing.starts, opening.starts]
      rw [opening.row, opening.run_isSome] at known
      exact inert.unstarted known
    · intro token row waiter awaits found done held
      exact inert.unawaited token row waiter awaits (opening.row ▸ found) done
        (closing.waiter token awaits ▸ held)
  · intro inert
    refine ⟨?_, ?_, ?_, ?_⟩
    · intro row found
      rw [closing.row]
      exact inert.kept row (opening.row.trans found)
    · intro row found
      rw [closing.tasks, ← opening.tasks]
      exact inert.unsent row (opening.row.trans found)
    · intro known
      rw [closing.starts, ← opening.starts]
      rw [← opening.row, ← opening.run_isSome] at known
      exact inert.unstarted known
    · intro token row waiter awaits found done held
      rw [closing.waiter token awaits] at held
      exact inert.unawaited token row waiter awaits (opening.row.trans found) done held

theorem Tolerates.congr (same : SameAt runId command one other) (row : StepCheckpoint) :
    Tolerates policy runId redriveLost one row command ↔
      Tolerates policy runId redriveLost other row command := by
  cases command with
  | recordStep | call | sleep => simp only [Tolerates, same.clock]
  | waitSignal seq signal =>
    simp only [Tolerates, same.buffer _ rfl, same.waiter _ rfl]
  | startChild seq workflow input group =>
    simp only [Tolerates, same.buffer _ rfl]
    -- Of the child's row, only its outcome is looked at.
    have ending := same.ending (remoteChildId runId seq)
    split
    · exact Iff.rfl
    · cases here : one.runs.get (remoteChildId runId seq) with
      | none =>
        rw [here, Option.map_none, Option.map_eq_none_iff] at ending
        rw [ending]
      | some child =>
        rw [here, Option.map_some, Option.map_eq_some_iff] at ending
        obtain ⟨seen, found, ending⟩ := ending
        obtain ⟨status, output, error⟩ := by simpa [WorkflowRun.ending] using ending
        simp only [found, remoteRowCompletion, status, output, error]

end Seen

section Commands

variable {commands : List WorkflowCommand} {store : Store}

theorem afterCommands_elsewhere (keyed : store.Keyed) {seq : Nat}
    (elsewhere : ∀ command ∈ commands, seq ≠ command.seq) :
    SameAt runId (.sleep seq 0) store (afterCommands policy runId redriveLost commands store) :=
  afterCommands_sameAt commands store keyed elsewhere fun _ _ _ awaits => nomatch awaits

theorem inert_iff_inertAt (keyed : store.Keyed) :
    Inert runId commands store (afterCommands policy runId redriveLost commands store) ↔
      ∀ command ∈ commands, InertAt runId command store
        (afterCommands policy runId redriveLost commands store) := by
  constructor
  · intro inert command among
    exact ⟨inert.kept command.seq, inert.unsent command.seq, inert.unstarted command.seq,
      inert.unawaited command among⟩
  · intro each
    -- A position is a command's own, or none of the commands is about it.
    have here : ∀ seq, (∃ command ∈ commands, seq = command.seq) ∨
        SameAt runId (.sleep seq 0) store
          (afterCommands policy runId redriveLost commands store) := by
      intro seq
      by_cases own : ∃ command ∈ commands, seq = command.seq
      · exact .inl own
      · exact .inr (afterCommands_elsewhere keyed fun command among same =>
          own ⟨command, among, same⟩)
    refine ⟨?_, ?_, ?_, fun command among => (each command among).unawaited⟩
    · intro seq row found
      rcases here seq with ⟨command, among, rfl⟩ | same
      · exact (each command among).kept row found
      · exact same.row.trans found
    · intro seq row found
      rcases here seq with ⟨command, among, rfl⟩ | same
      · exact (each command among).unsent row found
      · exact same.tasks
    · intro seq known
      rcases here seq with ⟨command, among, rfl⟩ | same
      · exact (each command among).unstarted known
      · exact same.starts

/--
Applying a turn's commands to a store is inert exactly when each of them tolerates its checkpoint.

The store may hold the outcome of any earlier application, and of whatever has happened since.
-/
theorem redelivered_inert_iff (policy : RemotePolicy) (runId : String) (redriveLost : Bool)
    (commands : List WorkflowCommand) (store : Store) (decided : Decided runId commands)
    (keyed : store.Keyed) :
    Inert runId commands store (afterCommands policy runId redriveLost commands store) ↔
      ∀ command ∈ commands, ∀ row, store.checkpoints.get (runId, command.seq) = some row →
        Tolerates policy runId redriveLost store row command := by
  rw [inert_iff_inertAt keyed]
  refine forall₂_congr fun command among => ?_
  -- The command meets its own position as it was, and nothing later changes what it leaves.
  obtain ⟨met, kept, before, after⟩ := applied_between policy redriveLost
    commands store keyed decided among
  rw [InertAt.congr before after, afterCommand_inertAt command kept, before.row]
  exact forall₂_congr fun row _ => (Tolerates.congr before row).symm

end Commands

def plainPolicy : RemotePolicy := { clock := 0 }

def oneSleep : List WorkflowCommand := [.sleep 0 1000]

def halfSlept : Store :=
  { afterCommands plainPolicy "run" true oneSleep {} with clock := 500 }

theorem oneSleep_decided : Decided "run" oneSleep :=
  ⟨List.pairwise_singleton .., List.pairwise_singleton ..⟩

/-- A decision delivered again within the same instant leaves the timer it armed alone. -/
theorem redelivered_at_once_inert :
    Inert "run" oneSleep (afterCommands plainPolicy "run" true oneSleep {})
      (afterCommands plainPolicy "run" true oneSleep
        (afterCommands plainPolicy "run" true oneSleep {})) := by
  have empty : ({} : Store).Keyed := fun _ _ found => nomatch found
  refine (redelivered_inert_iff plainPolicy "run" true oneSleep _ oneSleep_decided
    (empty.setCheckpoint (armedSleep "run" 0 1000))).mpr ?_
  intro command among row found
  rw [oneSleep, List.mem_singleton] at among
  subst among
  exact (Option.some.inj found).symm

/-- Half a second later, the timer is armed anew: its deadline moves from 1000 to 1500. -/
theorem redelivered_sleep_moves :
    (halfSlept.checkpoints.get ("run", 0)).map StepCheckpoint.wakeAt = some (some 1000) ∧
      ((afterCommands plainPolicy "run" true oneSleep halfSlept).checkpoints.get
        ("run", 0)).map StepCheckpoint.wakeAt = some (some 1500) ∧
      ¬Inert "run" oneSleep halfSlept
        (afterCommands plainPolicy "run" true oneSleep halfSlept) := by
  refine ⟨by decide, by decide, fun inert => ?_⟩
  have kept := inert.kept 0 (armedSleep "run" 0 1000) (by decide)
  exact absurd kept (by decide)

end Durable
