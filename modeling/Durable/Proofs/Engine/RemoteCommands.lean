import Durable.Data.Ids
import Durable.Engine.RemoteCommands
import Durable.Proofs.Store.Operations

/-! Applying a remote turn's commands again: what is left alone, and when. -/

namespace Durable

open Engine Interleaving Worker

theorem remoteChildId_injective {runId : String} {left right : Nat}
    (same : remoteChildId runId left = remoteChildId runId right) : left = right :=
  numbered_injective same

/-- What of a run decides how its parent sees it. -/
def WorkflowRun.ending (run : WorkflowRun) : RunStatus × Option Value × Option StepError :=
  (run.status, run.output, run.error)

/-- A command's own operations: they read, or write at its position and for its token. -/
def Own (runId : String) (seq : Nat) (token : Option Token) : StoreOp → Prop
  | .getCheckpoint .. | .getRun _ | .requestWake _ | .clock => True
  | .saveCheckpoint checkpoint => (checkpoint.runId, checkpoint.seq) = (runId, seq)
  | .putSignalWaiter waiter | .removeSignalWaiter waiter => token = some waiter.token
  | .takeBufferedSignal other => token = some other
  | .dispatchTask task => (task.runId, task.seq) = (runId, seq)
  | .deferEffect effect => effect = .startChild (remoteChildId runId seq)
  | .updateRun _ patch => patch = { tags := patch.tags }
  | _ => False

/-- What one command leaves alone: every other position, token, child, and run's outcome. -/
structure Beside (runId : String) (seq : Nat) (token : Option Token) (before after : Store) :
    Prop where
  rows : ∀ key, key ≠ (runId, seq) → after.checkpoints.get key = before.checkpoints.get key
  waiters : ∀ other, token ≠ some other →
    after.signalWaiters.get other = before.signalWaiters.get other
  buffers : ∀ other, token ≠ some other → after.buffered other = before.buffered other
  endings : ∀ id, (after.runs.get id).map WorkflowRun.ending =
    (before.runs.get id).map WorkflowRun.ending
  clock : after.clock = before.clock
  tasks : ∀ other, other ≠ seq → tasksAt runId after other = tasksAt runId before other
  starts : ∀ other, other ≠ seq → startsAt runId after other = startsAt runId before other
  keyed : before.Keyed → after.Keyed

namespace Beside

variable {runId : String} {seq : Nat} {token : Option Token} {first second third : Store}

theorem refl (store : Store) : Beside runId seq token store store :=
  ⟨fun _ _ => rfl, fun _ _ => rfl, fun _ _ => rfl, fun _ => rfl, rfl, fun _ _ => rfl,
    fun _ _ => rfl, id⟩

theorem trans (one : Beside runId seq token first second)
    (two : Beside runId seq token second third) : Beside runId seq token first third where
  rows key other := (two.rows key other).trans (one.rows key other)
  waiters key other := (two.waiters key other).trans (one.waiters key other)
  buffers key other := (two.buffers key other).trans (one.buffers key other)
  endings id := (two.endings id).trans (one.endings id)
  clock := two.clock.trans one.clock
  tasks key other := (two.tasks key other).trans (one.tasks key other)
  starts key other := (two.starts key other).trans (one.starts key other)
  keyed placed := two.keyed (one.keyed placed)

end Beside

theorem patched_ending (run : WorkflowRun) {patch : RunPatch}
    (tagged : patch = { tags := patch.tags }) : (run.patched patch).ending = run.ending := by
  rw [tagged]
  rfl

/-- Each of a command's own operations leaves the rest alone. -/
theorem beside_exec {runId : String} {seq : Nat} {token : Option Token} (store : Store)
    (op : StoreOp) (own : Own runId seq token op) :
    Beside runId seq token store (store.exec op).1 := by
  cases op with
  | getCheckpoint | getRun | clock => exact .refl store
  | requestWake runId => exact { Beside.refl store with keyed := id }
  | saveCheckpoint checkpoint =>
    refine { Beside.refl store with rows := ?_, keyed := (Store.Keyed.setCheckpoint · _) }
    intro key other
    -- The row is written at the command's own position.
    have elsewhere : (checkpoint.runId, checkpoint.seq) ≠ key := fun same => other (same ▸ own)
    simp only [Store.exec, Store.setCheckpoint_get, if_neg elsewhere]
  | putSignalWaiter waiter =>
    refine { Beside.refl store with waiters := ?_ }
    intro other different
    have elsewhere : waiter.token ≠ other := fun same => different (same ▸ own)
    simp only [Store.exec, Store.setWaiter_get, if_neg elsewhere]
  | removeSignalWaiter waiter =>
    simp only [Store.exec]
    split
    · exact .refl store
    · split
      · refine { Beside.refl store with waiters := ?_ }
        intro other different
        have elsewhere : waiter.token ≠ other := fun same => different (same ▸ own)
        simp only [Table.get_erase, if_neg elsewhere]
      · exact .refl store
  | takeBufferedSignal taken =>
    simp only [Store.exec]
    split
    · exact .refl store
    · rename_i payload rest filled
      refine { Beside.refl store with buffers := ?_ }
      intro other different
      have elsewhere : taken ≠ other := fun same => different (same ▸ own)
      simp only [Store.buffered_set, if_neg elsewhere]
  | dispatchTask task =>
    refine { Beside.refl store with tasks := ?_ }
    intro other different
    have elsewhere : task.seq ≠ other := fun same =>
      different (same ▸ congrArg Prod.snd own)
    simp [tasksAt, Store.exec, elsewhere]
  | deferEffect effect =>
    refine { Beside.refl store with starts := ?_ }
    intro other different
    have elsewhere : effect ≠ .startChild (remoteChildId runId other) := by
      intro same
      rw [own, Deferred.startChild.injEq] at same
      exact different (remoteChildId_injective same).symm
    simp [startsAt, Store.exec, elsewhere]
  | updateRun id patch =>
    simp only [Store.exec]
    split
    · exact .refl store
    · rename_i run found
      refine { Beside.refl store with endings := ?_ }
      intro other
      simp only [Table.get_set]
      split
      · -- The patched run's outcome is the stored one's.
        rename_i same
        rw [← same, found]
        exact congrArg some (patched_ending run own)
      · rfl
  | _ => exact own.elim

section Footprints

variable {runId : String} {seq : Nat} {policy : RemotePolicy} {token : Option Token}

theorem beside_alone {α : Type} {program : Engine α} (uses : program.Uses (Own runId seq token))
    (store : Store) : Beside runId seq token store (program.alone Store.exec store).1 :=
  uses.alone_related Beside.refl Beside.trans (beside_exec ·) store

theorem leaseWake_uses (lease : Nat) : (policy.leaseWake lease).Uses (Own runId seq token) :=
  ⟨trivial, fun _ => trivial⟩

theorem redriveLostCall_uses (row : StepCheckpoint) (placed : (row.runId, row.seq) = (runId, seq)) :
    (redriveLostCall policy row).Uses (Own runId seq token) := by
  unfold redriveLostCall
  split
  · trivial
  · split
    · trivial
    · refine Program.uses_perform trivial fun now => ?_
      split
      · exact Program.uses_perform placed fun _ => leaseWake_uses _
      · split
        · exact leaseWake_uses _
        · split
          · -- A step that is given up is failed, and not sent again.
            exact Program.uses_perform placed fun _ => ⟨trivial, fun _ => trivial⟩
          · refine Program.uses_perform trivial fun later => ?_
            refine Program.uses_perform placed fun _ => ?_
            exact Program.uses_perform placed fun _ => leaseWake_uses _

theorem markChildDelivered_uses (child : WorkflowRun) :
    (markChildDelivered child).Uses (Own runId seq token) := by
  unfold markChildDelivered
  split
  · trivial
  · exact ⟨rfl, fun _ => trivial⟩

theorem deliverChild_uses (group : Option String) (payload : Payload) :
    (deliverChild runId seq group payload).Uses
      (Own runId seq (some (childToken (remoteChildId runId seq)))) :=
  ⟨rfl, fun _ => ⟨rfl, fun _ => ⟨trivial, fun _ => trivial⟩⟩⟩

theorem applyStartChild_uses (group : Option String) :
    (applyStartChild runId seq group).Uses
      (Own runId seq (some (childToken (remoteChildId runId seq)))) := by
  refine Program.uses_perform rfl fun _ => Program.uses_perform rfl fun taken => ?_
  cases taken with
  | some payload => exact deliverChild_uses group payload
  | none =>
    refine Program.uses_perform trivial fun child => ?_
    cases child with
    | none => exact ⟨rfl, fun _ => trivial⟩
    | some child =>
      dsimp only
      split
      · exact Program.uses_bind (markChildDelivered_uses child) fun _ => deliverChild_uses group _
      · trivial

theorem deliverBuffered_uses (signal : String) (payload : Payload) :
    (deliverBuffered runId seq signal payload).Uses (Own runId seq token) :=
  ⟨rfl, fun _ => ⟨trivial, fun _ => trivial⟩⟩

theorem applyWaitSignal_uses (signal : String) :
    (applyWaitSignal runId seq signal).Uses (Own runId seq (some (.named signal))) := by
  refine Program.uses_perform rfl fun taken => ?_
  cases taken with
  | some payload => exact deliverBuffered_uses signal payload
  | none =>
    refine Program.uses_perform rfl fun _ => Program.uses_perform rfl fun again => ?_
    cases again with
    | none => trivial
    | some payload => exact Program.uses_perform rfl fun _ => deliverBuffered_uses signal payload

theorem applyCall_beside (redriveLost : Bool) (name : String) (input : Option Value)
    (group : Option String) {store : Store} (keyed : store.Keyed) :
    Beside runId seq token store
      ((applyCall policy runId redriveLost seq name input group).alone Store.exec store).1 := by
  rw [applyCall, alone_getCheckpoint]
  cases here : store.checkpoints.get (runId, seq) with
  | some row =>
    cases redriveLost with
    | false => exact .refl store
    | true => exact beside_alone (redriveLostCall_uses row (keyed _ row here)) store
  | none =>
    refine beside_alone ?_ store
    refine Program.uses_perform trivial fun now => ?_
    refine Program.uses_perform rfl fun _ => Program.uses_perform rfl fun _ => ?_
    split
    · trivial
    · exact leaseWake_uses _

variable (policy) in
theorem applyCommand_beside (redriveLost : Bool) (command : WorkflowCommand) {store : Store}
    (keyed : store.Keyed) :
    Beside runId command.seq (awaitedToken runId command) store
      ((applyCommand policy runId redriveLost command).alone Store.exec store).1 := by
  cases command with
  | recordStep seq name result startedAt finishedAt =>
    refine beside_alone ?_ store
    refine Program.uses_perform ?_ fun _ => trivial
    cases result <;> rfl
  | call seq name group input parallelGroup =>
    exact applyCall_beside redriveLost name input parallelGroup keyed
  | sleep seq ms =>
    refine beside_alone ?_ store
    exact Program.uses_perform trivial fun _ => Program.uses_perform rfl fun _ => trivial
  | waitSignal seq signal =>
    refine beside_alone ?_ store
    exact Program.uses_bind (applyWaitSignal_uses signal) fun _ => trivial
  | startChild seq workflow input group =>
    refine beside_alone ?_ store
    exact Program.uses_bind (applyStartChild_uses group) fun _ => trivial

end Footprints

end Durable
