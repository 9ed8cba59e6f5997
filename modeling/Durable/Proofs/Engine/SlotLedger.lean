import Mathlib.Algebra.BigOperators.Group.List.Basic
import Durable.Engine.SlotLedger
import Durable.Interleaving.Entries
import Durable.Proofs.Engine.StepResults
import Durable.Proofs.Store.Operations

/-! Slots are conserved, as long as every operation that moves one accounts for it. -/

namespace Durable

open Engine Interleaving

/-- The slots paths have in hand are those of the first and those of the others. -/
@[simp] theorem inHand_cons (phase : SlotPhase) (others : List SlotPhase) (queue : String) :
    inHand (phase :: others) queue = phase.hand queue + inHand others queue := by
  simp [inHand]

namespace SlotPhase

variable (phase : SlotPhase) {key : String × Nat}

theorem settles_dropped (queue : Option String) (dropped : key ∈ phase.dropped) :
    phase.settles key queue = phase := if_pos dropped

theorem hand_settles (queue : Option String) (kept : key ∉ phase.dropped) (other : String) :
    (phase.settles key queue).hand other = phase.hand other + if queue = some other then 1 else 0 := by
  have settled : phase.settles key queue = { phase with owed := queue.toList ++ phase.owed } :=
    if_neg kept
  rw [settled]
  cases queue with
  | none => simp [hand]
  | some queue =>
    simp only [hand, Option.toList_some, List.cons_append, List.nil_append, List.count_cons,
      Option.some.injEq, beq_iff_eq]
    omega

theorem dropped_settles (key : String × Nat) (queue : Option String) :
    (phase.settles key queue).dropped = phase.dropped := by
  unfold settles
  split <;> rfl

end SlotPhase

namespace Store

/-- A step is outstanding on a queue. -/
def Counted (store : Store) (every : List SlotPhase) (queue : String) (key : String × Nat) : Prop :=
  store.slotAt key = some queue ∧ ∀ phase ∈ every, key ∉ phase.dropped

instance (store : Store) (every : List SlotPhase) (queue : String) (key : String × Nat) :
    Decidable (store.Counted every queue key) :=
  inferInstanceAs (Decidable (_ ∧ _))

variable {store after : Store} {every later : List SlotPhase} {queue : String} {key : String × Nat}

theorem Counted.mem_keys (counted : store.Counted every queue key) : key ∈ store.checkpoints.keys := by
  obtain ⟨row, found, -⟩ := Option.bind_eq_some_iff.mp counted.1
  exact (store.checkpoints.mem_keys key).mpr (by simp [found])

theorem mem_outstanding :
    key ∈ store.outstanding every queue ↔ store.Counted every queue key := by
  refine List.mem_filter.trans ⟨fun both => of_decide_eq_true both.2, fun counted => ?_⟩
  exact ⟨counted.mem_keys, decide_eq_true counted⟩

variable (queue) in
theorem outstanding_balance
    (keys : after.checkpoints.keys = store.checkpoints.keys ∨
      store.checkpoints.get key = none ∧ after.checkpoints.keys = store.checkpoints.keys ++ [key])
    (same : ∀ other, other ≠ key →
      (after.Counted later queue other ↔ store.Counted every queue other)) :
    (after.outstanding later queue).length + (if store.Counted every queue key then 1 else 0) =
      (store.outstanding every queue).length + if after.Counted later queue key then 1 else 0 := by
  rcases keys with kept | ⟨absent, added⟩
  · have differ := filter_length_of_differ
      (fun key => decide (store.Counted every queue key))
      (fun key => decide (after.Counted later queue key)) key
      store.checkpoints.keys_nodup fun other apart => decide_eq_decide.mpr (same other apart)
    have before : (key ∈ store.checkpoints.keys ∧ store.Counted every queue key) ↔
        store.Counted every queue key := and_iff_right_of_imp Counted.mem_keys
    have written : (key ∈ store.checkpoints.keys ∧ after.Counted later queue key) ↔
        after.Counted later queue key :=
      and_iff_right_of_imp fun counted => kept ▸ counted.mem_keys
    simp only [decide_eq_true_eq, before, written] at differ
    have listed : after.outstanding later queue = store.checkpoints.keys.filter
        fun key => decide (after.Counted later queue key) := congrArg (List.filter _) kept
    rw [listed]
    exact differ
  · -- A new key had no row, so it was not counted, and the others are counted as before.
    have uncounted : ¬ store.Counted every queue key := by
      intro counted
      simp [Counted, slotAt, absent] at counted
    have missing : key ∉ store.checkpoints.keys := by
      intro member
      simp [absent, store.checkpoints.mem_keys] at member
    have others : (store.checkpoints.keys.filter fun key => decide (after.Counted later queue key)) =
        store.outstanding every queue :=
      List.filter_congr fun other member =>
        decide_eq_decide.mpr (same other fun equal => missing (equal ▸ member))
    have listed : after.outstanding later queue =
        store.outstanding every queue ++
          [key].filter fun key => decide (after.Counted later queue key) := by
      rw [← others, ← List.filter_append]
      exact congrArg (List.filter _) added
    rw [listed, if_neg uncounted, List.length_append, List.filter_cons]
    split <;> simp_all

theorem slotAt_set (store : Store) (key other : String × Nat) (row : StepCheckpoint) :
    { store with checkpoints := store.checkpoints.set key row }.slotAt other =
      if key = other then row.slot else store.slotAt other := by
  simp only [slotAt, Table.get_set]
  split <;> rfl

theorem keys_set (store : Store) (key : String × Nat) (row : StepCheckpoint) :
    (store.checkpoints.set key row).keys = store.checkpoints.keys ∨
      store.checkpoints.get key = none ∧
        (store.checkpoints.set key row).keys = store.checkpoints.keys ++ [key] := by
  cases found : store.checkpoints.get key with
  | none => exact .inr ⟨rfl, store.checkpoints.keys_set_new row found⟩
  | some held => exact .inl (store.checkpoints.keys_set_known row (by simp [found]))

end Store

section Moves

variable {store after : Store} {phase later : SlotPhase} {others : List SlotPhase}
  {key : String × Nat} {row : StepCheckpoint} {queue : String} {held : QueueController}
  {settlements : List StepSettlement} {entries : List ChildWait} {asked : QueueController}

/--
Slots stay conserved where what a queue gains is what the mover and its step have gained.

The rows are written at one key at most, and the caps stay as they are.
-/
theorem SlotsConserved.move (conserved : SlotsConserved store (phase :: others))
    (key : String × Nat)
    (keys : after.checkpoints.keys = store.checkpoints.keys ∨
      store.checkpoints.get key = none ∧ after.checkpoints.keys = store.checkpoints.keys ++ [key])
    (same : ∀ queue other, other ≠ key →
      (after.Counted (later :: others) queue other ↔ store.Counted (phase :: others) queue other))
    (moved : ∀ queue controller, after.queues.get queue = some controller →
      ∃ held, store.queues.get queue = some held ∧
        controller.inFlight + phase.hand queue +
            (if store.Counted (phase :: others) queue key then 1 else 0) =
          held.inFlight + later.hand queue +
            (if after.Counted (later :: others) queue key then 1 else 0) ∧
        ∀ cap, controller.config.concurrency = some cap →
          (∀ limit, held.config.concurrency = some limit → held.inFlight ≤ limit) →
            controller.inFlight ≤ cap) :
    SlotsConserved after (later :: others) := by
  intro queue controller found
  obtain ⟨held, stored, balanced, capped⟩ := moved queue controller found
  obtain ⟨counted, cap⟩ := conserved queue held stored
  have steps := Store.outstanding_balance queue keys (same queue)
  rw [inHand_cons] at counted ⊢
  exact ⟨by omega, fun limit limited => capped limit limited cap⟩

theorem SlotsConserved.set (conserved : SlotsConserved store (phase :: others))
    (row : StepCheckpoint) (dropped : later.dropped = phase.dropped)
    (balanced : ∀ queue, phase.hand queue +
        (if store.Counted (phase :: others) queue key then 1 else 0) =
      later.hand queue + if row.slot = some queue ∧ ∀ other ∈ phase :: others, key ∉ other.dropped
        then 1 else 0) :
    SlotsConserved { store with checkpoints := store.checkpoints.set key row }
      (later :: others) := by
  have undropped : ∀ other : String × Nat, (∀ path ∈ later :: others, other ∉ path.dropped) ↔
      ∀ path ∈ phase :: others, other ∉ path.dropped := by
    intro other
    simp [dropped]
  refine conserved.move key (store.keys_set key row) ?_ ?_
  · intro queue other apart
    simp only [Store.Counted, store.slotAt_set, if_neg (Ne.symm apart), undropped]
  · intro queue controller found
    refine ⟨controller, found, ?_, fun cap limited capped => capped cap limited⟩
    have moved := balanced queue
    simp only [Store.Counted, store.slotAt_set, if_pos, undropped] at moved ⊢
    omega

theorem SlotsConserved.keep (conserved : SlotsConserved store (phase :: others))
    (same : store.slotAt key = row.slot) :
    SlotsConserved { store with checkpoints := store.checkpoints.set key row }
      (phase :: others) := by
  refine conserved.set row rfl fun queue => ?_
  rw [← same]
  rfl

theorem SlotsConserved.settle (conserved : SlotsConserved store (phase :: others))
    {queue : Option String} (free : row.slot = none) (pays : phase.pays others store key queue) :
    SlotsConserved { store with checkpoints := store.checkpoints.set key row }
      (phase.settles key queue :: others) := by
  refine conserved.set row (phase.dropped_settles key queue) fun other => ?_
  have vacant : ¬ (row.slot = some other ∧ ∀ path ∈ phase :: others, key ∉ path.dropped) := by
    simp [free]
  rw [if_neg vacant]
  by_cases dropped : key ∈ phase.dropped
  · -- The path has dropped the step before, so nobody counts it.
    rw [if_neg fun counted => counted.2 phase List.mem_cons_self dropped,
      phase.settles_dropped queue dropped]
  · obtain ⟨held, undropped⟩ := pays.resolve_left dropped
    have counted : store.Counted (phase :: others) other key ↔ queue = some other := by
      refine (and_iff_left ?_).trans (by rw [held])
      exact List.forall_mem_cons.mpr ⟨dropped, undropped⟩
    simp only [counted, phase.hand_settles queue dropped]
    rfl

theorem Store.exec_tryAdmit_none (store : Store) (item : AdmissionItem)
    (found : store.queues.get queue = none) :
    store.exec (.tryAdmit queue item) = (store, none) := by
  simp only [exec, found]
  rfl

theorem Store.exec_tryAdmit_some (store : Store) {controller : QueueController}
    (item : AdmissionItem) (found : store.queues.get queue = some controller) :
    store.exec (.tryAdmit queue item) =
      ({ store with
        queues := store.queues.set queue (controller.tryAdmit store.clock item).1 },
        some (controller.tryAdmit store.clock item).2) := by
  simp only [exec, found]
  rfl

theorem Store.exec_saveCheckpointIfPending_cases (store : Store) (row : StepCheckpoint) :
    store.exec (.saveCheckpointIfPending row) = (store, false) ∨
      ∃ held, store.checkpoints.get (row.runId, row.seq) = some held ∧ held.status = .pending ∧
        store.exec (.saveCheckpointIfPending row) = (store.setCheckpoint row, true) := by
  simp only [exec]
  split
  · exact .inl rfl
  · rename_i held found
    split
    · rename_i pending
      exact .inr ⟨held, found, pending, rfl⟩
    · exact .inl rfl

theorem Store.settleOne_cases (store : Store) (settlement : StepSettlement) :
    store.settleOne settlement = (store, false) ∨
      ∃ held, store.checkpoints.get (settlement.runId, settlement.seq) = some held ∧
        held.status = .pending ∧
        store.settleOne settlement =
          ({ store with
            checkpoints := store.checkpoints.set (settlement.runId, settlement.seq)
              (held.settled settlement) }, true) := by
  unfold settleOne
  split
  · exact .inl rfl
  · rename_i held found
    split
    · rename_i pending
      exact .inr ⟨held, found, pending, rfl⟩
    · exact .inl rfl

theorem StepCheckpoint.settled_status (row : StepCheckpoint) (settlement : StepSettlement) :
    (row.settled settlement).status ≠ .pending := by
  show settlement.status.stepStatus ≠ .pending
  cases settlement.status <;> simp [ResultStatus.stepStatus]

theorem StepCheckpoint.settled_slot (row : StepCheckpoint) (settlement : StepSettlement) :
    (row.settled settlement).slot = none :=
  if_neg (row.settled_status settlement)

theorem pending_after_settle {settlement : StepSettlement} {held : StepCheckpoint}
    (found : { store with
        checkpoints := store.checkpoints.set (settlement.runId, settlement.seq)
          (held.settled settlement) }.checkpoints.get key = some row)
    (pending : row.status = .pending) :
    (settlement.runId, settlement.seq) ≠ key ∧ store.checkpoints.get key = some row := by
  rw [Table.get_set] at found
  split at found
  · -- The row just written is settled.
    cases found
    exact absurd pending (held.settled_status settlement)
  · rename_i apart
    exact ⟨apart, found⟩

theorem SlotsConserved.settleEach {store : Store} {phase : SlotPhase}
    (conserved : SlotsConserved store (phase :: others)) (pays : ∀ settlement ∈ settlements,
      ∀ held ∈ store.checkpoints.get (settlement.runId, settlement.seq), held.status = .pending →
        phase.pays others store (settlement.runId, settlement.seq)
          ((phase.seen (settlement.runId, settlement.seq)).bind (·.queue))) :
    SlotsConserved (store.settleEach settlements).1
      (phase.settlesEach (settlements.zip (store.settleEach settlements).2) :: others) := by
  induction settlements generalizing store phase with
  | nil => exact conserved
  | cons settlement rest ih =>
    rcases store.settleOne_cases settlement with none | ⟨held, found, pending, wrote⟩
    · simp only [Store.settleEach, none]
      exact ih conserved fun later member => pays later (List.mem_cons_of_mem _ member)
    · simp only [Store.settleEach, wrote]
      have paid := pays settlement List.mem_cons_self held found pending
      refine ih (conserved.settle (held.settled_slot settlement) paid) ?_
      intro later member row located waiting
      -- What is still pending is another step's row, which has not been touched.
      obtain ⟨apart, before⟩ := pending_after_settle located waiting
      have due := pays later (List.mem_cons_of_mem _ member) row before waiting
      have seen : ∀ queue, (phase.settles (settlement.runId, settlement.seq) queue).seen =
          phase.seen := by
        intro queue
        unfold SlotPhase.settles
        split <;> rfl
      simp only [if_true, SlotPhase.pays, SlotPhase.dropped_settles, store.slotAt_set, if_neg apart,
        seen]
      exact due

theorem SlotsConserved.settleFree {store : Store}
    (conserved : SlotsConserved store (phase :: others)) (free : ∀ settlement ∈ settlements,
      ∀ held ∈ store.checkpoints.get (settlement.runId, settlement.seq), held.status = .pending →
        held.queue = none) : SlotsConserved (store.settleEach settlements).1 (phase :: others) := by
  induction settlements generalizing store with
  | nil => exact conserved
  | cons settlement rest ih =>
    rcases store.settleOne_cases settlement with none | ⟨held, found, pending, wrote⟩
    · simp only [Store.settleEach, none]
      exact ih conserved fun later member => free later (List.mem_cons_of_mem _ member)
    · simp only [Store.settleEach, wrote]
      have vacant : store.slotAt (settlement.runId, settlement.seq) = none := by
        simp [Store.slotAt, found, StepCheckpoint.slot, pending,
          free settlement List.mem_cons_self held found pending]
      refine ih (conserved.keep (vacant.trans (held.settled_slot settlement).symm)) ?_
      intro later member row located waiting
      obtain ⟨-, before⟩ := pending_after_settle located waiting
      exact free later (List.mem_cons_of_mem _ member) row before waiting

theorem Store.settleEach_length (settlements : List StepSettlement) (store : Store) :
    (store.settleEach settlements).2.length = settlements.length := by
  induction settlements generalizing store with
  | nil => rfl
  | cons settlement rest ih => simp [Store.settleEach, ih]

theorem SlotsConserved.place {store : Store} (conserved : SlotsConserved store (phase :: others))
    (vacant : ∀ entry ∈ entries,
      store.slotAt (entry.checkpoint.runId, entry.checkpoint.seq) = none ∧
        entry.checkpoint.slot = none) :
    SlotsConserved (entries.foldl (fun store entry => store.setCheckpoint entry.checkpoint) store)
      (phase :: others) := by
  induction entries generalizing store with
  | nil => exact conserved
  | cons entry rest ih =>
    obtain ⟨before, own⟩ := vacant entry List.mem_cons_self
    refine ih (conserved.keep (before.trans own.symm)) fun other later => ?_
    obtain ⟨free, none⟩ := vacant other (List.mem_cons_of_mem _ later)
    refine ⟨(store.slotAt_set _ _ entry.checkpoint).trans ?_, none⟩
    split
    · exact own
    · exact free

theorem SlotsConserved.registerChildWaits (conserved : SlotsConserved store (phase :: others))
    (vacant : ∀ entry ∈ entries,
      store.slotAt (entry.checkpoint.runId, entry.checkpoint.seq) = none ∧
        entry.checkpoint.slot = none) :
    SlotsConserved (store.exec (.registerChildWaits entries)).1 (phase :: others) := by
  have waited : ∀ (waits : List ChildWait) (store : Store),
      ∃ signalWaiters, waits.foldl (fun store entry => store.setWaiter entry.waiter) store =
        { store with signalWaiters } := by
    intro waits
    induction waits with
    | nil => exact fun store => ⟨store.signalWaiters, rfl⟩
    | cons entry rest ih => exact fun store => ih (store.setWaiter entry.waiter)
  obtain ⟨signalWaiters, waiting⟩ := waited entries store
  show SlotsConserved (entries.foldl _ (entries.foldl _ store)) _
  rw [waiting]
  have same : SlotsConserved { store with signalWaiters } (phase :: others) := conserved
  exact same.place vacant

theorem SlotsConserved.trade (conserved : SlotsConserved store (phase :: others))
    (found : store.queues.get queue = some held) (dropped : later.dropped = phase.dropped)
    (traded : asked.inFlight + phase.hand queue = held.inFlight + later.hand queue)
    (elsewhere : ∀ other, other ≠ queue → later.hand other = phase.hand other)
    (capped : ∀ cap, asked.config.concurrency = some cap →
      (∀ limit, held.config.concurrency = some limit → held.inFlight ≤ limit) →
        asked.inFlight ≤ cap) :
    SlotsConserved { store with queues := store.queues.set queue asked } (later :: others) := by
  have counted : ∀ other position,
      Store.Counted { store with queues := store.queues.set queue asked } (later :: others) other
          position ↔
        store.Counted (phase :: others) other position := by
    intro other position
    simp only [Store.Counted, List.forall_mem_cons, dropped]
    rfl
  refine conserved.move default (.inl rfl) (fun other position _ => counted other position) ?_
  intro other controller located
  simp only [Table.get_set] at located
  split at located
  · rename_i same
    subst same
    cases located
    refine ⟨held, found, ?_, capped⟩
    simp only [counted]
    omega
  · rename_i apart
    refine ⟨controller, located, ?_, fun cap limited within => within cap limited⟩
    simp only [counted, elsewhere other (Ne.symm apart)]

theorem SlotsConserved.take (conserved : SlotsConserved store (phase :: others))
    (free : phase.admitted = none) {admission : QueueAdmission}
    (found : store.queues.get queue = some held)
    (took : QueueController.Took held asked admission) :
    SlotsConserved { store with queues := store.queues.set queue asked }
      ((if some admission = some .admitted then { phase with admitted := some queue } else phase) ::
        others) := by
  obtain ⟨config, counted, capped⟩ := took
  by_cases admitted : admission = .admitted
  · subst admitted
    rw [if_pos rfl] at counted ⊢
    refine conserved.trade found rfl ?_ ?_ ?_
    · simp [SlotPhase.hand, free]
      omega
    · intro other apart
      simp [SlotPhase.hand, free, Ne.symm apart]
    · exact fun cap limited _ => capped rfl cap (config ▸ limited)
  · rw [if_neg admitted] at counted
    rw [if_neg (by simpa using admitted)]
    refine conserved.trade found rfl (by omega) (fun _ _ => rfl) ?_
    exact fun cap limited within => counted ▸ within cap (config ▸ limited)

theorem SlotsConserved.inFlight_pos (conserved : SlotsConserved store (phase :: others))
    (key : String × Nat) (found : store.queues.get queue = some held)
    (has : 0 < phase.hand queue ∨ store.Counted (phase :: others) queue key) :
    0 < held.inFlight := by
  have counted := (conserved queue held found).1
  rw [inHand_cons] at counted
  rcases has with hand | outstanding
  · omega
  · have steps := List.length_pos_of_mem (Store.mem_outstanding.mpr outstanding)
    omega

theorem SlotsConserved.give (conserved : SlotsConserved store (phase :: others))
    (dropped : later.dropped = phase.dropped) (hand : phase.hand queue = later.hand queue + 1)
    (elsewhere : ∀ other, other ≠ queue → later.hand other = phase.hand other) :
    SlotsConserved (store.exec (.releaseSlot queue)).1 (later :: others) := by
  simp only [Store.exec]
  split
  · rename_i missing
    -- A queue nobody has registered counts no slots.
    intro other controller located
    have apart : other ≠ queue := by
      rintro rfl
      simp [missing] at located
    have same : store.outstanding (later :: others) other =
        store.outstanding (phase :: others) other := by
      simp only [Store.outstanding, List.forall_mem_cons, dropped]
    have before := conserved other controller located
    rw [inHand_cons] at before ⊢
    rw [same, elsewhere other apart]
    exact before
  · rename_i held found
    have taken := conserved.inFlight_pos default found (.inl (by omega))
    refine conserved.trade found dropped ?_ elsewhere ?_
    · simp only [QueueController.release]
      omega
    · intro cap limited within
      exact Nat.le_trans (Nat.sub_le _ _) (within cap limited)

/-- A path drops an outstanding step, and gives back its slot. -/
theorem SlotsConserved.drop (conserved : SlotsConserved store (phase :: others))
    (outstanding : store.Counted (phase :: others) queue key) :
    SlotsConserved (store.exec (.releaseSlot queue)).1
      ({ phase with dropped := key :: phase.dropped } :: others) := by
  have gone : ∀ (shared : Store) (other : String),
      ¬ shared.Counted ({ phase with dropped := key :: phase.dropped } :: others) other key := by
    intro shared other counted
    exact counted.2 _ List.mem_cons_self List.mem_cons_self
  have same : ∀ (shared : Store), shared.checkpoints = store.checkpoints →
      ∀ other position, position ≠ key →
        (shared.Counted ({ phase with dropped := key :: phase.dropped } :: others) other position ↔
          store.Counted (phase :: others) other position) := by
    intro shared rows other position apart
    simp [Store.Counted, Store.slotAt, rows, apart]
  have only : ∀ other, store.Counted (phase :: others) other key ↔ queue = other := by
    intro other
    refine ⟨fun counted => ?_, fun here => here ▸ outstanding⟩
    exact Option.some.inj (outstanding.1.symm.trans counted.1)
  simp only [Store.exec]
  split
  · rename_i missing
    refine conserved.move key (.inl rfl) (same _ rfl) ?_
    intro other controller located
    have apart : queue ≠ other := by
      rintro rfl
      simp [missing] at located
    refine ⟨controller, located, ?_, fun cap limited within => within cap limited⟩
    rw [if_neg (gone _ other), if_neg fun counted => apart ((only other).mp counted)]
    rfl
  · rename_i held found
    have taken := conserved.inFlight_pos key found (.inr outstanding)
    refine conserved.move key (.inl rfl) (same _ rfl) ?_
    intro other controller located
    rw [if_neg (gone _ other)]
    simp only [only]
    simp only [Table.get_set] at located
    split at located
    · rename_i here
      subst here
      cases located
      refine ⟨held, found, ?_, fun cap limited within =>
        Nat.le_trans (Nat.sub_le _ _) (within cap limited)⟩
      simp only [QueueController.release, SlotPhase.hand, if_true]
      omega
    · rename_i apart
      refine ⟨controller, located, ?_, fun cap limited within => within cap limited⟩
      simp [SlotPhase.hand, apart]

theorem SlotsConserved.look (conserved : SlotsConserved store (phase :: others))
    (seen : String × Nat → Option StepCheckpoint) (latest : Option (String × Nat)) :
    SlotsConserved store ({ phase with seen, latest } :: others) := by
  intro queue controller found
  have before := conserved queue controller found
  rw [inHand_cons] at before ⊢
  have same : store.outstanding ({ phase with seen, latest } :: others) queue =
      store.outstanding (phase :: others) queue := by
    simp only [Store.outstanding, List.forall_mem_cons]
  rw [same]
  exact before

theorem SlotsConserved.account (conserved : SlotsConserved store (phase :: others))
    (accounts : phase.accounts others store row) : SlotsConserved (store.setCheckpoint row)
      ((if phase.role = .result then phase.settles (row.runId, row.seq) row.queue else phase) ::
        others) := by
  unfold SlotPhase.accounts at accounts
  split at accounts
  · rename_i result
    rw [if_pos result]
    exact conserved.settle accounts.2 accounts.1
  · rename_i other
    rw [if_neg other]
    exact conserved.keep accounts

theorem SlotsConserved.book (conserved : SlotsConserved store (phase :: others))
    (books : phase.books row) (vacant : store.slotAt (row.runId, row.seq) = none)
    (undropped : ∀ other ∈ phase :: others, (row.runId, row.seq) ∉ other.dropped) :
    SlotsConserved (store.setCheckpoint row) ({ phase with admitted := none } :: others) := by
  obtain ⟨-, pending, queue, -⟩ := books
  have slot : row.slot = phase.admitted := (if_pos pending).trans queue
  refine conserved.set row rfl fun other => ?_
  have before : ¬ store.Counted (phase :: others) other (row.runId, row.seq) := by
    simp [Store.Counted, vacant]
  have after : (row.slot = some other ∧
      ∀ path ∈ phase :: others, (row.runId, row.seq) ∉ path.dropped) ↔
      phase.admitted = some other := by
    rw [slot]
    exact and_iff_left undropped
  rw [if_neg before]
  simp only [after, SlotPhase.hand]
  simp
  omega

end Moves

/-- What the slots of a store and of the paths over it keep to. -/
structure SlotsHeld (store : Store) (every : List SlotPhase) : Prop where
  keyed : store.Keyed
  conserved : SlotsConserved store every

theorem SlotsHeld.perm {store : Store} {before after : List SlotPhase} (order : before.Perm after)
    (held : SlotsHeld store before) : SlotsHeld store after := by
  refine ⟨held.keyed, fun queue controller found => ?_⟩
  have same : store.outstanding after queue = store.outstanding before queue := by
    simp only [Store.outstanding, order.mem_iff]
  have hands : inHand after queue = inHand before queue := (order.map _).sum_eq.symm
  rw [same, hands]
  exact held.conserved queue controller found

section Step

variable {store : Store} {phase : SlotPhase} {others : List SlotPhase}

theorem SlotsHeld.fits (held : SlotsHeld store (phase :: others)) (op : StoreOp)
    (careful : phase.careful store others op) : phase.fits op (store.exec op).2 := by
  refine ⟨exec_fitsRows held.keyed op, ?_⟩
  cases op with
  | settleCheckpointsIfPending settlements => exact store.settleEach_length settlements
  | dispatchRefusal runId => exact careful
  | _ => trivial

theorem SlotsConserved.give_may (conserved : SlotsConserved store (phase :: others))
    {queue : String} (may : phase.may (.releaseSlot queue))
    (careful : phase.careful store others (.releaseSlot queue)) :
    SlotsConserved (store.exec (.releaseSlot queue)).1 (phase.gives queue :: others) := by
  unfold SlotPhase.gives
  split
  · rename_i admitted
    refine conserved.give rfl ?_ fun other apart => ?_
    · simp [SlotPhase.hand, admitted]
      omega
    · simp [SlotPhase.hand, admitted, Ne.symm apart]
  · rename_i apart
    split
    · rename_i owed
      have positive := List.count_pos_iff.mpr owed
      refine conserved.give rfl ?_ fun other different => ?_
      · simp only [SlotPhase.hand, List.count_erase_self]
        omega
      · simp only [SlotPhase.hand, List.count_erase_of_ne different]
    · rename_i unowed
      rcases may with admitted | owed | ⟨-, -, key, row, latest, -, -, -⟩
      · exact absurd admitted apart
      · exact absurd owed unowed
      · have dropped := conserved.drop (careful apart unowed key latest)
        rw [latest]
        exact dropped.look phase.seen (some key)

/-- An operation that is made with care keeps slots conserved. -/
theorem SlotsHeld.exec (held : SlotsHeld store (phase :: others)) (op : StoreOp)
    (may : phase.may op) (careful : phase.careful store others op) :
    SlotsHeld (store.exec op).1 (phase.after op (store.exec op).2 :: others) := by
  refine ⟨held.keyed.exec op, ?_⟩
  have conserved := held.conserved
  cases op with
  | getCheckpoint runId seq => exact conserved.look _ _
  | replayCheckpoints runId => exact conserved.look _ phase.latest
  | tryAdmit queue item =>
    cases found : store.queues.get queue with
    | none =>
      rw [store.exec_tryAdmit_none item found]
      exact conserved
    | some controller =>
      rw [store.exec_tryAdmit_some item found]
      exact conserved.take may.2 found (controller.tryAdmit_took store.clock item)
  | releaseSlot queue => exact conserved.give_may may careful
  | saveCheckpoint row =>
    simp only [SlotPhase.careful] at careful
    simp only [SlotPhase.after, SlotPhase.writes]
    split at careful
    · rename_i books
      rw [if_pos books]
      exact conserved.book books careful.1 careful.2
    · rename_i unbooked
      rw [if_neg unbooked]
      exact conserved.account careful
  | saveCheckpointIfPending row =>
    rcases store.exec_saveCheckpointIfPending_cases row with none | ⟨before, found, pending, wrote⟩
    · rw [none]
      simpa [SlotPhase.after] using conserved
    · rw [wrote]
      have accounted := conserved.account (careful before found pending)
      simpa [SlotPhase.after] using accounted
  | settleCheckpointsIfPending settlements =>
    simp only [Store.exec, SlotPhase.after]
    split
    · rename_i result
      refine conserved.settleEach fun settlement member row found pending => ?_
      have pays := careful settlement member row found pending
      rw [if_pos result] at pays
      exact pays
    · rename_i other
      refine conserved.settleFree fun settlement member row found pending => ?_
      have free := careful settlement member row found pending
      rw [if_neg other] at free
      exact free
  | renewCheckpointLease runId seq expected wakeAt =>
    simp only [Store.exec, SlotPhase.after]
    split
    · exact conserved
    · rename_i before found
      split
      · refine conserved.keep ?_
        simp only [Store.slotAt, found]
        rfl
      · exact conserved
  | registerChildWaits entries => exact conserved.registerChildWaits careful
  | createRun | updateRun | takeSignalWaiter | takeBufferedSignal | removeBufferedEvent
    | readCheckpoint =>
    simp only [Store.exec, SlotPhase.after]
    split <;> exact conserved
  | updateRunIf | removeSignalWaiter =>
    simp only [Store.exec, SlotPhase.after]
    split
    · exact conserved
    · split <;> exact conserved
  | _ => exact conserved

end Step

end Durable
