import Durable.Engine.SignalHandshake
import Durable.Interleaving.Entries
import Durable.Proofs.Store.Operations

/-! Signals and a run that waits for their token: nothing is lost, and nothing is stranded. -/

namespace Durable

open Interleaving

variable {phase : SignalPhase} {seq : Nat}

namespace SignalPhase

theorem target_of_empty (empty : phase.payload? = none) : phase.target = none := by
  cases phase <;> first | rfl | cases empty

theorem isTurn_of_waits (waits : phase.waits = some seq) : phase.isTurn = true := by
  cases phase <;> first | rfl | cases waits

end SignalPhase

namespace Waiting

variable {waiting : Waiting}

section Programs

variable {host : CtxHost}

theorem deliverSignal_meets (waiter : SignalWaiter) (payload : Payload) :
    (deliverSignal waiter payload).Meets waiting.monitor (fun phase _ => phase = .sent)
      (.held payload waiter) :=
  ⟨rfl, fun _ _ => ⟨⟨_, rfl⟩, fun _ _ => rfl⟩⟩

theorem reclaimBuffered_meets :
    (reclaimBuffered waiting.token).Meets waiting.monitor (fun phase _ => phase = .sent)
      .buffered := by
  refine ⟨rfl, fun taken _ => ?_⟩
  cases taken with
  | none => rfl
  | some waiter =>
    refine ⟨rfl, fun reclaimed _ => ?_⟩
    cases reclaimed with
    | none => rfl
    | some payload =>
      exact Program.meets_bind (deliverSignal_meets waiter payload) fun _ _ sent => sent

theorem signal_meets (payload : Payload) :
    (signal waiting.token payload).Meets waiting.monitor (fun phase _ => phase = .sent)
      (.owes payload) := by
  refine ⟨.inl rfl, fun taken _ => ?_⟩
  cases taken with
  | some waiter =>
    exact Program.meets_bind (deliverSignal_meets waiter payload) fun _ _ sent => sent
  | none => exact ⟨.inr rfl, fun _ _ => reclaimBuffered_meets⟩

/-- A wait that is over leads to the position after it, and one that is not parks its turn. -/
def Waited (seq : Nat) : SignalPhase → OpEnd → Prop
  | .between, .observed _ next => next = seq + 1
  | .parked _, .suspended _ => True
  | _, _ => False

theorem consumeBuffered_meets (same : host.runId = waiting.host.runId) (seq : Nat)
    {missed : SignalPhase} (here : phase = .opened seq ∧ missed = .missed seq ∨
      phase = .registered seq ∧ missed = .parked seq) :
    (host.consumeBuffered waiting.token seq).Meets waiting.monitor
      (fun phase found => phase = if found.isSome then .between else missed) phase := by
  have recorded : ∀ payload, { runId := host.runId, seq, name := signalName waiting.token
                               kind := .signal, output := payload } =
      waiting.recorded payload seq := fun payload => by simp [Waiting.recorded, same]
  rcases here with ⟨rfl, rfl⟩ | ⟨rfl, rfl⟩ <;>
  · refine ⟨rfl, fun taken _ => ?_⟩
    cases taken with
    | none => rfl
    | some payload => exact ⟨congrArg StoreOp.saveCheckpoint (recorded payload), fun _ _ => rfl⟩

theorem awaitSignal_meets (same : host.runId = waiting.host.runId) (seq : Nat) :
    (host.awaitSignal waiting.token seq).Meets waiting.monitor (Waited seq) (.opened seq) := by
  have own : host.waiter waiting.token seq = waiting.waiter seq := by
    simp [Waiting.waiter, CtxHost.waiter, same]
  refine Program.meets_bind (consumeBuffered_meets same seq (.inl ⟨rfl, rfl⟩)) ?_
  rintro phase found rfl
  cases found with
  | some payload => rfl
  | none =>
    refine Program.meets_perform (congrArg StoreOp.putSignalWaiter own) fun _ _ => ?_
    refine Program.meets_bind (consumeBuffered_meets same seq (.inr ⟨rfl, rfl⟩)) ?_
    rintro phase found rfl
    cases found with
    | some payload =>
      exact ⟨.inr (.inl ⟨seq, congrArg StoreOp.removeSignalWaiter own⟩), fun _ _ => rfl⟩
    | none => trivial

theorem waitForSignal_meets (same : host.runId = waiting.host.runId)
    (replayed : ∀ seq row, host.replay seq = some row → row.status = .completed)
    (within : seq < waiting.count) :
    (host.waitForSignal waiting.token seq).Meets waiting.monitor (Waited seq) .between := by
  refine ⟨.inr (.inr ⟨seq, host.replay seq, by rw [same], within, replayed seq⟩),
    fun answer fits => ?_⟩
  cases answer with
  | none => exact awaitSignal_meets same seq
  | some row =>
    change Program.Meets _ _ (if row.status = .completed then _ else _) _
    rw [if_pos (fits row rfl)]
    rfl

/-- A turn rests between two waits, or parked at one. -/
def Rests : SignalPhase → Prop
  | .between | .parked _ => True
  | _ => False

theorem waits_meets (host : CtxHost) (same : host.runId = waiting.host.runId)
    (replayed : ∀ seq row, host.replay seq = some row → row.status = .completed)
    (left current : Nat) (within : current + left = waiting.count) :
    ((Body.waits waiting.token left).turn host current).Meets waiting.monitor
      (fun phase _ => Rests phase) .between := by
  induction left generalizing current with
  | zero => trivial
  | succ left ih =>
    have here : current < waiting.count := by omega
    rw [Body.waits, Body.turn_perform]
    refine Program.meets_bind (waitForSignal_meets same replayed here) fun phase ending waited => ?_
    cases ending with
    | observed result next =>
      cases phase <;> cases waited
      exact ih (current + 1) (by omega)
    | suspended wakeAt => cases phase <;> trivial
    | nonDeterminism => cases phase <;> cases waited

theorem execution_meets (rested : Rests phase) :
    ((Body.waits waiting.token waiting.count).execution waiting.host).Meets waiting.monitor
      (fun phase _ => Rests phase) phase := by
  have allowed : waiting.monitor.allows phase (.replayCheckpoints waiting.host.runId) := by
    cases phase <;> first | exact .inl rfl | rfl | cases rested
  refine Program.meets_perform allowed fun replay fits => ?_
  have begun : waiting.monitor.advance phase (.replayCheckpoints waiting.host.runId) replay =
      .between := by
    cases phase <;> first | rfl | cases rested
  rw [begun]
  exact waits_meets { waiting.host with replay } rfl fits waiting.count 0 (by omega)

/-- A process is done with its call, or its turn rests. -/
def Ended (phase : SignalPhase) : Prop := phase = .sent ∨ Rests phase

theorem caller_follows (payload : Payload) :
    (waiting.caller payload).Follows waiting.monitor (fun phase _ => Ended phase) :=
  Process.follows_once (Program.meets_bind (signal_meets payload) fun _ _ sent => .inl sent)

theorem runner_follows :
    waiting.runner.Follows waiting.monitor (fun phase _ => Ended phase) :=
  Process.follows_again (fun phase _ => Rests phase) trivial (fun _ _ rests => .inr rests)
    fun _ _ rested => Program.meets_bind (execution_meets rested) fun _ _ rests => rests

theorem idle_of_ended (ended : Ended phase) :
    phase.payload? = none ∧ phase ≠ .buffered ∧ ∀ waiter, phase ≠ .late waiter := by
  rcases ended with rfl | rests
  · simp [SignalPhase.payload?]
  · cases phase <;> simp_all [Rests, SignalPhase.payload?]

end Programs

/-- A waiter is the run's own, at one of its waits. -/
def Own (waiting : Waiting) (waiter : SignalWaiter) : Prop :=
  waiter.token = waiting.token ∧ waiter.runId = waiting.host.runId ∧ waiter.seq < waiting.count

/-- The waits and waiters a phase speaks of are the run's own. -/
def Placed (waiting : Waiting) : SignalPhase → Prop
  | .held _ waiter | .late waiter => waiting.Own waiter
  | .opened seq | .missed seq | .registered seq | .parked seq | .inHand _ seq =>
    seq < waiting.count
  | _ => True

/-- What holds of the store and of all processes while payloads are handed over undisturbed. -/
structure Sound (waiting : Waiting) (issued : List Payload) (store : Store)
    (every : List SignalPhase) : Prop where
  completed : ∀ seq row, store.checkpoints.get (waiting.host.runId, seq) = some row →
    row.status = .completed
  awaited : ∀ waiter, store.signalWaiters.get waiting.token = some waiter → waiting.Own waiter
  placed : ∀ phase ∈ every, waiting.Placed phase
  solitary : every.Pairwise fun one other => one.isTurn = true → other.isTurn = false
  aimed : every.Pairwise fun one other => ∀ seq, one.target = some seq → other.target ≠ some seq
  unwritten : ∀ phase ∈ every, ∀ seq, phase.target = some seq →
    store.checkpoints.get (waiting.host.runId, seq) = none
  ledger : ∀ payload, (waiting.whereabouts store every).count payload = issued.count payload
  reachable : ∀ phase ∈ every, ∀ seq, phase.waits = some seq → waiting.Free store every seq →
    store.signalWaiters.get waiting.token = some (waiting.waiter seq) ∨
      .late (waiting.waiter seq) ∈ every
  paired : ∀ seq, .parked seq ∈ every → waiting.Free store every seq →
    store.buffered waiting.token ≠ [] → .buffered ∈ every ∨ .late (waiting.waiter seq) ∈ every

section Steps

variable {issued : List Payload} {store : Store} {others : List SignalPhase} {waiter : SignalWaiter}
  {payload : Payload} {after : SignalPhase}

theorem Sound.perm {before after : List SignalPhase} (same : before.Perm after)
    (sound : waiting.Sound issued store before) : waiting.Sound issued store after where
  completed := sound.completed
  awaited := sound.awaited
  placed phase member := sound.placed phase (same.mem_iff.mpr member)
  solitary := (same.pairwise_iff fun {one other} apart turn => by
    cases ended : one.isTurn <;> simp_all).mp sound.solitary
  aimed := (same.pairwise_iff fun {one other} apart seq here there => apart seq there here).mp
    sound.aimed
  unwritten phase member := sound.unwritten phase (same.mem_iff.mpr member)
  ledger payload := by
    have moved : (waiting.whereabouts store before).Perm (waiting.whereabouts store after) :=
      ((same.filterMap _).append_right _).append_right _
    rw [← moved.count_eq, sound.ledger]
  reachable phase member seq waits free := by
    have earlier := sound.reachable phase (same.mem_iff.mpr member) seq waits
      ⟨free.1, fun other held => free.2 other (same.mem_iff.mp held)⟩
    rwa [same.mem_iff] at earlier
  paired seq member free filled := by
    have earlier := sound.paired seq (same.mem_iff.mpr member)
      ⟨free.1, fun other held => free.2 other (same.mem_iff.mp held)⟩ filled
    rwa [same.mem_iff, same.mem_iff] at earlier

theorem free_cons : waiting.Free store (phase :: others) seq ↔
      store.checkpoints.get (waiting.host.runId, seq) = none ∧ phase.target ≠ some seq ∧
        ∀ other ∈ others, other.target ≠ some seq := by
  simp [Free]

theorem sound_cons : waiting.Sound issued store (phase :: others) ↔
      (∀ seq row, store.checkpoints.get (waiting.host.runId, seq) = some row →
        row.status = .completed) ∧
      (∀ waiter, store.signalWaiters.get waiting.token = some waiter → waiting.Own waiter) ∧
      (waiting.Placed phase ∧ ∀ other ∈ others, waiting.Placed other) ∧
      ((∀ other ∈ others, phase.isTurn = true → other.isTurn = false) ∧
        others.Pairwise fun one other => one.isTurn = true → other.isTurn = false) ∧
      ((∀ other ∈ others, ∀ seq, phase.target = some seq → other.target ≠ some seq) ∧
        others.Pairwise fun one other => ∀ seq, one.target = some seq →
          other.target ≠ some seq) ∧
      ((∀ seq, phase.target = some seq →
          store.checkpoints.get (waiting.host.runId, seq) = none) ∧
        ∀ other ∈ others, ∀ seq, other.target = some seq →
          store.checkpoints.get (waiting.host.runId, seq) = none) ∧
      (∀ payload, (waiting.whereabouts store (phase :: others)).count payload =
        issued.count payload) ∧
      ((∀ seq, phase.waits = some seq → waiting.Free store (phase :: others) seq →
          store.signalWaiters.get waiting.token = some (waiting.waiter seq) ∨
            .late (waiting.waiter seq) = phase ∨ .late (waiting.waiter seq) ∈ others) ∧
        ∀ other ∈ others, ∀ seq, other.waits = some seq →
          waiting.Free store (phase :: others) seq →
            store.signalWaiters.get waiting.token = some (waiting.waiter seq) ∨
              .late (waiting.waiter seq) = phase ∨ .late (waiting.waiter seq) ∈ others) ∧
      ∀ seq, (.parked seq = phase ∨ .parked seq ∈ others) →
        waiting.Free store (phase :: others) seq → store.buffered waiting.token ≠ [] →
          (.buffered = phase ∨ .buffered ∈ others) ∨
            .late (waiting.waiter seq) = phase ∨ .late (waiting.waiter seq) ∈ others := by
  constructor
  · rintro ⟨completed, awaited, placed, solitary, aimed, unwritten, ledger, reachable, paired⟩
    rw [List.pairwise_cons] at solitary aimed
    rw [List.forall_mem_cons] at placed unwritten reachable
    simp only [List.mem_cons] at reachable paired
    exact ⟨completed, awaited, placed, solitary, aimed, unwritten, ledger, reachable, paired⟩
  · rintro ⟨completed, awaited, placed, solitary, aimed, unwritten, ledger, reachable, paired⟩
    simp only [← List.mem_cons] at reachable paired
    exact ⟨completed, awaited, List.forall_mem_cons.mpr placed, List.pairwise_cons.mpr solitary,
      List.pairwise_cons.mpr aimed, List.forall_mem_cons.mpr unwritten, ledger,
      List.forall_mem_cons.mpr reachable, paired⟩

theorem delivered_setCheckpoint (checkpoint : StepCheckpoint)
    (own : checkpoint.runId = waiting.host.runId) (within : checkpoint.seq < waiting.count)
    (absent : store.checkpoints.get (waiting.host.runId, checkpoint.seq) = none) :
    (waiting.delivered (store.setCheckpoint checkpoint)).Perm
      (checkpoint.output :: waiting.delivered store) := by
  refine filterMap_perm_cons List.nodup_range (List.mem_range.mpr within) (by simp [absent]) ?_ ?_
  · simp [Store.setCheckpoint_get, own]
  · intro seq different
    simp [Store.setCheckpoint_get, own, Ne.symm different]

theorem Sound.hold (sound : waiting.Sound issued store (.owes payload :: others))
    (present : store.signalWaiters.get waiting.token = some waiter)
    (free : waiting.Free store (.owes payload :: others) waiter.seq) : waiting.Sound issued
      { store with signalWaiters := store.signalWaiters.erase waiting.token }
      (.held payload waiter :: others) := by
  rw [sound_cons] at sound ⊢
  simp only [free_cons] at *
  obtain ⟨completed, awaited, placed, solitary, aimed, unwritten, ledger, reachable, paired⟩ := sound
  refine ⟨completed, by simp, ?_, ?_, ?_, ?_, ?_, ?_, ?_⟩
  · grind [Placed]
  · grind [SignalPhase.isTurn]
  · grind [SignalPhase.target]
  · grind [SignalPhase.target]
  · exact ledger
  · grind [SignalPhase.target, SignalPhase.waits, Waiting.waiter, CtxHost.waiter]
  · grind [SignalPhase.target, Store.buffered]

theorem Sound.buffer (sound : waiting.Sound issued store (.owes payload :: others)) :
    waiting.Sound issued (store.exec (.bufferSignal waiting.token payload)).1
      (.buffered :: others) := by
  rw [sound_cons] at sound ⊢
  simp only [free_cons, Store.exec] at *
  obtain ⟨completed, awaited, placed, solitary, aimed, unwritten, ledger, reachable, paired⟩ := sound
  refine ⟨completed, awaited, ?_, ?_, ?_, ?_, ?_, ?_, ?_⟩
  · grind [Placed]
  · grind [SignalPhase.isTurn]
  · grind [SignalPhase.target]
  · grind [SignalPhase.target]
  · intro other
    have counted := ledger other
    simp only [whereabouts, delivered, Store.buffered_set, List.filterMap_cons, List.count_append,
      SignalPhase.payload?, if_true, List.count_cons, List.count_nil] at counted ⊢
    omega
  · grind [SignalPhase.target, SignalPhase.waits]
  · grind

theorem Sound.write {checkpoint : StepCheckpoint}
    (sound : waiting.Sound issued store (phase :: others))
    (own : checkpoint.runId = waiting.host.runId) (within : checkpoint.seq < waiting.count)
    (finished : checkpoint.status = .completed) (aim : phase.target = some checkpoint.seq)
    (held : phase.payload? = some checkpoint.output) (handed : after.payload? = none)
    (aimless : after.target = none) (same : after.isTurn = phase.isTurn)
    (waitless : after.waits = none) (placed' : waiting.Placed after) :
    waiting.Sound issued (store.setCheckpoint checkpoint) (after :: others) := by
  rw [sound_cons] at sound ⊢
  simp only [free_cons, Store.setCheckpoint_get] at *
  obtain ⟨completed, awaited, placed, solitary, aimed, unwritten, ledger, reachable, paired⟩ := sound
  have unrelated : phase ≠ .buffered ∧ (∀ seq, phase ≠ .parked seq) ∧ ∀ waiter, phase ≠ .late waiter :=
    ⟨by grind [SignalPhase.target], by grind [SignalPhase.target], by grind [SignalPhase.target]⟩
  refine ⟨by grind, awaited, ⟨placed', placed.2⟩, by grind, by grind, by grind, ?_, ?_, ?_⟩
  · intro other
    have counted := ledger other
    have arrived := (delivered_setCheckpoint checkpoint own within
      (unwritten.1 _ aim)).count_eq other
    have kept : (store.setCheckpoint checkpoint).buffered waiting.token =
      store.buffered waiting.token := rfl
    simp only [whereabouts, List.filterMap_cons, List.count_append, held, handed, kept, arrived,
      List.count_cons] at counted ⊢
    omega
  · grind [Store.setCheckpoint]
  · have parkless : ∀ seq, after ≠ .parked seq := by grind [SignalPhase.waits]
    grind [Store.setCheckpoint, Store.buffered]

theorem Sound.take {rest : List Payload} (sound : waiting.Sound issued store (phase :: others))
    (filled : store.buffered waiting.token = payload :: rest)
    (free : waiting.Free store (phase :: others) seq) (empty : phase.payload? = none)
    (held : after.payload? = some payload) (aim : after.target = some seq)
    (same : after.isTurn = phase.isTurn) (waitless : after.waits = none)
    (placed' : waiting.Placed after) (looked : phase ≠ .buffered)
    (late : ∀ other, .late (waiting.waiter other) = phase → other = seq) : waiting.Sound issued
      { store with bufferedSignals := store.bufferedSignals.set waiting.token rest }
      (after :: others) := by
  rw [sound_cons] at sound ⊢
  simp only [free_cons, Store.buffered_set] at *
  obtain ⟨completed, awaited, placed, solitary, aimed, unwritten, ledger, reachable, paired⟩ := sound
  have aimless : phase.target = none := SignalPhase.target_of_empty empty
  refine ⟨completed, awaited, ⟨placed', placed.2⟩, by grind, by grind, by grind, ?_, ?_, ?_⟩
  · intro other
    have counted := ledger other
    simp only [whereabouts, delivered, Store.buffered_set, List.filterMap_cons, List.count_append,
      held, empty, filled, if_true, List.count_cons] at counted ⊢
    omega
  · grind
  · have parkless : ∀ seq, after ≠ .parked seq := by grind [SignalPhase.waits]
    grind

theorem Sound.pass (sound : waiting.Sound issued store (phase :: others))
    (empty : phase.payload? = none) (empty' : after.payload? = none)
    (same : after.isTurn = phase.isTurn) (waitless : after.waits = none)
    (placed' : waiting.Placed after) (looked : phase ≠ .buffered)
    (late : ∀ waiter, phase ≠ .late waiter) : waiting.Sound issued store (after :: others) := by
  rw [sound_cons] at sound ⊢
  simp only [free_cons] at *
  obtain ⟨completed, awaited, placed, solitary, aimed, unwritten, ledger, reachable, paired⟩ := sound
  have aimless : phase.target = none ∧ after.target = none :=
    ⟨SignalPhase.target_of_empty empty, SignalPhase.target_of_empty empty'⟩
  refine ⟨completed, awaited, ⟨placed', placed.2⟩, by grind, by grind, by grind, ?_, by grind, ?_⟩
  · intro other
    have counted := ledger other
    simp only [whereabouts, List.filterMap_cons, empty, empty'] at counted ⊢
    exact counted
  · have parkless : ∀ seq, after ≠ .parked seq := by grind [SignalPhase.waits]
    grind

theorem Sound.giveUp (sound : waiting.Sound issued store (.buffered :: others))
    (absent : store.signalWaiters.get waiting.token = none) :
    waiting.Sound issued store (.sent :: others) := by
  rw [sound_cons] at sound ⊢
  simp only [free_cons] at *
  obtain ⟨completed, awaited, placed, solitary, aimed, unwritten, ledger, reachable, paired⟩ := sound
  refine ⟨completed, awaited, ⟨trivial, placed.2⟩, ?_, ?_, ?_, ledger, ?_, ?_⟩
  · grind [SignalPhase.isTurn]
  · grind [SignalPhase.target]
  · grind [SignalPhase.target]
  · grind [SignalPhase.target, SignalPhase.waits]
  · -- A parked wait has no waiter left, so another call has taken it.
    grind [SignalPhase.target, SignalPhase.waits]

theorem Sound.overtake (sound : waiting.Sound issued store (.buffered :: others))
    (present : store.signalWaiters.get waiting.token = some waiter) : waiting.Sound issued
      { store with signalWaiters := store.signalWaiters.erase waiting.token }
      (.late waiter :: others) := by
  rw [sound_cons] at sound ⊢
  simp only [free_cons] at *
  obtain ⟨completed, awaited, placed, solitary, aimed, unwritten, ledger, reachable, paired⟩ := sound
  refine ⟨completed, by simp, ⟨awaited waiter present, placed.2⟩, ?_, ?_, ?_, ledger, ?_, ?_⟩
  · grind [SignalPhase.isTurn]
  · grind [SignalPhase.target]
  · grind [SignalPhase.target]
  · grind [SignalPhase.target, SignalPhase.waits]
  · grind [SignalPhase.target, SignalPhase.waits, Store.buffered]

theorem Sound.drop (sound : waiting.Sound issued store (.late waiter :: others))
    (empty : store.buffered waiting.token = [])
    (taken : ¬ waiting.Free store (.late waiter :: others) waiter.seq) :
    waiting.Sound issued store (.sent :: others) := by
  rw [sound_cons] at sound ⊢
  simp only [free_cons] at *
  obtain ⟨completed, awaited, placed, solitary, aimed, unwritten, ledger, reachable, paired⟩ := sound
  refine ⟨completed, awaited, ⟨trivial, placed.2⟩, ?_, ?_, ?_, ledger, ?_, ?_⟩
  · grind [SignalPhase.isTurn]
  · grind [SignalPhase.target]
  · grind [SignalPhase.target]
  · grind [SignalPhase.target, SignalPhase.waits, Waiting.waiter, CtxHost.waiter]
  · grind

theorem Sound.register (sound : waiting.Sound issued store (.missed seq :: others)) :
    waiting.Sound issued (store.setWaiter (waiting.waiter seq)) (.registered seq :: others) := by
  rw [sound_cons] at sound ⊢
  simp only [free_cons, Store.setWaiter_get] at *
  obtain ⟨completed, awaited, placed, solitary, aimed, unwritten, ledger, reachable, paired⟩ := sound
  have own : waiting.Own (waiting.waiter seq) := ⟨rfl, rfl, placed.1⟩
  refine ⟨completed, ?_, ⟨placed.1, placed.2⟩, ?_, ?_, ?_, ledger, ?_, ?_⟩
  · grind [Waiting.waiter, CtxHost.waiter]
  · grind [SignalPhase.isTurn]
  · grind [SignalPhase.target]
  · grind [SignalPhase.target, Store.setWaiter]
  · refine ⟨by grind [SignalPhase.waits, Waiting.waiter, CtxHost.waiter], ?_⟩
    -- No other turn is under way, so no other wait is registered.
    intro other member there waits
    have turn := solitary.1 other member rfl
    rw [SignalPhase.isTurn_of_waits waits] at turn
    cases turn
  · grind [SignalPhase.isTurn]

theorem Sound.park (sound : waiting.Sound issued store (.registered seq :: others))
    (empty : store.buffered waiting.token = []) :
    waiting.Sound issued store (.parked seq :: others) := by
  rw [sound_cons] at sound ⊢
  simp only [free_cons] at *
  obtain ⟨completed, awaited, placed, solitary, aimed, unwritten, ledger, reachable, paired⟩ := sound
  refine ⟨completed, awaited, ⟨placed.1, placed.2⟩, ?_, ?_, ?_, ledger, ?_, ?_⟩
  · grind [SignalPhase.isTurn]
  · grind [SignalPhase.target]
  · grind [SignalPhase.target]
  · grind [SignalPhase.target, SignalPhase.waits]
  · grind

theorem Sound.unregister (sound : waiting.Sound issued store (.between :: others)) :
    waiting.Sound issued (store.exec (.removeSignalWaiter waiter)).1 (.between :: others) := by
  obtain ⟨waiters, left, fewer⟩ := store.exec_removeSignalWaiter waiter
  rw [left]
  rw [sound_cons] at sound ⊢
  simp only [free_cons] at *
  obtain ⟨completed, awaited, placed, solitary, aimed, unwritten, ledger, reachable, paired⟩ := sound
  refine ⟨completed, by grind, placed, solitary, aimed, unwritten, ledger, ?_, ?_⟩
  · refine ⟨by grind [SignalPhase.waits], fun other member seq waits => ?_⟩
    have turn := solitary.1 other member rfl
    rw [SignalPhase.isTurn_of_waits waits] at turn
    cases turn
  · grind [SignalPhase.isTurn]

/-- A step that is undisturbed keeps the invariant, one case for each phase. -/
theorem Sound.step {op : StoreOp} (sound : waiting.Sound issued store (phase :: others))
    (allowed : waiting.allows phase op)
    (admitted : waiting.undisturbed.step store phase others op) :
    Waiting.expects op (store.exec op).2 ∧
      waiting.Sound issued (store.exec op).1 (phase.next op (store.exec op).2 :: others) := by
  obtain ⟨claimed, dropped⟩ := admitted
  cases phase with
  | owes payload =>
    rcases allowed with rfl | rfl
    · cases present : store.signalWaiters.get waiting.token with
      | none =>
        rw [store.exec_takeSignalWaiter_none present]
        exact ⟨trivial, sound⟩
      | some waiter =>
        rw [store.exec_takeSignalWaiter_some present]
        exact ⟨trivial, sound.hold present (claimed _ (by simp [claims, present]))⟩
    · exact ⟨trivial, sound.buffer⟩
  | held payload waiter =>
    obtain rfl := allowed
    have own : waiting.Own waiter := sound.placed _ List.mem_cons_self
    exact ⟨trivial, sound.write own.2.1 own.2.2 rfl rfl rfl rfl rfl rfl rfl trivial⟩
  | buffered =>
    obtain rfl := allowed
    cases present : store.signalWaiters.get waiting.token with
    | none =>
      rw [store.exec_takeSignalWaiter_none present]
      exact ⟨trivial, sound.giveUp present⟩
    | some waiter =>
      rw [store.exec_takeSignalWaiter_some present]
      exact ⟨trivial, sound.overtake present⟩
  | late waiter =>
    obtain rfl := allowed
    have own : waiting.Own waiter := sound.placed _ List.mem_cons_self
    cases filled : store.buffered waiting.token with
    | nil =>
      rw [store.exec_takeBufferedSignal_nil filled]
      exact ⟨trivial, sound.drop filled (dropped _ (by simp [drops, filled]))⟩
    | cons payload rest =>
      rw [store.exec_takeBufferedSignal_cons filled]
      refine ⟨trivial, sound.take filled (claimed _ (by simp [claims, filled])) rfl rfl rfl rfl rfl
        own (by simp) fun other same => ?_⟩
      cases same
      rfl
  | sent =>
    obtain ⟨runId, rfl⟩ := allowed
    obtain ⟨completed, awaited, placed, solitary, aimed, unwritten, ledger, reachable, paired⟩ :=
      sound
    exact ⟨trivial, completed, awaited, placed, solitary, aimed, unwritten, ledger, reachable,
      paired⟩
  | between =>
    rcases allowed with rfl | ⟨seq, rfl⟩ | ⟨seq, snapshot, rfl, within, finished⟩
    · exact ⟨fun seq row => sound.completed seq row, sound⟩
    · exact ⟨trivial, sound.unregister⟩
    · cases snapshot with
      | some row =>
        refine ⟨?_, sound⟩
        rintro row' ⟨⟩
        exact finished row rfl
      | none =>
        change (∀ row, store.checkpoints.get (waiting.host.runId, seq) = some row → _) ∧
          waiting.Sound issued store (SignalPhase.next .between (.readCheckpoint _ seq none)
            (store.checkpoints.get (waiting.host.runId, seq)) :: others)
        refine ⟨sound.completed seq, ?_⟩
        cases store.checkpoints.get (waiting.host.runId, seq) with
        | none => exact sound.pass rfl rfl rfl rfl within (by simp) (by simp)
        | some row => exact sound
  | opened seq =>
    obtain rfl := allowed
    have within : seq < waiting.count := sound.placed _ List.mem_cons_self
    cases filled : store.buffered waiting.token with
    | nil =>
      rw [store.exec_takeBufferedSignal_nil filled]
      exact ⟨trivial, sound.pass rfl rfl rfl rfl within (by simp) (by simp)⟩
    | cons payload rest =>
      rw [store.exec_takeBufferedSignal_cons filled]
      exact ⟨trivial, sound.take filled (claimed _ (by simp [claims, filled])) rfl rfl rfl rfl rfl
        within (by simp) (by simp)⟩
  | missed seq =>
    obtain rfl := allowed
    exact ⟨trivial, sound.register⟩
  | registered seq =>
    obtain rfl := allowed
    have within : seq < waiting.count := sound.placed _ List.mem_cons_self
    cases filled : store.buffered waiting.token with
    | nil =>
      rw [store.exec_takeBufferedSignal_nil filled]
      exact ⟨trivial, sound.park filled⟩
    | cons payload rest =>
      rw [store.exec_takeBufferedSignal_cons filled]
      exact ⟨trivial, sound.take filled (claimed _ (by simp [claims, filled])) rfl rfl rfl rfl rfl
        within (by simp) (by simp)⟩
  | parked seq =>
    obtain rfl := allowed
    exact ⟨fun seq row => sound.completed seq row,
      sound.pass rfl rfl rfl rfl trivial (by simp) (by simp)⟩
  | inHand payload seq =>
    obtain rfl := allowed
    have within : seq < waiting.count := sound.placed _ List.mem_cons_self
    exact ⟨trivial, sound.write rfl within rfl rfl rfl rfl rfl rfl rfl trivial⟩

end Steps

theorem sound_begin {store : Store} (fresh : waiting.Fresh store) (payloads : List Payload) :
    waiting.Sound payloads store (phases (waiting.begin store payloads).pool) := by
  obtain ⟨unrecorded, unawaited, unbuffered⟩ := fresh
  have calls : phases (waiting.begin store payloads).pool =
      .between :: payloads.map SignalPhase.owes := by
    simp [phases, begin, runner, caller, Function.comp_def]
  have holding : (payloads.map SignalPhase.owes).filterMap SignalPhase.payload? = payloads := by
    simp [List.filterMap_map, Function.comp_def, SignalPhase.payload?]
  rw [calls]
  refine ⟨by simp [unrecorded], by simp [unawaited], ?_, ?_, ?_, ?_, fun payload => ?_, ?_, ?_⟩
  · simp [Placed]
  · simp [List.pairwise_map, SignalPhase.isTurn, List.pairwise_of_forall]
  · simp [List.pairwise_map, SignalPhase.target, List.pairwise_of_forall]
  · simp [unrecorded]
  · rw [whereabouts, List.filterMap_cons, holding]
    simp [delivered, unrecorded, unbuffered, SignalPhase.payload?]
  · simp [SignalPhase.waits]
  · simp

theorem sound_of_reaches {store : Store} (fresh : waiting.Fresh store) {payloads : List Payload}
    {final : Configuration}
    (reached : waiting.system.Reaches (waiting.undisturbed.permits waiting.monitor)
      (waiting.begin store payloads) final) :
    waiting.Sound payloads final.shared (phases final.pool) ∧
      ∀ process ∈ final.pool, process.Follows waiting.monitor (fun phase _ => Ended phase) := by
  refine processes_invariant (fun phase _ => Ended phase) (waiting.Sound payloads)
    (fun _ _ _ same sound => sound.perm same) (fun _ _ _ _ sound => sound.step)
    (fun _ _ _ _ _ _ fell => by cases fell) (fun _ _ disturbance => disturbance.elim)
    ?_ (sound_begin fresh payloads) reached
  intro process member
  rcases List.mem_cons.mp member with rfl | call
  · exact runner_follows
  · obtain ⟨payload, -, rfl⟩ := List.mem_map.mp call
    exact caller_follows payload

end Waiting

/--
Signals are neither lost nor stranded along every run that is undisturbed.

A payload may be taken in hand only for a wait that is open and that no other payload is in hand
for, and a waiter may be dropped only where its wait is not.
-/
theorem signals_kept (waiting : Waiting) {store : Store} (fresh : waiting.Fresh store)
    {payloads : List Payload} {final : Waiting.Configuration}
    (reached : waiting.system.Reaches (waiting.undisturbed.permits waiting.monitor)
      (waiting.begin store payloads) final) : waiting.Kept payloads final := by
  obtain ⟨sound, follow⟩ := Waiting.sound_of_reaches fresh reached
  have accounted : (waiting.whereabouts final.shared (phases final.pool)).Perm payloads :=
    List.perm_iff_count.mpr sound.ledger
  have idle : (∀ process ∈ final.pool, process.rests) → ∀ phase ∈ phases final.pool,
      phase.payload? = none ∧ phase ≠ .buffered ∧ ∀ waiter, phase ≠ .late waiter := by
    intro rest phase member
    obtain ⟨process, present, rfl⟩ := List.mem_map.mp member
    obtain ⟨-, ended⟩ := (follow process present).ended (rest process present)
    exact Waiting.idle_of_ended ended
  refine ⟨accounted, fun rest => ?_, fun rest seq parked open_ => ?_⟩
  · have empty : (phases final.pool).filterMap SignalPhase.payload? = [] :=
      List.filterMap_eq_nil_iff.mpr fun phase member => (idle rest phase member).1
    simpa [Waiting.whereabouts, empty] using accounted
  · have free : waiting.Free final.shared (phases final.pool) seq :=
      ⟨open_, fun phase member => by
        simp [SignalPhase.target_of_empty (idle rest phase member).1]⟩
    constructor
    · rcases sound.reachable _ parked seq rfl free with here | taken
      · exact here
      · exact absurd rfl ((idle rest _ taken).2.2 _)
    · by_contra filled
      rcases sound.paired seq parked free filled with looking | taken
      · exact (idle rest _ looking).2.1 rfl
      · exact (idle rest _ taken).2.2 _ rfl

def twoWaits : Waiting :=
  { token := .named "t", host := { runId := "r", replay := fun _ => none }, count := 2 }

/-- The moves by which a run parks at its first wait, and a call resolves it. -/
def resolving : List (Move Empty) :=
  [.step 0, .step 0, .step 0, .step 0, .step 0, .step 1, .step 1, .step 1]

theorem resolving_runs :
    (twoWaits.system.run (twoWaits.begin {} [some (.num 1)]) resolving).isSome := by
  decide +kernel

/-- A parked run that a call resolves has lost nothing, and is not stranded. -/
theorem resolving_kept :
    twoWaits.Kept [some (.num 1)]
      ((twoWaits.system.run (twoWaits.begin {} [some (.num 1)]) resolving).get resolving_runs) :=
  signals_kept twoWaits ⟨fun _ => rfl, rfl, rfl⟩
    (twoWaits.undisturbed.reaches_get resolving resolving_runs (by decide +kernel))

/-- The moves by which a call's second look takes the waiter of the run's next wait. -/
def overtaking : List (Move Empty) :=
  [.step 0, .step 0, .step 0, .step 1, .step 1, .step 0, .step 0, .step 0, .step 0, .step 0,
    .step 0, .step 0, .step 1, .step 0, .step 1]

theorem overtaking_runs :
    (twoWaits.system.run (twoWaits.begin {} [some (.num 1)]) overtaking).isSome := by
  decide +kernel

/-- A second look can take the waiter of the run's next wait and drop it, which strands the run. -/
theorem signal_strands_run :
    ¬ ∀ (waiting : Waiting) (store : Store) (payloads : List Payload)
      (final : Waiting.Configuration), waiting.Fresh store →
      waiting.system.Reaches System.anyMove (waiting.begin store payloads) final →
      waiting.Kept payloads final := by
  intro claimed
  have kept := claimed twoWaits {} _ _ ⟨fun _ => rfl, rfl, rfl⟩
    (System.reaches_get overtaking overtaking_runs)
  -- The run is parked at its second wait, and nothing is left of the wait's waiter.
  have stranded := (kept.reachable (by decide +kernel) 1 (by decide +kernel)
    (by decide +kernel)).1
  revert stranded
  decide +kernel

end Durable
