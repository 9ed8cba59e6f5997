import Durable.Proofs.Engine.RunnerJobs

/-! A bounded runner loses no submitted task. -/

namespace Durable.BoundedRunner

open Interleaving (Runs Table)

variable {Task : Type} {job : Job Task} {move : Move Task}

section Runs

variable {limit : Nat} {state next : State Task} {promise : Nat} {key : String} {task : Task}

/-- What holds in every state of a runner. -/
structure Good (limit : Nat) (state : State Task) : Prop where
  slots : Slots limit state.jobs state.active state.peak state.slots state.waiting
  queue : Queue state.jobs state.calls state.waiting state.waitingPromises
  records : Records state.jobs state.calls state.resolved state.submissions

theorem good_start : Good limit ({} : State Task) := by
  have nothing : ∀ among promise, ¬ At ([] : List (Job Task)) among promise := by
    intro among promise here
    exact absurd here.lt (Nat.not_lt_zero _)
  constructor
  · constructor <;> simp [nothing, Table.empty]
  · constructor <;> simp [nothing, Table.empty, Table.Distinct, Table.values]
  · constructor <;> simp [nothing]

/-- `submit` keeps what is known. -/
theorem Good.submit (good : Good limit state) :
    Good limit (BoundedRunner.submit limit state key task) := by
  unfold BoundedRunner.submit
  dsimp only
  split
  · -- A slot is free.
    rename_i free
    have last : ∀ {stage : Stage},
        madeFor (state.jobs ++ [⟨key, task, false, stage⟩]) state.jobs.length =
          some (key, task, false) := by
      intro stage
      rw [madeFor_append, if_pos rfl]
    refine ⟨good.slots.take free, good.queue.append, ?_⟩
    refine (good.records.append rfl rfl).returning last ?_ ?_
    · rw [at_append, if_pos rfl]
      exact Bool.false_ne_true
    · rw [at_append, if_pos rfl]
      exact Bool.false_ne_true
  · rename_i full
    split
    · -- The key has a task that waits.
      rename_i queued held
      rw [good.queue.get, Option.map_eq_some_iff] at held
      obtain ⟨entry, found, rfl⟩ := held
      have row := state.waiting.mem_rows found
      have waits : At state.jobs Stage.waits entry.done := by
        rw [← good.queue.waits]
        exact List.mem_map_of_mem (List.mem_map_of_mem row)
      refine ⟨good.slots, good.queue, ?_⟩
      refine good.records.returning (good.queue.entries _ row) ?_ ?_
      · rw [at_iff (at_waits.mp waits)]
        decide
      · rw [at_iff (at_waits.mp waits)]
        decide
    · rename_i absent
      have last : madeFor (state.jobs ++ [⟨key, task, true, .waiting⟩]) state.jobs.length =
          some (key, task, true) := by
        rw [madeFor_append, if_pos rfl]
      refine ⟨good.slots.join full, good.queue.join absent, ?_⟩
      refine (good.records.append rfl rfl).returning last ?_ ?_
      · rw [at_append, if_pos rfl]
        exact Bool.false_ne_true
      · rw [at_append, if_pos rfl]
        exact Bool.false_ne_true

theorem Good.clear (good : Good limit state) : Good limit (BoundedRunner.clear state) := by
  have stages : ∀ promise ∈ state.waiting.values.map (·.done),
      stageOf state.jobs promise = some .waiting := by
    intro promise listed
    exact at_waits.mp ((good.queue.waits promise).mp listed)
  have once : (state.waiting.values.map (·.done)).Nodup := by
    have increasing := (List.pairwise_append.mp good.queue.ordered).2.1
    exact increasing.imp Nat.ne_of_lt
  refine ⟨good.slots.clear ?_, good.queue.clear, good.records.resolve once ?_ rfl⟩
  · intro promise listed
    rw [at_iff (stages promise listed)]
    decide
  · intro promise listed
    refine ⟨good.queue.lt_of_waits listed, ?_, ?_⟩
    · rw [at_iff (stages promise listed)]
      decide
    · rw [at_iff (stages promise listed)]
      decide

theorem Good.start (good : Good limit state) (found : state.jobs[promise]? = some job)
    (starting : job.stage = .starting) : Good limit (run state ⟨job.task, promise⟩) := by
  have stage : stageOf state.jobs promise = some .starting := by
    unfold stageOf
    rw [found, Option.map_some, starting]
  have made : madeFor state.jobs promise = some (job.key, job.task, job.queued) := by
    unfold madeFor
    rw [found, Option.map_some]
  have begins : At state.jobs Stage.begins promise := (at_iff stage).mpr rfl
  have direct := good.queue.begins promise begins
  refine ⟨good.slots.restage ((at_iff stage).mpr rfl) rfl, ?_, good.records.run made ?_ ?_⟩
  · refine (good.queue.call begins.lt direct).restage ?_ rfl rfl
    rw [at_iff stage]
    decide
  · rw [at_iff stage]
    decide
  · rw [at_iff stage]
    decide

theorem Good.settle (good : Good limit state)
    (running : stageOf state.jobs promise = some .running) :
    Good limit { state with jobs := restage state.jobs [promise] .settled } := by
  refine ⟨good.slots.restage ((at_iff running).mpr rfl) rfl, good.queue.restage ?_ rfl rfl,
    good.records.settle ((at_iff running).mpr rfl) ?_⟩
  · rw [at_iff running]
    decide
  · rw [at_iff running]
    decide

theorem Good.finish (good : Good limit state)
    (settled : stageOf state.jobs promise = some .settled) :
    Good limit (BoundedRunner.finish state promise) := by
  have active : At state.jobs Stage.active promise := (at_iff settled).mpr rfl
  have queue : Queue (restage state.jobs [promise] .finished) state.calls state.waiting
      state.waitingPromises := by
    refine good.queue.restage ?_ rfl rfl
    rw [at_iff settled]
    decide
  have records : Records (restage state.jobs [promise] .finished) state.calls
      (state.resolved ++ [promise]) state.submissions := by
    refine good.records.resolve (List.nodup_singleton _) ?_ rfl
    intro other listed
    obtain rfl := List.mem_singleton.mp listed
    refine ⟨active.lt, ?_, ?_⟩
    · rw [at_iff settled]
      decide
    · rw [at_iff settled]
      decide
  unfold BoundedRunner.finish
  dsimp only
  split
  · rename_i none
    exact ⟨good.slots.free active none, queue, records⟩
  · -- The slot goes to the task that waits longest.
    rename_i key entry rest first
    have row : (key, entry) ∈ state.waiting.rows := first ▸ List.mem_cons_self ..
    have listed : entry.done ∈ state.waiting.values.map (·.done) :=
      List.mem_map_of_mem (List.mem_map_of_mem row)
    have waits := (good.queue.waits entry.done).mp listed
    have still := (queue.waits entry.done).mp listed
    refine ⟨good.slots.handOver active waits (by simp [first]), queue.handOver first, ?_⟩
    refine records.run (queue.entries _ row) ?_ ?_
    · rw [at_iff (at_waits.mp still)]
      decide
    · rw [at_iff (at_waits.mp still)]
      decide

theorem step_start (moved : step limit state (.start promise) = some next) :
    ∃ job, state.jobs[promise]? = some job ∧ job.stage = .starting ∧
      next = run state ⟨job.task, promise⟩ := by
  simp only [step] at moved
  split at moved
  · rename_i found
    exact ⟨_, found, rfl, (Option.some.inj moved).symm⟩
  · cases moved

theorem step_settle {outcome : Outcome}
    (moved : step limit state (.settle promise outcome) = some next) :
    stageOf state.jobs promise = some .running ∧
      next = { state with jobs := restage state.jobs [promise] .settled } := by
  simp only [step] at moved
  split at moved
  · rename_i found
    exact ⟨by simp [stageOf, found], (Option.some.inj moved).symm⟩
  · cases moved

theorem step_finish (moved : step limit state (.finish promise) = some next) :
    stageOf state.jobs promise = some .settled ∧ next = finish state promise := by
  simp only [step] at moved
  split at moved
  · rename_i found
    exact ⟨by simp [stageOf, found], (Option.some.inj moved).symm⟩
  · cases moved

theorem good_step (good : Good limit state) (moved : step limit state move = some next) :
    Good limit next := by
  cases move with
  | submit key task =>
    obtain rfl := Option.some.inj moved
    exact good.submit
  | clear =>
    obtain rfl := Option.some.inj moved
    exact good.clear
  | start promise =>
    obtain ⟨job, found, starting, rfl⟩ := step_start moved
    exact good.start found starting
  | settle promise outcome =>
    obtain ⟨running, rfl⟩ := step_settle moved
    exact good.settle running
  | finish promise =>
    obtain ⟨settled, rfl⟩ := step_finish moved
    exact good.finish settled

end Runs

section Work

/-- What the runner and its tasks do by themselves; the other moves are calls of the runner. -/
def Move.own : Move Task → Prop
  | .start _ => True
  | .settle _ _ => True
  | .finish _ => True
  | _ => False

/-- How many moves a task still needs. -/
def Stage.left : Stage → Nat
  | .waiting | .starting => 3
  | .running => 2
  | .settled => 1
  | .finished | .dropped => 0

/-- How many moves the tasks still need. -/
def work : List (Job Task) → Nat
  | [] => 0
  | job :: rest => job.stage.left + work rest

variable {limit : Nat} {state next final : State Task} {jobs : List (Job Task)} {promise : Nat}
  {stage old : Stage}

theorem restage_single (found : jobs[promise]? = some job) :
    restage jobs [promise] stage = jobs.set promise { job with stage := stage } := by
  apply List.ext_getElem?
  intro other
  rw [getElem?_restage, List.getElem?_set]
  by_cases same : promise = other
  · subst same
    obtain ⟨within, same⟩ := List.getElem?_eq_some_iff.mp found
    simp [within, same]
  · simp [same, Ne.symm same]

theorem work_set {changed : Job Task} (found : jobs[promise]? = some job) :
    work (jobs.set promise changed) + job.stage.left = work jobs + changed.stage.left := by
  induction jobs generalizing promise with
  | nil => simp at found
  | cons first rest ih =>
    cases promise with
    | zero =>
      obtain rfl := Option.some.inj found
      simp only [List.set_cons_zero, work]
      omega
    | succ promise =>
      have later := ih (by simpa using found)
      simp only [List.set_cons_succ, work]
      omega

theorem work_restage (found : stageOf jobs promise = some old) :
    work (restage jobs [promise] stage) + old.left = work jobs + stage.left := by
  obtain ⟨job, listed, rfl⟩ := Option.map_eq_some_iff.mp found
  rw [restage_single listed]
  exact work_set listed

/-- The tasks need one move less after each of their moves. -/
theorem work_own (good : Good limit state) (own : move.own)
    (moved : step limit state move = some next) : work next.jobs + 1 ≤ work state.jobs := by
  cases move with
  | submit key task => exact own.elim
  | clear => exact own.elim
  | start promise =>
    obtain ⟨job, found, starting, rfl⟩ := step_start moved
    have stage : stageOf state.jobs promise = some .starting := by
      simp [stageOf, found, starting]
    have less : work (restage state.jobs [promise] .running) + 3 = work state.jobs + 2 :=
      work_restage stage
    simp only [run]
    omega
  | settle promise outcome =>
    obtain ⟨running, rfl⟩ := step_settle moved
    have less : work (restage state.jobs [promise] .settled) + 2 = work state.jobs + 1 :=
      work_restage running
    dsimp only
    omega
  | finish promise =>
    obtain ⟨settled, rfl⟩ := step_finish moved
    have less : work (restage state.jobs [promise] .finished) + 1 = work state.jobs :=
      work_restage settled
    unfold BoundedRunner.finish
    dsimp only
    split
    · dsimp only
      omega
    · -- The task that waits longest is called as well.
      rename_i key entry rest first
      have row : (key, entry) ∈ state.waiting.rows := first ▸ List.mem_cons_self ..
      have waits := (good.queue.waits entry.done).mp
        (List.mem_map_of_mem (List.mem_map_of_mem row))
      have other : entry.done ∉ [promise] := by
        intro same
        obtain rfl := List.mem_singleton.mp same
        rw [at_waits.mp waits] at settled
        cases settled
      have still : stageOf (restage state.jobs [promise] .finished) entry.done =
          some .waiting := by
        rw [stageOf_restage, if_neg other]
        exact at_waits.mp waits
      have called : work (restage (restage state.jobs [promise] .finished) [entry.done] .running) +
          3 = work (restage state.jobs [promise] .finished) + 2 :=
        work_restage still
      simp only [run]
      omega

theorem length_le_work (good : Good limit state) (list : List (Move Task))
    (own : ∀ move ∈ list, move.own)
    (led : Interleaving.moves (step limit) state list = some final) :
    list.length ≤ work state.jobs := by
  induction list generalizing state with
  | nil => exact Nat.zero_le _
  | cons move rest ih =>
    obtain ⟨next, moved, later⟩ := Option.bind_eq_some_iff.mp led
    have less := work_own good (own move (List.mem_cons_self ..)) moved
    have bound := ih (good_step good moved)
      (fun other among => own other (List.mem_cons_of_mem _ among)) later
    rw [List.length_cons]
    omega

theorem exists_own (active : At state.jobs Stage.active promise) :
    ∃ move : Move Task, move.own ∧ (step limit state move).isSome = true := by
  obtain ⟨stage, found, holds⟩ := active.found
  obtain ⟨job, listed, rfl⟩ := Option.map_eq_some_iff.mp found
  obtain ⟨key, task, queued, stage⟩ := job
  cases stage with
  | starting => exact ⟨.start promise, trivial, by simp [step, listed]⟩
  | running => exact ⟨.settle promise .resolved, trivial, by simp [step, listed]⟩
  | settled => exact ⟨.finish promise, trivial, by simp [step, listed]⟩
  | _ => cases holds

end Work

section Theorem

variable {limit : Nat} {state next : State Task} {promise : Nat}

/-- The promises that a move resolves. -/
def Move.resolves (state : State Task) : Move Task → List Nat
  | .finish promise => [promise]
  | .clear => state.waiting.values.map (·.done)
  | _ => []

/-- What a runner promises in a state that it reaches. -/
structure Served (limit : Nat) (state : State Task) : Prop where
  /-- The tasks that have a slot, of which there are at most `limit`. -/
  slots : state.slots.Nodup ∧ state.slots.length = state.active ∧
    ∀ promise, promise ∈ state.slots ↔ At state.jobs Stage.active promise
  bounded : state.active ≤ state.maxActive ∧ state.maxActive ≤ limit
  /-- The tasks that wait, at most one for each key, each under the promise of its key. -/
  waiting : state.waiting.Distinct ∧
    (∀ key, state.waitingPromises.get key = (state.waiting.get key).map (·.done)) ∧
    ∀ promise, promise ∈ state.waiting.values.map (·.done) ↔
      stageOf state.jobs promise = some .waiting
  /-- The tasks that had to wait are started in the order in which their promises were made, and
  before those that still wait. -/
  ordered : (((state.calls.map (·.done)).filter (hadToWait state.jobs)) ++
    state.waiting.values.map (·.done)).Pairwise (· < ·)
  busy : state.waiting.rows ≠ [] → state.active = limit
  called : (state.calls.map (·.done)).Nodup ∧
    (∀ entry ∈ state.calls, ∃ key queued,
      madeFor state.jobs entry.done = some (key, entry.task, queued)) ∧
    ∀ promise, promise ∈ state.calls.map (·.done) ↔ At state.jobs Stage.started promise
  /-- A call of `submit` returned the promise of a task of its key that had not been started. -/
  submitted : ∀ submission ∈ state.submissions,
    (∃ task queued, madeFor state.jobs submission.promise = some (submission.key, task, queued)) ∧
    submission.promise ∉ (state.calls.take submission.calls).map (·.done) ∧
    submission.promise ∉ state.resolved.take submission.resolved
  /-- A promise is resolved once: its task has settled, or was dropped. -/
  resolved : state.resolved.Nodup ∧ ∀ promise, promise ∈ state.resolved ↔
    stageOf state.jobs promise = some .finished ∨ stageOf state.jobs promise = some .dropped
  /-- A promise is resolved by the callback of its settled task, or by `clear`. -/
  resolves : ∀ move next, step limit state move = some next →
    next.resolved = state.resolved ++ move.resolves state
  drops : ∀ move next, step limit state move = some next → ∀ promise,
    stageOf next.jobs promise = some .dropped → stageOf state.jobs promise = some .dropped ∨
      move = .clear ∧ stageOf state.jobs promise = some .waiting
  /-- While a task has a slot the runner goes on, for as many moves as the tasks need at most. -/
  goesOn : ∀ promise, At state.jobs Stage.active promise →
    ∃ move : Move Task, move.own ∧ (step limit state move).isSome = true
  ends : ∀ list final, (∀ move ∈ list, Move.own move) →
    Interleaving.moves (step limit) state list = some final → list.length ≤ work state.jobs
  /-- When every task has settled, nothing is active and nothing waits. Each call of `submit` was
  followed by the start of a task of its key, unless it was dropped, and its promise is
  resolved. -/
  idle : (∀ promise, ¬ At state.jobs Stage.active promise) →
    state.size = 0 ∧ state.waitingPromises.rows = [] ∧ ∀ submission ∈ state.submissions,
      submission.promise ∈ state.resolved ∧
      (stageOf state.jobs submission.promise = some .dropped ∨
        submission.promise ∈ (state.calls.drop submission.calls).map (·.done))

theorem step_resolved (moved : step limit state move = some next) :
    next.resolved = state.resolved ++ move.resolves state := by
  cases move with
  | submit key task =>
    obtain rfl := Option.some.inj moved
    unfold submit
    dsimp only
    -- None of the three ways in which `submit` returns resolves a promise.
    split
    · simp [State.returning, Move.resolves]
    · split <;> simp [State.returning, Move.resolves]
  | clear =>
    obtain rfl := Option.some.inj moved
    rfl
  | start promise =>
    obtain ⟨job, -, -, rfl⟩ := step_start moved
    simp [run, Move.resolves]
  | settle promise outcome =>
    obtain ⟨-, rfl⟩ := step_settle moved
    simp [Move.resolves]
  | finish promise =>
    obtain ⟨-, rfl⟩ := step_finish moved
    unfold finish
    dsimp only
    split <;> rfl

/-- What a move drops. -/
theorem step_dropped (good : Good limit state) (moved : step limit state move = some next)
    (dropped : stageOf next.jobs promise = some .dropped) :
    stageOf state.jobs promise = some .dropped ∨
      move = .clear ∧ stageOf state.jobs promise = some .waiting := by
  cases move with
  | submit key task =>
    left
    obtain rfl := Option.some.inj moved
    -- A new promise is not dropped, and no other task changes its stage.
    have appended : ∀ {job : Job Task}, job.stage ≠ .dropped →
        stageOf (state.jobs ++ [job]) promise = some .dropped →
        stageOf state.jobs promise = some .dropped := by
      intro job other found
      rw [stageOf_append] at found
      split at found
      · exact absurd (Option.some.inj found) other
      · exact found
    unfold submit at dropped
    dsimp only at dropped
    split at dropped
    · exact appended (by simp) dropped
    · split at dropped
      · exact dropped
      · exact appended (by simp) dropped
  | clear =>
    obtain rfl := Option.some.inj moved
    simp only [clear] at dropped
    rw [stageOf_restage] at dropped
    split at dropped
    · rename_i listed
      right
      exact ⟨rfl, at_waits.mp ((good.queue.waits promise).mp listed)⟩
    · left
      exact dropped
  | start other =>
    obtain ⟨job, -, -, rfl⟩ := step_start moved
    left
    exact stageOf_of_restage (by decide) dropped
  | settle other outcome =>
    obtain ⟨-, rfl⟩ := step_settle moved
    left
    exact stageOf_of_restage (by decide) dropped
  | finish other =>
    obtain ⟨-, rfl⟩ := step_finish moved
    left
    unfold finish at dropped
    dsimp only at dropped
    split at dropped
    · exact stageOf_of_restage (by decide) dropped
    · have before := stageOf_of_restage (by decide) dropped
      exact stageOf_of_restage (by decide) before

/-- Once no task has a slot, none waits, and each call of `submit` has been answered. -/
theorem Good.idle (good : Good limit state) (positive : 0 < limit)
    (none : ∀ promise, ¬ At state.jobs Stage.active promise) :
    state.size = 0 ∧ state.waitingPromises.rows = [] ∧ ∀ submission ∈ state.submissions,
      submission.promise ∈ state.resolved ∧
      (stageOf state.jobs submission.promise = some .dropped ∨
        submission.promise ∈ (state.calls.drop submission.calls).map (·.done)) := by
  have free : state.slots = [] := by
    apply List.eq_nil_iff_forall_not_mem.mpr
    intro promise listed
    exact none promise ((good.slots.held promise).mp listed)
  have inactive : state.active = 0 := by
    rw [good.slots.count, free, List.length_nil]
  have alone : state.waiting.rows = [] := by
    by_contra some
    have busy := good.slots.busy some
    omega
  refine ⟨?_, ?_, ?_⟩
  · rw [State.size, inactive, alone, List.length_nil]
  · rw [good.queue.same, alone, List.map_nil]
  · intro submission listed
    obtain ⟨task, queued, made⟩ := good.records.submitted submission listed
    obtain ⟨-, uncalled, -, -⟩ := good.records.apart submission listed
    obtain ⟨job, found, -⟩ := Option.map_eq_some_iff.mp made
    have stage : stageOf state.jobs submission.promise = some job.stage := by
      simp [stageOf, found]
    have idle := none submission.promise
    have unqueued : ¬ At state.jobs Stage.waits submission.promise := by
      rw [← good.queue.waits]
      simp [Table.values, alone]
    rw [at_iff stage] at idle unqueued
    rw [good.records.answered, at_iff stage, stage]
    -- The task has neither a slot nor waits for one, so that it is over.
    cases reached : job.stage with
    | dropped => exact ⟨rfl, .inl rfl⟩
    | finished =>
      refine ⟨rfl, .inr ?_⟩
      have called : submission.promise ∈ state.calls.map (·.done) := by
        rw [good.records.started, at_iff stage, reached]
        rfl
      rw [← List.take_append_drop submission.calls state.calls, List.map_append] at called
      exact (List.mem_append.mp called).resolve_left uncalled
    | waiting =>
      rw [reached] at unqueued
      exact absurd rfl unqueued
    | starting =>
      rw [reached] at idle
      exact absurd rfl idle
    | running =>
      rw [reached] at idle
      exact absurd rfl idle
    | settled =>
      rw [reached] at idle
      exact absurd rfl idle

/-- A bounded runner loses no submitted task: in every state that calls, tasks and callbacks lead
to, in any order, at most `limit` tasks have a slot, the others wait in arrival order under one
promise for each key, and each call is answered by a task that is started after it. -/
theorem submitted_work_served (positive : 0 < limit)
    (reached : Runs (step limit) (fun _ _ => True) ({} : State Task) state) :
    Served limit state := by
  have good : Good limit state := by
    apply Runs.invariant good_start ?_ reached
    intro state move next good _ moved
    exact good_step good moved
  constructor
  · exact ⟨good.slots.once, good.slots.count.symm, good.slots.held⟩
  · exact ⟨good.slots.peaked, good.slots.fits⟩
  · refine ⟨good.queue.distinct, good.queue.get, ?_⟩
    intro promise
    rw [good.queue.waits, at_waits]
  · exact good.queue.ordered
  · exact good.slots.busy
  · exact ⟨good.records.calledOnce, good.records.called, good.records.started⟩
  · intro submission listed
    obtain ⟨-, uncalled, -, unresolved⟩ := good.records.apart submission listed
    exact ⟨good.records.submitted submission listed, uncalled, unresolved⟩
  · refine ⟨good.records.resolvedOnce, ?_⟩
    intro promise
    rw [good.records.answered, at_resolved]
  · intro move next moved
    exact step_resolved moved
  · intro move next moved promise dropped
    exact step_dropped good moved dropped
  · intro promise active
    exact exists_own active
  · intro list final own led
    exact length_le_work good list own led
  · exact good.idle positive

/-- With one slot, two calls for one key share the task that waits, and it gets the slot. -/
theorem burst_served : ∃ state, Interleaving.moves (step 1) ({} : State Nat)
    [.submit "a" 10, .start 0, .submit "b" 20, .submit "b" 30, .settle 0 .thrown, .finish 0] =
      some state ∧ state.calls = [⟨10, 0⟩, ⟨20, 1⟩] ∧ state.size = 1 ∧ Served 1 state := by
  refine ⟨_, rfl, rfl, rfl, ?_⟩
  apply submitted_work_served (by decide)
  exact Runs.of_moves
    [.submit "a" 10, .start 0, .submit "b" 20, .submit "b" 30, .settle 0 .thrown, .finish 0]
    .start rfl

end Theorem

end Durable.BoundedRunner
