import Durable.Engine.BoundedRunner
import Mathlib.Data.List.Nodup
import Mathlib.Tactic.ByContra

/-! The tasks of a bounded runner: who has a slot, who waits and in which order, which were started
and whose promises are resolved, under each change of the runner. -/

namespace Durable.BoundedRunner

open Interleaving (Table)

variable {Task : Type}

section Jobs

variable {jobs : List (Job Task)} {promises : List Nat} {promise other : Nat} {stage : Stage}
  {job : Job Task} {among : Stage → Bool}

/-- How far the task of a promise is, if there is one. -/
def stageOf (jobs : List (Job Task)) (promise : Nat) : Option Stage :=
  jobs[promise]?.map (·.stage)

/-- What a promise was made for: the key, the task, and whether the task had to wait. -/
def madeFor (jobs : List (Job Task)) (promise : Nat) : Option (String × Task × Bool) :=
  jobs[promise]?.map fun job => (job.key, job.task, job.queued)

/-- The task of a promise is at some stage. -/
def At (jobs : List (Job Task)) (among : Stage → Bool) (promise : Nat) : Prop :=
  (stageOf jobs promise).any among = true

/-- Whether the task of a promise had to wait. -/
def hadToWait (jobs : List (Job Task)) (promise : Nat) : Bool :=
  (madeFor jobs promise).any (·.2.2)

theorem getElem?_restage :
    (restage jobs promises stage)[promise]? = jobs[promise]?.map fun job =>
      if promise ∈ promises then { job with stage := stage } else job := by
  unfold restage
  rw [List.getElem?_mapIdx]

/-- No promise is made by a change of stages. -/
@[simp] theorem length_restage : (restage jobs promises stage).length = jobs.length := by
  unfold restage
  exact List.length_mapIdx

/-- A change of stages leaves what the promises were made for. -/
@[simp] theorem madeFor_restage : madeFor (restage jobs promises stage) promise =
    madeFor jobs promise := by
  unfold madeFor
  rw [getElem?_restage, Option.map_map]
  congr 1
  funext job
  simp only [Function.comp]
  split <;> rfl

theorem stageOf_restage :
    stageOf (restage jobs promises stage) promise =
      if promise ∈ promises then (stageOf jobs promise).map fun _ => stage
      else stageOf jobs promise := by
  unfold stageOf
  rw [getElem?_restage, Option.map_map]
  split
  · rw [Option.map_map]
    rfl
  · rfl

theorem at_restage : At (restage jobs promises stage) among promise ↔
    if promise ∈ promises then promise < jobs.length ∧ among stage = true
    else At jobs among promise := by
  unfold At
  rw [stageOf_restage]
  split
  · unfold stageOf
    by_cases within : promise < jobs.length <;> simp [within]
  · rfl

theorem At.of_restage (apart : among stage = false)
    (here : At (restage jobs promises stage) among promise) : At jobs among promise := by
  rw [at_restage] at here
  split at here
  · rw [apart] at here
    exact absurd here.2 Bool.false_ne_true
  · exact here

theorem At.found (here : At jobs among promise) :
    ∃ stage, stageOf jobs promise = some stage ∧ among stage = true := by
  unfold At at here
  cases found : stageOf jobs promise with
  | none => simp [found] at here
  | some stage => exact ⟨stage, rfl, by simpa [found] using here⟩

theorem at_iff (found : stageOf jobs promise = some stage) :
    At jobs among promise ↔ among stage = true := by
  unfold At
  simp [found]

theorem at_resolved : At jobs Stage.resolved promise ↔
    stageOf jobs promise = some .finished ∨ stageOf jobs promise = some .dropped := by
  unfold At
  cases stageOf jobs promise with
  | none => simp
  | some stage => cases stage <;> simp [Stage.resolved]

theorem at_waits : At jobs Stage.waits promise ↔
    stageOf jobs promise = some .waiting := by
  unfold At
  cases stageOf jobs promise with
  | none => simp
  | some stage => cases stage <;> simp [Stage.waits]

theorem stageOf_of_restage {old : Stage} (other : stage ≠ old)
    (found : stageOf (restage jobs promises stage) promise = some old) :
    stageOf jobs promise = some old := by
  rw [stageOf_restage] at found
  split at found
  · obtain ⟨_, _, same⟩ := Option.map_eq_some_iff.mp found
    exact absurd same other
  · exact found

theorem getElem?_append_job : (jobs ++ [job])[promise]? =
    if promise = jobs.length then some job else jobs[promise]? := by
  by_cases last : promise = jobs.length
  · simp [last]
  · rw [if_neg last, List.getElem?_append]
    by_cases within : promise < jobs.length
    · rw [if_pos within]
    · -- Behind the new promise there is none.
      have behind : [job][promise - jobs.length]? = none := by
        apply List.getElem?_eq_none
        rw [List.length_singleton]
        omega
      rw [if_neg within, behind, List.getElem?_eq_none (by omega)]

theorem madeFor_append : madeFor (jobs ++ [job]) promise =
    if promise = jobs.length then some (job.key, job.task, job.queued)
    else madeFor jobs promise := by
  unfold madeFor
  rw [getElem?_append_job]
  split <;> rfl

theorem stageOf_append : stageOf (jobs ++ [job]) promise =
    if promise = jobs.length then some job.stage else stageOf jobs promise := by
  unfold stageOf
  rw [getElem?_append_job]
  split <;> rfl

theorem at_append : At (jobs ++ [job]) among promise ↔
    if promise = jobs.length then among job.stage = true else At jobs among promise := by
  unfold At
  rw [stageOf_append]
  split <;> simp

theorem At.lt (here : At jobs among promise) : promise < jobs.length := by
  by_contra beyond
  unfold At stageOf at here
  rw [List.getElem?_eq_none (by omega)] at here
  exact absurd here (by simp)

/-- A change of stages leaves whether a task had to wait. -/
@[simp] theorem hadToWait_restage :
    hadToWait (restage jobs promises stage) = hadToWait jobs := by
  funext promise
  unfold hadToWait
  rw [madeFor_restage]

theorem lt_of_madeFor {what : String × Task × Bool} (made : madeFor jobs promise = some what) :
    promise < jobs.length := by
  unfold madeFor at made
  obtain ⟨job, listed, -⟩ := Option.map_eq_some_iff.mp made
  exact (List.getElem?_eq_some_iff.mp listed).1

theorem hadToWait_append (earlier : promise < jobs.length) :
    hadToWait (jobs ++ [job]) promise = hadToWait jobs promise := by
  unfold hadToWait
  rw [madeFor_append, if_neg (Nat.ne_of_lt earlier)]

end Jobs

section Records

/-- What is known of the tasks that were started, the promises that were resolved, and the calls of
`submit`. -/
structure Records (jobs : List (Job Task)) (calls : List (Entry Task)) (resolved : List Nat)
    (submissions : List Submission) : Prop where
  called : ∀ entry ∈ calls, ∃ key queued,
    madeFor jobs entry.done = some (key, entry.task, queued)
  calledOnce : (calls.map (·.done)).Nodup
  started : ∀ promise, promise ∈ calls.map (·.done) ↔ At jobs Stage.started promise
  resolvedOnce : resolved.Nodup
  answered : ∀ promise, promise ∈ resolved ↔ At jobs Stage.resolved promise
  submitted : ∀ submission ∈ submissions, ∃ task queued,
    madeFor jobs submission.promise = some (submission.key, task, queued)
  apart : ∀ submission ∈ submissions, submission.calls ≤ calls.length ∧
    submission.promise ∉ (calls.take submission.calls).map (·.done) ∧
    submission.resolved ≤ resolved.length ∧
    submission.promise ∉ resolved.take submission.resolved

variable {jobs : List (Job Task)} {calls : List (Entry Task)} {resolved : List Nat}
  {submissions : List Submission} {promise : Nat} {key : String} {task : Task}

theorem Records.append {queued : Bool} {stage : Stage}
    (records : Records jobs calls resolved submissions) (idle : stage.started = false)
    (unresolved : stage.resolved = false) :
    Records (jobs ++ [⟨key, task, queued, stage⟩]) calls resolved submissions := by
  have kept : ∀ {promise what}, madeFor jobs promise = some what →
      madeFor (jobs ++ [⟨key, task, queued, stage⟩]) promise = some what := by
    intro promise what made
    rw [madeFor_append, if_neg (Nat.ne_of_lt (lt_of_madeFor made))]
    exact made
  -- The new promise is at a stage at which nothing is recorded of it.
  have new : ∀ {among : Stage → Bool} {promise}, among stage = false →
      (At (jobs ++ [⟨key, task, queued, stage⟩]) among promise ↔ At jobs among promise) := by
    intro among promise other
    rw [at_append]
    split
    · rename_i last
      simp only [other, Bool.false_eq_true, false_iff]
      intro here
      exact absurd here.lt (by omega)
    · rfl
  constructor
  · intro entry listed
    obtain ⟨key, queued, made⟩ := records.called entry listed
    exact ⟨key, queued, kept made⟩
  · exact records.calledOnce
  · intro promise
    rw [new idle]
    exact records.started promise
  · exact records.resolvedOnce
  · intro promise
    rw [new unresolved]
    exact records.answered promise
  · intro submission listed
    obtain ⟨task, queued, made⟩ := records.submitted submission listed
    exact ⟨task, queued, kept made⟩
  · exact records.apart

theorem Records.returning {queued : Bool} (records : Records jobs calls resolved submissions)
    (made : madeFor jobs promise = some (key, task, queued))
    (idle : ¬ At jobs Stage.started promise) (unresolved : ¬ At jobs Stage.resolved promise) :
    Records jobs calls resolved
      (submissions ++ [⟨key, promise, calls.length, resolved.length⟩]) := by
  refine { records with submitted := ?_, apart := ?_ }
  · intro submission listed
    rcases List.mem_append.mp listed with before | last
    · exact records.submitted submission before
    · obtain rfl := List.mem_singleton.mp last
      exact ⟨task, queued, made⟩
  · intro submission listed
    rcases List.mem_append.mp listed with before | last
    · exact records.apart submission before
    · obtain rfl := List.mem_singleton.mp last
      simp only [List.take_length, Nat.le_refl, true_and]
      constructor
      · rw [records.started]
        exact idle
      · rw [records.answered]
        exact unresolved

theorem Records.run {queued : Bool} (records : Records jobs calls resolved submissions)
    (made : madeFor jobs promise = some (key, task, queued))
    (idle : ¬ At jobs Stage.started promise) (unresolved : ¬ At jobs Stage.resolved promise) :
    Records (restage jobs [promise] .running) (calls ++ [⟨task, promise⟩]) resolved
      submissions := by
  have within := lt_of_madeFor made
  constructor
  · intro entry listed
    rw [madeFor_restage]
    rcases List.mem_append.mp listed with before | last
    · exact records.called entry before
    · obtain rfl := List.mem_singleton.mp last
      exact ⟨key, queued, made⟩
  · rw [List.map_append, List.nodup_append]
    refine ⟨records.calledOnce, List.nodup_singleton _, ?_⟩
    intro called listed other last same
    obtain rfl := List.mem_singleton.mp last
    subst same
    exact idle ((records.started _).mp listed)
  · intro other
    rw [at_restage, List.map_append, List.mem_append, records.started]
    by_cases same : other = promise
    · subst same
      simp [within, Stage.started]
    · simp [same]
  · exact records.resolvedOnce
  · intro other
    rw [at_restage, records.answered]
    by_cases same : other = promise
    · subst same
      simp [unresolved, Stage.resolved]
    · simp [same]
  · intro submission listed
    rw [madeFor_restage]
    exact records.submitted submission listed
  · intro submission listed
    obtain ⟨counted, uncalled, rest⟩ := records.apart submission listed
    rw [List.take_append_of_le_length counted, List.length_append]
    exact ⟨by omega, uncalled, rest⟩

theorem Records.settle (records : Records jobs calls resolved submissions)
    (started : At jobs Stage.started promise) (unresolved : ¬ At jobs Stage.resolved promise) :
    Records (restage jobs [promise] .settled) calls resolved submissions := by
  refine { records with called := ?_, started := ?_, answered := ?_, submitted := ?_ }
  · intro entry listed
    rw [madeFor_restage]
    exact records.called entry listed
  · intro other
    rw [at_restage, records.started]
    by_cases same : other = promise
    · subst same
      simp [started, started.lt, Stage.started]
    · simp [same]
  · intro other
    rw [at_restage, records.answered]
    by_cases same : other = promise
    · subst same
      simp [unresolved, Stage.resolved]
    · simp [same]
  · intro submission listed
    rw [madeFor_restage]
    exact records.submitted submission listed

theorem Records.resolve {promises : List Nat} {stage : Stage}
    (records : Records jobs calls resolved submissions) (once : promises.Nodup)
    (unresolved : ∀ promise ∈ promises, promise < jobs.length ∧ ¬ At jobs Stage.resolved promise ∧
      (At jobs Stage.started promise ↔ stage.started = true))
    (final : stage.resolved = true) :
    Records (restage jobs promises stage) calls (resolved ++ promises) submissions := by
  constructor
  · intro entry listed
    rw [madeFor_restage]
    exact records.called entry listed
  · exact records.calledOnce
  · intro other
    rw [at_restage, records.started]
    split
    · rename_i among
      obtain ⟨within, -, same⟩ := unresolved other among
      simp only [within, true_and]
      exact same
    · rfl
  · rw [List.nodup_append]
    refine ⟨records.resolvedOnce, once, ?_⟩
    intro before listed other among same
    subst same
    exact (unresolved _ among).2.1 ((records.answered _).mp listed)
  · intro other
    rw [at_restage, List.mem_append, records.answered]
    split
    · rename_i among
      simp [among, final, (unresolved other among).1]
    · rename_i apart
      simp [apart]
  · intro submission listed
    rw [madeFor_restage]
    exact records.submitted submission listed
  · intro submission listed
    obtain ⟨counted, uncalled, before, unresolved⟩ := records.apart submission listed
    rw [List.take_append_of_le_length before, List.length_append]
    exact ⟨counted, uncalled, by omega, unresolved⟩

end Records

section Queue

/-- What is known of the tasks that wait. -/
structure Queue (jobs : List (Job Task)) (calls : List (Entry Task))
    (waiting : Table String (Entry Task)) (waitingPromises : Table String Nat) : Prop where
  distinct : waiting.Distinct
  same : waitingPromises.rows = waiting.rows.map fun row => (row.1, row.2.done)
  waits : ∀ promise, promise ∈ waiting.values.map (·.done) ↔ At jobs Stage.waits promise
  entries : ∀ row ∈ waiting.rows, madeFor jobs row.2.done = some (row.1, row.2.task, true)
  begins : ∀ promise, At jobs Stage.begins promise → hadToWait jobs promise = false
  made : ∀ promise ∈ calls.map (·.done), promise < jobs.length
  ordered : ((calls.map (·.done)).filter (hadToWait jobs) ++
    waiting.values.map (·.done)).Pairwise (· < ·)

variable {jobs : List (Job Task)} {calls : List (Entry Task)}
  {waiting : Table String (Entry Task)} {waitingPromises : Table String Nat} {promise : Nat}
  {key : String} {task : Task}

theorem Queue.get (queue : Queue jobs calls waiting waitingPromises) (key : String) :
    waitingPromises.get key = (waiting.get key).map (·.done) := by
  unfold Table.get
  rw [queue.same]
  exact Table.getRow_map (·.done) key waiting.rows

theorem Queue.filter_append (queue : Queue jobs calls waiting waitingPromises) (job : Job Task) :
    (calls.map (·.done)).filter (hadToWait (jobs ++ [job])) =
      (calls.map (·.done)).filter (hadToWait jobs) := by
  apply List.filter_congr
  intro promise listed
  exact hadToWait_append (queue.made promise listed)

theorem Queue.lt_of_waits (queue : Queue jobs calls waiting waitingPromises)
    (listed : promise ∈ waiting.values.map (·.done)) : promise < jobs.length :=
  ((queue.waits promise).mp listed).lt

theorem Queue.append (queue : Queue jobs calls waiting waitingPromises) :
    Queue (jobs ++ [⟨key, task, false, .starting⟩]) calls waiting waitingPromises := by
  constructor
  · exact queue.distinct
  · exact queue.same
  · intro promise
    rw [at_append, queue.waits]
    split
    · rename_i last
      simp only [Stage.waits, Bool.false_eq_true, iff_false]
      intro here
      exact absurd here.lt (by omega)
    · rfl
  · intro row listed
    have made := queue.entries row listed
    rw [madeFor_append, if_neg (Nat.ne_of_lt (lt_of_madeFor made))]
    exact made
  · intro promise here
    by_cases last : promise = jobs.length
    · simp [hadToWait, madeFor_append, last]
    · rw [at_append, if_neg last] at here
      rw [hadToWait_append here.lt]
      exact queue.begins promise here
  · intro promise listed
    have earlier := queue.made promise listed
    rw [List.length_append, List.length_singleton]
    omega
  · rw [queue.filter_append]
    exact queue.ordered

/-- A task joins those that wait. -/
theorem Queue.join (queue : Queue jobs calls waiting waitingPromises)
    (absent : waitingPromises.get key = none) :
    Queue (jobs ++ [⟨key, task, true, .waiting⟩]) calls
      (waiting.set key ⟨task, jobs.length⟩) (waitingPromises.set key jobs.length) := by
  have free : waiting.get key = none := by
    rw [queue.get, Option.map_eq_none_iff] at absent
    exact absent
  have rows := waiting.rows_set_new ⟨task, jobs.length⟩ free
  have values := waiting.values_set_new ⟨task, jobs.length⟩ free
  constructor
  · exact queue.distinct.set key _
  · rw [rows, waitingPromises.rows_set_new _ absent, queue.same, List.map_append]
    rfl
  · intro promise
    rw [values, List.map_append, List.mem_append, queue.waits, at_append]
    split
    · rename_i last
      simp [last, Stage.waits]
    · rename_i earlier
      simp [earlier]
  · intro row listed
    rw [rows] at listed
    rcases List.mem_append.mp listed with before | last
    · have made := queue.entries row before
      rw [madeFor_append, if_neg (Nat.ne_of_lt (lt_of_madeFor made))]
      exact made
    · obtain rfl := List.mem_singleton.mp last
      rw [madeFor_append, if_pos rfl]
  · intro promise here
    by_cases last : promise = jobs.length
    · -- The new task waits, so that no microtask starts it.
      rw [at_append, if_pos last] at here
      exact absurd here Bool.false_ne_true
    · rw [at_append, if_neg last] at here
      rw [hadToWait_append here.lt]
      exact queue.begins promise here
  · intro promise listed
    have earlier := queue.made promise listed
    rw [List.length_append, List.length_singleton]
    omega
  · rw [queue.filter_append, values, List.map_append, ← List.append_assoc, List.pairwise_append]
    refine ⟨queue.ordered, List.pairwise_singleton _ _, ?_⟩
    -- Every promise that was made before has a smaller number.
    intro earlier listed last among
    obtain rfl := List.mem_singleton.mp among
    rcases List.mem_append.mp listed with called | waits
    · exact queue.made earlier (List.mem_of_mem_filter called)
    · exact queue.lt_of_waits waits

theorem Queue.clear (queue : Queue jobs calls waiting waitingPromises) :
    Queue (restage jobs (waiting.values.map (·.done)) .dropped) calls .empty .empty := by
  constructor
  · exact Table.distinct_empty
  · rfl
  · intro promise
    rw [at_restage]
    split
    · simp [Table.empty, Table.values, Stage.waits]
    · rename_i apart
      rw [← queue.waits]
      simp only [apart, iff_false]
      exact List.not_mem_nil
  · intro row listed
    cases listed
  · intro promise here
    rw [hadToWait_restage]
    exact queue.begins promise (here.of_restage rfl)
  · intro promise listed
    rw [length_restage]
    exact queue.made promise listed
  · rw [hadToWait_restage]
    simpa [Table.empty, Table.values] using (List.pairwise_append.mp queue.ordered).1

theorem Queue.restage {stage : Stage} (queue : Queue jobs calls waiting waitingPromises)
    (apart : ¬ At jobs Stage.waits promise) (left : stage.waits = false)
    (begun : stage.begins = false) :
    Queue (restage jobs [promise] stage) calls waiting waitingPromises := by
  constructor
  · exact queue.distinct
  · exact queue.same
  · intro other
    rw [at_restage, queue.waits]
    by_cases same : other = promise
    · subst same
      simp [apart, left]
    · simp [same]
  · intro row listed
    rw [madeFor_restage]
    exact queue.entries row listed
  · intro other here
    rw [hadToWait_restage]
    exact queue.begins other (here.of_restage begun)
  · intro other listed
    rw [length_restage]
    exact queue.made other listed
  · rw [hadToWait_restage]
    exact queue.ordered

theorem Queue.call (queue : Queue jobs calls waiting waitingPromises)
    (within : promise < jobs.length) (direct : hadToWait jobs promise = false) :
    Queue jobs (calls ++ [⟨task, promise⟩]) waiting waitingPromises := by
  refine { queue with made := ?_, ordered := ?_ }
  · intro other listed
    rw [List.map_append] at listed
    rcases List.mem_append.mp listed with before | last
    · exact queue.made other before
    · obtain rfl := List.mem_singleton.mp last
      exact within
  · rw [List.map_append, List.filter_append]
    simpa [direct] using queue.ordered

/-- The task that waits longest is called. -/
theorem Queue.handOver {entry : Entry Task} {rest : List (String × Entry Task)}
    (queue : Queue jobs calls waiting waitingPromises)
    (first : waiting.rows = (key, entry) :: rest) :
    Queue (BoundedRunner.restage jobs [entry.done] .running) (calls ++ [entry])
      (waiting.erase key) (waitingPromises.erase key) := by
  have rows := queue.distinct.rows_erase_head first
  have promises : waitingPromises.Distinct := by
    unfold Table.Distinct
    rw [queue.same, List.map_map]
    exact queue.distinct
  have made := queue.entries (key, entry) (first ▸ List.mem_cons_self ..)
  have listed : waiting.values.map (·.done) = entry.done :: rest.map (·.2.done) := by
    simp [Table.values, first]
  have left : (waiting.erase key).values.map (·.done) = rest.map (·.2.done) := by
    simp [Table.values, rows]
  have ordered := queue.ordered
  rw [listed] at ordered
  constructor
  · exact queue.distinct.erase key
  · have head : waitingPromises.rows =
        (key, entry.done) :: rest.map fun row => (row.1, row.2.done) := by
      rw [queue.same, first]
      rfl
    rw [promises.rows_erase_head head, rows]
  · intro promise
    rw [left, at_restage]
    by_cases same : promise = entry.done
    · -- The promises that wait increase, so that the first one is not among the others.
      subst same
      have fresh : entry.done ∉ rest.map (·.2.done) := by
        intro again
        have later := (List.pairwise_append.mp ordered).2.1
        exact absurd (List.rel_of_pairwise_cons later again) (Nat.lt_irrefl _)
      simp only [fresh, Stage.waits]
      simp
    · rw [if_neg (by simpa using same), ← queue.waits, listed, List.mem_cons]
      simp [same]
  · intro row among
    rw [rows] at among
    rw [madeFor_restage]
    exact queue.entries row (first ▸ List.mem_cons_of_mem _ among)
  · intro promise here
    rw [hadToWait_restage]
    exact queue.begins promise (here.of_restage rfl)
  · intro promise among
    rw [length_restage]
    rw [List.map_append] at among
    rcases List.mem_append.mp among with before | last
    · exact queue.made promise before
    · obtain rfl := List.mem_singleton.mp last
      exact lt_of_madeFor made
  · have waited : hadToWait jobs entry.done = true := by
      unfold hadToWait
      rw [made]
      rfl
    rw [hadToWait_restage, left, List.map_append, List.filter_append]
    simpa [waited] using ordered

end Queue

section Slots

/-- What is known of the tasks that have a slot. -/
structure Slots (limit : Nat) (jobs : List (Job Task)) (active peak : Nat) (slots : List Nat)
    (waiting : Table String (Entry Task)) : Prop where
  count : active = slots.length
  peaked : active ≤ peak
  fits : peak ≤ limit
  busy : waiting.rows ≠ [] → active = limit
  once : slots.Nodup
  held : ∀ promise, promise ∈ slots ↔ At jobs Stage.active promise

variable {limit : Nat} {jobs : List (Job Task)} {active peak : Nat} {slots : List Nat}
  {waiting : Table String (Entry Task)} {promise : Nat} {key : String} {task : Task}

theorem Slots.take (held : Slots limit jobs active peak slots waiting) (free : active < limit) :
    Slots limit (jobs ++ [⟨key, task, false, .starting⟩]) (active + 1) (max peak (active + 1))
      (slots ++ [jobs.length]) waiting := by
  constructor
  · rw [held.count, List.length_append, List.length_singleton]
  · omega
  · have fits := held.fits
    omega
  · intro some
    have busy := held.busy some
    omega
  · rw [List.nodup_append]
    refine ⟨held.once, List.nodup_singleton _, ?_⟩
    intro before listed other last same
    obtain rfl := List.mem_singleton.mp last
    exact absurd ((held.held before).mp listed).lt (by omega)
  · intro promise
    rw [List.mem_append, held.held, at_append, List.mem_singleton]
    split
    · rename_i last
      simp [last, Stage.active]
    · rename_i earlier
      simp [earlier]

theorem Slots.join {joined : Table String (Entry Task)}
    (held : Slots limit jobs active peak slots waiting) (full : ¬ active < limit) :
    Slots limit (jobs ++ [⟨key, task, true, .waiting⟩]) active peak slots joined := by
  refine { held with busy := ?_, held := ?_ }
  · intro _
    have peaked := held.peaked
    have fits := held.fits
    omega
  · intro promise
    rw [held.held, at_append]
    split
    · rename_i last
      simp only [Stage.active, Bool.false_eq_true, iff_false]
      intro here
      exact absurd here.lt (by omega)
    · rfl

theorem Slots.clear {promises : List Nat} (held : Slots limit jobs active peak slots waiting)
    (apart : ∀ promise ∈ promises, ¬ At jobs Stage.active promise) :
    Slots limit (restage jobs promises .dropped) active peak slots .empty := by
  refine { held with busy := ?_, held := ?_ }
  · intro some
    exact absurd rfl some
  · intro promise
    rw [held.held, at_restage]
    split
    · rename_i among
      simp [apart promise among, Stage.active]
    · rfl

theorem Slots.restage {stage : Stage} (held : Slots limit jobs active peak slots waiting)
    (before : At jobs Stage.active promise) (after : stage.active = true) :
    Slots limit (restage jobs [promise] stage) active peak slots waiting := by
  refine { held with held := ?_ }
  intro other
  rw [held.held, at_restage]
  by_cases same : other = promise
  · subst same
    simp [before, before.lt, after]
  · simp [same]

theorem Slots.erased (held : Slots limit jobs active peak slots waiting) (other : Nat) :
    other ∈ slots.erase promise ↔
      At (BoundedRunner.restage jobs [promise] .finished) Stage.active other := by
  rw [held.once.mem_erase_iff, held.held, at_restage]
  by_cases same : other = promise
  · simp [same, Stage.active]
  · simp [same]

theorem Slots.free (held : Slots limit jobs active peak slots waiting)
    (before : At jobs Stage.active promise) (none : waiting.rows = []) :
    Slots limit (BoundedRunner.restage jobs [promise] .finished) (active - 1) peak
      (slots.erase promise) waiting := by
  have listed := (held.held promise).mpr before
  have count := held.count
  have peaked := held.peaked
  constructor
  · rw [List.length_erase_of_mem listed, count]
  · omega
  · exact held.fits
  · intro some
    exact absurd none some
  · exact held.once.erase promise
  · exact held.erased

theorem Slots.handOver {next : Nat} {left : Table String (Entry Task)}
    (held : Slots limit jobs active peak slots waiting)
    (before : At jobs Stage.active promise) (waits : At jobs Stage.waits next)
    (some : waiting.rows ≠ []) :
    Slots limit
      (BoundedRunner.restage (BoundedRunner.restage jobs [promise] .finished) [next] .running)
      active peak (slots.erase promise ++ [next]) left := by
  have listed := (held.held promise).mpr before
  have busy := held.busy some
  have idle : ¬ At jobs Stage.active next := by
    rw [at_iff (at_waits.mp waits)]
    decide
  constructor
  · have positive := List.length_pos_of_mem listed
    have count := held.count
    rw [List.length_append, List.length_erase_of_mem listed, List.length_singleton]
    omega
  · exact held.peaked
  · exact held.fits
  · intro _
    exact busy
  · rw [List.nodup_append]
    refine ⟨held.once.erase promise, List.nodup_singleton _, ?_⟩
    intro other among last single same
    obtain rfl := List.mem_singleton.mp single
    subst same
    exact idle ((held.held _).mp (List.mem_of_mem_erase among))
  · intro other
    have erased : other ∈ slots.erase promise ↔
        At (BoundedRunner.restage jobs [promise] .finished) Stage.active other :=
      held.erased other
    have within : next < (BoundedRunner.restage jobs [promise] .finished).length := by
      rw [length_restage]
      exact waits.lt
    generalize BoundedRunner.restage jobs [promise] .finished = middle at erased within ⊢
    rw [List.mem_append, erased, at_restage]
    by_cases same : other = next
    · subst same
      simp [within, Stage.active]
    · simp [same]

end Slots

end Durable.BoundedRunner
