import Durable.Interleaving.Runs
import Durable.Interleaving.Table

/-! Keyed tasks that run a limited number at a time, while the others wait in arrival order. -/

namespace Durable.BoundedRunner

open Interleaving (Table)

variable {Task : Type}

/-- A task that waits for a slot, and the promise that `done` resolves. -/
structure Entry (Task : Type) where
  task : Task
  done : Nat
deriving Repr, DecidableEq

/-- How far the task of a promise is. -/
inductive Stage where
  | waiting
  | starting
  | running
  /-- It has settled, and the callback that gives its slot away has not run yet. -/
  | settled
  | finished
  | dropped
deriving Repr, DecidableEq

/-- Whether a task waits for a slot. -/
def Stage.waits : Stage → Bool
  | .waiting => true
  | _ => false

/-- Whether a task has a slot, and waits for its microtask. -/
def Stage.begins : Stage → Bool
  | .starting => true
  | _ => false

/-- Whether a task has a slot. -/
def Stage.active : Stage → Bool
  | .starting | .running | .settled => true
  | .waiting | .finished | .dropped => false

/-- Whether a task has been started. -/
def Stage.started : Stage → Bool
  | .running | .settled | .finished => true
  | .waiting | .starting | .dropped => false

/-- Whether the promise of a task is resolved. -/
def Stage.resolved : Stage → Bool
  | .finished | .dropped => true
  | .waiting | .starting | .running | .settled => false

/-- What a promise was made for. -/
structure Job (Task : Type) where
  key : String
  task : Task
  queued : Bool
  stage : Stage
deriving Repr, DecidableEq

/-- How a task settles. -/
inductive Outcome where
  | resolved | rejected
  | thrown
deriving Repr, DecidableEq

/-- A call of `submit`: its key, the promise that it returned, and how many tasks had been started
and how many promises resolved before. -/
structure Submission where
  key : String
  promise : Nat
  calls : Nat
  resolved : Nat
deriving Repr, DecidableEq

/-- A runner, and the promises and tasks that it was used for. -/
structure State (Task : Type) where
  active : Nat := 0
  peak : Nat := 0
  waiting : Table String (Entry Task) := .empty
  waitingPromises : Table String Nat := .empty
  jobs : List (Job Task) := []
  slots : List Nat := []
  /-- The tasks that were started, in that order, each with its promise. -/
  calls : List (Entry Task) := []
  resolved : List Nat := []
  submissions : List Submission := []
deriving Repr, DecidableEq

/-- What happens next. -/
inductive Move (Task : Type) where
  | submit (key : String) (task : Task)
  | clear
  | start (promise : Nat)
  | settle (promise : Nat) (outcome : Outcome)
  | finish (promise : Nat)

section Operations

variable (limit : Nat) (state : State Task)

/-- `size`: the tasks that have a slot and those that wait for one. -/
def State.size : Nat := state.active + state.waiting.rows.length

/-- `maxActive`: the most tasks that ever had a slot at once. -/
def State.maxActive : Nat := state.peak

/-- The tasks of some promises are at another stage. -/
def restage (jobs : List (Job Task)) (promises : List Nat) (stage : Stage) : List (Job Task) :=
  jobs.mapIdx fun promise job => if promise ∈ promises then { job with stage := stage } else job

/-- `submit` returns a promise. -/
def State.returning (key : String) (promise : Nat) : State Task :=
  { state with submissions := state.submissions ++
      [⟨key, promise, state.calls.length, state.resolved.length⟩] }

/-- `submit`: take a free slot, join the waiting task of the key, or wait. -/
def submit (key : String) (task : Task) : State Task :=
  let promise := state.jobs.length
  if state.active < limit then
    { state.returning key promise with
      active := state.active + 1
      peak := max state.peak (state.active + 1)
      slots := state.slots ++ [promise]
      jobs := state.jobs ++ [⟨key, task, false, .starting⟩] }
  else
    match state.waitingPromises.get key with
    | some queued => state.returning key queued
    | none =>
      { state.returning key promise with
        waiting := state.waiting.set key ⟨task, promise⟩
        waitingPromises := state.waitingPromises.set key promise
        jobs := state.jobs ++ [⟨key, task, true, .waiting⟩] }

/-- `clear`: drop every task that waits, and resolve its promise. -/
def clear : State Task :=
  let dropped := state.waiting.values.map (·.done)
  { state with
    waiting := .empty
    waitingPromises := .empty
    resolved := state.resolved ++ dropped
    jobs := restage state.jobs dropped .dropped }

/-- `run`: call a task. -/
def run (entry : Entry Task) : State Task :=
  { state with
    calls := state.calls ++ [entry]
    jobs := restage state.jobs [entry.done] .running }

/-- The callback of a settled task: resolve its promise, and give its slot to the task that waits
longest. -/
def finish (promise : Nat) : State Task :=
  let state := { state with
    resolved := state.resolved ++ [promise]
    slots := state.slots.erase promise
    jobs := restage state.jobs [promise] .finished }
  match state.waiting.rows with
  | [] => { state with active := state.active - 1 }
  | (key, entry) :: _ =>
    run { state with
      waiting := state.waiting.erase key
      waitingPromises := state.waitingPromises.erase key
      slots := state.slots ++ [entry.done] } entry

/-- What a move makes of the state, if it can happen. -/
def step : Move Task → Option (State Task)
  | .submit key task => some (submit limit state key task)
  | .clear => some (clear state)
  | .start promise =>
    match state.jobs[promise]? with
    | some ⟨_, task, _, .starting⟩ => some (run state ⟨task, promise⟩)
    | _ => none
  | .settle promise _ =>
    match state.jobs[promise]? with
    | some ⟨_, _, _, .running⟩ =>
      some { state with jobs := restage state.jobs [promise] .settled }
    | _ => none
  | .finish promise =>
    match state.jobs[promise]? with
    | some ⟨_, _, _, .settled⟩ => some (finish state promise)
    | _ => none

end Operations

end Durable.BoundedRunner
