import Mathlib.Data.List.Sort
import Durable.Store.Store

/-! The admission of singleton runs: tags that say who holds a slot and who waits for one. -/

namespace Durable

open Interleaving (Table)

/-- A run with the time it was created at. -/
structure SingletonRun extends WorkflowRun where
  createdAt : Nat
deriving Repr, DecidableEq

/-- The tag of a run that holds a slot. -/
def singletonAdmittedTag : String := "durable:singleton:admitted"

/-- The tag of a run whose admission is decided by tags. -/
def singletonTrackedTag : String := "durable:singleton:tracked"

/-- The statuses in which a run holds a slot or waits for one. -/
def singletonActiveStatuses : List RunStatus := [.pending, .running, .suspended, .blocked]

/-- The statuses an older replica's scan ranks. -/
def legacyScanStatuses : List RunStatus := [.running, .suspended]

/-- A singleton: the runs of a workflow that share a key, and how many of them may run at once. -/
structure Singleton where
  workflow : String
  key : String
  limit : Nat
deriving Repr, DecidableEq

/-- The tag the runs of a singleton carry. -/
def Singleton.tag (single : Singleton) : String := "singleton:" ++ single.key

namespace SingletonRun

variable (run : SingletonRun)

/-- The run has been admitted. -/
def admitted : Bool := run.tags.contains singletonAdmittedTag

/-- The run's admission is decided by tags. -/
def tracked : Bool := run.tags.contains singletonTrackedTag

/-- An older replica's scan ranks the run. -/
def scanned : Bool := legacyScanStatuses.contains run.status

end SingletonRun

/-- The tags without the engine's singleton markers. -/
def withoutSingletonMarkers (tags : List String) : List String :=
  tags.filter fun tag => !singletonReservedTags.contains tag

/-- The tags of a run whose admission is decided by tags. -/
def withSingletonTracked (tags : List String) : List String :=
  if tags.contains singletonAdmittedTag || tags.contains singletonTrackedTag then tags
  else tags ++ [singletonTrackedTag]

/-- The tags without the singleton markers, if there are any. -/
def withoutAdmission (tags : List String) : Option (List String) :=
  if tags.any fun tag => singletonReservedTags.contains tag then
    some (withoutSingletonMarkers tags)
  else none

section Decision

-- The comparison of two ids, as the runtime's collation has it.
variable (localeCompare : String → String → Ordering)

/-- The order in which runs wait: the time of their creation, then their ids. -/
def byCreation (one other : SingletonRun) : Ordering :=
  (compare one.createdAt other.createdAt).then (localeCompare one.id other.id)

/-- Sort runs by their creation. -/
def sortedByCreation (runs : List SingletonRun) : List SingletonRun :=
  runs.insertionSort fun one other => (byCreation localeCompare one other).isLE

/-- The first so many of the runs an older replica's scan ranks, with every admitted run. -/
def scanWindow (active : List SingletonRun) (limit : Nat) : List String :=
  ((sortedByCreation localeCompare (active.filter fun run => run.scanned || run.admitted)).take
    limit).map (·.id)

/-- The runs other than a candidate that may hold a slot without having the tag for it. -/
def legacySingletonHolders (active : List SingletonRun) (runId : String) (limit : Nat) :
    List SingletonRun :=
  let window := scanWindow localeCompare active limit
  (sortedByCreation localeCompare (active.filter (·.scanned))).filter fun run =>
    run.id != runId && !run.admitted && (!run.tracked || window.contains run.id)

/-- The active runs of a singleton. -/
def Singleton.active (single : Singleton) (runs : List SingletonRun) : List SingletonRun :=
  runs.filter fun run => run.workflow == single.workflow &&
    singletonActiveStatuses.contains run.status && run.tags.contains single.tag

/--
`singletonAdmissionTags`: the candidate's tags once it is admitted, or nothing if it has to wait.

Admitted runs keep their slots, and the slots they leave free go to those that wait the longest.
-/
def singletonAdmissionTags (single : Singleton) (runs : List SingletonRun) (runId : String) :
    Except String (Option (List String)) :=
  if single.limit < 1 then .error "singleton limit must be a positive integer"
  else
    let active := single.active runs
    match active.find? (·.id == runId) with
    | none => .ok none
    | some candidate =>
      if candidate.admitted then .ok (some candidate.tags)
      else
        let legacy := (legacySingletonHolders localeCompare active runId single.limit).map (·.id)
        let holders := (active.filter (·.admitted)).length + legacy.dedup.length
        let free := single.limit - holders
        if free = 0 then .ok none
        else
          let waiters := sortedByCreation localeCompare
            (active.filter fun run => !run.admitted && !legacy.contains run.id)
          if (waiters.take free).any (·.id == runId) then
            .ok (some (candidate.tags.filter (· != singletonTrackedTag) ++ [singletonAdmittedTag]))
          else .ok none

/-- `singletonAdmissionDenialPatch`: what parks a candidate on its timer, if it is still active. -/
def singletonAdmissionDenialPatch (single : Singleton) (runs : List SingletonRun) (runId : String)
    (retryWakeAt : Option Nat) : Option RunPatch :=
  match retryWakeAt, (single.active runs).find? (·.id == runId) with
  | some wakeAt, some candidate =>
    some { status := some .suspended, wakeAt := some (some wakeAt)
           tags := some (withSingletonTracked candidate.tags) }
  | _, _ => none

/-- The row a patch makes of a stored one. -/
def SingletonRun.patch (run : SingletonRun) (patch : RunPatch) : SingletonRun :=
  { run with toWorkflowRun := run.toWorkflowRun.patched patch }

/-- The runs of a store. -/
abbrev SingletonStore := Table String SingletonRun

/-- `tryAdmitSingleton`: claim a slot for a run, or park it; whether it holds a slot. -/
def tryAdmitSingleton (store : SingletonStore) (single : Singleton) (runId : String)
    (retryWakeAt : Option Nat) : Except String (SingletonStore × Bool) := do
  let runs := store.values
  match ← singletonAdmissionTags localeCompare single runs runId, store.get runId with
  | some tags, some run => return (store.set runId (run.patch { tags := some tags }), true)
  | _, run =>
    match singletonAdmissionDenialPatch single runs runId retryWakeAt, run with
    | some parked, some run => return (store.set runId (run.patch parked), false)
    | _, _ => return (store, false)

end Decision

end Durable
