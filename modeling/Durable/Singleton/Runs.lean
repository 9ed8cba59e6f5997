import Durable.Ctx.Children
import Durable.Singleton.Admission

/-! What the engine does to the runs of a singleton: starts, claims, settlements, and requeues. -/

namespace Durable

open Interleaving (Table)

/-- What begins a run's first execution; a singleton's run is tracked from then on. -/
def startPatch (run : SingletonRun) (singleton : Bool) : RunPatch :=
  let tags := if singleton then withSingletonTracked run.tags else run.tags
  { status := some .running, tags := if tags = run.tags then none else some tags }

/-- Whether a requeue resets a run that has failed. -/
def resurrects (run : SingletonRun) : Bool := run.status == .failed || run.status == .dead

/-- What puts a run back to be executed anew. -/
def requeuePatch (run : SingletonRun) : RunPatch :=
  let kept := if resurrects run then (withoutAdmission run.tags).getD run.tags else run.tags
  let stale := decide (kept ≠ run.tags) || kept.contains childDeliveredTag
  { status := some .pending, error := some none, awaitingDecisionTaskId := some none
    recoveryAttempts := if resurrects run then some 0 else none
    tags := if stale then some (kept.filter (· != childDeliveredTag)) else none }

/-- What retires a failure that was handed to an error handler, before a requeue. -/
def retirePatch (run : SingletonRun) : RunPatch :=
  { tags := some (run.tags.filter fun tag => !"onError:".toList.isPrefixOf tag.toList) }

/-- What may happen to a run; each is one atomic change of its row. -/
inductive SingletonOp where
  /-- A run is created, to be executed at once or at a later time. -/
  | start (run : SingletonRun) (startAt : Option Nat)
  /-- A pending run begins to be executed, on an instance that knows it is a singleton or not. -/
  | markStarted (runId : String) (singleton : Bool)
  | tryAdmitSingleton (single : Singleton) (runId : String) (retryWakeAt : Option Nat)
  /-- A run is suspended, blocked, settled, cancelled, or made pending again. -/
  | updateRunIf (runId : String) (expected : List RunStatus) (patch : RunPatch)
  | requeue (runId : String) (handedOff : Bool)

section Operations

variable (localeCompare : String → String → Ordering)

/-- A new run, without the tags that only the engine and the store may write. -/
def startedRun (run : SingletonRun) (startAt : Option Nat) : SingletonRun :=
  { run with
    status := if startAt.isSome then .suspended else .pending
    wakeAt := startAt
    tags := run.tags.filter fun tag =>
      !singletonReservedTags.contains tag && tag != childDeliveredTag }

/-- What happens to the store. -/
def SingletonOp.apply (store : SingletonStore) : SingletonOp → SingletonStore
  | .start run startAt =>
    match store.get run.id with
    | some _ => store
    | none => store.set run.id (startedRun run startAt)
  | .markStarted runId singleton =>
    match store.get runId with
    | none => store
    | some run =>
      if run.status = .pending then store.set runId (run.patch (startPatch run singleton)) else store
  | .tryAdmitSingleton single runId retryWakeAt =>
    match Durable.tryAdmitSingleton localeCompare store single runId retryWakeAt with
    | .error _ => store
    | .ok (after, _) => after
  | .updateRunIf runId expected patch =>
    match store.get runId with
    | none => store
    | some run => if run.status ∈ expected then store.set runId (run.patch patch) else store
  | .requeue runId handedOff =>
    match store.get runId with
    | none => store
    | some run =>
      let retired := if resurrects run && handedOff then run.patch (retirePatch run) else run
      store.set runId (retired.patch (requeuePatch retired))

/-- A run is one of a singleton's. -/
def Singleton.Has (single : Singleton) (run : SingletonRun) : Prop :=
  run.workflow = single.workflow ∧ single.tag ∈ run.tags

instance (single : Singleton) (run : SingletonRun) : Decidable (single.Has run) :=
  inferInstanceAs (Decidable (_ ∧ _))

/--
A singleton's runs claim their slots under it, with the limit it always has.

A status is written without the tags, or with others when it ends the run.
-/
def Singleton.Fits (single : Singleton) (store : SingletonStore) : SingletonOp → Prop
  | .tryAdmitSingleton other runId _ =>
    ∀ run, store.get runId = some run → single.Has run → other = single
  | .updateRunIf runId _ patch => ∀ run tags, store.get runId = some run →
    patch.tags = some tags → settlesTerminally patch = true ∧ (single.tag ∈ tags ↔ single.tag ∈ run.tags)
  | _ => True

/-- A store that such changes have led to. -/
inductive SingletonReached (single : Singleton) : SingletonStore → Prop
  | empty : SingletonReached single .empty
  | apply {store : SingletonStore} (before : SingletonReached single store) (op : SingletonOp)
      (fits : single.Fits store op) : SingletonReached single (op.apply localeCompare store)

end Operations

section Slots

variable (single : Singleton)

/-- A run of a singleton that has not ended. -/
def Singleton.Active (run : SingletonRun) : Prop :=
  single.Has run ∧ isTerminalStatus run.status = false

instance (run : SingletonRun) : Decidable (single.Active run) :=
  inferInstanceAs (Decidable (_ ∧ _))

/-- A run has one of the singleton's slots. -/
def Singleton.holds (run : SingletonRun) : Bool := decide (single.Active run) && run.admitted

/-- A run waits for one of the singleton's slots. -/
def Singleton.waits (run : SingletonRun) : Bool := decide (single.Active run) && !run.admitted

/-- The runs of a singleton that were admitted and have not ended. -/
def Singleton.admittedRuns (store : SingletonStore) : List SingletonRun :=
  store.values.filter single.holds

/-- The runs of a singleton that wait for a slot. -/
def Singleton.waitingRuns (store : SingletonStore) : List SingletonRun :=
  store.values.filter single.waits

variable (localeCompare : String → String → Ordering)

/-- The runs of a singleton that wait for a slot longer than a run. -/
def Singleton.olderWaiting (store : SingletonStore) (run : SingletonRun) : List SingletonRun :=
  (single.waitingRuns store).filter fun other => byCreation localeCompare other run == .lt

/-- A claim admits a run that was not admitted before. -/
def NewlyAdmits (store : SingletonStore) (runId : String) (retryWakeAt : Option Nat) : Prop :=
  (∃ after, tryAdmitSingleton localeCompare store single runId retryWakeAt = .ok (after, true)) ∧
    ∀ run, store.get runId = some run → run.admitted = false

/-- The runs that have a slot: by the tag, or executed by a replica that wrote none. -/
def Singleton.slotHolders (store : SingletonStore) : List SingletonRun :=
  (single.active store.values).filter fun run => run.admitted || (run.scanned && !run.tracked)

/-- The runs that wait, having been denied a slot before. -/
def Singleton.deniedRuns (store : SingletonStore) : List SingletonRun :=
  (single.active store.values).filter fun run => run.scanned && run.tracked && !run.admitted

/-- The enqueued and the blocked runs that wait no shorter than a run. -/
def Singleton.queuedBefore (store : SingletonStore) (run : SingletonRun) : List SingletonRun :=
  (single.active store.values).filter fun other =>
    !other.scanned && !other.admitted && (byCreation localeCompare other run).isLE

/-- The other denied runs that an older replica's scan would let run. -/
def Singleton.seatedRuns (store : SingletonStore) (run : SingletonRun) : List SingletonRun :=
  (single.deniedRuns store).filter fun other => other.id != run.id &&
    (scanWindow localeCompare (single.active store.values) single.limit).contains other.id

/-- Of the runs that were denied, a run is the one that was created first. -/
def Singleton.OldestDenied (store : SingletonStore) (run : SingletonRun) : Prop :=
  run ∈ single.deniedRuns store ∧ ∀ other ∈ single.deniedRuns store, other.id ≠ run.id →
    byCreation localeCompare run other = .lt

instance (store : SingletonStore) (run : SingletonRun) :
    Decidable (single.OldestDenied localeCompare store run) :=
  inferInstanceAs (Decidable (_ ∧ _))

end Slots

end Durable
