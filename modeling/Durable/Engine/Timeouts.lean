import Durable.Retention.Sweep

/-! The sweep that cancels the runs which have outlived their workflow's execution timeout. -/

namespace Durable.Timeouts

open Retention

/-- What the sweep reads of a registered workflow. -/
structure RegisteredWorkflow where
  name : String
  version : String
  executionTimeoutMs : Option Int := none
deriving DecidableEq

/-- The workflows an engine has registered. -/
structure Registrations where
  workflows : List (String × RegisteredWorkflow) := []
  /-- The latest version of each workflow, in the order the names were first registered. -/
  latest : List RegisteredWorkflow := []
deriving DecidableEq

/-- `versionKey`: the key of a version. -/
def versionKey (name version : String) : String := name ++ "@" ++ version

namespace Registrations

/-- The registration of a version. -/
def find (registrations : Registrations) (name version : String) : Option RegisteredWorkflow :=
  (registrations.workflows.find? (·.1 = versionKey name version)).map (·.2)

/-- Register a version. `isNewerVersion` is the order on versions. -/
def register (isNewerVersion : String → String → Bool) (registrations : Registrations)
    (registered : RegisteredWorkflow) : Registrations :=
  let key := versionKey registered.name registered.version
  { workflows := (key, registered) :: registrations.workflows.filter (·.1 ≠ key)
    latest :=
      match registrations.latest.find? (·.name = registered.name) with
      | none => registrations.latest ++ [registered]
      | some current =>
        if isNewerVersion registered.version current.version then
          registrations.latest.map fun other =>
            if other.name = registered.name then registered else other
        else registrations.latest }

/-- What an engine has registered after some registrations. -/
def ofList (isNewerVersion : String → String → Bool) (list : List RegisteredWorkflow) :
    Registrations :=
  list.foldl (register isNewerVersion) {}

end Registrations

/-- What a sweep finds outside the engine while it goes. -/
structure TimeoutWorld where
  workflowVersion : RunId → String
  rows : String → List RetainedRun
  /-- Whether a run is still running or suspended where it is to be cancelled. -/
  updateRunIf : RunId → Bool := fun _ => true
  /-- Whether the engine is draining before a workflow, or before a run of it. -/
  draining : String → Option RunId → Bool := fun _ _ => false

section Sweeping

variable (registrations : Registrations) («namespace» : Option String) (world : TimeoutWorld)
  (now : Int)

/-- The query for the runs of a workflow that are older than its latest version's timeout. -/
def inflightQuery (reg : RegisteredWorkflow) (boundMs : Int) : Retention.RunQuery :=
  { workflow := some reg.name
    statuses := some [.running, .suspended]
    namespace_ := «namespace»
    createdBefore := some (now - boundMs)
    size := some 200 }

/-- The timeout a run is measured by: its own version's, or else the latest version's. -/
def timeoutMs (reg : RegisteredWorkflow) (run : RetainedRun) : Option Int :=
  ((registrations.find run.workflow (world.workflowVersion run.id)).bind (·.executionTimeoutMs)).or
    reg.executionTimeoutMs

/-- Whether a listed run is timed out. -/
def timesOut (reg : RegisteredWorkflow) (run : RetainedRun) : Bool :=
  match timeoutMs registrations world reg run with
  | none => false
  | some timeoutMs => run.createdAt ≤ now - timeoutMs && world.updateRunIf run.id

/-- The runs of a page that are timed out, and whether the sweep ends there. -/
def sweepRuns (reg : RegisteredWorkflow) : List RetainedRun → List RetainedRun × Bool
  | [] => ([], false)
  | run :: rest =>
    if world.draining reg.name (some run.id) then ([], true)
    else
      let (timedOut, ended) := sweepRuns reg rest
      (if timesOut registrations world now reg run then run :: timedOut else timedOut, ended)

/-- The runs that are timed out over the latest versions of some workflows. -/
def sweepLatest : List RegisteredWorkflow → List RetainedRun
  | [] => []
  | reg :: rest =>
    if world.draining reg.name none then []
    else
      match reg.executionTimeoutMs with
      | none => sweepLatest rest
      | some boundMs =>
        let inflight := listRuns (inflightQuery «namespace» now reg boundMs) (world.rows reg.name)
        let (timedOut, ended) := sweepRuns registrations world now reg inflight
        if ended then timedOut else timedOut ++ sweepLatest rest

/-- `sweepTimeouts`: the runs a sweep times out. -/
def sweepTimeouts : List RetainedRun :=
  sweepLatest registrations «namespace» world now registrations.latest

end Sweeping

end Durable.Timeouts
