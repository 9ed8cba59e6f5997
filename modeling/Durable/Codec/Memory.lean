import Durable.Codec.Store
import Durable.Store.Store

/-! The runs of the store in memory, as a store that keeps payloads. -/

namespace Durable

open Interleaving

variable {P Q : Payloads PayloadKind}

/-- A namespace as it is stored. -/
def normalizeNamespace (namespace_ : Option String) : String :=
  if namespace_ = some "" then "default" else namespace_.getD "default"

/-- The tags of a run that a patch ends, without its singleton slot. -/
def releasedTags (tags : Option (List String)) (patch : RunRowPatch P) : Option (List String) :=
  if patch.status.any isTerminalStatus then tags.map (List.filter (· ∉ singletonReservedTags))
  else tags

/-- The row a patch makes of a stored one. -/
def RunRow.patched (run : RunRow P) (patch : RunRowPatch P) : RunRow P :=
  { run with
    namespace_ := some (normalizeNamespace run.namespace_)
    status := patch.status.getD run.status
    tags := releasedTags (patch.tags.or run.tags) patch
    wakeAt := patch.wakeAt.getD run.wakeAt
    input := patch.input.getD run.input
    output := patch.output.getD run.output
    error := patch.error.getD run.error }

/-- Patch the row of an id. -/
def patchRow (runId : String) (patch : RunRowPatch P) (runs : List (RunRow P)) :
    List (RunRow P) :=
  runs.map fun run => if run.id == runId then run.patched patch else run

namespace MemoryRuns

/-- Insert a new row. -/
def createRun (run : RunRow P) (runs : List (RunRow P)) :
    Except String Unit × List (RunRow P) :=
  if runs.any (·.id == run.id) then (.error s!"run {run.id} already exists", runs)
  else (.ok (), runs ++ [{ run with namespace_ := some (normalizeNamespace run.namespace_) }])

/-- Patch a row. -/
def updateRun (runId : String) (patch : RunRowPatch P) (runs : List (RunRow P)) :
    Except String Unit × List (RunRow P) :=
  if runs.any (·.id == runId) then (.ok (), patchRow runId patch runs)
  else (.error s!"run {runId} not found", runs)

/-- Patch a row that has one of the expected statuses. -/
def updateRunIf (runId : String) (expected : List RunStatus) (patch : RunRowPatch P)
    (runs : List (RunRow P)) : Except String Bool × List (RunRow P) :=
  if runs.any fun run => run.id == runId && expected.contains run.status then
    (.ok true, patchRow runId patch runs)
  else (.ok false, runs)

/-- Execute a method. -/
def exec : (method : StoreMethod) → method.Given P → List (RunRow P) →
    Except String (method.Answer P) × List (RunRow P)
  | .createRun => createRun
  | .updateRun runId => updateRun runId
  | .updateRunIf runId expected => updateRunIf runId expected
  | .getRun runId => fun _ runs => (.ok (runs.find? (·.id == runId)), runs)
  | _ => fun _ runs => (.error notAFunction, runs)

/-- A row that was found by its columns is found in rewritten ones. -/
theorem any_map (change : Relabelling P Q) (found : RunColumns → Bool) (runs : List (RunRow P)) :
    ((runs.map (RunRow.map change)).any fun run => found run.toRunColumns) =
      runs.any fun run => found run.toRunColumns := by
  rw [List.any_map]
  rfl

/-- A patched row is rewritten by rewriting it and its patch. -/
theorem patched_map (change : Relabelling P Q) (patch : RunRowPatch P) (run : RunRow P) :
    (run.map change).patched (patch.map change) = (run.patched patch).map change := by
  obtain ⟨status, tags, wakeAt, input, output, error⟩ := patch
  cases input <;> cases output <;> cases error <;> rfl

/-- So are the rows of which one is patched. -/
theorem patchRow_map (change : Relabelling P Q) (runId : String) (patch : RunRowPatch P)
    (runs : List (RunRow P)) :
    patchRow runId (patch.map change) (runs.map (RunRow.map change)) =
      (patchRow runId patch runs).map (RunRow.map change) := by
  unfold patchRow
  rw [List.map_map, List.map_map]
  refine List.map_congr_left fun run _ => ?_
  have same : (run.map change).id = run.id := rfl
  simp only [Function.comp_apply, same]
  split
  · exact patched_map change patch run
  · rfl

/-- Inserting a row looks into no payload. -/
theorem createRun_map (change : Relabelling P Q) (run : RunRow P) (runs : List (RunRow P)) :
    createRun (run.map change) (runs.map (RunRow.map change)) =
      ((createRun run runs).1, (createRun run runs).2.map (RunRow.map change)) := by
  have known := any_map change (fun columns => columns.id == run.id) runs
  have same : (run.map change).id = run.id := rfl
  unfold createRun
  rw [same, known]
  split
  · rfl
  · rw [List.map_append]
    rfl

/-- So does patching one. -/
theorem updateRun_map (change : Relabelling P Q) (runId : String) (patch : RunRowPatch P)
    (runs : List (RunRow P)) :
    updateRun runId (patch.map change) (runs.map (RunRow.map change)) =
      ((updateRun runId patch runs).1, (updateRun runId patch runs).2.map (RunRow.map change)) := by
  have known := any_map change (fun columns => columns.id == runId) runs
  unfold updateRun
  rw [known, patchRow_map]
  split <;> rfl

/-- So does patching one that has an expected status. -/
theorem updateRunIf_map (change : Relabelling P Q) (runId : String) (expected : List RunStatus)
    (patch : RunRowPatch P) (runs : List (RunRow P)) :
    updateRunIf runId expected (patch.map change) (runs.map (RunRow.map change)) =
      ((updateRunIf runId expected patch runs).1,
        (updateRunIf runId expected patch runs).2.map (RunRow.map change)) := by
  have known := any_map change
    (fun columns => columns.id == runId && expected.contains columns.status) runs
  unfold updateRunIf
  rw [known, patchRow_map]
  split <;> rfl

/-- An answer without payloads is what it is. -/
theorem map_id_answer {α : Type} (answer : Except String α) : answer = answer.map id := by
  cases answer <;> rfl

/-- The runs are kept without a look into their payloads. -/
theorem exec_map (change : Relabelling P Q) (method : StoreMethod) (given : method.Given P)
    (runs : List (RunRow P)) :
    exec method (method.mapGiven change given) (runs.map (RunRow.map change)) =
      ((exec method given runs).1.map (method.mapAnswer change),
        (exec method given runs).2.map (RunRow.map change)) := by
  cases method with
  | createRun =>
    exact (createRun_map change given runs).trans (Prod.ext (map_id_answer _) rfl)
  | updateRun runId =>
    exact (updateRun_map change runId given runs).trans (Prod.ext (map_id_answer _) rfl)
  | updateRunIf runId expected =>
    exact (updateRunIf_map change runId expected given runs).trans (Prod.ext (map_id_answer _) rfl)
  | getRun runId =>
    refine Prod.ext (congrArg Except.ok ?_) rfl
    exact List.find?_map ..
  | _ => rfl

end MemoryRuns

/-- The runs of the store in memory; it has no views, and none of the other methods. -/
def memoryRuns : StateStore where
  State P := List (RunRow P)
  init := []
  exec viewed given runs :=
    if viewed.scopes = [] then MemoryRuns.exec viewed.method given runs
    else (.error notAFunction, runs)
  mapState change := List.map (RunRow.map change)
  mapState_init _ := rfl
  exec_mapState change viewed given runs := by
    by_cases whole : viewed.scopes = []
    · simp only [if_pos whole]
      exact MemoryRuns.exec_map change viewed.method given runs
    · simp only [if_neg whole]
      rfl
  offers method := match method with
    | .createRun | .updateRun _ | .updateRunIf .. | .getRun _ => true
    | _ => false
  offers_stats _ _ _ := rfl
  offers_schedules predicates method kept := by
    rcases kept with rfl | ⟨id, rfl⟩ | ⟨id, expected, rfl⟩ | ⟨id, rfl⟩ <;> rfl

end Durable
