import Durable.Json.Text
import Durable.Text.CodeUnits

/-! The registry of the workflows that the live workers announce. -/

namespace Durable.Announced

open Grouping (collect firsts sortBy)
open CodeUnits (sortUnits)

/-- The runtime of a worker. -/
inductive Runtime where
  | node
  | python
deriving Repr, DecidableEq, Inhabited

/-- A runtime as it is written. -/
def Runtime.text : Runtime → String
  | node => "node"
  | python => "python"

/-- Where a failed run is routed, by the code of its error. -/
structure Route where
  code : Option String
  workflow : String
deriving Repr, DecidableEq, Inhabited

/-- A workflow as a worker announces it. -/
structure WorkflowRegistration where
  name : String
  version : Option String := none
  group : Option String := none
  requires : Option (List String) := none
  origin : Option String := none
  onError : Option (List Route) := none
deriving Repr, DecidableEq

/-- A worker's descriptor as it may come from an older worker. -/
structure RawWorkerDescriptor where
  instanceId : String
  runtime : Runtime
  workflows : Option (List String) := none
  registrations : Option (List WorkflowRegistration) := none
deriving Repr, DecidableEq

/-- A worker's descriptor with what is absent filled in. -/
structure WorkerDescriptor where
  instanceId : String
  runtime : Runtime
  workflows : List String
  registrations : Option (List WorkflowRegistration)
deriving Repr, DecidableEq

/-- Fill in what an older worker does not state. -/
def normalizeDescriptor (raw : RawWorkerDescriptor) : WorkerDescriptor where
  instanceId := raw.instanceId
  runtime := raw.runtime
  workflows := raw.workflows.getD []
  registrations := raw.registrations

/-- One worker's claim about one workflow. -/
structure WorkflowAnnouncement extends WorkflowRegistration where
  instanceId : String
  runtime : Runtime
deriving Repr, DecidableEq

/-- What a descriptor announces. -/
def announcementsOf (raw : RawWorkerDescriptor) : List WorkflowAnnouncement :=
  let d := normalizeDescriptor raw
  let announcements : List WorkflowAnnouncement := (d.registrations.getD []).map fun reg =>
    { reg with instanceId := d.instanceId, runtime := d.runtime }
  let covered := announcements.map (·.name)
  announcements ++ (d.workflows.filter fun name => !covered.contains name).map fun name =>
    { name := name, instanceId := d.instanceId, runtime := d.runtime }

/-- What two announcements are folded on. -/
def announcementKey (a : WorkflowAnnouncement) : String :=
  match a.version with
  | none => a.name
  | some version => a.name ++ "@" ++ version

/-- The stated values, sorted and without repeats. -/
def stated (values : List (Option String)) : List String :=
  sortUnits (firsts (values.filterMap id))

/-- Values by a rendering: a value replaces one of its rendering, at its place. -/
def byRendering {Item : Type} (rendering : Item → String) (items : List Item) :
    List (String × Item) :=
  collect (fun item => some (rendering item)) (fun _ item => item) items

/-- Values sorted by a rendering, one of each. -/
def sortedByRendering {Item : Type} (rendering : Item → String) (items : List Item) : List Item :=
  let table := byRendering rendering items
  (sortUnits (table.map Prod.fst)).filterMap fun key => table.lookup key

/-- A route as JSON; without a code that is `null`. -/
def routeJson (r : Route) : JsonValue Empty :=
  .obj [("code", r.code.elim .null .str), ("workflow", .str r.workflow)]

/-- Routes in a canonical order, without repeats. -/
def canonicalRoutes (routes : List Route) : List Route :=
  sortedByRendering (fun r => (routeJson r).stringify JsonValue.noNumbers) routes

/-- A route as JSON; without a code the field is absent. -/
def announcedRouteJson (r : Route) : JsonValue Empty :=
  match r.code with
  | none => .obj [("workflow", .str r.workflow)]
  | some code => .obj [("code", .str code), ("workflow", .str r.workflow)]

/-- The rendering of a set of routes. -/
def routesJson (routes : List Route) : String :=
  (JsonValue.arr (routes.map announcedRouteJson)).stringify JsonValue.noNumbers

/-- The rendering of a demand for capabilities. -/
def requiresJson (requires : List String) : String :=
  (JsonValue.arr (requires.map .str)).stringify JsonValue.noNumbers

/-- A demand for capabilities as a set. -/
def canonicalRequires (requires : List String) : List String := sortUnits (firsts requires)

/-- A demand as it is shown. -/
def shown (requires : List String) : String := ",".intercalate requires

/-- What announcers can differ on. -/
inductive Axis where
  | group
  | origin
  | requires
  | onError
deriving Repr, DecidableEq

/-- A difference between the announcers of a workflow. -/
structure Disagreement where
  axis : Axis
  values : List String
deriving Repr, DecidableEq

/-- How strong the claim about a workflow is. -/
inductive AnnouncementEvidence where
  | declared
  | observed
deriving Repr, DecidableEq, Inhabited

/-- A workflow that the live workers announce. -/
structure AnnouncedWorkflow where
  evidence : AnnouncementEvidence
  key : String
  name : String
  version : Option String
  groups : List String
  origins : List String
  requires : List (List String)
  onError : List (List Route)
  runtimes : List Runtime
  instances : List String
  disagreements : List Disagreement
deriving Repr, DecidableEq, Inhabited

/-- How the runtime's locale orders texts. Different texts may tie. -/
structure Collation where
  localeCompare : String → String → Ordering
  lawful : Std.TransCmp localeCompare

section Aggregates

variable (collation : Collation)

/-- The demands of some announcements, in the order of what is shown of them. -/
def requiresOf (announcements : List WorkflowAnnouncement) : List (List String) :=
  let requiresByJson := byRendering requiresJson
    (announcements.filterMap fun a => a.requires.map canonicalRequires)
  sortBy (fun x y => collation.localeCompare (shown x) (shown y)) (requiresByJson.map Prod.snd)

/-- The sets of routes that some announcements state. -/
def routesOf (announcements : List WorkflowAnnouncement) : List (List Route) :=
  announcements.filterMap fun a => a.onError.map canonicalRoutes

/-- The difference on one axis, if there is one. -/
def disagreement (axis : Axis) (values : List String) : List Disagreement :=
  if 1 < values.length then [{ axis := axis, values := values }] else []

/-- The entry of a key for its announcements. -/
def entryOf (key : String) (announcements : List WorkflowAnnouncement) :
    Option AnnouncedWorkflow :=
  let groups := stated (announcements.map (·.group))
  let origins := stated (announcements.map (·.origin))
  let requires := requiresOf collation announcements
  let routes := routesOf announcements
  let onError := sortedByRendering routesJson routes
  let renderings := sortUnits ((byRendering routesJson routes).map Prod.fst)
  announcements.head?.map fun first =>
    { evidence := .declared
      key := key
      name := first.name
      version := first.version
      groups := groups
      origins := origins
      requires := requires
      onError := onError
      runtimes := sortedByRendering Runtime.text (announcements.map (·.runtime))
      instances := sortUnits (firsts (announcements.map (·.instanceId)))
      disagreements := disagreement .group groups ++ disagreement .origin origins ++
        disagreement .requires (requires.map shown) ++
        (if 1 < onError.length then [{ axis := .onError, values := renderings }] else []) }

/-- The announcements of some descriptors by their keys. -/
def byKey (descriptors : List RawWorkerDescriptor) : List (String × List WorkflowAnnouncement) :=
  collect (fun a => some (announcementKey a)) (fun bucket a => bucket.getD [] ++ [a])
    (descriptors.flatMap announcementsOf)

/-- Fold the announcements of all live descriptors into one entry for each key. -/
def aggregateAnnouncements (descriptors : List RawWorkerDescriptor) : List AnnouncedWorkflow :=
  sortBy (fun a b => collation.localeCompare a.key b.key)
    ((byKey descriptors).filterMap fun entry => entryOf collation entry.1 entry.2)

end Aggregates

end Durable.Announced
