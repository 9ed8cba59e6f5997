import Mathlib.Order.Defs.LinearOrder
import Durable.Engine.Timeouts

/-! The registered versions of a workflow, and which of them an unpinned start takes. -/

namespace Durable.Versions

open Timeouts (versionKey)

/-- How the runtime reads versions: as numbers, and in the order of its locale, in which runs of
digits are compared as numbers. -/
structure VersionReading (Number : Type) where
  number : String → Option Number
  /-- `left.localeCompare(right, undefined, { numeric: true })`. -/
  localeCompare : String → String → Ordering
  lawful : Std.TransCmp localeCompare

/-- Where a workflow's body is run. -/
inductive Body (Fn : Type) where
  | here (fn : Fn)
  | remote (group : String)
deriving Repr, DecidableEq

/-- A registered version of a workflow. -/
structure RegisteredWorkflow (Fn : Type) where
  name : String
  version : String
  body : Body Fn
deriving Repr, DecidableEq

/-- What an engine has registered. -/
structure Registry (Fn : Type) where
  workflows : String → Option (RegisteredWorkflow Fn) := fun _ => none
  latest : String → Option (RegisteredWorkflow Fn) := fun _ => none

section Registering

variable {Number Fn : Type} [LinearOrder Number] (reading : VersionReading Number)

/-- Whether one version is newer than another: by their numbers where both have one. -/
def isNewerVersion (a b : String) : Bool :=
  match reading.number a, reading.number b with
  | some na, some nb => decide (nb < na)
  | _, _ => reading.localeCompare a b = .gt

namespace Registry

/-- Keep a registration, as the latest of its workflow if it is newer. -/
def keep (registry : Registry Fn) (registered : RegisteredWorkflow Fn) : Registry Fn where
  workflows key :=
    if key = versionKey registered.name registered.version then some registered
    else registry.workflows key
  latest name :=
    if name = registered.name then
      match registry.latest name with
      | none => some registered
      | some current =>
        if isNewerVersion reading registered.version current.version then some registered
        else some current
    else registry.latest name

/-- Register a version whose body runs here. -/
def register (registry : Registry Fn) (name version : String) (fn : Fn) : Registry Fn :=
  registry.keep reading ⟨name, version, .here fn⟩

/-- Register a version whose body runs at the workers of a group. -/
def registerRemote (registry : Registry Fn) (name version group : String) : Registry Fn :=
  registry.keep reading ⟨name, version, .remote group⟩

/-- Make one registration. -/
def make (registry : Registry Fn) (registration : RegisteredWorkflow Fn) : Registry Fn :=
  match registration.body with
  | .here fn => registry.register reading registration.name registration.version fn
  | .remote group =>
    registry.registerRemote reading registration.name registration.version group

/-- The registry after some registrations. -/
def ofCalls (calls : List (RegisteredWorkflow Fn)) : Registry Fn :=
  calls.foldl (make reading) {}

/-- The registration a start takes: of the version it is pinned to, or else the latest. -/
def resolve (registry : Registry Fn) (name : String) (pinned : Option String) :
    Option (RegisteredWorkflow Fn) :=
  match pinned with
  | none => registry.latest name
  | some version => registry.workflows (versionKey name version)

end Registry

end Registering

/-- The registrations of one workflow, under different versions. -/
structure VersionsOf (Fn : Type) (name : String) where
  calls : List (RegisteredWorkflow Fn)
  named : ∀ call ∈ calls, call.name = name
  different : (calls.map (·.version)).Nodup

end Durable.Versions
