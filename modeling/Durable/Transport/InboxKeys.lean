import Durable.Interleaving.Runs
import Durable.Interleaving.Table
import Durable.Text.Percent

/-! The keys by which one db transport tells others that it consumes its inbox, and which tenants'
events it subscribes to: when they are written and removed. -/

namespace Durable.InboxKeys

open Interleaving (Table)

section Names

variable (keyPrefix : String)

/-- `${P}-inbox:<instance>`: the instance is alive and consumes its addressed rows. -/
def inboxKey (instanceId : String) : String :=
  keyPrefix ++ "-inbox:" ++ Percent.encode instanceId

/-- What the key of every live subscriber of a tenant begins with. -/
def tenantSubscriberKeyPrefix (tenant : String) : String :=
  keyPrefix ++ "-tenant-subscriber:" ++ Percent.encode tenant ++ ":"

/-- `${P}-tenant-subscriber:<tenant>:<instance>`: the instance wants the tenant's events. -/
def tenantSubscriberKey (tenant instanceId : String) : String :=
  tenantSubscriberKeyPrefix keyPrefix tenant ++ Percent.encode instanceId

end Names

/-- A removal of keys that has been started. -/
structure Removal where
  keys : List String
  /-- The writes that were in flight when it was, which it lets settle first. -/
  settling : List Nat
  done : Bool := false
deriving Repr, DecidableEq

/-- One instance, and its keys in the store. -/
structure State where
  tenantEventHandlers : Table String (List Nat) := .empty
  tenants : List String := []
  inboxActive : Bool := false
  refreshing : Bool := false
  closed : Bool := false
  writes : List (List String) := []
  removals : List Removal := []
  stored : List String := []
deriving Repr, DecidableEq

/-- What happens next. -/
inductive Move where
  | onTenantEvent (tenant : String) (handler : Nat)
  | offTenantEvent (tenant : String) (handler : Nat)
  | activateInbox
  | refresh
  | close
  | put (write : Nat)
  | remove (removal : Nat)
deriving Repr, DecidableEq

section Operations

variable (keyPrefix instanceId : String) (state : State)

/-- `#keys`: the keys that the instance keeps live. -/
def State.keys : List String :=
  (if state.inboxActive then [inboxKey keyPrefix instanceId] else []) ++
    state.tenants.map fun tenant => tenantSubscriberKey keyPrefix tenant instanceId

/-- The writes that have not settled. -/
def inFlight (writes : List (List String)) : List Nat :=
  (List.range writes.length).filter fun index => writes[index]? ≠ some []

/-- `#put`: start to write keys. -/
def State.put (keys : List String) : State := { state with writes := state.writes ++ [keys] }

/-- Start to remove keys, once the writes in flight have settled. -/
def State.withdraw (keys : List String) : State :=
  { state with removals := state.removals ++ [{ keys := keys, settling := inFlight state.writes }] }

/-- `activateInbox`. -/
def activateInbox : State :=
  if state.inboxActive then state
  else
    { state with inboxActive := true, refreshing := true }.put [inboxKey keyPrefix instanceId]

/-- `subscribe`. -/
def subscribe (tenant : String) : State :=
  if tenant ∈ state.tenants then state
  else
    let state :=
      { state with tenants := state.tenants ++ [tenant], inboxActive := true, refreshing := true }
    state.put (state.keys keyPrefix instanceId)

/-- `unsubscribe`. -/
def unsubscribe (tenant : String) : State :=
  if tenant ∈ state.tenants then
    { state with tenants := state.tenants.filter (· ≠ tenant) }.withdraw
      [tenantSubscriberKey keyPrefix tenant instanceId]
  else state

/-- `onTenantEvent`: add a handler, and subscribe to its tenant's events. -/
def onTenantEvent (tenant : String) (handler : Nat) : State :=
  let handlers := (state.tenantEventHandlers.get tenant).getD []
  let handlers := if handler ∈ handlers then handlers else handlers ++ [handler]
  subscribe keyPrefix instanceId
    { state with tenantEventHandlers := state.tenantEventHandlers.set tenant handlers } tenant

/-- What `onTenantEvent` returns: detach a handler, and unsubscribe if it was the last. -/
def offTenantEvent (tenant : String) (handler : Nat) : State :=
  match state.tenantEventHandlers.get tenant with
  | none => state
  | some handlers =>
    if handler ∈ handlers then
      match handlers.filter (· ≠ handler) with
      | [] => unsubscribe keyPrefix instanceId
          { state with tenantEventHandlers := state.tenantEventHandlers.erase tenant } tenant
      | other :: rest => { state with
          tenantEventHandlers := state.tenantEventHandlers.set tenant (other :: rest) }
    else state

/-- `close`: stop refreshing, and remove the keys of the instance. -/
def close : State :=
  let keys := state.keys keyPrefix instanceId
  let state :=
    { state with refreshing := false, tenants := [], inboxActive := false, closed := true }
  if keys = [] then state else state.withdraw keys

/-- A key is stored. -/
def stow (stored : List String) (key : String) : List String :=
  if key ∈ stored then stored else stored ++ [key]

/-- What a move makes of the state, if it can happen. -/
def step : Move → Option State
  | .onTenantEvent tenant handler => some (onTenantEvent keyPrefix instanceId state tenant handler)
  | .offTenantEvent tenant handler =>
    some (offTenantEvent keyPrefix instanceId state tenant handler)
  | .activateInbox => some (activateInbox keyPrefix instanceId state)
  | .refresh =>
    if state.refreshing then some (state.put (state.keys keyPrefix instanceId)) else none
  | .close => some (close keyPrefix instanceId state)
  | .put index =>
    match state.writes[index]? with
    | some (key :: rest) => some { state with
        writes := state.writes.set index rest, stored := stow state.stored key }
    | _ => none
  | .remove index =>
    match state.removals[index]? with
    | none => none
    | some removal =>
      if removal.done = false ∧ ∀ write ∈ removal.settling, state.writes[write]? = some [] then
        some { state with
          removals := state.removals.set index { removal with done := true }
          stored := state.stored.filter (· ∉ removal.keys) }
      else none

end Operations

end Durable.InboxKeys
