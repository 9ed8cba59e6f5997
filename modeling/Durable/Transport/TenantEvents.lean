import Mathlib.Data.List.Sort
import Durable.Interleaving.Runs
import Durable.Transport.Tables

/-! Tenant events through the messages table: one instance's publishes, and the claim rounds of the
instances that its events are addressed to. -/

namespace Durable.TenantEvents

/-- An event of a tenant's runs. -/
structure TenantEvent where
  tenant : String
  body : String
deriving Repr, DecidableEq

/-- A row of the messages table that carries a tenant event. -/
structure MessageRow where
  id : Nat
  recipient : String
  payload : Option TenantEvent
  claimedBy : Option ClaimToken := none
  /-- A ghost: which of the publisher's events it is, if it is one. -/
  number : Option Nat := none
deriving Repr, DecidableEq

/-- Where an instance's loop is in a round. -/
inductive Round where
  | idle
  | picked (token : ClaimToken) (fresh lapsed : List Nat)
  | freshStamped (token : ClaimToken) (lapsed : List Nat)
  | stamped (token : ClaimToken)
  /-- The rows of the round are handed over, one after the other. -/
  | handling (token : ClaimToken) (rest : List MessageRow) (done : List Nat)

/-- An event that a loop took from a row. -/
structure Handed where
  recipient : String
  event : TenantEvent
  received : Bool
  number : Option Nat
deriving Repr, DecidableEq

/-- The publisher, the table, and the loops of the instances. -/
structure State where
  handlers : List (String × String) := []
  /-- The instances and tenants whose last handler was once detached. -/
  detached : List (String × String) := []
  published : List TenantEvent := []
  /-- The instances that each publish wrote a row for, as far as the chain of publishes is. -/
  audiences : List (List String) := []
  owners : Option (List String) := none
  rows : List MessageRow := []
  nextId : Nat := 0
  hrtime : Nat := 0
  rounds : String → Round := fun _ => .idle
  handed : List Handed := []

/-- What happens next. -/
inductive Move where
  | attach (instanceId tenant : String)
  | detach (instanceId tenant : String)
  | publish (event : TenantEvent)
  | subscribers (owners : List String)
  | insert (firstId : Nat)
  | publishFails
  | foreign (id : Nat) (recipient : String) (payload : Option TenantEvent)
  | pick (instanceId : String) (lapsed : MessageRow → Bool)
  | stampFresh (instanceId : String)
  | stampLapsed (instanceId : String) (lapsed : MessageRow → Bool)
  /-- A round reads back the rows it has stamped, in some order. -/
  | select (instanceId : String) (order : List MessageRow)
  | hand (instanceId : String)
  | delete (instanceId : String)

section Statements

variable (rows : List MessageRow)

/-- The rows that `publishTenantEvent` inserts in one statement. -/
def insertMessages (number : Nat) (event : TenantEvent) : Nat → List String → List MessageRow
  | _, [] => []
  | id, recipient :: rest =>
    { id := id, recipient := recipient, payload := some event, number := some number } ::
      insertMessages number event (id + 1) rest

/-- The candidates of a round: the rows addressed to the instance that are not claimed, or whose
claim has lapsed, oldest first, and at most `limit`. -/
def candidates (limit : Nat) (instanceId : String) (lapsed : MessageRow → Bool) :
    List MessageRow :=
  ((rows.filter fun row =>
      row.recipient = instanceId && (row.claimedBy.isNone || lapsed row)).insertionSort
    fun row other => row.id ≤ other.id).take limit

/-- Stamp the rows of some ids that may still be claimed. -/
def stamp (token : ClaimToken) (ids : List Nat) (claimable : MessageRow → Bool) :
    List MessageRow :=
  rows.map fun row =>
    if row.id ∈ ids && claimable row then { row with claimedBy := some token } else row

/-- The rows that a round has stamped. -/
def stampedBy (token : ClaimToken) : List MessageRow :=
  rows.filter fun row => row.claimedBy = some token

/-- Delete the rows of some ids that a round still holds. -/
def deleteDone (token : ClaimToken) (done : List Nat) : List MessageRow :=
  rows.filter fun row => ¬(row.id ∈ done ∧ row.claimedBy = some token)

end Statements

section Steps

variable (limit : Nat) (state : State)

/-- Where an instance's loop goes on. -/
def enter (instanceId : String) (round : Round) : State :=
  { state with rounds := fun other => if other = instanceId then round else state.rounds other }

/-- The publish whose turn it is writes its rows. -/
def insert (firstId : Nat) (owners : List String) (event : TenantEvent) : State :=
  { state with
    owners := none
    audiences := state.audiences ++ [owners]
    rows := state.rows ++ insertMessages state.audiences.length event firstId owners
    nextId := firstId + owners.length }

/-- The loop takes an event from a row: the handlers of its tenant receive it. A text that does not
parse is dropped. -/
def take (row : MessageRow) : State :=
  match row.payload with
  | none => state
  | some event =>
    { state with
      handed := state.handed ++ [{
        recipient := row.recipient
        event := event
        received := (row.recipient, event.tenant) ∈ state.handlers
        number := row.number }] }

/-- What a move makes of the state, if it can happen. -/
def step : Move → Option State
  | .attach instanceId tenant =>
    some { state with handlers := (instanceId, tenant) :: state.handlers }
  | .detach instanceId tenant =>
    some { state with
      handlers := state.handlers.filter (· ≠ (instanceId, tenant))
      detached := (instanceId, tenant) :: state.detached }
  | .publish event => some { state with published := state.published ++ [event] }
  | .subscribers owners =>
    match state.owners, state.published[state.audiences.length]? with
    | none, some event =>
      -- An instance is listed once, and had a handler before it was.
      if owners.Nodup ∧ ∀ owner ∈ owners,
          (owner, event.tenant) ∈ state.handlers ∨ (owner, event.tenant) ∈ state.detached then
        some { state with owners := some owners }
      else none
    | _, _ => none
  | .insert firstId =>
    match state.owners, state.published[state.audiences.length]? with
    | some owners, some event =>
      -- Ids grow, and are not given out twice.
      if state.nextId ≤ firstId ∧
          ∀ row ∈ state.rows, row.id < firstId ∨ firstId + owners.length ≤ row.id then
        some (insert state firstId owners event)
      else none
    | _, _ => none
  | .publishFails =>
    match state.published[state.audiences.length]? with
    | some _ => some { state with owners := none, audiences := state.audiences ++ [[]] }
    | none => none
  | .foreign id recipient payload =>
    if ∀ row ∈ state.rows, row.id ≠ id then
      some { state with
        rows := state.rows ++ [{ id := id, recipient := recipient, payload := payload }] }
    else none
  | .pick instanceId lapsed =>
    match state.rounds instanceId with
    | .idle =>
      match candidates state.rows limit instanceId lapsed with
      | [] => some state
      | row :: rest =>
        let fresh := (row :: rest).filter (·.claimedBy.isNone)
        let taken := (row :: rest).filter (·.claimedBy.isSome)
        some { enter state instanceId
            (.picked ⟨instanceId, state.hrtime⟩ (fresh.map (·.id)) (taken.map (·.id))) with
          hrtime := state.hrtime + 1 }
    | _ => none
  | .stampFresh instanceId =>
    match state.rounds instanceId with
    | .picked token fresh lapsed =>
      some { enter state instanceId (.freshStamped token lapsed) with
        rows := stamp state.rows token fresh (·.claimedBy.isNone) }
    | _ => none
  | .stampLapsed instanceId lapsed =>
    match state.rounds instanceId with
    | .freshStamped token ids =>
      some { enter state instanceId (.stamped token) with
        rows := stamp state.rows token ids fun row => row.claimedBy.isSome && lapsed row }
    | _ => none
  | .select instanceId order =>
    match state.rounds instanceId with
    | .stamped token =>
      if order.Perm (stampedBy state.rows token) then
        some (enter state instanceId (.handling token order []))
      else none
    | _ => none
  | .hand instanceId =>
    match state.rounds instanceId with
    | .handling token (row :: rest) done =>
      some (enter (take state row) instanceId (.handling token rest (row.id :: done)))
    | _ => none
  | .delete instanceId =>
    match state.rounds instanceId with
    | .handling token [] done =>
      some { enter state instanceId .idle with rows := deleteDone state.rows token done }
    | _ => none

end Steps

end Durable.TenantEvents
