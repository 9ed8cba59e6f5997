import Durable.Data.Grouping
import Durable.Text.Markers

/-! The keys by which workers of all namespaces advertise themselves in one table, and what the
transports of a namespace read out of them. -/

namespace Durable.WorkerKeys

section Names

/-- The prefix of a namespace's names; the default namespace has the bare one. -/
def effectivePrefix (keyPrefix : String) (namespace_ : Option String) : String :=
  match namespace_ with
  | none => keyPrefix
  | some name => if name = "" ∨ name = "default" then keyPrefix else keyPrefix ++ "-" ++ name

/-- A handler name as a queue token. -/
def sanitizeQueueToken (name : String) : String :=
  name.map fun char => if char = ':' then '-' else char

/-- A token with its partition; the default partition has the bare token. -/
def tenantGroup (baseGroup : String) (partition : Option String) : String :=
  match partition with
  | none => baseGroup
  | some name => if name = "" ∨ name = "default" then baseGroup else baseGroup ++ "@" ++ name

/-- The token on which a handler is served. -/
def routingToken (name : String) (partition : Option String) : String :=
  tenantGroup (sanitizeQueueToken name) partition

/-- What every heartbeat key begins with. -/
def workerHeartbeatKeyPrefix (effPrefix : String) : String := effPrefix ++ "-worker-heartbeat:"

/-- `${P}-worker-heartbeat:<token>:<instance>` -/
def workerHeartbeatKey (effPrefix token instanceId : String) : String :=
  workerHeartbeatKeyPrefix effPrefix ++ token ++ ":" ++ instanceId

/-- What every descriptor key on a token begins with. -/
def workerDescriptorTokenPrefix (effPrefix token : String) : String :=
  effPrefix ++ "-worker-descriptor:" ++ token ++ ":"

/-- `${P}-worker-descriptor:<token>:<instance>` -/
def workerDescriptorKey (effPrefix token instanceId : String) : String :=
  effPrefix ++ "-worker-descriptor:" ++ token ++ ":" ++ instanceId

end Names

section Texts

/-- `text.includes(marker)` -/
def includes (text marker : String) : Bool :=
  (Markers.afterFirst marker.toList text.toList).isSome

/-- `text.startsWith(marker)` -/
def startsWith (text marker : String) : Bool := marker.toList.isPrefixOf text.toList

/-- What stands before the first colon. -/
def upToColon (text : List Char) : String := String.ofList (text.takeWhile (· ≠ ':'))

end Texts

section Reads

variable {Descriptor Beat : Type}

/-- A key of the table, with its value. -/
structure Entry where
  key : String
  value : String
deriving Repr, DecidableEq

/-- A worker's liveness, as it is reported for a token. -/
structure WorkerHeartbeat (Beat : Type) where
  group : String
  instanceId : String
  beat : Beat
deriving Repr, DecidableEq

/-- The live descriptors advertised on a token; a malformed value reads as absent. -/
def descriptorsOn (parse : String → Option Descriptor) (entries : List Entry) (token : String) :
    List Descriptor :=
  let marker := "-worker-descriptor:" ++ token ++ ":"
  entries.filterMap fun entry => if includes entry.key marker then parse entry.value else none

/-- The token that a heartbeat key is taken to name. -/
def groupOf (key : String) : Option String :=
  match Markers.afterFirst "-worker-heartbeat:".toList key.toList with
  | none => none
  | some rest =>
    let group := upToColon rest
    if group = "" then none else some group

/-- The tokens with at least one live heartbeat. -/
def liveGroupsOf (entries : List Entry) : List String :=
  Grouping.firsts (entries.filterMap fun entry => groupOf entry.key)

/-- The workers that beat on a token, as `groupHealth` reports them. -/
def liveWorkersOf (parseHeartbeatValue : String → Beat) (keyPrefix group : String)
    (entries : List Entry) : List (WorkerHeartbeat Beat) :=
  let marker := workerHeartbeatKey keyPrefix group ""
  entries.filterMap fun entry =>
    if startsWith entry.key marker then
      some ⟨group, String.ofList (entry.key.toList.drop marker.toList.length),
        parseHeartbeatValue entry.value⟩
    else none

end Reads

section Table

/-- A text without a colon, as instance ids and partitions are. -/
abbrev Segment := { text : String // ':' ∉ text.toList }

/-- A worker that advertises itself. -/
structure Worker where
  namespace_ : Option String
  partition : Option Segment
  instanceId : Segment
deriving DecidableEq

/-- What a worker writes. -/
inductive Kind where
  | descriptor | heartbeat
deriving Repr, DecidableEq

/-- A row of the table, written by a worker for one of its handlers. -/
structure Row where
  worker : Worker
  kind : Kind
  handler : String
  value : String
  expiresAt : Nat
deriving DecidableEq

/-- The prefix of every name. -/
def keyPrefix : String := "durable"

variable (row : Row)

/-- The token on which the handler is served. -/
def Row.token : String := routingToken row.handler (row.worker.partition.map (·.1))

/-- The key under which the row is written. -/
def Row.key : String :=
  let effPrefix := effectivePrefix keyPrefix row.worker.namespace_
  match row.kind with
  | .descriptor => workerDescriptorKey effPrefix row.token row.worker.instanceId
  | .heartbeat => workerHeartbeatKey effPrefix row.token row.worker.instanceId

/-- The rows that have not expired. -/
def liveRows (rows : List Row) (now : Nat) : List Row := rows.filter fun row => now < row.expiresAt

/-- `live`: every key that has not expired, with its value. -/
def live (rows : List Row) (now : Nat) : List Entry :=
  (liveRows rows now).map fun row => ⟨row.key, row.value⟩

end Table

section Transports

variable {Descriptor Beat : Type} (parse : String → Option Descriptor)
  (parseHeartbeatValue : String → Beat) (rows : List Row) (now : Nat) (reader : Option String)

/-- The descriptors that a db transport lists for a token. -/
def listWorkerDescriptors (token : String) : List Descriptor :=
  descriptorsOn parse (live rows now) token

/-- The tokens that a db transport lists. -/
def listWorkerGroups : List String := liveGroupsOf (live rows now)

/-- The workers that a db transport of a namespace reports for a token. -/
def groupHealth (group : String) : List (WorkerHeartbeat Beat) :=
  liveWorkersOf parseHeartbeatValue (effectivePrefix keyPrefix reader) group (live rows now)

/-- Whether a text stands for itself in a pattern. -/
def literal (text : String) : Bool :=
  text.toList.all fun char => !(['*', '?', '[', ']', '\\'].contains char)

/-- A walk over the keys that match a text followed by anything. -/
structure Scan where
  under : String → List Entry → List Entry
  matching : ∀ text, literal text = true → ∀ entries entry,
    entry ∈ under text entries ↔ entry ∈ entries ∧ startsWith entry.key text = true

variable (scan : Scan)

/-- The descriptors that a BullMQ transport of a namespace lists for a token. -/
def scannedDescriptors (token : String) : List Descriptor :=
  (scan.under (workerDescriptorTokenPrefix (effectivePrefix keyPrefix reader) token)
    (live rows now)).filterMap fun entry => parse entry.value

/-- The heartbeats that a BullMQ transport of a namespace reads. -/
def liveHeartbeats : List Entry :=
  scan.under (workerHeartbeatKeyPrefix (effectivePrefix keyPrefix reader)) (live rows now)

/-- The tokens that a BullMQ transport of a namespace lists. -/
def scannedGroups : List String :=
  let text := workerHeartbeatKeyPrefix (effectivePrefix keyPrefix reader)
  Grouping.firsts ((liveHeartbeats rows now reader scan).filterMap fun entry =>
    let group := upToColon (entry.key.toList.drop text.toList.length)
    if group = "" then none else some group)

/-- The workers that a BullMQ transport of a namespace reports for a token. -/
def listLiveWorkers (group : String) : List (WorkerHeartbeat Beat) :=
  liveWorkersOf parseHeartbeatValue (effectivePrefix keyPrefix reader) group
    (liveHeartbeats rows now reader scan)

end Transports

end Durable.WorkerKeys
