import Durable.Data.Champion
import Durable.Queue.Controller

/-! `RedisAdmissionBackend`: the admission of one queue over a state that all instances share. -/

namespace Durable

open Interleaving (Table)

/-- The options of one instance. -/
structure RedisAdmissionOptions where
  /-- The instance's id. -/
  instanceId : String
  /-- How long it counts as alive after a heartbeat. -/
  instanceTtlMs : Nat := 30000
  /-- The delay before a blocked call asks again. -/
  retryMs : Nat := 1000
  /-- How long a blocked call's place is kept. -/
  waiterTtlMs : Nat := retryMs * 3
deriving Repr, DecidableEq

/-- The place of a blocked call: its rows in the two sorted sets and the hash of the waiters, which
the script writes and removes together. -/
structure WaitingPlace where
  /-- Its priority. -/
  priority : Int
  /-- Its arrival, set once. -/
  seq : Nat
  /-- Its fairness bucket, set once. -/
  fairKey : String
  /-- When it is given up. -/
  expiry : Nat
deriving Repr, DecidableEq

/-- The admissions of one fixed window, until its key lapses. -/
structure WindowCounter where
  /-- How many there were. -/
  used : Nat
  /-- The last moment of the key. -/
  lapses : Nat
deriving Repr, DecidableEq

/-- The keys of one queue. -/
structure RedisQueue where
  /-- The slots that are taken, and by which instances. -/
  slots : Table String String := .empty
  /-- The blocked calls. -/
  waiters : Table String WaitingPlace := .empty
  /-- When each fairness bucket was last served. -/
  keyServed : Table String Nat := .empty
  /-- The fixed windows, by number. -/
  counters : Table Nat WindowCounter := .empty
  /-- The admissions of the rolling window. -/
  rolling : Table String Nat := .empty
  /-- The last moment of the rolling window's key. -/
  rollingLapses : Nat := 0
  /-- The last arrival. -/
  seq : Nat := 0
  /-- The last tick served. -/
  servedSeq : Nat := 0
  /-- The last moment at which each instance counts as alive. -/
  alive : Table String Nat := .empty
deriving Repr, DecidableEq

/-- A call as the script is given it. -/
structure AcquireParams where
  /-- The queue. -/
  config : QueueConfig
  /-- The instance that calls. -/
  options : RedisAdmissionOptions
  /-- The call's hints. -/
  item : AdmissionItem
  /-- The caller's clock. -/
  now : Nat

namespace AcquireParams

variable (params : AcquireParams)

/-- The fairness bucket, where buckets take turns. -/
def fairKey : String := if params.config.fairnessByKey then params.item.key.getD "" else ""

/-- The id of the slot and of the place in the queue. -/
def waiterId : String := params.item.waiterId.getD ("anon:" ++ toString params.now)

/-- Whether the call is ordered among those that wait. -/
def hasOrdering : Bool :=
  params.item.waiterId.isSome || params.item.priority.isSome || params.config.fairnessByKey ||
    params.config.lifo

/-- When a blocked call is told to ask again. -/
def retryAt : Nat := params.now + params.options.retryMs

/-- The rate limit; none admits without limit. -/
def rateLimit : Option RateLimit := params.config.rateLimit.filter fun rate => 0 < rate.limit

/-- The call's row in the rolling window. -/
def member : String := params.waiterId ++ ":" ++ toString params.now

end AcquireParams

namespace RedisQueue

variable (queue : RedisQueue)

/-- An instance is alive for a while. -/
def refreshLiveness (options : RedisAdmissionOptions) (server : Nat) : RedisQueue :=
  { queue with alive := queue.alive.set options.instanceId (server + options.instanceTtlMs) }

/-- Whether an instance's heartbeat has not lapsed. -/
def isAlive (server : Nat) (owner : String) : Bool := (queue.alive.get owner).any (server ≤ ·)

/-- The slots of instances that are gone are free again. -/
def reclaim (server : Nat) : RedisQueue :=
  { queue with slots := ⟨queue.slots.rows.filter fun slot => queue.isAlive server slot.2⟩ }

/-- Calls that stopped retrying wait no longer. -/
def pruneWaiters (now : Nat) : RedisQueue :=
  { queue with waiters := ⟨queue.waiters.rows.filter fun waiter => now < waiter.2.expiry⟩ }

/-- What a script finds before it looks at the rate. -/
def current (server : Nat) (params : AcquireParams) : RedisQueue :=
  ((queue.refreshLiveness params.options server).reclaim server).pruneWaiters params.now

/-- The admissions of a fixed window so far. -/
def usedIn (server window : Nat) : Nat :=
  ((queue.counters.get window).filter (server ≤ ·.lapses)).elim 0 WindowCounter.used

/-- The admissions of the rolling window that are not over. -/
def liveAdmissions (server now periodMs : Nat) : List (String × Nat) :=
  (if server ≤ queue.rollingLapses then queue.rolling.rows else []).filter fun admission =>
    now < admission.2 + periodMs

/-- The rate window as of now, and when to ask again if it is used up. -/
def checkRate (server : Nat) (params : AcquireParams) : RedisQueue × Option Nat :=
  match params.rateLimit with
  | none => (queue, none)
  | some rate =>
    match rate.algorithm with
    | .sliding =>
      let live := queue.liveAdmissions server params.now rate.periodMs
      let pruned := { queue with rolling := ⟨live⟩ }
      if rate.limit ≤ live.length then
        (pruned, some (((live.map Prod.snd).min?.map (· + rate.periodMs)).getD params.retryAt))
      else (pruned, none)
    | .fixed =>
      if rate.limit ≤ queue.usedIn server (params.now / rate.periodMs) then
        (queue, some params.retryAt)
      else (queue, none)

/-- Keep a blocked call's place; its arrival and its bucket are set once. -/
def register (params : AcquireParams) : RedisQueue :=
  let priority := params.item.priority.getD 0
  let expiry := params.now + params.options.waiterTtlMs
  match queue.waiters.get params.waiterId with
  | some place =>
    { queue with waiters := queue.waiters.set params.waiterId { place with priority, expiry } }
  | none =>
    { queue with
      seq := queue.seq + 1
      waiters := queue.waiters.set params.waiterId
        { priority, seq := queue.seq + 1, fairKey := params.fairKey, expiry } }

/-- When a place's bucket was last served; never is before everything. -/
def served (config : QueueConfig) (place : WaitingPlace) : Nat :=
  if config.fairnessByKey ∧ place.fairKey ≠ "" then (queue.keyServed.get place.fairKey).getD 0 else 0

/-- Of two places of one priority, the one is better than the other. -/
def better (config : QueueConfig) (one other : WaitingPlace) : Bool :=
  if queue.served config one < queue.served config other then true
  else if queue.served config one = queue.served config other then
    if config.lifo then other.seq < one.seq else one.seq < other.seq
  else false

/-- The best place of the highest priority; arrivals differ, so that the places' order does not
matter. -/
def bestId (config : QueueConfig) : Option String :=
  let tier := queue.waiters.rows.filter fun waiter =>
    some waiter.2.priority == (queue.waiters.rows.map (·.2.priority)).max?
  (Champion.champion (fun one other => queue.better config one.2 other.2) tier).map Prod.fst

/-- A bucket that takes turns is served. -/
def serveKey (params : AcquireParams) : RedisQueue :=
  if params.config.fairnessByKey ∧ params.fairKey ≠ "" then
    { queue with
      servedSeq := queue.servedSeq + 1
      keyServed := queue.keyServed.set params.fairKey (queue.servedSeq + 1) }
  else queue

/-- Count an admission in the rate window. -/
def countAdmission (server : Nat) (params : AcquireParams) : RedisQueue :=
  match params.rateLimit with
  | none => queue
  | some rate =>
    match rate.algorithm with
    | .sliding =>
      { queue with
        rolling := queue.rolling.set params.member params.now
        rollingLapses := server + rate.periodMs * 2 }
    | .fixed =>
      let window := params.now / rate.periodMs
      { queue with
        counters := queue.counters.set window
          { used := queue.usedIn server window + 1, lapses := server + rate.periodMs } }

/-- Take the slot, leave the queue, and count the admission. -/
def admitCall (server : Nat) (params : AcquireParams) : RedisQueue :=
  ({ queue with
      slots := queue.slots.set params.waiterId params.options.instanceId
      waiters := queue.waiters.erase params.waiterId }.serveKey params).countAdmission server params

/-- The slots are all taken; no cap, or a cap of none, never is. -/
def full (config : QueueConfig) : Bool :=
  config.concurrency.any fun cap => 0 < cap && cap ≤ queue.slots.rows.length

/-- The script: admit one call, or say when it may ask again. -/
def tryAdmit (server : Nat) (params : AcquireParams) : RedisQueue × QueueAdmission :=
  match (queue.current server params).checkRate server params with
  | (checked, some retryAt) => (checked, .blocked retryAt)
  | (checked, none) =>
    let waiting := if params.hasOrdering then checked.register params else checked
    if checked.full params.config ||
        params.hasOrdering && waiting.bestId params.config != some params.waiterId then
      (waiting, .blocked params.retryAt)
    else (waiting.admitCall server params, .admitted)

/-- Give a slot back. -/
def release (slotId : String) : RedisQueue := { queue with slots := queue.slots.erase slotId }

end RedisQueue

end Durable
