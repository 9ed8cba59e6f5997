import Durable.Ctx.Children
import Durable.Interleaving.Program
import Durable.Interleaving.Rewrites

/-! The bookkeeping tags of a settled run, and the paths that rewrite them. -/

namespace Durable

open Interleaving (Program Rewrite)

/-- The tag of a settled run whose lifecycle event is not yet published. -/
def lifecyclePendingTag : String := "durable:lifecycle:pending"

/-- The prefix of the tags that name whom a run owes its event. -/
def lifecycleOwedTagPrefix : String := "durable:lifecycle:owed:"

/-- The prefix of the tags that name whom a settled run started. -/
def lifecycleTriggeredTagPrefix : String := "durable:triggered:"

/-- The prefix of the tags that name whose accumulators took the event. -/
def lifecycleCoalescedTagPrefix : String := "durable:coalesced:"

/-- The prefix of the tags that name whom a settled run could not start. -/
def lifecycleTriggerFailedTagPrefix : String := "durable:trigger_failed:"

/-- The tag of a subscriber that the run owes its event. -/
def lifecycleOwedTag (subscriber : String) : String := lifecycleOwedTagPrefix ++ subscriber

/-- The tag of a subscriber that could not be started. -/
def lifecycleTriggerFailedTag (subscriber : String) : String :=
  lifecycleTriggerFailedTagPrefix ++ subscriber

/-- A tag begins with a prefix. -/
def tagged (pre tag : String) : Bool := pre.toList.isPrefixOf tag.toList

/-- What a tag holds behind a prefix. -/
def behind (pre tag : String) : String := String.ofList (tag.toList.drop pre.toList.length)

/-- The subscribers that tags with a prefix name. -/
def subscribersTagged (pre : String) (tags : List String) : List String :=
  (tags.filter (tagged pre)).map (behind pre)

/-- `owedSubscribersOf`: the subscribers a run still owes its event. -/
def owedSubscribersOf (tags : List String) : List String :=
  subscribersTagged lifecycleOwedTagPrefix tags

/-- `coalescedSubscribersOf`: the subscribers whose accumulators took the event. -/
def coalescedSubscribersOf (tags : List String) : List String :=
  subscribersTagged lifecycleCoalescedTagPrefix tags

/-- `deliveredSubscribersOf`: the subscribers that are done with the event. -/
def deliveredSubscribersOf (tags : List String) : List String :=
  coalescedSubscribersOf tags ++ subscribersTagged lifecycleTriggeredTagPrefix tags ++
    subscribersTagged lifecycleTriggerFailedTagPrefix tags

/-- How a subscriber takes an event. -/
inductive Delivery where
  | started | coalesced | declined | failed
deriving Repr, DecidableEq

/-- What a publishing instance knows of the subscribers, and how they take the event. -/
structure Audience where
  fleetRead : Bool
  subscribers : List String
  registered : List String
  remote : List String
  announced : List String
  /-- The run settled longer ago than a subscriber without a worker is kept. -/
  overdue : Bool
  delivery : String → Delivery

/-- What a publication is asked for. -/
structure PublishOptions where
  republish : Bool := false
  subscriber : Option String := none
  heal : List String := []

namespace Audience

variable (audience : Audience)

/-- The subscribers the instance delivers to. -/
def here : List String := audience.registered ++ audience.remote

/-- `orphanedSubscribers`: the owed subscribers that nothing can deliver to. -/
def orphaned (owed : List String) : List String :=
  if audience.overdue && audience.fleetRead then
    (owed.filter (!audience.here.contains ·)).filter (!audience.announced.contains ·)
  else []

end Audience

/-- Whom a publication delivers to, and what it marks. -/
structure PublishPlan where
  owed : List String
  newlyOwed : List String
  unresolved : Bool
  targets : List String

/-- Whom a publication delivers to, by the tags it has read. -/
def publishPlan (audience : Audience) (opts : PublishOptions) (before : List String) :
    PublishPlan :=
  let delivered := deliveredSubscribersOf before
  let pending := before.contains lifecyclePendingTag
  let marked := owedSubscribersOf before
  -- A run that is pending without owed tags owes its event to everyone not delivered to.
  let resolves := pending && marked.isEmpty && !opts.republish
  let resolved := if resolves && audience.fleetRead then
    audience.subscribers.filter (!delivered.contains ·) else []
  let owed := marked ++ resolved
  let healed := opts.heal.filter fun subscriber =>
    !owed.contains subscriber && !delivered.contains subscriber
  let owed := owed ++ healed
  if opts.republish then
    let all := match opts.subscriber with
      | some subscriber => if audience.subscribers.contains subscriber then [subscriber] else []
      | none => audience.subscribers
    -- An accumulator that took the event takes it again only after a failed delivery.
    let all := all.filter fun subscriber => !(coalescedSubscribersOf before).contains subscriber ||
      before.contains (lifecycleTriggerFailedTag subscriber)
    { owed := owed
      newlyOwed := all.filter (!audience.here.contains ·)
      unresolved := pending && owed.isEmpty && !audience.fleetRead
      targets := all.filter (audience.here.contains ·) }
  else if resolves && !audience.fleetRead then
    { owed := owed, newlyOwed := healed, unresolved := true
      targets := audience.registered.filter (!delivered.contains ·) }
  else
    { owed := owed, newlyOwed := resolved ++ healed, unresolved := false
      targets := owed.filter (audience.here.contains ·) }

/-- The tags a publication leaves, by those it has read. -/
def publishedTags (audience : Audience) (opts : PublishOptions) (before : List String) :
    List String :=
  let plan := publishPlan audience opts before
  let taking := audience.here.filter (plan.targets.contains ·)
  let started := taking.filter fun subscriber => audience.delivery subscriber = .started
  let coalesced := taking.filter fun subscriber => audience.delivery subscriber = .coalesced
  let orphaned := audience.orphaned plan.owed
  let failed := taking.filter (fun subscriber => audience.delivery subscriber = .failed) ++ orphaned
  let done := plan.targets ++ orphaned
  let kept := (before.filter fun tag =>
    !(tagged lifecycleOwedTagPrefix tag && done.contains (behind lifecycleOwedTagPrefix tag) ||
      tagged lifecycleTriggerFailedTagPrefix tag &&
        (started ++ coalesced).contains (behind lifecycleTriggerFailedTagPrefix tag))) ++
    (plan.newlyOwed.filter (!done.contains ·)).map lifecycleOwedTag
  let owedLeft := kept.any (tagged lifecycleOwedTagPrefix)
  ((kept.filter (· != lifecyclePendingTag)) ++
    (if owedLeft || plan.unresolved then [lifecyclePendingTag] else []) ++
    started.map (lifecycleTriggeredTagPrefix ++ ·) ++
    coalesced.map (lifecycleCoalescedTagPrefix ++ ·) ++
    failed.map lifecycleTriggerFailedTag).eraseDups

/-- A settled run's tags, the lease of its publishers, and what was written. -/
structure TagBoard where
  tags : List String
  lease : Option Nat := none
  /-- The rewrites of the tags, the latest first; no path reads it. -/
  rewrites : List (Rewrite String) := []
deriving DecidableEq

/-- One operation on the run's row. -/
inductive TagOp where
  | getRun
  /-- The tags are written; those they were computed from are not sent. -/
  | updateRun (read written : List String)
  /-- The run settles: its singleton tags are dropped with the write. -/
  | releaseSlot
  | tryLockRun (owner : Nat)
  | releaseRunLock (owner : Nat)
  | expire
deriving DecidableEq

/-- What an operation answers. -/
def TagOp.Answer : TagOp → Type
  | getRun => List String
  | tryLockRun _ => Bool
  | updateRun .. | releaseSlot | releaseRunLock _ | expire => Unit

/-- The tags without a singleton slot. -/
def withoutSlot (tags : List String) : List String := tags.filter (· ∉ singletonReservedTags)

/-- What an operation does to the row, and its answer. -/
def TagBoard.exec (board : TagBoard) : (op : TagOp) → TagBoard × op.Answer
  | .getRun => (board, board.tags)
  | .updateRun read written =>
    ({ board with tags := written, rewrites := ⟨read, written⟩ :: board.rewrites }, ())
  | .releaseSlot =>
    ({ board with
        tags := withoutSlot board.tags
        rewrites := ⟨board.tags, withoutSlot board.tags⟩ :: board.rewrites }, ())
  | .tryLockRun owner =>
    match board.lease with
    | some _ => (board, false)
    | none => ({ board with lease := some owner }, true)
  | .releaseRunLock owner =>
    ({ board with lease := if board.lease = some owner then none else board.lease }, ())
  | .expire => ({ board with lease := none }, ())

/-- A path that rewrites the tags of a settled run, or a part of one. -/
abbrev TagProgram (α : Type) := Program TagOp TagOp.Answer α

namespace TagProgram

/-- Read the tags. -/
def getRun : TagProgram (List String) := Program.perform TagOp.getRun

/-- Write tags that were computed from others. -/
def updateRun (read written : List String) : TagProgram Unit :=
  Program.perform (TagOp.updateRun read written)

/-- Take the lifecycle lease, if it is free. -/
def tryLockRun (owner : Nat) : TagProgram Bool := Program.perform (TagOp.tryLockRun owner)

/-- Let go of the lifecycle lease. -/
def releaseRunLock (owner : Nat) : TagProgram Unit :=
  Program.perform (TagOp.releaseRunLock owner)

/-- `markChildDelivered`: stamp a child, by the row its parent has read. -/
def markChildDelivered : TagProgram Unit := do
  let tags ← getRun
  if childDeliveredTag ∈ tags then .done () else updateRun tags (tags ++ [childDeliveredTag])

/-- `publishSettledLeased`: deliver the event, and write what became of it. -/
def publishSettledLeased (audience : Audience) (opts : PublishOptions) : TagProgram Unit := do
  let before ← getRun
  let tags := publishedTags audience opts before
  if tags.length ≠ before.length ∨ tags.any (!before.contains ·) then updateRun before tags
  else .done ()

/-- `withLifecycleLease`: go on once the lease is free, or give up after so many attempts. -/
def withLifecycleLease (owner : Nat) (work : TagProgram Unit) : Nat → TagProgram Unit
  | 0 => .done ()
  | attempts + 1 => do
    let acquired ← tryLockRun owner
    if acquired then
      work
      releaseRunLock owner
    else withLifecycleLease owner work attempts

/-- How often the lease is asked for. -/
def leaseAttempts : Nat := 6

/-- `publishSettled`: publish under the run's lifecycle lease. -/
def publishSettled (owner : Nat) (audience : Audience) (opts : PublishOptions) :
    TagProgram Unit :=
  withLifecycleLease owner (publishSettledLeased audience opts) leaseAttempts

/-- `healLifecycleEvents`: publish to those the run was never marked for, but not to one twice. -/
def healLifecycleEvents (owner : Nat) (audience : Audience) (healed : List String) :
    TagProgram Unit := do
  let tags ← getRun
  let owed := owedSubscribersOf tags
  let missing := audience.subscribers.filter fun subscriber =>
    !owed.contains subscriber && !(deliveredSubscribersOf tags).contains subscriber &&
      !healed.contains subscriber
  if owed.isEmpty && tags.contains lifecyclePendingTag || missing.isEmpty then .done ()
  else publishSettled owner audience { heal := missing }

end TagProgram

/-- The paths that rewrite the tags of a settled run, and the clock of its publishers' lease. -/
inductive TagPath where
  | markChildDelivered
  | publishSettled (owner : Nat) (audience : Audience) (opts : PublishOptions)
  | healLifecycleEvents (owner : Nat) (audience : Audience) (healed : List String)
  | releaseSlot
  | expire

/-- The program of a path. -/
def TagPath.program : TagPath → TagProgram Unit
  | markChildDelivered => TagProgram.markChildDelivered
  | publishSettled owner audience opts => TagProgram.publishSettled owner audience opts
  | healLifecycleEvents owner audience healed =>
    TagProgram.healLifecycleEvents owner audience healed
  | releaseSlot => Program.perform TagOp.releaseSlot
  | expire => Program.perform TagOp.expire

end Durable
