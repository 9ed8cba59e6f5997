import Durable.Schedules.Bookkeeping

/-! One poller that ticks again and again, and what its ticks fire of a schedule. -/

namespace Durable

open Interleaving

/-- When a window of a schedule is to be fired: its jitter after it. -/
def ScheduleRecord.fireTime (record : ScheduleRecord) (window : Nat) : Nat :=
  window + jitterFor record.id window record.spec

/-- The library answers about a set of fires, on either side of every time that it can. -/
structure CronParser.Fires (parser : CronParser) (expr timezone : String) (fires : Nat → Prop) :
    Prop where
  prev : ∀ at', (∃ fire, fires fire ∧ fire < at') → ∃ found,
    parser.prev expr at' timezone = .ok found ∧ fires found ∧ found < at' ∧
      ∀ fire, fires fire → fire < at' → fire ≤ found
  next : ∀ at', ∃ found, parser.next expr at' timezone = .ok found ∧ fires found ∧ at' < found ∧
    ∀ fire, fires fire → at' < fire → found ≤ fire

/-- The windows of a definition: the fires of its cron expression, or the multiples of its
interval. -/
def SpecDoc.Windows (spec : SpecDoc) (parser : CronParser) (windows : Nat → Prop) : Prop :=
  match spec.cadence with
  | .cron expr => parser.Fires expr (spec.timezone.getD "UTC") windows
  | .every everyMs => ∀ time, windows time ↔ everyMs.val ∣ time

namespace ScheduleBoard

variable (board : ScheduleBoard)

/-- The windows of a schedule that have been started, in that order. -/
def started (id : String) : List Nat :=
  (board.starts.filter fun start => start.id = id).map (·.window)

/-- How many schedules are due. -/
def dueCount (dueBy : Nat) («namespace» : Option String) : Nat :=
  (board.schedules.stored.filter (isDue dueBy «namespace»)).length

end ScheduleBoard

namespace ScheduleClient

variable (client : ScheduleClient)

/-- The board after a tick at a time, while nothing else happens. -/
def tickAt (nowMs : Nat) (board : ScheduleBoard) : ScheduleBoard :=
  (client.tick.alone ScheduleBoard.exec { board with clockMs := nowMs }).1

/-- A schedule as `create` writes it at a time, not paused. -/
def Creates (opts : ScheduleOptions) (nowMs : Nat) (record : ScheduleRecord) : Prop :=
  ∃ spec window, toSpec opts = .ok spec ∧
    nextWindowAfter client.parser spec nowMs = .ok window ∧
    record = client.recordOf opts none spec nowMs window ∧ record.paused = false

/-- The client's ticks look for schedules of a namespace. -/
def serves («namespace» : String) : Bool :=
  client.namespace.all fun filter =>
    «namespace» == filter || (filter == "default" && «namespace» == "")

/-- Ticks at times that do not decrease, on boards that hold a schedule from its creation on. Between
two ticks anything may happen to the other schedules, and to the runs. -/
structure Polls (record : ScheduleRecord) (created : Nat) (ticks : Nat → Nat)
    (boards : Nat → ScheduleBoard) : Prop where
  serves : client.serves record.namespace = true
  row : (boards 0).schedules.get record.id = some record
  unstarted : (boards 0).started record.id = []
  later : created ≤ ticks 0
  ordered : ∀ n, ticks n ≤ ticks (n + 1)
  kept : ∀ n, (boards (n + 1)).schedules.get record.id =
    (client.tickAt (ticks n) (boards n)).schedules.get record.id
  undone : ∀ n, (boards (n + 1)).started record.id =
    (client.tickAt (ticks n) (boards n)).started record.id
  works : ∀ n, (boards n).draining = false ∧ (boards n).outage = none
  keyed : ∀ n id row, (boards n).schedules.get id = some row → row.id = id
  /-- A tick's rounds are enough for the schedules that are due. -/
  few : ∀ n, (boards n).dueCount (ticks n) client.namespace ≤ 50 * tickBatch

/-- The windows of a schedule that have been started when a tick is over. -/
def fired (record : ScheduleRecord) (ticks : Nat → Nat) (boards : Nat → ScheduleBoard) (n : Nat) :
    List Nat :=
  (client.tickAt (ticks n) (boards n)).started record.id

end ScheduleClient

/-- A window is the one after another. -/
def Follows (windows : Nat → Prop) (window next : Nat) : Prop :=
  windows next ∧ window < next ∧ ∀ other, windows other → window < other → next ≤ other

/-- Every window after a schedule's creation is fired, exactly once and in order, and none before its
own fire time. -/
structure FiresEveryWindow (record : ScheduleRecord) (windows : Nat → Prop) (created : Nat)
    (ticks : Nat → Nat) (fired : Nat → List Nat) : Prop where
  each : ∀ window, windows window → created < window → ∃ n, window ∈ fired n
  inOrder : ∀ n, (fired n).Pairwise (· < ·)
  grows : ∀ n, fired n <+: fired (n + 1)
  notEarly : ∀ n, ∀ window ∈ fired n, record.fireTime window ≤ ticks n
  noOther : ∀ n, ∀ window ∈ fired n, windows window ∧ created < window

/-- Some tick falls between each window's fire time and the fire time of the window after it. -/
def TickedBetweenFires (record : ScheduleRecord) (windows : Nat → Prop) (created : Nat)
    (ticks : Nat → Nat) : Prop :=
  ∀ window next, windows window → created < window → Follows windows window next →
    ∃ n, record.fireTime window ≤ ticks n ∧ ticks n < record.fireTime next

/-- Some tick falls between each window's fire time and the window after it, and, if late windows are
skipped, while the window is on time. -/
def TickedInTime (record : ScheduleRecord) (windows : Nat → Prop) (created : Nat)
    (ticks : Nat → Nat) : Prop :=
  ∀ window next, windows window → created < window → Follows windows window next →
    ∃ n, record.fireTime window ≤ ticks n ∧ ticks n < next ∧
      (record.spec.catchup = .skip →
        ticks n ≤ window + onTimeGraceMs + record.spec.jitterMs.getD 0)

end Durable
