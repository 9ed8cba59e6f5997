import Durable.Proofs.Schedules.Ticks

/-! What `overlap: 'skip'` keeps apart, over every sequence of ticks. -/

namespace Durable

open Interleaving

section Lifetimes

variable (lifetime : String → Nat)

/-- A run is in flight at a time: it was started by then, and its lifetime is not over. -/
def RunsAt (runs : Table String ScheduledRun) (runId : String) (atMs : Nat) : Prop :=
  ∃ run, runs.get runId = some run ∧ run.startedAt ≤ atMs ∧ atMs < run.startedAt + lifetime runId

/-- What a tick reads of a run is whether its lifetime is over. -/
def Tick.Times (tick : Tick) : Prop :=
  ∀ runId run, tick.inFlight runId run = decide (tick.nowMs < run.startedAt + lifetime runId)

def SchedulerWorld.Excludes (key : String) (world : SchedulerWorld) : Prop :=
  ∀ atMs left right, RunsAt lifetime world.runs (windowRunId key left) atMs →
    RunsAt lifetime world.runs (windowRunId key right) atMs → left = right

/-- A window that a step to another world starts is not started while the run of an earlier
window is in flight. -/
def SchedulerWorld.StartsClear (key : String) (world after : SchedulerWorld) (atMs : Nat) : Prop :=
  ∀ earlier later, earlier < later → world.runs.get (windowRunId key later) = none →
    (after.runs.get (windowRunId key later)).isSome →
    ¬RunsAt lifetime after.runs (windowRunId key earlier) atMs

/-- The worlds that ticks reach at non-decreasing times, each tick being allowed where it comes. -/
inductive TickedWorld (parser : CronParser) (schedules : List ScheduledWorkflow)
    (allowed : SchedulerWorld → Nat → Tick → Prop) : Nat → SchedulerWorld → Prop where
  | fresh : TickedWorld parser schedules allowed 0 {}
  | tick {nowMs : Nat} {world : SchedulerWorld} (engine : Nat) (tick : Tick) :
      TickedWorld parser schedules allowed nowMs world → nowMs ≤ tick.nowMs →
      tick.Times lifetime → allowed world engine tick →
      TickedWorld parser schedules allowed tick.nowMs
        (world.move parser SchedulerMemory.settled schedules (.tick engine tick))

variable (parser : CronParser)

/-- The windows that a tick has to start for a schedule: they have no run, and their fire time
has come. -/
def Tick.toStart (tick : Tick) (s : ScheduledWorkflow) (runs : Table String ScheduledRun)
    (memory : SchedulerMemory) : List String :=
  match scheduleCandidates parser SchedulerMemory.settled s memory tick.nowMs with
  | .error _ => []
  | .ok candidates =>
    (tick.firing s memory candidates).2.filter fun runId => (runs.get runId).isNone

/-- Unless the overlap check leaves the schedule out, a window to start is the only one, and no
run of the schedule is in flight but that of the bucket before the tick's. -/
def Tick.OnlyNeighbour (s : ScheduledWorkflow) (everyMs : { ms : Nat // 0 < ms })
    (world : SchedulerWorld) (engine : Nat) (tick : Tick) : Prop :=
  tick.overlaps s world.runs = .ok false →
    ∀ runId ∈ tick.toStart parser s world.runs (world.memory engine),
      (∀ other ∈ tick.toStart parser s world.runs (world.memory engine), other = runId) ∧
      ∀ window, RunsAt lifetime world.runs (windowRunId s.key window) tick.nowMs →
        window + 1 = tick.nowMs / everyMs.val

end Lifetimes

/-- The runs of a schedule do not overlap: of any two, one is over when the other starts. -/
def Spaced (lifetime : String → Nat) (key : String) (runs : Table String ScheduledRun) : Prop :=
  ∀ left right leftRun rightRun, left ≠ right →
    runs.get (windowRunId key left) = some leftRun →
    runs.get (windowRunId key right) = some rightRun →
    leftRun.startedAt + lifetime (windowRunId key left) ≤ rightRun.startedAt ∨
      rightRun.startedAt + lifetime (windowRunId key right) ≤ leftRun.startedAt

theorem Spaced.excludes {lifetime : String → Nat} {key : String} {world : SchedulerWorld}
    (spaced : Spaced lifetime key world.runs) : world.Excludes lifetime key := by
  intro atMs left right leftRuns rightRuns
  obtain ⟨leftRun, leftHeld, leftStarted, leftEnds⟩ := leftRuns
  obtain ⟨rightRun, rightHeld, rightStarted, rightEnds⟩ := rightRuns
  by_contra different
  have ended := spaced left right leftRun rightRun different leftHeld rightHeld
  omega

section Steps

variable (parser : CronParser) {s : ScheduledWorkflow} (tick : Tick) {other pass : SchedulePass}

theorem scheduleCandidates_same (same : pass.SameFor s.key other) (nowMs : Nat) :
    scheduleCandidates parser SchedulerMemory.settled s other.memory nowMs =
      scheduleCandidates parser SchedulerMemory.settled s pass.memory nowMs := by
  simp only [scheduleCandidates, scheduleWindows, SchedulerMemory.deferredWindows, same.settled,
    same.deferred]

theorem Tick.firing_same (same : pass.SameFor s.key other) (candidates : List String) :
    (tick.firing s other.memory candidates).2 = (tick.firing s pass.memory candidates).2 := by
  unfold Tick.firing
  split
  · simp only [Tick.jitterDue, Tick.fireTimes, same.deferred]
  · rfl

theorem Tick.overlaps_same (same : pass.SameFor s.key other) :
    tick.overlaps s other.runs = tick.overlaps s pass.runs := by
  unfold Tick.overlaps
  cases s.overlap with
  | allow => rfl
  | skip =>
    cases s.everyMs with
    | none => rfl
    | some everyMs =>
      simp only []
      cases tick.nowMs / everyMs.val with
      | zero => rfl
      | succ previous => simp only [same.runs]

/-- What a tick does to a window of a schedule: nothing, or it starts the window, which it had
to start and which the overlap check did not hold back. -/
theorem Tick.runEach_starts (schedules : List ScheduledWorkflow) (listed : s ∈ schedules)
    (distinct : (schedules.map (·.key)).Nodup) (pass : SchedulePass)
    (named : pass.memory.Named) (window : Nat) :
    (tick.runEach parser SchedulerMemory.settled schedules pass).runs.get
        (windowRunId s.key window) = pass.runs.get (windowRunId s.key window) ∨
      pass.runs.get (windowRunId s.key window) = none ∧
        tick.overlaps s pass.runs = .ok false ∧
        windowRunId s.key window ∈ tick.toStart parser s pass.runs pass.memory ∧
        ∃ run, (tick.runEach parser SchedulerMemory.settled schedules pass).runs.get
            (windowRunId s.key window) = some run ∧ run.startedAt = tick.nowMs := by
  rcases tick.runEach_part parser SchedulerMemory.settled schedules listed distinct named with
    same | ⟨before, same, -, part⟩
  · exact .inl (same.runs window)
  · rw [part.runs window]
    rcases tick.runSchedule_cases parser SchedulerMemory.settled s before with untouched | fires
    · rw [untouched.1]
      exact .inl (same.runs window)
    · obtain ⟨candidates, found, open', result⟩ := fires
      rw [result]
      rcases tick.fireEach_runs s (tick.firing s before.memory candidates).2
        { before with memory := (tick.firing s before.memory candidates).1 }
        (windowRunId s.key window) with kept | ⟨fired, absent, run, held, started⟩
      · exact .inl (kept.trans (same.runs window))
      · have none' : pass.runs.get (windowRunId s.key window) = none :=
          (same.runs window).symm.trans absent
        refine .inr ⟨none', (tick.overlaps_same same).symm.trans open', ?_, run, held, started⟩
        rw [scheduleCandidates_same parser same] at found
        rw [tick.firing_same same] at fired
        simp only [Tick.toStart, found]
        exact List.mem_filter.mpr ⟨fired, by simp [none']⟩

/-- An overlap check that lets a schedule through has not found the previous bucket's run in
flight. -/
theorem Tick.overlaps_previous {lifetime : String → Nat} {everyMs : { ms : Nat // 0 < ms }}
    (times : tick.Times lifetime) (interval : s.everyMs = some everyMs)
    (skip : s.overlap = .skip) {runs : Table String ScheduledRun}
    (through : tick.overlaps s runs = .ok false) {window : Nat}
    (previous : window + 1 = tick.nowMs / everyMs.val) :
    ¬RunsAt lifetime runs (windowRunId s.key window) tick.nowMs := by
  intro inFlight
  obtain ⟨run, held, -, ends⟩ := inFlight
  simp only [Tick.overlaps, skip, interval, ← previous] at through
  cases read : tick.readError (.previous s.key (windowRunId s.key window)) with
  | some error => simp [read] at through
  | none =>
    have running : tick.inFlight (windowRunId s.key window) run = true := by
      rw [times]
      exact decide_eq_true ends
    simp [read, held, running] at through

end Steps

section Runs

variable {parser : CronParser} {schedules : List ScheduledWorkflow} {lifetime : String → Nat}
  {s : ScheduledWorkflow} {everyMs : { ms : Nat // 0 < ms }}

/-- What holds of the worlds that ticks reach. -/
structure SchedulerWorld.Kept (lifetime : String → Nat) (key : String) (nowMs : Nat)
    (world : SchedulerWorld) : Prop where
  named : ∀ engine, (world.memory engine).Named
  past : ∀ window run, world.runs.get (windowRunId key window) = some run → run.startedAt ≤ nowMs
  spaced : Spaced lifetime key world.runs

section Tick

variable {nowMs : Nat} {world : SchedulerWorld} (kept : world.Kept lifetime s.key nowMs)
  (listed : s ∈ schedules) (distinct : (schedules.map (·.key)).Nodup)
  (interval : s.everyMs = some everyMs) (skip : s.overlap = .skip) (engine : Nat) (tick : Tick)
  (times : tick.Times lifetime)
  (neighbour : tick.OnlyNeighbour lifetime parser s everyMs world engine)
include kept listed distinct interval skip times neighbour

theorem SchedulerWorld.Kept.starts_alone {later : Nat}
    (absent : world.runs.get (windowRunId s.key later) = none)
    (started : ((world.move parser SchedulerMemory.settled schedules (.tick engine tick)).runs.get
      (windowRunId s.key later)).isSome) {other : Nat} (different : other ≠ later) :
    (world.move parser SchedulerMemory.settled schedules (.tick engine tick)).runs.get
        (windowRunId s.key other) = world.runs.get (windowRunId s.key other) ∧
      ¬RunsAt lifetime world.runs (windowRunId s.key other) tick.nowMs := by
  have starts := tick.runEach_starts parser schedules listed distinct
    (world.pass engine) (kept.named engine)
  rcases starts later with unchanged | ⟨-, through, mine, -⟩
  · exact absurd (unchanged.trans absent) (Option.isSome_iff_ne_none.mp started)
  · have alone := neighbour through _ mine
    constructor
    · rcases starts other with same | ⟨-, -, also, -⟩
      · exact same
      · exact absurd (windowRunId_injective (alone.1 _ also)).2 different
    · intro inFlight
      -- A run in flight is that of the bucket before, which the overlap check has read.
      have previous := alone.2 other inFlight
      exact tick.overlaps_previous times interval skip through previous inFlight

theorem SchedulerWorld.Kept.startsClear :
    world.StartsClear lifetime s.key
      (world.move parser SchedulerMemory.settled schedules (.tick engine tick)) tick.nowMs := by
  intro earlier later order absent started inFlight
  have alone := kept.starts_alone listed distinct interval skip engine tick times neighbour absent
    started (show earlier ≠ later by omega)
  obtain ⟨run, held, begun, ends⟩ := inFlight
  exact alone.2 ⟨run, alone.1.symm.trans held, begun, ends⟩

/-- A tick keeps the runs of a schedule apart where only the neighbouring bucket's run can be in
flight. -/
theorem SchedulerWorld.Kept.after (later : nowMs ≤ tick.nowMs) :
    (world.move parser SchedulerMemory.settled schedules (.tick engine tick)).Kept lifetime s.key
      tick.nowMs := by
  have starts := tick.runEach_starts parser schedules listed distinct
    (world.pass engine) (kept.named engine)
  have ended : ∀ old new oldRun newRun, old ≠ new →
      world.runs.get (windowRunId s.key new) = none → newRun.startedAt = tick.nowMs →
      (world.move parser SchedulerMemory.settled schedules (.tick engine tick)).runs.get
        (windowRunId s.key new) = some newRun →
      (world.move parser SchedulerMemory.settled schedules (.tick engine tick)).runs.get
        (windowRunId s.key old) = some oldRun →
      oldRun.startedAt + lifetime (windowRunId s.key old) ≤ newRun.startedAt := by
    intro old new oldRun newRun different absent started newHeld oldHeld
    have alone := kept.starts_alone listed distinct interval skip engine tick times neighbour
      absent (by rw [newHeld]; rfl) different
    have held := alone.1.symm.trans oldHeld
    have past := kept.past old oldRun held
    by_contra inFlight
    exact alone.2 ⟨oldRun, held, by omega, by omega⟩
  refine ⟨?_, ?_, ?_⟩
  · intro other
    by_cases same : other = engine
    · simp only [SchedulerWorld.move, SchedulerWorld.after, same, if_true]
      exact tick.runEach_named parser _ schedules (kept.named engine)
    · simp only [SchedulerWorld.move, SchedulerWorld.after, same, if_false]
      exact kept.named other
  · intro window run held
    rcases starts window with unchanged | ⟨-, -, -, new, newHeld, started⟩
    · have old := kept.past window run (unchanged.symm.trans held)
      omega
    · have same : new = run := Option.some.inj (newHeld.symm.trans held)
      rw [← same, started]
  · intro left right leftRun rightRun different leftHeld rightHeld
    rcases starts left with leftOld | ⟨leftNone, -, -, new, newHeld, started⟩
    · rcases starts right with rightOld | ⟨rightNone, -, -, new, newHeld, started⟩
      · exact kept.spaced left right leftRun rightRun different (leftOld.symm.trans leftHeld)
          (rightOld.symm.trans rightHeld)
      · have same : new = rightRun := Option.some.inj (newHeld.symm.trans rightHeld)
        subst same
        exact .inl (ended left right leftRun new different rightNone started rightHeld leftHeld)
    · have same : new = leftRun := Option.some.inj (newHeld.symm.trans leftHeld)
      subst same
      exact .inr (ended right left rightRun new (Ne.symm different) leftNone started leftHeld
        rightHeld)

end Tick

theorem TickedWorld.kept (listed : s ∈ schedules) (distinct : (schedules.map (·.key)).Nodup)
    (interval : s.everyMs = some everyMs) (skip : s.overlap = .skip) {nowMs : Nat}
    {world : SchedulerWorld}
    (reached : TickedWorld lifetime parser schedules
      (fun world engine tick => tick.OnlyNeighbour lifetime parser s everyMs world engine)
      nowMs world) : world.Kept lifetime s.key nowMs := by
  induction reached with
  | fresh =>
    refine ⟨?_, ?_, ?_⟩
    · intro engine key runId put
      simp [SchedulerMemory.deferredWindows, SchedulerMemory.deferred] at put
    · intro window run held
      simp at held
    · intro left right leftRun rightRun different held
      simp at held
  | tick engine tick _ later times neighbour kept =>
    exact kept.after listed distinct interval skip engine tick times neighbour later

end Runs

section Examples

/-- A schedule every ten milliseconds that skips overlapping windows. -/
def everyTen : ScheduledWorkflow :=
  { key := "sync", workflow := .named "sync", everyMs := some tenMs, overlap := .skip }

def noCron : CronParser where
  prev _ _ _ := .error "not a cron expression"
  next _ _ _ := .error "not a cron expression"

/-- A tick that reads every run as running until its lifetime is over. -/
def timedTick (lifetime : String → Nat) (nowMs : Nat) : Tick where
  nowMs := nowMs
  status runId run :=
    if nowMs < run.startedAt + lifetime runId then .running else .completed

theorem timedTick_times (lifetime : String → Nat) (nowMs : Nat) :
    (timedTick lifetime nowMs).Times lifetime := by
  intro runId run
  by_cases running : nowMs < run.startedAt + lifetime runId
  · simp [Tick.inFlight, timedTick, running]
  · simp [Tick.inFlight, timedTick, running]

def everyTenAfter (lifetime : String → Nat) (times : List Nat) : SchedulerWorld :=
  SchedulerWorld.play noCron SchedulerMemory.settled [everyTen] {}
    (times.map fun nowMs => .tick 0 (timedTick lifetime nowMs))

theorem onlyNeighbour_of_idle {lifetime : String → Nat} {world : SchedulerWorld} {tick : Tick}
    (idle : ∀ row ∈ world.runs.rows, row.2.startedAt + lifetime row.1 ≤ tick.nowMs)
    (single : ∀ runId ∈ tick.toStart noCron everyTen world.runs (world.memory 0),
      ∀ other ∈ tick.toStart noCron everyTen world.runs (world.memory 0), other = runId) :
    tick.OnlyNeighbour lifetime noCron everyTen tenMs world 0 := by
  intro _ runId starts
  refine ⟨single runId starts, ?_⟩
  intro window inFlight
  obtain ⟨run, held, -, ends⟩ := inFlight
  have ended := idle _ (Table.mem_rows _ held)
  simp only at ended
  omega

end Examples

end Durable
