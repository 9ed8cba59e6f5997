import Durable.Data.Ids
import Durable.Schedules.Ticks

/-! What a tick of the config schedules leaves alone, and what it can add. -/

namespace Durable

open Interleaving

variable {runId key other : String}

theorem windowRunId_injective {left right : String} {first second : Nat}
    (same : windowRunId left first = windowRunId right second) :
    left = right ∧ first = second := by
  have split : ∀ (key : String) (window : Nat),
      windowRunId key window = "sched:" ++ key ++ ":" ++ toString window := by
    intro key window
    rfl
  rw [split, split] at same
  obtain ⟨keys, windows⟩ :=
    separated_injective ":" (show ":".toList = [':'] by decide) (by decide) same
  exact ⟨(String.append_right_inj _).mp keys, windows⟩

/-- A run id is of one of a schedule's windows. -/
def WindowOf (key runId : String) : Prop := ∃ window, runId = windowRunId key window

theorem WindowOf.ne {otherId : String} (window : WindowOf key runId)
    (otherWindow : WindowOf other otherId) (different : key ≠ other) : runId ≠ otherId := by
  obtain ⟨first, rfl⟩ := window
  obtain ⟨second, rfl⟩ := otherWindow
  intro same
  exact different (windowRunId_injective same).1

section Windows

variable {parser : CronParser} {s : ScheduledWorkflow} {nowMs : Nat}

theorem scheduleRunIdAt_window (found : scheduleRunIdAt parser s nowMs = .ok runId) :
    WindowOf s.key runId := by
  unfold scheduleRunIdAt at found
  cases cron : s.cron with
  | some expr =>
    cases fire : prevCronFireMs parser expr nowMs s.timezone with
    | error error => simp [cron, fire, Except.map] at found
    | ok fired =>
      simp only [cron, fire, Except.map, Except.ok.injEq] at found
      exact ⟨fired, found.symm⟩
  | none =>
    cases every : s.everyMs with
    | none => simp [cron, every] at found
    | some everyMs =>
      simp only [cron, every, Except.ok.injEq] at found
      exact ⟨_, found.symm⟩

/-- The due windows are the schedule's. -/
theorem scheduleRunIdsAt_window {due : List String}
    (found : scheduleRunIdsAt parser s nowMs = .ok due) :
    ∀ runId ∈ due, WindowOf s.key runId := by
  unfold scheduleRunIdsAt at found
  cases current : scheduleRunIdAt parser s nowMs with
  | error error => simp [current, bind, Except.bind] at found
  | ok last =>
    have lastWindow := scheduleRunIdAt_window current
    have known : ∀ windows : List Nat, ∀ runId ∈ windows.map (windowRunId s.key) ++ [last],
        WindowOf s.key runId := by
      intro windows runId member
      rcases List.mem_append.mp member with listed | isLast
      · obtain ⟨window, -, rfl⟩ := List.mem_map.mp listed
        exact ⟨window, rfl⟩
      · rw [List.mem_singleton.mp isLast]
        exact lastWindow
    simp only [current, bind, Except.bind, pure, Except.pure] at found
    split at found
    · injection found with found
      subst found
      exact known []
    · cases every : s.everyMs with
      | some everyMs =>
        simp only [every, Except.ok.injEq] at found
        subst found
        exact known _
      | none =>
        cases cron : s.cron with
        | none =>
          simp only [every, cron, Except.ok.injEq] at found
          subst found
          exact known []
        | some expr =>
          simp only [every, cron] at found
          cases fire : prevCronFireMs parser expr nowMs s.timezone with
          | error error => simp [fire] at found
          | ok cursor =>
            simp only [fire] at found
            cases prior : priorFires parser expr s.timezone (s.maxCatchup.getD 0) cursor with
            | error error => simp [prior] at found
            | ok fires =>
              simp only [prior, Except.ok.injEq] at found
              subst found
              rw [← List.map_reverse]
              exact known _

end Windows

theorem mem_firstOccurrences {ids : List String} : runId ∈ firstOccurrences ids ↔ runId ∈ ids := by
  induction ids with
  | nil => simp [firstOccurrences]
  | cons first rest ih =>
    by_cases same : runId = first
    · simp [firstOccurrences, same]
    · simp [firstOccurrences, same, ih]

/-- The windows put off for a key are windows of the schedule of that key. -/
def SchedulerMemory.Named (memory : SchedulerMemory) : Prop :=
  ∀ key, ∀ runId ∈ memory.deferredWindows key, WindowOf key runId

section Memory

variable (memory : SchedulerMemory)

/-- Noting an id puts no window off. -/
@[simp] theorem SchedulerMemory.remember_deferred (key runId other : String) :
    (memory.remember key runId).deferred other = memory.deferred other := by
  unfold SchedulerMemory.remember
  cases memory.settledRunIds.get key <;> rfl

/-- Noting an id puts no window off. -/
@[simp] theorem SchedulerMemory.remember_deferredWindows (key runId other : String) :
    (memory.remember key runId).deferredWindows other = memory.deferredWindows other := by
  simp [SchedulerMemory.deferredWindows]

theorem SchedulerMemory.remember_settled_ne (runId : String) (different : key ≠ other) :
    (memory.remember key runId).settled other = memory.settled other := by
  unfold SchedulerMemory.remember SchedulerMemory.settled
  cases memory.settledRunIds.get key with
  | none => simp [Table.get_set_ne _ _ different]
  | some seen => simp [Table.get_set_ne _ _ different]

theorem SchedulerMemory.mem_remember {known : String}
    (noted : known ∈ (memory.remember key runId).settled key) :
    known = runId ∨ known ∈ memory.settled key := by
  unfold SchedulerMemory.remember at noted
  unfold SchedulerMemory.settled at *
  cases held : memory.settledRunIds.get key with
  | none =>
    simp only [held, Table.get_set_self, Option.getD_some, List.mem_singleton] at noted
    exact .inl noted
  | some seen =>
    simp only [held, Table.get_set_self, Option.getD_some] at noted ⊢
    by_cases many : 64 < (if runId ∈ seen then seen else seen ++ [runId]).length
    · rw [if_pos many] at noted
      exact .inl (List.mem_singleton.mp noted)
    · rw [if_neg many] at noted
      by_cases old : runId ∈ seen
      · rw [if_pos old] at noted
        exact .inr noted
      · rw [if_neg old] at noted
        rcases List.mem_append.mp noted with earlier | new
        · exact .inr earlier
        · exact .inl (List.mem_singleton.mp new)

end Memory

section Firing

variable (tick : Tick) (s : ScheduledWorkflow) (memory : SchedulerMemory)
  (candidates : List String)

theorem Tick.mem_firing (fires : runId ∈ (tick.firing s memory candidates).2) :
    runId ∈ candidates := by
  unfold Tick.firing at fires
  split at fires
  · simp only [Tick.jitterDue, Tick.fireTimes, List.mem_map, List.mem_filter] at fires
    obtain ⟨_, ⟨⟨candidate, member, rfl⟩, -⟩, rfl⟩ := fires
    exact member
  · exact fires

theorem Tick.mem_firing_deferred
    (later : runId ∈ ((tick.firing s memory candidates).1).deferredWindows s.key) :
    runId ∈ candidates := by
  unfold Tick.firing at later
  split at later
  · simp only [Tick.jitterDue, SchedulerMemory.deferredWindows, SchedulerMemory.deferred,
      Table.get_set_self, Option.getD_some, Tick.fireTimes, List.mem_map, List.mem_filter] at later
    obtain ⟨_, ⟨⟨candidate, member, rfl⟩, -⟩, rfl⟩ := later
    exact member
  · simp [SchedulerMemory.deferredWindows, SchedulerMemory.deferred] at later

theorem Tick.firing_deferred_ne (different : s.key ≠ other) :
    ((tick.firing s memory candidates).1).deferred other = memory.deferred other := by
  unfold Tick.firing
  split
  · simp [Tick.jitterDue, SchedulerMemory.deferred, Table.get_set_ne _ _ different]
  · simp [SchedulerMemory.deferred, Table.get_erase_ne _ different]

/-- Choosing what fires notes nothing. -/
@[simp] theorem Tick.firing_settled (other : String) :
    ((tick.firing s memory candidates).1).settled other = memory.settled other := by
  unfold Tick.firing
  split <;> rfl

theorem Tick.firing_named (named : memory.Named)
    (windows : ∀ runId ∈ candidates, WindowOf s.key runId) :
    ((tick.firing s memory candidates).1).Named := by
  intro key runId later
  by_cases same : s.key = key
  · subst same
    exact windows runId (tick.mem_firing_deferred s memory candidates later)
  · rw [SchedulerMemory.deferredWindows, tick.firing_deferred_ne s memory candidates same] at later
    exact named key runId later

end Firing

section Candidates

variable {parser : CronParser} {s : ScheduledWorkflow} {memory : SchedulerMemory} {nowMs : Nat}

theorem scheduleWindows_eq :
    scheduleWindows parser s memory nowMs = (scheduleRunIdsAt parser s nowMs).map fun due =>
      if 0 < s.jitter then firstOccurrences (memory.deferredWindows s.key ++ due) else due := by
  unfold scheduleWindows
  cases scheduleRunIdsAt parser s nowMs <;> rfl

theorem scheduleWindows_window (named : memory.Named) {windows : List String}
    (found : scheduleWindows parser s memory nowMs = .ok windows) :
    ∀ runId ∈ windows, WindowOf s.key runId := by
  rw [scheduleWindows_eq] at found
  cases due : scheduleRunIdsAt parser s nowMs with
  | error error => simp [due, Except.map] at found
  | ok ids =>
    simp only [due, Except.map, Except.ok.injEq] at found
    subst found
    intro runId listed
    split at listed
    · rcases List.mem_append.mp (mem_firstOccurrences.mp listed) with put | isDue
      · exact named s.key runId put
      · exact scheduleRunIdsAt_window due runId isDue
    · exact scheduleRunIdsAt_window due runId listed

theorem scheduleCandidates_window {known : KnownIds} (named : memory.Named)
    {candidates : List String}
    (found : scheduleCandidates parser known s memory nowMs = .ok candidates) :
    ∀ runId ∈ candidates, WindowOf s.key runId := by
  unfold scheduleCandidates at found
  cases all : scheduleWindows parser s memory nowMs with
  | error error => simp [all, Except.map] at found
  | ok windows =>
    simp only [all, Except.map, Except.ok.injEq] at found
    subst found
    intro runId member
    exact scheduleWindows_window named all runId (List.mem_filter.mp member).1

end Candidates

/-- How firing a window and those after it goes. -/
inductive Tick.FiresFirst (tick : Tick) (s : ScheduledWorkflow) (runId : String)
    (rest : List String) (pass : SchedulePass) : SchedulePass → Prop where
  | draining : tick.drainingAtWindow s.key runId = true →
      Tick.FiresFirst tick s runId rest pass pass
  | unread {error : String} : tick.drainingAtWindow s.key runId = false →
      tick.readError (.existing s.key runId) = some error →
      Tick.FiresFirst tick s runId rest pass (pass.throw error)
  | present {run : ScheduledRun} : tick.drainingAtWindow s.key runId = false →
      tick.readError (.existing s.key runId) = none → pass.runs.get runId = some run →
      Tick.FiresFirst tick s runId rest pass (tick.fireEach s rest (pass.noted s.key runId))
  | threw : tick.drainingAtWindow s.key runId = false →
      tick.readError (.existing s.key runId) = none → pass.runs.get runId = none →
      (tick.fire s runId (pass.noted s.key runId)).thrown.isSome = true →
      Tick.FiresFirst tick s runId rest pass (tick.fire s runId (pass.noted s.key runId))
  | fired : tick.drainingAtWindow s.key runId = false →
      tick.readError (.existing s.key runId) = none → pass.runs.get runId = none →
      (tick.fire s runId (pass.noted s.key runId)).thrown = none →
      Tick.FiresFirst tick s runId rest pass
        (tick.fireEach s rest (tick.fire s runId (pass.noted s.key runId)))

section Passes

variable (tick : Tick)

theorem SchedulePass.create_runs (pass : SchedulePass) (runId : String) (run : ScheduledRun)
    (other : String) :
    (pass.create runId run).runs.get other =
      if other = runId then some ((pass.runs.get runId).getD run) else pass.runs.get other := by
  unfold SchedulePass.create
  cases held : pass.runs.get runId with
  | none =>
    simp only [Table.get_set]
    by_cases same : other = runId
    · simp [same]
    · simp [same, Ne.symm same]
  | some found =>
    by_cases same : other = runId
    · simp [same, held]
    · simp [same]

/-- Creating a run leaves the memory as it is. -/
@[simp] theorem SchedulePass.create_memory (pass : SchedulePass) (runId : String)
    (run : ScheduledRun) : (pass.create runId run).memory = pass.memory := by
  unfold SchedulePass.create
  cases pass.runs.get runId <;> rfl

/-- A fired window changes the memory in nothing. -/
@[simp] theorem Tick.fire_memory (s : ScheduledWorkflow) (runId : String) (pass : SchedulePass) :
    (tick.fire s runId pass).memory = pass.memory := by
  unfold Tick.fire
  cases resolveSchedule s with
  | error error => rfl
  | ok workflow =>
    cases answer : tick.start runId with
    | started => simp
    | threw created error => cases created <;> simp [SchedulePass.throw]

theorem Tick.fire_runs (s : ScheduledWorkflow) (runId : String) (pass : SchedulePass)
    (absent : pass.runs.get runId = none) (other : String) :
    (tick.fire s runId pass).runs.get other = pass.runs.get other ∨
      other = runId ∧ ∃ run, (tick.fire s runId pass).runs.get other = some run ∧
        run.startedAt = tick.nowMs := by
  unfold Tick.fire
  cases resolveSchedule s with
  | error error => exact .inl rfl
  | ok workflow =>
    by_cases same : other = runId
    · subst same
      cases answer : tick.start other with
      | started => exact .inr ⟨rfl, by simp [SchedulePass.create_runs, absent]⟩
      | threw created error =>
        cases created with
        | false => exact .inl rfl
        | true =>
          exact .inr ⟨rfl, by simp [SchedulePass.throw, SchedulePass.create_runs, absent]⟩
    · apply Or.inl
      cases answer : tick.start runId with
      | started => simp [SchedulePass.create_runs, same]
      | threw created error =>
        cases created <;> simp [SchedulePass.throw, SchedulePass.create_runs, same]

theorem Tick.fireEach_cons (s : ScheduledWorkflow) (runId : String) (rest : List String)
    (pass : SchedulePass) :
    tick.FiresFirst s runId rest pass (tick.fireEach s (runId :: rest) pass) := by
  cases drain : tick.drainingAtWindow s.key runId with
  | true =>
    rw [show tick.fireEach s (runId :: rest) pass = pass by simp [Tick.fireEach, drain]]
    exact .draining drain
  | false =>
    cases read : tick.readError (.existing s.key runId) with
    | some error =>
      rw [show tick.fireEach s (runId :: rest) pass = pass.throw error by
        simp [Tick.fireEach, drain, read]]
      exact .unread drain read
    | none =>
      cases held : pass.runs.get runId with
      | some run =>
        rw [show tick.fireEach s (runId :: rest) pass =
          tick.fireEach s rest (pass.noted s.key runId) by simp [Tick.fireEach, drain, read, held]]
        exact .present drain read held
      | none =>
        cases answer : (tick.fire s runId (pass.noted s.key runId)).thrown with
        | some error =>
          rw [show tick.fireEach s (runId :: rest) pass =
            tick.fire s runId (pass.noted s.key runId) by
              simp [Tick.fireEach, drain, read, held, answer]]
          exact .threw drain read held (by simp [answer])
        | none =>
          rw [show tick.fireEach s (runId :: rest) pass =
            tick.fireEach s rest (tick.fire s runId (pass.noted s.key runId)) by
              simp [Tick.fireEach, drain, read, held, answer]]
          exact .fired drain read held answer

/-- The runs after windows were fired: each held one is kept, and an added one is of a fired
window that had none, started now. -/
theorem Tick.fireEach_runs (s : ScheduledWorkflow) (ids : List String) (pass : SchedulePass)
    (other : String) :
    (tick.fireEach s ids pass).runs.get other = pass.runs.get other ∨
      other ∈ ids ∧ pass.runs.get other = none ∧
        ∃ run, (tick.fireEach s ids pass).runs.get other = some run ∧
          run.startedAt = tick.nowMs := by
  induction ids generalizing pass with
  | nil => exact .inl rfl
  | cons runId rest ih =>
    have started (absent : pass.runs.get runId = none) :=
      tick.fire_runs s runId (pass.noted s.key runId) absent other
    have step := tick.fireEach_cons s runId rest pass
    generalize tick.fireEach s (runId :: rest) pass = after at step ⊢
    cases step with
    | draining => exact .inl rfl
    | unread => exact .inl rfl
    | present =>
      rcases ih (pass.noted s.key runId) with kept | added
      · exact .inl kept
      · exact .inr ⟨List.mem_cons_of_mem _ added.1, added.2⟩
    | threw _ _ absent _ =>
      rcases started absent with kept | added
      · exact .inl kept
      · exact .inr ⟨by simp [added.1], by rw [added.1]; exact absent, added.2⟩
    | fired _ _ absent _ =>
      -- What the first start left is what the others begin with.
      rcases ih (tick.fire s runId (pass.noted s.key runId)) with kept | added
      · rw [kept]
        rcases started absent with kept | added
        · exact .inl kept
        · exact .inr ⟨by simp [added.1], by rw [added.1]; exact absent, added.2⟩
      · rcases started absent with kept | first
        · refine .inr ⟨List.mem_cons_of_mem _ added.1, ?_, added.2.2⟩
          exact kept.symm.trans added.2.1
        · obtain ⟨-, run, held, -⟩ := first
          rw [held] at added
          exact absurd added.2.1 (by simp)

/-- Firing windows puts none off. -/
@[simp] theorem Tick.fireEach_deferred (s : ScheduledWorkflow) (ids : List String)
    (pass : SchedulePass) (other : String) :
    (tick.fireEach s ids pass).memory.deferred other = pass.memory.deferred other := by
  induction ids generalizing pass with
  | nil => rfl
  | cons runId rest ih =>
    have step := tick.fireEach_cons s runId rest pass
    generalize tick.fireEach s (runId :: rest) pass = after at step ⊢
    cases step with
    | draining => rfl
    | unread => rfl
    | present => rw [ih]; simp [SchedulePass.noted]
    | threw => simp [SchedulePass.noted]
    | fired => rw [ih]; simp [SchedulePass.noted]

theorem Tick.fireEach_settled_ne (s : ScheduledWorkflow) (ids : List String) (pass : SchedulePass)
    (different : s.key ≠ other) :
    (tick.fireEach s ids pass).memory.settled other = pass.memory.settled other := by
  induction ids generalizing pass with
  | nil => rfl
  | cons runId rest ih =>
    have noted := pass.memory.remember_settled_ne runId different
    have step := tick.fireEach_cons s runId rest pass
    generalize tick.fireEach s (runId :: rest) pass = after at step ⊢
    cases step with
    | draining => rfl
    | unread => rfl
    | present =>
      rw [ih]
      exact noted
    | threw =>
      rw [Tick.fire_memory]
      exact noted
    | fired =>
      rw [ih, Tick.fire_memory]
      exact noted

end Passes

/-- Two passes are the same for the schedule of a key. -/
structure SchedulePass.SameFor (key : String) (pass other : SchedulePass) : Prop where
  runs : ∀ window, other.runs.get (windowRunId key window) =
    pass.runs.get (windowRunId key window)
  settled : other.memory.settled key = pass.memory.settled key
  deferred : other.memory.deferred key = pass.memory.deferred key

theorem SchedulePass.SameFor.refl (key : String) (pass : SchedulePass) :
    SchedulePass.SameFor key pass pass :=
  ⟨fun _ => rfl, rfl, rfl⟩

theorem SchedulePass.SameFor.trans {first second third : SchedulePass}
    (before : first.SameFor key second) (after : second.SameFor key third) :
    first.SameFor key third :=
  ⟨fun window => (after.runs window).trans (before.runs window),
    after.settled.trans before.settled, after.deferred.trans before.deferred⟩

section Schedules

variable (parser : CronParser) (known : KnownIds) (tick : Tick) {pass : SchedulePass}

theorem Tick.runSchedule_cases (s : ScheduledWorkflow) (pass : SchedulePass) :
    ((tick.runSchedule parser known s pass).runs = pass.runs ∧
      (tick.runSchedule parser known s pass).memory = pass.memory) ∨
    ∃ candidates, scheduleCandidates parser known s pass.memory tick.nowMs = .ok candidates ∧
      tick.overlaps s pass.runs = .ok false ∧
      tick.runSchedule parser known s pass =
        tick.fireEach s (tick.firing s pass.memory candidates).2
          { pass with memory := (tick.firing s pass.memory candidates).1 } := by
  unfold Tick.runSchedule
  split
  · exact .inl ⟨rfl, rfl⟩
  · cases found : scheduleCandidates parser known s pass.memory tick.nowMs with
    | error error => exact .inl ⟨rfl, rfl⟩
    | ok candidates =>
      simp only []
      split
      · exact .inl ⟨rfl, rfl⟩
      · cases overlap : tick.overlaps s pass.runs with
        | error error => exact .inl ⟨rfl, rfl⟩
        | ok skipped =>
          cases skipped with
          | true => exact .inl ⟨rfl, rfl⟩
          | false => exact .inr ⟨candidates, rfl, rfl, rfl⟩

theorem Tick.runSchedule_named (s : ScheduledWorkflow) (named : pass.memory.Named) :
    (tick.runSchedule parser known s pass).memory.Named := by
  rcases tick.runSchedule_cases parser known s pass with same | fires
  · rw [same.2]
    exact named
  · obtain ⟨candidates, found, -, result⟩ := fires
    rw [result]
    intro key runId later
    rw [SchedulerMemory.deferredWindows, Tick.fireEach_deferred] at later
    exact tick.firing_named s pass.memory candidates named
      (scheduleCandidates_window named found) key runId later

theorem Tick.runSchedule_sameFor (s : ScheduledWorkflow) (named : pass.memory.Named)
    (different : s.key ≠ key) : pass.SameFor key (tick.runSchedule parser known s pass) := by
  rcases tick.runSchedule_cases parser known s pass with same | fires
  · exact ⟨fun window => by rw [same.1], by rw [same.2], by rw [same.2]⟩
  · obtain ⟨candidates, found, -, result⟩ := fires
    rw [result]
    refine ⟨fun window => ?_, ?_, ?_⟩
    · rcases tick.fireEach_runs s (tick.firing s pass.memory candidates).2
        { pass with memory := (tick.firing s pass.memory candidates).1 }
        (windowRunId key window) with kept | added
      · exact kept
      · -- The other schedule's windows are no candidates of this one.
        have candidate := tick.mem_firing s pass.memory candidates added.1
        have mine := scheduleCandidates_window named found _ candidate
        exact absurd rfl (mine.ne ⟨window, rfl⟩ different)
    · rw [tick.fireEach_settled_ne s _ _ different, Tick.firing_settled]
    · rw [Tick.fireEach_deferred, tick.firing_deferred_ne s _ _ different]

theorem Tick.runEach_named (schedules : List ScheduledWorkflow) (named : pass.memory.Named) :
    (tick.runEach parser known schedules pass).memory.Named := by
  induction schedules generalizing pass with
  | nil => exact named
  | cons s rest ih =>
    have after := tick.runSchedule_named parser known s named
    simp only [Tick.runEach]
    split
    · exact named
    · split
      · exact after
      · exact ih after

theorem Tick.runEach_sameFor (schedules : List ScheduledWorkflow) (named : pass.memory.Named)
    (absent : key ∉ schedules.map (·.key)) :
    pass.SameFor key (tick.runEach parser known schedules pass) := by
  induction schedules generalizing pass with
  | nil => exact .refl key pass
  | cons s rest ih =>
    simp only [List.map_cons, List.mem_cons, not_or] at absent
    have first := tick.runSchedule_sameFor parser known s named
      (Ne.symm absent.1)
    simp only [Tick.runEach]
    split
    · exact .refl key pass
    · split
      · exact first
      · exact first.trans (ih (tick.runSchedule_named parser known s named) absent.2)

/-- The part of a tick about one schedule, as its other schedules see none of it: all that the
tick does to a schedule is what its own part does, in a pass that is the same for it. -/
theorem Tick.runEach_part (schedules : List ScheduledWorkflow) {s : ScheduledWorkflow}
    (listed : s ∈ schedules) (distinct : (schedules.map (·.key)).Nodup)
    (named : pass.memory.Named) : pass.SameFor s.key (tick.runEach parser known schedules pass) ∨
      ∃ before, pass.SameFor s.key before ∧ before.memory.Named ∧
        (tick.runSchedule parser known s before).SameFor s.key
          (tick.runEach parser known schedules pass) := by
  induction schedules generalizing pass with
  | nil => cases listed
  | cons first rest ih =>
    rw [List.map_cons, List.nodup_cons] at distinct
    have after := tick.runSchedule_named parser known first named
    simp only [Tick.runEach]
    split
    · exact .inl (.refl _ pass)
    · rcases List.mem_cons.mp listed with same | later
      · subst same
        refine .inr ⟨pass, .refl _ pass, named, ?_⟩
        split
        · exact .refl _ _
        · exact tick.runEach_sameFor parser known rest after distinct.1
      · have other : first.key ≠ s.key := by
          intro same
          exact distinct.1 (List.mem_map.mpr ⟨s, later, same.symm⟩)
        have skipped := tick.runSchedule_sameFor parser known first named
          other
        split
        · exact .inl skipped
        · rcases ih later distinct.2 after with none | ⟨before, same, kept, part⟩
          · exact .inl (skipped.trans none)
          · exact .inr ⟨before, skipped.trans same, kept, part⟩

end Schedules

/-- An interval of ten milliseconds. -/
def tenMs : { ms : Nat // 0 < ms } := ⟨10, by decide⟩

end Durable
