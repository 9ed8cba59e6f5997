import Durable.Proofs.Schedules.Ticks

/-! What the scheduler's memory of settled run ids may hide, and when it hides nothing. -/

namespace Durable

open Interleaving

variable {runId : String} {runs : Table String ScheduledRun}

def Absent (runs : Table String ScheduledRun) (runId : String) : Bool := (runs.get runId).isNone

def SchedulePass.Truthful (pass : SchedulePass) : Prop :=
  ∀ key, ∀ runId ∈ pass.memory.settled key, Absent pass.runs runId = false

/-- Every id that an engine noted as existing is the id of a run. -/
def SchedulerWorld.Truthful (world : SchedulerWorld) : Prop :=
  ∀ engine key, ∀ runId ∈ (world.memory engine).settled key, Absent world.runs runId = false

/-- Every start of a run that does not exist creates it, also where it throws. -/
def Tick.StartsCreate (tick : Tick) (schedules : List ScheduledWorkflow)
    (runs : Table String ScheduledRun) : Prop :=
  (∀ s ∈ schedules, ∃ workflow, resolveSchedule s = .ok workflow) ∧
    ∀ runId, Absent runs runId = true → ∀ error, tick.start runId ≠ .threw false error

section Truth

variable {tick : Tick} {s : ScheduledWorkflow} {pass : SchedulePass}

theorem Tick.fireEach_absent (s : ScheduledWorkflow) (ids : List String) (pass : SchedulePass)
    (absent : Absent (tick.fireEach s ids pass).runs runId = true) :
    Absent pass.runs runId = true := by
  rcases tick.fireEach_runs s ids pass runId with kept | ⟨-, none', -⟩
  · rw [Absent, ← kept]
    exact absent
  · simp [Absent, none']

theorem Tick.fire_present (resolved : ∃ workflow, resolveSchedule s = .ok workflow)
    (creates : ∀ error, tick.start runId ≠ .threw false error) :
    Absent (tick.fire s runId pass).runs runId = false := by
  obtain ⟨workflow, named⟩ := resolved
  unfold Tick.fire
  rw [named]
  simp only []
  cases answer : tick.start runId with
  | started => simp [Absent, SchedulePass.create_runs]
  | threw created error =>
    cases created with
    | false => exact absurd answer (creates error)
    | true => simp [Absent, SchedulePass.throw, SchedulePass.create_runs]

theorem Tick.fire_absent (pass : SchedulePass) (none' : pass.runs.get runId = none)
    {other : String} (absent : Absent (tick.fire s runId pass).runs other = true) :
    Absent pass.runs other = true := by
  rcases tick.fire_runs s runId pass none' other with kept | ⟨rfl, -⟩
  · rw [Absent, ← kept]
    exact absent
  · simp [Absent, none']

theorem SchedulePass.Truthful.noted {after : SchedulePass} (truthful : pass.Truthful)
    (key runId : String) (memory : after.memory = pass.memory.remember key runId)
    (grows : ∀ other, Absent after.runs other = true → Absent pass.runs other = true)
    (present : Absent after.runs runId = false) : after.Truthful := by
  intro other known noted
  rw [memory] at noted
  have old : known ∈ pass.memory.settled other → Absent after.runs known = false := by
    intro earlier
    by_contra absent
    have before := grows known (by simpa using absent)
    rw [truthful other known earlier] at before
    exact Bool.false_ne_true before
  by_cases same : key = other
  · subst same
    rcases pass.memory.mem_remember noted with new | earlier
    · rw [new]
      exact present
    · exact old earlier
  · rw [pass.memory.remember_settled_ne runId same] at noted
    exact old noted

theorem Tick.fireEach_truthful (resolved : ∃ workflow, resolveSchedule s = .ok workflow)
    (ids : List String) (truthful : pass.Truthful)
    (creates : ∀ runId, Absent pass.runs runId = true →
      ∀ error, tick.start runId ≠ .threw false error) : (tick.fireEach s ids pass).Truthful := by
  induction ids generalizing pass with
  | nil => exact truthful
  | cons runId rest ih =>
    have fires (none' : pass.runs.get runId = none) :
        (tick.fire s runId (pass.noted s.key runId)).Truthful := by
      refine truthful.noted s.key runId ?_ ?_ ?_
      · rw [Tick.fire_memory]
        rfl
      · intro other absent
        exact Tick.fire_absent (pass.noted s.key runId) none' absent
      · exact Tick.fire_present resolved (creates runId (by simp [Absent, none']))
    have step := tick.fireEach_cons s runId rest pass
    generalize tick.fireEach s (runId :: rest) pass = after at step ⊢
    cases step with
    | draining => exact truthful
    | unread => exact truthful
    | present _ _ held =>
      refine ih ?_ creates
      exact truthful.noted s.key runId rfl (fun _ absent => absent)
        (by simp [SchedulePass.noted, Absent, held])
    | threw _ _ none' _ => exact fires none'
    | fired _ _ none' _ =>
      refine ih (fires none') ?_
      intro other absent
      exact creates other (Tick.fire_absent (pass.noted s.key runId) none' absent)

variable (parser : CronParser) (known : KnownIds)

theorem Tick.runSchedule_absent (s : ScheduledWorkflow) (pass : SchedulePass)
    (absent : Absent (tick.runSchedule parser known s pass).runs runId = true) :
    Absent pass.runs runId = true := by
  rcases tick.runSchedule_cases parser known s pass with same | ⟨candidates, -, -, result⟩
  · rw [← same.1]
    exact absent
  · rw [result] at absent
    have before := Tick.fireEach_absent s _ _ absent
    exact before

theorem Tick.runSchedule_truthful (truthful : pass.Truthful)
    (resolved : ∃ workflow, resolveSchedule s = .ok workflow)
    (creates : ∀ runId, Absent pass.runs runId = true →
      ∀ error, tick.start runId ≠ .threw false error) :
    (tick.runSchedule parser known s pass).Truthful := by
  rcases tick.runSchedule_cases parser known s pass with same | ⟨candidates, -, -, result⟩
  · intro key runId noted
    rw [same.2] at noted
    rw [same.1]
    exact truthful key runId noted
  · rw [result]
    apply tick.fireEach_truthful resolved
    · intro key runId noted
      rw [Tick.firing_settled] at noted
      exact truthful key runId noted
    · exact creates

theorem Tick.runEach_truthful {schedules : List ScheduledWorkflow} (pass : SchedulePass)
    (truthful : pass.Truthful) (starts : tick.StartsCreate schedules pass.runs) :
    (tick.runEach parser known schedules pass).Truthful := by
  induction schedules generalizing pass with
  | nil => exact truthful
  | cons s rest ih =>
    have after := tick.runSchedule_truthful parser known truthful
      (starts.1 s (by simp)) starts.2
    simp only [Tick.runEach]
    split
    · exact truthful
    · split
      · exact after
      · apply ih _ after
        constructor
        · intro other listed
          exact starts.1 other (List.mem_cons_of_mem _ listed)
        · intro runId absent
          exact starts.2 runId (tick.runSchedule_absent parser known s pass absent)

theorem Tick.runEach_absent (schedules : List ScheduledWorkflow) (pass : SchedulePass)
    (absent : Absent (tick.runEach parser known schedules pass).runs runId = true) :
    Absent pass.runs runId = true := by
  induction schedules generalizing pass with
  | nil => exact absent
  | cons s rest ih =>
    simp only [Tick.runEach] at absent
    split at absent
    · exact absent
    · split at absent
      · exact tick.runSchedule_absent parser known s pass absent
      · exact tick.runSchedule_absent parser known s pass (ih _ absent)

end Truth

/-- Two passes have started the same runs, and ended alike. -/
structure SchedulePass.SameOutcome (pass other : SchedulePass) : Prop where
  runs : other.runs = pass.runs
  ids : other.ids = pass.ids
  thrown : other.thrown = pass.thrown

def absentOf (runs : Table String ScheduledRun) (ids : List String) : List String :=
  ids.filter (Absent runs)

/-- A tick is not stopped at a window of a schedule that has a run. -/
def Tick.PassesSettled (tick : Tick) (s : ScheduledWorkflow) (runs : Table String ScheduledRun)
    (ids : List String) : Prop :=
  ∀ runId ∈ ids, Absent runs runId = false →
    tick.drainingAtWindow s.key runId = false ∧ tick.readError (.existing s.key runId) = none

section Firing

variable (tick : Tick) {s : ScheduledWorkflow} {other pass : SchedulePass}

theorem Tick.fire_same (same : pass.SameOutcome other) (runId : String) :
    (tick.fire s runId pass).SameOutcome (tick.fire s runId other) := by
  obtain ⟨runs, ids, thrown⟩ := same
  unfold Tick.fire
  cases resolveSchedule s with
  | error error => exact ⟨runs, ids, rfl⟩
  | ok workflow =>
    have created : ∀ run, (pass.create runId run).SameOutcome (other.create runId run) := by
      intro run
      unfold SchedulePass.create
      rw [runs]
      cases pass.runs.get runId with
      | some held => exact ⟨runs, ids, thrown⟩
      | none => exact ⟨rfl, ids, thrown⟩
    cases tick.start runId with
    | started => exact ⟨(created _).runs, by simp [ids], (created _).thrown⟩
    | threw made error =>
      cases made with
      | false => exact ⟨runs, ids, rfl⟩
      | true => exact ⟨(created _).runs, (created _).ids, rfl⟩

/-- Windows that have a run make no difference to what is started, where the tick is not stopped
at them. -/
theorem Tick.fireEach_filter (keep : String → Bool) (ids : List String)
    (same : pass.SameOutcome other)
    (dropped : ∀ runId ∈ ids, keep runId = false → Absent pass.runs runId = false ∧
      tick.drainingAtWindow s.key runId = false ∧
      tick.readError (.existing s.key runId) = none) :
    (tick.fireEach s ids pass).SameOutcome (tick.fireEach s (ids.filter keep) other) := by
  induction ids generalizing pass other with
  | nil => exact same
  | cons runId rest ih =>
    have later (next : SchedulePass)
        (grows : ∀ known, Absent next.runs known = true → Absent pass.runs known = true) :
        ∀ known ∈ rest, keep known = false → Absent next.runs known = false ∧
          tick.drainingAtWindow s.key known = false ∧
          tick.readError (.existing s.key known) = none := by
      intro known listed drops
      obtain ⟨present, quiet⟩ := dropped known (List.mem_cons_of_mem _ listed) drops
      refine ⟨?_, quiet⟩
      by_contra absent
      rw [grows known (by simpa using absent)] at present
      exact Bool.false_ne_true present.symm
    have noted : (pass.noted s.key runId).SameOutcome (other.noted s.key runId) :=
      ⟨same.runs, same.ids, same.thrown⟩
    cases kept : keep runId with
    | false =>
      -- A window with a run is noted and passed over.
      obtain ⟨present, drain, read⟩ := dropped runId (by simp) kept
      obtain ⟨run, held⟩ : ∃ run, pass.runs.get runId = some run := by
        simpa [Absent, Option.isSome_iff_exists] using present
      rw [List.filter_cons_of_neg (by simp [kept])]
      rw [show tick.fireEach s (runId :: rest) pass =
        tick.fireEach s rest (pass.noted s.key runId) by simp [Tick.fireEach, drain, read, held]]
      exact ih ⟨same.runs, same.ids, same.thrown⟩ (later (pass.noted s.key runId) fun _ h => h)
    | true =>
      rw [List.filter_cons_of_pos kept]
      simp only [Tick.fireEach]
      split
      · exact same
      · cases tick.readError (.existing s.key runId) with
        | some error => exact ⟨same.runs, same.ids, rfl⟩
        | none =>
          simp only [same.runs]
          cases held : pass.runs.get runId with
          | some run =>
            simp only [Option.isSome_some, if_true]
            exact ih noted (later (pass.noted s.key runId) fun _ h => h)
          | none =>
            have fired := tick.fire_same (s := s) noted runId
            simp only [Option.isSome_none, Bool.false_eq_true, if_false, fired.thrown]
            split
            · exact fired
            · apply ih fired
              apply later
              intro known absent
              exact Tick.fire_absent (pass.noted s.key runId) held absent

/-- Lists with the same windows to start start the same, where the tick is not stopped at a window
that has a run. -/
theorem Tick.fireEach_same (ids otherIds : List String) (same : pass.SameOutcome other)
    (toStart : absentOf pass.runs otherIds = absentOf pass.runs ids)
    (passes : tick.PassesSettled s pass.runs ids)
    (otherPasses : tick.PassesSettled s pass.runs otherIds) :
    (tick.fireEach s ids pass).SameOutcome (tick.fireEach s otherIds other) := by
  have first := tick.fireEach_filter (Absent pass.runs) ids
    (show pass.SameOutcome pass from ⟨rfl, rfl, rfl⟩)
    fun runId listed present => ⟨present, passes runId listed present⟩
  have second := tick.fireEach_filter (Absent pass.runs) otherIds
    (show other.SameOutcome pass from ⟨same.runs.symm, same.ids.symm, same.thrown.symm⟩)
    fun runId listed present => ⟨by rw [same.runs]; exact present, otherPasses runId listed present⟩
  unfold absentOf at toStart
  rw [toStart] at second
  exact ⟨second.runs.symm.trans first.runs, second.ids.symm.trans first.ids,
    second.thrown.symm.trans first.thrown⟩

end Firing

section Windows

variable {parser : CronParser} {s : ScheduledWorkflow} {nowMs : Nat}

def waitingOf (runs : Table String ScheduledRun) (deferred : List (String × Nat)) :
    List (String × Nat) :=
  deferred.filter fun row => Absent runs row.1

theorem scheduleRunIdsAt_ne_nil {due : List String}
    (found : scheduleRunIdsAt parser s nowMs = .ok due) : due ≠ [] := by
  unfold scheduleRunIdsAt at found
  cases current : scheduleRunIdAt parser s nowMs with
  | error error => simp [current, bind, Except.bind] at found
  | ok last =>
    simp only [current, bind, Except.bind, pure, Except.pure] at found
    split at found
    · injection found with found
      simp [← found]
    · cases every : s.everyMs with
      | some everyMs =>
        simp only [every, Except.ok.injEq] at found
        simp [← found]
      | none =>
        cases cron : s.cron with
        | none =>
          simp only [every, cron, Except.ok.injEq] at found
          simp [← found]
        | some expr =>
          simp only [every, cron] at found
          cases fire : prevCronFireMs parser expr nowMs s.timezone with
          | error error => simp [fire] at found
          | ok cursor =>
            simp only [fire] at found
            cases prior : priorFires parser expr s.timezone (s.maxCatchup.getD 0) cursor with
            | error error => simp [prior] at found
            | ok fires =>
              simp only [prior, Except.ok.injEq] at found
              simp [← found]

theorem filter_firstOccurrences (keep : String → Bool) (ids : List String) :
    (firstOccurrences ids).filter keep = firstOccurrences (ids.filter keep) := by
  induction ids with
  | nil => rfl
  | cons runId rest ih =>
    cases kept : keep runId with
    | true =>
      rw [List.filter_cons_of_pos kept, firstOccurrences, firstOccurrences,
        List.filter_cons_of_pos kept, ← ih, List.filter_comm]
    | false =>
      rw [List.filter_cons_of_neg (by simp [kept]), firstOccurrences,
        List.filter_cons_of_neg (by simp [kept]), ← ih, List.filter_filter]
      apply List.filter_congr
      intro other _
      by_cases same : other = runId
      · simp [same, kept]
      · simp [same]

theorem absentOf_deferred (runs : Table String ScheduledRun) (deferred : List (String × Nat)) :
    absentOf runs (deferred.map Prod.fst) = (waitingOf runs deferred).map Prod.fst := by
  rw [absentOf, waitingOf, List.filter_map]
  rfl

theorem lookup_waitingOf (deferred : List (String × Nat)) (absent : Absent runs runId = true) :
    (waitingOf runs deferred).lookup runId = deferred.lookup runId := by
  induction deferred with
  | nil => rfl
  | cons row rest ih =>
    obtain ⟨held, atMs⟩ := row
    by_cases same : runId = held
    · subst same
      simp [waitingOf, absent]
    · have other : (runId == held) = false := by simpa using same
      rw [List.lookup_cons, other, ← ih]
      cases kept : Absent runs held with
      | true => simp [waitingOf, kept, List.lookup_cons, other]
      | false => simp [waitingOf, kept]

end Windows

section Lockstep

variable {parser : CronParser} (tick : Tick)

/-- Passes in lockstep: they have started the same runs, and put off the same windows that have
none. -/
structure SchedulePass.Lockstep (schedules : List ScheduledWorkflow) (pass other : SchedulePass) :
    Prop where
  outcome : pass.SameOutcome other
  waiting : ∀ s ∈ schedules, 0 < s.jitter →
    waitingOf pass.runs (other.memory.deferred s.key) =
      waitingOf pass.runs (pass.memory.deferred s.key)

/-- What the memory spares a tick for a schedule would not have stopped it: the questions about a
window that has a run, and the overlap check where every window has one. -/
structure Tick.SparesQuietly (parser : CronParser) (tick : Tick) (s : ScheduledWorkflow)
    (pass : SchedulePass) : Prop where
  settled : ∀ runId, WindowOf s.key runId → Absent pass.runs runId = false →
    tick.drainingAtWindow s.key runId = false ∧ tick.readError (.existing s.key runId) = none
  overlap : ∀ windows, scheduleWindows parser s pass.memory tick.nowMs = .ok windows →
    absentOf pass.runs windows = [] → ∀ runId, tick.readError (.previous s.key runId) = none

theorem SchedulePass.Truthful.absentOf_candidates {pass : SchedulePass}
    (truthful : pass.Truthful) (key : String) (windows : List String) :
    absentOf pass.runs (windows.filter (· ∉ pass.memory.settled key)) =
      absentOf pass.runs windows := by
  rw [absentOf, absentOf, List.filter_filter]
  apply List.filter_congr
  intro runId _
  by_cases noted : runId ∈ pass.memory.settled key
  · simp [noted, truthful key runId noted]
  · simp [noted]

variable {s : ScheduledWorkflow} {pass other : SchedulePass} {others : List String}

theorem Tick.fireTimes_waiting (waiting : waitingOf pass.runs (other.memory.deferred s.key) =
      waitingOf pass.runs (pass.memory.deferred s.key)) {candidates : List String}
    (same : absentOf pass.runs others = absentOf pass.runs candidates) :
    waitingOf pass.runs (tick.fireTimes s other.memory others) =
      waitingOf pass.runs (tick.fireTimes s pass.memory candidates) := by
  have times : ∀ (memory : SchedulerMemory) (ids : List String),
      waitingOf pass.runs (tick.fireTimes s memory ids) =
        tick.fireTimes s memory (absentOf pass.runs ids) := by
    intro memory ids
    rw [waitingOf, Tick.fireTimes, Tick.fireTimes, List.filter_map]
    rfl
  rw [times, times, same, Tick.fireTimes, Tick.fireTimes]
  apply List.map_congr_left
  intro runId listed
  have absent : Absent pass.runs runId = true := (List.mem_filter.mp listed).2
  -- A fire time drawn earlier is kept with the windows put off.
  rw [← lookup_waitingOf (other.memory.deferred s.key) absent, waiting,
    lookup_waitingOf (pass.memory.deferred s.key) absent]

theorem Tick.firing_waiting
    (waiting : 0 < s.jitter → waitingOf pass.runs (other.memory.deferred s.key) =
      waitingOf pass.runs (pass.memory.deferred s.key)) {candidates : List String}
    (same : absentOf pass.runs others = absentOf pass.runs candidates) :
    absentOf pass.runs (tick.firing s other.memory others).2 =
        absentOf pass.runs (tick.firing s pass.memory candidates).2 ∧
      (0 < s.jitter →
        waitingOf pass.runs ((tick.firing s other.memory others).1.deferred s.key) =
          waitingOf pass.runs ((tick.firing s pass.memory candidates).1.deferred s.key)) := by
  by_cases jitter : 0 < s.jitter
  · have times := @Tick.fireTimes_waiting tick s pass other _ (waiting jitter) _ same
    unfold waitingOf at times
    simp only [Tick.firing, jitter, if_true, Tick.jitterDue, SchedulerMemory.deferred,
      Table.get_set_self, Option.getD_some, forall_const]
    constructor
    · rw [absentOf_deferred, absentOf_deferred, waitingOf, waitingOf, List.filter_comm,
        List.filter_comm _ _ (tick.fireTimes s pass.memory candidates), times]
    · rw [waitingOf, waitingOf, List.filter_comm,
        List.filter_comm _ _ (tick.fireTimes s pass.memory candidates), times]
  · simp only [Tick.firing, jitter, if_false, false_implies, and_true]
    exact same

theorem windows_waiting
    (waiting : 0 < s.jitter → waitingOf pass.runs (other.memory.deferred s.key) =
      waitingOf pass.runs (pass.memory.deferred s.key)) {nowMs : Nat} {windows : List String}
    (found : scheduleWindows parser s pass.memory nowMs = .ok windows)
    (otherFound : scheduleWindows parser s other.memory nowMs = .ok others) :
    absentOf pass.runs others = absentOf pass.runs windows := by
  rw [scheduleWindows_eq] at found otherFound
  cases due : scheduleRunIdsAt parser s nowMs with
  | error error => simp [due, Except.map] at found
  | ok ids =>
    simp only [due, Except.map, Except.ok.injEq] at found otherFound
    subst found otherFound
    by_cases jitter : 0 < s.jitter
    · simp only [jitter, if_true]
      have split : ∀ memory : SchedulerMemory,
          absentOf pass.runs (firstOccurrences (memory.deferredWindows s.key ++ ids)) =
            firstOccurrences ((waitingOf pass.runs (memory.deferred s.key)).map Prod.fst ++
              absentOf pass.runs ids) := by
        intro memory
        rw [absentOf, filter_firstOccurrences, List.filter_append]
        congr 2
        exact absentOf_deferred pass.runs (memory.deferred s.key)
      rw [split, split, waiting jitter]
    · simp only [jitter, if_false]

theorem Tick.overlaps_ok (runs : Table String ScheduledRun)
    (reads : ∀ runId, tick.readError (.previous s.key runId) = none) :
    ∃ skipped, tick.overlaps s runs = .ok skipped := by
  unfold Tick.overlaps
  cases s.overlap with
  | allow => exact ⟨_, rfl⟩
  | skip =>
    cases s.everyMs with
    | none => exact ⟨_, rfl⟩
    | some everyMs =>
      simp only []
      cases tick.nowMs / everyMs.val with
      | zero => exact ⟨_, rfl⟩
      | succ previous =>
        simp only [reads]
        exact ⟨_, rfl⟩

theorem waitingOf_eq_nil {deferred : List (String × Nat)}
    (present : ∀ runId ∈ deferred.map Prod.fst, Absent runs runId = false) :
    waitingOf runs deferred = [] := by
  apply List.filter_eq_nil_iff.mpr
  intro row listed
  simpa using present row.1 (List.mem_map_of_mem listed)

/-- The part of a tick about one schedule, with the memory and without it, starts the same. -/
theorem Tick.runSchedule_lockstep (named : pass.memory.Named) (otherNamed : other.memory.Named)
    (truthful : pass.Truthful) (outcome : pass.SameOutcome other)
    (waiting : 0 < s.jitter → waitingOf pass.runs (other.memory.deferred s.key) =
      waitingOf pass.runs (pass.memory.deferred s.key))
    (quiet : tick.SparesQuietly parser s pass) :
    (tick.runSchedule parser SchedulerMemory.settled s pass).SameOutcome
        (tick.runSchedule parser (fun _ _ => []) s other) ∧
      (0 < s.jitter →
        waitingOf pass.runs
            ((tick.runSchedule parser (fun _ _ => []) s other).memory.deferred s.key) =
          waitingOf pass.runs
            ((tick.runSchedule parser SchedulerMemory.settled s pass).memory.deferred s.key)) := by
  unfold Tick.runSchedule
  split
  · exact ⟨outcome, waiting⟩
  · unfold scheduleCandidates
    cases due : scheduleRunIdsAt parser s tick.nowMs with
    | error error =>
      simp only [scheduleWindows_eq, due, Except.map]
      exact ⟨⟨outcome.runs, outcome.ids, rfl⟩, waiting⟩
    | ok ids =>
      obtain ⟨windows, found⟩ :
          ∃ windows, scheduleWindows parser s pass.memory tick.nowMs = .ok windows := by
        simp [scheduleWindows_eq, due, Except.map]
      obtain ⟨others, otherFound⟩ :
          ∃ windows, scheduleWindows parser s other.memory tick.nowMs = .ok windows := by
        simp [scheduleWindows_eq, due, Except.map]
      have windowsSame := windows_waiting waiting found otherFound
      have everyOther : others.filter (· ∉ ([] : List String)) = others := by simp
      simp only [found, otherFound, Except.map, everyOther]
      have candidatesSame : absentOf pass.runs others =
          absentOf pass.runs (windows.filter (· ∉ pass.memory.settled s.key)) := by
        rw [truthful.absentOf_candidates]
        exact windowsSame
      generalize held : windows.filter (· ∉ pass.memory.settled s.key) = candidates
        at candidatesSame ⊢
      -- A schedule always has a due window, so only the memory can leave nothing to ask about.
      have otherSome : others ≠ [] := by
        rw [scheduleWindows_eq, due] at otherFound
        simp only [Except.map, Except.ok.injEq] at otherFound
        obtain ⟨first, listed⟩ := List.exists_mem_of_ne_nil ids (scheduleRunIdsAt_ne_nil due)
        apply List.ne_nil_of_mem (a := first)
        rw [← otherFound]
        split
        · exact mem_firstOccurrences.mpr (List.mem_append_right _ listed)
        · exact listed
      have passes : tick.PassesSettled s pass.runs
          (tick.firing s pass.memory candidates).2 := by
        intro runId fires present
        have listed := tick.mem_firing s pass.memory candidates fires
        rw [← held] at listed
        exact quiet.settled runId
          (scheduleWindows_window named found runId (List.mem_filter.mp listed).1) present
      have otherPasses : tick.PassesSettled s pass.runs
          (tick.firing s other.memory others).2 := by
        intro runId fires present
        exact quiet.settled runId (scheduleWindows_window otherNamed otherFound runId
          (tick.mem_firing s other.memory others fires)) present
      have firing := tick.firing_waiting waiting candidatesSame
      have otherStart : pass.SameOutcome
          { other with memory := (tick.firing s other.memory others).1 } :=
        ⟨outcome.runs, outcome.ids, outcome.thrown⟩
      have overlapSame : tick.overlaps s other.runs = tick.overlaps s pass.runs := by
        rw [outcome.runs]
      rw [if_neg otherSome, overlapSame]
      by_cases none' : candidates = []
      · subst none'
        rw [if_pos rfl]
        -- Every window has a run: asking about them again starts nothing.
        have noneAbsent : absentOf pass.runs windows = [] := by
          rw [← windowsSame, candidatesSame]
          rfl
        have present : ∀ ids, absentOf pass.runs ids = [] → ∀ runId ∈ ids,
            Absent pass.runs runId = false := by
          intro ids none' runId listed
          simpa using List.filter_eq_nil_iff.mp none' runId listed
        obtain ⟨skipped, overlap⟩ := tick.overlaps_ok (s := s) pass.runs
          (quiet.overlap windows found noneAbsent)
        rw [overlap]
        cases skipped with
        | true => exact ⟨outcome, waiting⟩
        | false =>
          have nothing := windowsSame.trans noneAbsent
          constructor
          · have idle : pass.SameOutcome (tick.fireEach s (tick.firing s other.memory others).2
                { other with memory := (tick.firing s other.memory others).1 }) := by
              apply tick.fireEach_same (s := s) [] _ otherStart
              · apply List.filter_eq_nil_iff.mpr
                intro runId fires
                simpa using present others nothing runId
                  (tick.mem_firing s other.memory others fires)
              · intro runId listed
                cases listed
              · exact otherPasses
            exact idle
          · intro jitter
            rw [Tick.fireEach_deferred, waitingOf_eq_nil, waitingOf_eq_nil]
            · intro runId held
              rw [scheduleWindows_eq, due] at found
              simp only [Except.map, jitter, if_true, Except.ok.injEq] at found
              apply present windows noneAbsent
              rw [← found]
              exact mem_firstOccurrences.mpr (List.mem_append_left _ held)
            · intro runId held
              exact present others nothing runId
                (tick.mem_firing_deferred s other.memory others held)
      · rw [if_neg none']
        cases tick.overlaps s pass.runs with
        | error error => exact ⟨⟨outcome.runs, outcome.ids, rfl⟩, waiting⟩
        | ok skipped =>
          cases skipped with
          | true => exact ⟨outcome, waiting⟩
          | false =>
            constructor
            · have started : ({ pass with memory := (tick.firing s pass.memory candidates).1 } :
                  SchedulePass).SameOutcome
                    { other with memory := (tick.firing s other.memory others).1 } :=
                ⟨outcome.runs, outcome.ids, outcome.thrown⟩
              exact tick.fireEach_same _ _ started firing.1 passes otherPasses
            · simp only [Tick.fireEach_deferred]
              exact firing.2

theorem waitingOf_grown {grown : Table String ScheduledRun} {first second : List (String × Nat)}
    (same : waitingOf runs second = waitingOf runs first)
    (grows : ∀ runId, Absent grown runId = true → Absent runs runId = true) :
    waitingOf grown second = waitingOf grown first := by
  have twice : ∀ deferred,
      waitingOf grown (waitingOf runs deferred) = waitingOf grown deferred := by
    intro deferred
    rw [waitingOf, waitingOf, waitingOf, List.filter_filter]
    apply List.filter_congr
    intro row _
    cases absent : Absent grown row.1 with
    | true => simp [grows _ absent]
    | false => simp
  rw [← twice second, same, twice]

theorem Tick.SparesQuietly.same {parser : CronParser} {tick : Tick} (named : pass.memory.Named)
    (quiet : tick.SparesQuietly parser s pass) (same : pass.SameFor s.key other) :
    tick.SparesQuietly parser s other where
  settled := by
    intro runId window present
    obtain ⟨bucket, rfl⟩ := window
    rw [Absent, same.runs] at present
    exact quiet.settled _ ⟨bucket, rfl⟩ present
  overlap := by
    intro windows found absent
    have again : scheduleWindows parser s pass.memory tick.nowMs = .ok windows := by
      rw [scheduleWindows_eq, SchedulerMemory.deferredWindows, same.deferred] at found
      rw [scheduleWindows_eq]
      exact found
    apply quiet.overlap windows again
    rw [← absent]
    apply List.filter_congr
    intro runId listed
    obtain ⟨bucket, rfl⟩ := scheduleWindows_window named again runId listed
    rw [Absent, Absent, same.runs]

/-- A tick, with the memory and without it, starts the same. -/
theorem Tick.runEach_lockstep {schedules : List ScheduledWorkflow}
    (distinct : (schedules.map (·.key)).Nodup) (part : List ScheduledWorkflow)
    (listed : part.Sublist schedules) {pass other : SchedulePass} (named : pass.memory.Named)
    (otherNamed : other.memory.Named) (truthful : pass.Truthful)
    (starts : tick.StartsCreate schedules pass.runs) (lockstep : pass.Lockstep schedules other)
    (quiet : ∀ s ∈ part, tick.SparesQuietly parser s pass) :
    (tick.runEach parser SchedulerMemory.settled part pass).Lockstep schedules
      (tick.runEach parser (fun _ _ => []) part other) := by
  induction part generalizing pass other with
  | nil => exact lockstep
  | cons s rest ih =>
    have member : s ∈ schedules := listed.subset (by simp)
    have mine := tick.runSchedule_lockstep named otherNamed truthful lockstep.outcome
      (lockstep.waiting s member) (quiet s (by simp))
    have grows : ∀ runId,
        Absent (tick.runSchedule parser SchedulerMemory.settled s pass).runs runId = true →
          Absent pass.runs runId = true := by
      intro runId absent
      exact Tick.runSchedule_absent parser SchedulerMemory.settled s pass absent
    have after : (tick.runSchedule parser SchedulerMemory.settled s pass).Lockstep schedules
        (tick.runSchedule parser (fun _ _ => []) s other) := by
      refine ⟨mine.1, ?_⟩
      intro next nextListed jitter
      by_cases same : s.key = next.key
      · have equal : s = next :=
          List.inj_on_of_nodup_map distinct member nextListed same
        subst equal
        exact waitingOf_grown (mine.2 jitter) grows
      · -- Another schedule's windows stay put off as they were.
        have first := tick.runSchedule_sameFor parser SchedulerMemory.settled s named same
        have second := tick.runSchedule_sameFor parser (fun _ _ => []) s otherNamed same
        rw [first.deferred, second.deferred]
        exact waitingOf_grown (lockstep.waiting next nextListed jitter) grows
    simp only [Tick.runEach]
    split
    · exact lockstep
    · simp only [mine.1.thrown]
      split
      · exact after
      · refine ih ((List.sublist_cons_self s rest).trans listed)
          (tick.runSchedule_named parser _ s named) (tick.runSchedule_named parser _ s otherNamed)
          (Tick.runSchedule_truthful parser _ truthful (starts.1 s member) starts.2)
          ⟨starts.1, fun runId absent => starts.2 runId (grows runId absent)⟩ after ?_
        intro next later
        have different : s.key ≠ next.key := by
          have keys := (listed.map (·.key)).nodup distinct
          rw [List.map_cons, List.nodup_cons] at keys
          intro same
          exact keys.1 (List.mem_map.mpr ⟨next, later, same.symm⟩)
        exact (quiet next (List.mem_cons_of_mem _ later)).same named
          (tick.runSchedule_sameFor parser SchedulerMemory.settled s named different)

end Lockstep

section Runs

variable (parser : CronParser) (schedules : List ScheduledWorkflow)

/-- A condition on moves holds at every move, in the state the move finds. -/
def SchedulerWorld.Throughout (holds : SchedulerWorld → SchedulerMove → Prop) :
    SchedulerWorld → List SchedulerMove → Prop
  | _, [] => True
  | world, move :: rest =>
    holds world move ∧ SchedulerWorld.Throughout holds
      (world.move parser SchedulerMemory.settled schedules move) rest

def SchedulerMove.StartsCreate (world : SchedulerWorld) : SchedulerMove → Prop
  | .tick _ answers => answers.StartsCreate schedules world.runs
  | .created _ _ => True

def SchedulerMove.SparesQuietly (world : SchedulerWorld) : SchedulerMove → Prop
  | .tick engine answers => ∀ s ∈ schedules, answers.SparesQuietly parser s (world.pass engine)
  | .created _ _ => True

theorem SchedulerWorld.created_absent (known : KnownIds) (world : SchedulerWorld) (runId : String)
    (run : ScheduledRun) {other : String}
    (absent : Absent (world.move parser known schedules (.created runId run)).runs other = true) :
    Absent world.runs other = true := by
  simp only [SchedulerWorld.move] at absent
  split at absent
  · exact absent
  · by_cases same : runId = other
    · subst same
      simp [Absent] at absent
    · rw [Absent, Table.get_set_ne _ _ same] at absent
      exact absent

variable {parser schedules} {world : SchedulerWorld}

/-- What holds of a world whose ticks' starts create. -/
structure SchedulerWorld.Remembers (world : SchedulerWorld) : Prop where
  named : ∀ engine, (world.memory engine).Named
  truthful : world.Truthful

theorem SchedulerWorld.after_memory (holds : SchedulerMemory → Prop) (world : SchedulerWorld)
    (engine other : Nat) (pass : SchedulePass) (mine : holds pass.memory)
    (others : holds (world.memory other)) : holds ((world.after engine pass).memory other) := by
  simp only [SchedulerWorld.after]
  split
  · exact mine
  · exact others

theorem SchedulerWorld.Remembers.move (remembers : world.Remembers) {move : SchedulerMove}
    (starts : move.StartsCreate schedules world) :
    (world.move parser SchedulerMemory.settled schedules move).Remembers := by
  cases move with
  | tick engine tick =>
    have truthful := tick.runEach_truthful parser SchedulerMemory.settled (world.pass engine)
      (remembers.truthful engine) starts
    constructor
    · intro other
      exact world.after_memory SchedulerMemory.Named engine other _
        (tick.runEach_named parser _ schedules (remembers.named engine)) (remembers.named other)
    · intro other key runId
      apply world.after_memory (fun memory => runId ∈ memory.settled key →
        Absent (tick.runEach parser SchedulerMemory.settled schedules
          (world.pass engine)).runs runId = false) engine other
      · exact truthful key runId
      · intro noted
        by_contra absent
        have before := Tick.runEach_absent parser SchedulerMemory.settled schedules
          (world.pass engine) (show Absent _ runId = true by simpa using absent)
        rw [SchedulerWorld.pass, remembers.truthful other key runId noted] at before
        exact Bool.false_ne_true before
  | created runId run =>
    refine ⟨remembers.named, ?_⟩
    intro other key known noted
    by_contra absent
    have before := world.created_absent parser schedules SchedulerMemory.settled runId run
      (show Absent _ known = true by simpa using absent)
    rw [remembers.truthful other key known noted] at before
    exact Bool.false_ne_true before

/-- Two worlds in lockstep: the same runs, and on each engine the same windows put off. -/
structure SchedulerWorld.Lockstep (schedules : List ScheduledWorkflow)
    (world other : SchedulerWorld) : Prop where
  runs : other.runs = world.runs
  named : ∀ engine, (other.memory engine).Named
  waiting : ∀ engine, ∀ s ∈ schedules, 0 < s.jitter →
    waitingOf world.runs ((other.memory engine).deferred s.key) =
      waitingOf world.runs ((world.memory engine).deferred s.key)

theorem SchedulerWorld.Lockstep.move (distinct : (schedules.map (·.key)).Nodup)
    {other : SchedulerWorld} (lockstep : world.Lockstep schedules other)
    (remembers : world.Remembers) {move : SchedulerMove}
    (starts : move.StartsCreate schedules world)
    (quiet : move.SparesQuietly parser schedules world) :
    (world.move parser SchedulerMemory.settled schedules move).Lockstep schedules
      (other.move parser (fun _ _ => []) schedules move) := by
  cases move with
  | tick engine tick =>
    have before : (world.pass engine).Lockstep schedules (other.pass engine) :=
      ⟨⟨lockstep.runs, rfl, rfl⟩, lockstep.waiting engine⟩
    have truthful : (world.pass engine).Truthful := remembers.truthful engine
    have passes := tick.runEach_lockstep distinct schedules (List.Sublist.refl _)
      (remembers.named engine) (lockstep.named engine) truthful starts before quiet
    refine ⟨passes.outcome.runs, ?_, ?_⟩
    · intro each
      exact other.after_memory SchedulerMemory.Named engine each _
        (tick.runEach_named parser _ schedules (lockstep.named engine)) (lockstep.named each)
    · intro each s listed jitter
      simp only [SchedulerWorld.move, SchedulerWorld.after]
      split
      · exact passes.waiting s listed jitter
      · apply waitingOf_grown (lockstep.waiting each s listed jitter)
        intro runId absent
        exact Tick.runEach_absent parser SchedulerMemory.settled schedules _ absent
  | created runId run =>
    have runs : (other.move parser (fun _ _ => []) schedules (.created runId run)).runs =
        (world.move parser SchedulerMemory.settled schedules (.created runId run)).runs := by
      simp only [SchedulerWorld.move, lockstep.runs]
    refine ⟨runs, lockstep.named, ?_⟩
    intro each s listed jitter
    apply waitingOf_grown (lockstep.waiting each s listed jitter)
    intro known absent
    exact world.created_absent parser schedules SchedulerMemory.settled runId run absent

theorem SchedulerWorld.Remembers.play (remembers : world.Remembers) (moves : List SchedulerMove)
    (starts : SchedulerWorld.Throughout parser schedules
      (fun world move => move.StartsCreate schedules world) world moves) :
    (world.play parser SchedulerMemory.settled schedules moves).Remembers := by
  induction moves generalizing world with
  | nil => exact remembers
  | cons move rest ih => exact ih (remembers.move starts.1) starts.2

theorem SchedulerWorld.Lockstep.play (distinct : (schedules.map (·.key)).Nodup)
    {other : SchedulerWorld} (lockstep : world.Lockstep schedules other)
    (remembers : world.Remembers) (moves : List SchedulerMove)
    (starts : SchedulerWorld.Throughout parser schedules
      (fun world move => move.StartsCreate schedules world) world moves)
    (quiet : SchedulerWorld.Throughout parser schedules
      (fun world move => move.SparesQuietly parser schedules world) world moves) :
    (other.play parser (fun _ _ => []) schedules moves).runs =
      (world.play parser SchedulerMemory.settled schedules moves).runs := by
  induction moves generalizing world other with
  | nil => exact lockstep.runs
  | cons move rest ih =>
    exact ih (lockstep.move distinct remembers starts.1 quiet.1) (remembers.move starts.1)
      starts.2 quiet.2

theorem SchedulerWorld.remembers_fresh : ({} : SchedulerWorld).Remembers := by
  constructor
  · intro engine key runId put
    simp [SchedulerMemory.deferredWindows, SchedulerMemory.deferred] at put
  · intro engine key runId noted
    simp [SchedulerMemory.settled] at noted

/-- Where every start creates its run, also where it throws, the memory hides no window: what it
notes exists, a window without a run is a candidate, and without the memory the same runs are
started. -/
theorem memo_hides_no_window (moves : List SchedulerMove)
    (starts : SchedulerWorld.Throughout parser schedules
      (fun world move => move.StartsCreate schedules world) {} moves) :
    (SchedulerWorld.play parser SchedulerMemory.settled schedules {} moves).Truthful ∧
    (∀ engine s nowMs windows runId,
      scheduleWindows parser s
        ((SchedulerWorld.play parser SchedulerMemory.settled schedules {} moves).memory engine)
        nowMs = .ok windows → runId ∈ windows →
      (SchedulerWorld.play parser SchedulerMemory.settled schedules {} moves).runs.get runId =
        none →
      ∃ candidates, scheduleCandidates parser SchedulerMemory.settled s
        ((SchedulerWorld.play parser SchedulerMemory.settled schedules {} moves).memory engine)
        nowMs = .ok candidates ∧ runId ∈ candidates) ∧
    ((schedules.map (·.key)).Nodup →
      SchedulerWorld.Throughout parser schedules
        (fun world move => move.SparesQuietly parser schedules world) {} moves →
      (SchedulerWorld.play parser (fun _ _ => []) schedules {} moves).runs =
        (SchedulerWorld.play parser SchedulerMemory.settled schedules {} moves).runs) := by
  have remembers := SchedulerWorld.remembers_fresh.play moves starts
  refine ⟨remembers.truthful, ?_, ?_⟩
  · intro engine s nowMs windows runId found listed missing
    refine ⟨_, by rw [scheduleCandidates, found]; rfl, ?_⟩
    apply List.mem_filter.mpr ⟨listed, ?_⟩
    rw [decide_eq_true_eq]
    -- An id noted as existing would have a run.
    intro noted
    have present := remembers.truthful engine s.key runId noted
    simp [Absent, missing] at present
  · intro distinct quiet
    have fresh : ({} : SchedulerWorld).Lockstep schedules {} :=
      ⟨rfl, SchedulerWorld.remembers_fresh.named, fun _ _ _ _ => rfl⟩
    exact fresh.play distinct SchedulerWorld.remembers_fresh moves starts quiet

end Runs

section Examples

def everyTenSync : ScheduledWorkflow :=
  { key := "sync", workflow := .named "sync", everyMs := some tenMs }

def cronless : CronParser where
  prev _ _ _ := .error "not a cron expression"
  next _ _ _ := .error "not a cron expression"

def tickWith (nowMs : Nat) (answer : StartAnswer) : Tick where
  nowMs := nowMs
  start _ := answer

/-- The store refuses the insert at the first tick of a window, which the next tick of the same
window then leaves out: it is never started. -/
theorem memo_hides_failed_start :
    ¬∀ (schedules : List ScheduledWorkflow) (moves : List SchedulerMove),
      (SchedulerWorld.play cronless SchedulerMemory.settled schedules {} moves).Truthful := by
  intro claim
  have noted := claim [everyTenSync]
    [.tick 0 (tickWith 0 (.threw false "connection refused")), .tick 0 (tickWith 5 .started)]
    0 "sync" (windowRunId "sync" 0) (by decide +kernel)
  exact absurd noted (by decide +kernel)

/-- A start that throws after its insert loses nothing, and the next window is started. -/
theorem memo_hides_no_window_lateThrow :
    (SchedulerWorld.play cronless SchedulerMemory.settled [everyTenSync] {}
      [.tick 0 (tickWith 0 (.threw true "dispatch failed")),
        .tick 0 (tickWith 12 .started)]).Truthful := by
  have resolved : ∀ s ∈ [everyTenSync], ∃ workflow, resolveSchedule s = .ok workflow := by
    intro s listed
    rw [List.mem_singleton.mp listed]
    exact ⟨"sync", rfl⟩
  have creates : SchedulerWorld.Throughout cronless [everyTenSync]
      (fun world move => move.StartsCreate [everyTenSync] world) {}
      [.tick 0 (tickWith 0 (.threw true "dispatch failed")), .tick 0 (tickWith 12 .started)] :=
    ⟨⟨resolved, fun _ _ error same => by cases same⟩,
      ⟨resolved, fun _ _ error same => by cases same⟩, trivial⟩
  have truthful := memo_hides_no_window _ creates
  exact truthful.1

end Examples

end Durable
