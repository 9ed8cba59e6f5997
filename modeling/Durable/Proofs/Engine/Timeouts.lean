import Durable.Engine.Timeouts
import Durable.Proofs.Retention.Sweep

/-! A run whose version declares a timeout is timed out by that timeout, once its workflow's latest
version lists it. -/

namespace Durable.Timeouts

open Retention

variable {run : RetainedRun}

/-- A run's own version declares a timeout, and that much time has passed. -/
def OwnTimeoutPassed (registrations : Registrations) (world : TimeoutWorld) (now : Int)
    (run : RetainedRun) : Prop :=
  ∃ own limit, registrations.find run.workflow (world.workflowVersion run.id) = some own ∧
    own.executionTimeoutMs = some limit ∧ limit ≤ now - run.createdAt

section Listing

variable {registrations : Registrations} {«namespace» : Option String} {world : TimeoutWorld}
  {now : Int} {reg : RegisteredWorkflow} {boundMs : Int}

theorem inflightQuery_selects : (inflightQuery «namespace» now reg boundMs).selects run = true ↔
      (reg.name = "" ∨ run.workflow = reg.name) ∧
        (run.status = .running ∨ run.status = .suspended) ∧
          «namespace».all (namespaceMatches run.namespace_) = true ∧
            boundMs ≤ now - run.createdAt := by
  have empty : reg.name.isEmpty = true ↔ reg.name = "" := String.isEmpty_iff
  have order : run.createdAt ≤ now - boundMs ↔ boundMs ≤ now - run.createdAt := by omega
  simp only [Retention.RunQuery.selects, inflightQuery, Option.all_some, Option.all_none, Bool.and_eq_true,
    Bool.or_eq_true, beq_iff_eq, List.contains_nil, Bool.not_false, Bool.and_true,
    List.contains_cons, Bool.or_false, decide_eq_true_eq, empty, order]
  tauto

theorem listRuns_inflight (rows : List RetainedRun) :
    listRuns (inflightQuery «namespace» now reg boundMs) rows =
      (listed (inflightQuery «namespace» now reg boundMs) rows).take 200 := by
  have window : runPageWindow (inflightQuery «namespace» now reg boundMs) = (0, some 200) := by
    simp [runPageWindow, inflightQuery]
  unfold listRuns
  rw [window]
  simp only [List.drop_zero, Option.elim_some]

theorem selects_of_listed {rows : List RetainedRun}
    (member : run ∈ listRuns (inflightQuery «namespace» now reg boundMs) rows) :
    run ∈ rows ∧ (inflightQuery «namespace» now reg boundMs).selects run = true := by
  rw [listRuns_inflight] at member
  exact mem_listed.mp (List.mem_of_mem_take member)

theorem listed_of_selects {rows : List RetainedRun} (member : run ∈ rows)
    (selected : (inflightQuery «namespace» now reg boundMs).selects run = true)
    (few : (rows.filter (inflightQuery «namespace» now reg boundMs).selects).length ≤ 200) :
    run ∈ listRuns (inflightQuery «namespace» now reg boundMs) rows := by
  rw [listRuns_inflight, List.take_of_length_le]
  · exact mem_listed.mpr ⟨member, selected⟩
  · unfold listed
    rwa [List.length_insertionSort]

end Listing

section Sweeping

variable {registrations : Registrations} {«namespace» : Option String} {world : TimeoutWorld}
  {now : Int} (calm : ∀ name run, world.draining name run = false)
include calm

theorem sweepRuns_eq (reg : RegisteredWorkflow) (page : List RetainedRun) :
    sweepRuns registrations world now reg page =
      (page.filter (timesOut registrations world now reg), false) := by
  induction page with
  | nil => rfl
  | cons run rest ih =>
    unfold sweepRuns
    rw [calm, ih, List.filter_cons]
    rfl

theorem mem_sweepLatest (latest : List RegisteredWorkflow) (run : RetainedRun) :
    run ∈ sweepLatest registrations «namespace» world now latest ↔
      ∃ reg ∈ latest, ∃ boundMs, reg.executionTimeoutMs = some boundMs ∧
        run ∈ listRuns (inflightQuery «namespace» now reg boundMs) (world.rows reg.name) ∧
          timesOut registrations world now reg run = true := by
  induction latest with
  | nil => simp [sweepLatest]
  | cons reg rest ih =>
    unfold sweepLatest
    rw [calm]
    cases declared : reg.executionTimeoutMs with
    | none =>
      -- A latest version without a timeout is passed over.
      simp [ih, declared]
    | some boundMs =>
      simp only [sweepRuns_eq calm, Bool.false_eq_true, if_false, List.mem_append, List.mem_filter,
        List.mem_cons, exists_eq_or_imp, declared, Option.some.injEq, exists_eq_left', ih]

end Sweeping

theorem timesOut_own {registrations : Registrations} {world : TimeoutWorld} {now : Int}
    {own : RegisteredWorkflow} {limit : Int}
    (registered : registrations.find run.workflow (world.workflowVersion run.id) = some own)
    (declares : own.executionTimeoutMs = some limit) (reg : RegisteredWorkflow) :
    timesOut registrations world now reg run = true ↔
      limit ≤ now - run.createdAt ∧ world.updateRunIf run.id = true := by
  have measured : timeoutMs registrations world reg run = some limit := by
    simp [timeoutMs, registered, declares]
  have order : run.createdAt ≤ now - limit ↔ limit ≤ now - run.createdAt := by omega
  simp only [timesOut, measured, Bool.and_eq_true, decide_eq_true_eq, order]

/-- A sweep times out a run whose own version declares a timeout exactly when that much time has
passed and the latest version of its workflow lists it, as it does the first two hundred runs in
flight that are older than the latest version's timeout. -/
theorem sweepTimeouts_own_limit (registrations : Registrations) («namespace» : Option String)
    (world : TimeoutWorld) (now : Int) (calm : ∀ name run, world.draining name run = false)
    (run : RetainedRun) (own : RegisteredWorkflow) (limit : Int)
    (registered : registrations.find run.workflow (world.workflowVersion run.id) = some own)
    (declares : own.executionTimeoutMs = some limit) :
    (run ∈ sweepTimeouts registrations «namespace» world now ↔
      limit ≤ now - run.createdAt ∧ world.updateRunIf run.id = true ∧
        ∃ reg ∈ registrations.latest, ∃ boundMs, reg.executionTimeoutMs = some boundMs ∧
          run ∈ listRuns (inflightQuery «namespace» now reg boundMs) (world.rows reg.name)) ∧
      ∀ reg boundMs,
        (run ∈ listRuns (inflightQuery «namespace» now reg boundMs) (world.rows reg.name) →
          run ∈ world.rows reg.name ∧ (reg.name = "" ∨ run.workflow = reg.name) ∧
            (run.status = .running ∨ run.status = .suspended) ∧
              «namespace».all (namespaceMatches run.namespace_) = true ∧
                boundMs ≤ now - run.createdAt) ∧
          (run ∈ world.rows reg.name → (reg.name = "" ∨ run.workflow = reg.name) →
            (run.status = .running ∨ run.status = .suspended) →
              «namespace».all (namespaceMatches run.namespace_) = true →
                boundMs ≤ now - run.createdAt →
                  ((world.rows reg.name).filter
                    (inflightQuery «namespace» now reg boundMs).selects).length ≤ 200 →
                    run ∈ listRuns (inflightQuery «namespace» now reg boundMs)
                      (world.rows reg.name)) := by
  constructor
  · unfold sweepTimeouts
    rw [mem_sweepLatest calm]
    simp only [timesOut_own registered declares]
    constructor
    · intro found
      obtain ⟨reg, member, boundMs, declared, page, passed, still⟩ := found
      exact ⟨passed, still, reg, member, boundMs, declared, page⟩
    · intro due
      obtain ⟨passed, still, reg, member, boundMs, declared, page⟩ := due
      exact ⟨reg, member, boundMs, declared, page, passed, still⟩
  · intro reg boundMs
    constructor
    · intro page
      obtain ⟨member, selected⟩ := selects_of_listed page
      exact ⟨member, inflightQuery_selects.mp selected⟩
    · intro member named open_ own passed few
      exact listed_of_selects member (inflightQuery_selects.mpr ⟨named, open_, own, passed⟩) few

section Versions

/-- A workflow whose second version declares a longer timeout than its first. -/
def lengthened : Registrations :=
  Registrations.ofList (fun first second => decide (second < first))
    [{ name := "slow", version := "1", executionTimeoutMs := some 10 },
     { name := "slow", version := "2", executionTimeoutMs := some 100 }]

def earlierRun : RetainedRun :=
  { id := "old", workflow := "slow", status := .suspended, createdAt := 0, updatedAt := 0 }

def earlierWorld : TimeoutWorld := { workflowVersion := fun _ => "1", rows := fun _ => [earlierRun] }

/-- Once the longer timeout has passed too, the run of the first version is timed out. -/
theorem earlier_run_times_out :
    earlierRun ∈ sweepTimeouts lengthened none earlierWorld 150 := by
  refine (sweepTimeouts_own_limit lengthened none earlierWorld 150 (fun _ _ => rfl) earlierRun
    { name := "slow", version := "1", executionTimeoutMs := some 10 } 10 (by decide) rfl).1.mpr ?_
  refine ⟨by decide, rfl, { name := "slow", version := "2", executionTimeoutMs := some 100 },
    by decide, 100, rfl, by decide⟩

/-- Before that it is not, though its own timeout has passed. -/
theorem shorter_timeout_waits :
    ¬∀ (registrations : Registrations) («namespace» : Option String) (world : TimeoutWorld)
      (now : Int), (∀ name run, world.draining name run = false) →
        ∀ run, (∀ name, run ∈ world.rows name) → world.updateRunIf run.id = true →
          isTerminalStatus run.status = false →
          (registrations.find run.workflow (world.workflowVersion run.id)).isSome = true →
            (run ∈ sweepTimeouts registrations «namespace» world now ↔
              OwnTimeoutPassed registrations world now run) := by
  intro follows
  have passed := (follows lengthened none earlierWorld 50 (fun _ _ => rfl) earlierRun
    (fun _ => List.mem_singleton_self _) rfl rfl (by decide)).mpr
    ⟨{ name := "slow", version := "1", executionTimeoutMs := some 10 }, 10, by decide, rfl,
      by decide⟩
  revert passed
  decide

end Versions

end Durable.Timeouts
