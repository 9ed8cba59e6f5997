import Durable.Retention.Sweep

/-! What the retention sweep deletes, and that a run that is due for deletion goes. -/

namespace Durable.Retention

variable {run : RetainedRun} {id : RunId}

section Conditions

variable (config : RetentionConfig) (children : RunId → List RunId) (report : PassReport)

/-- No run that a pass deleted owes its lifecycle event, or was not let go by the hooks. -/
def Spares : Prop :=
  ∀ run ∈ report.before, run ∉ report.after →
    lifecyclePendingTag ∉ run.tags ∧ (config.evictListeners = 0 ∨ run.id ∈ report.archived)

/-- The runs below the candidates that a pass deletes owe no event, and are such candidates
themselves where there are hooks. -/
def CascadesSafely : Prop :=
  ∀ root ∈ listRuns (candidateQuery report.query) report.before,
    deletable config report.world root = true →
      ∀ run ∈ report.before,
        Graph.Reach children (present report.before) root.id run.id →
          lifecyclePendingTag ∉ run.tags ∧
            (config.evictListeners = 0 ∨
              ∃ candidate ∈ listRuns (candidateQuery report.query) report.before,
                candidate.id = run.id ∧ deletable config report.world candidate = true)

/-- Fewer candidates than a page holds are kept before each one that is to be deleted. -/
def Unstarved : Prop :=
  ∀ run ∈ report.before, (candidateQuery report.query).selects run = true →
    deletable config report.world run = true →
      ((listed (candidateQuery report.query) report.before).takeWhile (· ≠ run)).countP
        (fun other => !deletable config report.world other) < passSize

end Conditions

section Due

variable (configs : Nat → RetentionConfig) (children : RunId → List RunId)

/-- Whether a call comes with a pass that finds a run expired, and may delete it. -/
def expires (state : SweepState) (call : SweepCall) (id : RunId) : Bool :=
  sweeps configs state call &&
    (callPasses configs state call).any fun pass =>
      pass.2.failsAfter.isNone &&
        state.runs.any fun run =>
          run.id == id && (candidateQuery pass.1).selects run &&
            deletable (configs call.engine) pass.2 run

/-- How many of some calls find a run expired, and may delete it. -/
def due (state : SweepState) (id : RunId) : List SweepCall → Nat
  | [] => 0
  | call :: rest =>
    (if expires configs state call id then 1 else 0) +
      due (sweepRetention configs children state call).2 id rest

end Due

section Pages

variable {pass : RunQuery} {runs : List RetainedRun}

theorem runPageWindow_candidateQuery (first : pass.page = none) :
    runPageWindow (candidateQuery pass) = (0, some passSize) := by
  unfold candidateQuery withoutBookkeepingRuns
  split <;> simp [runPageWindow, first]

theorem listRuns_candidateQuery (first : pass.page = none) (runs : List RetainedRun) :
    listRuns (candidateQuery pass) runs = (listed (candidateQuery pass) runs).take passSize := by
  unfold listRuns
  rw [runPageWindow_candidateQuery first]
  rfl

/-- The rows a query selects are those that are listed. -/
@[simp] theorem mem_listed {query : RunQuery} :
    run ∈ listed query runs ↔ run ∈ runs ∧ query.selects run = true := by
  simp [listed]

theorem mem_of_mem_listRuns {query : RunQuery} (member : run ∈ listRuns query runs) :
    run ∈ runs := by
  unfold listRuns at member
  cases size : (runPageWindow query).2 with
  | none =>
    simp only [size, Option.elim_none] at member
    exact (mem_listed.mp (List.mem_of_mem_drop member)).1
  | some limit =>
    simp only [size, Option.elim_some] at member
    exact (mem_listed.mp (List.mem_of_mem_drop (List.mem_of_mem_take member))).1

theorem passes_page {config : RetentionConfig} {now : Int}
    (member : pass ∈ passes config runs now) : pass.page = none := by
  rcases List.mem_append.mp member with aged | scoped_
  · obtain ⟨status, -, made⟩ := List.mem_filterMap.mp aged
    split at made
    · cases made
    · split at made
      · cases made
      · cases made
        rfl
  · obtain ⟨policy, -, made⟩ := List.mem_flatMap.mp scoped_
    unfold policyPasses at made
    dsimp only at made
    split at made
    · cases made
    · split at made
      · cases made
      · rcases List.mem_append.mp made with byAge | byCount
        · obtain ⟨age, -, rfl⟩ := List.mem_map.mp byAge
          rfl
        · obtain ⟨count, -, made⟩ := List.mem_flatMap.mp byCount
          split at made
          · cases List.mem_singleton.mp made
            rfl
          · obtain ⟨last, -, rfl⟩ := List.mem_map.mp made
            rfl

end Pages

section Trees

theorem mem_runTrees {store : RetentionStore} {roots : List RunId} : id ∈ runTrees store roots ↔
      ∃ root ∈ roots, Graph.Reach store.getRunChildren (present store.runs) root id := by
  have all : ∀ node, present store.runs node = true → node ∈ store.runs.map (·.id) := by
    intro node here
    simpa [present] using here
  exact Graph.mem_postOrder all (by simp) roots id

theorem present_of_mem {runs : List RetainedRun} (member : run ∈ runs) :
    present runs run.id = true :=
  List.any_eq_true.mpr ⟨run, member, beq_self_eq_true run.id⟩

end Trees

section Pass

variable {config : RetentionConfig} {children : RunId → List RunId} {world : PassWorld}
  {pass : RunQuery} {runs : List RetainedRun}

theorem mem_archived : id ∈ (runPass config ⟨runs, children⟩ world pass).archived ↔
      ∃ root ∈ listRuns (candidateQuery pass) runs,
        root.id = id ∧ deletable config world root = true := by
  simp only [runPass, List.mem_map, List.mem_filter]
  constructor
  · rintro ⟨root, ⟨listed, may⟩, named⟩
    exact ⟨root, listed, named, may⟩
  · rintro ⟨root, listed, named, may⟩
    exact ⟨root, ⟨listed, may⟩, named⟩

theorem runPass_after_sublist : (runPass config ⟨runs, children⟩ world pass).after.Sublist runs :=
  List.filter_sublist

theorem runPass_deletes (before : run ∈ runs)
    (gone : run ∉ (runPass config ⟨runs, children⟩ world pass).after) :
    ∃ root ∈ listRuns (candidateQuery pass) runs, deletable config world root = true ∧
      Graph.Reach children (present runs) root.id run.id := by
  have doomed : run.id ∈ runTrees ⟨runs, children⟩
      (runPass config ⟨runs, children⟩ world pass).archived := by
    simp only [runPass, List.mem_filter, before, true_and, Bool.not_eq_true',
      Bool.not_eq_false, List.contains_iff_mem] at gone
    cases fails : world.failsAfter with
    | none => simpa [fails, runPass] using gone
    | some count =>
      -- A delete that fails takes a part of the trees.
      simp only [fails, Option.elim_some] at gone
      exact List.mem_of_mem_take gone
  obtain ⟨id, archived, reach⟩ := mem_runTrees.mp doomed
  obtain ⟨root, listed, rfl, may⟩ := mem_archived.mp archived
  exact ⟨root, listed, may, reach⟩

theorem runPass_reaches (succeeds : world.failsAfter = none) {root : RetainedRun}
    (listed : root ∈ listRuns (candidateQuery pass) runs)
    (may : deletable config world root = true)
    (reach : Graph.Reach children (present runs) root.id run.id) :
    run ∉ (runPass config ⟨runs, children⟩ world pass).after := by
  have doomed : run.id ∈ runTrees ⟨runs, children⟩
      (runPass config ⟨runs, children⟩ world pass).archived :=
    mem_runTrees.mpr ⟨root.id, mem_archived.mpr ⟨root, listed, rfl, may⟩, reach⟩
  intro left
  have spared := (List.mem_filter.mp left).2
  simp only [succeeds, Option.elim_none, Bool.not_eq_true', List.contains_eq_mem,
    decide_eq_false_iff_not] at spared
  exact spared doomed

theorem runPass_spares
    (safe : CascadesSafely config children (runPass config ⟨runs, children⟩ world pass)) :
    Spares config (runPass config ⟨runs, children⟩ world pass) := by
  intro run before gone
  obtain ⟨root, listed, may, reach⟩ := runPass_deletes before gone
  obtain ⟨settled, hooks⟩ := safe root listed may run before reach
  refine ⟨settled, hooks.imp_right fun candidate => ?_⟩
  exact mem_archived.mpr candidate

theorem runPass_cascades (succeeds : world.failsAfter = none)
    (spares : Spares config (runPass config ⟨runs, children⟩ world pass)) :
    CascadesSafely config children (runPass config ⟨runs, children⟩ world pass) := by
  intro root listed may run before reach
  obtain ⟨settled, hooks⟩ := spares run before (runPass_reaches succeeds listed may reach)
  exact ⟨settled, hooks.imp_right mem_archived.mp⟩

end Pass

section Turns

theorem take_prefix_takeWhile {α : Type} [DecidableEq α] {list : List α} {element : α} {count : Nat}
    (member : element ∈ list) (later : element ∉ list.take count) :
    (list.take count).length = count ∧
      (list.take count).Sublist (list.takeWhile (· ≠ element)) := by
  induction list generalizing count with
  | nil => simp at member
  | cons first rest ih =>
    cases count with
    | zero => simp
    | succ count =>
      simp only [List.take_succ_cons, List.mem_cons, not_or] at later
      have different : first ≠ element := fun same => later.1 same.symm
      have below : element ∈ rest := (List.mem_cons.mp member).resolve_left later.1
      obtain ⟨full, within⟩ := ih below later.2
      constructor
      · simp [full]
      · rw [List.take_succ_cons, List.takeWhile_cons_of_pos (by simpa using different)]
        exact within.cons_cons first

variable {config : RetentionConfig} {children : RunId → List RunId} {world : PassWorld}
  {pass : RunQuery} {runs : List RetainedRun}

theorem runPass_progress (first : pass.page = none) (succeeds : world.failsAfter = none)
    (member : run ∈ runs) (expired : (candidateQuery pass).selects run = true)
    (may : deletable config world run = true)
    (unstarved : Unstarved config (runPass config ⟨runs, children⟩ world pass)) :
    run ∉ (runPass config ⟨runs, children⟩ world pass).after ∨
      (runPass config ⟨runs, children⟩ world pass).after.length < runs.length := by
  -- Every candidate on the page that the pass may delete goes.
  have goes : ∀ other ∈ listRuns (candidateQuery pass) runs, deletable config world other = true →
      other ∉ (runPass config ⟨runs, children⟩ world pass).after := fun other listed may =>
    runPass_reaches succeeds listed may (.root (present_of_mem (mem_of_mem_listRuns listed)))
  by_cases listed : run ∈ listRuns (candidateQuery pass) runs
  · exact .inl (goes run listed may)
  · -- The page is full of runs listed before this one, and not all of them are kept.
    refine .inr ?_
    rw [listRuns_candidateQuery first] at listed goes
    obtain ⟨full, within⟩ := take_prefix_takeWhile (mem_listed.mpr ⟨member, expired⟩) listed
    have few := unstarved run member expired may
    have fewer := within.countP_le (p := fun other => !deletable config world other)
    obtain ⟨other, page, mayOther⟩ : ∃ other ∈
        (Retention.listed (candidateQuery pass) runs).take passSize,
          deletable config world other = true := by
      by_contra none
      push Not at none
      have all : ((Retention.listed (candidateQuery pass) runs).take passSize).countP
          (fun other => !deletable config world other) = passSize := by
        rw [List.countP_eq_length.mpr fun other page => by simpa using none other page]
        exact full
      have := Nat.lt_of_le_of_lt fewer few
      omega
    have gone := goes other page mayOther
    have before : other ∈ runs := (mem_listed.mp (List.mem_of_mem_take page)).1
    exact List.length_filter_lt_length_iff_exists.mpr ⟨other, before, fun spared =>
      gone (List.mem_filter.mpr ⟨before, spared⟩)⟩

theorem runPass_starved (full : ∀ candidate ∈ listRuns (candidateQuery pass) runs,
    deletable config world candidate = false) :
    (runPass config ⟨runs, children⟩ world pass).after = runs := by
  refine List.filter_eq_self.mpr fun run member => ?_
  by_contra doomed
  have gone : run ∉ (runPass config ⟨runs, children⟩ world pass).after := fun left =>
    doomed (List.mem_filter.mp left).2
  obtain ⟨root, listed, may, -⟩ := runPass_deletes member gone
  rw [full root listed] at may
  cases may

end Turns

section Runs

variable {configs : Nat → RetentionConfig} {children : RunId → List RunId}
  {config : RetentionConfig}

theorem runPasses_sublist (list : List (RunQuery × PassWorld)) (runs : List RetainedRun) :
    (runPasses config children list runs).2.Sublist runs := by
  induction list generalizing runs with
  | nil => exact List.Sublist.refl runs
  | cons pass rest ih =>
    simp only [runPasses]
    exact (ih _).trans runPass_after_sublist

theorem runPasses_reports (list : List (RunQuery × PassWorld)) (runs : List RetainedRun) :
    ∀ report ∈ (runPasses config children list runs).1, ∃ runs world pass,
      report = runPass config ⟨runs, children⟩ world pass := by
  induction list generalizing runs with
  | nil => simp [runPasses]
  | cons pass rest ih =>
    intro report member
    simp only [runPasses, List.mem_cons] at member
    rcases member with rfl | later
    · exact ⟨runs, pass.2, pass.1, rfl⟩
    · exact ih _ report later

theorem runPasses_progress (list : List (RunQuery × PassWorld)) (runs : List RetainedRun)
    (first : ∀ pass ∈ list, pass.1.page = none)
    (unstarved : ∀ report ∈ (runPasses config children list runs).1, Unstarved config report)
    (left : present (runPasses config children list runs).2 run.id = true) (member : run ∈ runs)
    (expired : ∃ pass ∈ list, pass.2.failsAfter = none ∧
      (candidateQuery pass.1).selects run = true ∧ deletable config pass.2 run = true) :
    (runPasses config children list runs).2.length < runs.length := by
  induction list generalizing runs with
  | nil =>
    obtain ⟨pass, none, -⟩ := expired
    cases none
  | cons pass rest ih =>
    simp only [runPasses, List.mem_cons, forall_eq_or_imp] at left unstarved ⊢
    have within : (runPasses config children rest
        (runPass config ⟨runs, children⟩ pass.2 pass.1).after).2.Sublist
        (runPass config ⟨runs, children⟩ pass.2 pass.1).after := runPasses_sublist rest _
    have shrinks := within.length_le
    -- A row with the same id is left, so no pass so far deleted that id.
    have kept : run ∈ (runPass config ⟨runs, children⟩ pass.2 pass.1).after := by
      obtain ⟨other, here, same⟩ := List.any_eq_true.mp left
      have spared := (List.mem_filter.mp (within.subset here)).2
      rw [beq_iff_eq.mp same] at spared
      exact List.mem_filter.mpr ⟨member, spared⟩
    obtain ⟨chosen, listed, succeeds, selected, may⟩ := expired
    rcases List.mem_cons.mp listed with rfl | later
    · have progress := runPass_progress (first chosen List.mem_cons_self) succeeds member selected
        may unstarved.1
      rcases progress with gone | fewer
      · exact absurd kept gone
      · omega
    · have less := ih _ (fun pass below => first pass (List.mem_cons_of_mem _ below)) unstarved.2
        left kept ⟨chosen, later, succeeds, selected, may⟩
      have part : (runPass config ⟨runs, children⟩ pass.2 pass.1).after.Sublist runs :=
        runPass_after_sublist
      have shorter := part.length_le
      omega

theorem sweepRetention_sublist (state : SweepState) (call : SweepCall) :
    (sweepRetention configs children state call).2.runs.Sublist state.runs := by
  unfold sweepRetention
  split
  · exact runPasses_sublist _ _
  · exact List.Sublist.refl _

theorem sweepRetention_progress {state : SweepState} {call : SweepCall}
    (unstarved : ∀ report ∈ (sweepRetention configs children state call).1,
      Unstarved (configs call.engine) report) (expired : expires configs state call id = true)
    (left : present (sweepRetention configs children state call).2.runs id = true) :
    (sweepRetention configs children state call).2.runs.length < state.runs.length := by
  simp only [expires, Bool.and_eq_true, List.any_eq_true, beq_iff_eq, Option.isNone_iff_eq_none]
    at expired
  obtain ⟨goes, pass, listed, succeeds, run, member, ⟨rfl, selected⟩, may⟩ := expired
  simp only [sweepRetention, goes, if_true] at unstarved left ⊢
  refine runPasses_progress _ _ (fun pass listed => ?_) unstarved left member
    ⟨pass, listed, succeeds, selected, may⟩
  obtain ⟨numbered, within, rfl⟩ := List.mem_map.mp listed
  exact passes_page (List.fst_mem_of_mem_zipIdx within)

theorem due_lt (calls : List SweepCall) (state : SweepState) (id : RunId)
    (unstarved : ∀ report ∈ reports configs children state calls, Unstarved report.1 report.2)
    (left : present (sweepAll configs children state calls).runs id = true) :
    due configs children state id calls < state.runs.length := by
  induction calls generalizing state with
  | nil =>
    obtain ⟨run, member, -⟩ := List.any_eq_true.mp left
    exact List.length_pos_of_mem member
  | cons call rest ih =>
    simp only [reports, List.mem_append, List.mem_map] at unstarved
    have below := ih (sweepRetention configs children state call).2
      (fun report later => unstarved report (.inr later)) left
    have part : (sweepRetention configs children state call).2.runs.Sublist state.runs :=
      sweepRetention_sublist state call
    have shrinks := part.length_le
    simp only [due]
    split
    · rename_i expired
      -- A call after which the run is left deleted at least one other.
      have here : present (sweepRetention configs children state call).2.runs id = true := by
        have within : ∀ (calls : List SweepCall) (state : SweepState),
            (sweepAll configs children state calls).runs.Sublist state.runs := by
          intro calls
          induction calls with
          | nil => exact fun state => List.Sublist.refl _
          | cons call rest ih => exact fun state => (ih _).trans (sweepRetention_sublist state call)
        obtain ⟨run, member, same⟩ := List.any_eq_true.mp left
        exact List.any_eq_true.mpr ⟨run, (within rest _).subset member, same⟩
      have fewer := sweepRetention_progress (fun report reported =>
        unstarved (configs call.engine, report) (.inl ⟨report, reported, rfl⟩)) expired here
      omega
    · omega

theorem reports_runPass (calls : List SweepCall) (state : SweepState) :
    ∀ report ∈ reports configs children state calls, ∃ runs world pass,
      report.2 = runPass report.1 ⟨runs, children⟩ world pass := by
  induction calls generalizing state with
  | nil => simp [reports]
  | cons call rest ih =>
    intro report member
    simp only [reports, List.mem_append, List.mem_map] at member
    rcases member with ⟨made, reported, rfl⟩ | later
    · unfold sweepRetention at reported
      split at reported
      · exact runPasses_reports _ _ made reported
      · cases reported
    · exact ih _ report later

end Runs

section Cascade

def dayRetention : RetentionConfig :=
  { retention := some fun status => if status = .completed then some 86400000 else none }

/-- A parent that completed long ago, with a child whose event is not yet published. -/
def owingFamily : SweepState :=
  { runs :=
      [{ id := "parent", workflow := "order", status := .completed, createdAt := 0, updatedAt := 20 },
       { id := "parent.child.1", workflow := "mail", status := .completed
         tags := [lifecyclePendingTag], createdAt := 10, updatedAt := 20 }] }

def familyChildren : RunId → List RunId := fun id =>
  if id = "parent" then ["parent.child.1"] else []

end Cascade

end Durable.Retention
