import Mathlib.Data.List.Dedup
import Durable.Interleaving.Entries
import Durable.Singleton.Runs

/-! The slots of a singleton: never more than its limit, kept to the end, and given in order. -/

namespace Durable

open Interleaving

variable {after : SingletonRun} {runId : String}

section Tags

variable (single : Singleton)

theorem Singleton.tag_toList :
    single.tag.toList = "singleton:".toList ++ single.key.toList := by
  unfold Singleton.tag
  exact String.toList_append ..

theorem Singleton.tag_ne {tag : String} (other : tag.toList.head? ≠ some 's') :
    single.tag ≠ tag := by
  intro same
  rw [← same, single.tag_toList] at other
  exact other rfl

theorem Singleton.tag_free : single.tag ∉ singletonReservedTags := by
  intro listed
  simp only [singletonReservedTags, List.mem_cons, List.not_mem_nil, or_false] at listed
  rcases listed with same | same
  · exact single.tag_ne (by decide) same
  · exact single.tag_ne (by decide) same

theorem Singleton.tag_kept : "onError:".toList.isPrefixOf single.tag.toList = false := by
  rw [single.tag_toList]
  rfl

theorem withSingletonTracked_admitted (tags : List String) :
    singletonAdmittedTag ∈ withSingletonTracked tags ↔ singletonAdmittedTag ∈ tags := by
  unfold withSingletonTracked
  split
  · exact Iff.rfl
  · simp [singletonAdmittedTag, singletonTrackedTag]

theorem withSingletonTracked_tag (tags : List String) :
    single.tag ∈ withSingletonTracked tags ↔ single.tag ∈ tags := by
  have free : single.tag ≠ singletonTrackedTag := single.tag_ne (by decide)
  unfold withSingletonTracked
  split
  · exact Iff.rfl
  · simp [free]

theorem mem_withoutAdmission (tags : List String) (tag : String) :
    tag ∈ (withoutAdmission tags).getD tags ↔ tag ∈ tags ∧ tag ∉ singletonReservedTags := by
  unfold withoutAdmission withoutSingletonMarkers
  split
  · simp
  · rename_i none_
    have free : ∀ tag ∈ tags, tag ∉ singletonReservedTags := fun tag listed reserved =>
      none_ (List.any_eq_true.mpr ⟨tag, listed, by simpa using reserved⟩)
    exact ⟨fun listed => ⟨listed, free tag listed⟩, And.left⟩

end Tags

section Row

variable {single : Singleton} {run : SingletonRun} {patch : RunPatch}

theorem SingletonRun.admitted_iff : run.admitted = true ↔ singletonAdmittedTag ∈ run.tags := by
  unfold SingletonRun.admitted
  exact List.contains_iff_mem

/-- What a change of one row may do to a run's slot. -/
structure RowKept (single : Singleton) (before after : SingletonRun) : Prop where
  id : after.id = before.id
  same : single.Has after ↔ single.Has before
  admitted : after.admitted = true → before.admitted = true
  ended : isTerminalStatus after.status = true →
    (isTerminalStatus before.status = true → before.admitted = false) → after.admitted = false
  kept : before.admitted = true → isTerminalStatus before.status = false →
    after.admitted = true ∨ isTerminalStatus after.status = true

theorem settle_kept (ends : settlesTerminally patch = true)
    (tagged : single.tag ∈ patch.tags.getD run.tags ↔ single.tag ∈ run.tags) :
    RowKept single run (run.patch patch) := by
  have tags : (run.patch patch).tags =
      (patch.tags.getD run.tags).filter (· ∉ singletonReservedTags) := by
    simp only [SingletonRun.patch, WorkflowRun.patched, if_pos ends]
  have free := single.tag_free
  have unadmitted : (run.patch patch).admitted = false := by
    rw [Bool.eq_false_iff, ne_eq, SingletonRun.admitted_iff, tags]
    intro member
    have outside := of_decide_eq_true (List.mem_filter.mp member).2
    exact outside (by decide)
  have ended : isTerminalStatus (run.patch patch).status = true := by
    have status : (run.patch patch).status = patch.status.getD run.status := rfl
    rw [status]
    cases written : patch.status with
    | none => simp [settlesTerminally, written] at ends
    | some status => simpa [settlesTerminally, written] using ends
  refine ⟨rfl, ?_, ?_, ?_, ?_⟩
  · have member : single.tag ∈ (run.patch patch).tags ↔ single.tag ∈ run.tags := by
      rw [tags, List.mem_filter, ← tagged]
      simp [free]
    exact and_congr Iff.rfl member
  · intro admitted
    cases unadmitted.symm.trans admitted
  · exact fun _ _ => unadmitted
  · exact fun _ _ => .inr ended

theorem untagged_kept (goesOn : settlesTerminally patch = false) (untagged : patch.tags = none) :
    RowKept single run (run.patch patch) := by
  have tags : (run.patch patch).tags = run.tags := by
    simp [SingletonRun.patch, WorkflowRun.patched, untagged, goesOn]
  have status : (run.patch patch).status = patch.status.getD run.status := rfl
  refine ⟨rfl, ?_, ?_, ?_, ?_⟩
  · unfold Singleton.Has
    rw [tags]
    exact Iff.rfl
  · simp only [SingletonRun.admitted_iff, tags]
    exact id
  · intro ended before
    -- A patch that writes no terminal status leaves an ended run as it was.
    have still : isTerminalStatus run.status = true := by
      rw [status] at ended
      cases written : patch.status with
      | none => simpa [written] using ended
      | some status =>
        simp only [written, Option.getD_some] at ended
        simp [settlesTerminally, written, ended] at goesOn
    have unadmitted := before still
    simpa only [SingletonRun.admitted, tags] using unadmitted
  · intro admitted _
    refine .inl ?_
    simpa only [SingletonRun.admitted, tags] using admitted

theorem patch_kept (tagged : ∀ tags, patch.tags = some tags →
    settlesTerminally patch = true ∧ (single.tag ∈ tags ↔ single.tag ∈ run.tags)) :
    RowKept single run (run.patch patch) := by
  cases ends : settlesTerminally patch with
  | true =>
    refine settle_kept ends ?_
    cases written : patch.tags with
    | none => exact Iff.rfl
    | some tags => exact (tagged tags written).2
  | false =>
    refine untagged_kept ends ?_
    cases written : patch.tags with
    | none => rfl
    | some tags => exact absurd (ends.symm.trans (tagged tags written).1) (by decide)

theorem RowKept.of_tags (id : after.id = run.id) (workflow : after.workflow = run.workflow)
    (tag : single.tag ∈ after.tags ↔ single.tag ∈ run.tags)
    (admitted : singletonAdmittedTag ∈ after.tags → singletonAdmittedTag ∈ run.tags)
    (goesOn : isTerminalStatus after.status = false)
    (kept : isTerminalStatus run.status = false → singletonAdmittedTag ∈ run.tags →
      singletonAdmittedTag ∈ after.tags) : RowKept single run after := by
  refine ⟨id, ?_, ?_, ?_, ?_⟩
  · unfold Singleton.Has
    rw [workflow, tag]
  · simpa only [SingletonRun.admitted_iff] using admitted
  · intro ended
    cases goesOn.symm.trans ended
  · intro before live
    rw [SingletonRun.admitted_iff] at before ⊢
    exact .inl (kept live before)

theorem startPatch_kept (singleton : Bool) :
    RowKept single run (run.patch (startPatch run singleton)) := by
  have tags : (run.patch (startPatch run singleton)).tags =
      if singleton then withSingletonTracked run.tags else run.tags := by
    simp only [SingletonRun.patch, WorkflowRun.patched, startPatch, settlesTerminally,
      Option.any_some, isTerminalStatus, Bool.false_eq_true, if_false]
    -- Tags that are as they were are not written.
    generalize (if singleton = true then withSingletonTracked run.tags else run.tags) = tags
    by_cases same : tags = run.tags
    · rw [if_pos same, Option.getD_none, same]
    · rw [if_neg same, Option.getD_some]
  refine .of_tags rfl rfl ?_ ?_ rfl ?_
  · rw [tags]
    split
    · exact withSingletonTracked_tag single run.tags
    · exact Iff.rfl
  · rw [tags]
    split
    · exact (withSingletonTracked_admitted run.tags).mp
    · exact id
  · intro _ admitted
    rw [tags]
    split
    · exact (withSingletonTracked_admitted run.tags).mpr admitted
    · exact admitted

theorem requeuePatch_tags (tag : String) :
    tag ∈ (run.patch (requeuePatch run)).tags ↔ tag ∈ run.tags ∧ tag ≠ childDeliveredTag ∧
      (resurrects run = true → tag ∉ singletonReservedTags) := by
  have written : (run.patch (requeuePatch run)).tags = (requeuePatch run).tags.getD run.tags := by
    simp [SingletonRun.patch, WorkflowRun.patched, requeuePatch, settlesTerminally, isTerminalStatus]
  have kept : tag ∈ (if resurrects run = true then (withoutAdmission run.tags).getD run.tags
      else run.tags) ↔ tag ∈ run.tags ∧ (resurrects run = true → tag ∉ singletonReservedTags) := by
    split
    · rename_i failed
      simp [mem_withoutAdmission, failed]
    · rename_i alive
      simp [alive]
  rw [written]
  unfold requeuePatch
  dsimp only
  generalize (if resurrects run = true then (withoutAdmission run.tags).getD run.tags
    else run.tags) = list at kept ⊢
  split
  · simp only [Option.getD_some, List.mem_filter, kept, bne_iff_ne, ne_eq]
    exact ⟨fun ⟨⟨here, free⟩, other⟩ => ⟨here, other, free⟩,
      fun ⟨here, other, free⟩ => ⟨⟨here, free⟩, other⟩⟩
  · -- Nothing is stale: the tags are those of the run, and the child's is not among them.
    rename_i fresh
    simp only [Bool.or_eq_true, decide_eq_true_eq, not_or, Decidable.not_not,
      List.contains_iff_mem] at fresh
    obtain ⟨same, undelivered⟩ := fresh
    rw [Option.getD_none]
    constructor
    · intro here
      rw [← same] at here
      refine ⟨(kept.mp here).1, ?_, (kept.mp here).2⟩
      rintro rfl
      exact undelivered here
    · exact fun ⟨here, _, _⟩ => here

theorem requeue_kept (handedOff : Bool) :
    RowKept single run
      (let retired := if resurrects run && handedOff then run.patch (retirePatch run) else run
       retired.patch (requeuePatch retired)) := by
  have retired : ∀ retired, retired = (if resurrects run && handedOff then
      run.patch (retirePatch run) else run) → retired.id = run.id ∧
        retired.workflow = run.workflow ∧ retired.status = run.status ∧
          ∀ tag, tag ∈ retired.tags ↔ tag ∈ run.tags ∧ (resurrects run = true → handedOff = true →
            "onError:".toList.isPrefixOf tag.toList = false) := by
    rintro _ rfl
    split
    · rename_i retires
      obtain ⟨failed, handed⟩ := Bool.and_eq_true_iff.mp retires
      refine ⟨rfl, rfl, rfl, fun tag => ?_⟩
      simp [SingletonRun.patch, WorkflowRun.patched, retirePatch, settlesTerminally, failed, handed]
    · rename_i stays
      refine ⟨rfl, rfl, rfl, fun tag => ⟨fun here => ⟨here, fun failed handed => ?_⟩, And.left⟩⟩
      exact absurd (Bool.and_eq_true_iff.mpr ⟨failed, handed⟩) stays
  dsimp only
  generalize same : (if resurrects run && handedOff then run.patch (retirePatch run) else run) =
    middle
  obtain ⟨id, workflow, status, tags⟩ := retired middle same.symm
  have failing : resurrects middle = resurrects run := by
    unfold resurrects
    rw [status]
  have free := single.tag_free
  refine .of_tags id workflow ?_ ?_ rfl ?_
  · rw [requeuePatch_tags, tags]
    have undelivered : single.tag ≠ childDeliveredTag := single.tag_ne (by decide)
    have kept := single.tag_kept
    exact ⟨fun member => member.1.1, fun member =>
      ⟨⟨member, fun _ _ => kept⟩, undelivered, fun _ => free⟩⟩
  · rw [requeuePatch_tags, tags]
    exact fun member => member.1.1
  · intro live admitted
    have alive : resurrects run = false := by
      unfold resurrects
      cases status : run.status <;> simp_all [isTerminalStatus]
    rw [requeuePatch_tags, tags, failing, alive]
    refine ⟨⟨admitted, by simp⟩, by decide, by simp⟩

end Row

section Creation

variable {localeCompare : String → String → Ordering} {one other : SingletonRun}

theorem byCreation_isLE : (byCreation localeCompare one other).isLE = true ↔
    one.createdAt < other.createdAt ∨
      one.createdAt = other.createdAt ∧ (localeCompare one.id other.id).isLE = true := by
  unfold byCreation
  rcases Nat.lt_trichotomy one.createdAt other.createdAt with less | same | more
  · simp [Nat.compare_eq_lt.mpr less, less]
  · simp [same]
  · have later : ¬ one.createdAt < other.createdAt := by omega
    have apart : one.createdAt ≠ other.createdAt := by omega
    simp [Nat.compare_eq_gt.mpr more, later, apart]

theorem byCreation_lt : byCreation localeCompare one other = .lt ↔
    one.createdAt < other.createdAt ∨
      one.createdAt = other.createdAt ∧ localeCompare one.id other.id = .lt := by
  unfold byCreation
  rcases Nat.lt_trichotomy one.createdAt other.createdAt with less | same | more
  · simp [Nat.compare_eq_lt.mpr less, less]
  · simp [same]
  · have later : ¬ one.createdAt < other.createdAt := by omega
    have apart : one.createdAt ≠ other.createdAt := by omega
    simp [Nat.compare_eq_gt.mpr more, later, apart]

variable [Std.TransCmp localeCompare]

theorem not_isLE_of_lt (before : byCreation localeCompare one other = .lt) :
    ¬ (byCreation localeCompare other one).isLE = true := by
  rw [byCreation_lt] at before
  rw [byCreation_isLE]
  rintro (less | ⟨same, later⟩)
  · omega
  · rcases before with less | ⟨-, earlier⟩
    · omega
    · have swapped : localeCompare other.id one.id = (localeCompare one.id other.id).swap :=
        Std.OrientedCmp.eq_swap
      rw [swapped, earlier] at later
      cases later

variable (localeCompare)

/-- The order of creation goes in one direction. -/
instance : IsTrans SingletonRun fun one other => (byCreation localeCompare one other).isLE = true where
  trans first second third before after := by
    rw [byCreation_isLE] at before after ⊢
    rcases before with less | ⟨same, before⟩
    · rcases after with less' | ⟨same', -⟩ <;> exact .inl (by omega)
    · rcases after with less' | ⟨same', after⟩
      · exact .inl (by omega)
      · exact .inr ⟨same.trans same', Std.TransCmp.isLE_trans before after⟩

/-- Of two runs, one was created no later than the other. -/
instance : Std.Total fun one other : SingletonRun =>
    (byCreation localeCompare one other).isLE = true where
  total one other := by
    rw [byCreation_isLE, byCreation_isLE]
    rcases Nat.lt_trichotomy one.createdAt other.createdAt with less | same | more
    · exact .inl (.inl less)
    · cases compared : localeCompare one.id other.id with
      | lt => exact .inl (.inr ⟨same, rfl⟩)
      | eq => exact .inl (.inr ⟨same, rfl⟩)
      | gt =>
        refine .inr (.inr ⟨same.symm, ?_⟩)
        have swapped : localeCompare other.id one.id = (localeCompare one.id other.id).swap :=
          Std.OrientedCmp.eq_swap
        rw [swapped, compared]
        rfl
    · exact .inr (.inl more)

theorem sortedByCreation_ranked (runs : List SingletonRun) :
    (sortedByCreation localeCompare runs).Pairwise
      fun one other => (byCreation localeCompare one other).isLE = true :=
  List.pairwise_insertionSort _ runs

omit [Std.TransCmp localeCompare] in
theorem sortedByCreation_perm (runs : List SingletonRun) :
    (sortedByCreation localeCompare runs).Perm runs :=
  List.perm_insertionSort _ runs

end Creation

section Claim

variable {localeCompare : String → String → Ordering} {single : Singleton}
  {store : SingletonStore} {run : SingletonRun}

/-- Each run has one row, under its id. -/
structure Orderly (store : SingletonStore) : Prop where
  distinct : store.Distinct
  keyed : ∀ runId run, store.get runId = some run → run.id = runId

theorem Orderly.mem_values (orderly : Orderly store) :
    run ∈ store.values ↔ store.get run.id = some run := by
  rw [orderly.distinct.mem_values]
  constructor
  · rintro ⟨runId, found⟩
    rwa [orderly.keyed runId run found]
  · exact fun found => ⟨run.id, found⟩

theorem Orderly.ids_nodup (orderly : Orderly store) : (store.values.map (·.id)).Nodup := by
  have ids : store.values.map (·.id) = store.rows.map Prod.fst := by
    unfold Table.values
    rw [List.map_map]
    refine List.map_congr_left fun row listed => ?_
    exact orderly.keyed row.1 row.2 (orderly.distinct.mem_rows_iff.mp listed)
  rw [ids]
  exact orderly.distinct

theorem active_iff (status : RunStatus) :
    singletonActiveStatuses.contains status = !isTerminalStatus status := by
  cases status <;> rfl

theorem Singleton.active_eq (runs : List SingletonRun) :
    single.active runs = runs.filter fun run => decide (single.Active run) := by
  refine List.filter_congr fun run _ => ?_
  rw [active_iff, Bool.eq_iff_iff, decide_eq_true_iff]
  unfold Singleton.Active Singleton.Has
  simp only [Bool.and_eq_true, beq_iff_eq, Bool.not_eq_true', List.contains_iff_mem]
  exact and_right_comm

theorem Orderly.find_active (orderly : Orderly store) :
    (single.active store.values).find? (·.id == runId) = some run ↔
      store.get runId = some run ∧ single.Active run := by
  rw [Singleton.active_eq]
  constructor
  · intro found
    have listed := List.mem_filter.mp (List.mem_of_find?_eq_some found)
    have named := List.find?_some found
    rw [beq_iff_eq] at named
    exact ⟨named ▸ orderly.mem_values.mp listed.1, of_decide_eq_true listed.2⟩
  · rintro ⟨stored, active⟩
    have named := orderly.keyed runId run stored
    have listed : run ∈ store.values.filter fun run => decide (single.Active run) :=
      List.mem_filter.mpr ⟨orderly.mem_values.mpr (named ▸ stored), decide_eq_true active⟩
    cases found : (store.values.filter fun run => decide (single.Active run)).find?
        (·.id == runId) with
    | none =>
      have missed := List.find?_eq_none.mp found run listed
      exact absurd (beq_iff_eq.mpr named) missed
    | some other =>
      -- Two rows with one id are the same.
      have there := List.mem_filter.mp (List.mem_of_find?_eq_some found)
      have same := List.find?_some found
      rw [beq_iff_eq] at same
      have stored' := orderly.mem_values.mp there.1
      rw [same, stored] at stored'
      exact stored'.symm

theorem Singleton.admittedRuns_eq :
    single.admittedRuns store = (single.active store.values).filter (·.admitted) := by
  rw [Singleton.active_eq, List.filter_filter]
  refine List.filter_congr fun run _ => ?_
  exact Bool.and_comm _ _

theorem Singleton.waitingRuns_eq :
    single.waitingRuns store = (single.active store.values).filter (!·.admitted) := by
  rw [Singleton.active_eq, List.filter_filter]
  refine List.filter_congr fun run _ => ?_
  exact Bool.and_comm _ _

/-- The tags of a run that is admitted. -/
def admittedTags (run : SingletonRun) : List String :=
  run.tags.filter (· != singletonTrackedTag) ++ [singletonAdmittedTag]

/-- What a claim may do. -/
inductive ClaimOutcome (localeCompare : String → String → Ordering) (single : Singleton)
    (store : SingletonStore) (runId : String) : SingletonStore → Bool → Prop
  | held (run : SingletonRun) (stored : store.get runId = some run) (active : single.Active run)
      (admitted : run.admitted = true) :
      ClaimOutcome localeCompare single store runId (store.set runId run) true
  /-- The run takes a slot that those that wait longer leave free. -/
  | taken (run : SingletonRun) (stored : store.get runId = some run) (active : single.Active run)
      (waiting : run.admitted = false)
      (free : (single.olderWaiting localeCompare store run).length +
        (single.admittedRuns store).length < single.limit) :
      ClaimOutcome localeCompare single store runId
        (store.set runId (run.patch { tags := some (admittedTags run) })) true
  | parked (run : SingletonRun) (wakeAt : Nat) (stored : store.get runId = some run)
      (active : single.Active run) :
      ClaimOutcome localeCompare single store runId
        (store.set runId (run.patch
          { status := some .suspended, wakeAt := some (some wakeAt)
            tags := some (withSingletonTracked run.tags) })) false
  | refused : ClaimOutcome localeCompare single store runId store false

variable [Std.TransCmp localeCompare]

/-- A run that is among the first waiters has few before it. -/
theorem Orderly.free_of_first (orderly : Orderly store) (stored : store.get runId = some run)
    {legacy : List String} {count : Nat}
    (first : ((sortedByCreation localeCompare ((single.active store.values).filter fun run =>
      !run.admitted && !legacy.contains run.id)).take count).any (·.id == runId) = true) :
    (single.olderWaiting localeCompare store run).length < legacy.dedup.length + count := by
  have parts := List.length_eq_length_filter_add (l := single.olderWaiting localeCompare store run)
    fun other => legacy.contains other.id
  -- The older ones that may hold a slot without the tag are counted by their ids.
  have listed : ((single.olderWaiting localeCompare store run).filter fun other =>
      legacy.contains other.id).length ≤ legacy.dedup.length := by
    have sublist : List.Sublist ((single.olderWaiting localeCompare store run).filter fun other =>
        legacy.contains other.id) store.values :=
      (List.filter_sublist.trans List.filter_sublist).trans List.filter_sublist
    have apart := orderly.ids_nodup.sublist (sublist.map (·.id))
    have inside := (List.subperm_of_subset apart fun id member => by
      obtain ⟨other, held, rfl⟩ := List.mem_map.mp member
      have contained := (List.mem_filter.mp held).2
      exact List.mem_dedup.mpr (List.contains_iff_mem.mp contained)).length_le
    rwa [List.length_map] at inside
  -- The others are waiters, and come before the run in their order.
  have few : ((single.olderWaiting localeCompare store run).filter fun other =>
      !legacy.contains other.id).length < count := by
    obtain ⟨other, member, same⟩ := List.any_eq_true.mp first
    rw [beq_iff_eq] at same
    have there := (sortedByCreation_perm localeCompare _).mem_iff.mp (List.mem_of_mem_take member)
    have kept := orderly.mem_values.mp
      (List.mem_of_mem_filter (List.mem_of_mem_filter there))
    rw [same, stored, Option.some.injEq] at kept
    subst kept
    have ahead := Interleaving.few_of_mem_take (sortedByCreation_ranked localeCompare _) member
      (fun other => byCreation localeCompare other run == .lt) fun other strictly => by
        have before := not_isLE_of_lt (beq_iff_eq.mp strictly)
        refine ⟨before, fun same => before ?_⟩
        rw [same, byCreation_isLE]
        exact .inr ⟨rfl, by simp [Std.ReflCmp.compare_self]⟩
    rw [((sortedByCreation_perm localeCompare _).filter _).length_eq] at ahead
    have same : ((single.olderWaiting localeCompare store run).filter fun other =>
        !legacy.contains other.id) = ((single.active store.values).filter fun run =>
          !run.admitted && !legacy.contains run.id).filter fun other =>
            byCreation localeCompare other run == .lt := by
      unfold Singleton.olderWaiting
      rw [Singleton.waitingRuns_eq, List.filter_filter, List.filter_filter, List.filter_filter]
      refine List.filter_congr fun other _ => ?_
      cases byCreation localeCompare other run == .lt <;> simp [Bool.and_comm]
    rwa [same]
  omega

theorem Orderly.admission_cases (orderly : Orderly store) {tags : List String}
    (given : singletonAdmissionTags localeCompare single store.values runId = .ok (some tags)) :
    ∃ run, store.get runId = some run ∧ single.Active run ∧
      (run.admitted = true ∧ tags = run.tags ∨
        run.admitted = false ∧ tags = admittedTags run ∧
          (single.olderWaiting localeCompare store run).length +
            (single.admittedRuns store).length < single.limit) := by
  unfold singletonAdmissionTags at given
  split at given
  · cases given
  · dsimp only at given
    split at given
    · cases given
    · rename_i run found
      obtain ⟨stored, active⟩ := orderly.find_active.mp found
      refine ⟨run, stored, active, ?_⟩
      split at given
      · rename_i admitted
        simp only [Except.ok.injEq, Option.some.injEq] at given
        exact .inl ⟨admitted, given.symm⟩
      · rename_i waiting
        rw [Bool.not_eq_true] at waiting
        split at given
        · cases given
        · rename_i free
          split at given
          · rename_i first
            simp only [Except.ok.injEq, Option.some.injEq] at given
            have few := orderly.free_of_first stored first
            rw [← Singleton.admittedRuns_eq] at few free
            exact .inr ⟨waiting, given.symm, by omega⟩
          · cases given

theorem Orderly.claim_outcome (orderly : Orderly store) {retryWakeAt : Option Nat}
    {after : SingletonStore} {granted : Bool}
    (claimed : tryAdmitSingleton localeCompare store single runId retryWakeAt =
      .ok (after, granted)) : ClaimOutcome localeCompare single store runId after granted := by
  unfold tryAdmitSingleton at claimed
  dsimp only [bind, Except.bind, pure, Except.pure] at claimed
  cases decided : singletonAdmissionTags localeCompare single store.values runId with
  | error message =>
    rw [decided] at claimed
    cases claimed
  | ok given =>
    rw [decided] at claimed
    dsimp only at claimed
    split at claimed
    · -- The run is given tags.
      rename_i tags run found
      obtain ⟨other, stored, active, outcome⟩ := orderly.admission_cases decided
      rw [found, Option.some.injEq] at stored
      subst stored
      cases claimed
      rcases outcome with ⟨admitted, rfl⟩ | ⟨waiting, rfl, free⟩
      · exact .held run found active admitted
      · exact .taken run found active waiting free
    · split at claimed
      · rename_i parked run denied found
        cases claimed
        unfold singletonAdmissionDenialPatch at denied
        split at denied
        · rename_i wakeAt candidate there
          obtain ⟨stored, active⟩ := orderly.find_active.mp there
          rw [found, Option.some.injEq] at stored
          subst stored
          cases denied
          exact .parked run wakeAt found active
        · cases denied
      · cases claimed
        exact .refused

end Claim

section Slots

variable {localeCompare : String → String → Ordering} {single : Singleton}
  {store : SingletonStore} {run : SingletonRun}

theorem Singleton.holds_iff :
    single.holds run = true ↔ single.Active run ∧ run.admitted = true := by
  unfold Singleton.holds
  rw [Bool.and_eq_true, decide_eq_true_iff]

/-- The slots of a singleton are within its limit, and no ended run has one. -/
structure SingletonKept (single : Singleton) (store : SingletonStore) : Prop extends Orderly store where
  ended : ∀ runId run, store.get runId = some run → isTerminalStatus run.status = true →
    run.admitted = false
  capped : (single.admittedRuns store).length ≤ single.limit

theorem singletonKept_empty : SingletonKept single .empty where
  distinct := Table.distinct_empty
  keyed := by
    intro runId run found
    cases found
  ended := by
    intro runId run found
    cases found
  capped := Nat.zero_le _

theorem SingletonKept.put (kept : SingletonKept single store)
    (stored : store.get runId = some run) (id : after.id = run.id)
    (ended : isTerminalStatus after.status = true → after.admitted = false)
    (holds : single.holds after = true → single.holds run = true ∨
      (single.admittedRuns store).length < single.limit) :
    SingletonKept single (store.set runId after) where
  distinct := kept.distinct.set runId after
  keyed := by
    intro other row found
    rw [Table.get_set] at found
    split at found
    · rename_i same
      cases found
      rw [id, ← same]
      exact kept.keyed runId run stored
    · exact kept.keyed other row found
  ended := by
    intro other row found
    rw [Table.get_set] at found
    split at found
    · cases found
      exact ended
    · exact kept.ended other row found
  capped := by
    have count := Table.length_filter_set store stored after single.holds
    have before := kept.capped
    unfold Singleton.admittedRuns at before holds ⊢
    -- One row is changed: the count grows by one at most, where it is below the limit.
    cases taken : single.holds after with
    | false =>
      rw [taken] at count
      simp only [Bool.false_eq_true, if_false] at count
      omega
    | true =>
      rw [taken] at count
      rcases holds taken with held | room
      · simp only [held, if_true] at count
        omega
      · simp only [if_true] at count
        omega

theorem SingletonKept.put_kept (kept : SingletonKept single store)
    (stored : store.get runId = some run) (row : RowKept single run after) :
    SingletonKept single (store.set runId after) := by
  refine kept.put stored row.id (fun ends => row.ended ends (kept.ended runId run stored)) ?_
  intro holds
  obtain ⟨⟨has, goesOn⟩, admitted⟩ := single.holds_iff.mp holds
  have before := row.admitted admitted
  refine .inl (single.holds_iff.mpr ⟨⟨row.same.mp has, ?_⟩, before⟩)
  -- An ended run would not have been admitted.
  rw [Bool.eq_false_iff]
  intro ends
  cases before.symm.trans (kept.ended runId run stored ends)

theorem SingletonKept.started (kept : SingletonKept single store)
    (absent : store.get run.id = none) (startAt : Option Nat) :
    SingletonKept single (store.set run.id (startedRun run startAt)) := by
  have goesOn : isTerminalStatus (startedRun run startAt).status = false := by
    unfold startedRun
    cases startAt <;> rfl
  have waiting : single.holds (startedRun run startAt) = false := by
    rw [Bool.eq_false_iff]
    intro holds
    have tagged := SingletonRun.admitted_iff.mp (single.holds_iff.mp holds).2
    simp [startedRun, singletonAdmittedTag, singletonReservedTags] at tagged
  refine { distinct := kept.distinct.set _ _, keyed := ?_, ended := ?_, capped := ?_ }
  · intro other row found
    rw [Table.get_set] at found
    split at found
    · rename_i same
      cases found
      exact same
    · exact kept.keyed other row found
  · intro other row found
    rw [Table.get_set] at found
    split at found
    · cases found
      intro ends
      cases goesOn.symm.trans ends
    · exact kept.ended other row found
  · have capped := kept.capped
    unfold Singleton.admittedRuns at capped ⊢
    rw [Table.values_set_new store _ absent, List.filter_append, List.length_append]
    simpa [waiting] using capped

theorem admitted_patch : (run.patch { tags := some (admittedTags run) }).admitted = true ∧
      (single.Has (run.patch { tags := some (admittedTags run) }) ↔ single.Has run) := by
  have tags : (run.patch { tags := some (admittedTags run) }).tags = admittedTags run := rfl
  constructor
  · rw [SingletonRun.admitted_iff, tags]
    simp [admittedTags]
  · have tracked : single.tag ≠ singletonTrackedTag := single.tag_ne (by decide)
    have admitted : single.tag ≠ singletonAdmittedTag := single.tag_ne (by decide)
    have member : single.tag ∈ admittedTags run ↔ single.tag ∈ run.tags := by
      simp [admittedTags, tracked, admitted]
    exact and_congr Iff.rfl member

theorem parked_kept (wakeAt : Nat) :
    RowKept single run (run.patch { status := some .suspended, wakeAt := some (some wakeAt)
                                    tags := some (withSingletonTracked run.tags) }) := by
  refine .of_tags rfl rfl ?_ ?_ rfl ?_
  · exact withSingletonTracked_tag single run.tags
  · exact (withSingletonTracked_admitted run.tags).mp
  · exact fun _ => (withSingletonTracked_admitted run.tags).mpr

variable [Std.TransCmp localeCompare]

omit [Std.TransCmp localeCompare] in
theorem SingletonKept.claimed (kept : SingletonKept single store) {other : Singleton}
    (own : ∀ run, store.get runId = some run → single.Has run → other = single)
    {after : SingletonStore} {granted : Bool}
    (outcome : ClaimOutcome localeCompare other store runId after granted) :
    SingletonKept single after := by
  cases outcome with
  | held run stored active admitted =>
    exact kept.put_kept stored (.of_tags rfl rfl Iff.rfl id active.2 fun _ => id)
  | taken run stored active waiting free =>
    refine kept.put stored rfl ?_ ?_
    · intro ends
      cases active.2.symm.trans ends
    · -- Only a run of this singleton can take one of its slots, and it leaves the limit.
      intro holds
      have has := admitted_patch.2.mp (single.holds_iff.mp holds).1.1
      cases own run stored has
      exact .inr (by omega)
  | parked run wakeAt stored active => exact kept.put_kept stored (parked_kept wakeAt)
  | refused => exact kept

theorem SingletonKept.apply (kept : SingletonKept single store) (op : SingletonOp)
    (fits : single.Fits store op) : SingletonKept single (op.apply localeCompare store) := by
  cases op with
  | start run startAt =>
    simp only [SingletonOp.apply]
    split
    · exact kept
    · rename_i absent
      exact kept.started absent startAt
  | markStarted runId singleton =>
    simp only [SingletonOp.apply]
    split
    · exact kept
    · rename_i run stored
      split
      · exact kept.put_kept stored (startPatch_kept singleton)
      · exact kept
  | tryAdmitSingleton other runId retryWakeAt =>
    simp only [SingletonOp.apply]
    split
    · exact kept
    · rename_i after granted claimed
      exact kept.claimed fits (kept.toOrderly.claim_outcome claimed)
  | updateRunIf runId expected patch =>
    simp only [SingletonOp.apply]
    split
    · exact kept
    · rename_i run stored
      split
      · exact kept.put_kept stored (patch_kept fun tags => fits run tags stored)
      · exact kept
  | requeue runId handedOff =>
    simp only [SingletonOp.apply]
    split
    · exact kept
    · rename_i run stored
      exact kept.put_kept stored (requeue_kept handedOff)

theorem SingletonReached.singletonKept (reached : SingletonReached localeCompare single store) :
    SingletonKept single store := by
  induction reached with
  | empty => exact singletonKept_empty
  | apply before op fits ih => exact ih.apply op fits

omit [Std.TransCmp localeCompare] in
theorem holder_of_set {target : String} {old row : SingletonRun}
    (stored : store.get runId = some run) (holds : single.holds run = true)
    (found : store.get target = some old) (change : old.admitted = false ∨ RowKept single old row) :
    ∃ after, (store.set target row).get runId = some after ∧
      (single.holds after = true ∨ isTerminalStatus after.status = true) := by
  by_cases same : target = runId
  · subst same
    rw [stored, Option.some.injEq] at found
    subst found
    obtain ⟨⟨has, goesOn⟩, admitted⟩ := single.holds_iff.mp holds
    refine ⟨row, Table.get_set_self store target row, ?_⟩
    rcases change with waiting | kept
    · cases admitted.symm.trans waiting
    · cases ends : isTerminalStatus row.status with
      | true => exact .inr rfl
      | false =>
        refine .inl (single.holds_iff.mpr ⟨⟨kept.same.mpr has, ends⟩, ?_⟩)
        rcases kept.kept admitted goesOn with still | ended
        · exact still
        · cases ends.symm.trans ended
  · refine ⟨run, ?_, .inl holds⟩
    rw [Table.get_set_ne store row same, stored]

/-- Whatever happens, a holder has its slot afterwards, or has ended. -/
theorem SingletonKept.holder_kept (kept : SingletonKept single store) (op : SingletonOp)
    (fits : single.Fits store op) (stored : store.get runId = some run)
    (holds : single.holds run = true) :
    ∃ after, (op.apply localeCompare store).get runId = some after ∧
      (single.holds after = true ∨ isTerminalStatus after.status = true) := by
  have still : ∃ after, store.get runId = some after ∧
      (single.holds after = true ∨ isTerminalStatus after.status = true) := ⟨run, stored, .inl holds⟩
  cases op with
  | start new startAt =>
    simp only [SingletonOp.apply]
    split
    · exact still
    · rename_i absent
      have other : new.id ≠ runId := by
        rintro rfl
        cases stored.symm.trans absent
      exact ⟨run, by rw [Table.get_set_ne _ _ other, stored], .inl holds⟩
  | markStarted target singleton =>
    simp only [SingletonOp.apply]
    split
    · exact still
    · rename_i old found
      split
      · exact holder_of_set stored holds found (.inr (startPatch_kept singleton))
      · exact still
  | tryAdmitSingleton other target retryWakeAt =>
    simp only [SingletonOp.apply]
    split
    · exact still
    · rename_i after granted claimed
      cases kept.toOrderly.claim_outcome claimed with
      | held old found active admitted =>
        have same : RowKept single old old :=
          .of_tags rfl rfl Iff.rfl id active.2 fun _ => id
        exact holder_of_set stored holds found (.inr same)
      | taken old found active waiting free =>
        exact holder_of_set stored holds found (.inl waiting)
      | parked old wakeAt found active =>
        exact holder_of_set stored holds found (.inr (parked_kept wakeAt))
      | refused => exact still
  | updateRunIf target expected patch =>
    simp only [SingletonOp.apply]
    split
    · exact still
    · rename_i old found
      split
      · exact holder_of_set stored holds found (.inr (patch_kept fun tags => fits old tags found))
      · exact still
  | requeue target handedOff =>
    simp only [SingletonOp.apply]
    split
    · exact still
    · rename_i old found
      exact holder_of_set stored holds found (.inr (requeue_kept handedOff))

theorem Orderly.ended_kept (orderly : Orderly store) (other : Singleton) (target : String)
    (retryWakeAt : Option Nat) (stored : store.get runId = some run)
    (ended : isTerminalStatus run.status = true) :
    ((SingletonOp.tryAdmitSingleton other target retryWakeAt).apply localeCompare store).get runId =
      some run := by
  -- What is written is the row of an active run.
  have apart : ∀ old, store.get target = some old → other.Active old → target ≠ runId := by
    rintro old found active rfl
    rw [stored, Option.some.injEq] at found
    subst found
    cases active.2.symm.trans ended
  simp only [SingletonOp.apply]
  split
  · exact stored
  · rename_i after granted claimed
    cases orderly.claim_outcome claimed with
    | held old found active admitted => rw [Table.get_set_ne _ _ (apart old found active), stored]
    | taken old found active waiting free =>
      rw [Table.get_set_ne _ _ (apart old found active), stored]
    | parked old wakeAt found active =>
      rw [Table.get_set_ne _ _ (apart old found active), stored]
    | refused => exact stored

theorem Orderly.free_of_newlyAdmits (orderly : Orderly store) {retryWakeAt : Option Nat}
    (stored : store.get runId = some run)
    (admits : NewlyAdmits single localeCompare store runId retryWakeAt) :
    single.Active run ∧ (single.olderWaiting localeCompare store run).length +
      (single.admittedRuns store).length < single.limit := by
  obtain ⟨⟨after, claimed⟩, waited⟩ := admits
  have waiting := waited run stored
  cases orderly.claim_outcome claimed with
  | held old found active admitted =>
    rw [stored, Option.some.injEq] at found
    subst found
    cases admitted.symm.trans waiting
  | taken old found active _ free =>
    rw [stored, Option.some.injEq] at found
    subst found
    exact ⟨active, free⟩

end Slots

section Contest

/-- A run that was created first. -/
def olderRun : SingletonRun where
  id := "older"
  workflow := "report"
  status := .pending
  tags := ["singleton:tenant"]
  createdAt := 1

/-- A run that was created after it. -/
def newerRun : SingletonRun := { olderRun with id := "newer", createdAt := 2 }

/-- The singleton of the two, with as many slots. -/
def contested (limit : Nat) : Singleton where
  workflow := "report"
  key := "tenant"
  limit := limit

def bothCreated : SingletonStore :=
  (SingletonOp.start newerRun none).apply compare
    ((SingletonOp.start olderRun none).apply compare .empty)

theorem bothCreated_reached (limit : Nat) :
    SingletonReached compare (contested limit) bothCreated :=
  .apply (.apply .empty (.start olderRun none) trivial) (.start newerRun none) trivial

end Contest

end Durable
