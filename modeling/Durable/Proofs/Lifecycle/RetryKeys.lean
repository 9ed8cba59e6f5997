import Durable.Proofs.Lifecycle.RetryTags
import Durable.Proofs.Singleton.Slots

/-! The keys that count a run: only its start gives it their tags, whatever happens later. -/

namespace Durable.Retries

open Interleaving (Table)

variable {tag : String} {tags : List String}

section Quiet

/-- A change of a run keeps its id, and gives it no tag of a key. -/
structure QuietRow (run later : SingletonRun) : Prop where
  id : later.id = run.id
  keys : ∀ tag ∈ later.tags, isKeyTag tag = true → tag ∈ run.tags

/-- A change of the runs creates none, and gives none a tag of a key. -/
structure Quiet (runs after : SingletonStore) : Prop where
  distinct : runs.Distinct → after.Distinct
  rows : ∀ runId later, after.get runId = some later →
    ∃ run, runs.get runId = some run ∧ QuietRow run later

variable {runs after later : SingletonStore} {run : SingletonRun} {runId : String}

theorem Quiet.refl (runs : SingletonStore) : Quiet runs runs where
  distinct := id
  rows _ later stored := ⟨later, stored, rfl, fun _ listed _ => listed⟩

theorem Quiet.trans (first : Quiet runs after) (second : Quiet after later) :
    Quiet runs later where
  distinct := second.distinct ∘ first.distinct
  rows runId last stored := by
    obtain ⟨middle, there, quiet⟩ := second.rows runId last stored
    obtain ⟨run, here, before⟩ := first.rows runId middle there
    refine ⟨run, here, quiet.id.trans before.id, ?_⟩
    intro tag listed key
    exact before.keys tag (quiet.keys tag listed key) key

theorem Quiet.set {value : SingletonRun} (stored : runs.get runId = some run)
    (quiet : QuietRow run value) : Quiet runs (runs.set runId value) where
  distinct distinct := distinct.set runId value
  rows other last there := by
    rw [Table.get_set] at there
    split at there
    · rename_i same
      subst same
      cases there
      exact ⟨run, stored, quiet⟩
    · exact ⟨last, there, rfl, fun _ listed _ => listed⟩

theorem Quiet.erase (runs : SingletonStore) (runId : String) : Quiet runs (runs.erase runId) where
  distinct distinct := distinct.erase runId
  rows other last there := by
    rw [Table.get_erase] at there
    split at there
    · cases there
    · exact ⟨last, there, rfl, fun _ listed _ => listed⟩

theorem QuietRow.patch {patch : RunPatch} (quiet : ∀ tags, patch.tags = some tags →
    ∀ tag ∈ tags, isKeyTag tag = true → tag ∈ run.tags) : QuietRow run (run.patch patch) where
  id := rfl
  keys tag listed key := by
    have given : tag ∈ patch.tags.getD run.tags := by
      simp only [SingletonRun.patch, WorkflowRun.patched] at listed
      split at listed
      · exact List.mem_of_mem_filter listed
      · exact listed
    cases written : patch.tags with
    | none =>
      rw [written] at given
      exact given
    | some tags =>
      rw [written] at given
      exact quiet tags written tag given key

theorem Quiet.patchRun {patch : RunPatch} (quiet : ∀ run, runs.get runId = some run →
    ∀ tags, patch.tags = some tags → ∀ tag ∈ tags, isKeyTag tag = true → tag ∈ run.tags) :
    Quiet runs (patchRun runs runId patch) := by
  unfold Retries.patchRun
  split
  · exact Quiet.refl runs
  · rename_i run stored
    exact Quiet.set stored (QuietRow.patch (quiet run stored))

theorem Quiet.orderly (quiet : Quiet runs after) (orderly : Orderly runs) : Orderly after where
  distinct := quiet.distinct orderly.distinct
  keyed runId later stored := by
    obtain ⟨run, there, row⟩ := quiet.rows runId later stored
    exact row.id.trans (orderly.keyed runId run there)

theorem mem_append_of_key {more : List String} (unkeyed : ∀ tag ∈ more, isKeyTag tag = false)
    (listed : tag ∈ tags ++ more) (key : isKeyTag tag = true) : tag ∈ tags := by
  rcases List.mem_append.mp listed with old | new
  · exact old
  · rw [unkeyed tag new] at key
    cases key

end Quiet

section Steps

variable {localeCompare : String → String → Ordering} {workflows : Workflows}
  {runs : SingletonStore}

theorem tracked_keys (listed : tag ∈ withSingletonTracked tags) (key : isKeyTag tag = true) :
    tag ∈ tags := by
  unfold withSingletonTracked at listed
  split at listed
  · exact listed
  · refine mem_append_of_key ?_ listed key
    intro other same
    rw [List.mem_singleton.mp same]
    decide +kernel

theorem markStarted_quiet (runId : String) (singleton : Bool) :
    Quiet runs ((SingletonOp.markStarted runId singleton).apply localeCompare runs) := by
  simp only [SingletonOp.apply]
  split
  · exact Quiet.refl runs
  · rename_i run stored
    split
    · apply Quiet.set stored
      apply QuietRow.patch
      intro tags written tag listed key
      unfold startPatch at written
      simp only [Option.ite_none_left_eq_some] at written
      obtain ⟨-, written⟩ := written
      cases singleton with
      | false =>
        cases written
        exact listed
      | true =>
        cases written
        exact tracked_keys listed key
    · exact Quiet.refl runs

theorem claim_quiet [Std.TransCmp localeCompare] (orderly : Orderly runs) {single : Singleton}
    {runId : String} {retryWakeAt : Option Nat} {after : SingletonStore} {granted : Bool}
    (claimed : tryAdmitSingleton localeCompare runs single runId retryWakeAt =
      .ok (after, granted)) : Quiet runs after := by
  cases orderly.claim_outcome claimed with
  | held run stored => exact Quiet.set stored ⟨rfl, fun _ listed _ => listed⟩
  | taken run stored =>
    apply Quiet.set stored
    apply QuietRow.patch
    intro tags written tag listed key
    cases written
    have kept : tag ∈ run.tags.filter (· != singletonTrackedTag) := by
      refine mem_append_of_key ?_ listed key
      intro other same
      rw [List.mem_singleton.mp same]
      decide +kernel
    exact List.mem_of_mem_filter kept
  | parked run wakeAt stored =>
    apply Quiet.set stored
    apply QuietRow.patch
    intro tags written tag listed key
    cases written
    exact tracked_keys listed key
  | refused => exact Quiet.refl runs

theorem execute_quiet [Std.TransCmp localeCompare] (orderly : Orderly runs) (runId : String)
    (retryWakeAt : Nat) :
    Quiet runs (execute localeCompare workflows runs runId retryWakeAt).1 := by
  unfold execute
  split
  · exact Quiet.refl runs
  · split
    · exact Quiet.refl runs
    · split
      · exact Quiet.refl runs
      · rename_i run _ reg _ _
        have started : Quiet runs ((SingletonOp.markStarted runId reg.singleton.isSome).apply
            localeCompare runs) := markStarted_quiet runId _
        dsimp only
        split
        · exact started
        · split
          · exact started
          · rename_i claimed
            exact started.trans (claim_quiet (started.orderly orderly) claimed)

theorem suspend_quiet (runId : String) (wakeAt : Option Nat) (subscriptions : Subscriptions) :
    Quiet runs (suspend runs runId wakeAt subscriptions).1 := by
  unfold suspend
  split
  · exact Quiet.refl runs
  · rename_i run stored
    split
    · apply Quiet.patchRun
      intro other there tags written tag listed key
      rw [stored] at there
      cases there
      -- The only new tag holds the trace.
      unfold withRunTrace at written
      split at written
      · cases written
      · split at written
        · cases written
        · cases written
          refine mem_append_of_key ?_ listed key
          intro new same
          rw [List.mem_singleton.mp same]
          apply not_key_of_lifecycle
          unfold isLifecycleTag
          simp [tagged_append]
    · exact Quiet.refl runs

theorem routeFailure_quiet (runId : String) (code : Option String) :
    Quiet runs (routeFailure runs runId code).1 := by
  unfold routeFailure
  split
  · exact Quiet.refl runs
  · rename_i run stored
    dsimp only
    split
    · exact Quiet.refl runs
    · apply Quiet.patchRun
      intro other there tags written tag listed key
      rw [stored] at there
      cases there
      cases written
      refine mem_append_of_key ?_ listed key
      intro new same
      rw [List.mem_singleton.mp same]
      exact not_key_of_onError (tagged_append _ _)

theorem withLifecycleMarker_keys {subscriptions : Subscriptions} {run : SingletonRun}
    (written : withLifecycleMarker subscriptions run = some tags) (listed : tag ∈ tags)
    (key : isKeyTag tag = true) : tag ∈ run.tags := by
  unfold withLifecycleMarker at written
  split at written
  · cases written
  · dsimp only at written
    rw [Option.ite_none_left_eq_some] at written
    obtain ⟨-, written⟩ := written
    rw [← Option.some.inj written, List.mem_eraseDups] at listed
    refine mem_append_of_key ?_ listed key
    intro new marked
    apply not_key_of_lifecycle
    unfold isLifecycleTag
    rw [List.mem_append, List.mem_append] at marked
    rcases marked with (pending | owed) | trace
    · simp [List.mem_singleton.mp pending]
    · split at owed
      · obtain ⟨subscriber, -, rfl⟩ := List.mem_map.mp owed
        simp [lifecycleOwedTag, tagged_append]
      · cases owed
    · rw [Option.mem_toList, Option.map_eq_some_iff] at trace
      obtain ⟨traceparent, -, rfl⟩ := trace
      simp [tagged_append]

theorem wakeNext_quiet (settled : SingletonRun) (clock : Nat) :
    Quiet runs (wakeNext localeCompare workflows runs settled clock).1 := by
  unfold wakeNext
  split
  · dsimp only
    -- Each of them is made due in turn.
    generalize List.map _ _ = woken
    induction woken generalizing runs with
    | nil => exact Quiet.refl runs
    | cons runId woken ih =>
      rw [List.foldl_cons]
      refine Quiet.trans (Quiet.patchRun ?_) ih
      intro run _ tags written
      cases written
  · exact Quiet.refl runs

theorem settle_quiet (runId : String) (expected : List RunStatus) (ending : Ending)
    (subscriptions : Subscriptions) (clock : Nat) :
    Quiet runs
      (settle localeCompare workflows runs runId expected ending subscriptions clock).1 := by
  unfold settle
  split
  · exact Quiet.refl runs
  · rename_i run stored
    split
    · dsimp only
      refine Quiet.trans (Quiet.patchRun ?_) (wakeNext_quiet run clock)
      intro other there tags written tag listed key
      rw [stored] at there
      cases there
      exact withLifecycleMarker_keys written listed key
    · exact Quiet.refl runs

theorem publishedTags_keys {audience : Audience} {opts : PublishOptions} {before : List String}
    (listed : tag ∈ publishedTags audience opts before) (key : isKeyTag tag = true) :
    tag ∈ before := by
  have plain : isLifecycleTag tag = false := by
    rw [← Bool.not_eq_true]
    intro lifecycle
    rw [not_key_of_lifecycle lifecycle] at key
    cases key
  unfold isLifecycleTag at plain
  simp only [Bool.or_eq_false_iff, beq_eq_false_iff_ne] at plain
  obtain ⟨⟨⟨⟨⟨unpending, unowed⟩, untriggered⟩, uncoalesced⟩, unfailed⟩, -⟩ := plain
  -- Whatever is written anew would be a lifecycle tag.
  have apart (pre subscriber : String) (other : tagged pre tag = false) :
      pre ++ subscriber ≠ tag := by
    rintro rfl
    rw [tagged_append] at other
    cases other
  unfold publishedTags at listed
  dsimp only at listed
  rw [List.mem_eraseDups] at listed
  simp only [List.mem_append, List.mem_filter, List.mem_map] at listed
  rcases listed with (((⟨kept | owed, -⟩ | pending) | started) | coalesced) | failed
  · exact kept.1
  · obtain ⟨subscriber, -, rfl⟩ := owed
    exact absurd rfl (apart _ subscriber unowed)
  · split at pending
    · exact absurd (List.mem_singleton.mp pending) unpending
    · cases pending
  · obtain ⟨subscriber, -, rfl⟩ := started
    exact absurd rfl (apart _ subscriber untriggered)
  · obtain ⟨subscriber, -, rfl⟩ := coalesced
    exact absurd rfl (apart _ subscriber uncoalesced)
  · obtain ⟨subscriber, -, rfl⟩ := failed
    exact absurd rfl (apart _ subscriber unfailed)

theorem publish_quiet (runId : String) (audience : Audience) (opts : PublishOptions) :
    Quiet runs (publish runs runId audience opts).1 := by
  unfold publish
  split
  · exact Quiet.refl runs
  · rename_i run stored
    split
    · dsimp only
      split
      · apply Quiet.patchRun
        intro other there tags written tag listed key
        rw [stored] at there
        cases there
        cases written
        exact publishedTags_keys listed key
      · exact Quiet.refl runs
    · exact Quiet.refl runs

theorem requeue_quiet (runId : String) (handedOff : Bool) :
    Quiet runs ((SingletonOp.requeue runId handedOff).apply localeCompare runs) := by
  simp only [SingletonOp.apply]
  split
  · exact Quiet.refl runs
  · rename_i run stored
    have retired : QuietRow run (if (resurrects run && handedOff) = true then
        run.patch (retirePatch run) else run) := by
      split
      · apply QuietRow.patch
        intro tags written tag listed _
        cases written
        exact List.mem_of_mem_filter listed
      · exact ⟨rfl, fun _ listed _ => listed⟩
    generalize (if (resurrects run && handedOff) = true then
      run.patch (retirePatch run) else run) = middle at retired
    apply Quiet.set stored
    refine ⟨retired.id, ?_⟩
    intro tag listed key
    exact retired.keys tag (requeuePatch_tags tag |>.mp listed).1 key

theorem prune_quiet (pass : RetentionPass) : Quiet runs (prune runs pass).1 := by
  unfold prune
  dsimp only
  generalize List.map _ _ = doomed
  induction doomed generalizing runs with
  | nil => exact Quiet.refl runs
  | cons runId doomed ih =>
    rw [List.foldl_cons]
    exact Quiet.trans (Quiet.erase runs runId) ih

end Steps

section Starts

variable {workflows : Workflows} {runs : SingletonStore} {request : StartRequest}
  {reg : Registration}

theorem startCore_cases (workflows : Workflows) (runs : SingletonStore) (request : StartRequest) :
    (startCore workflows runs request).1 = runs ∨
      ∃ reg, runs.get request.runId = none ∧
        (startCore workflows runs request).1 = runs.set request.runId (newRun reg request) := by
  unfold startCore
  split
  · exact Or.inl rfl
  · rename_i reg _
    split
    · exact Or.inl rfl
    · rename_i absent
      dsimp only
      split
      · exact Or.inl rfl
      · split
        · exact Or.inl rfl
        · exact Or.inr ⟨reg, absent, rfl⟩

/-- A start may create its run: its id is free, and no limit is reached. -/
structure Allowed (reg : Registration) (runs : SingletonStore) (request : StartRequest) :
    Prop where
  free : runs.get request.runId = none
  quota : (resolveConcurrency request.concurrency reg.concurrency request.input).bind
    (assertConcurrency runs) = none
  room : reg.singleton.any (assertCapacity runs request.workflow request.input) = false

theorem startCore_allowed (registered : workflows.latest request.workflow = some reg)
    (allowed : Allowed reg runs request) :
    (startCore workflows runs request).1 = runs.set request.runId (newRun reg request) := by
  unfold startCore
  simp [registered, allowed.free, allowed.quota, allowed.room]

theorem allowed_of_started (registered : workflows.latest request.workflow = some reg)
    {status : RunStatus} (created : (startCore workflows runs request).2 = .started status) :
    Allowed reg runs request := by
  unfold startCore at created
  rw [registered] at created
  dsimp only at created
  split at created
  · cases created
  · rename_i free
    split at created
    · cases created
    · rename_i quota
      split at created
      · cases created
      · rename_i room
        exact ⟨free, quota, (Bool.not_eq_true _).mp room⟩

theorem Allowed.fresh (allowed : Allowed reg runs request) :
    Allowed reg runs request.fresh := ⟨allowed.free, allowed.quota, allowed.room⟩

theorem newRun_status (reg : Registration) (request : StartRequest) :
    (newRun reg request).status = .pending ∨ (newRun reg request).status = .suspended := by
  unfold newRun startedRun
  dsimp only
  cases request.startAt with
  | none => exact Or.inl rfl
  | some startAt => exact Or.inr rfl

theorem Orderly.created (orderly : Orderly runs) (reg : Registration) (request : StartRequest) :
    Orderly (runs.set request.runId (newRun reg request)) where
  distinct := orderly.distinct.set _ _
  keyed runId run stored := by
    rw [Table.get_set] at stored
    split at stored
    · rename_i same
      cases stored
      exact same
    · exact orderly.keyed runId run stored

theorem Orderly.startCore (orderly : Orderly runs) (request : StartRequest) :
    Orderly (startCore workflows runs request).1 := by
  rcases startCore_cases workflows runs request with same | ⟨reg, -, written⟩
  · rw [same]
    exact orderly
  · rw [written]
    exact Orderly.created orderly reg request

theorem startCore_get_ne {runId : String} (other : request.runId ≠ runId) :
    (startCore workflows runs request).1.get runId = runs.get runId := by
  rcases startCore_cases workflows runs request with same | ⟨reg, -, written⟩
  · rw [same]
  · rw [written, Table.get_set_ne _ _ other]

end Starts

section Guarded

variable {localeCompare : String → String → Ordering} {workflows : Workflows}
  {runs : SingletonStore} {newRunId : String} {allowed : List String}

/-- An operation starts a run under an id. -/
def LaterOp.Starts (runId : String) : LaterOp → Prop
  | .start request => request.runId = runId
  | .retryWithInput _ _ newRunId _ => newRunId = runId
  | _ => False

/-- Each run has one row, under its id, and one of them is only counted under some keys. -/
structure Guarded (newRunId : String) (allowed : List String) (runs : SingletonStore) : Prop where
  orderly : Orderly runs
  keys : ∀ run, runs.get newRunId = some run → ∀ tag ∈ run.tags, isKeyTag tag = true →
    tag ∈ allowed

theorem Guarded.quiet {after : SingletonStore} (guarded : Guarded newRunId allowed runs)
    (quiet : Quiet runs after) : Guarded newRunId allowed after where
  orderly := quiet.orderly guarded.orderly
  keys later stored tag listed key := by
    obtain ⟨run, there, row⟩ := quiet.rows newRunId later stored
    exact guarded.keys run there tag (row.keys tag listed key) key

theorem Guarded.start (guarded : Guarded newRunId allowed runs) {request : StartRequest}
    (other : request.runId ≠ newRunId) :
    Guarded newRunId allowed (startCore workflows runs request).1 where
  orderly := Orderly.startCore guarded.orderly request
  keys run stored := by
    rw [startCore_get_ne other] at stored
    exact guarded.keys run stored

theorem Guarded.apply [Std.TransCmp localeCompare] (guarded : Guarded newRunId allowed runs)
    {op : LaterOp} (other : ¬ op.Starts newRunId) :
    Guarded newRunId allowed (op.apply localeCompare workflows runs).1 := by
  cases op with
  | start request => exact guarded.start other
  | retryWithInput runId input retryId now =>
    simp only [LaterOp.apply, Retries.retryWithInput]
    split
    · exact guarded
    · exact guarded.start other
  | execute runId retryWakeAt =>
    exact guarded.quiet (execute_quiet guarded.orderly runId retryWakeAt)
  | suspend runId wakeAt subscriptions =>
    exact guarded.quiet (suspend_quiet runId wakeAt subscriptions)
  | routeFailure runId code => exact guarded.quiet (routeFailure_quiet runId code)
  | settle runId expected ending subscriptions clock =>
    exact guarded.quiet (settle_quiet runId expected ending subscriptions clock)
  | publish runId audience opts => exact guarded.quiet (publish_quiet runId audience opts)
  | requeue runId handedOff =>
    have quiet : Quiet runs ((SingletonOp.requeue runId handedOff).apply localeCompare runs) :=
      requeue_quiet runId handedOff
    simp only [LaterOp.apply]
    split
    · exact guarded
    · exact guarded.quiet quiet
  | triggeredRuns runId =>
    simp only [LaterOp.apply]
    split
    · exact guarded
    · exact guarded
  | traceparent runId => exact guarded
  | prune pass => exact guarded.quiet (prune_quiet pass)

theorem Guarded.after [Std.TransCmp localeCompare] (guarded : Guarded newRunId allowed runs)
    {history : List LaterOp} (others : ∀ op ∈ history, ¬ op.Starts newRunId) :
    Guarded newRunId allowed (after localeCompare workflows runs history) := by
  unfold Retries.after
  induction history generalizing runs with
  | nil => exact guarded
  | cons op history ih =>
    rw [List.foldl_cons]
    exact ih (guarded.apply (others op List.mem_cons_self))
      fun later listed => others later (List.mem_cons_of_mem _ listed)

/-- The run of an id changes nothing of what a tag counts and admits: neither a start under a
quota or a singleton with the tag, nor a claim of a slot of one. -/
structure Uncounted (localeCompare : String → String → Ordering) (newRunId tag : String)
    (runs : SingletonStore) : Prop where
  quota : ∀ quota : ConcurrencyQuota, concurrencyTag quota.key = tag →
    assertConcurrency runs quota = assertConcurrency (runs.erase newRunId) quota
  capacity : ∀ workflow input cfg, (SingletonConfig.singleton cfg workflow input).tag = tag →
    assertCapacity runs workflow input cfg =
      assertCapacity (runs.erase newRunId) workflow input cfg
  admission : ∀ single : Singleton, single.tag = tag → ∀ runId,
    singletonAdmissionTags localeCompare single runs.values runId =
      singletonAdmissionTags localeCompare single (runs.erase newRunId).values runId

theorem filter_values_erase (distinct : runs.Distinct) {counted : SingletonRun → Bool}
    (uncounted : ∀ run, runs.get newRunId = some run → counted run = false) :
    (runs.erase newRunId).values.filter counted = runs.values.filter counted := by
  unfold Table.values Table.erase
  rw [Table.eraseRow_eq_filter, List.filter_map, List.filter_map, List.filter_filter]
  congr 1
  apply List.filter_congr
  intro row listed
  by_cases here : row.1 = newRunId
  · have stored : runs.get row.1 = some row.2 := distinct.mem_rows_iff.mp listed
    simp [uncounted row.2 (here ▸ stored)]
  · simp [here]

theorem Guarded.uncounted (guarded : Guarded newRunId allowed runs) (key : isKeyTag tag = true)
    (other : tag ∉ allowed) : Uncounted localeCompare newRunId tag runs := by
  have untagged : ∀ run, runs.get newRunId = some run → run.tags.contains tag = false := by
    intro run stored
    rw [← Bool.not_eq_true, List.contains_iff_mem]
    intro listed
    exact other (guarded.keys run stored tag listed key)
  have active : ∀ single : Singleton, single.tag = tag →
      single.active (runs.erase newRunId).values = single.active runs.values := by
    intro single same
    apply filter_values_erase guarded.orderly.distinct
    intro run stored
    rw [same, untagged run stored, Bool.and_false]
  constructor
  · intro quota same
    have counts : ∀ statuses, countRuns (runs.erase newRunId) tag statuses =
        countRuns runs tag statuses := by
      intro statuses
      unfold countRuns
      rw [List.countP_eq_length_filter, List.countP_eq_length_filter,
        filter_values_erase guarded.orderly.distinct]
      intro run stored
      rw [untagged run stored, Bool.and_false]
    unfold assertConcurrency
    rw [same, counts]
  · intro workflow input cfg same
    unfold assertCapacity
    rw [active _ same]
  · intro single same runId
    unfold singletonAdmissionTags
    rw [active single same]

end Guarded

end Durable.Retries
