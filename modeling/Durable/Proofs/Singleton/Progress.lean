import Durable.Proofs.Singleton.Slots

/-! The oldest run that was denied a slot gets one, once there is one for it. -/

namespace Durable

open Interleaving

section Progress

variable {localeCompare : String → String → Ordering} {single : Singleton}
  {store : SingletonStore} {run : SingletonRun} {other : SingletonRun}

theorem Orderly.same_of_id (orderly : Orderly store) (here : run ∈ single.active store.values)
    (there : other ∈ single.active store.values) (same : other.id = run.id) : other = run := by
  have stored := orderly.mem_values.mp (List.mem_of_mem_filter here)
  have stored' := orderly.mem_values.mp (List.mem_of_mem_filter there)
  rw [same, stored, Option.some.injEq] at stored'
  exact stored'.symm

theorem Orderly.active_nodup (orderly : Orderly store) : (single.active store.values).Nodup :=
  (orderly.ids_nodup.of_map _).sublist List.filter_sublist

theorem mem_legacySingletonHolders :
    other ∈ legacySingletonHolders localeCompare (single.active store.values) run.id single.limit ↔
      other ∈ single.active store.values ∧ other.scanned = true ∧ other.id ≠ run.id ∧
        other.admitted = false ∧ (other.tracked = false ∨
          (scanWindow localeCompare (single.active store.values) single.limit).contains other.id =
            true) := by
  unfold legacySingletonHolders
  rw [List.mem_filter, (sortedByCreation_perm localeCompare _).mem_iff, List.mem_filter]
  simp only [Bool.and_eq_true, Bool.or_eq_true, bne_iff_ne, ne_eq, Bool.not_eq_true', and_assoc]

variable (localeCompare single store run) in
theorem counted_le :
    ((single.active store.values).filter (·.admitted)).length +
      ((legacySingletonHolders localeCompare (single.active store.values) run.id
        single.limit).map (·.id)).dedup.length ≤
      (single.slotHolders store).length + (single.seatedRuns localeCompare store run).length := by
  have parts := List.length_eq_length_filter_add (l := single.slotHolders store) (·.admitted)
  have tagged : (single.slotHolders store).filter (·.admitted) =
      (single.active store.values).filter (·.admitted) := by
    unfold Singleton.slotHolders
    rw [List.filter_filter]
    refine List.filter_congr fun other _ => ?_
    cases other.admitted <;> simp
  -- Each id that is counted without the tag is that of an untracked holder, or of a seated run.
  have listed : ((legacySingletonHolders localeCompare (single.active store.values) run.id
      single.limit).map (·.id)).dedup ⊆ (((single.slotHolders store).filter (!·.admitted)) ++
        single.seatedRuns localeCompare store run).map (·.id) := by
    intro id member
    obtain ⟨other, held, rfl⟩ := List.mem_map.mp (List.mem_dedup.mp member)
    obtain ⟨active, scanned, different, waiting, kind⟩ := mem_legacySingletonHolders.mp held
    refine List.mem_map.mpr ⟨other, ?_, rfl⟩
    rw [List.mem_append]
    cases tracked : other.tracked with
    | false =>
      refine .inl (List.mem_filter.mpr ⟨List.mem_filter.mpr ⟨active, ?_⟩, ?_⟩)
      · simp [scanned, tracked]
      · simp [waiting]
    | true =>
      have seat := kind.resolve_left (by simp [tracked])
      refine .inr (List.mem_filter.mpr ⟨List.mem_filter.mpr ⟨active, ?_⟩, ?_⟩)
      · simp [scanned, tracked, waiting]
      · simpa [different] using seat
  have count := (List.subperm_of_subset (List.nodup_dedup _) listed).length_le
  rw [List.length_map, List.length_append] at count
  rw [tagged] at parts
  omega

variable [Std.TransCmp localeCompare]

theorem byCreation_trans {one third : SingletonRun}
    (before : (byCreation localeCompare one other).isLE = true)
    (after : (byCreation localeCompare other third).isLE = true) :
    (byCreation localeCompare one third).isLE = true :=
  (inferInstance : IsTrans SingletonRun fun one other =>
    (byCreation localeCompare one other).isLE = true).trans one other third before after

/-- The oldest denied run is given a slot that neither holders, nor queued or seated runs need. -/
theorem admits_of_room (orderly : Orderly store)
    (oldest : single.OldestDenied localeCompare store run)
    (room : (single.slotHolders store).length + (single.queuedBefore localeCompare store run).length +
      (single.seatedRuns localeCompare store run).length < single.limit) :
    singletonAdmissionTags localeCompare single store.values run.id =
      .ok (some (admittedTags run)) := by
  obtain ⟨denied, first⟩ := oldest
  obtain ⟨active, waits⟩ := List.mem_filter.mp denied
  simp only [Bool.and_eq_true, Bool.not_eq_true'] at waits
  obtain ⟨⟨scanned, tracked⟩, waiting⟩ := waits
  have found : (single.active store.values).find? (·.id == run.id) = some run := by
    rw [orderly.find_active]
    have listed := List.mem_filter.mp (single.active_eq store.values ▸ active)
    exact ⟨orderly.mem_values.mp listed.1, of_decide_eq_true listed.2⟩
  have counted := counted_le localeCompare single store run
  have positive : ¬ single.limit < 1 := by omega
  unfold singletonAdmissionTags
  rw [if_neg positive]
  simp only [found, waiting, Bool.false_eq_true, if_false]
  generalize ids : (legacySingletonHolders localeCompare (single.active store.values) run.id
    single.limit).map (·.id) = legacy at counted ⊢
  have free : ¬ single.limit - (((single.active store.values).filter (·.admitted)).length +
      legacy.dedup.length) = 0 := by
    omega
  rw [if_neg free]
  have member : run ∈ sortedByCreation localeCompare ((single.active store.values).filter
      fun run => !run.admitted && !legacy.contains run.id) := by
    rw [(sortedByCreation_perm localeCompare _).mem_iff, List.mem_filter]
    refine ⟨active, ?_⟩
    -- The candidate is not counted against itself.
    have fresh : run.id ∉ legacy := by
      rw [← ids]
      intro listed
      obtain ⟨other, held, same⟩ := List.mem_map.mp listed
      exact (mem_legacySingletonHolders.mp held).2.2.1 same
    simp [waiting, fresh]
  -- Whoever waits before the candidate is queued, as all other denied runs come after it.
  have few : ((sortedByCreation localeCompare ((single.active store.values).filter
      fun run => !run.admitted && !legacy.contains run.id)).filter fun other =>
        (byCreation localeCompare other run).isLE && other.id != run.id).length ≤
      (single.queuedBefore localeCompare store run).length := by
    rw [((sortedByCreation_perm localeCompare _).filter _).length_eq]
    refine (List.subperm_of_subset ((orderly.active_nodup.filter _).filter _) ?_).length_le
    intro other listed
    obtain ⟨listed, before⟩ := List.mem_filter.mp listed
    obtain ⟨here, kept⟩ := List.mem_filter.mp listed
    simp only [Bool.and_eq_true, bne_iff_ne, ne_eq] at before
    simp only [Bool.and_eq_true, Bool.not_eq_true'] at kept
    refine List.mem_filter.mpr ⟨here, ?_⟩
    cases executed : other.scanned with
    | false => simp [kept.1, before.1]
    | true =>
      have uncounted : other ∉ legacySingletonHolders localeCompare (single.active store.values)
          run.id single.limit := by
        intro held
        have listed : other.id ∈ legacy := ids ▸ List.mem_map.mpr ⟨other, held, rfl⟩
        simp [listed] at kept
      have known : other.tracked = true := by
        rw [← Bool.not_eq_false]
        intro unknown
        exact uncounted (mem_legacySingletonHolders.mpr
          ⟨here, executed, before.2, kept.1, .inl unknown⟩)
      have later := first other (List.mem_filter.mpr ⟨here, by simp [executed, known, kept.1]⟩)
        before.2
      exact absurd before.1 (not_isLE_of_lt later)
  have among : run ∈ (sortedByCreation localeCompare ((single.active store.values).filter
      fun run => !run.admitted && !legacy.contains run.id)).take (single.limit -
        (((single.active store.values).filter (·.admitted)).length + legacy.dedup.length)) := by
    refine Interleaving.mem_take_of_few (sortedByCreation_ranked localeCompare _) member
      (fun other => (byCreation localeCompare other run).isLE && other.id != run.id) ?_ (by omega)
    intro other listed before different
    rw [(sortedByCreation_perm localeCompare _).mem_iff] at listed
    have apart : other.id ≠ run.id := fun same =>
      different (orderly.same_of_id active (List.mem_of_mem_filter listed) same)
    simp [before, apart]
  rw [if_pos (List.any_eq_true.mpr ⟨run, among, by simp⟩)]
  rfl

def Singleton.seatable (single : Singleton) (store : SingletonStore) : List SingletonRun :=
  (single.active store.values).filter fun run => run.scanned || run.admitted

theorem seatable_cases (seatable : other ∈ single.seatable store) :
    other ∈ single.slotHolders store ∨ other ∈ single.deniedRuns store := by
  obtain ⟨active, kind⟩ := List.mem_filter.mp seatable
  unfold Singleton.slotHolders Singleton.deniedRuns
  simp only [List.mem_filter, active, true_and]
  cases admitted : other.admitted <;> cases tracked : other.tracked <;>
    simp_all

theorem holder_seatable (holder : other ∈ single.slotHolders store) :
    other ∈ single.seatable store := by
  obtain ⟨active, kind⟩ := List.mem_filter.mp holder
  refine List.mem_filter.mpr ⟨active, ?_⟩
  simp only [Bool.or_eq_true, Bool.and_eq_true] at kind ⊢
  exact kind.symm.imp_left And.left

/-- Where no holder is newer than the oldest denied run, they all have seats within the limit. -/
theorem seated_within (orderly : Orderly store)
    (oldest : single.OldestDenied localeCompare store run)
    (older : ∀ holder ∈ single.slotHolders store, byCreation localeCompare holder run = .lt)
    (room : (single.slotHolders store).length < single.limit) :
    (single.slotHolders store).length + (single.seatedRuns localeCompare store run).length <
      single.limit := by
  obtain ⟨denied, first⟩ := oldest
  have active := List.mem_of_mem_filter denied
  have scanned : run.scanned = true ∧ run.admitted = false ∧ run.tracked = true := by
    have waits := (List.mem_filter.mp denied).2
    simp only [Bool.and_eq_true, Bool.not_eq_true'] at waits
    exact ⟨waits.1.1, waits.2, waits.1.2⟩
  have unheld : run ∉ single.slotHolders store := by
    intro holder
    have kind := (List.mem_filter.mp holder).2
    simp [scanned.2.1, scanned.2.2] at kind
  -- Who comes before the run, or before a holder, is a holder.
  have ahead : ∀ other ∈ single.seatable store, ∀ seat,
      seat = run ∨ seat ∈ single.slotHolders store →
        (byCreation localeCompare other seat).isLE = true → other ≠ seat →
          other ∈ single.slotHolders store := by
    intro other seatable seat kind before different
    rcases seatable_cases seatable with holder | waits
    · exact holder
    · exfalso
      by_cases same : other = run
      · subst same
        rcases kind with same | holder
        · exact different same.symm
        · exact not_isLE_of_lt (older seat holder) before
      · have apart : other.id ≠ run.id := fun named => same
          (orderly.same_of_id active (List.mem_of_mem_filter waits) named)
        refine not_isLE_of_lt (first other waits apart) ?_
        rcases kind with rfl | holder
        · exact before
        · refine byCreation_trans before ?_
          rw [older seat holder]
          rfl
  have seated : ∀ seat, seat = run ∨ seat ∈ single.slotHolders store → seat ∈
      (sortedByCreation localeCompare (single.seatable store)).take single.limit := by
    intro seat kind
    have seatable : seat ∈ single.seatable store := by
      rcases kind with rfl | holder
      · exact List.mem_filter.mpr ⟨active, by simp [scanned.1]⟩
      · exact holder_seatable holder
    refine Interleaving.mem_take_of_few (sortedByCreation_ranked localeCompare _)
      ((sortedByCreation_perm localeCompare _).mem_iff.mpr seatable)
      (fun other => decide (other ∈ single.slotHolders store)) ?_ ?_
    · intro other listed before different
      have there := (sortedByCreation_perm localeCompare _).mem_iff.mp listed
      exact decide_eq_true (ahead other there seat kind before different)
    · rw [((sortedByCreation_perm localeCompare _).filter _).length_eq]
      refine Nat.lt_of_le_of_lt (List.Subperm.length_le ?_) room
      refine List.subperm_of_subset ((orderly.active_nodup.filter _).filter _) ?_
      intro other listed
      exact of_decide_eq_true (List.mem_filter.mp listed).2
  -- The run, the holders and the other seated runs have different seats.
  have nodup : (run :: (single.slotHolders store ++
      single.seatedRuns localeCompare store run)).Nodup := by
    refine List.nodup_cons.mpr ⟨?_, List.nodup_append.mpr ⟨orderly.active_nodup.filter _,
      (orderly.active_nodup.filter _).filter _, ?_⟩⟩
    · intro listed
      rcases List.mem_append.mp listed with holder | seat
      · exact unheld holder
      · have kind := (List.mem_filter.mp seat).2
        simp at kind
    · intro holder held seat sits same
      subst same
      have kind := (List.mem_filter.mp held).2
      have waits := (List.mem_filter.mp (List.mem_of_mem_filter sits)).2
      simp only [Bool.and_eq_true, Bool.not_eq_true'] at waits
      simp [waits.1.2, waits.2] at kind
  have inside : (run :: (single.slotHolders store ++ single.seatedRuns localeCompare store run)) ⊆
      (sortedByCreation localeCompare (single.seatable store)).take single.limit := by
    intro other listed
    rcases List.mem_cons.mp listed with rfl | listed
    · exact seated other (.inl rfl)
    · rcases List.mem_append.mp listed with holder | seat
      · exact seated other (.inr holder)
      · -- A seat of an id is the seat of its run.
        obtain ⟨waits, kind⟩ := List.mem_filter.mp seat
        simp only [Bool.and_eq_true, List.contains_iff_mem] at kind
        obtain ⟨there, sits, same⟩ := List.mem_map.mp kind.2
        have listed := (sortedByCreation_perm localeCompare _).mem_iff.mp
          (List.mem_of_mem_take sits)
        have equal := orderly.same_of_id (List.mem_of_mem_filter waits)
          (List.mem_of_mem_filter listed) same
        exact equal ▸ sits
  have count := (List.subperm_of_subset nodup inside).length_le
  rw [List.length_cons, List.length_append, List.length_take] at count
  omega

omit [Std.TransCmp localeCompare] in
theorem newlyAdmits_of_tags (orderly : Orderly store) (denied : run ∈ single.deniedRuns store)
    (given : singletonAdmissionTags localeCompare single store.values run.id =
      .ok (some (admittedTags run))) (retryWakeAt : Option Nat) :
    NewlyAdmits single localeCompare store run.id retryWakeAt := by
  obtain ⟨active, waits⟩ := List.mem_filter.mp denied
  have stored := orderly.mem_values.mp (List.mem_of_mem_filter active)
  refine ⟨⟨store.set run.id (run.patch { tags := some (admittedTags run) }), ?_⟩, ?_⟩
  · unfold tryAdmitSingleton
    simp only [given, stored, bind, Except.bind, pure, Except.pure]
  · intro other found
    rw [stored, Option.some.injEq] at found
    subst found
    simp only [Bool.and_eq_true, Bool.not_eq_true'] at waits
    exact waits.2

end Progress

section Contest

def lastRun : SingletonRun := { olderRun with id := "last", createdAt := 3 }

def parkedRun (run : SingletonRun) : SingletonRun :=
  { run with status := .suspended, wakeAt := some 9, tags := withSingletonTracked run.tags }

/-- A run begins to be executed, and claims one of so many slots. -/
def executed (limit : Nat) (runId : String) : List SingletonOp :=
  [.markStarted runId true, .tryAdmitSingleton (contested limit) runId (some 9)]

/-- A run fails. -/
def fails (runId : String) : SingletonOp :=
  .updateRunIf runId [.running] { status := some .failed }

def olderFailed : List SingletonOp :=
  [.start olderRun none, .start newerRun none] ++ executed 1 "older" ++ executed 1 "newer" ++
    [fails "older"]

/-- The two older runs have failed and are requeued; the last one got a slot in between. -/
def lastInBetween : List SingletonOp :=
  [.start olderRun none, .start newerRun none, .start lastRun none] ++ executed 2 "older" ++
    executed 2 "newer" ++ [fails "older", fails "newer"] ++ executed 2 "last" ++
      [.requeue "older" false, .requeue "newer" false] ++ executed 2 "newer" ++ executed 2 "older"

def afterOps (ops : List SingletonOp) : SingletonStore :=
  ops.foldl (fun store op => op.apply compare store) .empty

/-- A claim is for one of so many slots, and a status is written without tags. -/
def plain (limit : Nat) : SingletonOp → Bool
  | .tryAdmitSingleton other _ _ => decide (other = contested limit)
  | .updateRunIf _ _ patch => patch.tags.isNone
  | _ => true

theorem plain_fits {limit : Nat} {op : SingletonOp} (simple : plain limit op = true)
    (store : SingletonStore) : (contested limit).Fits store op := by
  cases op with
  | tryAdmitSingleton other runId retryWakeAt => exact fun _ _ _ => of_decide_eq_true simple
  | updateRunIf runId expected patch =>
    intro run tags stored written
    simp [plain, written] at simple
  | start run startAt => trivial
  | markStarted runId singleton => trivial
  | requeue runId handedOff => trivial

theorem afterOps_reached {limit : Nat} {ops : List SingletonOp}
    (simple : ops.all (plain limit) = true) :
    SingletonReached compare (contested limit) (afterOps ops) := by
  have onward : ∀ store, SingletonReached compare (contested limit) store →
      SingletonReached compare (contested limit)
        (ops.foldl (fun store op => op.apply compare store) store) := by
    induction ops with
    | nil => exact fun _ reached => reached
    | cons op rest ih =>
      intro store reached
      obtain ⟨first, others⟩ := Bool.and_eq_true_iff.mp simple
      exact ih others _ (.apply reached op (plain_fits first store))
  exact onward .empty .empty

end Contest

end Durable
