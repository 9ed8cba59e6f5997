import Durable.Codec.Memory

/-! What a store answers through the codec, and what the store behind it is given. -/

namespace Durable

open Interleaving

section Fallback

variable (store : StateStore)
variable (mergeRunValueFacetRows : List RunValueFacetRow → RunValueFacetOptions →
  List RunValueFacetRow)
variable {P Q : Payloads PayloadKind}

theorem StateStore.read_mapState (change : Relabelling P Q) (viewed : ViewedMethod)
    (given : viewed.method.Given P) (state : store.State P) {α β : Type}
    {before : viewed.method.Answer P → α} {after : viewed.method.Answer Q → β} {kept : α → β}
    (commutes : ∀ answer, after (viewed.method.mapAnswer change answer) = kept (before answer)) :
    ((store.exec viewed (viewed.method.mapGiven change given) (store.mapState change state)).1.map
        after,
      (store.exec viewed (viewed.method.mapGiven change given) (store.mapState change state)).2) =
    (((store.exec viewed given state).1.map before).map kept,
      store.mapState change (store.exec viewed given state).2) := by
  have read := store.exec_mapState change viewed given state
  rw [show store.exec viewed (viewed.method.mapGiven change given) (store.mapState change state) =
    _ from read]
  cases outcome : (store.exec viewed given state).1 with
  | error failure => rfl
  | ok answer => exact congrArg (fun answer => (Except.ok answer, _)) (commutes answer)

theorem StateStore.fallback_mapState (change : Relabelling P Q) (scopes : List (Option String))
    (method : StoreMethod) (given : method.Given P) (state : store.State P) :
    store.fallback mergeRunValueFacetRows scopes method (method.mapGiven change given)
        (store.mapState change state) =
      ((store.fallback mergeRunValueFacetRows scopes method given state).1.map
          (method.mapAnswer change),
        store.mapState change
          (store.fallback mergeRunValueFacetRows scopes method given state).2) := by
  cases method with
  | plain method =>
    cases method with
    | listSignalWaitersByRunIds runIds =>
      refine store.read_mapState change ⟨scopes, .plain (.listSignalWaiters "")⟩ () state ?_
      exact fun _ => rfl
    | countRuns query =>
      refine store.read_mapState change ⟨scopes, .listRuns query⟩ () state ?_
      intro runs
      exact List.length_map ..
    | runValueFacets axis query opts =>
      refine store.read_mapState change
        ⟨scopes, .listRuns { query with page := some 1, size := some _ }⟩ () state ?_
      -- The values come from the columns.
      intro runs
      exact congrArg (fun rows => mergeRunValueFacetRows rows opts) (List.flatMap_map ..)
    | _ => rfl
  | listOrphanedRuns nowMs limit namespace_ owner =>
    refine store.read_mapState change ⟨scopes, .listIncompleteRuns namespace_⟩ () state ?_
    intro runs
    exact (congrArg (List.take limit) List.filter_map).trans (List.map_take ..).symm
  | getLatestCheckpointByName runId name =>
    refine store.read_mapState change ⟨scopes, .listCheckpoints runId⟩ () state ?_
    intro checkpoints
    exact (congrArg List.getLast? List.filter_map).trans (List.getLast?_map ..)
  | listCheckpointsByNamePrefix runId prefixes =>
    refine store.read_mapState change ⟨scopes, .listCheckpoints runId⟩ () state ?_
    intro checkpoints
    exact List.filter_map
  | _ => rfl

theorem StateStore.call_mapState (change : Relabelling P Q) (viewed : ViewedMethod)
    (given : viewed.method.Given P) (state : store.State P) :
    store.call mergeRunValueFacetRows viewed (viewed.method.mapGiven change given)
        (store.mapState change state) =
      ((store.call mergeRunValueFacetRows viewed given state).1.map
          (viewed.method.mapAnswer change),
        store.mapState change (store.call mergeRunValueFacetRows viewed given state).2) := by
  unfold StateStore.call
  by_cases offered : store.offers viewed.method = true
  · simp only [if_pos offered]
    exact store.exec_mapState change viewed given state
  · simp only [if_neg offered]
    exact store.fallback_mapState mergeRunValueFacetRows change viewed.scopes viewed.method given
      state

/-- A store with what stands in for the methods it does not have. -/
def StateStore.withFallbacks : Service stateStore String where
  State := store.State
  init := store.init
  exec := store.call mergeRunValueFacetRows
  mapState := store.mapState
  mapState_init := store.mapState_init
  exec_mapState := store.call_mapState mergeRunValueFacetRows

end Fallback

section Encoding

variable (wrapper : CodecStateStore)

theorem dec_covered (value : Option Value) :
    wrapper.dec (value.map (wrapper.covered .payload)) = value := by
  cases value with
  | none => rfl
  | some value => exact congrArg some (wrapper.codec.decode_encode value)

theorem dec_detail (extended : wrapper.extended = true) (value : Option Value) :
    wrapper.dec (value.map (wrapper.covered .detail)) = value := by
  cases value with
  | none => rfl
  | some value =>
    have encoded : wrapper.covered .detail value = wrapper.codec.encode value := by
      simp [CodecStateStore.covered, extended]
    simp [CodecStateStore.dec, encoded, wrapper.codec.decode_encode]

theorem plain_detail (extended : ¬ wrapper.extended = true) (value : Option Value) :
    value.map (wrapper.covered .detail) = value := by
  have same : wrapper.covered .detail = id := by
    simp [CodecStateStore.covered, extended]
  rw [same, Option.map_id, id]

theorem encRun_eq (run : RunRow Json) : wrapper.encRun run = run.map wrapper.covered := by
  unfold CodecStateStore.encRun RunRow.map
  by_cases extended : wrapper.extended = true
  · simp [CodecStateStore.enc, CodecStateStore.covered, extended]
  · simp [CodecStateStore.enc, CodecStateStore.covered, extended]

theorem encCp_eq (checkpoint : CheckpointRow Json) :
    wrapper.encCp checkpoint = checkpoint.map wrapper.covered := by
  unfold CodecStateStore.encCp CheckpointRow.map
  by_cases extended : wrapper.extended = true
  · simp [CodecStateStore.enc, CodecStateStore.covered, extended]
  · simp [CodecStateStore.enc, CodecStateStore.covered, extended]

theorem encSettlement_eq (settlement : SettlementRow Json) :
    wrapper.encSettlement settlement = settlement.map wrapper.covered := by
  unfold CodecStateStore.encSettlement SettlementRow.map
  by_cases extended : wrapper.extended = true
  · simp [CodecStateStore.enc, CodecStateStore.covered, extended]
  · simp [CodecStateStore.enc, CodecStateStore.covered, extended]

theorem encSpec_eq (spec : ScheduleSpec Json) :
    wrapper.encSpec spec = spec.map wrapper.covered := by
  obtain ⟨input, rest⟩ := spec
  cases input with
  | none => rfl
  | some input => rfl

theorem encProgress_eq (progress : Option Value) :
    wrapper.encProgress progress = progress.map (wrapper.covered .detail) := by
  unfold CodecStateStore.encProgress CodecStateStore.enc
  by_cases extended : wrapper.extended = true
  · cases progress <;> simp [CodecStateStore.covered, extended]
  · rw [plain_detail wrapper extended]
    simp [extended]

theorem decRun_map (run : RunRow Json) : wrapper.decRun (run.map wrapper.covered) = run := by
  unfold CodecStateStore.decRun RunRow.map
  by_cases extended : wrapper.extended = true
  · simp [dec_covered, dec_detail wrapper extended, extended]
  · simp [dec_covered, plain_detail wrapper extended, extended]

theorem decCp_map (checkpoint : CheckpointRow Json) :
    wrapper.decCp (checkpoint.map wrapper.covered) = checkpoint := by
  unfold CodecStateStore.decCp CheckpointRow.map
  by_cases extended : wrapper.extended = true
  · simp [dec_covered, dec_detail wrapper extended, extended]
  · simp [dec_covered, plain_detail wrapper extended, extended]

theorem decSchedule_map (row : ScheduleRow Json) :
    wrapper.decSchedule (row.map wrapper.covered) = row := by
  obtain ⟨id, workflow, paused, nextFireAt, input, rest⟩ := row
  cases input with
  | none => rfl
  | some input =>
    simp only [CodecStateStore.decSchedule, ScheduleRow.map, ScheduleSpec.map, Option.map_some]
    rw [dec_covered wrapper input]

theorem map_undone {α : Type} {encode decode : α → α}
    (undone : ∀ element, decode (encode element) = element) (list : List α) :
    (list.map encode).map decode = list := by
  rw [List.map_map]
  exact (List.map_congr_left fun element _ => undone element).trans (List.map_id list)

theorem option_undone {α : Type} {encode decode : α → α}
    (undone : ∀ element, decode (encode element) = element) (value : Option α) :
    (value.map encode).map decode = value := by
  cases value with
  | none => rfl
  | some element => exact congrArg some (undone element)

theorem decorator_undoes : wrapper.decorator.Undoes wrapper.covered := by
  rintro ⟨scopes, method⟩ answer
  -- The methods that answer payloads decode them by their rows.
  cases method with
  | getRun _ => exact option_undone (decRun_map wrapper) answer
  | getRuns _ => exact map_undone (decRun_map wrapper) answer
  | listIncompleteRuns _ => exact map_undone (decRun_map wrapper) answer
  | listPendingRuns _ _ => exact map_undone (decRun_map wrapper) answer
  | listDueTimers _ _ _ => exact map_undone (decRun_map wrapper) answer
  | listOrphanedRuns _ _ _ _ => exact map_undone (decRun_map wrapper) answer
  | listRuns _ => exact map_undone (decRun_map wrapper) answer
  | getCheckpoint _ _ => exact option_undone (decCp_map wrapper) answer
  | getLatestCheckpointByName _ _ => exact option_undone (decCp_map wrapper) answer
  | getCheckpoints _ _ => exact map_undone (decCp_map wrapper) answer
  | getCheckpointsForSettle _ _ => exact map_undone (decCp_map wrapper) answer
  | listCheckpoints _ => exact map_undone (decCp_map wrapper) answer
  | listCheckpointsForReplay _ => exact map_undone (decCp_map wrapper) answer
  | queryCheckpoints _ _ => exact map_undone (decCp_map wrapper) answer
  | listCheckpointsByNamePrefix _ _ => exact map_undone (decCp_map wrapper) answer
  | takeBufferedSignal _ => exact option_undone (dec_covered wrapper) answer
  | listBufferedSignals _ _ _ =>
    refine map_undone (fun row => ?_) answer
    simp only [BufferedSignalRow.map, dec_covered]
  | listBufferedEvents _ _ =>
    refine map_undone (fun row => ?_) answer
    simp only [BufferedEventRow.map, dec_covered]
  | getSchedule _ => exact option_undone (decSchedule_map wrapper) answer
  | listSchedules _ => exact map_undone (decSchedule_map wrapper) answer
  | _ => rfl

theorem encPatch_eq_iff (patch : RunRowPatch Json) :
    wrapper.encPatch patch = patch.map wrapper.covered ↔
      (wrapper.extended = true → ∀ error, patch.error.join = some error →
        wrapper.codec.encode error = error) := by
  have parts : wrapper.encPatch patch = patch.map wrapper.covered ↔
      patch.error = patch.error.map (Option.map (wrapper.covered .detail)) := by
    constructor
    · intro same
      exact congrArg RunRowPatch.error same
    · intro same
      unfold CodecStateStore.encPatch RunRowPatch.map
      rw [← same]
      rfl
  rw [parts]
  by_cases extended : wrapper.extended = true
  · have encoded : wrapper.covered .detail = wrapper.codec.encode := by
      simp [CodecStateStore.covered, extended]
    rw [encoded]
    cases error : patch.error with
    | none => simp
    | some cleared =>
      cases cleared with
      | none => simp
      | some error => simp [extended, eq_comm]
  · have plain : Option.map (wrapper.covered .detail) = id := by
      funext value
      exact plain_detail wrapper extended value
    rw [plain, Option.map_id]
    simp [extended]

theorem encWait_eq (wait : ChildWaitRow Json) :
    ({ waiter := wait.waiter, checkpoint := wrapper.encCp wait.checkpoint } : ChildWaitRow Json) =
      wait.map wrapper.covered := by
  rw [encCp_eq]
  rfl

theorem encSchedule_eq (row : ScheduleRow Json) :
    wrapper.encSchedule row = row.map wrapper.covered := by
  unfold CodecStateStore.encSchedule
  rw [encSpec_eq]
  rfl

theorem encSchedulePatch_eq (patch : SchedulePatch Json) :
    wrapper.encSchedulePatch patch = patch.map wrapper.covered := by
  obtain ⟨paused, nextFireAt, spec⟩ := patch
  cases spec with
  | none => rfl
  | some spec =>
    simp only [CodecStateStore.encSchedulePatch, encSpec_eq]
    rfl

theorem encode_eq_iff (method : StoreMethod) (given : method.Given Json) :
    wrapper.encode method given = method.mapGiven wrapper.covered given ↔
      (wrapper.extended = true → ∀ error, method.patchedError given = some error →
        wrapper.codec.encode error = error) := by
  -- A method that sets no error on a run hands on whatever it is given encoded.
  have whole : method.patchedError given = none →
      wrapper.encode method given = method.mapGiven wrapper.covered given →
        (wrapper.encode method given = method.mapGiven wrapper.covered given ↔
          (wrapper.extended = true → ∀ error, method.patchedError given = some error →
            wrapper.codec.encode error = error)) := by
    intro unset same
    refine iff_of_true same ?_
    intro _ error set
    cases unset.symm.trans set
  cases method with
  | updateRun _ => exact encPatch_eq_iff wrapper given
  | updateRunIf _ _ => exact encPatch_eq_iff wrapper given
  | createRun => exact whole rfl (encRun_eq wrapper given)
  | saveCheckpoint => exact whole rfl (encCp_eq wrapper given)
  | saveCheckpointIfPending => exact whole rfl (encCp_eq wrapper given)
  | compactCheckpoints _ _ _ => exact whole rfl (encCp_eq wrapper given)
  | saveCheckpoints => exact whole rfl (List.map_congr_left fun row _ => encCp_eq wrapper row)
  | saveCheckpointsIfPending =>
    exact whole rfl (List.map_congr_left fun row _ => encCp_eq wrapper row)
  | transaction => exact whole rfl (List.map_congr_left fun row _ => encCp_eq wrapper row)
  | settleCheckpointsIfPending =>
    exact whole rfl (List.map_congr_left fun row _ => encSettlement_eq wrapper row)
  | registerChildWaits =>
    exact whole rfl (List.map_congr_left fun wait _ => encWait_eq wrapper wait)
  | recordStepHeartbeat _ _ _ => exact whole rfl (encProgress_eq wrapper given)
  | saveSchedule => exact whole rfl (encSchedule_eq wrapper given)
  | updateSchedule _ _ => exact whole rfl (encSchedulePatch_eq wrapper given)
  | _ => exact whole rfl rfl

end Encoding

section Transparency

variable (mergeRunValueFacetRows : List RunValueFacetRow → RunValueFacetOptions →
  List RunValueFacetRow)

/--
The codec is transparent, and nothing covered is handed on unencoded, for just those calls that set
no error on a run, unless errors are not covered or the error is its own encoding.
-/
theorem codec_transparent_iff (wrapper : CodecStateStore) (store : StateStore)
    (calls : List (Call stateStore Json)) :
    wrapper.Transparent mergeRunValueFacetRows store calls ↔
      ∀ call ∈ calls, wrapper.coverage = .extended → ∀ error,
        call.method.method.patchedError call.given = some error →
          wrapper.codec.encode error = error := by
  have extended : wrapper.extended = true ↔ wrapper.coverage = .extended := decide_eq_true_iff
  have covers : ∀ call : Call stateStore Json, wrapper.decorator.Covers wrapper.covered call ↔
      (wrapper.coverage = .extended → ∀ error,
        call.method.method.patchedError call.given = some error →
          wrapper.codec.encode error = error) := by
    intro call
    rw [← extended]
    exact encode_eq_iff wrapper call.method.method call.given
  constructor
  · rintro ⟨-, handed⟩ call listed
    exact (covers call).mp (handed call listed)
  · intro encoded
    have handed : ∀ call ∈ calls, wrapper.decorator.Covers wrapper.covered call :=
      fun call listed => (covers call).mpr (encoded call listed)
    refine ⟨?_, handed⟩
    have same := wrapper.decorator.answers_eq (store.withFallbacks mergeRunValueFacetRows)
      (decorator_undoes wrapper) calls store.init handed
    -- Nothing is stored at first, so nothing has to be encoded.
    have fresh : (store.withFallbacks mergeRunValueFacetRows).mapState wrapper.covered store.init =
        store.init := store.mapState_init wrapper.covered
    rw [fresh] at same
    exact same

def boxed : PayloadCodec where
  encode value := .arr [value]
  decode value := match value with
    | .arr [inner] => inner
    | other => other
  decode_encode _ := rfl

def failedRun : List (Call stateStore Json) :=
  [⟨⟨[], .createRun⟩, ({ id := "run", workflow := "pay", status := .running } : RunRow Json)⟩,
    ⟨⟨[], .updateRun "run"⟩,
      ({ status := some .failed, error := some (some (.str "card declined")) } : RunRowPatch Json)⟩,
    ⟨⟨[], .getRun "run"⟩, ()⟩]

end Transparency

/-- The error of a run that fails is stored in the clear, though errors are covered. -/
theorem failed_run_in_the_clear :
    ¬ ∀ (mergeRunValueFacetRows : List RunValueFacetRow → RunValueFacetOptions →
        List RunValueFacetRow) (wrapper : CodecStateStore) (store : StateStore)
        (calls : List (Call stateStore Json)),
      wrapper.Transparent mergeRunValueFacetRows store calls := by
  intro transparent
  have handed := (transparent (fun rows _ => rows) ⟨boxed, .extended⟩ memoryRuns failedRun).2 _
    (List.mem_cons_of_mem _ List.mem_cons_self)
  have encoded := (encode_eq_iff ⟨boxed, .extended⟩ (.updateRun "run") _).mp handed rfl _ rfl
  cases encoded

end Durable
