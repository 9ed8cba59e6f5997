import Durable.Data.Ids
import Durable.Data.Overlay
import Durable.Store.RowMappers

/-! The rows of a database keep what the store in memory keeps: after every sequence of patches,
and after every sequence of settlements. -/

namespace Durable.Lucid

open Overlay

section Values

variable {Number Json : Type} (js : Columns Number Json)

/-- A payload reads back as what was written. -/
@[simp] theorem parseJsonColumn_toJson (value : Option Json) :
    parseJsonColumn js (toJson js value) = value := by
  cases value with
  | none => rfl
  | some value => exact js.parse_stringify value

theorem toNum_handed (asText : Bool) (value : Number) :
    toNum js (some (handBack js asText value)) = some value := by
  cases asText with
  | false => rfl
  | true => exact js.number_numberText value

/-- A nullable number reads back as what was written. -/
@[simp] theorem toNum_handBack (asText : Bool) (value : Option Number) :
    toNum js (value.map (handBack js asText)) = value := by
  cases value with
  | none => rfl
  | some value => exact toNum_handed js asText value

/-- A required number reads back as what was written. -/
@[simp] theorem toNumOr0_handBack [OfNat Number 0] (asText : Bool) (value : Number) :
    toNumOr0 js (some (handBack js asText value)) = value := by
  unfold toNumOr0
  rw [toNum_handed]
  rfl

/-- A stored namespace is in the form it is stored in. -/
@[simp] theorem normalizeNamespace_stored (namespace_ : Option String) :
    normalizeNamespace (some (normalizeNamespace namespace_)) = normalizeNamespace namespace_ := by
  by_cases empty : namespace_ = some ""
  · rw [empty]
    rfl
  · cases namespace_ with
    | none => rfl
    | some name =>
      have named : name ≠ "" := fun same => empty (congrArg some same)
      simp [normalizeNamespace, named]

/-- Values written where they are given overlay the ones written before. -/
@[simp] theorem parseJsonColumn_getD (given : Option (Option Json)) (column : Option String) :
    parseJsonColumn js ((given.map (toJson js)).getD column) =
      given.getD (parseJsonColumn js column) := by
  cases given with
  | none => rfl
  | some value => exact parseJsonColumn_toJson js value

/-- Nothing reads back from NULL. -/
@[simp] theorem toNum_none : toNum js none = none := rfl

/-- A namespace is stored in its form, whether a patch gives it or not. -/
@[simp] theorem normalizeNamespace_getD (given : Option (Option String))
    (column : Option String) :
    normalizeNamespace ((given.map fun name => some (normalizeNamespace name)).getD column) =
      normalizeNamespace (given.getD (some (normalizeNamespace column))) := by
  cases given with
  | none => exact (normalizeNamespace_stored column).symm
  | some name => exact normalizeNamespace_stored name

end Values

section Runs

variable {Number Json : Type} (js : Columns Number Json)

def updatedRow (run : WorkflowRun Number Json) (patches : List (RunPatch Number Json)) :
    RunRow Number :=
  patches.foldl (fun row patch => row.merge (runPatchToRow js patch)) (runToRow js run)

def updatedRun (run : WorkflowRun Number Json) (patches : List (RunPatch Number Json)) :
    RunFields Number Json :=
  patches.foldl InMemory.updateRun (InMemory.createRun run)

/-- What the columns keep of a new run: they leave the wake request out. -/
def WorkflowRun.written (run : WorkflowRun Number Json) : WorkflowRun Number Json :=
  { run with wakeRequestedAt := none }

/-- What the columns keep of a patch: they leave the id out, and dates that are cleared. -/
def RunPatch.written (patch : RunPatch Number Json) : RunPatch Number Json :=
  { patch with
    id := none
    createdAt := patch.createdAt.join.map some
    updatedAt := patch.updatedAt.join.map some }

theorem updateRun_eq (run : RunFields Number Json) (patch : RunPatch Number Json) :
    InMemory.updateRun run patch = InMemory.copyRun (InMemory.merge run patch) := by
  unfold InMemory.updateRun InMemory.withNormalizedNamespace
  split
  · rfl
  · rename_i plain
    -- A namespace that is neither missing nor empty is stored as it is.
    cases held : (InMemory.merge run patch).namespace_ with
    | none => exact absurd (Or.inl held) plain
    | some name =>
      have named : name ≠ "" := by
        intro empty
        exact plain (Or.inr (by rw [held, empty]))
      ext1 <;> simp [InMemory.copyRun, held, normalizeNamespace, named]

variable [OfNat Number 0] (asText : NumericColumn → Bool)

theorem rowToRun_runToRow (run : WorkflowRun Number Json) :
    rowToRun js ((runToRow js run).handBack js asText) = InMemory.createRun run.written := by
  ext1 <;> simp [rowToRun, runToRow, RunRow.handBack, InMemory.createRun, WorkflowRun.written]

/-- A row with the columns of a patch reads back as the patched run, other than what the columns
leave out. -/
theorem rowToRun_merge (row : RunRow Number) (patch : RunPatch Number Json) :
    rowToRun js ((row.merge (runPatchToRow js patch)).handBack js asText) =
      InMemory.updateRun (rowToRun js (row.handBack js asText)) patch.written := by
  rw [updateRun_eq]
  ext1 <;> simp [rowToRun, runPatchToRow, RunRow.merge, RunRow.handBack, RunPatch.written,
    InMemory.merge, InMemory.copyRun]

theorem rowToRun_updatedRow (run : WorkflowRun Number Json)
    (patches : List (RunPatch Number Json)) :
    rowToRun js ((updatedRow js run patches).handBack js asText) =
      updatedRun run.written (patches.map RunPatch.written) := by
  unfold updatedRow updatedRun
  rw [← rowToRun_runToRow js asText]
  -- Each patch is read back before the next one is written.
  generalize runToRow js run = row
  induction patches generalizing row with
  | nil => rfl
  | cons patch patches ih =>
    rw [List.map_cons, List.foldl_cons, List.foldl_cons, ih, rowToRun_merge]

end Runs

section KeptRuns

variable {Number Json : Type} {run : WorkflowRun Number Json}
  {patches : List (RunPatch Number Json)}

/-- The fields of a run that the columns keep of every patch. -/
def RunFields.rest (run : RunFields Number Json) : RunFields Number Json :=
  { run with id := none, wakeRequestedAt := none, createdAt := none, updatedAt := none }

theorem RunFields.eq_iff (run other : RunFields Number Json) :
    run = other ↔ run.rest = other.rest ∧ run.id = other.id ∧
      run.wakeRequestedAt = other.wakeRequestedAt ∧ run.createdAt = other.createdAt ∧
      run.updatedAt = other.updatedAt := by
  cases run
  cases other
  simp only [RunFields.rest, RunFields.mk.injEq]
  tauto

theorem updateRun_rest {run other : RunFields Number Json} (same : run.rest = other.rest)
    (patch : RunPatch Number Json) :
    (InMemory.updateRun run patch.written).rest = (InMemory.updateRun other patch).rest := by
  cases run
  cases other
  simp only [RunFields.rest, RunFields.mk.injEq] at same
  rw [updateRun_eq, updateRun_eq]
  simp [RunFields.rest, InMemory.copyRun, InMemory.merge, RunPatch.written, same]

theorem updatedRun_rest (run : WorkflowRun Number Json)
    (patches : List (RunPatch Number Json)) :
    (updatedRun run.written (patches.map RunPatch.written)).rest =
      (updatedRun run patches).rest := by
  have start : (InMemory.createRun run.written).rest = (InMemory.createRun run).rest := rfl
  unfold updatedRun
  generalize InMemory.createRun run.written = written at start ⊢
  generalize InMemory.createRun run = stored at start ⊢
  induction patches generalizing written stored with
  | nil => exact start
  | cons patch patches ih =>
    rw [List.map_cons, List.foldl_cons, List.foldl_cons]
    exact ih _ _ (updateRun_rest start patch)

theorem updatedRun_field {Field : Type} {held : RunFields Number Json → Field}
    {given : RunPatch Number Json → Option Field}
    (step : ∀ run patch, held (InMemory.copyRun (InMemory.merge run patch)) =
      (given patch).getD (held run))
    (run : WorkflowRun Number Json) (patches : List (RunPatch Number Json)) :
    held (updatedRun run patches) =
      (lastGiven given patches).getD (held (InMemory.createRun run)) := by
  apply foldl_overlay
  intro run patch
  rw [updateRun_eq, step]

theorem id_kept :
    (updatedRun run.written (patches.map RunPatch.written)).id = (updatedRun run patches).id ↔
      ∀ given, lastGiven RunPatch.id patches = some given → given = some run.id := by
  have written : (updatedRun run.written (patches.map RunPatch.written)).id =
      (lastGiven RunPatch.id (patches.map RunPatch.written)).getD (some run.id) :=
    updatedRun_field (fun _ _ => rfl) _ _
  have stored : (updatedRun run patches).id =
      (lastGiven RunPatch.id patches).getD (some run.id) := updatedRun_field (fun _ _ => rfl) _ _
  have nothing : lastGiven RunPatch.id (patches.map RunPatch.written) = none := by
    rw [lastGiven_read]
    exact lastGiven_eq_none.mpr fun _ _ => rfl
  rw [written, stored, nothing, Option.getD_none]
  cases lastGiven RunPatch.id patches with
  | none => simp
  | some given =>
    rw [Option.getD_some]
    constructor
    · intro same other found
      rw [same, Option.some.inj found]
    · intro only
      exact (only given rfl).symm

/-- The columns keep the wake request of a run unless it is one of the new run that no patch
overlays. -/
theorem wakeRequestedAt_kept :
    (updatedRun run.written (patches.map RunPatch.written)).wakeRequestedAt =
        (updatedRun run patches).wakeRequestedAt ↔
      run.wakeRequestedAt = none ∨ ∃ patch ∈ patches, patch.wakeRequestedAt ≠ none := by
  have written : (updatedRun run.written (patches.map RunPatch.written)).wakeRequestedAt =
      (lastGiven RunPatch.wakeRequestedAt (patches.map RunPatch.written)).getD none :=
    updatedRun_field (fun _ _ => rfl) _ _
  have stored : (updatedRun run patches).wakeRequestedAt =
      (lastGiven RunPatch.wakeRequestedAt patches).getD run.wakeRequestedAt :=
    updatedRun_field (fun _ _ => rfl) _ _
  have alike : lastGiven RunPatch.wakeRequestedAt (patches.map RunPatch.written) =
      lastGiven RunPatch.wakeRequestedAt patches := lastGiven_read _ _ _
  rw [written, stored, alike]
  cases last : lastGiven RunPatch.wakeRequestedAt patches with
  | none =>
    -- No patch gives one, so the run in memory still has the one it was created with.
    have nothing := lastGiven_eq_none.mp last
    constructor
    · intro same
      exact Or.inl same.symm
    · rintro (absent | ⟨patch, listed, given⟩)
      · exact absent.symm
      · exact absurd (nothing patch listed) given
  | some given =>
    constructor
    · intro _
      by_contra neither
      push Not at neither
      rw [lastGiven_eq_none.mpr neither.2] at last
      cases last
    · intro _
      rfl

/-- Dates without those that are cleared end as the given ones do, unless these end by clearing
it. -/
theorem lastGiven_join_kept (given : RunPatch Number Json → Option (Option Number))
    (date : Number) :
    (lastGiven (fun patch => (given patch).join.map some) patches).getD (some date) =
        (lastGiven given patches).getD (some date) ↔
      lastGiven given patches ≠ some none := by
  rw [lastGiven_map some (fun patch => (given patch).join)]
  cases last : lastGiven given patches with
  | none =>
    -- No patch gives one, so the date of the new run stands.
    have nothing : lastGiven (fun patch => (given patch).join) patches = none := by
      apply lastGiven_eq_none.mpr
      intro patch listed
      rw [lastGiven_eq_none.mp last patch listed]
      rfl
    simp [nothing]
  | some kept =>
    cases kept with
    | none => simp
    | some value => simp [lastGiven_join_of_some last]

theorem date_kept (held : RunFields Number Json → Option Number)
    (given : RunPatch Number Json → Option (Option Number)) (date : Number)
    (step : ∀ run patch, held (InMemory.copyRun (InMemory.merge run patch)) =
      (given patch).getD (held run))
    (carried : ∀ patch : RunPatch Number Json, given patch.written = (given patch).join.map some)
    (created : held (InMemory.createRun run.written) = some date)
    (stored : held (InMemory.createRun run) = some date) :
    held (updatedRun run.written (patches.map RunPatch.written)) = held (updatedRun run patches) ↔
      lastGiven given patches ≠ some none := by
  rw [updatedRun_field step, updatedRun_field step, created, stored, lastGiven_read,
    funext carried]
  exact lastGiven_join_kept given date

theorem createdAt_kept :
    (updatedRun run.written (patches.map RunPatch.written)).createdAt =
        (updatedRun run patches).createdAt ↔
      lastGiven RunPatch.createdAt patches ≠ some none :=
  date_kept RunFields.createdAt RunPatch.createdAt run.createdAt (fun _ _ => rfl) (fun _ => rfl)
    rfl rfl

theorem updatedAt_kept :
    (updatedRun run.written (patches.map RunPatch.written)).updatedAt =
        (updatedRun run patches).updatedAt ↔
      lastGiven RunPatch.updatedAt patches ≠ some none :=
  date_kept RunFields.updatedAt RunPatch.updatedAt run.updatedAt (fun _ _ => rfl) (fun _ => rfl)
    rfl rfl

/-- What the columns of a run keep: the new run asks for no wake or a patch says whether one is
asked for, and the patches do not end with another id or without one of the dates. -/
structure RunKept (run : WorkflowRun Number Json) (patches : List (RunPatch Number Json)) :
    Prop where
  id : ∀ given, lastGiven RunPatch.id patches = some given → given = some run.id
  wakeRequestedAt :
    run.wakeRequestedAt = none ∨ ∃ patch ∈ patches, patch.wakeRequestedAt ≠ none
  createdAt : lastGiven RunPatch.createdAt patches ≠ some none
  updatedAt : lastGiven RunPatch.updatedAt patches ≠ some none

/-- What the columns keep of a run and its patches is the run in memory exactly where nothing is
left out. -/
theorem updatedRun_written_iff (run : WorkflowRun Number Json)
    (patches : List (RunPatch Number Json)) :
    updatedRun run.written (patches.map RunPatch.written) = updatedRun run patches ↔
      RunKept run patches := by
  rw [RunFields.eq_iff, id_kept, wakeRequestedAt_kept, createdAt_kept, updatedAt_kept]
  constructor
  · rintro ⟨-, id, wakeRequestedAt, createdAt, updatedAt⟩
    exact { id, wakeRequestedAt, createdAt, updatedAt }
  · intro kept
    exact ⟨updatedRun_rest run patches, kept.id, kept.wakeRequestedAt, kept.createdAt,
      kept.updatedAt⟩

end KeptRuns

section Checkpoints

variable {Number Json : Type} (js : Columns Number Json)

def settledRow (cp : StepCheckpoint Number Json)
    (settlements : List (CarriedSettlement Number Json)) : CheckpointRow Number :=
  settlements.foldl (fun row s => row.settled js s.read) (insertedCheckpoint js cp)

def settledCheckpoint (cp : StepCheckpoint Number Json)
    (settlements : List (CarriedSettlement Number Json)) : StepCheckpoint Number Json :=
  settlements.foldl InMemory.settle cp

/-- What the columns keep of a new checkpoint: they leave the heartbeats out. -/
def StepCheckpoint.written (cp : StepCheckpoint Number Json) : StepCheckpoint Number Json :=
  { cp with
    enqueuedAt := some (cp.enqueuedAt.getD cp.startedAt)
    lastHeartbeatAt := none
    heartbeatProgress := none }

/-- What the columns keep of a settlement: a field that it lacks is cleared. -/
def CarriedSettlement.written (s : CarriedSettlement Number Json) :
    CarriedSettlement Number Json :=
  { s with
    output := some s.output.join
    error := some s.error.join
    events := some s.events.join }

variable [OfNat Number 0] (asText : NumericColumn → Bool)

theorem rowToCheckpoint_inserted (cp : StepCheckpoint Number Json) :
    rowToCheckpoint js ((insertedCheckpoint js cp).handBack js asText) = cp.written := by
  have enqueued : toNum js (some (handBack js (asText .enqueuedAt)
      (cp.enqueuedAt.getD cp.startedAt))) = some (cp.enqueuedAt.getD cp.startedAt) :=
    toNum_handed js _ _
  have unread : parseJsonColumn js none = none := rfl
  simp [rowToCheckpoint, insertedCheckpoint, checkpointToRow, CheckpointRow.handBack,
    StepCheckpoint.written, enqueued, unread]

/-- A row with the columns of a settlement reads back as the settled checkpoint, with the fields
cleared that the settlement lacks. -/
theorem rowToCheckpoint_settled {row : CheckpointRow Number} {enqueuedAt : Number}
    (enqueued : row.enqueuedAt = some enqueuedAt) (s : CarriedSettlement Number Json) :
    rowToCheckpoint js ((row.settled js s.read).handBack js asText) =
      InMemory.settle (rowToCheckpoint js (row.handBack js asText)) s.written := by
  have read : toNum js (some (handBack js (asText .enqueuedAt) enqueuedAt)) = some enqueuedAt :=
    toNum_handed js _ _
  simp [rowToCheckpoint, CheckpointRow.settled, settlementToRow, CheckpointRow.handBack,
    CarriedSettlement.read, CarriedSettlement.written, InMemory.settle, enqueued, read]

/-- The row of a checkpoint reads back as the checkpoint in memory that gets what the columns
keep. -/
theorem rowToCheckpoint_settledRow (cp : StepCheckpoint Number Json)
    (settlements : List (CarriedSettlement Number Json)) :
    rowToCheckpoint js ((settledRow js cp settlements).handBack js asText) =
      settledCheckpoint cp.written (settlements.map CarriedSettlement.written) := by
  unfold settledRow settledCheckpoint
  rw [← rowToCheckpoint_inserted js asText]
  have enqueued : (insertedCheckpoint js cp).enqueuedAt =
      some (cp.enqueuedAt.getD cp.startedAt) := rfl
  -- Each settlement is read back before the next one is written; none changes the enqueue time.
  generalize insertedCheckpoint js cp = row at enqueued ⊢
  induction settlements generalizing row with
  | nil => rfl
  | cons s settlements ih =>
    rw [List.map_cons, List.foldl_cons, List.foldl_cons,
      ih (row.settled js s.read) enqueued, rowToCheckpoint_settled js asText enqueued]

end Checkpoints

section KeptCheckpoints

variable {Number Json : Type} {cp : StepCheckpoint Number Json}
  {settlements : List (CarriedSettlement Number Json)}

/-- The fields of a checkpoint that the columns keep through every settlement. -/
def StepCheckpoint.rest (cp : StepCheckpoint Number Json) : StepCheckpoint Number Json :=
  { cp with
    output := none
    error := none
    events := none
    enqueuedAt := none
    lastHeartbeatAt := none
    heartbeatProgress := none }

theorem StepCheckpoint.eq_iff (cp other : StepCheckpoint Number Json) :
    cp = other ↔ cp.rest = other.rest ∧ cp.output = other.output ∧ cp.error = other.error ∧
      cp.events = other.events ∧ cp.enqueuedAt = other.enqueuedAt ∧
      cp.lastHeartbeatAt = other.lastHeartbeatAt ∧
      cp.heartbeatProgress = other.heartbeatProgress := by
  cases cp
  cases other
  simp only [StepCheckpoint.rest, StepCheckpoint.mk.injEq]
  tauto

theorem settledCheckpoint_rest (cp : StepCheckpoint Number Json)
    (settlements : List (CarriedSettlement Number Json)) :
    (settledCheckpoint cp.written (settlements.map CarriedSettlement.written)).rest =
      (settledCheckpoint cp settlements).rest := by
  have start : cp.written.rest = cp.rest := rfl
  unfold settledCheckpoint
  generalize cp.written = written at start ⊢
  induction settlements generalizing written cp with
  | nil => exact start
  | cons s settlements ih =>
    rw [List.map_cons, List.foldl_cons, List.foldl_cons]
    apply ih
    cases written
    cases cp
    simp only [StepCheckpoint.rest, StepCheckpoint.mk.injEq] at start
    simp [StepCheckpoint.rest, InMemory.settle, CarriedSettlement.written, start]

theorem settledCheckpoint_left {Field : Type} {held : StepCheckpoint Number Json → Field}
    (left : ∀ cp s, held (InMemory.settle cp s) = held cp) (cp : StepCheckpoint Number Json)
    (settlements : List (CarriedSettlement Number Json)) :
    held (settledCheckpoint cp settlements) = held cp := by
  unfold settledCheckpoint
  induction settlements generalizing cp with
  | nil => rfl
  | cons s settlements ih => rw [List.foldl_cons, ih, left]

theorem payload_kept (given : CarriedSettlement Number Json → Option (Option Json))
    (payload : Option Json) :
    (lastGiven (fun s => some (given s).join) settlements).getD payload =
        (lastGiven given settlements).getD payload ↔
      ∀ last, settlements.getLast? = some last → given last = none →
        (lastGiven given settlements).getD payload = none := by
  rw [lastGiven_always fun s => (given s).join]
  cases end_ : settlements.getLast? with
  | none =>
    have none_ : settlements = [] := List.getLast?_eq_none_iff.mp end_
    subst none_
    simp
  | some last =>
    cases carried : given last with
    | none =>
      -- The row has NULL, and memory what was there before.
      constructor
      · intro same other found _
        rw [← same, Option.map_some, Option.getD_some, carried]
        rfl
      · intro lacking
        rw [lacking last rfl carried, Option.map_some, Option.getD_some, carried]
        rfl
    | some value =>
      rw [lastGiven_of_getLast? end_ carried]
      constructor
      · intro _ other found lacks
        rw [← Option.some.inj found, carried] at lacks
        cases lacks
      · intro _
        rw [Option.map_some, Option.getD_some, Option.getD_some, carried]
        rfl

/-- What the columns of a checkpoint keep: it has its enqueue time and no heartbeat, and the last
settlement carries each payload that is there. -/
structure CheckpointKept (cp : StepCheckpoint Number Json)
    (settlements : List (CarriedSettlement Number Json)) : Prop where
  output : ∀ last, settlements.getLast? = some last → last.output = none →
    (lastGiven CarriedSettlement.output settlements).getD cp.output = none
  error : ∀ last, settlements.getLast? = some last → last.error = none →
    (lastGiven CarriedSettlement.error settlements).getD cp.error = none
  events : ∀ last, settlements.getLast? = some last → last.events = none →
    (lastGiven CarriedSettlement.events settlements).getD cp.events = none
  enqueuedAt : cp.enqueuedAt ≠ none
  lastHeartbeatAt : cp.lastHeartbeatAt = none
  heartbeatProgress : cp.heartbeatProgress = none

theorem settledCheckpoint_payload {held : StepCheckpoint Number Json → Option Json}
    {given : CarriedSettlement Number Json → Option (Option Json)}
    (step : ∀ cp s, held (InMemory.settle cp s) = (given s).getD (held cp))
    (unwritten : held cp.written = held cp)
    (written : ∀ s : CarriedSettlement Number Json, given s.written = some (given s).join) :
    held (settledCheckpoint cp.written (settlements.map CarriedSettlement.written)) =
        held (settledCheckpoint cp settlements) ↔
      ∀ last, settlements.getLast? = some last → given last = none →
        (lastGiven given settlements).getD (held cp) = none := by
  have row := foldl_overlay step (settlements.map CarriedSettlement.written) cp.written
  have memory := foldl_overlay step settlements cp
  unfold settledCheckpoint
  rw [row, memory, lastGiven_read, unwritten]
  simp only [written]
  exact payload_kept given (held cp)

/-- What the columns keep of a checkpoint and its settlements is the checkpoint in memory exactly
where nothing is left out. -/
theorem settledCheckpoint_written_iff (cp : StepCheckpoint Number Json)
    (settlements : List (CarriedSettlement Number Json)) :
    settledCheckpoint cp.written (settlements.map CarriedSettlement.written) =
        settledCheckpoint cp settlements ↔
      CheckpointKept cp settlements := by
  have output : (settledCheckpoint cp.written (settlements.map CarriedSettlement.written)).output =
      (settledCheckpoint cp settlements).output ↔ _ :=
    settledCheckpoint_payload (fun _ _ => rfl) rfl fun _ => rfl
  have error : (settledCheckpoint cp.written (settlements.map CarriedSettlement.written)).error =
      (settledCheckpoint cp settlements).error ↔ _ :=
    settledCheckpoint_payload (fun _ _ => rfl) rfl fun _ => rfl
  have events : (settledCheckpoint cp.written (settlements.map CarriedSettlement.written)).events =
      (settledCheckpoint cp settlements).events ↔ _ :=
    settledCheckpoint_payload (fun _ _ => rfl) rfl fun _ => rfl
  -- Settlements leave the three other fields as the checkpoint has them.
  have enqueuedAt (cp : StepCheckpoint Number Json)
      (settlements : List (CarriedSettlement Number Json)) :
      (settledCheckpoint cp settlements).enqueuedAt = cp.enqueuedAt :=
    settledCheckpoint_left (fun _ _ => rfl) cp settlements
  have lastHeartbeatAt (cp : StepCheckpoint Number Json)
      (settlements : List (CarriedSettlement Number Json)) :
      (settledCheckpoint cp settlements).lastHeartbeatAt = cp.lastHeartbeatAt :=
    settledCheckpoint_left (fun _ _ => rfl) cp settlements
  have heartbeatProgress (cp : StepCheckpoint Number Json)
      (settlements : List (CarriedSettlement Number Json)) :
      (settledCheckpoint cp settlements).heartbeatProgress = cp.heartbeatProgress :=
    settledCheckpoint_left (fun _ _ => rfl) cp settlements
  rw [StepCheckpoint.eq_iff, output, error, events, enqueuedAt, enqueuedAt, lastHeartbeatAt,
    lastHeartbeatAt, heartbeatProgress, heartbeatProgress]
  have enqueued : cp.written.enqueuedAt = cp.enqueuedAt ↔ cp.enqueuedAt ≠ none := by
    unfold StepCheckpoint.written
    cases cp.enqueuedAt with
    | none => simp
    | some enqueuedAt => simp
  constructor
  · rintro ⟨-, output, error, events, same, beat, progress⟩
    exact {
      output, error, events
      enqueuedAt := enqueued.mp same
      lastHeartbeatAt := beat.symm
      heartbeatProgress := progress.symm }
  · intro kept
    exact ⟨settledCheckpoint_rest cp settlements, kept.output, kept.error, kept.events,
      enqueued.mpr kept.enqueuedAt, kept.lastHeartbeatAt.symm, kept.heartbeatProgress.symm⟩

end KeptCheckpoints

/-- The rows of the runs and the checkpoints read back as what the store in memory keeps, through
every sequence of patches and of settlements and whatever numbers come back as texts, exactly
where the columns leave nothing out. -/
theorem rows_read_back_iff {Number Json : Type} [OfNat Number 0] (js : Columns Number Json)
    (asText : NumericColumn → Bool) (run : WorkflowRun Number Json)
    (patches : List (RunPatch Number Json)) (cp : StepCheckpoint Number Json)
    (settlements : List (CarriedSettlement Number Json)) :
    (rowToRun js ((updatedRow js run patches).handBack js asText) = updatedRun run patches ↔
      RunKept run patches) ∧
    (rowToCheckpoint js ((settledRow js cp settlements).handBack js asText) =
        settledCheckpoint cp settlements ↔
      CheckpointKept cp settlements) := by
  constructor
  · rw [rowToRun_updatedRow]
    exact updatedRun_written_iff run patches
  · rw [rowToCheckpoint_settledRow]
    exact settledCheckpoint_written_iff cp settlements

/-- Natural numbers as the columns spell and read them, and as payloads. -/
def naturals : Columns Nat Nat where
  numberText number := toString number
  number text := digitsOf text.toList
  number_numberText := digitsOf_toString
  numberText_plain number marked := by
    have figure : (Char.ofNat 0).isDigit = true := by
      apply Nat.isDigit_of_mem_toDigits (b := 10) (n := number) (by decide) (by decide)
      rwa [← Nat.toList_repr]
    exact absurd figure (by decide)
  stringify number := toString number
  parse text := digitsOf text.toList
  parse_stringify := digitsOf_toString

/-- A new run that asks for a wake loses it, and a settlement without an output drops the one of
its checkpoint. -/
theorem wake_request_lost :
    rowToRun naturals ((updatedRow naturals
        { id := "r1", workflow := "checkout", workflowVersion := "1", status := .suspended,
          wakeRequestedAt := some 1234, createdAt := 1000, updatedAt := 1000 } []).handBack
        naturals fun _ => false) ≠
      updatedRun
        { id := "r1", workflow := "checkout", workflowVersion := "1", status := .suspended,
          wakeRequestedAt := some 1234, createdAt := 1000, updatedAt := 1000 } [] ∧
    rowToCheckpoint naturals ((settledRow naturals
        { runId := "r1", seq := 0, name := "charge", kind := .remote, stepId := "r1:0",
          status := .pending, output := some 7, attempts := 1, enqueuedAt := some 1000,
          startedAt := 1000, finishedAt := 1000 }
        [{ runId := "r1", seq := 0, status := .failed, startedAt := 1000,
           finishedAt := 2000 }]).handBack naturals fun _ => false) ≠
      settledCheckpoint
        { runId := "r1", seq := 0, name := "charge", kind := .remote, stepId := "r1:0",
          status := .pending, output := some 7, attempts := 1, enqueuedAt := some 1000,
          startedAt := 1000, finishedAt := 1000 }
        [{ runId := "r1", seq := 0, status := .failed, startedAt := 1000,
           finishedAt := 2000 }] := by
  constructor
  · intro same
    have wakes := congrArg RunFields.wakeRequestedAt same
    cases wakes
  · intro same
    have outputs := congrArg StepCheckpoint.output same
    cases outputs

end Durable.Lucid
