import Mathlib.Data.List.Nodup
import Durable.Engine.StepWriters
import Durable.Proofs.Engine.StepResults
import Durable.Proofs.Store.Operations

/-! A settled step stays settled, as long as no path writes over a settlement it has not seen. -/

namespace Durable

open Engine Interleaving

section Paths

variable {runId : String} {seq : Nat} {row write : StepCheckpoint} {α : Type}
  {refusal group : Option String} {wakeAt : Option Nat} {sends : Bool}
  {existing : Option StepCheckpoint} {held : StepCheckpoint} {path : Engine α}
  {entries : List (StepCheckpoint × StepSettlement)} {others : StepCheckpoint → Engine Unit}
  {attempt : Nat} {key : String × Nat}

/-- A path that keeps to the watch of a step, and ends in some view of it. -/
abbrev SlotWatched (runId : String) (seq : Nat) {α : Type} (ends : StepView → α → Prop) (path : Engine α) (view : StepView) :
    Prop :=
  path.Meets (stepWatch runId seq) ends view

def anyView {α : Type} : StepView → α → Prop := fun _ _ => True

/-- A path has not seen the step settled. -/
def StepView.Unsettled (view : StepView) : Prop :=
  ∀ held, view.seen = some held → ¬ held.isSettled

theorem StepView.Unsettled.mayWrite {view : StepView} (unsettled : view.Unsettled)
    (row : StepCheckpoint) : view.mayWrite row := by
  unfold StepView.mayWrite
  split
  · trivial
  · rename_i held seen
    split
    · rename_i completed
      exact absurd (.inl completed) (unsettled held seen)
    · rename_i failed
      exact absurd (.inr failed) (unsettled held seen)
    · trivial

theorem StepView.mayWrite_completed {view : StepView} (seen : view.seen = some held)
    (completed : held.status = .completed)
    (same : row.status = .completed ∧ row.output = held.output ∧ row.error = none) :
    view.mayWrite row := by
  unfold StepView.mayWrite
  rw [seen]
  dsimp only
  rw [completed]
  exact same

theorem StepView.mayWrite_requeue {view : StepView} (seen : view.seen = some held)
    (failed : held.status = .failed) (requeues : view.writer = .requeue) (row : StepCheckpoint) :
    view.mayWrite row := by
  unfold StepView.mayWrite
  rw [seen]
  dsimp only
  rw [failed]
  exact .inr (.inr requeues)

theorem StepCheckpoint.not_isSettled (pending : row.status = .pending) : ¬ row.isSettled := by
  simp [StepCheckpoint.isSettled, pending]

theorem StepView.unsettled_of_seen {view : StepView} (row : StepCheckpoint)
    (seen : view.seen = some row) (pending : row.status = .pending) : view.Unsettled := by
  intro held here
  cases seen.symm.trans here
  exact row.not_isSettled pending

theorem StepView.after_writer (runId : String) (seq : Nat) (view : StepView) (op : StoreOp) (answer : op.Answer) :
    (view.after runId seq op answer).writer = view.writer := by
  unfold StepView.after
  split
  · split <;> rfl
  · split <;> rfl
  · split <;> rfl
  · split <;> rfl
  · split <;> rfl
  · split <;> rfl
  · rfl

theorem watched_of_elsewhere (uses : path.Uses (Elsewhere runId seq)) (view : StepView) :
    SlotWatched runId seq anyView path view := by
  induction path generalizing view with
  | done result => trivial
  | call op next ih =>
    refine ⟨?_, fun answer _ => ih answer (uses.2 answer) _⟩
    cases op with
    | saveCheckpoint row => exact fun own => absurd own uses.1
    | registerChildWaits entries => exact uses.1
    | _ => trivial

theorem watched_of_apart (uses : path.Uses (Apart runId seq)) (view : StepView) :
    SlotWatched runId seq (fun after _ => after = view) path view := by
  induction path with
  | done result => rfl
  | call op next ih =>
    refine ⟨?_, fun answer _ => ?_⟩
    · cases op with
      | saveCheckpoint row => exact fun own => absurd own uses.1.1
      | registerChildWaits entries => exact uses.1.1
      | _ => trivial
    · have same : (stepWatch runId seq).advance view op answer = view := uses.1.2 view answer
      rw [same]
      exact ih answer (uses.2 answer)

theorem seen_after_save (row : StepCheckpoint) (own : (row.runId, row.seq) = (runId, seq))
    (view : StepView) : (view.after runId seq (.saveCheckpoint row) ()).seen = some row :=
  congrArg StepView.seen (if_pos own)

theorem after_save_apart (row : StepCheckpoint) (apart : (row.runId, row.seq) ≠ (runId, seq))
    (view : StepView) : view.after runId seq (.saveCheckpoint row) () = view :=
  if_neg apart

theorem saveCheckpoint_watched {view : StepView}
    (may : (row.runId, row.seq) = (runId, seq) → view.mayWrite row) : SlotWatched runId seq
      (fun after _ => (row.runId, row.seq) ≠ (runId, seq) → after = view)
      (saveCheckpoint row) view :=
  ⟨may, fun _ _ apart => if_neg apart⟩

theorem savePendingCheckpoint_watched {view : StepView} (support : StoreSupport)
    (may : (row.runId, row.seq) = (runId, seq) → view.Unsettled) : SlotWatched runId seq
      (fun after _ => (row.runId, row.seq) ≠ (runId, seq) → after = view)
      (savePendingCheckpoint support row) view := by
  unfold savePendingCheckpoint
  split
  · exact ⟨trivial, fun answer _ apart => if_neg fun both => apart both.1⟩
  · refine Program.meets_bind (saveCheckpoint_watched fun own => (may own).mayWrite row) ?_
    exact fun after _ same => same

theorem unsettled_after_get {view : StepView} (pending : row.status = .pending)
    (own : (row.runId, row.seq) = (runId, seq)) :
    (view.after runId seq (.getCheckpoint row.runId row.seq) (some row)).Unsettled := by
  refine StepView.unsettled_of_seen row ?_ pending
  simp only [StepView.after, if_pos own]

theorem releaseQueueSlot_uses (row : StepCheckpoint) :
    (releaseQueueSlot row).Uses (Apart runId seq) := by
  unfold releaseQueueSlot
  split
  · exact ⟨⟨trivial, fun _ _ => rfl⟩, fun _ => trivial⟩
  · trivial

theorem watched_after {β : Type} {first : Engine α} {rest : α → Engine β} {view : StepView}
    {ends : StepView → β → Prop} (apart : first.Uses (Apart runId seq))
    (after : ∀ result, SlotWatched runId seq ends (rest result) view) :
    SlotWatched runId seq ends (first >>= rest) view :=
  Program.meets_bind (watched_of_apart apart view) fun _ result same => same ▸ after result

theorem settlePendingResult_watched {view : StepView} (support : StoreSupport)
    (result : StepResult) (run : Option WorkflowRun)
    (may : (row.runId, row.seq) = (runId, seq) → view.Unsettled) :
    SlotWatched runId seq anyView (settlePendingResult support result row run)
      view := by
  have salvaged : SlotWatched runId seq anyView
      (salvageResult support row result) view := by
    unfold salvageResult
    split
    · exact ⟨trivial, fun _ _ => trivial⟩
    · refine (saveCheckpoint_watched fun own => ?_).weaken fun _ _ _ => trivial
      exact (may own).mayWrite _
  have settled : SlotWatched runId seq anyView
      (settlePendingCheckpoint support row (settlementOf row result)) view := by
    unfold settlePendingCheckpoint
    split
    · exact ⟨trivial, fun _ _ => trivial⟩
    · refine (savePendingCheckpoint_watched support ?_).weaken fun _ _ _ => trivial
      exact may
  unfold settlePendingResult
  split
  · exact watched_after (releaseQueueSlot_uses row) fun _ => trivial
  · exact watched_after (releaseQueueSlot_uses row) fun _ => trivial
  · refine watched_after (releaseQueueSlot_uses row) fun _ => ?_
    split
    · exact Program.meets_bind salvaged fun _ _ _ => trivial
    · trivial
  · refine watched_after (releaseQueueSlot_uses row) fun _ => ?_
    split
    · exact Program.meets_bind salvaged fun _ _ _ => trivial
    · trivial
  · refine Program.meets_bind settled fun after wrote _ => ?_
    split
    · exact watched_after (releaseQueueSlot_uses row) fun _ => trivial
    · trivial

theorem elsewhere_of_asks (asks : path.Uses Asks) : path.Uses (Elsewhere runId seq) :=
  asks.mono fun op asked => by cases op <;> trivial

theorem completeOneRemoteResult_watched (support : StoreSupport) (queuedIn : Nat → Nat → Bool)
    (result : StepResult) (view : StepView) :
    SlotWatched runId seq anyView
      (completeOneRemoteResult support queuedIn result) view := by
  have settled : SlotWatched runId seq anyView
      (settleRemoteCheckpoint support result) view := by
    refine Program.meets_perform trivial fun answer placed => ?_
    cases answer with
    | none => trivial
    | some row =>
      obtain ⟨here, there⟩ := Prod.mk.inj (placed row rfl)
      refine Program.meets_perform trivial fun run _ => ?_
      split
      · rename_i pending
        refine settlePendingResult_watched support result run fun own => ?_
        exact here ▸ there ▸ unsettled_after_get pending own
      · split <;> trivial
  refine Program.meets_bind settled fun after found _ => ?_
  cases found with
  | none => trivial
  | some row =>
    refine watched_of_elsewhere ?_ after
    refine Program.uses_bind (elsewhere_of_asks (stepFanStillRunning_asks queuedIn row result)) fun still => ?_
    split
    · trivial
    · exact ⟨trivial, fun _ => trivial⟩

theorem settleOneByOne_watched (support : StoreSupport) (queuedIn : Nat → Nat → Bool)
    (results : List StepResult) (view : StepView) :
    SlotWatched runId seq anyView (settleOneByOne support queuedIn results)
      view := by
  induction results generalizing view with
  | nil => trivial
  | cons result rest ih =>
    exact Program.meets_bind (completeOneRemoteResult_watched support queuedIn result view)
      fun after _ _ => ih after

theorem saveEachPending_watched (support : StoreSupport) {view : StepView}
    (distinct : entries.Pairwise fun one other =>
      (one.1.runId, one.1.seq) ≠ (other.1.runId, other.1.seq))
    (may : ∀ entry ∈ entries, (entry.1.runId, entry.1.seq) = (runId, seq) → view.Unsettled) :
    SlotWatched runId seq anyView (saveEachPending support entries) view := by
  induction entries generalizing view with
  | nil => trivial
  | cons entry rest ih =>
    obtain ⟨row, settlement⟩ := entry
    have apart := List.pairwise_cons.mp distinct
    refine Program.meets_bind (savePendingCheckpoint_watched support fun own =>
      may _ List.mem_cons_self own) fun after wrote same => ?_
    refine Program.meets_bind (ih apart.2 fun other member own => ?_) fun _ _ _ => trivial
    -- The step is at one position only, so an entry that is still to come has not been written.
    have elsewhere : (row.runId, row.seq) ≠ (runId, seq) := fun here =>
      apart.1 other member (here.trans own.symm)
    rw [same elsewhere]
    exact may other (List.mem_cons_of_mem _ member) own

theorem releaseClaimed_uses (claimed : List (StepCheckpoint × Bool)) :
    (releaseClaimed claimed).Uses (Apart runId seq) := by
  induction claimed with
  | nil => trivial
  | cons entry rest ih =>
    obtain ⟨row, wrote⟩ := entry
    cases wrote with
    | true => exact Program.uses_bind (releaseQueueSlot_uses row) fun _ => ih
    | false => exact ih

theorem settlePendingCheckpoints_watched (support : StoreSupport) {view : StepView}
    (distinct : entries.Pairwise fun one other =>
      (one.1.runId, one.1.seq) ≠ (other.1.runId, other.1.seq))
    (may : ∀ entry ∈ entries, (entry.1.runId, entry.1.seq) = (runId, seq) → view.Unsettled) :
    SlotWatched runId seq anyView (settlePendingCheckpoints support entries)
      view := by
  unfold settlePendingCheckpoints
  split
  · exact ⟨trivial, fun _ _ => trivial⟩
  · exact saveEachPending_watched support distinct may

theorem unsettled_after_replay {rows : Nat → Option StepCheckpoint} {id : String}
    (placed : ∀ position row, rows position = some row → (row.runId, row.seq) = (id, position))
    {results : List StepResult} {entry : StepCheckpoint × StepResult}
    (read : entry ∈ rowsRead rows results) (pending : entry.1.status = .pending)
    (own : (entry.1.runId, entry.1.seq) = (runId, seq)) (view : StepView) :
    (view.after runId seq (.replayCheckpoints id) rows).Unsettled := by
  obtain ⟨result, -, found⟩ := List.mem_filterMap.mp read
  obtain ⟨row, here, rfl⟩ := Option.map_eq_some_iff.mp found
  obtain ⟨same, position⟩ := Prod.mk.inj ((placed _ row here).symm.trans own)
  refine StepView.unsettled_of_seen row ?_ pending
  simp only [StepView.after, if_pos same]
  exact position ▸ here

theorem completeRemoteResults_watched (support : StoreSupport) (queuedIn : Nat → Nat → Bool)
    (id : String) (results : List StepResult) (view : StepView) :
    SlotWatched runId seq anyView
      (completeRemoteResults support queuedIn id results) view := by
  unfold completeRemoteResults
  split
  · exact settleOneByOne_watched support queuedIn results view
  · refine Program.meets_perform trivial fun run _ => ?_
    split
    · exact settleOneByOne_watched support queuedIn _ _
    · refine Program.meets_perform trivial fun rows placed => ?_
      have distinct := rowsRead_pairwise placed (liveResults_pairwise results)
      refine Program.meets_bind
        (settlePendingCheckpoints_watched support (List.pairwise_map.mpr (distinct.filter _)) ?_)
        fun after claims _ => ?_
      · intro entry mapped own
        obtain ⟨read, member, rfl⟩ := List.mem_map.mp mapped
        obtain ⟨listed, pending⟩ := List.mem_filter.mp member
        exact unsettled_after_replay placed listed (of_decide_eq_true pending) own _
      · refine watched_after (releaseClaimed_uses _) fun _ => ?_
        exact watched_of_elsewhere (elsewhere_of_asks (resumeBatch_asks queuedIn id _ [])) after

theorem seen_after_list {rows : List StepCheckpoint} {id : String}
    (placed : fitsRows (.listCheckpoints id) rows) (listed : row ∈ rows)
    (own : (row.runId, row.seq) = (runId, seq)) (view : StepView) :
    (view.after runId seq (.listCheckpoints id) rows).seen = some row := by
  obtain ⟨mine, distinct⟩ := placed
  obtain ⟨here, there⟩ := Prod.mk.inj own
  have same : id = runId := (List.forall_iff_forall_mem.mp mine row listed).symm.trans here
  simp only [StepView.after, if_pos same]
  -- Only one listed row is at the step's position.
  have found : (rows.find? (·.seq = seq)).isSome :=
    List.find?_isSome.mpr ⟨row, listed, decide_eq_true there⟩
  obtain ⟨other, first⟩ := Option.isSome_iff_exists.mp found
  have position : other.seq = seq := of_decide_eq_true (List.find?_some first :)
  have unique := List.inj_on_of_nodup_map (List.pairwise_map.mpr distinct)
    (List.mem_of_find?_eq_some first) listed (position.trans there.symm)
  exact unique ▸ first

theorem redispatchEach_watched (id : String) {rows : List StepCheckpoint} {view : StepView}
    (pending : ∀ row ∈ rows, row.status = .pending)
    (may : ∀ row ∈ rows, (row.runId, row.seq) = (runId, seq) → view.Unsettled) :
    SlotWatched runId seq anyView (redispatchEach id rows) view := by
  induction rows generalizing view with
  | nil => trivial
  | cons row rest ih =>
    have now := pending row List.mem_cons_self
    refine Program.meets_perform (fun own => (may row List.mem_cons_self own).mayWrite _)
      fun _ _ => Program.meets_perform trivial fun _ _ => ?_
    refine ih (fun other later => pending other (List.mem_cons_of_mem _ later)) ?_
    intro other later own
    -- What has been written is pending; whatever else has been seen was not settled before.
    by_cases here : (row.runId, row.seq) = (runId, seq)
    · exact StepView.unsettled_of_seen _
        (seen_after_save { row with attempts := row.attempts + 1 } here view) now
    · have same := after_save_apart { row with attempts := row.attempts + 1 } here view
      exact (congrArg StepView.Unsettled same).mpr (may other (List.mem_cons_of_mem _ later) own)

theorem redispatchPending_watched (id : String) (view : StepView) :
    SlotWatched runId seq anyView (redispatchPending id) view := by
  refine Program.meets_perform trivial fun run _ => ?_
  cases run with
  | none => trivial
  | some run =>
    refine Program.meets_perform trivial fun rows placed => ?_
    have pending : ∀ row ∈ List.filter
        (fun row => decide (row.kind = .remote ∧ row.status = .pending)) rows,
        row.status = .pending := fun row kept =>
      (of_decide_eq_true (List.mem_filter.mp kept).2).2
    refine redispatchEach_watched id pending fun row kept own => ?_
    have listed := (List.mem_filter.mp kept).1
    exact StepView.unsettled_of_seen _ (seen_after_list placed listed own _) (pending row kept)

theorem carryWake_uses (id : String) (previous renewed : Nat) :
    (carryWake id previous renewed).Uses (Elsewhere runId seq) := by
  refine Program.uses_perform trivial fun run => ?_
  cases run with
  | none => trivial
  | some run =>
    dsimp only
    split
    · exact ⟨trivial, fun _ => trivial⟩
    · trivial

theorem renewPending_watched (support : StoreSupport) (window now : Nat) {view : StepView}
    (may : (row.runId, row.seq) = (runId, seq) → view.Unsettled) :
    SlotWatched runId seq anyView (renewPending support window now row) view := by
  unfold renewPending
  dsimp only
  split
  · trivial
  · split
    · refine Program.meets_perform trivial fun wrote _ => watched_of_elsewhere ?_ _
      split
      · exact carryWake_uses _ _ _
      · trivial
    · refine Program.meets_bind (savePendingCheckpoint_watched support ?_)
        fun after wrote _ => watched_of_elsewhere ?_ after
      · exact may
      · split
        · exact carryWake_uses _ _ _
        · trivial

theorem renewStepLease_watched (support : StoreSupport) (window : Option Nat) (id : String)
    (position : Nat) (view : StepView) :
    SlotWatched runId seq anyView (renewStepLease support window id position)
      view := by
  unfold renewStepLease
  split
  · trivial
  · rename_i window
    refine Program.meets_perform trivial fun now _ => ?_
    refine Program.meets_perform trivial fun found placed => ?_
    cases found with
    | none => trivial
    | some row =>
      obtain ⟨here, there⟩ := Prod.mk.inj (placed row rfl)
      dsimp only
      split
      · rename_i dispatched
        refine renewPending_watched support window now fun own => ?_
        exact here ▸ there ▸ unsettled_after_get dispatched.2 own
      · trivial

theorem reopenEach_watched (apart : ∀ row, (others row).Uses (Apart runId seq))
    {rows : List StepCheckpoint} (distinct : rows.Pairwise fun row other => row.seq ≠ other.seq)
    {view : StepView} (requeues : view.writer = .requeue)
    (seen : ∀ row ∈ rows, (row.runId, row.seq) = (runId, seq) → view.seen = some row) :
    SlotWatched runId seq anyView (reopenEach others rows) view := by
  induction rows generalizing view with
  | nil => trivial
  | cons row rest ih =>
    obtain ⟨here, later⟩ := List.pairwise_cons.mp distinct
    unfold reopenEach
    split
    · rename_i failed
      refine Program.meets_perform trivial fun now _ => Program.meets_perform ?_ fun _ _ => ?_
      · -- The requeue has listed the failed row, and may write over it.
        intro own
        exact StepView.mayWrite_requeue (seen row List.mem_cons_self own) failed.2 requeues _
      · by_cases own : (row.runId, row.seq) = (runId, seq)
        · refine ih later ?_ fun other member same => ?_
          · exact (congrArg StepView.writer (if_pos own : ite _ _ view = _)).trans requeues
          · exact absurd ((Prod.mk.inj own).2.trans (Prod.mk.inj same).2.symm) (here other member)
        · have same := after_save_apart (row.reopened now) own view
          have rested := ih later requeues fun other member =>
            seen other (List.mem_cons_of_mem _ member)
          exact (congrArg (SlotWatched runId seq anyView (reopenEach others rest)) same).mpr rested
    · refine watched_after (apart row) fun _ => ih later requeues fun other member => ?_
      exact seen other (List.mem_cons_of_mem _ member)

theorem requeueCheckpoints_watched (apart : ∀ row, (others row).Uses (Apart runId seq))
    (id : String) {view : StepView} (requeues : view.writer = .requeue) :
    SlotWatched runId seq anyView (requeueCheckpoints others id) view := by
  refine Program.meets_perform trivial fun run _ => ?_
  cases run with
  | none => trivial
  | some run =>
    dsimp only
    split
    · refine Program.meets_perform trivial fun rows placed => ?_
      refine reopenEach_watched apart placed.2 ?_ fun row listed own => ?_
      · exact (view.after_writer runId seq (.listCheckpoints id) rows).trans requeues
      · exact seen_after_list placed listed own _
    · trivial

/-- What a replay may write for a dispatched step whose row it has read. -/
structure Rewrites (row write : StepCheckpoint) : Prop where
  unfinished : row.status ≠ .completed
  failed : row.status = .failed → write.sameOutcome row ∨ write.status = .pending

theorem dispatch_writes {id : String} {position : Nat} {step : StepDef} {input : Option Value}
    (decided : RemotePolicy.dispatch id position step attempt input group refusal =
      .suspended wakeAt (some write) sends) :
    (write.runId, write.seq) = (id, position) ∧ write.status = .pending := by
  unfold RemotePolicy.dispatch at decided
  split at decided
  · cases decided
  · cases decided
    exact ⟨rfl, rfl⟩

theorem awaitPending_writes {policy : RemotePolicy} {step : StepDef}
    (decided : policy.awaitPending step row = .suspended wakeAt (some write) sends) :
    (write.runId, write.seq) = (row.runId, row.seq) := by
  unfold RemotePolicy.awaitPending at decided
  split at decided
  · cases decided
  · split at decided
    · cases decided
      rfl
    · split at decided
      · cases decided
      · split at decided
        · cases decided
        · cases decided
          rfl

theorem retryFailed_writes {policy : RemotePolicy} {id : String} {position : Nat} {step : StepDef}
    {input : Option Value} (placed : (row.runId, row.seq) = (id, position))
    (decided : policy.retryFailed id position step row input group refusal =
      .suspended wakeAt (some write) sends) :
    (write.runId, write.seq) = (id, position) ∧ (write.sameOutcome row ∨ write.status = .pending) := by
  unfold RemotePolicy.retryFailed at decided
  split at decided
  · cases decided
  · split at decided
    · cases decided
      exact ⟨placed, .inl ⟨rfl, rfl, rfl⟩⟩
    · split at decided
      · cases decided
      · have sent := dispatch_writes decided
        exact ⟨sent.1, .inr sent.2⟩

theorem callRemote_writes {policy : RemotePolicy} {id : String} {position : Nat} {step : StepDef}
    {input : Option Value}
    (placed : ∀ row, existing = some row → (row.runId, row.seq) = (id, position))
    (decided : policy.callRemote id position step input group refusal existing =
      .suspended wakeAt (some write) sends) :
    (write.runId, write.seq) = (id, position) ∧ ∀ row, existing = some row → Rewrites row write := by
  unfold RemotePolicy.callRemote at decided
  split at decided
  · split at decided
    · cases decided
    · split at decided
      · cases decided
      · exact ⟨(dispatch_writes decided).1, fun row absent => by cases absent⟩
  · rename_i row
    have own := placed row rfl
    split at decided
    · cases decided
    · split at decided
      · cases decided
      · rename_i unfinished
        split at decided
        · cases decided
        · split at decided
          · cases decided
          · split at decided
            · rename_i pending
              refine ⟨(awaitPending_writes decided).trans own, ?_⟩
              rintro other ⟨⟩
              exact ⟨unfinished, fun failed => by rw [pending] at failed; cases failed⟩
            · have tried := retryFailed_writes own decided
              refine ⟨tried.1, ?_⟩
              rintro other ⟨⟩
              exact ⟨unfinished, fun _ => tried.2⟩
            · have sent := dispatch_writes decided
              refine ⟨sent.1, ?_⟩
              rintro other ⟨⟩
              exact ⟨unfinished, fun _ => .inr sent.2⟩

theorem callRemote_awaited {policy : RemotePolicy} {id : String} {position : Nat} {step : StepDef}
    {input : Option Value}
    (decided : policy.callRemote id position step input group refusal existing = .awaited) :
    ∀ row, existing = some row → row.status ≠ .completed := by
  rintro row rfl completed
  simp only [RemotePolicy.callRemote, completed] at decided
  split at decided <;> cases decided

/-- What a turn has read of the step, where it has read it, is what it decides from. -/
def ReadAt (runId : String) (seq : Nat) (view : StepView) (existing : Option StepCheckpoint) (key : String × Nat) : Prop :=
  view.writer = .turn ∧ (key = (runId, seq) → view.seen = none ∨ view.seen = existing)

theorem mayWrite_of_read {view : StepView} (read : ReadAt runId seq view existing key)
    (own : key = (runId, seq)) (rewrites : ∀ row, existing = some row → Rewrites row write) :
    view.mayWrite write := by
  unfold StepView.mayWrite
  split
  · trivial
  · rename_i held seen
    have decided := (read.2 own).resolve_left (by simp [seen])
    have rewritten := rewrites held (decided.symm.trans seen)
    split
    · rename_i completed
      exact absurd completed rewritten.unfinished
    · rename_i failed
      exact (rewritten.failed failed).imp_right fun pending => .inl ⟨read.1, pending⟩
    · trivial

def Unfinished (runId : String) (seq : Nat) (view : StepView) (key : String × Nat) : Prop :=
  view.writer = .turn ∧
    (key = (runId, seq) → ∀ held, view.seen = some held → held.status ≠ .completed)

theorem mayWrite_pending {view : StepView} (unfinished : Unfinished runId seq view key)
    (own : key = (runId, seq)) (pending : row.status = .pending) : view.mayWrite row := by
  unfold StepView.mayWrite
  split
  · trivial
  · rename_i held seen
    split
    · rename_i completed
      exact absurd completed (unfinished.2 own held seen)
    · exact .inr (.inl ⟨unfinished.1, pending⟩)
    · trivial

section Turn

variable {host : CtxHost} {position : Nat} {step : StepDef} {input : Payload} {view : StepView}
  {again : Option (Engine OpEnd)}

/-- Recording the result of an attempt that was awaited is watched. -/
theorem settleRemote_watched (unsettled : (host.runId, position) = (runId, seq) → view.Unsettled)
    (turn : view.writer = .turn) (goesOn : ∀ program ∈ again, ∀ view : StepView,
      Unfinished runId seq view (host.runId, position) →
        SlotWatched runId seq anyView program view) (result : Except StepError Payload) :
    SlotWatched runId seq anyView
      (host.settleRemote position step input attempt again result) view := by
  have resumed : ∀ (error : StepError) (view : StepView),
      Unfinished runId seq view (host.runId, position) →
      SlotWatched runId seq anyView
        (again.getD (return threwAt (position + 1) (.failure error))) view := by
    intro error view unfinished
    cases again with
    | none => trivial
    | some program => exact goesOn program rfl view unfinished
  cases result with
  | ok output =>
    exact ⟨fun own => (unsettled own).mayWrite _, fun _ _ => trivial⟩
  | error error =>
    simp only [CtxHost.settleRemote]
    split
    · -- The window ran out, and the row is read again.
      refine Program.meets_perform trivial fun late placed => ?_
      have stays := view.after_writer runId seq (.getCheckpoint host.runId position) late
      have seen : (host.runId, position) = (runId, seq) →
          (view.after runId seq (.getCheckpoint host.runId position) late).seen = late :=
        fun own => congrArg StepView.seen (if_pos own)
      cases late with
      | none =>
        refine resumed error _ ⟨stays.trans turn, fun own held here => ?_⟩
        cases (seen own).symm.trans here
      | some row =>
        dsimp only
        split
        · rename_i completed
          refine ⟨fun own => ?_, fun _ _ => trivial⟩
          exact StepView.mayWrite_completed (seen own) completed ⟨rfl, rfl, rfl⟩
        · rename_i unfinished
          refine resumed error _ ⟨stays.trans turn, fun own held here => ?_⟩
          cases (seen own).symm.trans here
          exact unfinished
    · trivial

theorem attemptRemote_watched (attempt : Nat)
    (unfinished : Unfinished runId seq view (host.runId, position))
    (goesOn : ∀ program ∈ again, ∀ view : StepView,
      Unfinished runId seq view (host.runId, position) →
        SlotWatched runId seq anyView program view) : SlotWatched runId seq anyView (do
      saveCheckpoint { runId := host.runId, seq := position, name := step.name, kind := .remote
                       status := .pending, input, attempts := attempt }
      let result ← runBody host.runId position attempt
      host.settleRemote position step input attempt again result) view := by
  refine Program.meets_perform (fun own => mayWrite_pending unfinished own rfl) fun _ _ => ?_
  refine Program.meets_perform trivial fun result _ => settleRemote_watched ?_ ?_ goesOn result
  · -- The attempt has just been recorded as pending.
    intro own
    exact StepView.unsettled_of_seen _ (seen_after_save _ own view) rfl
  · exact (view.after_writer runId seq (.saveCheckpoint _) ()).trans unfinished.1

theorem awaitRemote_watched (retries attempt : Nat)
    (unfinished : Unfinished runId seq view (host.runId, position)) : SlotWatched runId seq anyView
      (host.awaitRemote position step input attempt retries) view := by
  induction retries generalizing attempt view with
  | zero => exact attemptRemote_watched attempt unfinished (by simp)
  | succ retries ih =>
    refine attemptRemote_watched attempt unfinished ?_
    rintro program ⟨⟩ later still
    exact ih (attempt + 1) still

theorem decideRemote_watched {again : Engine OpEnd}
    (read : ReadAt runId seq view existing (host.runId, position))
    (placed : ∀ row, existing = some row → (row.runId, row.seq) = (host.runId, position))
    (anew : ∀ view : StepView, view.writer = .turn → SlotWatched runId seq anyView again view) :
    SlotWatched runId seq anyView
      (host.decideRemote position step input again existing) view := by
  refine Program.meets_perform trivial fun now _ => Program.meets_perform trivial fun refusal _ => ?_
  generalize decided : RemotePolicy.callRemote { host.remote with clock := now } host.runId position
    step input none refusal existing = turn
  show SlotWatched runId seq anyView (host.applyRemote position step input existing again turn) view
  cases turn with
  | returned | failed | nonDeterminism | refused => trivial
  | awaited =>
    refine awaitRemote_watched _ _ ⟨read.1, fun own held seen completed => ?_⟩
    -- A step that has been seen completed is not awaited.
    have here := ((read.2 own).resolve_left (by simp [seen])).symm.trans seen
    exact callRemote_awaited decided held here completed
  | suspended wakeAt write sends =>
    cases write with
    | none => trivial
    | some write =>
      have writes := callRemote_writes placed decided
      simp only [CtxHost.applyRemote]
      split
      · refine Program.meets_perform trivial fun wrote _ => ?_
        split
        · trivial
        · exact anew _ ((view.after_writer runId seq (.saveCheckpointIfPending write) wrote).trans read.1)
      · refine ⟨fun own => ?_, fun _ _ => trivial⟩
        exact mayWrite_of_read read (writes.1.symm.trans own) writes.2

theorem redecideRemote_watched (rereads : Nat) (turn : view.writer = .turn) :
    SlotWatched runId seq anyView
      (host.redecideRemote position step input rereads) view := by
  induction rereads generalizing view with
  | zero => trivial
  | succ rereads ih =>
    refine Program.meets_perform trivial fun existing placed => ?_
    refine decideRemote_watched ⟨?_, fun own => .inr ?_⟩ placed fun view turn => ih turn
    · exact (view.after_writer runId seq (.getCheckpoint host.runId position) existing).trans turn
    · exact congrArg StepView.seen (if_pos own)

theorem step_watched (snapshot : ∀ position row, host.replay position = some row →
      (row.runId, row.seq) = (host.runId, position)) (turn : view.writer = .turn) :
    SlotWatched runId seq anyView (host.step step input position) view := by
  refine Program.meets_perform trivial fun existing fits => ?_
  have placed : ∀ row, existing = some row → (row.runId, row.seq) = (host.runId, position) := by
    intro row found
    cases held : host.replay position with
    | none => exact (held ▸ fits : fitsRows (.readCheckpoint host.runId position none) existing) row found
    | some old =>
      have same : existing = some old :=
        (held ▸ fits : fitsRows (.readCheckpoint host.runId position (some old)) existing)
      cases found.symm.trans same
      exact snapshot position row held
  have reading := (view.after_writer runId seq (.readCheckpoint host.runId position (host.replay position)) existing).trans turn
  have read : ReadAt runId seq
      (view.after runId seq (.readCheckpoint host.runId position (host.replay position)) existing)
      existing (host.runId, position) :=
    ⟨reading, fun own => .inr (congrArg StepView.seen (if_pos own))⟩
  split
  · refine Program.meets_perform trivial fun stored own => ?_
    refine decideRemote_watched ⟨?_, fun here => ?_⟩ ?_ fun view turn =>
      redecideRemote_watched host.rereads turn
    · exact (StepView.after_writer runId seq _ (.getCheckpoint host.runId position) stored).trans reading
    · -- Where the stored row is gone, nothing has been seen of it.
      have seen : (StepView.after runId seq (view.after runId seq
          (.readCheckpoint host.runId position (host.replay position)) existing)
          (.getCheckpoint host.runId position) stored).seen = stored :=
        congrArg StepView.seen (if_pos here)
      cases stored with
      | none => exact .inl seen
      | some row => exact .inr seen
    · intro row found
      cases stored with
      | none => exact placed row found
      | some row' => exact own row found
  · exact decideRemote_watched read placed fun view turn =>
      redecideRemote_watched host.rereads turn

end Turn

section Fan

variable {fan : StepFan} {policy : RemotePolicy} {refusals : Nat → Option String} {rows : FanRows}
  {tally : FanTally} {index : Nat} {view : StepView}

/-- The members an outcome sends. -/
def StepFanOutcome.sent : StepFanOutcome → List Nat
  | .suspended _ sent => sent
  | _ => []

/-- A look at a member adds it to the unsent ones only where it has no row, and sends nothing. -/
def Unsends (index : Nat) (row : Option StepCheckpoint) (tally : FanTally) :
    Except StepFanOutcome FanTally → Prop
  | .error ended => ended.sent = []
  | .ok after => ∀ other ∈ after.unsent, other ∈ tally.unsent ∨ other = index ∧ row = none

theorem unsends_same {row : Option StepCheckpoint} {after : FanTally}
    (same : after.unsent = tally.unsent) : Unsends index row tally (.ok after) :=
  fun _ member => .inl (same ▸ member)

theorem look_unsends (index : Nat) (row : Option StepCheckpoint) (tally : FanTally) :
    Unsends index row tally (fan.look policy refusals index row tally) := by
  unfold StepFan.look
  split
  · intro other member
    exact (List.mem_append.mp member).imp_right fun last => ⟨List.mem_singleton.mp last, rfl⟩
  · split
    · rfl
    · split
      · exact unsends_same rfl
      · split
        · exact unsends_same rfl
        · dsimp only
          split
          · exact unsends_same rfl
          · exact unsends_same rfl
          · split
            · rfl
            · exact unsends_same rfl
          · rfl
          · rfl
          · rfl

theorem takeDecided_unsends (index : Nat) (row : Option StepCheckpoint) (tally : FanTally)
    (turn : RemoteTurn) : Unsends index row tally (CtxHost.takeDecided fan index tally turn) := by
  unfold CtxHost.takeDecided
  split
  · exact unsends_same rfl
  · exact unsends_same rfl
  · dsimp only
    split
    · rfl
    · exact unsends_same rfl
  · rfl
  · rfl
  · rfl

/-- The members a survey has found unsent have no row, and a turn it has ended sends none. -/
def FoundUnsent (rows : FanRows) : Except (Nat × StepFanOutcome) FanTally → Prop
  | .error (_, ended) => ended.sent = []
  | .ok tally => ∀ index ∈ tally.unsent, rows index = none

def IsMember (runId : String) (seq : Nat) (fan : StepFan) (index : Nat) : Prop :=
  (fan.runId, fan.firstSeq + index) = (runId, seq)

/-- A turn's path, which knows the step as another view did unless it is about a member. -/
def Beyond (runId : String) (seq : Nat) (fan : StepFan) (index : Nat) (view after : StepView) :
    Prop :=
  after.writer = .turn ∧ (¬ IsMember runId seq fan index → after = view)

theorem decideMember_watched (index rereads : Nat) (turn : view.writer = .turn) :
    SlotWatched runId seq (fun after _ => Beyond runId seq fan index view after)
      (CtxHost.decideMember fan policy refusals index rereads) view := by
  induction rereads generalizing view with
  | zero => exact ⟨turn, fun _ => rfl⟩
  | succ rereads ih =>
    refine Program.meets_perform trivial fun stored placed => ?_
    have reading := (view.after_writer runId seq (.getCheckpoint fan.runId (fan.firstSeq + index)) stored).trans turn
    have unread : ¬ IsMember runId seq fan index →
        view.after runId seq (.getCheckpoint fan.runId (fan.firstSeq + index)) stored = view :=
      fun apart => if_neg apart
    dsimp only
    generalize decided : policy.callRemote fan.runId (fan.firstSeq + index) fan.step
      (fan.inputs.getD index none) _ (refusals index) stored = turn
    cases turn with
    | returned | failed | nonDeterminism | refused | awaited => exact ⟨reading, unread⟩
    | suspended wakeAt write sends =>
      cases write with
      | none => exact ⟨reading, unread⟩
      | some write =>
        have writes := callRemote_writes placed decided
        dsimp only
        split
        · -- The row was pending: it is written over only while it still is.
          refine Program.meets_perform trivial fun wrote _ => ?_
          have kept := (StepView.after_writer runId seq _ (.saveCheckpointIfPending write) wrote).trans reading
          have apart : ¬ IsMember runId seq fan index → StepView.after runId seq
              (view.after runId seq (.getCheckpoint fan.runId (fan.firstSeq + index)) stored)
              (.saveCheckpointIfPending write) wrote = view := fun other =>
            (if_neg fun both => other (writes.1.symm.trans both.1)).trans (unread other)
          split
          · exact ⟨kept, apart⟩
          · refine (ih kept).weaken fun after _ beyond => ⟨beyond.1, fun other => ?_⟩
            exact (beyond.2 other).trans (apart other)
        · refine Program.meets_perform (fun own => ?_) fun _ _ => ⟨?_, fun other => ?_⟩
          · refine mayWrite_of_read ⟨reading, fun here => ?_⟩ (writes.1.symm.trans own) writes.2
            exact .inr (congrArg StepView.seen (if_pos here))
          · exact (StepView.after_writer runId seq _ (.saveCheckpoint write) ()).trans reading
          · exact (after_save_apart write (fun own => other (writes.1.symm.trans own)) _).trans
              (unread other)

/-- A turn's path has seen no row of a member without one. -/
def Unseen (runId : String) (seq : Nat) (fan : StepFan) (rows : FanRows) (view : StepView) :
    Prop :=
  view.writer = .turn ∧ ∀ index, rows index = none → IsMember runId seq fan index →
    view.seen = none

theorem Unseen.beyond {after : StepView} (unseen : Unseen runId seq fan rows view)
    (found : rows index = some row) (beyond : Beyond runId seq fan index view after) :
    Unseen runId seq fan rows after := by
  refine ⟨beyond.1, fun other absent member => ?_⟩
  have apart : ¬ IsMember runId seq fan index := by
    intro here
    -- Members are at different positions.
    have same := (Prod.mk.inj (here.trans member.symm)).2
    rw [Nat.add_left_cancel same, absent] at found
    cases found
  rw [beyond.2 apart]
  exact unseen.2 other absent member

theorem surveyMember_watched (index rereads : Nat) (tally : FanTally)
    (unseen : Unseen runId seq fan rows view) : SlotWatched runId seq
      (fun after result => Unseen runId seq fan rows after ∧
        Unsends index (rows index) tally result)
      (CtxHost.surveyMember fan policy refusals rereads index tally (rows index)) view := by
  unfold CtxHost.surveyMember
  split
  · rename_i handed
    cases found : rows index with
    | none => simp [found] at handed
    | some row =>
      refine Program.meets_bind (decideMember_watched index rereads unseen.1)
        fun after turn beyond => ?_
      exact ⟨unseen.beyond found beyond, takeDecided_unsends index (some row) tally turn⟩
  · exact ⟨unseen, look_unsends index (rows index) tally⟩

theorem surveySteps_watched (rereads : Nat) (members : List Nat)
    (unseen : Unseen runId seq fan rows view) (unsent : ∀ index ∈ tally.unsent, rows index = none) :
    SlotWatched runId seq
      (fun after result => Unseen runId seq fan rows after ∧ FoundUnsent rows result)
      (CtxHost.surveySteps fan policy refusals rereads rows members tally) view := by
  induction members generalizing tally view with
  | nil => exact ⟨unseen, unsent⟩
  | cons index rest ih =>
    have looked : SlotWatched runId seq
        (fun after row => Unseen runId seq fan rows after ∧ row = rows index)
        (CtxHost.lookUp fan index (rows index)) view := by
      cases found : rows index with
      | none => exact ⟨unseen, rfl⟩
      | some row =>
        refine ⟨trivial, fun answer same => ⟨unseen.beyond found ⟨?_, fun apart => ?_⟩, same⟩⟩
        · exact (view.after_writer runId seq (.readCheckpoint fan.runId (fan.firstSeq + index) (some row))
            answer).trans unseen.1
        · exact if_neg apart
    refine Program.meets_bind looked fun after row ended => ?_
    obtain ⟨kept, rfl⟩ := ended
    refine Program.meets_bind (surveyMember_watched index rereads tally kept)
      fun later result surveyed => ?_
    cases result with
    | error ended => exact surveyed
    | ok counted =>
      refine ih surveyed.1 fun other member => ?_
      exact (surveyed.2 other member).elim (unsent other) fun new => new.1 ▸ new.2

theorem sendSteps_watched (sent : List Nat)
    (unsettled : ∀ index ∈ sent, IsMember runId seq fan index → view.Unsettled) :
    SlotWatched runId seq anyView (CtxHost.sendSteps fan sent) view := by
  induction sent generalizing view with
  | nil => trivial
  | cons index rest ih =>
    refine Program.meets_perform
      (fun own => (unsettled index List.mem_cons_self own).mayWrite _) fun _ _ => ?_
    refine ih fun other later member => ?_
    by_cases here : IsMember runId seq fan index
    · exact StepView.unsettled_of_seen _ (congrArg StepView.seen (if_pos here)) rfl
    · refine (congrArg StepView.Unsettled (if_neg here)).mpr ?_
      exact unsettled other (List.mem_cons_of_mem _ later) member

theorem concludeSteps_watched (index : Nat) {ended : StepFanOutcome}
    (unsettled : ∀ member ∈ ended.sent, IsMember runId seq fan member → view.Unsettled) :
    SlotWatched runId seq anyView (CtxHost.concludeSteps fan index ended) view := by
  cases ended with
  | suspended wakeAt sent =>
    exact Program.meets_bind (sendSteps_watched sent unsettled) fun _ _ _ => trivial
  | threw | nonDeterminism | refused | returned | settled => trivial

theorem conclude_sent (sends : index ∈ (fan.conclude policy refusals tally).sent) :
    index ∈ tally.unsent := by
  have batched : ∀ other ∈ fan.batch tally, other ∈ tally.unsent := by
    intro other member
    unfold StepFan.batch at member
    split at member
    · cases member
    · split at member
      · exact member
      · exact List.mem_of_mem_take member
  unfold StepFan.conclude at sends
  split at sends
  · cases sends
  · split at sends
    · exact batched index sends
    · unfold StepFan.finish at sends
      dsimp only at sends
      split at sends
      · cases sends
      · split at sends <;> cases sends

theorem allSteps_watched {host : CtxHost} (own : fan.runId = host.runId)
    (turn : view.writer = .turn) : SlotWatched runId seq anyView (host.allSteps fan) view := by
  unfold CtxHost.allSteps
  dsimp only
  split
  · trivial
  · split
    · trivial
    · split
      · trivial
      · refine Program.meets_perform trivial fun stored placed => ?_
        refine Program.meets_perform trivial fun now _ => ?_
        refine Program.meets_perform trivial fun refusal _ => ?_
        have unseen : Unseen runId seq fan (fun index => stored (fan.firstSeq + index))
            (view.after runId seq (.replayCheckpoints host.runId) stored) := by
          refine ⟨(view.after_writer runId seq _ stored).trans turn, fun index absent member => ?_⟩
          obtain ⟨here, there⟩ := Prod.mk.inj member
          have read : (view.after runId seq (.replayCheckpoints host.runId) stored).seen =
              stored seq := congrArg StepView.seen (if_pos (own.symm.trans here))
          exact read.trans (there ▸ absent)
        refine Program.meets_bind (surveySteps_watched _ _ unseen (by simp)) fun after result ended => ?_
        obtain ⟨kept, found⟩ := ended
        cases result with
        | error stopped =>
          obtain ⟨index, ended⟩ := stopped
          refine concludeSteps_watched index fun member sends => ?_
          exact absurd sends (by simp [show ended.sent = [] from found])
        | ok tally =>
          refine concludeSteps_watched _ fun member sends here => ?_
          have absent := found member (conclude_sent sends)
          intro held seen
          cases (kept.2 member absent here).symm.trans seen

end Fan

section Command

variable {policy : RemotePolicy} {id : String} {position : Nat} {view : StepView}

theorem saveOnce_watched (unsettled : view.Unsettled) (row : StepCheckpoint)
    {rest : Unit → Engine α} (elsewhere : ∀ answer, (rest answer).Uses (Elsewhere runId seq)) :
    SlotWatched runId seq anyView (saveCheckpoint row >>= rest) view :=
  Program.meets_perform (fun _ => unsettled.mayWrite row) fun answer _ =>
    watched_of_elsewhere (elsewhere answer) _

theorem leaseWake_elsewhere (lease : Nat) :
    (policy.leaseWake lease).Uses (Elsewhere runId seq) :=
  ⟨trivial, fun _ => trivial⟩

theorem redriveLostCall_watched (row : StepCheckpoint)
    (may : row.status = .pending → (row.runId, row.seq) = (runId, seq) → view.Unsettled) :
    SlotWatched runId seq anyView (redriveLostCall policy row) view := by
  unfold redriveLostCall
  split
  · trivial
  · rename_i dispatched
    have pending : row.status = .pending :=
      not_not.mp fun other => dispatched (.inr other)
    split
    · trivial
    · refine Program.meets_perform trivial fun now _ => ?_
      split
      · refine Program.meets_perform (fun own => (may pending own).mayWrite _) fun _ _ => ?_
        exact watched_of_elsewhere (leaseWake_elsewhere _) _
      · split
        · exact watched_of_elsewhere (leaseWake_elsewhere _) _
        · split
          · refine Program.meets_perform (fun own => (may pending own).mayWrite _) fun _ _ => ?_
            exact Program.meets_perform trivial fun _ _ => trivial
          · refine Program.meets_perform trivial fun later _ => ?_
            refine Program.meets_perform (fun own => (may pending own).mayWrite _) fun _ _ => ?_
            refine Program.meets_perform trivial fun _ _ => ?_
            exact watched_of_elsewhere (leaseWake_elsewhere _) _

theorem applyCall_watched (redriveLost : Bool) (name : String) (input : Option Value)
    (group : Option String) :
    SlotWatched runId seq anyView (applyCall policy id redriveLost position name input group) view := by
  refine Program.meets_perform trivial fun existing placed => ?_
  cases existing with
  | some row =>
    obtain ⟨here, there⟩ := Prod.mk.inj (placed row rfl)
    cases redriveLost with
    | false => trivial
    | true =>
      refine redriveLostCall_watched row fun pending own => ?_
      exact here ▸ there ▸ unsettled_after_get pending own
  | none =>
    refine Program.meets_perform trivial fun now _ => Program.meets_perform (fun own => ?_) fun _ _ => ?_
    · -- The step has been looked for, and has no row.
      refine StepView.Unsettled.mayWrite (fun held seen => ?_) _
      cases (congrArg StepView.seen (if_pos own) : _ = (none : Option StepCheckpoint)).symm.trans seen
    · refine Program.meets_perform trivial fun _ _ => ?_
      split
      · trivial
      · exact watched_of_elsewhere (leaseWake_elsewhere _) _

theorem applyWaitSignal_watched (signal : String) (unsettled : view.Unsettled) :
    SlotWatched runId seq anyView (applyWaitSignal id position signal) view := by
  have delivered : ∀ payload, SlotWatched runId seq anyView
      (deliverBuffered id position signal payload) view := fun payload =>
    saveOnce_watched unsettled _ fun _ => ⟨trivial, fun _ => trivial⟩
  refine Program.meets_perform trivial fun taken _ => ?_
  cases taken with
  | some payload => exact delivered payload
  | none =>
    refine Program.meets_perform trivial fun _ _ => Program.meets_perform trivial fun again _ => ?_
    cases again with
    | none => trivial
    | some payload => exact Program.meets_perform trivial fun _ _ => delivered payload

theorem applyStartChild_watched (group : Option String) (unsettled : view.Unsettled) :
    SlotWatched runId seq anyView (applyStartChild id position group) view := by
  have delivered : ∀ payload, SlotWatched runId seq anyView (deliverChild id position group payload)
      view := fun payload =>
    Program.meets_perform trivial fun _ _ =>
      saveOnce_watched unsettled _ fun _ => ⟨trivial, fun _ => trivial⟩
  have marked : ∀ child, (markChildDelivered child).Uses (Apart runId seq) := by
    intro child
    unfold markChildDelivered
    split
    · trivial
    · exact ⟨⟨trivial, fun _ _ => rfl⟩, fun _ => trivial⟩
  refine Program.meets_perform trivial fun _ _ => Program.meets_perform trivial fun taken _ => ?_
  cases taken with
  | some payload => exact delivered payload
  | none =>
    refine Program.meets_perform trivial fun child _ => ?_
    cases child with
    | none => exact ⟨trivial, fun _ _ => trivial⟩
    | some child =>
      dsimp only
      split
      · exact watched_after (marked child) fun _ => delivered _
      · trivial

theorem applyCommand_watched (redriveLost : Bool) (command : Worker.WorkflowCommand)
    (unsettled : view.Unsettled) :
    SlotWatched runId seq anyView (applyCommand policy id redriveLost command) view := by
  cases command with
  | recordStep position name result startedAt finishedAt =>
    exact saveOnce_watched unsettled _ fun _ => trivial
  | call position name group input parallelGroup =>
    exact applyCall_watched redriveLost name input parallelGroup
  | sleep position ms =>
    exact Program.meets_perform trivial fun now _ => saveOnce_watched unsettled _ fun _ => trivial
  | waitSignal position signal =>
    exact Program.meets_bind (applyWaitSignal_watched signal unsettled) fun _ _ _ => trivial
  | startChild position workflow input group =>
    exact Program.meets_bind (applyStartChild_watched group unsettled) fun _ _ _ => trivial

end Command

theorem stepPath_watched {writer : StepWriter} {path : Engine Unit}
    (writes : StepPath runId seq writer path) :
    SlotWatched runId seq anyView path { writer } := by
  have unsettled : StepView.Unsettled { writer } := fun held seen => by cases seen
  cases writes with
  | result support queuedIn result => exact completeOneRemoteResult_watched support queuedIn result _
  | results support queuedIn id results =>
    exact completeRemoteResults_watched support queuedIn id results _
  | step host placed step input current =>
    exact Program.meets_bind (step_watched placed rfl) fun _ _ _ => trivial
  | fan host fan own => exact Program.meets_bind (allSteps_watched own rfl) fun _ _ _ => trivial
  | command policy id redriveLost command =>
    exact Program.meets_bind (applyCommand_watched redriveLost command unsettled)
      fun _ _ _ => trivial
  | redispatch id => exact redispatchPending_watched id _
  | heartbeat support window id position => exact renewStepLease_watched support window id position _
  | requeue others apart id => exact requeueCheckpoints_watched apart id rfl
  | foreign path elsewhere => exact watched_of_elsewhere elsewhere _

end Paths

section Runs

variable {runId : String} {seq : Nat} {start config next : StepConfig} {move : Move Nat}
  {held row : StepCheckpoint} {view : StepView}

/-- The condition on runs: paths write over a settled step only what they have seen settled. -/
abbrev Aware (runId : String) (seq : Nat) : StepConfig → Move Nat → Prop :=
  (awareWrites runId seq).permits (stepWatch runId seq)

theorem StepCheckpoint.sameOutcome.trans {first second third : StepCheckpoint}
    (one : first.sameOutcome second) (two : second.sameOutcome third) :
    first.sameOutcome third :=
  ⟨one.1.trans two.1, one.2.1.trans two.2.1, one.2.2.trans two.2.2⟩

theorem StepView.Knows.completed (knows : view.Knows held) (completed : held.status = .completed)
    (may : view.mayWrite row) : row.sameOutcome held := by
  obtain ⟨⟨seen, here, same⟩, clean⟩ := knows
  unfold StepView.mayWrite at may
  rw [Option.mem_def.mp here] at may
  dsimp only at may
  rw [same.1.trans completed] at may
  exact ⟨may.1.trans completed.symm, may.2.1.trans same.2.1, may.2.2.trans (clean completed).symm⟩

theorem StepView.Knows.failed (knows : view.Knows held) (failed : held.status = .failed)
    (may : view.mayWrite row) :
    row.sameOutcome held ∨ view.writer = .turn ∧ row.status = .pending ∨ view.writer = .requeue := by
  obtain ⟨⟨seen, here, same⟩, -⟩ := knows
  unfold StepView.mayWrite at may
  rw [Option.mem_def.mp here] at may
  dsimp only at may
  rw [same.1.trans failed] at may
  exact may.imp_left fun kept => kept.trans same

theorem watched_of_reaches (keyed : start.shared.Keyed)
    (following : ∀ process ∈ start.pool, process.Follows (stepWatch runId seq) anyView)
    (reached : (stepPaths runId seq).Reaches (Aware runId seq) start config) :
    config.shared.Keyed ∧
      ∀ process ∈ config.pool, process.Follows (stepWatch runId seq) anyView := by
  refine processes_invariant anyView (fun store _ => store.Keyed) (fun _ _ _ _ keyed => keyed)
    (fun store phase others op keyed _ _ => ⟨exec_fitsRows keyed op, keyed.exec op⟩)
    (fun store process others left keyed _ stopped _ => ⟨?_, keyed⟩)
    ?_ following keyed reached
  case refine_2 => exact fun store every passed keyed => keyed
  -- A path that has stopped does nothing more.
  cases stopped
  exact ⟨anyView, fun _ _ ended => ended, trivial, by simp⟩

theorem settled_move (following : ∀ process ∈ config.pool,
      process.Follows (stepWatch runId seq) anyView)
    (found : config.shared.checkpoints.get (runId, seq) = some held) (settled : held.isSettled)
    (permitted : Aware runId seq config move)
    (fired : (stepPaths runId seq).fire config move = some next) :
    next.shared.checkpoints.get (runId, seq) = some held ∨
      ∃ index process row, move = .step index ∧ config.pool[index]? = some process ∧
        process.phase.mayWrite row ∧ process.phase.Knows held ∧
          next.shared.checkpoints.get (runId, seq) = some row := by
  rcases System.fire_cases fired with
    ⟨index, process, op, rest, rfl, located, viewed, rfl⟩ |
      ⟨index, process, left, rfl, located, stopped, rfl⟩ | ⟨passed, rfl, rfl⟩
  · have own := (following process (List.mem_of_getElem? located)).step viewed
    have unpending : held.status ≠ .pending := by
      intro pending
      exact held.not_isSettled pending settled
    have apart : ∀ entries, op = .registerChildWaits entries → ∀ entry ∈ entries,
        (entry.checkpoint.runId, entry.checkpoint.seq) ≠ (runId, seq) := by
      rintro entries rfl
      exact own.1
    rcases Store.exec_settled found unpending op apart with kept | ⟨row, rfl, here, written⟩
    · exact .inl kept
    · refine .inr ⟨index, process, row, rfl, located, own.1 here, ?_, written⟩
      exact permitted process _ rest located viewed row rfl here held found settled
  · exact .inl found
  · exact .inl found

/--
A settled step stays settled along every run in which paths write over it only knowingly.

A path may write blindly over a settled step only where it has seen the settlement itself.
-/
theorem settled_step_stays {store : Store} {paths : List (StepWriter × Engine Unit)}
    (keyed : store.Keyed) (writes : ∀ path ∈ paths, StepPath runId seq path.1 path.2) :
    SettlementsLast runId seq (Aware runId seq) ⟨store, stepPool paths⟩ := by
  have following : ∀ process ∈ stepPool paths,
      process.Follows (stepWatch runId seq) anyView := by
    intro process member
    obtain ⟨path, listed, rfl⟩ := List.mem_map.mp member
    exact Process.follows_once (stepPath_watched (writes path listed))
  constructor
  · intro config held final reached found completed later
    -- Each move keeps the row, or writes a row of the same outcome over it.
    induction later with
    | refl => exact ⟨held, found, rfl, rfl, rfl⟩
    | move before permitted fired ih =>
      obtain ⟨row, here, same⟩ := ih
      have still : row.status = .completed := same.1.trans completed
      have along := (watched_of_reaches keyed following (reached.trans before)).2
      rcases settled_move along here (.inl still) permitted fired with
        kept | ⟨index, process, other, -, -, may, knows, written⟩
      · exact ⟨row, kept, same⟩
      · exact ⟨other, written, (knows.completed still may).trans same⟩
  · intro config held move next reached found failed permitted fired
    have along := (watched_of_reaches keyed following reached).2
    rcases settled_move along found (.inr failed) permitted fired with
      kept | ⟨index, process, row, rfl, located, may, knows, written⟩
    · exact ⟨held, kept, .inl ⟨rfl, rfl, rfl⟩⟩
    · refine ⟨row, written, (knows.failed failed may).imp_right fun retried => ?_⟩
      exact ⟨index, process, rfl, located, retried⟩

end Runs

def pendingStep : Store :=
  ({ runs := .set .empty "r" { id := "r", workflow := "w", status := .suspended } } : Store).setCheckpoint
    { runId := "r", seq := 0, name := "pay", kind := .remote, status := .pending }

theorem pendingStep_keyed : pendingStep.Keyed :=
  Store.Keyed.setCheckpoint (fun _ _ found => by cases found) _

/-- The step's result, and an operator who puts the run's pending steps on the transport again. -/
def resultAndRedispatch : List (StepWriter × Engine Unit) :=
  [(.other, completeOneRemoteResult {} (fun _ _ => false)
      { runId := "r", seq := 0, status := .completed, output := some (.num 1) }),
    (.other, redispatchPending "r")]

theorem resultAndRedispatch_paths :
    ∀ path ∈ resultAndRedispatch, StepPath "r" 0 path.1 path.2 := by
  simp only [resultAndRedispatch, List.forall_mem_cons]
  exact ⟨.result _ _ _, .redispatch "r", by simp⟩

/-- The moves that settle the step. -/
def settling : List (Move Nat) := [.step 0, .step 0, .step 0]

theorem settling_runs :
    ((stepPaths "r" 0).run ⟨pendingStep, stepPool resultAndRedispatch⟩ settling).isSome := by
  decide +kernel

def settledStep : StepConfig :=
  ((stepPaths "r" 0).run ⟨pendingStep, stepPool resultAndRedispatch⟩ settling).get settling_runs

theorem redispatch_after_settling_runs :
    ((stepPaths "r" 0).run settledStep [.drift 5, .step 1, .step 1]).isSome := by
  decide +kernel

/-- A step that is settled before the operator looks keeps its result. -/
theorem settled_step_stays_redispatched :
    ∃ held row, settledStep.shared.checkpoints.get ("r", 0) = some held ∧
      held.status = .completed ∧ (((stepPaths "r" 0).run settledStep
        [.drift 5, .step 1, .step 1]).get redispatch_after_settling_runs).shared.checkpoints.get
          ("r", 0) = some row ∧ row.sameOutcome held := by
  have stays := settled_step_stays pendingStep_keyed resultAndRedispatch_paths
  obtain ⟨held, found⟩ : ∃ held, settledStep.shared.checkpoints.get ("r", 0) = some held :=
    Option.isSome_iff_exists.mp (by decide +kernel)
  have completed : held.status = .completed := by
    have shown : (settledStep.shared.checkpoints.get ("r", 0)).map StepCheckpoint.status =
        some .completed := by decide +kernel
    simpa [found] using shown
  obtain ⟨row, kept, same⟩ := stays.completed settledStep held _
    ((awareWrites "r" 0).reaches_get settling settling_runs (by decide +kernel)) found completed
    ((awareWrites "r" 0).reaches_get _ redispatch_after_settling_runs (by decide +kernel))
  exact ⟨held, row, found, completed, kept, same⟩

/-- The operator lists the pending step, and the step is settled then. -/
def listedBefore : List (Move Nat) := [.step 1, .step 1, .step 0, .step 0, .step 0]

theorem listedBefore_runs :
    ((stepPaths "r" 0).run ⟨pendingStep, stepPool resultAndRedispatch⟩ listedBefore).isSome := by
  decide +kernel

/-- The step is settled, and the operator holds the row from before. -/
def staleRow : StepConfig :=
  ((stepPaths "r" 0).run ⟨pendingStep, stepPool resultAndRedispatch⟩ listedBefore).get
    listedBefore_runs

theorem staleRow_runs : ((stepPaths "r" 0).run staleRow [.step 1]).isSome := by
  decide +kernel

/-- A redispatch that has read the step pending puts it back over its result. -/
theorem stale_redispatch_unsettles :
    ¬ ∀ (runId : String) (seq : Nat) (store : Store) (paths : List (StepWriter × Engine Unit)),
      store.Keyed → (∀ path ∈ paths, StepPath runId seq path.1 path.2) →
        SettlementsLast runId seq System.anyMove ⟨store, stepPool paths⟩ := by
  intro claimed
  have stays := claimed "r" 0 pendingStep resultAndRedispatch pendingStep_keyed
    resultAndRedispatch_paths
  obtain ⟨held, found⟩ : ∃ held, staleRow.shared.checkpoints.get ("r", 0) = some held :=
    Option.isSome_iff_exists.mp (by decide +kernel)
  have completed : held.status = .completed := by
    have shown : (staleRow.shared.checkpoints.get ("r", 0)).map StepCheckpoint.status =
        some .completed := by decide +kernel
    simpa [found] using shown
  obtain ⟨row, kept, same⟩ := stays.completed staleRow held _
    (System.reaches_get listedBefore listedBefore_runs) found completed
    (System.reaches_get _ staleRow_runs)
  -- The row the operator has written is pending again.
  have pending : ((((stepPaths "r" 0).run staleRow [.step 1]).get
      staleRow_runs).shared.checkpoints.get ("r", 0)).map StepCheckpoint.status =
        some .pending := by decide +kernel
  rw [kept, Option.map_some, same.1, completed] at pending
  cases pending

end Durable
