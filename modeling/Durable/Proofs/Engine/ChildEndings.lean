import Durable.Engine.ChildEndings
import Durable.Proofs.Store.Operations

/-! When every ending of a child reaches the parent that waits for it, once and as it is stored. -/

namespace Durable

open Engine
open Interleaving

namespace ChildSite

variable {site : ChildSite} {patch : RunPatch} {completion : Completion} {phase : EndingPhase}
  {every : List EndingPhase}

section Patches

variable {run : WorkflowRun}

theorem patchCompletion_withLifecycleMarker (marker : Option String) (run : WorkflowRun)
    (patch : RunPatch) :
    patchCompletion (withLifecycleMarker marker run patch) = patchCompletion patch := by
  cases marker <;> rfl

theorem settlesTerminally_withLifecycleMarker (marker : Option String) (run : WorkflowRun)
    (patch : RunPatch) :
    settlesTerminally (withLifecycleMarker marker run patch) = settlesTerminally patch := by
  cases marker <;> rfl

theorem patchCompletion_eq_none (goesOn : settlesTerminally patch = false) :
    patchCompletion patch = none := by
  unfold settlesTerminally at goesOn
  unfold patchCompletion
  cases written : patch.status with
  | none => rfl
  | some status =>
    rw [written] at goesOn
    cases status <;> first | rfl | cases goesOn

theorem endingOf_patched (ends : patchCompletion patch = some completion) :
    endingOf (run.patched patch) = some completion := by
  unfold patchCompletion at ends
  cases status : patch.status with
  | none => simp [status] at ends
  | some status' =>
    -- A completion comes from the output of a completed run, and from the error of any other.
    cases status' <;> simp only [status] at ends
    case completed =>
      obtain ⟨output, written, rfl⟩ := Option.map_eq_some_iff.mp ends
      simp [endingOf, endCompletion, WorkflowRun.patched, status, written, isTerminalStatus]
    case failed | cancelled | dead =>
      obtain ⟨error, written, rfl⟩ := Option.map_eq_some_iff.mp ends
      have stored : patch.error = some (some error) := by
        cases found : patch.error with
        | none => simp [found] at written
        | some held => simpa [found] using written
      simp [endingOf, endCompletion, WorkflowRun.patched, status, stored, isTerminalStatus]
    all_goals simp at ends

theorem open_patched (opened : isTerminalStatus run.status = false)
    (goesOn : settlesTerminally patch = false) :
    isTerminalStatus (run.patched patch).status = false := by
  unfold settlesTerminally at goesOn
  cases status : patch.status with
  | none => simpa [WorkflowRun.patched, status] using opened
  | some status' => simpa [WorkflowRun.patched, status] using goesOn

end Patches

section Programs

variable {α : Type} {rest : Bool → Engine Unit}

theorem advance_elsewhere {op : StoreOp} (elsewhere : site.Elsewhere op)
    (aside : phase = .idle ∨ phase = .silent ∨ phase = .spare) (answer : op.Answer) :
    site.advance phase op answer = phase := by
  rcases aside with rfl | rfl | rfl
  · have nothing : (site.writtenBy op answer).bind patchCompletion = none := by
      cases op with
      | updateRun runId patch =>
        cases answer with
        | false => rfl
        | true =>
          by_cases own : runId = site.childId
          · simp [writtenBy, own, patchCompletion_eq_none (elsewhere own)]
          · simp [writtenBy, own]
      | updateRunIf runId expected patch =>
        cases answer with
        | false => rfl
        | true =>
          by_cases own : runId = site.childId
          · simp [writtenBy, own, patchCompletion_eq_none (elsewhere own)]
          · simp [writtenBy, own]
      | _ => rfl
    simp [advance, nothing]
  · cases op <;> rfl
  · cases op <;> rfl

theorem Piece.meets {work : Engine α} (piece : site.Piece work)
    (aside : phase = .idle ∨ phase = .silent ∨ phase = .spare) :
    work.Meets site.monitor (fun after _ => after = phase) phase := by
  refine Program.Uses.meets piece (fun op elsewhere => ?_) fun op answer elsewhere =>
    advance_elsewhere elsewhere aside answer
  rcases aside with rfl | rfl | rfl
  · exact .inl elsewhere
  · exact .inl elsewhere
  · exact .inl elsewhere

theorem echoCurrentStatus_piece (runId : String) : site.Piece (echoCurrentStatus runId) := by
  refine Program.uses_perform trivial fun stored => ?_
  cases stored <;> trivial

theorem settleSuspended_piece (settings : TurnSettings) (run : WorkflowRun)
    (wakeAt : Option Nat) : site.Piece (settleSuspended settings run wakeAt) := by
  refine Program.uses_perform trivial fun now => ?_
  refine Program.uses_perform (fun _ => rfl) fun applied => ?_
  cases applied with
  | true => trivial
  | false => exact echoCurrentStatus_piece run.id

theorem rested_of_aside (aside : phase = .idle ∨ phase = .silent ∨ phase = .spare) :
    site.Rested phase () := by
  rcases aside with rfl | rfl | rfl <;> trivial

theorem Piece.rests {work : Engine Unit} (piece : site.Piece work)
    (aside : phase = .idle ∨ phase = .silent ∨ phase = .spare) :
    work.Meets site.monitor site.Rested phase := by
  refine (Piece.meets piece aside).weaken fun after result same => ?_
  rw [same]
  exact rested_of_aside aside

theorem Piece.discard {work : Engine α} (piece : site.Piece work) : site.Piece (discard work) :=
  Program.uses_bind piece fun _ => trivial

theorem signalCompletion_meets (completion : Completion) :
    (signalCompletion site completion).Meets site.monitor site.Rested .spare := by
  refine ⟨.inr rfl, fun taken absent => ?_⟩
  obtain rfl : taken = none := absent rfl
  refine ⟨.inl trivial, fun _ _ => ⟨.inr rfl, fun late none_ => ?_⟩⟩
  obtain rfl : late = none := none_ rfl
  refine ⟨.inl trivial, fun stored _ => ?_⟩
  show Program.Meets _ _ (if _ then _ else _) _
  split
  · exact ⟨.inl trivial, fun _ _ => trivial⟩
  · trivial

theorem deliverToParent_meets {needsBuffer : Engine Bool} (looks : site.Piece needsBuffer)
    (completion : Completion) :
    (deliverToParent site needsBuffer completion).Meets site.monitor site.Rested
      (.owes completion) := by
  refine ⟨rfl, fun taken fits => ?_⟩
  rcases fits with rfl | rfl
  · -- Another process has taken the waiter, and what follows leaves the parent's wait alone.
    refine ⟨.inl trivial, fun stored _ => ?_⟩
    show Program.Meets _ _ (if _ then _ else _) _
    split
    · trivial
    · refine Program.meets_bind (Piece.meets looks (.inr (.inr rfl))) ?_
      rintro phase needs rfl
      split
      · exact signalCompletion_meets completion
      · trivial
  · -- The wait is completed, and its run woken unless the fan's barrier holds.
    refine ⟨rfl, fun _ _ => ?_⟩
    show Program.Meets _ _ (if _ then _ else _) _
    split
    · assumption
    · rename_i last
      have last : site.siblingsOut = false := by simpa using last
      exact ⟨⟨rfl, last⟩, fun _ _ => last⟩

theorem tellParent_meets {needsBuffer : Engine Bool} (looks : site.Piece needsBuffer)
    (completion : Completion) {applied : Bool}
    (told : phase = if applied then .owes completion else .idle) :
    (tellParent site needsBuffer completion applied).Meets site.monitor site.Rested phase := by
  subst told
  cases applied with
  | true => exact deliverToParent_meets looks completion
  | false => exact Piece.rests (echoCurrentStatus_piece _).discard (.inl rfl)

theorem endIf_meets {expected : List RunStatus} (ends : patchCompletion patch = some completion)
    (told : ∀ applied, (rest applied).Meets site.monitor site.Rested
      (if applied then .owes completion else .idle)) :
    (updateRunIf site.childId expected patch >>= rest).Meets site.monitor site.Rested .idle := by
  refine Program.meets_perform (.inr ?_) fun applied _ => ?_
  · simp [patchOf, ends]
  · have rested := told applied
    cases applied with
    | true => simpa [monitor, advance, writtenBy, ends] using rested
    | false => exact rested

theorem end_meets (ends : patchCompletion patch = some completion)
    (told : ∀ applied, (rest applied).Meets site.monitor site.Rested
      (if applied then .owes completion else .idle)) :
    (updateRun site.childId patch >>= rest).Meets site.monitor site.Rested .idle := by
  refine Program.meets_perform (.inr ?_) fun applied _ => ?_
  · simp [patchOf, ends]
  · have rested := told applied
    cases applied with
    | true => simpa [monitor, advance, writtenBy, ends] using rested
    | false => exact rested

section Paths

variable {needsBuffer : Engine Bool} (looks : site.Piece needsBuffer) (settings : TurnSettings)
  (run : WorkflowRun)

include looks

theorem completeChild_meets (output : Option Value) :
    (completeChild site needsBuffer settings run output).Meets site.monitor site.Rested .idle :=
  endIf_meets ((patchCompletion_withLifecycleMarker _ _ _).trans rfl) fun _ =>
    tellParent_meets looks _ rfl

theorem failChild_meets (error : StepError) :
    (failChild site needsBuffer settings run error).Meets site.monitor site.Rested .idle :=
  endIf_meets ((patchCompletion_withLifecycleMarker _ _ _).trans rfl) fun _ =>
    tellParent_meets looks _ rfl

theorem settleChildRun_meets {routeFailure : StepError → Engine (Option RunOutcome)}
    (routes : ∀ error, site.Piece (routeFailure error)) (outcome : RunOutcome) :
    (settleChildRun site needsBuffer settings run routeFailure outcome).Meets site.monitor
      site.Rested .idle := by
  have parks : ∀ wakeAt, (discard (settleSuspended settings { run with id := site.childId }
      wakeAt) : Engine Unit).Meets site.monitor site.Rested .idle := fun wakeAt =>
    Piece.rests (settleSuspended_piece settings _ wakeAt).discard (.inl rfl)
  unfold settleChildRun
  split
  · exact Piece.rests (echoCurrentStatus_piece _).discard (.inl rfl)
  · cases outcome with
    | completed output => exact completeChild_meets looks settings run output
    | suspended wakeAt => exact parks wakeAt
    | failed error =>
      -- The route of the failure may answer with any outcome.
      refine Program.meets_bind (Piece.meets (routes error) (.inl rfl)) ?_
      rintro phase routed rfl
      cases routed with
      | none => exact failChild_meets looks settings run error
      | some handled =>
        cases handled with
        | completed output => exact completeChild_meets looks settings run output
        | suspended wakeAt => exact parks wakeAt
        | failed handed => exact failChild_meets looks settings run handed

theorem cancelAndTell_meets :
    (cancelAndTell site needsBuffer settings run).Meets site.monitor site.Rested .idle :=
  end_meets ((patchCompletion_withLifecycleMarker _ _ _).trans rfl) fun _ =>
    tellParent_meets looks _ rfl

theorem cancelChild_meets :
    (cancelChild site needsBuffer settings).Meets site.monitor site.Rested .idle := by
  refine Program.meets_perform (.inl trivial) fun stored _ => ?_
  have aside : site.monitor.advance .idle (.getRun site.childId) stored = .idle := rfl
  rw [aside]
  cases stored with
  | none => trivial
  | some held =>
    show Program.Meets _ _ (if _ then _ else _) _
    split
    · trivial
    · exact cancelAndTell_meets looks settings held

theorem compensateChild_meets {compensations : Engine Unit}
    (compensates : site.Piece compensations) :
    (compensateChild site needsBuffer settings run compensations).Meets site.monitor site.Rested
      .idle := by
  unfold compensateChild
  split
  · exact Piece.rests (echoCurrentStatus_piece _).discard (.inl rfl)
  · refine Program.meets_bind (Piece.meets compensates (.inl rfl)) ?_
    rintro phase _ rfl
    exact cancelAndTell_meets looks settings run

theorem continueChild_meets {startContinuation : Engine Unit}
    (continues : site.Piece startContinuation) :
    (continueChild site needsBuffer startContinuation).Meets site.monitor site.Rested .idle := by
  refine Program.meets_bind (Piece.meets continues (.inl rfl)) ?_
  rintro phase _ rfl
  have ends : patchCompletion { status := some .completed, output := some none,
                                error := some none } = some (.ok none) := rfl
  exact end_meets ends fun applied => tellParent_meets looks _ rfl

theorem deadLetterChild_meets (source : List RunStatus) (error : StepError) :
    (deadLetterChild site needsBuffer settings run source error).Meets site.monitor site.Rested
      .idle := by
  refine endIf_meets ((patchCompletion_withLifecycleMarker _ _ _).trans rfl) fun applied => ?_
  cases applied with
  | true => exact deliverToParent_meets looks _
  | false => trivial

end Paths

theorem sweepChild_meets (needsBuffer : Engine Bool) (settings : TurnSettings)
    (run : WorkflowRun) :
    (sweepChild site needsBuffer settings run).Meets site.monitor site.Rested .silent := by
  refine Program.meets_perform (.inr ⟨_, if_pos rfl, ?_⟩) fun applied guarded => ?_
  · exact settlesTerminally_withLifecycleMarker _ _ _
  · -- A run that the sweep may cancel is open, so a write that applies would have ended it.
    have unapplied : applied = false :=
      guarded rfl (settlesTerminally_withLifecycleMarker _ _ _) (by decide)
    subst unapplied
    trivial

theorem failRemoteChild_meets (settings : TurnSettings) (run : WorkflowRun) (error : StepError) :
    (failRemoteChild site settings run error).Meets site.monitor site.Rested .silent :=
  Program.meets_perform
    (.inr ⟨_, if_pos rfl, settlesTerminally_withLifecycleMarker _ _ _⟩) fun _ _ => trivial

theorem failUndispatchedChild_meets (settings : TurnSettings) (run : WorkflowRun)
    (taskId : String) (error : StepError) :
    (failUndispatchedChild site settings run taskId error).Meets site.monitor site.Rested
      .silent := by
  have echoes : (echoCurrentStatus site.childId).Meets site.monitor
      (fun after _ => after = .silent) .silent :=
    Piece.meets (echoCurrentStatus_piece _) (.inr (.inl rfl))
  -- The write is one that ends the child, and silently so.
  have stays : (failUndispatchedTurn settings { run with id := site.childId } taskId error).Meets
      site.monitor (fun after _ => after = .silent) .silent := by
    refine Program.meets_perform (.inl trivial) fun current _ => ?_
    split
    · refine Program.meets_perform
        (.inr ⟨_, if_pos rfl, settlesTerminally_withLifecycleMarker _ _ _⟩) fun applied _ => ?_
      cases applied with
      | true => rfl
      | false => exact echoes
    · exact echoes
  refine Program.meets_bind stays ?_
  rintro phase _ rfl
  trivial

theorem applyCancelledDecision_meets {applyCommands : Engine Unit}
    (applies : site.Piece applyCommands) :
    (applyCancelledDecision site applyCommands).Meets site.monitor site.Rested .silent := by
  refine Program.meets_bind (Piece.meets applies (.inr (.inl rfl))) ?_
  rintro phase _ rfl
  exact Program.meets_perform (.inr ⟨_, if_pos rfl, rfl⟩) fun _ _ => trivial

theorem Path.follows {tells : Bool} {program : Engine Unit} (path : site.Path tells program) :
    (process tells program).Follows site.monitor site.Rested := by
  refine Process.follows_once ?_
  cases path with
  | settleRun looks routes settings run outcome =>
    exact settleChildRun_meets looks settings run routes outcome
  | cancel looks settings => exact cancelChild_meets looks settings
  | compensateAndCancel looks compensates settings run =>
    exact compensateChild_meets looks settings run compensates
  | continueAsNew looks continues => exact continueChild_meets looks continues
  | deadLetterLeased looks settings run source error =>
    exact deadLetterChild_meets looks settings run source error
  | sweepTimeouts looks settings run => exact sweepChild_meets _ settings run
  | remoteTurn settings run error => exact failRemoteChild_meets settings run error
  | undispatchedTurn settings run taskId error =>
    exact failUndispatchedChild_meets settings run taskId error
  | cancelledDecision applies => exact applyCancelledDecision_meets applies
  | beside uses => exact Piece.rests uses (.inl rfl)

end Programs

section Frames

variable {store : Store} {run : WorkflowRun} {op : StoreOp}

/-- The child's row changes by the patch that is applied to it alone. -/
theorem exec_run (stored : store.runs.get site.childId = some run) (op : StoreOp) :
    (store.exec op).1.runs.get site.childId =
      some (((site.appliedPatch store op).map run.patched).getD run) := by
  cases op with
  | updateRun runId patch =>
    by_cases own : runId = site.childId
    · simp [Store.exec, appliedPatch, own, stored]
    · simp only [Store.exec, appliedPatch, if_neg own]
      split
      · exact stored
      · exact (Table.get_set_ne _ _ own).trans stored
  | updateRunIf runId expected patch =>
    by_cases own : runId = site.childId
    · by_cases eligible : run.status ∈ expected
      · simp [Store.exec, appliedPatch, own, stored, eligible]
      · simp [Store.exec, appliedPatch, own, stored, eligible]
    · simp only [Store.exec, appliedPatch, own, false_and, if_false]
      split
      · exact stored
      · split
        · exact (Table.get_set_ne _ _ own).trans stored
        · exact stored
  | createRun row =>
    simp only [Store.exec, appliedPatch]
    cases found : store.runs.get row.id with
    | some held => exact stored
    | none =>
      -- The child's id is taken.
      have apart : row.id ≠ site.childId := by
        intro same
        rw [same, stored] at found
        cases found
      exact (Table.get_set_ne _ _ apart).trans stored
  | registerChildWaits entries =>
    obtain ⟨waiters, checkpoints, registered⟩ := store.exec_registerChildWaits_frame entries
    rw [registered]
    exact stored
  | settleCheckpointsIfPending settlements =>
    obtain ⟨checkpoints, settled⟩ := Store.settleEach_frame settlements store
    simp only [Store.exec, settled]
    exact stored
  | _ =>
    simp only [Store.exec, appliedPatch]
    first
    | exact stored
    | (split <;> first | exact stored | (split <;> exact stored))

theorem writtenBy_exec (stored : store.runs.get site.childId = some run) (op : StoreOp) :
    site.writtenBy op (store.exec op).2 = site.appliedPatch store op := by
  cases op with
  | updateRun runId patch =>
    by_cases own : runId = site.childId
    · simp [Store.exec, writtenBy, appliedPatch, own, stored]
    · simp only [Store.exec, appliedPatch, if_neg own]
      split <;> simp [writtenBy, own]
  | updateRunIf runId expected patch =>
    by_cases own : runId = site.childId
    · by_cases eligible : run.status ∈ expected
      · simp [Store.exec, writtenBy, appliedPatch, own, stored, eligible]
      · simp [Store.exec, writtenBy, appliedPatch, own, stored, eligible]
    · simp only [Store.exec, appliedPatch, own, false_and, if_false]
      split
      · rfl
      · split <;> simp [writtenBy, own]
  | _ => rfl

/-- An operation leaves the parent's wait alone; it may write the child. -/
def LeavesWait (site : ChildSite) (op : StoreOp) : Prop :=
  site.Elsewhere op ∨ (site.patchOf op).isSome = true

theorem LeavesWait.elsewhere (leaves : site.LeavesWait op) (other : site.patchOf op = none) :
    site.Elsewhere op :=
  leaves.resolve_right (by simp [other])

theorem LeavesWait.exec_waiter (leaves : site.LeavesWait op) :
    (store.exec op).1.signalWaiters.get site.token = store.signalWaiters.get site.token := by
  cases op with
  | putSignalWaiter waiter =>
    have apart : waiter.token ≠ site.token := leaves.elsewhere rfl
    exact Table.get_set_ne _ _ apart
  | takeSignalWaiter token =>
    have apart : token ≠ site.token := leaves.elsewhere rfl
    simp only [Store.exec]
    split
    · rfl
    · exact Table.get_erase_ne _ apart
  | removeSignalWaiter waiter =>
    have apart : waiter.token ≠ site.token := leaves.elsewhere rfl
    simp only [Store.exec]
    split
    · rfl
    · split
      · exact Table.get_erase_ne _ apart
      · rfl
  | registerChildWaits entries =>
    have apart := leaves.elsewhere rfl
    exact store.exec_registerChildWaits_waiter fun entry member => (apart entry member).1
  | settleCheckpointsIfPending settlements =>
    obtain ⟨checkpoints, settled⟩ := Store.settleEach_frame settlements store
    simp only [Store.exec, settled]
  | createRun | updateRun | takeBufferedSignal | removeBufferedEvent | tryAdmit | releaseSlot
    | readCheckpoint =>
    simp only [Store.exec]
    split <;> rfl
  | updateRunIf | saveCheckpointIfPending | renewCheckpointLease =>
    simp only [Store.exec]
    split
    · rfl
    · split <;> rfl
  | _ => rfl

theorem LeavesWait.exec_checkpoint (leaves : site.LeavesWait op) :
    (store.exec op).1.checkpoints.get (site.parentId, site.seq) =
      store.checkpoints.get (site.parentId, site.seq) := by
  cases op with
  | saveCheckpoint row =>
    have apart : (row.runId, row.seq) ≠ (site.parentId, site.seq) := leaves.elsewhere rfl
    exact Table.get_set_ne _ _ apart
  | saveCheckpointIfPending row =>
    have apart : (row.runId, row.seq) ≠ (site.parentId, site.seq) := leaves.elsewhere rfl
    simp only [Store.exec]
    split
    · rfl
    · split
      · exact Table.get_set_ne _ _ apart
      · rfl
  | settleCheckpointsIfPending settlements =>
    have apart := leaves.elsewhere rfl
    exact Store.settleEach_get_ne settlements apart
  | renewCheckpointLease runId seq expected wakeAt =>
    have apart : (runId, seq) ≠ (site.parentId, site.seq) := leaves.elsewhere rfl
    simp only [Store.exec]
    split
    · rfl
    · split
      · exact Table.get_set_ne _ _ apart
      · rfl
  | registerChildWaits entries =>
    have apart := leaves.elsewhere rfl
    exact store.exec_registerChildWaits_get fun entry member => (apart entry member).2
  | createRun | updateRun | takeSignalWaiter | takeBufferedSignal | removeBufferedEvent | tryAdmit
    | releaseSlot | readCheckpoint =>
    simp only [Store.exec]
    split <;> rfl
  | updateRunIf | removeSignalWaiter =>
    simp only [Store.exec]
    split
    · rfl
    · split <;> rfl
  | _ => rfl

theorem LeavesWait.exec_counts (leaves : site.LeavesWait op) (board : ChildBoard) :
    (site.exec board op).1.completions = board.completions ∧
      (site.exec board op).1.woken = board.woken := by
  cases op with
  | saveCheckpoint row =>
    have apart : (row.runId, row.seq) ≠ (site.parentId, site.seq) := leaves.elsewhere rfl
    exact ⟨if_neg apart, rfl⟩
  | requestWake runId =>
    have apart : runId ≠ site.parentId := leaves.elsewhere rfl
    exact ⟨rfl, if_neg apart⟩
  | _ => exact ⟨rfl, rfl⟩

end Frames

/-- How the child has ended, as far as it is stored. -/
def ending (site : ChildSite) (store : Store) : Option (Option Completion) :=
  (store.runs.get site.childId).map endingOf

/-- A process carries a completion to the parent, having taken its waiter. -/
def Carries : EndingPhase → Bool
  | .holds _ | .recorded _ | .delivered _ => true
  | _ => false

/-- What has happened at the parent's wait, as far as its carrier has come with a completion. -/
def Carried (site : ChildSite) (board : ChildBoard) (completion : Completion) :
    EndingPhase → Prop
  | .holds held => held = completion ∧ board.completions = [] ∧ board.woken = 0
  | .recorded held => held = completion ∧
      board.completions = [site.completedWith completion] ∧
      board.store.checkpoints.get (site.parentId, site.seq) =
        some (site.completedWith completion) ∧ board.woken = 0
  | .delivered held => held = completion ∧
      board.completions = [site.completedWith completion] ∧
      board.store.checkpoints.get (site.parentId, site.seq) =
        some (site.completedWith completion) ∧ board.woken = 1
  | _ => False

/-- How far the child's ending has come on its way to the parent. -/
inductive Telling (site : ChildSite) (board : ChildBoard) (every : List EndingPhase) : Prop where
  | waiting (opened : site.ending board.store = some none)
      (waiter : board.store.signalWaiters.get site.token = some site.waiter)
      (untold : board.completions = [] ∧ board.woken = 0)
      (aside : ∀ phase ∈ every, phase = .idle ∨ phase = .silent)
  /-- The child has ended, and some process owes its ending to the parent, which waits. -/
  | owed {completion : Completion} (ended : site.ending board.store = some (some completion))
      (waiter : board.store.signalWaiters.get site.token = some site.waiter)
      (untold : board.completions = [] ∧ board.woken = 0)
      (owing : .owes completion ∈ every)
      (aside : ∀ phase ∈ every, phase = .idle ∨ phase = .silent ∨ phase = .owes completion)
  /-- The child has ended, and one process carries its ending to the parent. -/
  | carried {completion : Completion} {carrier : EndingPhase}
      (ended : site.ending board.store = some (some completion))
      (taken : board.store.signalWaiters.get site.token = none)
      (carries : site.Carried board completion carrier)
      (alone : every.filter Carries = [carrier])
      (aside : ∀ phase ∈ every, Carries phase = false →
        phase = .idle ∨ phase = .silent ∨ phase = .spare ∨ phase = .owes completion)

section Steps

variable {board : ChildBoard} {store : Store} {others : List EndingPhase} {op : StoreOp}
  {run : WorkflowRun}

theorem Telling.perm {before after : List EndingPhase} (same : before.Perm after)
    (telling : site.Telling board before) : site.Telling board after := by
  cases telling with
  | waiting opened waiter untold aside =>
    exact .waiting opened waiter untold fun phase member => aside phase (same.mem_iff.mpr member)
  | owed ended waiter untold owing aside =>
    exact .owed ended waiter untold (same.mem_iff.mp owing) fun phase member =>
      aside phase (same.mem_iff.mpr member)
  | carried ended taken carries alone aside =>
    have moved := same.filter Carries
    rw [alone] at moved
    exact .carried ended taken carries (List.perm_singleton.mp moved.symm) fun phase member =>
      aside phase (same.mem_iff.mpr member)

theorem Carried.leave (leaves : site.LeavesWait op) {carrier : EndingPhase}
    (carries : site.Carried board completion carrier) :
    site.Carried (site.exec board op).1 completion carrier := by
  obtain ⟨completions, woken⟩ := leaves.exec_counts board
  have checkpoint : (site.exec board op).1.store.checkpoints.get (site.parentId, site.seq) =
      board.store.checkpoints.get (site.parentId, site.seq) := leaves.exec_checkpoint
  cases carrier with
  | holds held => exact ⟨carries.1, completions.trans carries.2.1, woken.trans carries.2.2⟩
  | recorded held | delivered held =>
    obtain ⟨same, completed, stored, awake⟩ := carries
    exact ⟨same, completions.trans completed, checkpoint.trans stored, woken.trans awake⟩
  | _ => exact carries

theorem Telling.leave (telling : site.Telling board (phase :: others))
    (leaves : site.LeavesWait op)
    (same : site.ending (site.exec board op).1.store = site.ending board.store) :
    site.Telling (site.exec board op).1 (phase :: others) := by
  obtain ⟨completions, woken⟩ := leaves.exec_counts board
  have waiters : (site.exec board op).1.store.signalWaiters.get site.token =
      board.store.signalWaiters.get site.token := leaves.exec_waiter
  cases telling with
  | waiting opened waiter untold aside =>
    exact .waiting (same.trans opened) (waiters.trans waiter)
      ⟨completions.trans untold.1, woken.trans untold.2⟩ aside
  | owed ended waiter untold owing aside =>
    exact .owed (same.trans ended) (waiters.trans waiter)
      ⟨completions.trans untold.1, woken.trans untold.2⟩ owing aside
  | carried ended taken carries alone aside =>
    exact .carried (same.trans ended) (waiters.trans taken) (carries.leave leaves) alone aside

theorem Telling.finish (telling : site.Telling board (.idle :: others))
    (leaves : site.LeavesWait op)
    (ended : site.ending (site.exec board op).1.store = some (some completion))
    (first : site.ending board.store = some none ∨
      site.ending board.store = some (some completion)) :
    site.Telling (site.exec board op).1 (.owes completion :: others) := by
  obtain ⟨completions, woken⟩ := leaves.exec_counts board
  have waiters : (site.exec board op).1.store.signalWaiters.get site.token =
      board.store.signalWaiters.get site.token := leaves.exec_waiter
  cases telling with
  | waiting opened waiter untold aside =>
    refine .owed ended (waiters.trans waiter) ⟨completions.trans untold.1, woken.trans untold.2⟩
      List.mem_cons_self ?_
    intro phase member
    rcases List.mem_cons.mp member with rfl | member
    · exact .inr (.inr rfl)
    · exact (aside phase (List.mem_cons_of_mem _ member)).imp_right .inl
  | owed earlier waiter untold owing aside =>
    -- The child had ended, and so with this very completion.
    rename_i held
    obtain rfl : held = completion := by simpa [earlier] using first
    refine .owed ended (waiters.trans waiter) ⟨completions.trans untold.1, woken.trans untold.2⟩
      List.mem_cons_self ?_
    intro phase member
    rcases List.mem_cons.mp member with rfl | member
    · exact .inr (.inr rfl)
    · exact aside phase (List.mem_cons_of_mem _ member)
  | carried earlier taken carries alone aside =>
    rename_i held carrier
    obtain rfl : held = completion := by simpa [earlier] using first
    refine .carried ended (waiters.trans taken) (carries.leave leaves) ?_ ?_
    · simpa [Carries] using alone
    · intro phase member free
      rcases List.mem_cons.mp member with rfl | member
      · exact .inr (.inr (.inr rfl))
      · exact aside phase (List.mem_cons_of_mem _ member) free

/-- A process that owes the ending takes the waiter, or finds that another has taken it. -/
theorem Telling.take (telling : site.Telling board (.owes completion :: others)) :
    site.expects (.owes completion) (.takeSignalWaiter site.token)
        (site.exec board (.takeSignalWaiter site.token)).2 ∧
      site.Telling (site.exec board (.takeSignalWaiter site.token)).1
        (site.advance (.owes completion) (.takeSignalWaiter site.token)
          (site.exec board (.takeSignalWaiter site.token)).2 :: others) := by
  cases telling with
  | waiting opened waiter untold aside => simpa using aside _ List.mem_cons_self
  | owed ended waiter untold owing aside =>
    rename_i held
    obtain rfl : completion = held := by simpa using aside _ List.mem_cons_self
    have taken := Store.exec_takeSignalWaiter_some _ waiter
    simp only [exec, taken]
    refine ⟨.inr rfl, ?_⟩
    show site.Telling _ (.holds completion :: others)
    have holding : site.Carried
        { board with store := { board.store with
          signalWaiters := board.store.signalWaiters.erase site.token } } completion
        (.holds completion) := ⟨rfl, untold⟩
    refine .carried ended (Table.get_erase_self _ _) holding ?_ ?_
    · -- Nobody else carries a completion, as nobody else could have taken the waiter.
      have none_ : others.filter Carries = [] := by
        refine List.filter_eq_nil_iff.mpr fun phase member => ?_
        rcases aside phase (List.mem_cons_of_mem _ member) with rfl | rfl | rfl <;> simp [Carries]
      exact (List.filter_cons_of_pos rfl).trans (congrArg _ none_)
    · intro phase member free
      rcases List.mem_cons.mp member with rfl | member
      · cases free
      · rcases aside phase (List.mem_cons_of_mem _ member) with rfl | rfl | rfl <;> simp
  | carried ended taken carries alone aside =>
    have absent := Store.exec_takeSignalWaiter_none _ taken
    simp only [exec, absent]
    refine ⟨.inl rfl, ?_⟩
    show site.Telling _ (.spare :: others)
    refine .carried ended taken ?_ (by simpa [Carries] using alone) ?_
    · rename_i held carrier
      cases carrier <;> exact carries
    · intro phase member free
      rcases List.mem_cons.mp member with rfl | member
      · exact .inr (.inr (.inl rfl))
      · exact aside phase (List.mem_cons_of_mem _ member) free

theorem Telling.carrier (carrying : Carries phase = true)
    (telling : site.Telling board (phase :: others)) :
    ∃ completion, site.ending board.store = some (some completion) ∧
      board.store.signalWaiters.get site.token = none ∧ site.Carried board completion phase ∧
        others.filter Carries = [] ∧ ∀ other ∈ others, Carries other = false →
          other = .idle ∨ other = .silent ∨ other = .spare ∨ other = .owes completion := by
  cases telling with
  | waiting opened waiter untold aside =>
    rcases aside phase List.mem_cons_self with rfl | rfl <;> cases carrying
  | owed ended waiter untold owing aside =>
    rcases aside phase List.mem_cons_self with rfl | rfl | rfl <;> cases carrying
  | carried ended taken carries alone aside =>
    rw [List.filter_cons_of_pos carrying] at alone
    obtain ⟨rfl, rest⟩ := List.cons.inj alone
    exact ⟨_, ended, taken, carries, rest, fun other member =>
      aside other (List.mem_cons_of_mem _ member)⟩

theorem Telling.carryOn (ended : site.ending board.store = some (some completion))
    (taken : board.store.signalWaiters.get site.token = none)
    (carries : site.Carried board completion phase) (carrying : Carries phase = true)
    (alone : others.filter Carries = []) (aside : ∀ other ∈ others, Carries other = false →
      other = .idle ∨ other = .silent ∨ other = .spare ∨ other = .owes completion) :
    site.Telling board (phase :: others) := by
  refine .carried ended taken carries ((List.filter_cons_of_pos carrying).trans ?_) ?_
  · exact congrArg _ alone
  · intro other member free
    rcases List.mem_cons.mp member with rfl | member
    · rw [carrying] at free
      cases free
    · exact aside other member free

theorem Telling.look (telling : site.Telling board (.spare :: others)) :
    board.store.signalWaiters.get site.token = none := by
  cases telling with
  | waiting opened waiter untold aside => simpa using aside _ List.mem_cons_self
  | owed ended waiter untold owing aside => simpa using aside _ List.mem_cons_self
  | carried ended taken carries alone aside => exact taken

theorem Telling.stored (telling : site.Telling board every) :
    ∃ run, board.store.runs.get site.childId = some run := by
  have known : ∃ ended, site.ending board.store = some ended := by
    cases telling with
    | waiting opened => exact ⟨_, opened⟩
    | owed ended => exact ⟨_, ended⟩
    | carried ended => exact ⟨_, ended⟩
  obtain ⟨ended, known⟩ := known
  obtain ⟨run, stored, -⟩ := Option.map_eq_some_iff.mp known
  exact ⟨run, stored⟩

theorem ending_exec (stored : board.store.runs.get site.childId = some run) (op : StoreOp) :
    site.ending (site.exec board op).1.store =
      some (endingOf (((site.appliedPatch board.store op).map run.patched).getD run)) := by
  simp [ending, exec, exec_run stored]

theorem ending_unwritten (stored : board.store.runs.get site.childId = some run)
    (unwritten : site.appliedPatch board.store op = none) :
    site.ending (site.exec board op).1.store = site.ending board.store := by
  rw [ending_exec stored, unwritten]
  simp [ending, stored]

theorem ending_kept (stored : board.store.runs.get site.childId = some run)
    (kept : site.keepsEnding board.store op = true)
    (goesOn : isTerminalStatus run.status = false →
      ∀ patch, site.appliedPatch board.store op = some patch → settlesTerminally patch = false) :
    site.ending (site.exec board op).1.store = site.ending board.store := by
  cases written : site.appliedPatch board.store op with
  | none => exact ending_unwritten stored written
  | some patch =>
    have here : site.ending board.store = some (endingOf run) := by simp [ending, stored]
    rw [ending_exec stored, written, here]
    refine congrArg some ?_
    show endingOf (run.patched patch) = endingOf run
    cases terminal : isTerminalStatus run.status with
    | true => simpa [keepsEnding, stored, terminal, written] using kept
    | false =>
      have opened := open_patched terminal (goesOn terminal patch written)
      simp [endingOf, terminal, opened]

theorem patchOf_of_applied (written : site.appliedPatch store op = some patch) :
    site.patchOf op = some patch := by
  cases op with
  | updateRun runId named => exact written
  | updateRunIf runId expected named =>
    simp only [appliedPatch, Option.ite_none_right_eq_some] at written
    exact (if_pos written.1.1).trans written.2
  | _ => cases written

theorem goesOn_of_elsewhere (elsewhere : site.Elsewhere op) (named : site.patchOf op = some patch) :
    settlesTerminally patch = false := by
  cases op with
  | updateRun runId patch' =>
    simp only [patchOf, Option.ite_none_right_eq_some, Option.some.injEq] at named
    exact named.2 ▸ elsewhere named.1
  | updateRunIf runId expected patch' =>
    simp only [patchOf, Option.ite_none_right_eq_some, Option.some.injEq] at named
    exact named.2 ▸ elsewhere named.1
  | _ => cases named

theorem exec_complete (site : ChildSite) (board : ChildBoard) (completion : Completion) :
    (site.exec board (.saveCheckpoint (site.completedWith completion))).1.completions =
        site.completedWith completion :: board.completions ∧
      (site.exec board (.saveCheckpoint (site.completedWith completion))).1.store.checkpoints.get
        (site.parentId, site.seq) = some (site.completedWith completion) :=
  ⟨if_pos rfl, Store.setCheckpoint_own _ rfl⟩

theorem expects_silent (stored : board.store.runs.get site.childId = some run)
    (spares : isTerminalStatus run.status = false →
      ∀ applied, site.appliedPatch board.store op = some applied →
        settlesTerminally applied = false) : site.expects .silent op (site.exec board op).2 := by
  cases op with
  | updateRunIf runId expected patch =>
    intro own ends guarded
    have ineligible : run.status ∉ expected := by
      intro eligible
      have opened := guarded run.status eligible
      have written : site.appliedPatch board.store (.updateRunIf runId expected patch) =
          some patch := by simp [appliedPatch, own, stored, eligible]
      rw [spares opened patch written] at ends
      cases ends
    simp only [exec, Store.exec, own, stored, if_neg ineligible]
    rfl
  | _ => trivial

/-- Every admitted step is answered as expected and keeps the telling, one case for each phase. -/
theorem Telling.step (telling : site.Telling board (phase :: others))
    (allowed : site.allows phase op) (admitted : site.told.step board phase others op) :
    site.expects phase op (site.exec board op).2 ∧
      site.Telling (site.exec board op).1
        (site.advance phase op (site.exec board op).2 :: others) := by
  obtain ⟨run, stored⟩ := telling.stored
  obtain ⟨kept, tells⟩ := admitted
  -- An operation elsewhere leaves the wait, and an open child open.
  have passes : site.Elsewhere op → phase = .idle ∨ phase = .silent ∨ phase = .spare →
      site.Telling (site.exec board op).1
        (site.advance phase op (site.exec board op).2 :: others) := by
    intro elsewhere aside
    rw [advance_elsewhere elsewhere aside]
    exact telling.leave (.inl elsewhere) (ending_kept stored kept fun _ patch written =>
      goesOn_of_elsewhere elsewhere (patchOf_of_applied written))
  cases phase with
  | idle =>
    refine ⟨by cases op <;> trivial, ?_⟩
    rcases allowed with elsewhere | ends
    · exact passes elsewhere (.inl rfl)
    · obtain ⟨completion, ends⟩ := Option.isSome_iff_exists.mp ends
      obtain ⟨patch, named, ends⟩ := Option.bind_eq_some_iff.mp ends
      have leaves : site.LeavesWait op := .inr (Option.isSome_of_eq_some named)
      have answered : site.writtenBy op (site.exec board op).2 =
          site.appliedPatch board.store op := writtenBy_exec stored op
      simp only [advance, answered]
      cases written : site.appliedPatch board.store op with
      | none => exact telling.leave leaves (ending_unwritten stored written)
      | some applied =>
        obtain rfl : applied = patch := by simpa [named] using (patchOf_of_applied written).symm
        have after : endingOf (run.patched applied) = some completion := endingOf_patched ends
        have ended : site.ending (site.exec board op).1.store = some (some completion) := by
          simp [ending_exec stored, written, after]
        simp only [Option.bind_some, ends]
        refine telling.finish leaves ended ?_
        cases terminal : isTerminalStatus run.status with
        | false => exact .inl (by simp [ending, stored, endingOf, terminal])
        | true =>
          -- The write leaves how the child has ended, so it had ended with this completion.
          refine .inr ?_
          have same : endingOf (run.patched applied) = endingOf run := by
            simpa [keepsEnding, stored, terminal, written] using kept
          simp [ending, stored, ← same, after]
  | silent =>
    rcases allowed with elsewhere | ⟨patch, named, ends⟩
    · refine ⟨?_, passes elsewhere (.inr (.inl rfl))⟩
      cases op with
      | updateRunIf runId expected patch =>
        intro own ends
        rw [elsewhere own] at ends
        cases ends
      | _ => trivial
    · -- The write ends no open child.
      have spares : isTerminalStatus run.status = false →
          ∀ applied, site.appliedPatch board.store op = some applied →
            settlesTerminally applied = false := by
        intro opened applied written
        simpa [tellsEnding, stored, opened, written] using tells
      have leaves : site.LeavesWait op := .inr (Option.isSome_of_eq_some named)
      have stays : site.advance .silent op (site.exec board op).2 = .silent := by
        cases op <;> rfl
      rw [stays]
      exact ⟨expects_silent stored spares, telling.leave leaves (ending_kept stored kept spares)⟩
  | owes completion =>
    obtain rfl : op = .takeSignalWaiter site.token := allowed
    exact telling.take
  | holds completion =>
    obtain rfl : op = .saveCheckpoint (site.completedWith completion) := allowed
    obtain ⟨held, ended, taken, ⟨rfl, untold, asleep⟩, alone, aside⟩ := telling.carrier rfl
    obtain ⟨completed, written⟩ := site.exec_complete board completion
    refine ⟨trivial, Telling.carryOn ended taken ?_ rfl alone aside⟩
    exact ⟨rfl, by rw [completed, untold], written, asleep⟩
  | recorded completion =>
    obtain ⟨rfl, last⟩ := allowed
    obtain ⟨held, ended, taken, ⟨rfl, completed, written, asleep⟩, alone, aside⟩ :=
      telling.carrier rfl
    refine ⟨trivial, Telling.carryOn ended taken ?_ rfl alone aside⟩
    refine ⟨rfl, completed, written, ?_⟩
    show (if site.parentId = site.parentId then board.woken + 1 else board.woken) = 1
    rw [if_pos rfl, asleep]
  | delivered completion => exact allowed.elim
  | spare =>
    have absent := telling.look
    rcases allowed with elsewhere | rfl
    · refine ⟨?_, passes elsewhere (.inr (.inr rfl))⟩
      cases op with
      | takeSignalWaiter token => exact fun own => absurd own elsewhere
      | _ => trivial
    · -- The waiter has been taken, and is not put back.
      have answer := Store.exec_takeSignalWaiter_none _ absent
      simp only [exec, answer]
      exact ⟨fun _ => rfl, telling⟩

end Steps

section Runs

variable {board : ChildBoard} {store : Store}

theorem Telling.told (telling : site.Telling board every)
    (rested : ∀ phase ∈ every, site.Rested phase ()) :
    ∀ run completion, board.store.runs.get site.childId = some run →
      endingOf run = some completion → site.ToldOnce board completion := by
  intro run completion stored ended
  have here : site.ending board.store = some (some completion) := by
    simp [ending, stored, ended]
  cases telling with
  | waiting opened => simp [opened] at here
  | owed known waiter untold owing aside => exact (rested _ owing).elim
  | carried known taken carries alone aside =>
    rename_i held carrier
    obtain rfl : held = completion := by simpa [known] using here
    -- The carrier is among the processes, and has come as far as the fan's barrier lets it.
    have member : carrier ∈ every :=
      List.mem_of_mem_filter (alone ▸ List.mem_singleton_self carrier)
    have rest := rested carrier member
    cases carrier with
    | holds held' => exact rest.elim
    | recorded held' =>
      obtain ⟨rfl, completed, written, asleep⟩ := carries
      have barred : site.siblingsOut = true := rest
      exact ⟨completed, written, taken, by simp [asleep, barred]⟩
    | delivered held' =>
      obtain ⟨rfl, completed, written, awake⟩ := carries
      have last : site.siblingsOut = false := rest
      exact ⟨completed, written, taken, by simp [awake, last]⟩
    | _ => exact carries.elim

theorem Telling.asStored (telling : site.Telling board every) : board.completions = [] ∨
      ∃ run completion, board.store.runs.get site.childId = some run ∧
        endingOf run = some completion ∧ board.completions = [site.completedWith completion] := by
  cases telling with
  | waiting opened waiter untold => exact .inl untold.1
  | owed ended waiter untold => exact .inl untold.1
  | carried ended taken carries alone aside =>
    rename_i completion carrier
    obtain ⟨run, stored, ended⟩ := Option.map_eq_some_iff.mp ended
    cases carrier with
    | holds held => exact .inl carries.2.1
    | recorded held => exact .inr ⟨run, completion, stored, ended, carries.2.1⟩
    | delivered held => exact .inr ⟨run, completion, stored, ended, carries.2.1⟩
    | _ => exact carries.elim

theorem telling_around (awaited : site.Awaited store) (paths : List (Bool × Engine Unit)) :
    site.Telling { store } (phases (around store paths).pool) := by
  obtain ⟨run, stored, opened⟩ := awaited.openRun
  refine .waiting (by simp [ending, stored, endingOf, opened]) awaited.waiting ⟨rfl, rfl⟩ ?_
  intro phase member
  simp only [phases, around, List.mem_map] at member
  obtain ⟨_, ⟨path, -, rfl⟩, rfl⟩ := member
  rcases path with ⟨tells, program⟩
  cases tells
  · exact .inr rfl
  · exact .inl rfl

theorem telling_invariant (awaited : site.Awaited store) {paths : List (Bool × Engine Unit)}
    (legitimate : ∀ path ∈ paths, site.Path path.1 path.2)
    {final : Config ChildBoard (Process StoreOp StoreOp.Answer EndingPhase Unit)}
    (reached : site.system.Reaches (site.told.permits site.monitor) (around store paths) final) :
    site.Telling final.shared (phases final.pool) ∧
      ∀ process ∈ final.pool, process.Follows site.monitor site.Rested := by
  have following : ∀ process ∈ (around store paths).pool,
      process.Follows site.monitor site.Rested := by
    intro process member
    obtain ⟨path, listed, rfl⟩ := List.mem_map.mp member
    exact (legitimate path listed).follows
  refine processes_invariant site.Rested site.Telling (fun _ _ _ same telling => telling.perm same)
    (fun _ _ _ _ telling allowed admitted => telling.step allowed admitted) ?_ ?_ following
    (telling_around awaited paths) reached
  · intro board process others left telling follows fell
    cases fell
  · intro board every disturbance telling
    exact disturbance.elim

end Runs

section Endings

/-- A child and the parent that waits for it at its first position. -/
def lonelySite : ChildSite := { childId := "child", parentId := "parent", seq := 0 }

def lonelyStore : Store where
  runs := Table.empty.set "child" { id := "child", workflow := "job", status := .running }
  signalWaiters := Table.empty.set lonelySite.token lonelySite.waiter

theorem lonely_awaited : lonelySite.Awaited lonelyStore :=
  ⟨⟨{ id := "child", workflow := "job", status := .running }, rfl, rfl⟩, rfl⟩

def lonelyTurn : Engine Unit :=
  settleChildRun lonelySite (.done false) {} { id := "child", workflow := "job", status := .running }
    (fun _ => .done none) (.completed none)

theorem lonelyTurn_path : lonelySite.Path true lonelyTurn := by
  unfold lonelyTurn
  exact .settleRun (Program.uses_done _ _) (fun _ => Program.uses_done _ _) _ _ _

def lonelyMoves : List (Move Empty) := [.step 0, .step 0, .step 0, .step 0]

theorem lonely_ran :
    (lonelySite.system.run (around lonelyStore [(true, lonelyTurn)]) lonelyMoves).isSome := rfl

end Endings

end ChildSite

end Durable
