import Durable.Engine.Settle
import Durable.Proofs.Store.Operations

/-! When a run that has ended keeps its status, output and error. -/

namespace Durable

open Interleaving

variable {error : Option StepError} {output : Option Value} {status : RunStatus} {runId : String}
  {store : Store}

/-- A patch leaves a run's status, output and error as they are stored. -/
def leavesOutcome (patch : RunPatch) : Bool :=
  patch.status.isNone && patch.output.isNone && patch.error.isNone

/-- A conditional write of an outcome is never conditional on an outcome other than a failure. -/
def Guarded : StoreOp → Prop
  | .updateRunIf _ expected patch =>
    leavesOutcome patch = true ∨
      ∀ status ∈ expected, isTerminalStatus status = true → status = .failed
  | _ => True

/--
A write of an outcome finds its run still open.

An unconditional write finds it in no terminal status; a conditional one that would accept a failed
run finds it in another status.
-/
def FindsOpen (store : Store) : StoreOp → Prop
  | .updateRun runId patch =>
    leavesOutcome patch = false →
      ∀ run, store.runs.get runId = some run → isTerminalStatus run.status = false
  | .updateRunIf runId expected patch =>
    leavesOutcome patch = false → .failed ∈ expected →
      ∀ run, store.runs.get runId = some run → run.status ≠ .failed
  | _ => True

def HasOutcome (store : Store) (runId : String) (status : RunStatus) (output : Option Value)
    (error : Option StepError) : Prop :=
  ∃ run, store.runs.get runId = some run ∧ run.status = status ∧ run.output = output ∧
    run.error = error

theorem patched_outcome (run : WorkflowRun) {patch : RunPatch}
    (leaves : leavesOutcome patch = true) :
    (run.patched patch).status = run.status ∧ (run.patched patch).output = run.output ∧
      (run.patched patch).error = run.error := by
  simp only [leavesOutcome, Bool.and_eq_true, Option.isNone_iff_eq_none] at leaves
  obtain ⟨⟨status, output⟩, error⟩ := leaves
  simp [WorkflowRun.patched, status, output, error]

theorem HasOutcome.set (had : HasOutcome store runId status output error) (other : String)
    (row : WorkflowRun)
    (agrees : other = runId → row.status = status ∧ row.output = output ∧ row.error = error) :
    HasOutcome { store with runs := store.runs.set other row } runId status output error := by
  obtain ⟨run, stored, outcome⟩ := had
  by_cases same : other = runId
  · subst same
    exact ⟨row, by simp, agrees rfl⟩
  · exact ⟨run, by simpa [Table.get_set_ne _ _ same] using stored, outcome⟩

/-- A guarded write that finds its run open keeps every terminal outcome. -/
theorem exec_keeps_outcome (terminal : isTerminalStatus status = true) (op : StoreOp)
    (guarded : Guarded op) (open_ : FindsOpen store op)
    (had : HasOutcome store runId status output error) :
    HasOutcome (store.exec op).1 runId status output error := by
  obtain ⟨run, stored, rfl, rfl, rfl⟩ := had
  have had : HasOutcome store runId run.status run.output run.error :=
    ⟨run, stored, rfl, rfl, rfl⟩
  cases op with
  | updateRun other patch =>
    simp only [Store.exec]
    cases found : store.runs.get other with
    | none => exact had
    | some row =>
      refine had.set other _ fun same => ?_
      subst same
      -- A terminal row is written only by a patch that leaves its outcome alone.
      rw [stored] at found
      cases found
      cases leaves : leavesOutcome patch with
      | true => exact patched_outcome run leaves
      | false => simp [open_ leaves run stored] at terminal
  | updateRunIf other expected patch =>
    simp only [Store.exec]
    cases found : store.runs.get other with
    | none => exact had
    | some row =>
      dsimp only
      split
      · rename_i eligible
        refine had.set other _ fun same => ?_
        subst same
        rw [stored] at found
        cases found
        cases leaves : leavesOutcome patch with
        | true => exact patched_outcome run leaves
        | false =>
          -- The only terminal status the write accepts is a failure, and it finds none.
          rcases guarded with quiet | accepts
          · simp [leaves] at quiet
          · have failed := accepts run.status eligible terminal
            rw [failed] at eligible
            exact absurd failed (open_ leaves eligible run stored)
      · exact had
  | createRun row =>
    simp only [Store.exec]
    cases found : store.runs.get row.id with
    | some _ => exact had
    | none =>
      refine had.set row.id row fun same => ?_
      rw [same, stored] at found
      cases found
  | registerChildWaits entries =>
    obtain ⟨waiters, checkpoints, registered⟩ := store.exec_registerChildWaits_frame entries
    rw [registered]
    exact had
  | settleCheckpointsIfPending settlements =>
    obtain ⟨checkpoints, settled⟩ := Store.settleEach_frame settlements store
    simp only [Store.exec, settled]
    exact had
  | _ =>
    simp only [Store.exec]
    first
    | exact had
    | (split <;> first | exact had | (split <;> exact had))

/-- The work of a turn writes outcomes only as the paths do. -/
structure TurnWork.Guarded (work : TurnWork) : Prop where
  body : work.body.Uses Durable.Guarded
  compensations : work.compensations.Uses Durable.Guarded
  routeFailure : ∀ error, (work.routeFailure error).Uses Durable.Guarded
  startContinuation : work.startContinuation.Uses Durable.Guarded

/-- The code paths that write a run's status. -/
inductive WriterPath : Engine Unit → Prop where
  | turn {work : TurnWork} (guarded : work.Guarded) (settings : TurnSettings)
      (run : WorkflowRun) (tags : Option (List String)) :
      WriterPath (discard (runExecution settings work run tags))
  | settleRun {routeFailure : StepError → Engine (Option RunOutcome)}
      (guarded : ∀ error, (routeFailure error).Uses Guarded) (settings : TurnSettings)
      (run : WorkflowRun) (outcome : RunOutcome) :
      WriterPath (discard (settleRun settings routeFailure run outcome))
  | cancel (marker : Option String) (compensate : Bool) (runId : String) :
      WriterPath (discard (cancel marker compensate runId))
  | compensateAndCancel {compensations : Engine Unit} (guarded : compensations.Uses Guarded)
      (settings : TurnSettings) (run : WorkflowRun) :
      WriterPath (discard (compensateAndCancel settings compensations run))
  | parkBlocked (settings : TurnSettings) (run : WorkflowRun) (reason : String) :
      WriterPath (discard (parkBlocked settings run reason))
  | continueAsNew {work : TurnWork} (guarded : work.Guarded) (run : WorkflowRun) :
      WriterPath (discard (completeContinued work run))
  | remoteTurn {advance : Engine AdvanceEnd} {applyCommands : Engine (Option Nat)}
      {routeFailure : StepError → Engine (Option RunOutcome)} (advances : advance.Uses Guarded)
      (applies : applyCommands.Uses Guarded)
      (guarded : ∀ error, (routeFailure error).Uses Guarded) (settings : TurnSettings)
      (run : WorkflowRun) :
      WriterPath (discard (runRemoteExecution settings advance applyCommands routeFailure run))
  | dispatchRemoteTurn {dispatch : Engine (Option StepError)} (guarded : dispatch.Uses Guarded)
      (settings : TurnSettings) (run : WorkflowRun) (taskId : String) (windowMs : Option Nat) :
      WriterPath (discard (dispatchRemoteTurn settings dispatch run taskId windowMs))
  | remoteDecision {applyCommands : Engine (Option Nat)}
      {routeFailure : StepError → Engine (Option RunOutcome)}
      (applies : applyCommands.Uses Guarded)
      (guarded : ∀ error, (routeFailure error).Uses Guarded) (settings : TurnSettings)
      (runId taskId : String) (decision : RemoteDecision) :
      WriterPath (discard
        (applyRemoteDecision settings applyCommands routeFailure runId taskId decision))
  | sweepTimeouts (marker : Option String) (run : WorkflowRun) :
      WriterPath (discard (sweepTimeout marker run))
  | settleUnregistered (marker : Option String) (graceOver : Bool) (error : StepError)
      (runId : String) : WriterPath (discard (settleUnregistered marker graceOver error runId))
  | recoverIncomplete (marker : Option String) (runId : String) (orphan : Orphan) :
      WriterPath (discard (recoverIncomplete marker runId orphan))
  | other {program : Engine Unit} (guarded : program.Uses Guarded) : WriterPath program

section Guards

variable {settings : TurnSettings} {run : WorkflowRun} {work : TurnWork}

theorem guarded_settleEligible (runId : String) (patch : RunPatch) :
    Guarded (.updateRunIf runId settleEligibleStatuses patch) :=
  .inr (by decide)

theorem guarded_settleFailed (runId : String) (patch : RunPatch) :
    Guarded (.updateRunIf runId (settleEligibleStatuses.filter (· ≠ .failed)) patch) :=
  .inr (by decide)

theorem guarded_inFlight (runId : String) {expected : List RunStatus} (patch : RunPatch)
    (inFlight : ∀ status ∈ expected, isTerminalStatus status = false) :
    Guarded (.updateRunIf runId expected patch) :=
  .inr fun status member terminal => by simp [inFlight status member] at terminal

theorem echoCurrentStatus_guarded (runId : String) :
    (echoCurrentStatus runId).Uses Guarded := by
  refine ⟨trivial, fun answer => ?_⟩
  cases answer <;> trivial

theorem settleCompleted_guarded (output : Option Value) :
    (settleCompleted settings run output).Uses Guarded := by
  refine ⟨guarded_settleEligible _ _, fun answer => ?_⟩
  cases answer
  · exact echoCurrentStatus_guarded _
  · trivial

theorem settleFailed_guarded (error : StepError) :
    (settleFailed settings run error).Uses Guarded := by
  refine ⟨guarded_settleFailed _ _, fun answer => ?_⟩
  cases answer
  · exact echoCurrentStatus_guarded _
  · trivial

theorem settleSuspended_guarded (wakeAt : Option Nat) :
    (settleSuspended settings run wakeAt).Uses Guarded := by
  refine ⟨trivial, fun now => ⟨guarded_settleEligible _ _, fun answer => ?_⟩⟩
  cases answer
  · exact echoCurrentStatus_guarded _
  · trivial

theorem settleRun_guarded {routeFailure : StepError → Engine (Option RunOutcome)}
    (routes : ∀ error, (routeFailure error).Uses Guarded) (outcome : RunOutcome) :
    (settleRun settings routeFailure run outcome).Uses Guarded := by
  unfold settleRun
  split
  · exact echoCurrentStatus_guarded _
  · cases outcome with
    | completed output => exact settleCompleted_guarded output
    | suspended wakeAt => exact settleSuspended_guarded wakeAt
    | failed error =>
      refine Program.uses_bind (routes error) fun routed => ?_
      match routed with
      | some (.completed output) => exact settleCompleted_guarded output
      | some (.suspended wakeAt) => exact settleSuspended_guarded wakeAt
      | some (.failed handed) => exact settleFailed_guarded handed
      | none => exact settleFailed_guarded error

theorem cancel_guarded (marker : Option String) (compensate : Bool) (runId : String) :
    (cancel marker compensate runId).Uses Guarded := by
  refine ⟨trivial, fun answer => ?_⟩
  cases answer with
  | none => trivial
  | some run =>
    change (if isTerminalStatus run.status = true then _ else if _ then _ else _ :
      Engine (Option RunResult)).Uses Guarded
    split
    · trivial
    · split
      · exact ⟨trivial, fun _ => trivial⟩
      · exact ⟨trivial, fun _ => trivial⟩

theorem takeCancelIntent_guarded (settings : TurnSettings) (runId : String) :
    (takeCancelIntent settings runId).Uses Guarded := by
  unfold takeCancelIntent
  split
  · trivial
  · refine ⟨trivial, fun answer => ?_⟩
    cases answer with
    | none => trivial
    | some marker => exact ⟨trivial, fun _ => trivial⟩

theorem compensateAndCancel_guarded {compensations : Engine Unit}
    (guarded : compensations.Uses Guarded) :
    (compensateAndCancel settings compensations run).Uses Guarded := by
  unfold compensateAndCancel
  split
  · exact echoCurrentStatus_guarded _
  · exact Program.uses_bind guarded fun _ => ⟨trivial, fun _ => trivial⟩

theorem parkBlocked_guarded (reason : String) :
    (parkBlocked settings run reason).Uses Guarded := by
  refine ⟨trivial, fun now => ⟨guarded_settleEligible _ _, fun answer => ?_⟩⟩
  cases answer
  · exact echoCurrentStatus_guarded _
  · trivial

theorem completeContinued_guarded (guarded : work.Guarded) :
    (completeContinued work run).Uses Guarded :=
  Program.uses_bind guarded.startContinuation fun _ => ⟨trivial, fun _ => trivial⟩

theorem settleUnlessCancelled_guarded (guarded : work.Guarded) {settle : Engine RunResult}
    (settles : settle.Uses Guarded) :
    (settleUnlessCancelled settings work run settle).Uses Guarded := by
  refine Program.uses_bind (takeCancelIntent_guarded settings run.id) fun intent => ?_
  cases intent
  · exact settles
  · exact compensateAndCancel_guarded guarded.compensations

theorem endTurn_guarded (guarded : work.Guarded) (ending : BodyEnd) :
    (endTurn settings work run ending).Uses Guarded := by
  cases ending with
  | returned output =>
    exact settleUnlessCancelled_guarded guarded (settleRun_guarded guarded.routeFailure _)
  | suspended wakeAt =>
    exact settleUnlessCancelled_guarded guarded (settleRun_guarded guarded.routeFailure _)
  | blocked reason => exact parkBlocked_guarded reason
  | continuedAsNew =>
    change (if settings.leaseLost = true then _ else _ : Engine RunResult).Uses Guarded
    split
    · exact echoCurrentStatus_guarded _
    · exact settleUnlessCancelled_guarded guarded (completeContinued_guarded guarded)
  | threw error =>
    exact settleUnlessCancelled_guarded guarded
      (Program.uses_bind guarded.compensations fun _ => settleRun_guarded guarded.routeFailure _)

theorem markStarted_guarded (tags : Option (List String)) :
    (markStarted run tags).Uses Guarded := by
  unfold markStarted
  split
  · exact ⟨trivial, fun _ => trivial⟩
  · trivial

theorem runExecution_guarded (guarded : work.Guarded) (tags : Option (List String)) :
    (runExecution settings work run tags).Uses Guarded :=
  Program.uses_bind (markStarted_guarded tags) fun _ =>
    Program.uses_bind guarded.body fun ending => endTurn_guarded guarded ending

section Remote

variable {applyCommands : Engine (Option Nat)}
  {routeFailure : StepError → Engine (Option RunOutcome)}

theorem applyDecision_guarded (applies : applyCommands.Uses Guarded)
    (routes : ∀ error, (routeFailure error).Uses Guarded) (decision : RemoteDecision) :
    (applyDecision settings applyCommands routeFailure run decision).Uses Guarded := by
  cases decision with
  | cancelled => exact Program.uses_bind applies fun _ => ⟨trivial, fun _ => trivial⟩
  | completed output => exact Program.uses_bind applies fun _ => settleRun_guarded routes _
  | failed error => exact Program.uses_bind applies fun _ => settleRun_guarded routes _
  | «continue» => exact Program.uses_bind applies fun _ => settleRun_guarded routes _

theorem runRemoteExecution_guarded {advance : Engine AdvanceEnd} (advances : advance.Uses Guarded)
    (applies : applyCommands.Uses Guarded)
    (routes : ∀ error, (routeFailure error).Uses Guarded) :
    (runRemoteExecution settings advance applyCommands routeFailure run).Uses Guarded := by
  refine Program.uses_bind advances fun ending => ?_
  cases ending with
  | decided decision => exact applyDecision_guarded applies routes decision
  | timedOut => exact ⟨guarded_inFlight _ _ (by decide), fun _ => trivial⟩
  | threw error => exact ⟨trivial, fun _ => trivial⟩

theorem failUndispatchedTurn_guarded (taskId : String) (error : StepError) :
    (failUndispatchedTurn settings run taskId error).Uses Guarded := by
  refine ⟨trivial, fun current => ?_⟩
  change (if _ then _ else _ : Engine RunResult).Uses Guarded
  split
  · refine ⟨guarded_inFlight _ _ (by decide), fun answer => ?_⟩
    cases answer
    · exact echoCurrentStatus_guarded _
    · trivial
  · exact echoCurrentStatus_guarded _

theorem dispatchRemoteTurn_guarded {dispatch : Engine (Option StepError)}
    (dispatches : dispatch.Uses Guarded) (taskId : String) (windowMs : Option Nat) :
    (dispatchRemoteTurn settings dispatch run taskId windowMs).Uses Guarded := by
  unfold dispatchRemoteTurn
  split
  · exact echoCurrentStatus_guarded _
  · refine ⟨trivial, fun now => ⟨guarded_settleEligible _ _, fun answer => ?_⟩⟩
    cases answer with
    | false => exact echoCurrentStatus_guarded _
    | true =>
      change (dispatch >>= _ : Engine RunResult).Uses Guarded
      refine Program.uses_bind dispatches fun failure => ?_
      cases failure with
      | none => trivial
      | some error => exact failUndispatchedTurn_guarded taskId error

theorem applyRemoteDecision_guarded (applies : applyCommands.Uses Guarded)
    (routes : ∀ error, (routeFailure error).Uses Guarded) (runId taskId : String)
    (decision : RemoteDecision) :
    (applyRemoteDecision settings applyCommands routeFailure runId taskId decision).Uses
      Guarded := by
  refine ⟨trivial, fun answer => ?_⟩
  cases answer with
  | none => trivial
  | some fresh =>
    change (if _ then _ else _ : Engine Unit).Uses Guarded
    split
    · refine ⟨guarded_inFlight _ _ (by decide), fun claimed => ?_⟩
      cases claimed
      · trivial
      · change (applyDecision _ _ _ _ _ >>= _ : Engine Unit).Uses Guarded
        exact Program.uses_bind (applyDecision_guarded applies routes decision) fun _ => trivial
    · trivial

end Remote

theorem sweepTimeout_guarded (marker : Option String) :
    (sweepTimeout marker run).Uses Guarded :=
  ⟨guarded_inFlight _ _ (by decide), fun _ => trivial⟩

theorem settleUnregistered_guarded (marker : Option String) (graceOver : Bool)
    (error : StepError) (runId : String) :
    (settleUnregistered marker graceOver error runId).Uses Guarded := by
  refine ⟨trivial, fun answer => ?_⟩
  cases answer with
  | none => trivial
  | some run =>
    change (if _ then _ else _ : Engine Bool).Uses Guarded
    split
    · rename_i eligible
      refine ⟨guarded_inFlight _ _ fun status member => ?_, fun _ => trivial⟩
      rw [List.mem_singleton.mp member]
      have open_ : ∀ status ∈ unregisteredDeadLetterFrom, isTerminalStatus status = false := by
        decide
      exact open_ _ eligible.1
    · trivial

theorem recoverIncomplete_guarded (marker : Option String) (runId : String) (orphan : Orphan) :
    (recoverIncomplete marker runId orphan).Uses Guarded := by
  have conditional : ∀ patch, Guarded (.updateRunIf runId [.running] patch) := fun patch =>
    guarded_inFlight _ _ (by decide)
  refine ⟨trivial, fun answer => ?_⟩
  cases answer with
  | none => trivial
  | some run =>
    change (if _ then _ else _ : Engine Bool).Uses Guarded
    split
    · cases orphan with
      | dispatched wakeAt => exact ⟨conditional _, fun _ => trivial⟩
      | poisoned error => exact ⟨guarded_inFlight _ _ (by decide), fun _ => trivial⟩
      | recoverable => exact ⟨trivial, fun _ => ⟨conditional _, fun _ => trivial⟩⟩
    · trivial

end Guards

theorem WriterPath.guarded {path : Engine Unit} (writes : WriterPath path) :
    path.Uses Guarded := by
  have discarded : ∀ {α : Type} {path : Engine α}, path.Uses Guarded →
      (discard path).Uses Guarded := fun uses => Program.uses_bind uses fun _ => trivial
  cases writes with
  | turn guarded settings run tags => exact discarded (runExecution_guarded guarded tags)
  | settleRun guarded settings run outcome => exact discarded (settleRun_guarded guarded outcome)
  | cancel marker compensate runId => exact discarded (cancel_guarded marker compensate runId)
  | compensateAndCancel guarded => exact discarded (compensateAndCancel_guarded guarded)
  | parkBlocked settings run reason => exact discarded (parkBlocked_guarded reason)
  | continueAsNew guarded => exact discarded (completeContinued_guarded guarded)
  | remoteTurn advances applies guarded =>
    exact discarded (runRemoteExecution_guarded advances applies guarded)
  | dispatchRemoteTurn guarded settings run taskId windowMs =>
    exact discarded (dispatchRemoteTurn_guarded guarded taskId windowMs)
  | remoteDecision applies guarded settings runId taskId decision =>
    exact discarded (applyRemoteDecision_guarded applies guarded runId taskId decision)
  | sweepTimeouts marker run => exact discarded (sweepTimeout_guarded marker)
  | settleUnregistered marker graceOver error runId =>
    exact discarded (settleUnregistered_guarded marker graceOver error runId)
  | recoverIncomplete marker runId orphan =>
    exact discarded (recoverIncomplete_guarded marker runId orphan)
  | other guarded => exact guarded

/-- The write a move makes, if it makes one, finds its run open. -/
def writesOpenRuns (config : Config Store (Engine Unit)) (move : Move Empty) : Prop :=
  ∀ index program op next, move = .step index → config.pool[index]? = some program →
    Program.view program = .call op next → FindsOpen config.shared op

/-- A run in flight, with a cancel call and a turn that has finished both under way. -/
def cancelDuringTurn : Config Store (Engine Unit) :=
  let run : WorkflowRun := { id := "r", workflow := "order", status := .running }
  { shared := { runs := Table.empty.set "r" run }
    pool := [discard (cancel none false "r"),
      discard (settleRun {} (fun _ => .done none) run (.completed (some (.str "paid"))))] }

theorem cancelDuringTurn_paths : ∀ path ∈ cancelDuringTurn.pool, WriterPath path := by
  intro path member
  simp only [cancelDuringTurn, List.mem_cons, List.not_mem_nil, or_false] at member
  rcases member with rfl | rfl
  · exact .cancel none false "r"
  · exact .settleRun (fun _ => Program.uses_done _ _) {} _ _

def turnCompleted : Config Store (Engine Unit) :=
  ((programs Store.exec).fire cancelDuringTurn (.step 1)).getD cancelDuringTurn

def completedRun : WorkflowRun :=
  { id := "r", workflow := "order", status := .completed, output := some (.str "paid") }

end Durable
