import Durable.Lease.Turns

/-! Every release of a lease names the caller as its owner, or nobody. -/

namespace Durable

open Interleaving (Program)

/-- An operation leaves the leases, or releases one in its caller's name or in nobody's. -/
def OwnRelease (op : LeaseOp) : Prop :=
  match op.call with
  | .store asked => LeavesLease asked
  | .releaseRunLock _ owner => owner = none ∨ owner = some op.actor.owner
  | _ => True

section Store

theorem withLifecycleMarker_lockedBy (marker : Option String) (run : WorkflowRun)
    (patch : RunPatch) : (withLifecycleMarker marker run patch).lockedBy = patch.lockedBy := by
  cases marker with
  | none => rfl
  | some tag => rfl

variable (settings : TurnSettings) (run : WorkflowRun) {expected : List RunStatus}
  {patch : RunPatch} {runId : String}

theorem echoCurrentStatus_leaves (runId : String) :
    (echoCurrentStatus runId).Uses LeavesLease := by
  refine Program.uses_perform trivial fun latest => ?_
  cases latest with
  | none => trivial
  | some latest => trivial

theorem updateRunIf_leaves {α : Type} {rest : Bool → Engine α} (unlocked : patch.lockedBy = none)
    (closing : ∀ applied, (rest applied).Uses LeavesLease) :
    (Engine.updateRunIf runId expected patch >>= rest).Uses LeavesLease :=
  Program.uses_perform unlocked closing

theorem writeOrEcho_leaves {written : RunResult} (unlocked : patch.lockedBy = none) :
    (Engine.updateRunIf runId expected patch >>= fun applied =>
      if applied = true then Program.done written else echoCurrentStatus runId).Uses
        LeavesLease := by
  refine updateRunIf_leaves unlocked fun applied => ?_
  split
  · trivial
  · exact echoCurrentStatus_leaves runId

theorem settleCompleted_leaves (output : Option Value) :
    (settleCompleted settings run output).Uses LeavesLease :=
  writeOrEcho_leaves (withLifecycleMarker_lockedBy _ _ _)

theorem settleFailed_leaves (error : StepError) :
    (settleFailed settings run error).Uses LeavesLease :=
  writeOrEcho_leaves (withLifecycleMarker_lockedBy _ _ _)

theorem settleSuspended_leaves (wakeAt : Option Nat) :
    (settleSuspended settings run wakeAt).Uses LeavesLease :=
  ⟨trivial, fun _ => writeOrEcho_leaves rfl⟩

theorem writeCancelled_leaves (marker : Option String) :
    (writeCancelled marker run).Uses LeavesLease :=
  ⟨withLifecycleMarker_lockedBy _ _ _, fun _ => trivial⟩

theorem markStarted_leaves (tags : Option (List String)) :
    (markStarted run tags).Uses LeavesLease := by
  unfold markStarted
  split
  · exact ⟨rfl, fun _ => trivial⟩
  · trivial

theorem takeCancelIntent_leaves (runId : String) :
    (takeCancelIntent settings runId).Uses LeavesLease := by
  unfold takeCancelIntent
  split
  · trivial
  · refine Program.uses_perform trivial fun marker => ?_
    cases marker with
    | none => trivial
    | some payload => exact ⟨trivial, fun _ => trivial⟩

theorem failUndispatchedTurn_leaves (taskId : String) (error : StepError) :
    (failUndispatchedTurn settings run taskId error).Uses LeavesLease := by
  refine Program.uses_perform trivial fun current => ?_
  split
  · exact writeOrEcho_leaves (withLifecycleMarker_lockedBy _ _ _)
  · exact echoCurrentStatus_leaves run.id

theorem deadLetterLeased_leaves (marker : Option String) (source : List RunStatus)
    (error : StepError) : (deadLetterLeased marker run source error).Uses LeavesLease :=
  ⟨withLifecycleMarker_lockedBy _ _ _, fun _ => trivial⟩

theorem settleUnregistered_leaves (marker : Option String) (graceOver : Bool) (error : StepError)
    (runId : String) : (settleUnregistered marker graceOver error runId).Uses LeavesLease := by
  refine Program.uses_perform trivial fun found => ?_
  cases found with
  | none => trivial
  | some run =>
    dsimp only
    split
    · exact deadLetterLeased_leaves run marker _ error
    · trivial

theorem recoverIncomplete_leaves (marker : Option String) (runId : String) (orphan : Orphan) :
    (recoverIncomplete marker runId orphan).Uses LeavesLease := by
  refine Program.uses_perform trivial fun found => ?_
  cases found with
  | none => trivial
  | some run =>
    dsimp only
    by_cases running : run.status = .running
    · simp only [running, if_true]
      cases orphan with
      | dispatched wakeAt => exact ⟨rfl, fun _ => trivial⟩
      | poisoned error => exact deadLetterLeased_leaves _ marker _ error
      | recoverable => exact ⟨rfl, fun _ => ⟨rfl, fun _ => trivial⟩⟩
    · simp only [running, if_false]
      trivial

theorem cancel_leaves (marker : Option String) (compensate : Bool) (runId : String) :
    (cancel marker compensate runId).Uses LeavesLease := by
  refine Program.uses_perform trivial fun found => ?_
  cases found with
  | none => trivial
  | some run =>
    dsimp only
    split
    · trivial
    · split
      · exact ⟨trivial, fun _ => trivial⟩
      · exact ⟨withLifecycleMarker_lockedBy _ _ _, fun _ => trivial⟩

end Store

namespace LeaseProgram

variable {α : Type} (actor : LeaseActor) {work : Engine α} {β : Type}

theorem asked_uses (leaves : work.Uses LeavesLease) : (asked actor work).Uses OwnRelease := by
  induction work with
  | done result => trivial
  | call op next ih => exact ⟨leaves.1, fun answer => ih answer (leaves.2 answer)⟩

theorem piece_uses (piece : Piece α) : (asked actor piece.work).Uses OwnRelease :=
  asked_uses actor piece.leaves

variable {actor}

theorem asked_bind_uses {rest : α → LeaseProgram β} (leaves : work.Uses LeavesLease)
    (closing : ∀ result, (rest result).Uses OwnRelease) :
    (asked actor work >>= rest).Uses OwnRelease :=
  Program.uses_bind (asked_uses actor leaves) closing

theorem perform_bind_uses {operation : LeaseCall} {rest : operation.Answer → LeaseProgram β}
    (own : OwnRelease ⟨actor, operation⟩) (closing : ∀ answer, (rest answer).Uses OwnRelease) :
    (perform actor operation >>= rest).Uses OwnRelease :=
  ⟨own, closing⟩

theorem releaseOwnLock_uses (runId : String) : (releaseOwnLock actor runId).Uses OwnRelease :=
  ⟨.inr rfl, fun _ => trivial⟩

theorem fenced_uses {runId : String} {write : LeaseProgram RunResult}
    (closing : write.Uses OwnRelease) : (fenced actor runId write).Uses OwnRelease := by
  refine perform_bind_uses trivial fun lost => ?_
  split
  · exact asked_uses actor (echoCurrentStatus_leaves runId)
  · exact closing

section Settle

variable (settings : TurnSettings) (routeFailure : StepError → Piece (Option RunOutcome))
  (run : WorkflowRun)

theorem settleFailure_uses (error : StepError) :
    (settleFailure actor settings routeFailure run error).Uses OwnRelease := by
  refine asked_bind_uses (routeFailure error).leaves fun handed => ?_
  -- The route's answer is settled in the failure's place.
  cases handed with
  | none => exact asked_uses actor (settleFailed_leaves settings run error)
  | some outcome =>
    cases outcome with
    | completed output =>
      exact fenced_uses (asked_uses actor (settleCompleted_leaves settings run output))
    | suspended wakeAt =>
      exact fenced_uses (asked_uses actor (settleSuspended_leaves settings run wakeAt))
    | failed handed => exact asked_uses actor (settleFailed_leaves settings run handed)

theorem settleRun_uses (outcome : RunOutcome) :
    (settleRun actor settings routeFailure run outcome).Uses OwnRelease := by
  apply fenced_uses
  cases outcome with
  | completed output => exact asked_uses actor (settleCompleted_leaves settings run output)
  | suspended wakeAt => exact asked_uses actor (settleSuspended_leaves settings run wakeAt)
  | failed error => exact settleFailure_uses settings routeFailure run error

theorem compensateAndCancel_uses (compensations : Piece Unit) :
    (compensateAndCancel actor settings run compensations).Uses OwnRelease := by
  apply fenced_uses
  refine asked_bind_uses compensations.leaves fun _ => ?_
  exact asked_bind_uses (writeCancelled_leaves run settings.marker) fun _ => trivial

theorem parkBlocked_uses (reason : String) :
    (parkBlocked actor settings run reason).Uses OwnRelease := by
  refine perform_bind_uses trivial fun now => ?_
  refine asked_bind_uses ⟨rfl, fun _ => trivial⟩ fun applied => ?_
  refine perform_bind_uses (.inl rfl) fun _ => ?_
  split
  · trivial
  · exact asked_uses actor (echoCurrentStatus_leaves run.id)

theorem releaseTurnLease_uses (runId : String) :
    (releaseTurnLease actor runId).Uses OwnRelease :=
  ⟨trivial, fun _ => releaseOwnLock_uses runId⟩

end Settle

section Turns

variable (engine : EngineInstance)

theorem letGoOfSuspendedTurn_uses (spendReasons : Piece Bool) (runId : String) (rounds : Nat) :
    (letGoOfSuspendedTurn actor spendReasons runId rounds).Uses OwnRelease := by
  induction rounds with
  | zero => trivial
  | succ rounds ih =>
    refine perform_bind_uses trivial fun released => ?_
    split
    · trivial
    · refine Program.uses_bind (piece_uses actor spendReasons) fun spent => ?_
      split
      · exact ih
      · trivial

theorem singletonWaitResult_uses (runId : String) :
    (singletonWaitResult actor runId).Uses OwnRelease :=
  ⟨trivial, fun _ => releaseOwnLock_uses runId⟩

theorem admitted_uses (admission : Option (Piece Bool)) : (admitted actor admission).Uses OwnRelease := by
  cases admission with
  | none => trivial
  | some piece => exact piece_uses actor piece

section InProcess

variable (pieces : LocalPieces) (run : WorkflowRun)

variable (actor) in
theorem settleUnlessCancelled_uses {settle : LeaseProgram RunResult}
    (closing : settle.Uses OwnRelease) :
    (settleUnlessCancelled engine actor pieces run settle).Uses OwnRelease := by
  refine asked_bind_uses (takeCancelIntent_leaves engine.settings run.id) fun cancelled => ?_
  split
  · exact compensateAndCancel_uses engine.settings run pieces.compensations
  · exact closing

variable (actor) in
theorem completeContinued_uses : (completeContinued actor pieces run).Uses OwnRelease := by
  refine asked_bind_uses pieces.startContinuation.leaves fun _ => ?_
  exact asked_bind_uses ⟨rfl, fun _ => trivial⟩ fun _ => trivial

theorem endTurn_uses (ending : BodyEnd) :
    (endTurn engine actor pieces run ending).Uses OwnRelease := by
  have settled : ∀ outcome, (settleRun actor engine.settings pieces.routeFailure run outcome).Uses
      OwnRelease := settleRun_uses engine.settings pieces.routeFailure run
  cases ending with
  | returned output =>
    have closing := settleUnlessCancelled_uses actor engine pieces run (settled (.completed output))
    exact Program.uses_bind closing fun _ => trivial
  | suspended wakeAt =>
    have closing := settleUnlessCancelled_uses actor engine pieces run (settled (.suspended wakeAt))
    exact Program.uses_bind closing fun _ => trivial
  | blocked reason =>
    exact Program.uses_bind (parkBlocked_uses engine.settings run reason) fun _ => trivial
  | continuedAsNew =>
    have closing := settleUnlessCancelled_uses actor engine pieces run
      (completeContinued_uses actor pieces run)
    exact Program.uses_bind (fenced_uses closing) fun _ => trivial
  | threw error =>
    have unwound : (asked actor pieces.compensations.work >>= fun _ =>
        settleRun actor engine.settings pieces.routeFailure run (.failed error)).Uses
          OwnRelease :=
      asked_bind_uses pieces.compensations.leaves fun _ => settled (.failed error)
    have closing := settleUnlessCancelled_uses actor engine pieces run unwound
    exact Program.uses_bind closing fun _ => trivial

theorem runExecution_uses : (runExecution engine actor pieces run).Uses OwnRelease := by
  refine asked_bind_uses (markStarted_leaves run pieces.tags) fun _ => ?_
  refine Program.uses_bind (admitted_uses pieces.admission) fun admitted => ?_
  split
  · have body : (runBody engine actor pieces run).Uses OwnRelease := by
      refine asked_bind_uses pieces.handoff.leaves fun handed => ?_
      cases handed with
      | none => exact asked_bind_uses pieces.body.leaves (endTurn_uses engine pieces run)
      | some outcome =>
        exact Program.uses_bind
          (settleRun_uses engine.settings pieces.routeFailure run outcome) fun _ => trivial
    refine Program.uses_bind body fun parked => ?_
    split
    · exact letGoOfSuspendedTurn_uses pieces.spendReasons run.id letGoRounds
    · exact releaseOwnLock_uses run.id
  · exact singletonWaitResult_uses run.id

end InProcess

section Remote

variable (pieces : RemotePieces) (run : WorkflowRun)

theorem applyDecision_uses (decision : RemoteDecision) :
    (applyDecision engine actor pieces run decision).Uses OwnRelease := by
  have settled : ∀ outcome, (settleRun actor engine.settings pieces.routeFailure run outcome >>=
      fun _ => Program.done ()).Uses OwnRelease := fun outcome =>
    Program.uses_bind (settleRun_uses engine.settings pieces.routeFailure run outcome)
      fun _ => trivial
  refine asked_bind_uses pieces.applyCommands.leaves fun wakeAt => ?_
  cases decision with
  | completed output => exact settled (.completed output)
  | failed error => exact settled _
  | cancelled => exact asked_bind_uses ⟨rfl, fun _ => trivial⟩ fun _ => trivial
  | «continue» => exact settled (.suspended wakeAt)

theorem dispatchRemoteTurn_uses (taskId : String) (windowMs : Option Nat)
    (send : Piece (Option StepError)) :
    (dispatchRemoteTurn engine actor run taskId windowMs send).Uses OwnRelease := by
  apply fenced_uses
  refine perform_bind_uses trivial fun now => ?_
  refine asked_bind_uses ⟨rfl, fun _ => trivial⟩ fun marked => ?_
  refine Program.uses_bind (releaseTurnLease_uses run.id) fun _ => ?_
  split
  · refine asked_bind_uses send.leaves fun failed => ?_
    cases failed with
    | none => trivial
    | some error =>
      exact asked_uses actor (failUndispatchedTurn_leaves engine.settings run taskId error)
  · exact asked_uses actor (echoCurrentStatus_leaves run.id)

theorem advanceRemoteTurn_uses (await : Piece AdvanceEnd) :
    (advanceRemoteTurn engine actor pieces run await).Uses OwnRelease := by
  refine asked_bind_uses await.leaves fun ended => ?_
  cases ended with
  | decided decision => exact applyDecision_uses engine pieces run decision
  | timedOut =>
    exact asked_bind_uses ⟨rfl, fun _ => trivial⟩ fun _ => releaseTurnLease_uses run.id
  | threw error =>
    exact asked_bind_uses ⟨withLifecycleMarker_lockedBy _ _ _, fun _ => trivial⟩ fun _ => trivial

theorem runRemoteTurn_uses : (runRemoteTurn engine actor pieces run).Uses OwnRelease := by
  have settled : ∀ outcome, (settleRun actor engine.settings pieces.routeFailure run outcome >>=
      fun _ => Program.done ()).Uses OwnRelease := fun outcome =>
    Program.uses_bind (settleRun_uses engine.settings pieces.routeFailure run outcome)
      fun _ => trivial
  refine asked_bind_uses pieces.handoff.leaves fun handed => ?_
  cases handed with
  | some outcome => exact settled outcome
  | none =>
    refine asked_bind_uses pieces.turnInput.leaves fun invalid => ?_
    cases invalid with
    | some error => exact settled (.failed error)
    | none =>
      dsimp only
      split
      · exact Program.uses_bind (dispatchRemoteTurn_uses engine run _ _ _) fun _ => trivial
      · exact advanceRemoteTurn_uses engine pieces run _

theorem runRemoteExecution_uses :
    (runRemoteExecution engine actor pieces run).Uses OwnRelease := by
  refine asked_bind_uses (takeCancelIntent_leaves engine.settings run.id) fun cancelled => ?_
  split
  · exact Program.uses_bind (compensateAndCancel_uses engine.settings run _) fun _ => trivial
  · refine perform_bind_uses trivial fun now => ?_
    split
    · exact releaseTurnLease_uses run.id
    · refine asked_bind_uses (markStarted_leaves run pieces.tags) fun _ => ?_
      refine Program.uses_bind (admitted_uses pieces.admission) fun admitted => ?_
      split
      · refine asked_bind_uses pieces.blocked.leaves fun blocked => ?_
        cases blocked with
        | none => exact runRemoteTurn_uses engine pieces run
        | some reason =>
          exact Program.uses_bind (parkBlocked_uses engine.settings run reason) fun _ => trivial
      · exact singletonWaitResult_uses run.id

end Remote

theorem lockRunPastLifecyclePublish_uses (runId : String) (nowMs attempts : Nat) :
    (lockRunPastLifecyclePublish engine actor runId nowMs attempts).Uses OwnRelease := by
  induction attempts generalizing nowMs with
  | zero => exact ⟨trivial, fun _ => trivial⟩
  | succ attempts ih =>
    refine perform_bind_uses trivial fun acquired => ?_
    split
    · trivial
    · refine perform_bind_uses trivial fun held => ?_
      split
      · exact perform_bind_uses trivial fun later => ih later
      · trivial

theorem proveOwnLease_uses (runId : String) (nowMs : Nat) :
    (proveOwnLease engine actor runId nowMs).Uses OwnRelease := by
  refine perform_bind_uses trivial fun before => ?_
  split
  · trivial
  · exact perform_bind_uses trivial fun _ => perform_bind_uses trivial fun _ => trivial

theorem leaseForTurn_uses (attempts : Nat) (lockedForTurn : Bool) (run : WorkflowRun) :
    (leaseForTurn engine actor attempts lockedForTurn run).Uses OwnRelease := by
  have reenters : ∀ lockNow,
      (reentered engine actor lockedForTurn run lockNow).Uses OwnRelease := by
    intro lockNow
    unfold reentered
    split
    · split
      · trivial
      · exact proveOwnLease_uses engine run.id lockNow
    · trivial
  refine perform_bind_uses trivial fun lockNow => ?_
  refine Program.uses_bind (reenters lockNow) fun held => ?_
  split
  · trivial
  · exact lockRunPastLifecyclePublish_uses engine run.id lockNow attempts

theorem execute_uses (workload : TurnWorkload) (attempts : Nat) (lockedForTurn : Bool)
    (run : WorkflowRun) :
    (execute engine actor workload attempts lockedForTurn run).Uses OwnRelease := by
  have served : (serveWakes actor run).Uses OwnRelease := by
    unfold serveWakes
    split
    · exact asked_bind_uses ⟨rfl, fun _ => trivial⟩ fun _ => trivial
    · trivial
  have worked : (runWorkload engine actor workload run).Uses OwnRelease := by
    cases workload with
    | inProcess pieces => exact runExecution_uses engine pieces run
    | remote pieces => exact runRemoteExecution_uses engine pieces run
  refine Program.uses_bind (leaseForTurn_uses engine attempts lockedForTurn run) fun held => ?_
  split
  · refine Program.uses_bind served fun _ => perform_bind_uses trivial fun _ => ?_
    exact Program.uses_bind worked fun _ => ⟨trivial, fun _ => trivial⟩
  · trivial

theorem resumeRunNow_uses (workload : TurnWorkload) (attempts : Nat)
    (lockedForTurn allowFailed foreign : Bool) (runId : String) :
    (resumeRunNow engine actor workload attempts lockedForTurn allowFailed foreign runId).Uses
      OwnRelease := by
  refine perform_bind_uses trivial fun found => ?_
  cases found with
  | none => trivial
  | some run =>
    dsimp only
    split
    · trivial
    · split
      · exact releaseOwnLock_uses runId
      · exact execute_uses engine workload attempts lockedForTurn run

end Turns

section Sweeps

variable (engine : EngineInstance) {runId : String}

theorem leased_uses {now : Nat} {first : LeaseProgram Unit} (closing : first.Uses OwnRelease) :
    (tryLockRun actor runId (now + engine.leaseMs) now >>= fun acquired =>
      if acquired = true then first else pure ()).Uses OwnRelease := by
  refine perform_bind_uses trivial fun acquired => ?_
  split
  · exact closing
  · trivial

theorem resumeLeased_uses (workload : TurnWorkload) (draining : Bool) (redispatch : Piece Unit)
    (foreign : Bool) :
    (resumeLeased engine actor runId workload draining redispatch foreign).Uses OwnRelease := by
  refine perform_bind_uses trivial fun nowMs => leased_uses engine ?_
  split
  · exact releaseOwnLock_uses runId
  · exact asked_bind_uses redispatch.leaves fun _ =>
      resumeRunNow_uses engine workload 0 true false foreign runId

theorem handOffDue_uses (redispatch : Piece Unit) (run : WorkflowRun) :
    (handOffDue engine actor redispatch run).Uses OwnRelease := by
  have finished : (releaseOwnLock actor run.id >>= fun _ => note actor run.id .unclaimed).Uses
      OwnRelease :=
    Program.uses_bind (releaseOwnLock_uses run.id) fun _ => ⟨trivial, fun _ => trivial⟩
  refine perform_bind_uses trivial fun nowMs => perform_bind_uses trivial fun _ => ?_
  refine perform_bind_uses trivial fun acquired => ?_
  split
  · refine asked_bind_uses ⟨rfl, fun _ => trivial⟩ fun claimed => ?_
    split
    · exact asked_bind_uses redispatch.leaves fun _ => finished
    · exact finished
  · exact ⟨trivial, fun _ => trivial⟩

theorem releaseStaleSelfLease_uses :
    (releaseStaleSelfLease engine actor runId).Uses OwnRelease := by
  refine perform_bind_uses trivial fun found => ?_
  cases found with
  | none => trivial
  | some run =>
    dsimp only
    split
    · exact releaseOwnLock_uses runId
    · trivial

theorem askedThenReleased_uses {α : Type} {work : Engine α} (leaves : work.Uses LeavesLease) :
    (asked actor work >>= fun _ => releaseOwnLock actor runId).Uses OwnRelease :=
  asked_bind_uses leaves fun _ => releaseOwnLock_uses runId

theorem recoverIncomplete_uses (redispatch : Piece Unit) (orphan : Orphan) :
    (recoverIncomplete engine actor runId redispatch orphan).Uses OwnRelease := by
  refine perform_bind_uses trivial fun nowMs => leased_uses engine ?_
  refine asked_bind_uses redispatch.leaves fun _ => ?_
  exact askedThenReleased_uses (recoverIncomplete_leaves _ runId orphan)

theorem settleUnregistered_uses (graceOver : Bool) (error : StepError) :
    (settleUnregistered engine actor runId graceOver error).Uses OwnRelease :=
  perform_bind_uses trivial fun _ => leased_uses engine <|
    askedThenReleased_uses (settleUnregistered_leaves _ graceOver error runId)

theorem wake_uses (workload : TurnWorkload) (foreign : Bool) :
    (wake engine actor runId workload foreign).Uses OwnRelease := by
  refine perform_bind_uses trivial fun nowMs => leased_uses engine ?_
  refine perform_bind_uses trivial fun found => ?_
  cases found with
  | none => exact releaseOwnLock_uses runId
  | some fresh =>
    dsimp only
    split
    · exact resumeRunNow_uses engine workload 0 false false foreign runId
    · exact releaseOwnLock_uses runId

theorem leaseForDecision_uses (taskId : String) (attempts : Nat) :
    (leaseForDecision engine actor runId taskId attempts).Uses OwnRelease := by
  induction attempts with
  | zero => trivial
  | succ attempts ih =>
    refine perform_bind_uses trivial fun found => ?_
    cases found with
    | none => trivial
    | some run =>
      dsimp only
      split
      · refine perform_bind_uses trivial fun now => ?_
        split
        · trivial
        · refine perform_bind_uses trivial fun acquired => ?_
          split
          · trivial
          · exact ih
      · trivial

theorem applyRemoteDecision_uses (pieces : RemotePieces) (taskId : String)
    (decision : RemoteDecision) (attempts : Nat) :
    (applyRemoteDecision engine actor runId pieces taskId decision attempts).Uses OwnRelease := by
  have applied : ∀ fresh,
      (claimAndApply engine actor runId pieces taskId decision fresh).Uses OwnRelease := by
    intro fresh
    cases fresh with
    | none => trivial
    | some run =>
      simp only [claimAndApply]
      split
      · refine asked_bind_uses ⟨rfl, fun _ => trivial⟩ fun claimed => ?_
        split
        · exact applyDecision_uses engine pieces _ decision
        · trivial
      · trivial
  refine Program.uses_bind (leaseForDecision_uses engine taskId attempts) fun held => ?_
  split
  · refine perform_bind_uses trivial fun _ => perform_bind_uses trivial fun fresh => ?_
    refine Program.uses_bind (applied fresh) fun _ => ?_
    exact perform_bind_uses trivial fun _ => releaseOwnLock_uses runId
  · trivial

theorem renewTick_uses : (renewTick engine actor runId).Uses OwnRelease := by
  refine perform_bind_uses trivial fun before => ?_
  split
  · refine perform_bind_uses trivial fun now => perform_bind_uses trivial fun renewed => ?_
    split
    · trivial
    · refine perform_bind_uses trivial fun later => ?_
      split
      · trivial
      · exact ⟨trivial, fun _ => trivial⟩
  · trivial

theorem withLifecycleLease_releases (work : Piece Unit) (attempts : Nat) :
    (withLifecycleLease engine actor runId work attempts).Uses OwnRelease := by
  induction attempts with
  | zero => trivial
  | succ attempts ih =>
    refine perform_bind_uses trivial fun nowMs => perform_bind_uses trivial fun acquired => ?_
    split
    · exact askedThenReleased_uses work.leaves
    · exact ih

theorem requeue_uses (reset : Piece Unit) (recoveryAttempts : Option Nat)
    (tags : Option (List String)) :
    (requeue actor runId reset recoveryAttempts tags).Uses OwnRelease := by
  refine perform_bind_uses trivial fun found => ?_
  cases found with
  | none => trivial
  | some run =>
    refine asked_bind_uses reset.leaves fun _ => perform_bind_uses (.inl rfl) fun _ => ?_
    exact asked_bind_uses ⟨rfl, fun _ => trivial⟩ fun _ => trivial

end Sweeps

end LeaseProgram

open LeaseProgram in
theorem LeasePath.uses_ownRelease (number : Nat) (path : LeasePath) :
    (path.program number).Uses OwnRelease := by
  cases path with
  | resume engine workload attempts allowFailed foreign runId =>
    exact resumeRunNow_uses engine workload attempts false allowFailed foreign runId
  | resumeLeased engine workload draining redispatch foreign runId =>
    exact resumeLeased_uses engine workload draining redispatch foreign
  | wake engine workload foreign runId => exact wake_uses engine workload foreign
  | applyRemoteDecision engine pieces taskId decision attempts runId =>
    exact applyRemoteDecision_uses engine pieces taskId decision attempts
  | renewTick engine runId => exact renewTick_uses engine
  | handOffDue engine redispatch run => exact handOffDue_uses engine redispatch run
  | releaseStaleSelfLease engine runId => exact releaseStaleSelfLease_uses engine
  | recoverIncomplete engine redispatch orphan runId =>
    exact recoverIncomplete_uses engine redispatch orphan
  | settleUnregistered engine graceOver error runId =>
    exact settleUnregistered_uses engine graceOver error
  | releaseInflightLock engine runId =>
    exact perform_bind_uses trivial fun _ => releaseOwnLock_uses runId
  | publishSettled engine call work attempts runId =>
    exact withLifecycleLease_releases engine work attempts
  | requeue engine reset recoveryAttempts tags runId =>
    exact requeue_uses reset recoveryAttempts tags
  | cancel engine compensate runId =>
    exact asked_bind_uses (cancel_leaves _ compensate runId) fun _ => trivial
  | sweepTimeout engine run =>
    exact asked_bind_uses ⟨withLifecycleMarker_lockedBy _ _ _, fun _ => trivial⟩ fun _ => trivial

end Durable
