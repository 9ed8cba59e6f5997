import Durable.Engine.Continuations
import Durable.Proofs.Ctx.ChainIds
import Durable.Proofs.Store.Operations

/-! When a continue-as-new chain neither breaks nor forks. -/

namespace Durable

open Interleaving

namespace ContinueSite

variable {site : ContinueSite} {op : ContinueOp} {phase : Phase} {runId : String}
  {run : WorkflowRun} {store : Store}

section Programs

open ContinueProgram

variable {α : Type} {turn : ContinueTurn} {patch : RunPatch} {ends : Phase → α → Prop}
  {instanceId : String}

theorem nextId_ne (site : ContinueSite) : site.nextId ≠ site.runId := nextContinuationId_ne site.runId

/-- A call made for nobody's handoff, which leaves the ends to the turns. -/
def Aside (op : ContinueOp) : Prop := op.who = none ∧ site.Open op.call

theorem advance_aside (aside : site.Aside op) (outside : phase = .opened ∨ phase = .picked)
    (answer : op.Answer) : site.advance phase op answer = phase := by
  obtain ⟨who, call⟩ := op
  obtain ⟨none, -⟩ := aside
  dsimp only at none
  subst none
  rcases outside with rfl | rfl
  · cases call <;> rfl
  · cases call <;> rfl

theorem aside_meets {program : ContinueProgram α} (uses : program.Uses site.Aside)
    (outside : phase = .opened ∨ phase = .picked) :
    program.Meets site.monitor (fun after _ => after = phase) phase := by
  refine Program.Uses.meets uses (fun op aside => ?_) fun op answer aside =>
    advance_aside aside outside answer
  rcases outside with rfl | rfl
  · exact aside.2
  · exact aside.2

theorem asked_uses {work : Engine α} (beside : site.Beside work) :
    (asked none work).Uses site.Aside := by
  induction work with
  | done result => trivial
  | call op next ih => exact ⟨⟨rfl, beside.1⟩, fun answer => ih answer (beside.2 answer)⟩

theorem open_of_unwritten {call : ContinueCall} (unwritten : ∀ runId, patchOf runId call = none) :
    site.Open call := by
  constructor
  · intro guard patch written
    rw [unwritten] at written
    cases written
  · intro guard patch written
    rw [unwritten] at written
    cases written

theorem open_updateRun (goesOn : patch.status ≠ some .completed)
    (stays : patch.status ≠ some .failed) : site.Open (.store (.updateRun site.runId patch)) := by
  constructor
  · intro guard written found
    simp only [patchOf, if_true, Option.some.injEq, Prod.mk.injEq] at found
    rw [← found.2]
    exact ⟨goesOn, stays⟩
  · intro guard written found
    simp [patchOf, (nextId_ne site).symm] at found

theorem open_updateRunIf {expected : List RunStatus} (goesOn : patch.status ≠ some .completed)
    (stays : patch.status ≠ some .failed) :
    site.Open (.store (.updateRunIf site.runId expected patch)) := by
  constructor
  · intro guard written found
    simp only [patchOf, if_true, Option.some.injEq, Prod.mk.injEq] at found
    rw [← found.2]
    exact ⟨goesOn, stays⟩
  · intro guard written found
    simp [patchOf, (nextId_ne site).symm] at found

theorem echo_beside (runId : String) : site.Beside (discard (echoCurrentStatus runId)) := by
  refine ⟨open_of_unwritten fun _ => rfl, fun stored => ?_⟩
  cases stored <;> trivial

/-- The lifecycle marker leaves the status of a patch as it is. -/
@[simp] theorem withLifecycleMarker_status (marker : Option String) (run : WorkflowRun)
    (patch : RunPatch) : (withLifecycleMarker marker run patch).status = patch.status := by
  cases marker <;> rfl

theorem writeCancelled_beside (marker : Option String) (run : WorkflowRun) :
    site.Beside (discard (writeCancelled marker { run with id := site.runId })) := by
  refine ⟨open_updateRun ?_ ?_, fun _ => trivial⟩
  · simp
  · simp

theorem markStarted_beside (run : WorkflowRun) (tags : Option (List String)) :
    site.Beside (markStarted { run with id := site.runId } tags) := by
  unfold markStarted
  split
  · refine ⟨open_updateRun ?_ ?_, fun _ => trivial⟩
    · simp
    · simp
  · trivial

theorem takeCancelIntent_beside (settings : TurnSettings) :
    site.Beside (takeCancelIntent settings site.runId) := by
  unfold takeCancelIntent
  split
  · trivial
  · refine ⟨open_of_unwritten fun _ => rfl, fun marker => ?_⟩
    cases marker with
    | none => trivial
    | some payload => exact ⟨open_of_unwritten fun _ => rfl, fun _ => trivial⟩

theorem cancelRun_beside (marker : Option String) (compensate : Bool) :
    site.Beside (site.cancelRun marker compensate) := by
  refine Program.uses_perform (open_of_unwritten fun _ => rfl) fun stored => ?_
  cases stored with
  | none => trivial
  | some run =>
    dsimp only
    split
    · trivial
    · split
      · exact ⟨open_of_unwritten fun _ => rfl, fun _ => trivial⟩
      · exact writeCancelled_beside marker run

theorem timeout_beside (marker : Option String) (run : WorkflowRun) :
    site.Beside (discard (sweepTimeout marker { run with id := site.runId })) := by
  refine ⟨open_updateRunIf ?_ ?_, fun _ => trivial⟩
  · simp
  · simp

theorem recoverRun_beside (marker : Option String) (orphan : Orphan) :
    site.Beside (site.recoverRun marker orphan) := by
  refine Program.uses_perform (open_of_unwritten fun _ => rfl) fun stored => ?_
  cases stored with
  | none => trivial
  | some run =>
    dsimp only
    split
    · cases orphan with
      | dispatched wakeAt =>
        refine ⟨open_updateRunIf ?_ ?_, fun _ => trivial⟩
        · simp
        · simp
      | poisoned error =>
        refine ⟨open_updateRunIf ?_ ?_, fun _ => trivial⟩
        · simp
        · simp
      | recoverable =>
        refine Program.uses_perform (open_updateRun ?_ ?_) fun _ => ?_
        · simp
        · simp
        · refine ⟨open_updateRunIf ?_ ?_, fun _ => trivial⟩
          · simp
          · simp
    · trivial

theorem counted_meets {query : CountQuery} {rest : Nat → ContinueProgram α}
    (goes : ∀ answer, site.Below query answer → (rest answer).Meets site.monitor ends .opened) :
    (countRuns (some instanceId) query >>= rest).Meets site.monitor ends .opened :=
  ⟨open_of_unwritten fun _ => rfl, fun answer fits => goes answer fits⟩

theorem lookedUp_meets {rest : Option WorkflowRun → ContinueProgram α}
    (missing : (rest none).Meets site.monitor ends .opened)
    (found : ∀ prior, (rest (some prior)).Meets site.monitor ends .persisted) :
    (asked (some instanceId) (Engine.getRun site.nextId) >>= rest).Meets site.monitor ends
      .opened := by
  refine ⟨open_of_unwritten fun _ => rfl, fun answer _ => ?_⟩
  cases answer with
  | none => exact missing
  | some prior =>
    have seen : site.monitor.advance .opened ⟨some instanceId, .store (.getRun site.nextId)⟩
        (some prior : Option WorkflowRun) = .persisted := by
      simp [monitor, advance]
    rw [seen]
    exact found prior

/-- Within its bounds, a start goes through to a continuation that exists. -/
theorem startCore_opens (accepts : site.Accepts) (instanceId : String) :
    (site.startCore (some instanceId)).Meets site.monitor
      (fun phase result => phase = .persisted ∧ ∃ status, result = .ok status) .opened := by
  have persists : (site.persist (some instanceId)).Meets site.monitor
      (fun phase result => phase = .persisted ∧ ∃ status, result = .ok status) .opened := by
    refine ⟨open_of_unwritten fun _ => rfl, fun created _ => ?_⟩
    have seen : site.advance .opened
        ⟨some instanceId, .store (.createRun site.startRow)⟩ created = .persisted := by
      simp [advance, startRow]
    change Program.Meets site.monitor _ _ (site.advance .opened _ created)
    rw [seen]
    cases created with
    | true => exact ⟨rfl, .pending, rfl⟩
    | false =>
      -- The id is taken, so the continuation is found under it.
      refine ⟨.inr rfl, fun found fits => ?_⟩
      cases found with
      | none => exact absurd rfl (fits rfl)
      | some winner => exact ⟨rfl, winner.status, rfl⟩
  have capacity : (site.assertCapacity (some instanceId) (site.persist (some instanceId))).Meets
      site.monitor (fun phase result => phase = .persisted ∧ ∃ status, result = .ok status)
        .opened := by
    unfold assertCapacity
    cases single : site.registered.singleton with
    | none => exact persists
    | some config =>
      cases depth : config.maxQueueDepth with
      | none => simpa only [depth] using persists
      | some bound =>
        simp only [depth]
        refine counted_meets fun queued fits => ?_
        have below : (queued : Int) < config.limit.getD 1 + bound := by
          refine fits.2 config (by simp [single]) _ ?_ rfl
          simp [SingletonConfig.cap, depth]
        have room : ¬config.limit.getD 1 + bound ≤ (queued : Int) := by omega
        simp only [room, if_false]
        exact persists
  have concurrency : (site.assertConcurrency (some instanceId)
      (site.assertCapacity (some instanceId) (site.persist (some instanceId)))).Meets site.monitor
        (fun phase result => phase = .persisted ∧ ∃ status, result = .ok status) .opened := by
    unfold assertConcurrency
    cases limited : site.quota with
    | none => exact capacity
    | some quota =>
      have positive : ¬quota.limit ≤ 0 := by
        have := accepts.positive quota (by simp [limited])
        omega
      simp only [positive, if_false]
      refine counted_meets fun active fits => ?_
      have below : (active : Int) < quota.limit := fits.1 quota (by simp [limited]) rfl
      have room : ¬quota.limit ≤ (active : Int) := by omega
      simp only [room, if_false]
      exact capacity
  unfold startCore
  simp only [accepts.valid]
  split
  · exact lookedUp_meets concurrency fun prior => ⟨rfl, prior.status, rfl⟩
  · exact concurrency

theorem startCore_converges (accepts : site.Accepts) (instanceId : String) :
    (site.startCore (some instanceId)).Meets site.monitor
      (fun phase result => ∃ status, result = .ok status ∧
        (phase = .picked ∨ status = .pending ∧ phase = .handed)) .handed := by
  have finds : ∀ rest : Option WorkflowRun → ContinueProgram (Except StepError RunStatus),
      (∀ prior, rest (some prior) = .done (.ok prior.status)) →
        (asked (some instanceId) (Engine.getRun site.nextId) >>= rest).Meets site.monitor
          (fun phase result => ∃ status, result = .ok status ∧
            (phase = .picked ∨ status = .pending ∧ phase = .handed)) .handed := by
    intro rest answers
    refine ⟨.inl rfl, fun found fits => ?_⟩
    cases found with
    | none => exact absurd rfl (fits rfl)
    | some prior =>
      change Program.Meets site.monitor _ (rest (some prior)) _
      rw [answers prior]
      refine ⟨prior.status, rfl, ?_⟩
      by_cases pending : prior.status = .pending
      · exact .inr ⟨pending, by simp [monitor, advance, pending]⟩
      · exact .inl (by simp [monitor, advance, pending])
  have persists : (site.persist (some instanceId)).Meets site.monitor
      (fun phase result => ∃ status, result = .ok status ∧
        (phase = .picked ∨ status = .pending ∧ phase = .handed)) .handed := by
    refine ⟨.inr (.inl rfl), fun created fits => ?_⟩
    have taken : created = false := fits rfl
    subst taken
    exact finds _ fun _ => rfl
  unfold startCore
  simp only [accepts.valid]
  split
  · exact finds _ fun _ => rfl
  · rename_i plain
    -- Without a quota and a singleton, a start goes straight to the insert.
    simp only [Bool.or_eq_true, not_or, Option.not_isSome_iff_eq_none] at plain
    have unlimited : site.quota = none := by
      simp [quota, resolveConcurrency, plain.2]
    simpa only [assertConcurrency, unlimited, assertCapacity, plain.1] using persists

theorem handoffRun_meets (accepts : site.Accepts) (instanceId : String) :
    (site.handoffRun (some instanceId)).Meets site.monitor (fun phase _ => phase = .picked)
      .handed := by
  refine Program.meets_bind (startCore_converges accepts instanceId) ?_
  rintro phase result ⟨status, rfl, taken | ⟨rfl, rfl⟩⟩
  · subst taken
    cases status with
    | pending => exact ⟨open_of_unwritten fun _ => rfl, fun _ _ => rfl⟩
    | _ => rfl
  · exact ⟨.inr (.inr rfl), fun _ _ => rfl⟩

/-- A turn is not amid its handoff, and has come to a good end. -/
def Through (phase : Phase) (result : ContinueEnd) : Prop :=
  (phase = .opened ∨ phase = .picked) ∧ Ended phase result

theorem handOn_meets (accepts : site.Accepts) (instanceId : String) :
    (site.handOn instanceId).Meets site.monitor Through .opened := by
  refine Program.meets_bind (startCore_opens accepts instanceId) ?_
  rintro phase started ⟨rfl, status, rfl⟩
  have completes : (asked (some instanceId)
      (discard (Engine.updateRun site.runId completedPatch))).Meets site.monitor
        (fun phase _ => phase = .handed) .persisted := ⟨.inl rfl, fun _ _ => rfl⟩
  refine Program.meets_bind completes ?_
  rintro phase written rfl
  refine Program.meets_bind (handoffRun_meets accepts instanceId) ?_
  rintro phase handed rfl
  exact ⟨.inr rfl, rfl⟩

theorem echoes_meets : (asked none (discard (echoCurrentStatus site.runId)) >>= fun _ =>
    (.done .echoed : ContinueProgram ContinueEnd)).Meets site.monitor Through .opened := by
  refine Program.meets_bind (aside_meets (asked_uses (echo_beside site.runId)) (.inl rfl)) ?_
  rintro phase result rfl
  exact ⟨.inl rfl, trivial⟩

theorem compensateAndCancelTurn_meets (compensated : site.Beside turn.compensations) :
    (site.compensateAndCancelTurn turn).Meets site.monitor Through .opened := by
  refine ⟨open_of_unwritten fun _ => rfl, fun lost _ => ?_⟩
  cases lost with
  | true => exact echoes_meets
  | false =>
    have cancels : (asked none (discard (writeCancelled turn.settings.marker
        { turn.run with id := site.runId })) >>= fun _ =>
          (.done .cancelled : ContinueProgram ContinueEnd)).Meets site.monitor Through .opened := by
      refine Program.meets_bind
        (aside_meets (asked_uses (writeCancelled_beside _ turn.run)) (.inl rfl)) ?_
      rintro phase written rfl
      exact ⟨.inl rfl, trivial⟩
    have unwinds : (asked none turn.compensations >>= fun _ =>
        asked none (discard (writeCancelled turn.settings.marker
          { turn.run with id := site.runId })) >>= fun _ =>
            (.done .cancelled : ContinueProgram ContinueEnd)).Meets site.monitor Through .opened := by
      refine Program.meets_bind (aside_meets (asked_uses compensated) (.inl rfl)) ?_
      rintro phase undone rfl
      exact cancels
    exact unwinds

theorem continueAsNew_meets (accepts : site.Accepts)
    (compensated : site.Beside turn.compensations) :
    (site.continueAsNew turn).Meets site.monitor Through .opened := by
  have hands : (site.handOnUnlessCancelled turn).Meets site.monitor Through .opened := by
    refine Program.meets_bind
      (aside_meets (asked_uses (takeCancelIntent_beside turn.settings)) (.inl rfl)) ?_
    rintro phase intended rfl
    cases intended with
    | true => exact compensateAndCancelTurn_meets compensated
    | false => exact handOn_meets accepts turn.instanceId
  refine ⟨open_of_unwritten fun _ => rfl, fun lost _ => ?_⟩
  cases lost with
  | true => exact echoes_meets
  | false => exact hands

theorem runTurn_meets (accepts : site.Accepts) (bodied : site.Beside turn.body)
    (compensated : site.Beside turn.compensations) :
    (site.runTurn turn).Meets site.monitor Ended .opened := by
  refine Program.meets_bind
    (aside_meets (asked_uses (markStarted_beside turn.run turn.tags)) (.inl rfl)) ?_
  rintro phase started rfl
  refine Program.meets_bind (aside_meets (asked_uses bodied) (.inl rfl)) ?_
  rintro phase done rfl
  refine Program.meets_bind (continueAsNew_meets accepts compensated) ?_
  rintro phase result ⟨rfl | rfl, ended⟩
  · exact ⟨open_of_unwritten fun _ => rfl, fun _ _ => ended⟩
  · exact ⟨open_of_unwritten fun _ => rfl, fun _ _ => ended⟩

theorem turnProgram_meets (accepts : site.Accepts) (bodied : site.Beside turn.body)
    (compensated : site.Beside turn.compensations) :
    (site.turnProgram turn).Meets site.monitor Ended .opened := by
  unfold turnProgram
  split
  · exact runTurn_meets accepts bodied compensated
  · refine ⟨open_of_unwritten fun _ => rfl, fun now _ => ?_⟩
    refine ⟨open_of_unwritten fun _ => rfl, fun locked _ => ?_⟩
    cases locked with
    | true => exact runTurn_meets accepts bodied compensated
    | false => trivial

theorem besideProgram_meets {path : Engine Unit} (beside : site.Beside path) :
    (besideProgram path).Meets site.monitor Ended .opened := by
  refine Program.meets_bind (aside_meets (asked_uses beside) (.inl rfl)) ?_
  rintro phase result rfl
  trivial

theorem Path.follows (accepts : site.Accepts) {program : ContinueProgram ContinueEnd}
    (path : site.Path program) :
    Process.Follows site.monitor Ended { phase := .opened, rest := program } := by
  refine Process.follows_once ?_
  cases path with
  | turn bodied compensated => exact turnProgram_meets accepts bodied compensated
  | cancel marker compensate => exact besideProgram_meets (cancelRun_beside marker compensate)
  | timeout marker run => exact besideProgram_meets (timeout_beside marker run)
  | recovery marker orphan => exact besideProgram_meets (recoverRun_beside marker orphan)
  | takeOver owner leaseUntilMs nowMs =>
    exact ⟨open_of_unwritten fun _ => rfl, fun _ _ => trivial⟩
  | renew owner leaseUntilMs => exact ⟨open_of_unwritten fun _ => rfl, fun _ _ => trivial⟩
  | beside uses => exact besideProgram_meets uses

end Programs

section Rows

variable {board : ContinueBoard} {call : ContinueCall}

/-- What a call does to the row of a run. -/
inductive RowMove (board : ContinueBoard) (call : ContinueCall) (runId : String) :
    Option WorkflowRun → Option WorkflowRun → Prop where
  | same (row : Option WorkflowRun) : RowMove board call runId row row
  | created (run : WorkflowRun) (made : call = .store (.createRun run)) (own : run.id = runId) :
      RowMove board call runId none (some run)
  | patched (guard : Option (List RunStatus)) (patch : RunPatch) (run : WorkflowRun)
      (written : patchOf runId call = some (guard, patch))
      (applies : guard.all (·.contains run.status) = true) :
      RowMove board call runId (some run) (some (run.patched patch))
  | leased (run other : WorkflowRun) (status : other.status = run.status)
      (input : other.input = run.input) : RowMove board call runId (some run) (some other)
  | picked (run : WorkflowRun) (took : call = .pickUp runId) (pending : run.status = .pending)
      (noted : runId ∈ (performOn board call).1.pickedUp) :
      RowMove board call runId (some run) (some { run with id := runId, status := .running })

theorem RowMove.rewritten {written : String} {other : WorkflowRun}
    (found : board.store.runs.get written = some run) (status : other.status = run.status)
    (input : other.input = run.input) : RowMove board call runId (board.store.runs.get runId)
      ((board.store.runs.set written other).get runId) := by
  by_cases own : written = runId
  · subst own
    rw [found, Table.get_set_self]
    exact .leased run other status input
  · rw [Table.get_set_ne _ _ own]
    exact .same _

/-- A call does one of these to every row. -/
theorem performOn_row (board : ContinueBoard) (call : ContinueCall) (runId : String) :
    RowMove board call runId (board.store.runs.get runId)
      ((performOn board call).1.store.runs.get runId) := by
  cases call with
  | store op =>
    rcases board.store.exec_row_cases op runId with
      kept | ⟨run, made, own, none, after⟩ | ⟨patch, run, found, written, after⟩
    · have same : (performOn board (.store op)).1.store.runs.get runId =
          board.store.runs.get runId := kept
      rw [same]
      exact .same _
    · have row : (performOn board (.store op)).1.store.runs.get runId = some run := after
      rw [row, none]
      exact .created run (by rw [made]) own
    · have row : (performOn board (.store op)).1.store.runs.get runId =
          some (run.patched patch) := after
      rw [row, found]
      rcases written with rfl | ⟨expected, rfl, eligible⟩
      · exact .patched none patch run (by simp [patchOf]) rfl
      · exact .patched (some expected) patch run (by simp [patchOf]) (by simpa using eligible)
  | tryLockRun written owner leaseUntilMs nowMs =>
    simp only [performOn, Store.tryLockRun]
    cases found : board.store.runs.get written with
    | none => exact .same _
    | some run =>
      dsimp only
      split
      · exact .rewritten found rfl rfl
      · exact .same _
  | renewRunLock written owner leaseUntilMs =>
    simp only [performOn, Store.renewRunLock]
    cases found : board.store.runs.get written with
    | none => exact .same _
    | some run =>
      dsimp only
      split
      · exact .rewritten found rfl rfl
      · exact .same _
  | releaseRunLock written owner =>
    simp only [performOn, Store.releaseRunLock]
    cases found : board.store.runs.get written with
    | none => exact .same _
    | some run =>
      dsimp only
      split
      · exact .rewritten found rfl rfl
      · exact .same _
  | leaseLostRuns instanceId => exact .same _
  | countRuns query => exact .same _
  | pickUp written =>
    cases found : board.store.runs.get written with
    | none =>
      simp only [performOn, found]
      exact .same _
    | some run =>
      by_cases pending : run.status = .pending
      · by_cases own : written = runId
        · subst own
          have after : (performOn board (.pickUp written)).1.store.runs.get written =
              some { run with id := written, status := .running } := by
            simp [performOn, found, pending, Store.setRun]
          rw [found, after]
          exact .picked run rfl pending (by simp [performOn, found, pending])
        · have after : (performOn board (.pickUp written)).1.store.runs.get runId =
              board.store.runs.get runId := by
            simp [performOn, found, pending, Store.setRun, Table.get_set_ne _ _ own]
          rw [after]
          exact .same _
      · simp only [performOn, found, pending, if_false]
        exact .same _

theorem performOn_pickedUp (taken : runId ∈ board.pickedUp) :
    runId ∈ (performOn board call).1.pickedUp := by
  cases call with
  | pickUp written =>
    simp only [performOn]
    cases board.store.runs.get written with
    | none => exact taken
    | some run =>
      dsimp only
      split
      · exact List.mem_cons_of_mem _ taken
      · exact taken
  | _ => exact taken

end Rows

section Invariant

/-- What holds of the board in every state that is reached. -/
structure Sound (site : ContinueSite) (board : ContinueBoard) (every : List Phase) : Prop where
  settles : ∃ run, board.store.runs.get site.runId = some run ∧
    (isTerminalStatus run.status = true → run.status = .completed ∨ run.status = .cancelled)
  carries : ∀ row, board.store.runs.get site.nextId = some row →
    row.input = site.input ∧ (row.status ≠ .pending → site.nextId ∈ board.pickedUp)
  continued : ∀ run, board.store.runs.get site.runId = some run → run.status = .completed →
    (board.store.runs.get site.nextId).isSome = true
  fenced : board.trespassed = false
  seen : ∀ phase ∈ every, phase ≠ .opened → (board.store.runs.get site.nextId).isSome = true
  completed : ∀ phase ∈ every, phase = .handed ∨ phase = .picked →
    ∃ run, board.store.runs.get site.runId = some run ∧ run.status = .completed
  taken : ∀ phase ∈ every, phase = .picked → site.nextId ∈ board.pickedUp

theorem Sound.perm {board : ContinueBoard} {before after : List Phase} (same : before.Perm after)
    (sound : Sound site board before) : Sound site board after where
  settles := sound.settles
  carries := sound.carries
  continued := sound.continued
  fenced := sound.fenced
  seen phase member := sound.seen phase (same.mem_iff.mpr member)
  completed phase member := sound.completed phase (same.mem_iff.mpr member)
  taken phase member := sound.taken phase (same.mem_iff.mpr member)

theorem next_unwritten (allowed : site.allows phase op) :
    ∀ guard patch, patchOf site.nextId op.call = some (guard, patch) → patch.status = none := by
  cases phase with
  | opened => exact allowed.2
  | picked => exact allowed.2
  | persisted =>
    intro guard patch written
    rcases allowed with call | call
    · simp [call, patchOf, (nextId_ne site).symm] at written
    · simp [call, patchOf] at written
  | handed =>
    intro guard patch written
    rcases allowed with call | call | call
    · simp [call, patchOf] at written
    · simp [call, patchOf] at written
    · simp [call, patchOf] at written

theorem run_unfailed (allowed : site.allows phase op) :
    ∀ guard patch, patchOf site.runId op.call = some (guard, patch) →
      patch.status ≠ some .failed := by
  cases phase with
  | opened => exact fun guard patch written => (allowed.1 guard patch written).2
  | picked => exact fun guard patch written => (allowed.1 guard patch written).2
  | persisted =>
    intro guard patch written
    rcases allowed with call | call
    · simp only [call, patchOf, if_true, Option.some.injEq, Prod.mk.injEq] at written
      rw [← written.2]
      simp [completedPatch]
    · simp [call, patchOf] at written
  | handed =>
    intro guard patch written
    rcases allowed with call | call | call
    · simp [call, patchOf] at written
    · simp [call, patchOf] at written
    · simp [call, patchOf] at written

variable {board : ContinueBoard} {call : ContinueCall} {others : List Phase} {every : List Phase}

theorem next_carries
    (carries : ∀ row, board.store.runs.get site.nextId = some row →
      row.input = site.input ∧ (row.status ≠ .pending → site.nextId ∈ board.pickedUp))
    (unwritten : ∀ guard patch, patchOf site.nextId call = some (guard, patch) →
      patch.status = none) (own : site.createsOwn board.store call = true) :
    ∀ row, (performOn board call).1.store.runs.get site.nextId = some row →
      row.input = site.input ∧
        (row.status ≠ .pending → site.nextId ∈ (performOn board call).1.pickedUp) := by
  intro row after
  have move := performOn_row board call site.nextId
  rw [after] at move
  generalize before : board.store.runs.get site.nextId = stored at move
  cases move with
  | same =>
    obtain ⟨input, taken⟩ := carries row before
    exact ⟨input, fun begun => performOn_pickedUp (taken begun)⟩
  | created run made named =>
    -- A run that is created under the id is the continuation itself.
    have is : row.status = .pending ∧ row.input = site.input := by
      simpa [createsOwn, made, named, before] using own
    exact ⟨is.2, fun begun => absurd is.1 begun⟩
  | patched guard patch run written applies =>
    obtain ⟨input, taken⟩ := carries run before
    have status : (run.patched patch).status = run.status := by
      simp [WorkflowRun.patched, unwritten guard patch written]
    rw [status]
    exact ⟨input, fun begun => performOn_pickedUp (taken begun)⟩
  | leased run other status input =>
    obtain ⟨carried, taken⟩ := carries run before
    rw [input, status]
    exact ⟨carried, fun begun => performOn_pickedUp (taken begun)⟩
  | picked run took pending noted => exact ⟨(carries run before).1, fun _ => noted⟩

theorem row_stays (there : (board.store.runs.get runId).isSome = true) :
    ((performOn board call).1.store.runs.get runId).isSome = true := by
  have move := performOn_row board call runId
  generalize board.store.runs.get runId = before at move there
  generalize (performOn board call).1.store.runs.get runId = after at move
  cases move with
  | same => exact there
  | created run made own => rfl
  | patched guard patch run written applies => rfl
  | leased run other status input => rfl
  | picked run took pending noted => rfl

/-- What a call makes of the run: it stays completed, and otherwise ends completed or cancelled. -/
theorem run_settles (found : board.store.runs.get site.runId = some run)
    (settled : isTerminalStatus run.status = true →
      run.status = .completed ∨ run.status = .cancelled)
    (unfailed : ∀ guard patch, patchOf site.runId call = some (guard, patch) →
      patch.status ≠ some .failed) (writes : site.writesOpen board.store call = true) :
    ∃ after, (performOn board call).1.store.runs.get site.runId = some after ∧
      (isTerminalStatus after.status = true →
        after.status = .completed ∨ after.status = .cancelled) ∧
      (run.status = .completed → after.status = .completed) ∧
      (after.status = .completed → run.status = .completed ∨
        ∃ guard patch, patchOf site.runId call = some (guard, patch) ∧
          patch.status = some .completed) := by
  have move := performOn_row board call site.runId
  rw [found] at move
  generalize stored : (performOn board call).1.store.runs.get site.runId = row at move
  cases move with
  | same => exact ⟨run, rfl, settled, id, .inl⟩
  | patched guard patch _ written applies =>
    refine ⟨_, rfl, ?_⟩
    cases status : patch.status with
    | none =>
      have kept : (run.patched patch).status = run.status := by
        simp [WorkflowRun.patched, status]
      rw [kept]
      exact ⟨settled, id, .inl⟩
    | some written_ =>
      have becomes : (run.patched patch).status = written_ := by
        simp [WorkflowRun.patched, status]
      rw [becomes]
      -- The write finds the run open, or completes it once more.
      have checked : written_ ≠ .dead ∧ (isTerminalStatus run.status = false ∨
          written_ = .completed ∧ run.status = .completed) := by
        have holds : Option.all (fun expected => decide (run.status ∈ expected)) guard = true := by
          simpa using applies
        simpa [writesOpen, written, status, found, holds] using writes
      have unfailing : written_ ≠ .failed := by
        intro failed
        exact unfailed guard patch written (by rw [status, failed])
      refine ⟨fun terminal => ?_, fun completed => ?_, fun completed =>
        .inr ⟨guard, patch, written, by rw [status, completed]⟩⟩
      · cases written_ with
        | completed => exact .inl rfl
        | cancelled => exact .inr rfl
        | dead => exact absurd rfl checked.1
        | failed => exact absurd rfl unfailing
        | _ => cases terminal
      · rcases checked.2 with opened | again
        · rw [completed] at opened
          cases opened
        · exact again.1
  | leased _ other status input =>
    refine ⟨other, rfl, ?_⟩
    rw [status]
    exact ⟨settled, id, .inl⟩
  | picked _ took pending noted =>
    refine ⟨_, rfl, fun terminal => ?_, fun completed => ?_, fun completed => ?_⟩
    · cases terminal
    · rw [pending] at completed
      cases completed
    · cases completed

theorem Sound.moved {next : Phase} (sound : Sound site board (phase :: others))
    (allowed : site.allows phase op) (clear : site.clear.step board phase others op)
    (completes : ∀ guard patch, patchOf site.runId op.call = some (guard, patch) →
      patch.status = some .completed → phase ≠ .opened) (seen : next ≠ .opened →
      ((performOn board op.call).1.store.runs.get site.nextId).isSome = true)
    (completed : next = .handed ∨ next = .picked →
      ∃ run, (performOn board op.call).1.store.runs.get site.runId = some run ∧
        run.status = .completed)
    (taken : next = .picked → site.nextId ∈ (performOn board op.call).1.pickedUp) :
    Sound site (site.exec board op).1 (next :: others) := by
  obtain ⟨-, trespass, writes, own⟩ := clear
  obtain ⟨run, found, settled⟩ := sound.settles
  obtain ⟨after, stored, ends, stays, back⟩ :=
    run_settles found settled (run_unfailed allowed) writes
  refine ⟨⟨after, stored, ends⟩, next_carries sound.carries (next_unwritten allowed) own, ?_, ?_, ?_,
    ?_, ?_⟩
  · intro row there done
    have same : row = after := Option.some.inj (there.symm.trans stored)
    rw [same] at done
    rcases back done with before | ⟨guard, patch, written, completing⟩
    · exact row_stays (sound.continued run found before)
    · exact row_stays
        (sound.seen phase List.mem_cons_self (completes guard patch written completing))
  · show (board.trespassed || site.trespasses board.store op) = false
    rw [sound.fenced, trespass]
    rfl
  · intro other member begun
    rcases List.mem_cons.mp member with rfl | member
    · exact seen begun
    · exact row_stays (sound.seen other (List.mem_cons_of_mem _ member) begun)
  · intro other member begun
    rcases List.mem_cons.mp member with rfl | member
    · exact completed begun
    · obtain ⟨row, there, done⟩ := sound.completed other (List.mem_cons_of_mem _ member) begun
      have same : row = run := Option.some.inj (there.symm.trans found)
      exact ⟨after, stored, stays (same ▸ done)⟩
  · intro other member begun
    rcases List.mem_cons.mp member with rfl | member
    · exact taken begun
    · exact performOn_pickedUp (sound.taken other (List.mem_cons_of_mem _ member) begun)

theorem Sound.stay (sound : Sound site board (phase :: others)) (allowed : site.allows phase op)
    (clear : site.clear.step board phase others op)
    (completes : ∀ guard patch, patchOf site.runId op.call = some (guard, patch) →
      patch.status = some .completed → phase ≠ .opened) :
    Sound site (site.exec board op).1 (phase :: others) := by
  refine sound.moved allowed clear completes (fun begun => ?_) (fun begun => ?_) fun begun => ?_
  · exact row_stays (sound.seen phase List.mem_cons_self begun)
  · obtain ⟨run, found, done⟩ := sound.completed phase List.mem_cons_self begun
    obtain ⟨-, -, writes, -⟩ := clear
    obtain ⟨after, stored, -, stays, -⟩ := run_settles found (fun _ => .inl done)
      (run_unfailed allowed) writes
    exact ⟨after, stored, stays done⟩
  · exact performOn_pickedUp (sound.taken phase List.mem_cons_self begun)

theorem open_completes (opened : site.Open op.call) :
    ∀ guard patch, patchOf site.runId op.call = some (guard, patch) →
      patch.status = some .completed → phase ≠ .opened := by
  intro guard patch written completes
  exact absurd completes (opened.1 guard patch written).1

/-- A step before the handoff. -/
theorem Sound.step_opened (sound : Sound site board (.opened :: others))
    (allowed : site.allows .opened op) (clear : site.clear.step board .opened others op) :
    site.expects .opened op (site.exec board op).2 ∧
      Sound site (site.exec board op).1 (site.advance .opened op (site.exec board op).2 :: others) := by
  have stays := sound.stay allowed clear (open_completes allowed)
  obtain ⟨who, call⟩ := op
  cases who with
  | none =>
    -- Nobody's handoff comes any further.
    refine ⟨?_, ?_⟩
    · cases call <;> trivial
    · cases call <;> exact stays
  | some instanceId =>
    have finds : (∃ row, (performOn board call).1.store.runs.get site.nextId = some row) →
        Sound site (site.exec board ⟨some instanceId, call⟩).1 (.persisted :: others) := by
      rintro ⟨row, there⟩
      refine sound.moved allowed clear (open_completes allowed) (fun _ => ?_) (fun amiss => ?_)
        fun amiss => ?_
      · rw [there]
        rfl
      · rcases amiss with amiss | amiss <;> cases amiss
      · cases amiss
    cases call with
    | countRuns query =>
      refine ⟨?_, stays⟩
      have room := clear.1 rfl
      refine ⟨fun quota named same => ?_, fun config named cap bounded same => ?_⟩
      · rw [same]
        exact room.1 quota named
      · rw [same]
        exact room.2 config named cap bounded
    | store inner =>
      cases inner with
      | getRun runId =>
        refine ⟨trivial, ?_⟩
        cases found : board.store.runs.get runId with
        | none =>
          have answer : (site.exec board ⟨some instanceId, .store (.getRun runId)⟩).2 =
              (none : Option WorkflowRun) := found
          rw [answer]
          exact stays
        | some row =>
          have answer : (site.exec board ⟨some instanceId, .store (.getRun runId)⟩).2 =
              (some row : Option WorkflowRun) := found
          rw [answer]
          by_cases own : runId = site.nextId
          · have on : site.advance .opened ⟨some instanceId, .store (.getRun runId)⟩
                (some row : Option WorkflowRun) = .persisted := by simp [advance, own]
            rw [on]
            exact finds ⟨row, own ▸ found⟩
          · have on : site.advance .opened ⟨some instanceId, .store (.getRun runId)⟩
                (some row : Option WorkflowRun) = .opened := by simp [advance, own]
            rw [on]
            exact stays
      | createRun run =>
        refine ⟨trivial, ?_⟩
        by_cases own : run.id = site.nextId
        · have on : ∀ answer, site.advance .opened ⟨some instanceId, .store (.createRun run)⟩
              answer = .persisted := by
            intro answer
            simp [advance, own]
          rw [on]
          refine finds ?_
          -- The id is taken now, by this run or by one that was there.
          cases found : board.store.runs.get site.nextId with
          | none => exact ⟨run, by simp [performOn, Store.exec, found, Store.setRun, own]⟩
          | some row => exact ⟨row, by simp [performOn, Store.exec, found, own]⟩
        · have on : ∀ answer, site.advance .opened ⟨some instanceId, .store (.createRun run)⟩
              answer = .opened := by
            intro answer
            simp [advance, own]
          rw [on]
          exact stays
      | _ => exact ⟨trivial, stays⟩
    | _ => exact ⟨trivial, stays⟩

theorem Sound.step_persisted (sound : Sound site board (.persisted :: others))
    (allowed : site.allows .persisted op) (clear : site.clear.step board .persisted others op) :
    site.expects .persisted op (site.exec board op).2 ∧
      Sound site (site.exec board op).1
        (site.advance .persisted op (site.exec board op).2 :: others) := by
  have goes : ∀ guard patch, patchOf site.runId op.call = some (guard, patch) →
      patch.status = some .completed → Phase.persisted ≠ .opened := by
    intro guard patch written completing amiss
    cases amiss
  have there := sound.seen .persisted List.mem_cons_self (by simp)
  obtain ⟨who, call⟩ := op
  rcases allowed with rfl | rfl
  · -- The run is completed.
    refine ⟨trivial, ?_⟩
    show Sound site (site.exec board ⟨who, .store (.updateRun site.runId completedPatch)⟩).1
      (.handed :: others)
    obtain ⟨run, found, -⟩ := sound.settles
    refine sound.moved (.inl rfl) clear goes (fun _ => row_stays there) (fun _ => ?_) fun amiss => ?_
    · refine ⟨run.patched completedPatch, ?_, rfl⟩
      simp [performOn, Store.exec, found]
    · cases amiss
  · refine ⟨fun _ missing => ?_, sound.stay (.inr rfl) clear goes⟩
    have absent : board.store.runs.get site.nextId = none := missing
    rw [absent] at there
    cases there

/-- A step of a turn that has completed its run. -/
theorem Sound.step_handed (sound : Sound site board (.handed :: others))
    (allowed : site.allows .handed op) (clear : site.clear.step board .handed others op) :
    site.expects .handed op (site.exec board op).2 ∧
      Sound site (site.exec board op).1 (site.advance .handed op (site.exec board op).2 :: others) := by
  have goes : ∀ guard patch, patchOf site.runId op.call = some (guard, patch) →
      patch.status = some .completed → Phase.handed ≠ .opened := by
    intro guard patch written completing amiss
    cases amiss
  have there := sound.seen .handed List.mem_cons_self (by simp)
  obtain ⟨row, found⟩ := Option.isSome_iff_exists.mp there
  have stays := sound.stay allowed clear goes
  have through : site.nextId ∈ (performOn board op.call).1.pickedUp →
      Sound site (site.exec board op).1 (.picked :: others) := by
    intro taken
    refine sound.moved allowed clear goes (fun _ => row_stays there) (fun _ => ?_) fun _ => taken
    exact stays.completed .handed List.mem_cons_self (.inl rfl)
  obtain ⟨who, call⟩ := op
  rcases allowed with rfl | rfl | rfl
  · have answer : (site.exec board ⟨who, .store (.getRun site.nextId)⟩).2 =
        (some row : Option WorkflowRun) := found
    refine ⟨fun _ missing => ?_, ?_⟩
    · rw [answer] at missing
      cases missing
    · rw [answer]
      by_cases pending : row.status = .pending
      · have on : site.advance .handed ⟨who, .store (.getRun site.nextId)⟩
            (some row : Option WorkflowRun) = .handed := by simp [advance, pending]
        rw [on]
        exact stays
      · have on : site.advance .handed ⟨who, .store (.getRun site.nextId)⟩
            (some row : Option WorkflowRun) = .picked := by simp [advance, pending]
        rw [on]
        exact through ((sound.carries row found).2 pending)
  · refine ⟨fun _ => ?_, stays⟩
    show (board.store.exec (.createRun site.startRow)).2 = false
    simp only [Store.exec, startRow, found]
    rfl
  · refine ⟨trivial, through ?_⟩
    by_cases pending : row.status = .pending
    · simp [performOn, found, pending]
    · exact performOn_pickedUp ((sound.carries row found).2 pending)

theorem Sound.step_picked (sound : Sound site board (.picked :: others))
    (allowed : site.allows .picked op) (clear : site.clear.step board .picked others op) :
    site.expects .picked op (site.exec board op).2 ∧
      Sound site (site.exec board op).1 (site.advance .picked op (site.exec board op).2 :: others) := by
  have stays := sound.stay allowed clear (open_completes allowed)
  obtain ⟨who, call⟩ := op
  constructor
  · cases call <;> trivial
  · cases call <;> exact stays

theorem Sound.step (sound : Sound site board (phase :: others)) (allowed : site.allows phase op)
    (clear : site.clear.step board phase others op) : site.expects phase op (site.exec board op).2 ∧
      Sound site (site.exec board op).1 (site.advance phase op (site.exec board op).2 :: others) := by
  cases phase with
  | opened => exact sound.step_opened allowed clear
  | persisted => exact sound.step_persisted allowed clear
  | handed => exact sound.step_handed allowed clear
  | picked => exact sound.step_picked allowed clear

theorem Sound.crashed (sound : Sound site board (phase :: others)) :
    Sound site board (.opened :: others) where
  settles := sound.settles
  carries := sound.carries
  continued := sound.continued
  fenced := sound.fenced
  seen other member begun := by
    rcases List.mem_cons.mp member with rfl | member
    · exact absurd rfl begun
    · exact sound.seen other (List.mem_cons_of_mem _ member) begun
  completed other member begun := by
    rcases List.mem_cons.mp member with rfl | member
    · rcases begun with amiss | amiss <;> cases amiss
    · exact sound.completed other (List.mem_cons_of_mem _ member) begun
  taken other member begun := by
    rcases List.mem_cons.mp member with rfl | member
    · cases begun
    · exact sound.taken other (List.mem_cons_of_mem _ member) begun

theorem Sound.beside {after : ContinueBoard} (sound : Sound site board every)
    (run : after.store.runs.get site.runId = board.store.runs.get site.runId)
    (carries : ∀ row, after.store.runs.get site.nextId = some row →
      row.input = site.input ∧ (row.status ≠ .pending → site.nextId ∈ after.pickedUp))
    (stays : (board.store.runs.get site.nextId).isSome = true →
      (after.store.runs.get site.nextId).isSome = true)
    (picked : site.nextId ∈ board.pickedUp → site.nextId ∈ after.pickedUp)
    (fenced : after.trespassed = board.trespassed) : Sound site after every where
  settles := by
    rw [run]
    exact sound.settles
  carries := carries
  continued row there done := by
    rw [run] at there
    exact stays (sound.continued row there done)
  fenced := fenced.trans sound.fenced
  seen phase member begun := stays (sound.seen phase member begun)
  completed phase member begun := by
    rw [run]
    exact sound.completed phase member begun
  taken phase member begun := picked (sound.taken phase member begun)

theorem pickUp_elsewhere {other : String} (apart : runId ≠ other) :
    (performOn board (.pickUp runId)).1.store.runs.get other = board.store.runs.get other := by
  simp only [performOn]
  cases board.store.runs.get runId with
  | none => rfl
  | some run =>
    dsimp only
    split
    · exact Table.get_set_ne _ _ apart
    · rfl

theorem pickUp_trespassed (runId : String) :
    (performOn board (.pickUp runId)).1.trespassed = board.trespassed := by
  simp only [performOn]
  cases board.store.runs.get runId with
  | none => rfl
  | some run =>
    dsimp only
    split <;> rfl

/-- What happens around the turns leaves the board sound. -/
theorem Sound.drift (sound : Sound site board every) (around : Around) :
    Sound site (site.drift board around) every := by
  cases around with
  | elapse passed => exact sound.beside rfl sound.carries id id rfl
  | notice lost => exact sound.beside rfl sound.carries id id rfl
  | poll runId =>
    by_cases own : runId = site.runId
    · have kept : site.drift board (.poll runId) = board := by simp [ContinueSite.drift, own]
      rw [kept]
      exact sound
    · have polled : site.drift board (.poll runId) = (performOn board (.pickUp runId)).1 := by
        simp [ContinueSite.drift, own]
      rw [polled]
      refine sound.beside (pickUp_elsewhere own) ?_ row_stays performOn_pickedUp
        (pickUp_trespassed runId)
      refine next_carries sound.carries (fun guard patch written => ?_) rfl
      cases written
  | execute status =>
    by_cases taken : site.nextId ∈ board.pickedUp
    · have executed : site.drift board (.execute status) =
          (performOn board (.store (.updateRun site.nextId { status := some status }))).1 := by
        simp [ContinueSite.drift, taken, performOn]
      rw [executed]
      have apart : (performOn board (.store (.updateRun site.nextId
          { status := some status }))).1.store.runs.get site.runId =
            board.store.runs.get site.runId := by
        simp only [performOn, Store.exec]
        cases board.store.runs.get site.nextId with
        | none => rfl
        | some row => exact Table.get_set_ne _ _ (nextId_ne site)
      refine sound.beside apart (fun row there => ⟨?_, fun _ => taken⟩) row_stays id rfl
      -- The row keeps its input, whatever its status.
      have move := performOn_row board
        (.store (.updateRun site.nextId { status := some status })) site.nextId
      rw [there] at move
      generalize before : board.store.runs.get site.nextId = stored at move
      cases move with
      | same => exact (sound.carries row before).1
      | created run made => cases made
      | patched guard patch run written applies => exact (sound.carries run before).1
      | leased run other status input => exact input.trans (sound.carries run before).1
      | picked run took => cases took
    · have kept : site.drift board (.execute status) = board := by
        simp [ContinueSite.drift, taken]
      rw [kept]
      exact sound

theorem Sound.start (admitted : site.Admitted store) (every : List Phase)
    (opened : ∀ phase ∈ every, phase = .opened) : Sound site { store } every where
  settles := by
    obtain ⟨run, found, open_⟩ := admitted.openRun
    refine ⟨run, found, fun terminal => ?_⟩
    rw [open_] at terminal
    cases terminal
  carries row there := by
    rw [show (ContinueBoard.mk store [] [] false).store.runs.get site.nextId = none from
      admitted.fresh] at there
    cases there
  continued run there done := by
    obtain ⟨row, found, open_⟩ := admitted.openRun
    have same : run = row := Option.some.inj (there.symm.trans found)
    rw [← same, done] at open_
    cases open_
  fenced := rfl
  seen phase member begun := absurd (opened phase member) begun
  completed phase member begun := by
    rw [opened phase member] at begun
    rcases begun with amiss | amiss <;> cases amiss
  taken phase member begun := by
    rw [opened phase member] at begun
    cases begun

end Invariant

section Runs

theorem sound_reached (accepts : site.Accepts) (admitted : site.Admitted store)
    {programs : List (ContinueProgram ContinueEnd)}
    (paths : ∀ program ∈ programs, site.Path program) {final : Config ContinueBoard Proc}
    (reached : site.system.Reaches (site.clear.permits site.monitor)
      (atStart store programs) final) : Sound site final.shared (phases final.pool) ∧
      ∀ process ∈ final.pool, process.Follows site.monitor Ended := by
  refine processes_invariant Ended (Sound site) (fun board before after same sound =>
    sound.perm same) ?_ ?_ (fun board every around sound => sound.drift around) ?_ ?_ reached
  · intro board phase others op sound allowed clear
    exact sound.step allowed clear
  · intro board process others left sound follows fell _
    obtain rfl : { process with phase := .opened, rest := .done .crashed, again := none } = left :=
      Option.some.inj fell
    exact ⟨Process.follows_once trivial, sound.crashed⟩
  · intro process member
    obtain ⟨program, listed, rfl⟩ := List.mem_map.mp member
    exact (paths program listed).follows accepts
  · refine Sound.start admitted _ fun phase member => ?_
    simp only [phases, atStart, List.map_map, List.mem_map] at member
    obtain ⟨program, -, rfl⟩ := member
    rfl

end Runs

section Examples

def plainSite : ContinueSite :=
  { runId := "order", registered := { name := "order" }, input := none }

def quotaSite : ContinueSite :=
  { runId := "order"
    registered :=
      { name := "order", concurrency := some { key := fun _ => some "acme", limit := fun _ => 1 } }
    input := none }

def runningOrder : WorkflowRun :=
  { id := "order", workflow := "order", status := .running, tags := ["concurrency:acme"]
    lockedBy := some "one", lockedUntil := some 30 }

def orderStore : Store := { runs := Table.empty.set "order" runningOrder }

def orderTurn : ContinueTurn :=
  { instanceId := "one", leaseMs := 30, reentered := true, run := runningOrder }

def handingOn : List (Move Around) := List.replicate 8 (.step 0)

theorem handingOn_runs : (plainSite.system.run
    (atStart orderStore [plainSite.turnProgram orderTurn]) handingOn).isSome = true := by
  decide +kernel

def rejectedTurn : List (Move Around) := List.replicate 5 (.step 0)

theorem rejectedTurn_runs : (quotaSite.system.run
    (atStart orderStore [quotaSite.turnProgram orderTurn]) rejectedTurn).isSome = true := by
  decide +kernel

def isRejected (process : Proc) : Bool :=
  match process.rest with
  | .done (.rejected _) => true
  | _ => false

theorem Unbroken.no_rejection {config : Config ContinueBoard Proc} (kept : site.Unbroken config) :
    config.pool.any isRejected = false := by
  rw [List.any_eq_false]
  intro process member rejected
  unfold isRejected at rejected
  split at rejected
  · rename_i error finished
    exact kept.accepted process member error finished
  · cases rejected

end Examples

end ContinueSite

end Durable
