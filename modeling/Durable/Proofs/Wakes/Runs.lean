import Durable.Proofs.Wakes.Turns

/-! No wake is lost along a run of the paths about a leased run. -/

namespace Durable

open Interleaving

namespace WakeBoard

variable {board after : WakeBoard}

/-- What turns have begun after keeps growing, and is written. -/
structure BegunGrows (board after : WakeBoard) : Prop where
  written : ∀ cause ∈ board.ledger.written, cause ∈ after.ledger.written
  known : (∀ cause ∈ board.ledger.begun, cause ∈ board.ledger.written) →
    ∀ cause ∈ after.ledger.begun, cause ∈ after.ledger.written
  begun : (∀ cause ∈ board.ledger.begun, cause ∈ board.ledger.written) →
    ∀ cause, board.Begun cause → after.Begun cause

theorem BegunGrows.refl (board : WakeBoard) : board.BegunGrows board :=
  ⟨fun _ written => written, fun known => known, fun _ _ begun => begun⟩

theorem BegunGrows.trans {later : WakeBoard} (first : board.BegunGrows after)
    (second : after.BegunGrows later) : board.BegunGrows later := by
  refine ⟨?_, ?_, ?_⟩
  · exact fun cause written => second.written cause (first.written cause written)
  · exact fun known => second.known (first.known known)
  · exact fun known cause begun => second.begun (first.known known) cause (first.begun known cause begun)

theorem BegunGrows.same (ledger : after.ledger = board.ledger) : board.BegunGrows after := by
  refine ⟨?_, ?_, ?_⟩
  · exact fun cause written => ledger ▸ written
  · exact fun known => ledger ▸ known
  · intro _ cause begun
    unfold Begun at begun ⊢
    rwa [ledger]

theorem BegunGrows.writes (member : Option Nat) : board.BegunGrows (board.writes member).1 :=
  ⟨fun _ written => List.mem_cons_of_mem _ written,
    fun known cause begun => List.mem_cons_of_mem _ (known cause begun), fun _ _ begun => begun⟩

theorem begunGrows_exec (board : WakeBoard) (op : WakeOp) :
    board.BegunGrows (board.exec op).1 := by
  cases op with
  | replay =>
    exact ⟨fun _ written => written, fun _ _ begun => begun, fun known cause begun => known cause begun⟩
  | writeCause => exact .writes none
  | settleMember seq completed =>
    simp only [exec]
    split
    · exact .refl board
    · split
      · exact .refl board
      · refine ⟨?_, ?_, ?_⟩
        · exact fun _ written => List.mem_cons_of_mem _ written
        · exact fun known cause begun => List.mem_cons_of_mem _ (known cause begun)
        · exact fun _ _ begun => begun
  | listFan call =>
    simp only [exec, readsFan]
    split
    · exact ⟨fun _ written => written, fun known => known, fun _ _ begun => begun⟩
    · exact .refl board
  | _ =>
    -- No other call changes what has happened.
    refine .same ?_
    simp only [exec]
    repeat' split
    all_goals rfl

theorem begunGrows_alone {α : Type} (path : WakePath α) (board : WakeBoard) :
    board.BegunGrows (path.alone exec board).1 := by
  induction path generalizing board with
  | done result => exact .refl board
  | call op next ih => exact (begunGrows_exec board op).trans (ih _ _)

theorem runTurn_begins (engine : WakeEngine) (run : RunLook) (fans : List StepFanCall)
    (board : WakeBoard) (cause : WakeCause) (written : cause ∈ board.ledger.written) :
    ((engine.runTurn run fans).alone exec board).1.Begun cause ∧
      ∀ other ∈ ((engine.runTurn run fans).alone exec board).1.ledger.begun,
        other ∈ ((engine.runTurn run fans).alone exec board).1.ledger.written := by
  have started : ∀ board : WakeBoard, cause ∈ board.ledger.written →
      let after := ((WakeEngine.startTurn run).alone exec board).1
      after.ledger.begun = after.ledger.written ∧ cause ∈ after.ledger.written := by
    intro board written
    unfold WakeEngine.startTurn
    split
    · exact ⟨rfl, written⟩
    · exact ⟨rfl, written⟩
  unfold WakeEngine.runTurn
  rw [Program.alone_bind]
  obtain ⟨same, there⟩ := started board written
  have known : ∀ other ∈ ((WakeEngine.startTurn run).alone exec board).1.ledger.begun,
      other ∈ ((WakeEngine.startTurn run).alone exec board).1.ledger.written :=
    fun other begun => same ▸ begun
  have begun : ((WakeEngine.startTurn run).alone exec board).1.Begun cause := by
    unfold Begun
    rwa [same]
  exact ⟨(begunGrows_alone _ _).begun known cause begun, (begunGrows_alone _ _).known known⟩

theorem leaseForTurn_alone (engine : WakeEngine) {board : WakeBoard} {leaseUntil : Nat}
    (leased : board.lease = some (engine.instanceId, leaseUntil))
    (lasts : board.clock < leaseUntil) :
    (engine.leaseForTurn board.look true).alone exec board = (board, true) := by
  have own : board.look.lease.any (fun lease => lease.1 == engine.instanceId &&
      decide (board.clock < lease.2)) = true := by
    show board.lease.any _ = true
    rw [leased]
    simp [lasts]
  unfold WakeEngine.leaseForTurn
  refine (Program.alone_perform exec .clock _ board).trans ?_
  exact (congrArg (Program.alone exec · board) (if_pos own)).trans rfl

theorem resume_begins (engine : WakeEngine) (fans : List StepFanCall) (turns : Nat)
    (reason : WakeReason) (board : WakeBoard) {leaseUntil : Nat}
    (live : isTerminalStatus board.status = false)
    (leased : board.lease = some (engine.instanceId, leaseUntil))
    (lasts : board.clock < leaseUntil) {cause : WakeCause}
    (written : cause ∈ board.ledger.written) :
    ((engine.resume fans (turns + 1) true reason).alone exec board).1.Begun cause := by
  have ran : (engine.resume fans (turns + 1) true reason).alone exec board =
      (engine.runTurn board.look fans >>= fun released =>
        if released then return () else engine.resume fans turns false againReason).alone exec
          board := by
    refine (Program.alone_perform exec .getRun _ board).trans ?_
    refine (congrArg (Program.alone exec · board) (if_neg (Bool.eq_false_iff.mp live))).trans ?_
    exact (Program.alone_known (leaseForTurn_alone engine leased lasts) _).trans rfl
  rw [ran, Program.alone_bind]
  obtain ⟨begun, known⟩ := runTurn_begins engine board.look fans board cause written
  exact (begunGrows_alone _ _).begun known cause begun

/--
An instance that finds the lease of a live run free starts a turn after whatever was written.

The lease is free as soon as its time is over.
-/
theorem leaseAndResume_begins (engine : WakeEngine) (fans : List StepFanCall) (turns : Nat)
    (leases : 0 < engine.leaseMs) {board : WakeBoard} (live : isTerminalStatus board.status = false)
    (free : board.lease.any (fun lease => decide (board.clock < lease.2)) = false)
    {cause : WakeCause} (written : cause ∈ board.ledger.written) :
    ((engine.leaseAndResume fans turns false {}).alone exec board).1.Begun cause := by
  have taken : board.exec (.tryLockRun engine.instanceId (board.clock + engine.leaseMs) board.clock) =
      ({ board with lease := some (engine.instanceId, board.clock + engine.leaseMs) }, true) := by
    simp only [exec, free]
    rfl
  have ran : (engine.leaseAndResume fans turns false {}).alone exec board =
      (engine.resume fans (turns + 1) true { generic := true }).alone exec
        { board with lease := some (engine.instanceId, board.clock + engine.leaseMs) } := by
    refine (Program.alone_perform exec .clock _ board).trans ?_
    exact (Program.alone_step taken _).trans rfl
  rw [ran]
  exact resume_begins engine fans turns _
    { board with lease := some (engine.instanceId, board.clock + engine.leaseMs) } live rfl
    (Nat.lt_add_of_pos_right leases) written

end WakeBoard

section Runs

variable {board : WakeBoard} {fans : List StepFanCall} {every : List WakePhase}

namespace WakeBoard

theorem Untouched.held (untouched : board.Untouched) (begun : ∀ phase ∈ every, phase = {}) :
    board.WakesHeld fans every := by
  obtain ⟨live, reasons, members, ledger⟩ := untouched
  refine ⟨⟨live, ?_, ?_, ?_, ?_, ?_⟩, ?_, ?_⟩
  · simp [reasons]
  · simp [reasons]
  · simp [reasons]
  · intro seq member found
    rw [members] at found
    cases found
  · simp [ledger]
  · intro phase member
    rw [begun phase member]
    constructor <;> simp
  · simp [ledger]

theorem WakesHeld.drift (held : board.WakesHeld fans every) (disturbance : WakeDrift) :
    (board.drift disturbance).WakesHeld fans every := by
  have kept : (board.drift disturbance).status = board.status ∧
      (board.drift disturbance).reasons = board.reasons ∧
      (board.drift disturbance).drawn = board.drawn ∧
      (board.drift disturbance).members = board.members ∧
      (board.drift disturbance).ledger = board.ledger ∧
      (board.drift disturbance).wakeRequestedAt = board.wakeRequestedAt := by
    cases disturbance with
    | elapse passed => exact ⟨rfl, rfl, rfl, rfl, rfl, rfl⟩
    | renew owner leaseUntil =>
      unfold WakeBoard.drift
      dsimp only
      split <;> exact ⟨rfl, rfl, rfl, rfl, rfl, rfl⟩
  obtain ⟨status, reasons, drawn, members, ledger, requested⟩ := kept
  have grows : board.Grows (board.drift disturbance) := .same reasons drawn members ledger
  refine ⟨held.run.same (status ▸ held.run.live) reasons drawn members ledger, ?_, ?_⟩
  · exact fun phase member => (held.phases phase member).grows grows
  · intro cause written
    rw [ledger] at written
    have owed := held.owed cause written
    unfold Owed Answered Begun Kept Requested at owed ⊢
    rw [reasons, ledger, requested]
    exact owed

theorem BoardBooks.unended (books : board.BoardBooks fans) : isTerminalStatus board.status = false := by
  have live := books.live
  simp only [wakeableStatuses, List.mem_cons, List.not_mem_nil, or_false] at live
  rcases live with status | status | status <;> rw [status] <;> rfl

end WakeBoard

end Runs

def oneStepFan : StepFanCall := { first := 0, size := 1 }

theorem oneStepFan_laid : FansLaid [oneStepFan] := by
  intro call called other listed _ _ _
  rw [List.mem_singleton.mp called, List.mem_singleton.mp listed]

def turnEngine : WakeEngine := { instanceId := "turn" }

def otherEngine : WakeEngine := { instanceId := "other" }

theorem suspended_untouched : WakeBoard.Untouched {} :=
  ⟨List.mem_cons_of_mem _ List.mem_cons_self, rfl, rfl, rfl⟩

def turnAndWrite : List (WakePath Unit) :=
  [turnEngine.leaseAndResume [oneStepFan] 1 false {},
   otherEngine.writeAndWake [oneStepFan] 1 [.plain]]

theorem turnAndWrite_work : ∀ path ∈ turnAndWrite, WakeWork [oneStepFan] path := by
  intro path listed
  rcases List.mem_pair.mp listed with rfl | rfl
  · exact .poll turnEngine 1
  · exact .wake otherEngine 1 [.plain]

/-- The other instance is refused while the turn is about to park, and the turn runs again. -/
def refusedWhileParking : List (Move WakeDrift) :=
  List.replicate 9 (.step 0) ++ List.replicate 9 (.step 1) ++ List.replicate 16 (.step 0)

theorem refusedWhileParking_runs :
    ((wakePaths [oneStepFan]).run ⟨{}, wakePool turnAndWrite⟩ refusedWhileParking).isSome := by
  decide +kernel

/-- One turn sends the fan's step, a later one starts, and another instance settles the step. -/
def turnsAndSettle : List (WakePath Unit) :=
  [turnEngine.leaseAndResume [oneStepFan] 1 false {},
   turnEngine.leaseAndResume [oneStepFan] 1 false {},
   otherEngine.writeAndWake [oneStepFan] 1 [.member 0 true]]

theorem turnsAndSettle_work : ∀ path ∈ turnsAndSettle, WakeWork [oneStepFan] path := by
  intro path listed
  simp only [turnsAndSettle, List.mem_cons, List.not_mem_nil, or_false] at listed
  rcases listed with rfl | rfl | rfl
  · exact .poll turnEngine 1
  · exact .poll turnEngine 1
  · exact .wake otherEngine 1 [.member 0 true]

/-- The step is settled after the later turn has started, and before it comes to the fan. -/
def settledDuringTurn : List (Move WakeDrift) :=
  List.replicate 11 (.step 0) ++ List.replicate 5 (.step 1) ++ List.replicate 9 (.step 2) ++
    List.replicate 10 (.step 1)

theorem settledDuringTurn_runs :
    ((wakePaths [oneStepFan]).run ⟨{}, wakePool turnsAndSettle⟩ settledDuringTurn).isSome := by
  decide +kernel

def spentBarrier : WakeConfig :=
  ((wakePaths [oneStepFan]).run ⟨{}, wakePool turnsAndSettle⟩ settledDuringTurn).get
    settledDuringTurn_runs

end Durable
