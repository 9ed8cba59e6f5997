import Durable.Proofs.Engine.SlotLedger

/-! Calls and results account for the slots they move, along every run made with care. -/

namespace Durable

open Engine Interleaving

variable {row : StepCheckpoint} {role : SlotRole}

section Paths

variable {α : Type} {phase : SlotPhase} {op : StoreOp} {path : Engine α}

/-- A path that moves slots as it may, and ends in some phase. -/
abbrev Moving (ends : SlotPhase → α → Prop) (path : Engine α) (phase : SlotPhase) : Prop :=
  path.Meets slotWatch ends phase

/-- A path of a role has no slot in hand. -/
structure SlotPhase.Empty (role : SlotRole) (phase : SlotPhase) : Prop where
  role : phase.role = role
  admitted : phase.admitted = none
  owed : phase.owed = []

def Unbooked : StoreOp → Prop
  | .tryAdmit .. | .releaseSlot _ => False
  | .saveCheckpoint row => row.queue = none
  | _ => True

/-- A phase has the same slots in hand as another. -/
structure SlotPhase.Same (phase after : SlotPhase) : Prop where
  role : after.role = phase.role
  admitted : after.admitted = phase.admitted
  owed : after.owed = phase.owed

theorem SlotPhase.same_writes (role : phase.role ≠ .result) (unbooked : ¬ phase.books row) :
    phase.writes row = phase := by
  unfold SlotPhase.writes
  rw [if_neg unbooked, if_neg role]

theorem SlotPhase.after_saveIfPending (phase : SlotPhase) (role : phase.role ≠ .result)
    (row : StepCheckpoint) (wrote : Bool) :
    phase.after (.saveCheckpointIfPending row) wrote = phase :=
  if_neg fun both => role both.1

theorem SlotPhase.same_after (role : phase.role ≠ .result) (slotless : Slotless op)
    (unbooked : ∀ row, op = .saveCheckpoint row → ¬ phase.books row) (answer : op.Answer) :
    phase.Same (phase.after op answer) := by
  cases op with
  | tryAdmit | releaseSlot => exact slotless.elim
  | saveCheckpoint row =>
    rw [SlotPhase.after, SlotPhase.same_writes role (unbooked row rfl)]
    exact ⟨rfl, rfl, rfl⟩
  | saveCheckpointIfPending row =>
    rw [phase.after_saveIfPending role row answer]
    exact ⟨rfl, rfl, rfl⟩
  | settleCheckpointsIfPending settlements =>
    have same : phase.after (.settleCheckpointsIfPending settlements) answer = phase := if_neg role
    rw [same]
    exact ⟨rfl, rfl, rfl⟩
  | _ => exact ⟨rfl, rfl, rfl⟩

theorem SlotPhase.may_slotless (phase : SlotPhase) (slotless : Slotless op) : phase.may op := by
  cases op with
  | tryAdmit | releaseSlot => exact slotless.elim
  | _ => trivial

theorem moving_slotless (uses : path.Uses Slotless) (other : role ≠ .result)
    (empty : phase.Empty role) : Moving (fun after _ => after.Empty role) path phase := by
  induction path generalizing phase with
  | done result => exact empty
  | call op next ih =>
    refine ⟨phase.may_slotless uses.1, fun answer _ => ih answer (uses.2 answer) ?_⟩
    have same := SlotPhase.same_after (empty.role ▸ other) uses.1
      (fun row _ books => books.2.2.2 empty.admitted) answer
    exact ⟨same.role.trans empty.role, same.admitted.trans empty.admitted,
      same.owed.trans empty.owed⟩

theorem moving_unbooked (uses : path.Uses Unbooked) (other : phase.role ≠ .result) :
    Moving (fun after _ => phase.Same after) path phase := by
  suffices every : ∀ now, phase.Same now → Moving (fun after _ => phase.Same after) path now from
    every phase ⟨rfl, rfl, rfl⟩
  induction path with
  | done result => exact fun now same => same
  | call op next ih =>
    intro now same
    have slotless : Slotless op := by
      cases op with
      | tryAdmit | releaseSlot => exact uses.1.elim
      | _ => trivial
    refine ⟨now.may_slotless slotless, fun answer _ => ih answer (uses.2 answer) _ ?_⟩
    have later := SlotPhase.same_after (same.role ▸ other) slotless ?_ answer
    · exact ⟨later.role.trans same.role, later.admitted.trans same.admitted,
        later.owed.trans same.owed⟩
    · -- A row without a queue books no slot.
      rintro row rfl books
      exact books.2.2.2 (books.2.2.1.symm.trans uses.1)

end Paths

section Calls

variable (host : CtxHost)

abbrev CallEnds (after : SlotPhase) (_ : OpEnd) : Prop := after.Empty .call

theorem awaitRemote_unbooked (seq : Nat) (step : StepDef) (input : Payload) (attempt retries : Nat) :
    (host.awaitRemote seq step input attempt retries).Uses Unbooked := by
  have settled : ∀ (attempt : Nat) (again : Option (Engine OpEnd)) (result : Except StepError Payload),
      (∀ path ∈ again, path.Uses Unbooked) →
        (host.settleRemote seq step input attempt again result).Uses Unbooked := by
    intro attempt again result repeated
    have redone : (again.getD (.done (threwAt (seq + 1)
        (.failure (CtxHost.remoteStepTimeout host.runId seq step))))).Uses Unbooked := by
      cases again with
      | none => trivial
      | some path => exact repeated path rfl
    unfold CtxHost.settleRemote
    split
    · exact ⟨rfl, fun _ => trivial⟩
    · split
      · rename_i lost
        subst lost
        refine Program.uses_perform trivial fun late => ?_
        split
        · split
          · exact ⟨rfl, fun _ => trivial⟩
          · exact redone
        · exact redone
      · trivial
  induction retries generalizing attempt with
  | zero =>
    refine Program.uses_perform rfl fun _ => Program.uses_perform trivial fun result => ?_
    exact settled attempt none result (by simp)
  | succ retries ih =>
    refine Program.uses_perform rfl fun _ => Program.uses_perform trivial fun result => ?_
    refine settled attempt _ result ?_
    rintro path ⟨⟩
    exact ih (attempt + 1)

theorem awaitRemote_slotless (seq : Nat) (step : StepDef) (input : Payload) (attempt retries : Nat) :
    (host.awaitRemote seq step input attempt retries).Uses Slotless :=
  (awaitRemote_unbooked host seq step input attempt retries).mono fun op unbooked => by
    cases op with
    | tryAdmit | releaseSlot => exact unbooked.elim
    | _ => trivial

variable {host} {phase : SlotPhase}

theorem admit_moving (seq : Nat) (call : QueueCall) (empty : phase.Empty .call) :
    Moving (fun after asked => after.role = .call ∧ after.owed = [] ∧
        after.admitted = asked.toOption.join)
      (host.admitCall seq call) phase := by
  unfold CtxHost.admitCall
  split
  · exact ⟨empty.role, empty.owed, empty.admitted⟩
  · rename_i queue named
    refine Program.meets_perform ⟨empty.role, empty.admitted⟩ fun answer _ => ?_
    cases answer with
    | none => exact ⟨empty.role, empty.owed, empty.admitted⟩
    | some admission =>
      cases admission with
      | admitted => exact ⟨empty.role, empty.owed, rfl⟩
      | blocked retryAt => exact ⟨empty.role, empty.owed, empty.admitted⟩

theorem sendGated_moving (seq : Nat) (step : StepDef) (input : Payload) (attempt : Nat)
    (call : QueueCall) (empty : phase.Empty .call) :
    Moving CallEnds (host.sendGated seq step input attempt call) phase := by
  refine Program.meets_bind (admit_moving seq call empty) ?_
  rintro given asked ⟨role, owed, admitted⟩
  cases asked with
  | error retryAt => exact ⟨role, admitted, owed⟩
  | ok queue =>
    refine Program.meets_perform trivial fun refusal fits => ?_
    cases refusal with
    | some message =>
      -- Nothing refuses the step once a slot has been given for it.
      have none : given.admitted = none := by
        by_contra has
        exact Option.some_ne_none _ (fits.2 has)
      exact ⟨role, none, owed⟩
    | none =>
      refine Program.meets_perform trivial fun _ _ => ⟨trivial, fun _ _ => ?_⟩
      show (given.writes _).Empty .call
      unfold SlotPhase.writes
      split
      · exact ⟨role, rfl, owed⟩
      · rename_i unbooked
        -- A step that books nothing was given nothing.
        have none : given.admitted = none := by
          by_contra has
          exact unbooked ⟨role, rfl, admitted.symm, has⟩
        rw [if_neg (by simp [role])]
        exact ⟨role, none, owed⟩

theorem awaitGated_moving (seq : Nat) (step : StepDef) (input : Payload) (call : QueueCall)
    (empty : phase.Empty .call) : Moving CallEnds (host.awaitGated seq step input call) phase := by
  refine Program.meets_perform trivial fun refusal _ => ?_
  cases refusal with
  | some message => exact empty
  | none =>
    refine Program.meets_bind (admit_moving seq call empty) ?_
    rintro given asked ⟨role, owed, admitted⟩
    cases asked with
    | error retryAt => exact ⟨role, admitted, owed⟩
    | ok queue =>
      cases queue with
      | none =>
        exact moving_slotless (awaitRemote_slotless host seq step input _ _) (by simp)
          ⟨role, admitted, owed⟩
      | some queue =>
        have waits : Moving (fun after _ => given.Same after)
            (host.awaitRemote seq step input 1 (max 1 (step.retries.getD 1) - 1)) given :=
          moving_unbooked (awaitRemote_unbooked host seq step input 1 _) (by simp [role])
        refine Program.meets_bind waits fun after ending same => ?_
        have holds : after.admitted = some queue := same.admitted.trans admitted
        refine ⟨.inl holds, fun _ _ => ?_⟩
        show (after.gives queue).Empty .call
        rw [SlotPhase.gives, if_pos holds]
        exact ⟨same.role.trans role, rfl, same.owed.trans owed⟩

theorem retryGated_moving (seq : Nat) (step : StepDef) (input : Payload) (call : QueueCall)
    (now : Nat) (checkpoint : StepCheckpoint) (empty : phase.Empty .call) :
    Moving CallEnds (host.retryGated seq step input call now checkpoint) phase := by
  unfold CtxHost.retryGated
  split
  · exact empty
  · split
    · refine moving_slotless ?_ (by simp) empty
      exact ⟨trivial, fun _ => trivial⟩
    · split
      · exact empty
      · exact sendGated_moving seq step input _ call empty

theorem applyRemote_moving (seq : Nat) (step : StepDef) (input : Payload)
    (existing : Option StepCheckpoint) (again : Engine OpEnd) (turn : RemoteTurn)
    (repeated : ∀ phase : SlotPhase, phase.Empty .call → Moving CallEnds again phase)
    (empty : phase.Empty .call) :
    Moving CallEnds (host.applyRemote seq step input existing again turn) phase := by
  cases turn with
  | returned | failed | nonDeterminism | refused => exact empty
  | awaited =>
    exact moving_slotless (awaitRemote_slotless host seq step input _ _) (by simp) empty
  | suspended wakeAt write dispatches =>
    cases write with
    | none => exact empty
    | some row =>
      simp only [CtxHost.applyRemote]
      split
      · refine Program.meets_perform trivial fun wrote _ => ?_
        have same : (phase.after (.saveCheckpointIfPending row) wrote).Empty .call := by
          rw [phase.after_saveIfPending (by simp [empty.role]) row wrote]
          exact empty
        split
        · exact same
        · exact repeated _ same
      · refine moving_slotless ?_ (by simp) empty
        exact ⟨trivial, fun _ => trivial⟩

theorem decideGated_moving (seq : Nat) (step : StepDef) (input : Payload) (call : QueueCall)
    (again : Engine OpEnd) (existing : Option StepCheckpoint)
    (repeated : ∀ phase : SlotPhase, phase.Empty .call → Moving CallEnds again phase)
    (empty : phase.Empty .call) :
    Moving CallEnds (host.decideGated seq step input call again existing) phase := by
  have sent : Moving CallEnds (if 0 < step.timeoutMs.getD 0 then host.awaitGated seq step input call
      else host.sendGated seq step input 1 call) phase := by
    split
    · exact awaitGated_moving seq step input call empty
    · exact sendGated_moving seq step input 1 call empty
  unfold CtxHost.decideGated
  refine Program.meets_perform trivial fun now _ => ?_
  dsimp only
  generalize (if 0 < step.timeoutMs.getD 0 then host.awaitGated seq step input call
      else host.sendGated seq step input 1 call) = send at sent ⊢
  split
  · split
    · exact empty
    · exact sent
  · rename_i row
    split
    · exact empty
    · split
      · exact empty
      · split
        · exact empty
        · split
          · exact sent
          · split
            · exact applyRemote_moving seq step input _ again _ repeated empty
            · exact retryGated_moving seq step input call now row empty
            · exact sent

theorem redecideGated_moving (seq : Nat) (step : StepDef) (input : Payload) (call : QueueCall)
    (rereads : Nat) (empty : phase.Empty .call) :
    Moving CallEnds (host.redecideGated seq step input call rereads) phase := by
  induction rereads generalizing phase with
  | zero => exact empty
  | succ rereads ih =>
    refine Program.meets_perform trivial fun existing _ => ?_
    refine decideGated_moving seq step input call _ existing (fun _ => ih) ?_
    exact ⟨empty.role, empty.admitted, empty.owed⟩

theorem stepGated_moving (step : StepDef) (input : Payload) (call : QueueCall) (current : Nat)
    (empty : phase.Empty .call) :
    Moving CallEnds (host.stepGated step input call current) phase := by
  refine Program.meets_perform trivial fun existing _ => ?_
  have repeated : ∀ phase : SlotPhase, phase.Empty .call →
      Moving CallEnds (host.redecideGated current step input call host.rereads) phase :=
    fun _ => redecideGated_moving current step input call host.rereads
  split
  · refine Program.meets_perform trivial fun stored _ => ?_
    exact decideGated_moving current step input call _ _ repeated
      ⟨empty.role, empty.admitted, empty.owed⟩
  · exact decideGated_moving current step input call _ existing repeated empty

end Calls

section Results

variable {phase : SlotPhase} {claimed : List (StepCheckpoint × Bool)} {answer : List Bool}
  {owed : List String} {entries : List (StepCheckpoint × StepSettlement)}

abbrev ResultEnds {α : Type} (after : SlotPhase) (_ : α) : Prop := after.Empty .result

theorem moving_asks {α : Type} {path : Engine α} (asks : path.Uses Asks) :
    Moving (fun after _ => phase.Same after) path phase := by
  suffices every : ∀ now, phase.Same now → Moving (fun after _ => phase.Same after) path now from
    every phase ⟨rfl, rfl, rfl⟩
  induction path with
  | done result => exact fun now same => same
  | call op next ih =>
    intro now same
    have first := asks.1
    cases op with
    | getRun | getCheckpoint | listCheckpoints | replayCheckpoints | requestWake =>
      exact ⟨trivial, fun answer _ => ih answer (asks.2 answer) _ ⟨same.role, same.admitted, same.owed⟩⟩
    | _ => exact first.elim

/-- A path that has looked up a step's pending row, and holds nothing. -/
structure SlotPhase.Found (phase : SlotPhase) (row : StepCheckpoint) : Prop where
  empty : phase.Empty .result
  latest : phase.latest = some (row.runId, row.seq)
  seen : phase.seen (row.runId, row.seq) = some row

theorem releaseQueueSlot_drops (found : phase.Found row) (pending : row.status = .pending) :
    Moving (fun after _ => after.Found row ∧
        (row.queue ≠ none → (row.runId, row.seq) ∈ after.dropped))
      (releaseQueueSlot row) phase := by
  unfold releaseQueueSlot
  split
  · rename_i queue held
    refine ⟨.inr (.inr ⟨found.empty.role, found.empty.owed, _, row, found.latest, found.seen, pending,
      held⟩), fun _ _ => ?_⟩
    have given : phase.gives queue =
        { phase with dropped := phase.latest.toList ++ phase.dropped } := by
      unfold SlotPhase.gives
      rw [if_neg (by simp [found.empty.admitted]), if_neg (by simp [found.empty.owed])]
    show (phase.gives queue).Found row ∧ _
    rw [given]
    refine ⟨⟨⟨found.empty.role, found.empty.admitted, found.empty.owed⟩, found.latest, found.seen⟩,
      fun _ => ?_⟩
    show _ ∈ (phase.gives queue).dropped
    rw [given, found.latest]
    exact List.mem_cons_self
  · rename_i free
    exact ⟨found, fun has => absurd free has⟩

theorem SlotPhase.Empty.settles (empty : phase.Empty .result) {key : String × Nat}
    {queue : Option String} (free : queue ≠ none → key ∈ phase.dropped) :
    (phase.settles key queue).Empty .result := by
  unfold SlotPhase.settles
  split
  · exact empty
  · rename_i kept
    cases queue with
    | none => exact ⟨empty.role, empty.admitted, empty.owed⟩
    | some queue => exact absurd (free (by simp)) kept

theorem SlotPhase.writes_result (role : phase.role = .result) (row : StepCheckpoint) :
    phase.writes row = phase.settles (row.runId, row.seq) row.queue := by
  unfold SlotPhase.writes
  rw [if_neg (by simp [SlotPhase.books, role]), if_pos role]

theorem SlotPhase.Found.after_settle (found : phase.Found row) {settlement : StepSettlement}
    (own : (settlement.runId, settlement.seq) = (row.runId, row.seq))
    (answered : answer.length = 1) : ∃ wrote, answer = [wrote] ∧
      phase.after (.settleCheckpointsIfPending [settlement]) answer =
        if wrote then phase.settles (row.runId, row.seq) row.queue else phase := by
  obtain ⟨wrote, rfl⟩ := List.length_eq_one_iff.mp answered
  refine ⟨wrote, rfl, (if_pos found.empty.role).trans ?_⟩
  show (if wrote then _ else _ : SlotPhase) = _
  rw [own, found.seen]
  rfl

theorem salvageResult_moving (support : StoreSupport) (result : StepResult)
    (found : phase.Found row) (free : row.queue ≠ none → (row.runId, row.seq) ∈ phase.dropped) :
    Moving ResultEnds (salvageResult support row result) phase := by
  unfold salvageResult
  dsimp only
  split
  · refine ⟨trivial, fun answer fits => ?_⟩
    obtain ⟨wrote, -, after⟩ := found.after_settle rfl fits.2
    refine Eq.mpr (congrArg (SlotPhase.Empty .result) after) ?_
    split
    · exact found.empty.settles free
    · exact found.empty
  · refine ⟨trivial, fun _ _ => ?_⟩
    show (phase.writes _).Empty .result
    rw [phase.writes_result found.empty.role]
    exact found.empty.settles free

/-- What a path has in hand once it has settled the step it has found. -/
structure SlotPhase.Owes (phase : SlotPhase) (row : StepCheckpoint) : Prop where
  role : phase.role = .result
  admitted : phase.admitted = none
  owed : phase.owed = row.queue.toList ∨ phase.owed = []
  latest : phase.latest = some (row.runId, row.seq)
  seen : phase.seen (row.runId, row.seq) = some row

theorem SlotPhase.Found.settles (found : phase.Found row) :
    (phase.settles (row.runId, row.seq) row.queue).Owes row := by
  unfold SlotPhase.settles
  split
  · exact ⟨found.empty.role, found.empty.admitted, .inr found.empty.owed, found.latest, found.seen⟩
  · refine ⟨found.empty.role, found.empty.admitted, .inl ?_, found.latest, found.seen⟩
    simp [found.empty.owed]

theorem releaseQueueSlot_pays (owes : phase.Owes row) (pending : row.status = .pending) :
    Moving ResultEnds (releaseQueueSlot row) phase := by
  rcases owes.owed with owed | owed
  · unfold releaseQueueSlot
    split
    · rename_i queue held
      have slot : phase.owed = [queue] := by simp [owed, held]
      refine ⟨.inr (.inl (by simp [slot])), fun _ _ => ?_⟩
      show (phase.gives queue).Empty .result
      unfold SlotPhase.gives
      rw [if_neg (by simp [owes.admitted]), if_pos (by simp [slot])]
      exact ⟨owes.role, owes.admitted, by simp [slot]⟩
    · rename_i free
      exact ⟨owes.role, owes.admitted, by simp [owed, free]⟩
  · have found : phase.Found row := ⟨⟨owes.role, owes.admitted, owed⟩, owes.latest, owes.seen⟩
    exact (releaseQueueSlot_drops found pending).weaken fun _ _ after => after.1.empty

theorem settlePendingCheckpoint_moving (support : StoreSupport) (result : StepResult)
    (found : phase.Found row) :
    Moving (fun after wrote => if wrote then after.Owes row else after.Empty .result)
      (settlePendingCheckpoint support row (settlementOf row result)) phase := by
  have written : (phase.writes (row.settled (settlementOf row result))).Owes row := by
    rw [phase.writes_result found.empty.role]
    exact found.settles
  unfold settlePendingCheckpoint
  split
  · refine Program.meets_perform trivial fun answer fits => ?_
    obtain ⟨wrote, rfl, after⟩ := found.after_settle rfl fits.2
    refine Eq.mpr (congrArg (fun later : SlotPhase =>
      if ([wrote] == [true]) = true then later.Owes row else later.Empty .result) after) ?_
    cases wrote with
    | true => exact found.settles
    | false => exact found.empty
  · unfold savePendingCheckpoint
    split
    · refine ⟨trivial, fun wrote _ => ?_⟩
      cases wrote with
      | true =>
        refine Eq.mpr (congrArg (SlotPhase.Owes · row) (if_pos ⟨found.empty.role, rfl⟩)) ?_
        exact found.settles
      | false =>
        refine Eq.mpr (congrArg (SlotPhase.Empty .result) (if_neg fun both => nomatch both.2)) ?_
        exact found.empty
    · exact ⟨trivial, fun _ _ => written⟩

theorem settlePendingResult_moving (support : StoreSupport) (result : StepResult)
    (run : Option WorkflowRun) (found : phase.Found row) (pending : row.status = .pending) :
    Moving ResultEnds (settlePendingResult support result row run) phase := by
  have dropped : Moving ResultEnds (do
      releaseQueueSlot row
      return none : Engine (Option StepCheckpoint)) phase :=
    Program.meets_bind (releaseQueueSlot_drops found pending) fun _ _ after => after.1.empty
  have late : Moving ResultEnds (do
      releaseQueueSlot row
      if result.status = .completed then salvageResult support row result
      return none : Engine (Option StepCheckpoint)) phase := by
    refine Program.meets_bind (releaseQueueSlot_drops found pending) fun later _ after => ?_
    split
    · exact Program.meets_bind (salvageResult_moving support result after.1 after.2)
        fun _ _ empty => empty
    · exact after.1.empty
  unfold settlePendingResult
  split
  · exact dropped
  · exact dropped
  · exact late
  · exact late
  · refine Program.meets_bind (settlePendingCheckpoint_moving support result found) ?_
    intro after wrote owes
    cases wrote with
    | true => exact Program.meets_bind (releaseQueueSlot_pays owes pending) fun _ _ empty => empty
    | false => exact owes

theorem completeOneRemoteResult_moving (support : StoreSupport) (queuedIn : Nat → Nat → Bool)
    (result : StepResult) (empty : phase.Empty .result) :
    Moving ResultEnds (completeOneRemoteResult support queuedIn result) phase := by
  have settled : Moving ResultEnds (settleRemoteCheckpoint support result) phase := by
    refine Program.meets_perform trivial fun answer fits => ?_
    cases answer with
    | none => exact ⟨empty.role, empty.admitted, empty.owed⟩
    | some row =>
      obtain ⟨here, there⟩ := Prod.mk.inj (fits.1 row rfl)
      refine Program.meets_perform trivial fun run _ => ?_
      split
      · rename_i pending
        refine settlePendingResult_moving support result run ?_ pending
        rw [← here, ← there]
        exact ⟨⟨empty.role, empty.admitted, empty.owed⟩, rfl, if_pos rfl⟩
      · split <;> exact ⟨empty.role, empty.admitted, empty.owed⟩
  refine Program.meets_bind settled fun after found empty => ?_
  cases found with
  | none => exact empty
  | some row =>
    have asks : (stepFanStillRunning queuedIn row result >>= fun running =>
        if running then (return () : Engine Unit) else requestWake result.runId).Uses Asks := by
      refine Program.uses_bind (stepFanStillRunning_asks queuedIn row result) fun running => ?_
      split
      · trivial
      · exact ⟨trivial, fun _ => trivial⟩
    exact (moving_asks asks).weaken fun later _ same =>
      ⟨same.role.trans empty.role, same.admitted.trans empty.admitted, same.owed.trans empty.owed⟩

theorem settleOneByOne_moving (support : StoreSupport) (queuedIn : Nat → Nat → Bool)
    (results : List StepResult) (empty : phase.Empty .result) :
    Moving ResultEnds (settleOneByOne support queuedIn results) phase := by
  induction results generalizing phase with
  | nil => exact empty
  | cons result rest ih =>
    exact Program.meets_bind (completeOneRemoteResult_moving support queuedIn result empty)
      fun _ _ empty => ih empty

def claimedQueues (claimed : List (StepCheckpoint × Bool)) : List String :=
  claimed.flatMap fun entry => if entry.2 then entry.1.queue.toList else []

/-- A batch owes the slots of the steps it has settled, besides what it owed. -/
structure SlotPhase.Billed (phase : SlotPhase) (claimed : List (StepCheckpoint × Bool))
    (owed : List String) : Prop where
  role : phase.role = .result
  admitted : phase.admitted = none
  dropped : phase.dropped = []
  owed : phase.owed.Perm (claimedQueues claimed ++ owed)

theorem SlotPhase.Billed.settles (billed : phase.Billed claimed (row.queue.toList ++ owed)) :
    phase.Billed ((row, true) :: claimed) owed := by
  refine ⟨billed.role, billed.admitted, billed.dropped, billed.owed.trans ?_⟩
  show (claimedQueues claimed ++ (row.queue.toList ++ owed)).Perm
    ((row.queue.toList ++ claimedQueues claimed) ++ owed)
  rw [← List.append_assoc]
  exact List.Perm.append_right owed List.perm_append_comm

theorem SlotPhase.Billed.skips (row : StepCheckpoint) (billed : phase.Billed claimed owed) :
    phase.Billed ((row, false) :: claimed) owed :=
  ⟨billed.role, billed.admitted, billed.dropped, billed.owed⟩

theorem SlotPhase.settles_billed (dropped : phase.dropped = []) (key : String × Nat)
    (queue : Option String) :
    phase.settles key queue = { phase with owed := queue.toList ++ phase.owed } :=
  if_neg (by simp [dropped])

theorem settlesEach_billed (role : phase.role = .result) (admitted : phase.admitted = none)
    (dropped : phase.dropped = [])
    (seen : ∀ entry ∈ entries, phase.seen (entry.2.runId, entry.2.seq) = some entry.1)
    (answered : answer.length = entries.length) :
    (phase.settlesEach ((entries.map Prod.snd).zip answer)).Billed
      ((entries.map Prod.fst).zip answer) phase.owed := by
  induction entries generalizing phase answer with
  | nil => exact ⟨role, admitted, dropped, .refl _⟩
  | cons entry rest ih =>
    obtain ⟨row, settlement⟩ := entry
    cases answer with
    | nil => cases answered
    | cons wrote later =>
      have count : later.length = rest.length := Nat.succ.inj answered
      have read := seen _ List.mem_cons_self
      have others := fun entry member => seen entry (List.mem_cons_of_mem _ member)
      simp only [List.map_cons, List.zip_cons_cons, SlotPhase.settlesEach]
      cases wrote with
      | false => exact (ih role admitted dropped others count).skips row
      | true =>
        rw [if_pos rfl, read, SlotPhase.settles_billed dropped]
        exact SlotPhase.Billed.settles (ih role admitted dropped others count)

theorem saveEachPending_billed (support : StoreSupport)
    (entries : List (StepCheckpoint × StepSettlement)) (role : phase.role = .result)
    (admitted : phase.admitted = none) (dropped : phase.dropped = []) :
    Moving (fun after claims => after.Billed ((entries.map Prod.fst).zip claims) phase.owed)
      (saveEachPending support entries) phase := by
  induction entries generalizing phase with
  | nil => exact ⟨role, admitted, dropped, .refl _⟩
  | cons entry rest ih =>
    obtain ⟨row, settlement⟩ := entry
    have settled : phase.settles (row.runId, row.seq) row.queue =
        { phase with owed := row.queue.toList ++ phase.owed } :=
      SlotPhase.settles_billed dropped _ _
    have saved : Moving (fun after wrote => after =
        if wrote then { phase with owed := row.queue.toList ++ phase.owed } else phase)
        (savePendingCheckpoint support (row.settled settlement)) phase := by
      unfold savePendingCheckpoint
      split
      · refine ⟨trivial, fun wrote _ => ?_⟩
        cases wrote with
        | true => exact (if_pos ⟨role, rfl⟩).trans settled
        | false => exact if_neg fun both => nomatch both.2
      · exact ⟨trivial, fun _ _ => (phase.writes_result role _).trans settled⟩
    refine Program.meets_bind saved fun after wrote same => ?_
    subst same
    cases wrote with
    | true =>
      refine Program.meets_bind (ih role admitted dropped) fun later claims billed => ?_
      exact SlotPhase.Billed.settles billed
    | false =>
      refine Program.meets_bind (ih role admitted dropped) fun later claims billed => ?_
      exact SlotPhase.Billed.skips row billed

theorem releaseClaimed_moving (billed : phase.Billed claimed []) :
    Moving ResultEnds (releaseClaimed claimed) phase := by
  induction claimed generalizing phase with
  | nil => exact ⟨billed.role, billed.admitted, List.perm_nil.mp billed.owed⟩
  | cons entry rest ih =>
    obtain ⟨row, wrote⟩ := entry
    have owed := billed.owed
    unfold releaseClaimed
    cases wrote with
    | false => exact ih ⟨billed.role, billed.admitted, billed.dropped, owed⟩
    | true =>
      unfold releaseQueueSlot
      cases held : row.queue with
      | none =>
        have rested : claimedQueues ((row, true) :: rest) = claimedQueues rest := by
          simp [claimedQueues, held]
        rw [rested] at owed
        exact ih ⟨billed.role, billed.admitted, billed.dropped, owed⟩
      | some queue =>
        have first : claimedQueues ((row, true) :: rest) = queue :: claimedQueues rest := by
          simp [claimedQueues, held]
        rw [first] at owed
        have member : queue ∈ phase.owed := owed.mem_iff.mpr List.mem_cons_self
        refine ⟨.inr (.inl member), fun _ _ => ?_⟩
        have given : phase.gives queue = { phase with owed := phase.owed.erase queue } := by
          unfold SlotPhase.gives
          rw [if_neg (by simp [billed.admitted]), if_pos member]
        refine Eq.mpr (congrArg (Moving ResultEnds (releaseClaimed rest)) given) (ih ?_)
        refine ⟨billed.role, billed.admitted, billed.dropped, ?_⟩
        have less := owed.erase queue
        rwa [List.cons_append, List.erase_cons_head] at less

theorem settlePendingCheckpoints_billed (support : StoreSupport) (empty : phase.Empty .result)
    (dropped : phase.dropped = [])
    (seen : ∀ entry ∈ entries, phase.seen (entry.2.runId, entry.2.seq) = some entry.1) :
    Moving (fun after claims => after.Billed ((entries.map Prod.fst).zip claims) [])
      (settlePendingCheckpoints support entries) phase := by
  unfold settlePendingCheckpoints
  split
  · refine ⟨trivial, fun answer fits => ?_⟩
    have count : List.length (α := Bool) answer = entries.length :=
      fits.2.trans (List.length_map _)
    have billed := settlesEach_billed empty.role empty.admitted dropped seen count
    rw [empty.owed] at billed
    exact Eq.mpr (congrArg (SlotPhase.Billed · _ _) (if_pos empty.role)) billed
  · have billed := saveEachPending_billed support entries empty.role empty.admitted dropped
    rw [empty.owed] at billed
    exact billed

theorem completeRemoteResults_moving (support : StoreSupport) (queuedIn : Nat → Nat → Bool)
    (id : String) (results : List StepResult) (empty : phase.Empty .result)
    (dropped : phase.dropped = []) :
    Moving ResultEnds (completeRemoteResults support queuedIn id results) phase := by
  unfold completeRemoteResults
  split
  · exact settleOneByOne_moving support queuedIn results empty
  · refine Program.meets_perform trivial fun run _ => ?_
    split
    · exact settleOneByOne_moving support queuedIn _ empty
    · refine Program.meets_perform trivial fun rows fits => ?_
      have read : ∀ row result, (row, result) ∈ rowsRead rows (liveResults results) →
          (phase.after (.replayCheckpoints id) rows).seen (row.runId, row.seq) = some row := by
        intro row result member
        obtain ⟨live, -, found⟩ := List.mem_filterMap.mp member
        obtain ⟨stored, here, same⟩ := Option.map_eq_some_iff.mp found
        cases same
        have own := fits.1 _ _ here
        obtain ⟨run, position⟩ := Prod.mk.inj own
        exact (if_pos run).trans (position ▸ here)
      refine Program.meets_bind (settlePendingCheckpoints_billed support
        ⟨empty.role, empty.admitted, empty.owed⟩ dropped ?_) fun after claims billed => ?_
      · intro entry mapped
        obtain ⟨⟨row, result⟩, member, rfl⟩ := List.mem_map.mp mapped
        exact read row result (List.mem_filter.mp member).1
      · rw [List.map_map] at billed
        refine Program.meets_bind (releaseClaimed_moving billed) fun later _ empty => ?_
        refine (moving_asks (resumeBatch_asks queuedIn id _ [])).weaken fun last _ same => ?_
        exact ⟨same.role.trans empty.role, same.admitted.trans empty.admitted,
          same.owed.trans empty.owed⟩

end Results

section Runs

variable {every : List SlotPhase}

def EmptyHanded (phase : SlotPhase) (_ : Unit) : Prop := phase.admitted = none ∧ phase.owed = []

theorem SlotPath.follows {path : Engine Unit} (known : SlotPath role path) :
    Process.Follows slotWatch EmptyHanded { phase := { role }, rest := path } := by
  have empty : ∀ role, ({ role } : SlotPhase).Empty role := fun _ => ⟨rfl, rfl, rfl⟩
  cases known with
  | step host step input call current =>
    refine Process.follows_once ?_
    refine Program.meets_bind (stepGated_moving step input call current (empty .call)) ?_
    exact fun _ _ ended => ⟨ended.admitted, ended.owed⟩
  | result support queuedIn result =>
    exact Process.follows_once ((completeOneRemoteResult_moving support queuedIn result
      (empty .result)).weaken fun _ _ ended => ⟨ended.admitted, ended.owed⟩)
  | results support queuedIn id results =>
    exact Process.follows_once ((completeRemoteResults_moving support queuedIn id results
      (empty .result) rfl).weaken fun _ _ ended => ⟨ended.admitted, ended.owed⟩)
  | other _ slotless =>
    exact Process.follows_once ((moving_slotless slotless (by simp) (empty .other)).weaken
      fun _ _ ended => ⟨ended.admitted, ended.owed⟩)

theorem inHand_empty (empty : ∀ phase ∈ every, phase.admitted = none ∧ phase.owed = [])
    (queue : String) : inHand every queue = 0 := by
  induction every with
  | nil => rfl
  | cons phase others ih =>
    obtain ⟨admitted, owed⟩ := empty phase List.mem_cons_self
    rw [inHand_cons, ih fun other member => empty other (List.mem_cons_of_mem _ member)]
    simp [SlotPhase.hand, admitted, owed]

theorem SlotsFree.held {store : Store} (free : SlotsFree store)
    (empty : ∀ phase ∈ every, phase.admitted = none ∧ phase.owed = []) : SlotsHeld store every := by
  refine ⟨free.keyed, fun queue controller found => ?_⟩
  have idle := free.idle queue controller found
  have none : store.outstanding every queue = [] := by
    refine List.filter_eq_nil_iff.mpr fun key _ => ?_
    simp [free.vacant key]
  rw [none, inHand_empty empty, idle]
  exact ⟨rfl, fun cap _ => Nat.zero_le cap⟩

/-- Slots are conserved along every run whose operations account for the slots they move. -/
theorem slots_conserved {store : Store} (free : SlotsFree store)
    {paths : List (SlotRole × Engine Unit)} (known : ∀ path ∈ paths, SlotPath path.1 path.2)
    {final : SlotConfig}
    (reached : slotPaths.Reaches (carefulMoves.permits slotWatch) ⟨store, slotPool paths⟩ final) :
    SlotsKept final := by
  have initially : SlotsHeld store (phases (slotPool paths)) := by
    refine free.held fun phase member => ?_
    obtain ⟨process, pooled, rfl⟩ := List.mem_map.mp member
    obtain ⟨path, -, rfl⟩ := List.mem_map.mp pooled
    exact ⟨rfl, rfl⟩
  have following : ∀ process ∈ slotPool paths, process.Follows slotWatch EmptyHanded := by
    intro process pooled
    obtain ⟨path, member, rfl⟩ := List.mem_map.mp pooled
    exact (known path member).follows
  obtain ⟨held, follows⟩ : SlotsHeld final.shared (phases final.pool) ∧
      ∀ process ∈ final.pool, process.Follows slotWatch EmptyHanded := by
    refine processes_invariant EmptyHanded SlotsHeld (fun _ {_ _} order held => held.perm order)
      ?_ ?_ ?_ following initially reached
    · exact fun shared phase others op held may careful =>
        ⟨held.fits op careful, held.exec op may careful⟩
    · intro shared process others left held _ fell emptied
      -- A path that stops has nothing in hand.
      cases fell
      exact ⟨Process.follows_once emptied, held⟩
    · exact fun shared every passed held => ⟨held.keyed, held.conserved⟩
  refine ⟨held.conserved, fun rests queue controller found => ?_⟩
  -- At rest no path has a slot in hand.
  have empty : ∀ phase ∈ phases final.pool, phase.admitted = none ∧ phase.owed = [] := by
    intro phase member
    obtain ⟨process, pooled, rfl⟩ := List.mem_map.mp member
    obtain ⟨result, ended⟩ := (follows process pooled).ended (rests process pooled)
    exact ended
  have counted := (held.conserved queue controller found).1
  rw [inHand_empty empty] at counted
  exact counted

end Runs

/-- A queue of one slot, for a run whose steps are refused for a reason, or not. -/
def oneSlot (refusal : Option String) : Store :=
  { runs := .set .empty "r" { id := "r", workflow := "w", status := .running }
    queues := .set .empty "q" { config := { name := "q", concurrency := some 1 } }
    around := { refusals := fun _ => refusal } }

theorem oneSlot_free (refusal : Option String) : SlotsFree (oneSlot refusal) := by
  refine ⟨fun key row found => ?_, ?_, fun _ => rfl⟩
  · cases found
  intro queue controller found
  simp only [oneSlot, Table.get_set, Table.get_empty] at found
  split at found
  · cases found
    rfl
  · cases found

/-- A step of the run is called with the queue, and its result comes in. -/
def callAndResult : List (SlotRole × Engine Unit) :=
  [(.call, discard (CtxHost.stepGated { runId := "r", replay := fun _ => none } { name := "pay" }
      none { queue := some "q" } 0)),
    (.result, completeOneRemoteResult {} (fun _ _ => false)
      { runId := "r", seq := 0, status := .completed, output := some (.num 1) })]

theorem callAndResult_paths : ∀ path ∈ callAndResult, SlotPath path.1 path.2 := by
  simp only [callAndResult, List.forall_mem_cons]
  exact ⟨.step _ _ _ _ _, .result _ _ _, by simp⟩

def sendingAndSettling : List (Move Nat) :=
  List.replicate 6 (.step 0) ++ List.replicate 5 (.step 1)

theorem sendingAndSettling_runs :
    (slotPaths.run ⟨oneSlot none, slotPool callAndResult⟩ sendingAndSettling).isSome := by
  decide +kernel

/-- A step that is sent and settled gives its slot back. -/
theorem slots_conserved_settled :
    SlotsKept ((slotPaths.run ⟨oneSlot none, slotPool callAndResult⟩ sendingAndSettling).get
      sendingAndSettling_runs) :=
  slots_conserved (oneSlot_free none) callAndResult_paths
    (carefulMoves.reaches_get sendingAndSettling sendingAndSettling_runs (by decide +kernel))

/-- The step is admitted and then refused, and no result of it is found. -/
def refusing : List (Move Nat) := List.replicate 4 (.step 0) ++ [.step 1]

theorem refusing_runs :
    (slotPaths.run ⟨oneSlot (some "invalid_input"), slotPool callAndResult⟩ refusing).isSome := by
  decide +kernel

def refusedStep : SlotConfig :=
  (slotPaths.run ⟨oneSlot (some "invalid_input"), slotPool callAndResult⟩ refusing).get refusing_runs

/-- A step whose input is refused once its queue has admitted it keeps the queue's slot. -/
theorem refused_step_keeps_slot :
    ¬ ∀ store, SlotsFree store → ∀ paths : List (SlotRole × Engine Unit),
      (∀ path ∈ paths, SlotPath path.1 path.2) → ∀ final : SlotConfig,
        slotPaths.Reaches System.anyMove ⟨store, slotPool paths⟩ final → SlotsKept final := by
  intro claimed
  have kept : SlotsKept refusedStep := claimed _ (oneSlot_free _) callAndResult callAndResult_paths _
    (System.reaches_get refusing refusing_runs)
  -- Both paths are at rest, and no step was sent, yet the queue counts a slot as taken.
  have rests : ∀ process ∈ refusedStep.pool, process.rests = true := by decide +kernel
  have taken : (refusedStep.shared.queues.get "q").map (·.inFlight) = some 1 := by decide +kernel
  have unsent : refusedStep.shared.outstanding (phases refusedStep.pool) "q" = [] := by decide +kernel
  obtain ⟨controller, found, counted⟩ := Option.map_eq_some_iff.mp taken
  have settled := kept.settled rests "q" controller found
  rw [unsent, counted] at settled
  cases settled

end Durable
