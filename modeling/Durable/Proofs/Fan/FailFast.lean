import Durable.Engine.StepFan

/-! When a fail-fast fan throws the same error again on a later replay. -/

namespace Durable

variable {rows later : FanRows} {error : GatherError}

/-- A later state of a fan's checkpoints, reached by settling further members. -/
def SettlesFurther (before after : FanRows) : Prop :=
  ∀ index, isSettled (before index) = true → after index = before index

namespace ChildFan

variable (fan : ChildFan) {completions : Nat → Option (Option Value)}

theorem guardRows_settlesFurther (rows : FanRows) (completions : Nat → Option (Option Value)) :
    SettlesFurther rows (fan.guardRows rows completions) := by
  intro index settled
  unfold guardRows
  cases stored : rows index with
  | none => rfl
  | some checkpoint =>
    rw [stored] at settled
    simp [settled]

theorem isSettled_of_failed {row : Option StepCheckpoint} (failed : isFailedMember row = true) :
    isSettled row = true := by
  cases row with
  | none => simp [isFailedMember] at failed
  | some checkpoint =>
    simp only [isFailedMember, Bool.and_eq_true] at failed
    exact failed.1

theorem collect_not_threw (clean : fan.firstFailed rows = none) (error : GatherError)
    (cancelled : List String) : fan.collect rows ≠ .threw error cancelled := by
  -- With no failed member the aggregate of failures is empty.
  have vacant : (List.range fan.size).filter (fun index => isFailedMember (rows index)) = [] := by
    simpa [firstFailed, List.find?_eq_none, List.filter_eq_nil_iff] using clean
  unfold collect
  split
  · simp
  · simp [vacant]

theorem turn_threw_iff (fast : fan.mode = .failFast) :
    (∃ cancelled, fan.turn rows completions = .threw error cancelled) ↔
      ∃ index, fan.firstFailed (fan.guardRows rows completions) = some index ∧
        error = ⟨[fan.fastFailureOf index (fan.guardRows rows completions index)], fan.size⟩ := by
  simp only [turn, fast, if_true]
  cases first : fan.firstFailed (fan.guardRows rows completions) with
  | some index =>
    simp only [FanOutcome.threw.injEq, Option.some.injEq, exists_eq_left']
    exact ⟨fun ⟨_, same, _⟩ => same.symm, fun same => ⟨_, same.symm, rfl⟩⟩
  | none =>
    -- Without a failed member the turn suspends or collects, and neither throws.
    simp only [reduceCtorEq, false_and, exists_false, iff_false, not_exists]
    intro cancelled
    split
    · exact fan.collect_not_threw first error cancelled
    · simp

/--
A fail-fast fan that threw throws the same again exactly when no earlier member fails meanwhile.

The earlier members are those listed before the one it threw for.
-/
theorem turn_stable_iff (fast : fan.mode = .failFast)
    {laterCompletions : Nat → Option (Option Value)}
    (settles : SettlesFurther (fan.guardRows rows completions) later) {cancelled : List String}
    (threw : fan.turn rows completions = .threw error cancelled) :
    (∃ cancelled, fan.turn later laterCompletions = .threw error cancelled) ↔
      ∀ failure ∈ error.failures, ∀ index < failure.index,
        isFailedMember (fan.guardRows later laterCompletions index) = false := by
  obtain ⟨thrown, first, rfl⟩ := (fan.turn_threw_iff fast).mp ⟨cancelled, threw⟩
  have failed := List.find?_some first
  -- The member it threw for keeps its checkpoint, through the settling and the guard.
  have kept : fan.guardRows later laterCompletions thrown =
      fan.guardRows rows completions thrown := by
    have same := settles thrown (isSettled_of_failed failed)
    rw [fan.guardRows_settlesFurther later laterCompletions thrown
      (by rw [same]; exact isSettled_of_failed failed), same]
  have within := List.mem_range.mp (List.mem_of_find?_eq_some first)
  rw [fan.turn_threw_iff fast]
  simp only [List.mem_singleton, forall_eq]
  constructor
  · rintro ⟨index, again, same⟩ earlier before
    simp only [GatherError.mk.injEq, List.cons.injEq, fastFailureOf,
      GatherItemFailure.mk.injEq, and_true] at same
    have here : thrown = index := same.1
    subst here
    have passed := (List.find?_range_eq_some.mp again).2.2 earlier before
    simpa using passed
  · intro quiet
    refine ⟨thrown, List.find?_range_eq_some.mpr ⟨?_, List.mem_range.mpr within, ?_⟩, by rw [kept]⟩
    · rw [kept]
      exact failed
    · intro earlier before
      simpa using quiet earlier before

end ChildFan

/-- A dispatched step's checkpoint has its final result. -/
def isFinal (step : StepDef) : Option StepCheckpoint → Bool
  | some checkpoint =>
    checkpoint.status == .completed ||
      (checkpoint.status == .failed && isLastAttempt step checkpoint)
  | none => false

/-- A later state of a step fan's checkpoints, reached by settling further members. -/
def StepsSettleFurther (step : StepDef) (before after : FanRows) : Prop :=
  ∀ index, isFinal step (before index) = true → after index = before index

namespace RemotePolicy

variable (policy : RemotePolicy)

def isLost (checkpoint : StepCheckpoint) : Bool :=
  policy.remoteRedispatchMs.isSome &&
    (checkpoint.wakeAt.any fun deadline => decide (deadline ≤ policy.clock)) &&
    decide (policy.remoteRedispatchMax ≤ checkpoint.attempts)

def stepFailure (step : StepDef) : Option StepCheckpoint → Option StepError
  | none => none
  | some checkpoint =>
    match checkpoint.status with
    | .failed =>
      if isLastAttempt step checkpoint then
        some (checkpoint.error.getD { message := "remote step failed" })
      else none
    | .pending =>
      if policy.isLost checkpoint then some (remoteStepLost step checkpoint.attempts) else none
    | _ => none

def isRetried (step : StepDef) (checkpoint : StepCheckpoint) : Bool :=
  match checkpoint.status with
  | .failed =>
    !isLastAttempt step checkpoint &&
      checkpoint.wakeAt.any fun retryAt => decide (retryAt ≤ policy.clock)
  | .running => true
  | _ => false

/-- A member's checkpoint ends the call with an error of another kind. -/
def Interrupts (step : StepDef) (refusal : Option String) (row : Option StepCheckpoint) : Prop :=
  ∃ checkpoint, row = some checkpoint ∧
    (checkpoint.name ≠ step.name ∨ (policy.isRetried step checkpoint = true ∧ refusal ≠ none))

end RemotePolicy

namespace RemotePolicy

variable (policy : RemotePolicy)

/-- What `callRemote` does with a member that is not completed, told apart by its checkpoint. -/
theorem callRemote_unsettled {step : StepDef} (durable : step.timeoutMs.getD 0 = 0)
    (connected : policy.hasTransport = true) (runId : String) (seq : Nat)
    (input : Option Value) (group refusal : Option String) {checkpoint : StepCheckpoint}
    (named : checkpoint.name = step.name) (open_ : checkpoint.status ≠ .completed) :
    (∃ error, policy.stepFailure step (some checkpoint) = some error ∧
        policy.isRetried step checkpoint = false ∧
        policy.callRemote runId seq step input group refusal (some checkpoint) = .failed error) ∨
      (policy.stepFailure step (some checkpoint) = none ∧
        (∃ message, refusal = some message ∧ policy.isRetried step checkpoint = true ∧
          policy.callRemote runId seq step input group refusal (some checkpoint) =
            .refused message) ∨
        policy.stepFailure step (some checkpoint) = none ∧
          (policy.isRetried step checkpoint = true → refusal = none) ∧
          ∃ wakeAt write dispatches,
            policy.callRemote runId seq step input group refusal (some checkpoint) =
              .suspended wakeAt write dispatches) := by
  cases status : checkpoint.status with
  | completed => exact absurd status open_
  | running =>
    -- A step caught running is dispatched anew.
    have reached : policy.callRemote runId seq step input group refusal (some checkpoint) =
        dispatch runId seq step 1 input group refusal := by
      simp [callRemote, named, status, connected, durable]
    rw [reached]
    cases refusal with
    | none => exact .inr (.inr ⟨by simp [stepFailure, status], by simp, _, _, _, rfl⟩)
    | some message =>
      exact .inr (.inl ⟨by simp [stepFailure, status], message, rfl,
        by simp [isRetried, status], rfl⟩)
  | failed =>
    have reached : policy.callRemote runId seq step input group refusal (some checkpoint) =
        policy.retryFailed runId seq step checkpoint input group refusal := by
      simp [callRemote, named, status, connected, durable]
    rw [reached]
    by_cases last : isLastAttempt step checkpoint = true
    · exact .inl ⟨checkpoint.error.getD { message := "remote step failed" },
        by simp [stepFailure, status, last], by simp [isRetried, status, last],
        by simp [retryFailed, last]⟩
    · simp only [Bool.not_eq_true] at last
      cases due : checkpoint.wakeAt with
      | none =>
        exact .inr (.inr ⟨by simp [stepFailure, status, last], by simp [isRetried, status, due],
          _, _, _, by simp only [retryFailed, last, due, Bool.false_eq_true, if_false]; rfl⟩)
      | some retryAt =>
        by_cases early : policy.clock < retryAt
        · refine .inr (.inr ⟨by simp [stepFailure, status, last], ?_, _, _, _, by
            simp only [retryFailed, last, due, Bool.false_eq_true, if_false, early, if_true]; rfl⟩)
          simp [isRetried, status, due, Nat.not_le_of_lt early]
        · have retried : policy.isRetried step checkpoint = true := by
            simp [isRetried, status, last, due, Nat.le_of_not_lt early]
          have sent : policy.retryFailed runId seq step checkpoint input group refusal =
              dispatch runId seq step (checkpoint.attempts + 1) input group refusal := by
            simp [retryFailed, last, due, early]
          simp only [sent]
          cases refusal with
          | none => exact .inr (.inr ⟨by simp [stepFailure, status, last], by simp, _, _, _, rfl⟩)
          | some message =>
            exact .inr (.inl ⟨by simp [stepFailure, status, last], message, rfl, retried, rfl⟩)
  | pending =>
    have reached : policy.callRemote runId seq step input group refusal (some checkpoint) =
        policy.awaitPending step checkpoint := by
      simp [callRemote, named, status, connected, durable]
    rw [reached]
    have calm : policy.isRetried step checkpoint = false := by simp [isRetried, status]
    cases window : policy.remoteRedispatchMs with
    | none =>
      exact .inr (.inr ⟨by simp [stepFailure, status, isLost, window], by simp [calm], _, _, _, by
        simp only [awaitPending, window]; rfl⟩)
    | some window' =>
      cases due : checkpoint.wakeAt with
      | none =>
        exact .inr (.inr ⟨by simp [stepFailure, status, isLost, due], by simp [calm], _, _, _, by
          simp only [awaitPending, window, due]; rfl⟩)
      | some deadline =>
        by_cases early : policy.clock < deadline
        · exact .inr (.inr ⟨by
            simp [stepFailure, status, isLost, due, Nat.not_le_of_lt early], by simp [calm],
            _, _, _, by simp only [awaitPending, window, due, early, if_true]; rfl⟩)
        · by_cases spent : policy.remoteRedispatchMax ≤ checkpoint.attempts
          · exact .inl ⟨remoteStepLost step checkpoint.attempts, by
              simp [stepFailure, status, isLost, window, due, Nat.le_of_not_lt early, spent],
              calm, by simp [awaitPending, window, due, early, spent]⟩
          · exact .inr (.inr ⟨by simp [stepFailure, status, isLost, spent], by simp [calm],
              _, _, _, by simp only [awaitPending, window, due, early, spent, if_false]; rfl⟩)

end RemotePolicy

namespace StepFan

variable (fan : StepFan) (policy : RemotePolicy) (refusals : Nat → Option String) {tally : FanTally}
  {laterRefusals : Nat → Option String} {clock : Nat}

/-- What looking at a member of a fail-fast fan does, whatever was tallied before it. -/
theorem look_failFast (fast : fan.mode = .failFast) (durable : fan.step.timeoutMs.getD 0 = 0)
    (connected : policy.hasTransport = true) (index : Nat) (row : Option StepCheckpoint)
    (tally : FanTally) :
    (∃ error, policy.stepFailure fan.step row = some error ∧
        ¬ policy.Interrupts fan.step (refusals index) row ∧
        fan.look policy refusals index row tally =
          .error (.threw ⟨[fan.failureOf index error], fan.inputs.length⟩)) ∨
      (policy.Interrupts fan.step (refusals index) row ∧
        ∃ ended, fan.look policy refusals index row tally = .error ended ∧
          ∀ error, ended ≠ .threw error) ∨
      (policy.stepFailure fan.step row = none ∧
        ¬ policy.Interrupts fan.step (refusals index) row ∧
        ∃ next, fan.look policy refusals index row tally = .ok next ∧
          next.failures = tally.failures) := by
  cases row with
  | none =>
    exact .inr (.inr ⟨rfl, by simp [RemotePolicy.Interrupts], _, rfl, rfl⟩)
  | some checkpoint =>
    by_cases named : checkpoint.name = fan.step.name
    · by_cases completed : checkpoint.status = .completed
      · exact .inr (.inr ⟨by simp [RemotePolicy.stepFailure, completed],
          by simp [RemotePolicy.Interrupts, named, RemotePolicy.isRetried, completed],
          { tally with outputs := tally.outputs ++ [(index, checkpoint.output)] },
          by simp [look, named, completed], rfl⟩)
      by_cases waiting : checkpoint.status = .pending ∧ policy.stepIsWaiting checkpoint = true
      · -- A waiting member is neither lost nor retried.
        have calm : policy.stepFailure fan.step (some checkpoint) = none := by
          have alive := waiting.2
          unfold RemotePolicy.stepIsWaiting at alive
          have present : policy.isLost checkpoint = false := by
            unfold RemotePolicy.isLost
            cases window : policy.remoteRedispatchMs with
            | none => rfl
            | some _ =>
              cases due : checkpoint.wakeAt with
              | none => rfl
              | some deadline =>
                simp only [window, due, decide_eq_true_eq] at alive
                simp [Nat.not_le_of_lt alive]
          simp [RemotePolicy.stepFailure, waiting.1, present]
        exact .inr (.inr ⟨calm,
          by simp [RemotePolicy.Interrupts, named, RemotePolicy.isRetried, waiting.1],
          { tally with
            inFlight := tally.inFlight + 1
            wakeAt := earlier tally.wakeAt (checkpoint.wakeAt.map policy.stepLeaseWakeAt) },
          by simp [look, named, waiting], rfl⟩)
      · rcases policy.callRemote_unsettled durable connected fan.runId (fan.firstSeq + index)
            (fan.inputs.getD index none)
            (some (stepFanGroup fan.firstSeq fan.inputs.length fan.mode)) (refusals index)
            named completed with
          ⟨error, failure, calm, failed⟩ | ⟨-, message, refusal, retried, refused⟩ |
            ⟨failure, allowed, wakeAt, write, dispatches, suspended⟩
        · exact .inl ⟨error, failure, by simp [RemotePolicy.Interrupts, named, calm],
            by simp only [look, named, ne_eq, not_true, if_false, completed, waiting, failed]
               exact if_pos fast⟩
        · exact .inr (.inl ⟨⟨checkpoint, rfl, .inr ⟨retried, by simp [refusal]⟩⟩, .refused message,
            by simp only [look, named, ne_eq, not_true, if_false, completed, waiting, refused],
            by simp⟩)
        · refine .inr (.inr ⟨failure, ?_, { tally with
            inFlight := tally.inFlight + 1, wakeAt := earlier tally.wakeAt wakeAt },
            by simp only [look, named, ne_eq, not_true, if_false, completed, waiting, suspended],
            rfl⟩)
          rintro ⟨_, ⟨⟩, other | ⟨retried, refusal⟩⟩
          · exact other named
          · exact refusal (allowed retried)
    · exact .inr (.inl ⟨⟨checkpoint, rfl, .inl named⟩, _, by
        simp only [look, named, ne_eq, not_false_iff, if_true]; rfl, by simp⟩)

/-- A member the turn counts and goes past. -/
def Passes (rows : FanRows) (index : Nat) : Prop :=
  policy.stepFailure fan.step (rows index) = none ∧
    ¬ policy.Interrupts fan.step (refusals index) (rows index)

def Fails (rows : FanRows) (index : Nat) (failure : GatherItemFailure) : Prop :=
  (∃ error, policy.stepFailure fan.step (rows index) = some error ∧
      failure = fan.failureOf index error) ∧
    ¬ policy.Interrupts fan.step (refusals index) (rows index)

/-- The first member a survey does not go past decides what it throws. -/
theorem survey_threw_iff (fast : fan.mode = .failFast)
    (durable : fan.step.timeoutMs.getD 0 = 0) (connected : policy.hasTransport = true)
    (rows : FanRows) (error : GatherError) (count start : Nat) (tally : FanTally) :
    fan.survey policy refusals rows (List.range' start count) tally = .error (.threw error) ↔
      ∃ index failure, start ≤ index ∧ index < start + count ∧
        (∀ before, start ≤ before → before < index → fan.Passes policy refusals rows before) ∧
        fan.Fails policy refusals rows index failure ∧
        error = ⟨[failure], fan.inputs.length⟩ := by
  induction count generalizing start tally with
  | zero =>
    simp only [List.range'_zero, survey, reduceCtorEq, false_iff, not_exists]
    rintro index failure ⟨lower, upper, -⟩
    omega
  | succ count ih =>
    rw [List.range'_succ]
    simp only [survey]
    rcases fan.look_failFast policy refusals fast durable connected start (rows start) tally with
      ⟨found, failed, calm, looked⟩ | ⟨stopped, ended, looked, other⟩ |
        ⟨failed, calm, next, looked, -⟩
    · -- The first member fails, so the call throws for it.
      rw [looked]
      constructor
      · rintro ⟨⟩
        exact ⟨start, _, Nat.le_refl _, by omega, by omega, ⟨⟨found, failed, rfl⟩, calm⟩, rfl⟩
      · rintro ⟨index, failure, lower, -, passed, ⟨⟨again, same, rfl⟩, -⟩, rfl⟩
        rcases Nat.eq_or_lt_of_le lower with here | later
        · subst here
          rw [failed] at same
          cases same
          rfl
        · have gone := (passed start (Nat.le_refl _) later).1
          rw [failed] at gone
          cases gone
    · -- The first member ends the call with an error of another kind.
      rw [looked]
      constructor
      · intro threw
        cases threw
        exact absurd rfl (other error)
      · rintro ⟨index, failure, lower, -, passed, ⟨-, quiet⟩, -⟩
        rcases Nat.eq_or_lt_of_le lower with here | later
        · subst here
          exact absurd stopped quiet
        · exact absurd stopped (passed start (Nat.le_refl _) later).2
    · -- The first member is passed, and the rest of the survey decides.
      rw [looked]
      simp only [ih]
      constructor
      · rintro ⟨index, failure, lower, upper, passed, fails, rfl⟩
        refine ⟨index, failure, by omega, by omega, fun before above below => ?_, fails, rfl⟩
        rcases Nat.eq_or_lt_of_le above with here | later
        · subst here
          exact ⟨failed, calm⟩
        · exact passed before later below
      · rintro ⟨index, failure, lower, upper, passed, fails, rfl⟩
        have later : index ≠ start := by
          rintro rfl
          obtain ⟨found, same, -⟩ := fails.1
          rw [failed] at same
          cases same
        exact ⟨index, failure, by omega, by omega,
          fun before above below => passed before (by omega) below, fails, rfl⟩

theorem survey_failures (fast : fan.mode = .failFast) (durable : fan.step.timeoutMs.getD 0 = 0)
    (connected : policy.hasTransport = true) (rows : FanRows) (members : List Nat)
    {final : FanTally} (surveyed : fan.survey policy refusals rows members tally = .ok final) :
    final.failures = tally.failures := by
  induction members generalizing tally with
  | nil =>
    cases surveyed
    rfl
  | cons index rest ih =>
    simp only [survey] at surveyed
    rcases fan.look_failFast policy refusals fast durable connected index (rows index) tally with
      ⟨_, _, _, looked⟩ | ⟨_, _, looked, _⟩ | ⟨_, _, next, looked, same⟩
    · simp [looked] at surveyed
    · simp [looked] at surveyed
    · simp only [looked] at surveyed
      rw [ih surveyed, same]

theorem conclude_not_threw (clean : tally.failures = []) (error : GatherError) :
    fan.conclude policy refusals tally ≠ .threw error := by
  have finished : fan.finish tally ≠ .threw error := by
    unfold finish
    split
    · simp
    · simp [clean]
  unfold conclude
  split
  · simp
  · split
    · simp
    · exact finished

/-- The settings under which a fan looks at its members at all. -/
structure Admitted : Prop where
  durable : fan.step.timeoutMs.getD 0 = 0
  positive : fan.concurrency ≠ some 0
  connected : policy.hasTransport = true

theorem admitted_of_threw (threw : fan.turn policy refusals rows = .threw error) :
    fan.Admitted policy := by
  unfold turn at threw
  split at threw
  · simp at threw
  · split at threw
    · simp at threw
    · split at threw
      · simp at threw
      · rename_i durable _ bounded connected
        exact ⟨by omega, fun zero => bounded zero, by simpa using connected⟩

theorem turn_admitted (admitted : fan.Admitted policy) (rows : FanRows) :
    fan.turn policy refusals rows =
      match fan.survey policy refusals rows (List.range fan.inputs.length) {} with
      | .error ended => ended
      | .ok tally => fan.conclude policy refusals tally := by
  obtain ⟨durable, positive, connected⟩ := admitted
  unfold turn
  cases limit : fan.concurrency with
  | none =>
    rw [durable, connected]
    rfl
  | some bound =>
    cases bound with
    | zero => exact absurd limit positive
    | succ bound =>
      rw [durable, connected]
      rfl

theorem turn_threw_iff (fast : fan.mode = .failFast) (admitted : fan.Admitted policy)
    (rows : FanRows) : fan.turn policy refusals rows = .threw error ↔
      ∃ index failure, index < fan.inputs.length ∧
        (∀ before < index, fan.Passes policy refusals rows before) ∧
        fan.Fails policy refusals rows index failure ∧
        error = ⟨[failure], fan.inputs.length⟩ := by
  obtain ⟨durable, -, connected⟩ := id admitted
  have decided := fan.survey_threw_iff policy refusals fast durable connected rows error
    fan.inputs.length 0 {}
  rw [← List.range_eq_range'] at decided
  simp only [Nat.zero_le, true_and, Nat.zero_add, true_imp_iff] at decided
  rw [fan.turn_admitted policy refusals admitted, ← decided]
  cases surveyed : fan.survey policy refusals rows (List.range fan.inputs.length) {} with
  | error ended => simp
  | ok tally =>
    -- A complete survey has no failures, so its conclusion throws nothing.
    have clean := fan.survey_failures policy refusals fast durable connected rows _ surveyed
    simp only [reduceCtorEq, iff_false]
    exact fan.conclude_not_threw policy refusals clean error

theorem fails_of_final {index : Nat} {failure : GatherItemFailure}
    (fails : fan.Fails policy refusals rows index failure)
    (final : isFinal fan.step (rows index) = true) (kept : later index = rows index) :
    fan.Fails { policy with clock } laterRefusals later index failure := by
  obtain ⟨⟨error, stands, rfl⟩, quiet⟩ := fails
  rw [Fails, kept]
  cases row : rows index with
  | none =>
    rw [row] at final
    cases final
  | some checkpoint =>
    rw [row] at stands final quiet
    have named : checkpoint.name = fan.step.name :=
      Decidable.byContradiction fun other => quiet ⟨checkpoint, rfl, .inl other⟩
    -- Of the final checkpoints only a failed one stands for a failure, and its clock is not read.
    cases status : checkpoint.status <;>
      simp only [isFinal, status, RemotePolicy.stepFailure] at final stands ⊢ <;>
      simp_all [RemotePolicy.Interrupts, RemotePolicy.isRetried]

/--
A fail-fast step fan that threw throws the same again exactly when two things hold.

No earlier member ends the call meanwhile, and the thrown failure is a final one or still stands.
-/
theorem turn_stable_iff (fast : fan.mode = .failFast)
    (settles : StepsSettleFurther fan.step rows later)
    (threw : fan.turn policy refusals rows = .threw error) :
    fan.turn { policy with clock } laterRefusals later = .threw error ↔
      ∀ failure ∈ error.failures,
        (∀ before < failure.index, fan.Passes { policy with clock } laterRefusals later before) ∧
        (isFinal fan.step (rows failure.index) = false →
          fan.Fails { policy with clock } laterRefusals later failure.index failure) := by
  have admitted := fan.admitted_of_threw policy refusals threw
  have same : fan.Admitted { policy with clock } :=
    ⟨admitted.durable, admitted.positive, admitted.connected⟩
  obtain ⟨index, failure, within, -, fails, rfl⟩ :=
    (fan.turn_threw_iff policy refusals fast admitted rows).mp threw
  have named : failure.index = index := by
    obtain ⟨error, -, rfl⟩ := fails.1
    rfl
  rw [fan.turn_threw_iff { policy with clock } laterRefusals fast same later]
  simp only [List.mem_singleton, forall_eq, named]
  constructor
  · rintro ⟨again, other, -, passed, failsAgain, equal⟩
    simp only [GatherError.mk.injEq, List.cons.injEq, and_true] at equal
    subst equal
    have here : failure.index = again := by
      obtain ⟨error, -, rfl⟩ := failsAgain.1
      rfl
    have here : index = again := named.symm.trans here
    subst here
    exact ⟨passed, fun _ => failsAgain⟩
  · rintro ⟨passed, stands⟩
    refine ⟨index, failure, within, passed, ?_, rfl⟩
    cases final : isFinal fan.step (rows index) with
    | false => exact stands final
    | true => exact fan.fails_of_final policy refusals fails final (settles index final)

end StepFan

/--
A body that caught a fail-fast error sees it again on a later replay exactly under these conditions.

For a fan of children, no member listed before the thrown one has failed by then.
For a fan of steps, none has ended the call, and the thrown failure is final or still stands.
-/
theorem failFast_stable_iff (fan : ChildFan) (rows later : FanRows)
    (completions laterCompletions : Nat → Option (Option Value)) (error : GatherError)
    (cancelled : List String) (steps : StepFan) (policy : RemotePolicy) (clock : Nat)
    (refusals laterRefusals : Nat → Option String) (stepRows laterStepRows : FanRows)
    (stepError : GatherError) :
    (fan.mode = .failFast → SettlesFurther (fan.guardRows rows completions) later →
      fan.turn rows completions = .threw error cancelled →
      ((∃ cancelled, fan.turn later laterCompletions = .threw error cancelled) ↔
        ∀ failure ∈ error.failures, ∀ index < failure.index,
          isFailedMember (fan.guardRows later laterCompletions index) = false)) ∧
    (steps.mode = .failFast → StepsSettleFurther steps.step stepRows laterStepRows →
      steps.turn policy refusals stepRows = .threw stepError →
      (steps.turn { policy with clock } laterRefusals laterStepRows = .threw stepError ↔
        ∀ failure ∈ stepError.failures,
          (∀ index < failure.index,
            steps.Passes { policy with clock } laterRefusals laterStepRows index) ∧
          (isFinal steps.step (stepRows failure.index) = false →
            steps.Fails { policy with clock } laterRefusals laterStepRows failure.index
              failure))) :=
  ⟨fun fast settles threw => fan.turn_stable_iff fast settles threw,
    fun fast settles threw => steps.turn_stable_iff policy refusals fast settles threw⟩

def pairFan : ChildFan :=
  { runId := "p", firstSeq := 0, size := 2, mode := .failFast }

/-- The second child of the pair has failed, and the first is still running. -/
def secondFailed : FanRows
  | 0 => some { runId := "p", seq := 0, name := "signal:child:p.all.0.0", kind := .signal
                status := .running }
  | 1 => some { runId := "p", seq := 1, name := "signal:child:p.all.0.1", kind := .signal
                output := some (Completion.failed "declined" none none).toValue }
  | _ => none

/-- The first child of the pair has settled too, as the cancelled run it became. -/
def firstCancelled : FanRows
  | 0 => some (pairFan.resolved 0 (some (Completion.failed "cancelled" none none).toValue))
  | index => secondFailed index

theorem firstCancelled_settles :
    SettlesFurther (pairFan.guardRows secondFailed fun _ => none) firstCancelled := by
  intro index settled
  match index with
  | 0 => simp [ChildFan.guardRows, secondFailed, isSettled] at settled
  | 1 => rfl
  | _ + 2 => rfl

/-- Cancelling the first sibling changes the member a caught error names. -/
theorem failFast_changes_member :
    SettlesFurther (pairFan.guardRows secondFailed fun _ => none) firstCancelled ∧
      pairFan.turn secondFailed (fun _ => none) =
        .threw ⟨[{ index := 1, id := "p.all.0.1", error := "declined" }], 2⟩ ["p.all.0.0"] ∧
      pairFan.turn firstCancelled (fun _ => none) =
        .threw ⟨[{ index := 0, id := "p.all.0.0", error := "cancelled" }], 2⟩ [] :=
  ⟨firstCancelled_settles, by decide +kernel, by decide +kernel⟩

def pairSteps : StepFan :=
  { runId := "p", firstSeq := 0, inputs := [none, none], step := { name := "charge" }
    mode := .failFast }

/-- The first step of the pair has completed, and the second was declined for good. -/
def secondDeclined : FanRows
  | 0 => some { runId := "p", seq := 0, name := "charge", kind := .remote }
  | 1 => some { runId := "p", seq := 1, name := "charge", kind := .remote, status := .failed
                error := some { message := "declined", retryable := some false } }
  | _ => none

/-- With no earlier member failing meanwhile, both pairs throw for the same member again. -/
theorem failFast_stable_pairs :
    (∃ cancelled, pairFan.turn firstCancelled (fun _ => none) =
      .threw ⟨[{ index := 0, id := "p.all.0.0", error := "cancelled" }], 2⟩ cancelled) ∧
    pairSteps.turn { clock := 5 } (fun _ => none) secondDeclined =
      .threw ⟨[{ index := 1, id := "p:1", error := "declined" }], 2⟩ := by
  have stable := failFast_stable_iff pairFan firstCancelled firstCancelled (fun _ => none)
    (fun _ => none) ⟨[{ index := 0, id := "p.all.0.0", error := "cancelled" }], 2⟩ [] pairSteps
    { clock := 0 } 5 (fun _ => none) (fun _ => none) secondDeclined secondDeclined
    ⟨[{ index := 1, id := "p:1", error := "declined" }], 2⟩
  constructor
  · refine (stable.1 rfl (fun index settled => ?_) (by decide +kernel)).mpr (by simp)
    rcases index with _ | _ | index <;> rfl
  · refine (stable.2 rfl (fun _ _ => rfl) (by decide +kernel)).mpr ?_
    simp only [List.mem_singleton, forall_eq, Nat.lt_one_iff]
    refine ⟨⟨rfl, ?_⟩, fun open_ => absurd open_ (by decide)⟩
    rintro ⟨_, ⟨⟩, other | ⟨retried, -⟩⟩
    · exact other rfl
    · cases retried

end Durable
