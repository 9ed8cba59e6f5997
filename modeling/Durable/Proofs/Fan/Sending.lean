import Mathlib.Algebra.BigOperators.Group.List.Basic
import Mathlib.Data.List.Nodup
import Mathlib.Logic.Relation
import Durable.Engine.StepFanTurns
import Durable.Proofs.Fan.FailFast

/-! Every member of a step fan is sent once, within its concurrency, and returns its own output. -/

namespace Durable

variable {row : StepCheckpoint}

/-- A member is sent and has no final result: it is in flight, or to be retried. -/
def isOpen (step : StepDef) (row : Option StepCheckpoint) : Bool :=
  row.isSome && !isFinal step row

/-- How many writes a member can still take before its result is final. -/
def memberWeight (step : StepDef) : Option StepCheckpoint → Nat
  | none => 3 * max 1 (step.retries.getD 1) + 3
  | some row =>
    let left := 3 * (max 1 (step.retries.getD 1) - row.attempts)
    match row.status with
    | .completed => 0
    | .failed =>
      if isLastAttempt step row then 0 else if row.wakeAt.isNone then left + 1 else left
    | _ => left + 2

theorem attempts_lt {step : StepDef} (more : isLastAttempt step row = false) :
    row.attempts < max 1 (step.retries.getD 1) := by
  simp only [isLastAttempt, Bool.or_eq_false_iff, decide_eq_false_iff_not] at more
  omega

namespace StepFan

variable {fan : StepFan} {policy : RemotePolicy} {refusals : Nat → Option String} {rows : FanRows}
  {tally : FanTally} {index : Nat} {state : FanState} {final : FanTally} {members : List Nat}
  {result : StepResult} {β : Type}

/-- A member's checkpoint is one that the fan and its workers write. -/
structure Sane (fan : StepFan) (row : StepCheckpoint) : Prop where
  named : row.name = fan.step.name
  started : 1 ≤ row.attempts
  known : row.status = .pending ∨ row.status = .failed ∨ row.status = .completed

theorem admitted_of_reads (reads : fan.refusedAtOnce policy = false) : fan.Admitted policy := by
  simp only [refusedAtOnce, Bool.or_eq_false_iff, decide_eq_false_iff_not, Nat.not_lt,
    Nat.le_zero, Bool.not_eq_false'] at reads
  exact ⟨reads.1.1, reads.1.2, reads.2⟩

/-- The write that a turn makes for a member to be retried: its deadline, or its next attempt. -/
def Retries (row written : StepCheckpoint) : Prop :=
  (row.wakeAt = none ∧ ∃ retryAt, written = { row with wakeAt := some retryAt }) ∨
    (row.wakeAt ≠ none ∧ written.status = .pending ∧ written.attempts = row.attempts + 1 ∧
      written.name = row.name)

/-- What looking at a member comes to: what is written for it, and the tally or the turn's end. -/
inductive Looked (fan : StepFan) (policy : RemotePolicy) (refusal : Option String) (index : Nat)
    (row : StepCheckpoint) (tally : FanTally) :
    Option StepCheckpoint → Except StepFanOutcome FanTally → Prop where
  | completed (status : row.status = .completed) :
      Looked fan policy refusal index row tally none
        (.ok { tally with outputs := tally.outputs ++ [(index, row.output)] })
  | waits {wakeAt : Option Nat} (status : row.status = .pending) :
      Looked fan policy refusal index row tally none
        (.ok { tally with inFlight := tally.inFlight + 1, wakeAt })
  | threw {error : GatherError} (status : row.status = .failed)
      (last : isLastAttempt fan.step row = true) (fast : fan.mode = .failFast) :
      Looked fan policy refusal index row tally none (.error (.threw error))
  | failed (status : row.status = .failed) (last : isLastAttempt fan.step row = true) :
      Looked fan policy refusal index row tally none
        (.ok { tally with failures := tally.failures ++
          [fan.failureOf index (row.error.getD { message := "remote step failed" })] })
  | early {retryAt : Nat} {wakeAt : Option Nat} (status : row.status = .failed)
      (more : isLastAttempt fan.step row = false) (stamped : row.wakeAt = some retryAt)
      (later : policy.clock < retryAt) :
      Looked fan policy refusal index row tally none
        (.ok { tally with inFlight := tally.inFlight + 1, wakeAt })
  | refused {message : String} (status : row.status = .failed)
      (more : isLastAttempt fan.step row = false) (refuses : refusal = some message) :
      Looked fan policy refusal index row tally none (.error (.refused message))
  | retries {written : StepCheckpoint} {wakeAt : Option Nat} (status : row.status = .failed)
      (more : isLastAttempt fan.step row = false) (retried : Retries row written) :
      Looked fan policy refusal index row tally (some written)
        (.ok { tally with inFlight := tally.inFlight + 1, wakeAt })

theorem looked_failed (admitted : fan.Admitted policy) (index : Nat) (sane : Sane fan row)
    (status : row.status = .failed) (tally : FanTally) :
    Looked fan policy (refusals index) index row tally
      (fan.lookWrite policy refusals index (some row))
      (fan.look policy refusals index (some row) tally) := by
  obtain ⟨durable, -, connected⟩ := admitted
  have named := sane.named
  have reached : policy.callRemote fan.runId (fan.firstSeq + index) fan.step
      (fan.inputs.getD index none)
      (some (stepFanGroup fan.firstSeq fan.inputs.length fan.mode)) (refusals index) (some row) =
      policy.retryFailed fan.runId (fan.firstSeq + index) fan.step row
        (fan.inputs.getD index none)
        (some (stepFanGroup fan.firstSeq fan.inputs.length fan.mode)) (refusals index) := by
    simp [RemotePolicy.callRemote, named, status, connected, durable]
  simp only [look, lookWrite, named, status, reached, ne_eq, not_true_eq_false, reduceCtorEq,
    false_and, or_self, if_false]
  by_cases last : isLastAttempt fan.step row = true
  · simp only [RemotePolicy.retryFailed, last, if_true]
    split
    · rename_i fast
      exact .threw status last fast
    · exact .failed status last
  · simp only [Bool.not_eq_true] at last
    simp only [RemotePolicy.retryFailed, last, Bool.false_eq_true, if_false]
    cases stamped : row.wakeAt with
    | none => exact .retries status last (.inl ⟨stamped, _, rfl⟩)
    | some retryAt =>
      by_cases soon : policy.clock < retryAt
      · simp only [soon, if_true]
        exact .early status last stamped soon
      · simp only [soon, if_false, RemotePolicy.dispatch]
        cases refusal : refusals index with
        | some message => exact .refused status last rfl
        | none => exact .retries status last (.inr ⟨by simp [stamped], rfl, rfl, named.symm⟩)

theorem looked (refusals : Nat → Option String) (admitted : fan.Admitted policy)
    (healOff : policy.remoteRedispatchMs = none) (index : Nat) (sane : Sane fan row)
    (tally : FanTally) : Looked fan policy (refusals index) index row tally
      (fan.lookWrite policy refusals index (some row))
      (fan.look policy refusals index (some row) tally) := by
  rcases sane.known with pending | failed | completed
  · -- With the self-heal off a pending member only waits.
    have waits : policy.stepIsWaiting row = true := by simp [RemotePolicy.stepIsWaiting, healOff]
    simp only [look, lookWrite, sane.named, pending, waits, ne_eq, not_true_eq_false, reduceCtorEq,
      if_false, and_self, if_true, or_true]
    exact .waits pending
  · exact looked_failed admitted index sane failed tally
  · simp only [look, lookWrite, sane.named, completed, ne_eq, not_true_eq_false, if_false,
      if_true, true_or, or_true]
    exact .completed completed

/-- Every checkpoint of the fan is one that the fan and its workers write. -/
def SaneRows (fan : StepFan) (rows : FanRows) : Prop :=
  ∀ index row, rows index = some row → Sane fan row

def completedOutput : Option StepCheckpoint → Option (Option Value)
  | some row => if row.status = .completed then some row.output else none
  | none => none

def finalFailure (fan : StepFan) (index : Nat) : Option StepCheckpoint → Option GatherItemFailure
  | some row =>
    if row.status = .failed ∧ isLastAttempt fan.step row = true then
      some (fan.failureOf index (row.error.getD { message := "remote step failed" }))
    else none
  | none => none

/-- What a turn has learned once it has looked at these members. -/
structure Surveyed (fan : StepFan) (rows : FanRows) (members : List Nat) (tally final : FanTally) :
    Prop where
  inFlight : final.inFlight =
    tally.inFlight + members.countP fun index => isOpen fan.step (rows index)
  unsent : final.unsent = tally.unsent ++ members.filter fun index => (rows index).isNone
  outputs : final.outputs = tally.outputs ++ members.filterMap fun index =>
    (completedOutput (rows index)).map (index, ·)
  failures : final.failures = tally.failures ++ members.filterMap fun index =>
    finalFailure fan index (rows index)

theorem isOpen_eq {step : StepDef} : isOpen step (some row) = !(row.status == .completed ||
      (row.status == .failed && isLastAttempt step row)) := by
  simp [isOpen, isFinal]

/-- A turn that has looked at every member has counted each one where it belongs. -/
theorem surveyed (admitted : fan.Admitted policy) (healOff : policy.remoteRedispatchMs = none)
    (sane : SaneRows fan rows) (members : List Nat)
    (done : fan.survey policy refusals rows members tally = .ok final) :
    Surveyed fan rows members tally final := by
  induction members generalizing tally with
  | nil =>
    cases done
    exact ⟨by simp, by simp, by simp, by simp⟩
  | cons index rest ih =>
    unfold survey at done
    cases found : rows index with
    | none =>
      rw [found] at done
      obtain ⟨inFlight, unsent, outputs, failures⟩ := ih done
      refine ⟨?_, ?_, ?_, ?_⟩
      · simp [inFlight, found, isOpen]
      · simp [unsent, found]
      · simp [outputs, found, completedOutput]
      · simp [failures, found, finalFailure]
    | some row =>
      rw [found] at done
      have looks := looked refusals admitted healOff index (sane index row found) tally
      revert done looks
      generalize fan.look policy refusals index (some row) tally = outcome
      generalize fan.lookWrite policy refusals index (some row) = written
      intro done looks
      cases looks with
      | completed status =>
        obtain ⟨inFlight, unsent, outputs, failures⟩ := ih done
        refine ⟨?_, ?_, ?_, ?_⟩
        · simp [inFlight, found, isOpen_eq, status]
        · simp [unsent, found]
        · simp [outputs, found, completedOutput, status]
        · simp [failures, found, finalFailure, status]
      | waits status =>
        obtain ⟨inFlight, unsent, outputs, failures⟩ := ih done
        refine ⟨?_, ?_, ?_, ?_⟩
        · simp [inFlight, found, isOpen_eq, status]
          omega
        · simp [unsent, found]
        · simp [outputs, found, completedOutput, status]
        · simp [failures, found, finalFailure, status]
      | threw status last fast => cases done
      | failed status last =>
        obtain ⟨inFlight, unsent, outputs, failures⟩ := ih done
        refine ⟨?_, ?_, ?_, ?_⟩
        · simp [inFlight, found, isOpen_eq, status, last]
        · simp [unsent, found]
        · simp [outputs, found, completedOutput, status]
        · simp [failures, found, finalFailure, status, last]
      | early status more stamped later =>
        obtain ⟨inFlight, unsent, outputs, failures⟩ := ih done
        refine ⟨?_, ?_, ?_, ?_⟩
        · simp [inFlight, found, isOpen_eq, status, more]
          omega
        · simp [unsent, found]
        · simp [outputs, found, completedOutput, status]
        · simp [failures, found, finalFailure, status, more]
      | refused status more refuses => cases done
      | retries status more retried =>
        obtain ⟨inFlight, unsent, outputs, failures⟩ := ih done
        refine ⟨?_, ?_, ?_, ?_⟩
        · simp [inFlight, found, isOpen_eq, status, more]
          omega
        · simp [unsent, found]
        · simp [outputs, found, completedOutput, status]
        · simp [failures, found, finalFailure, status, more]

theorem survey_stops (admitted : fan.Admitted policy) (healOff : policy.remoteRedispatchMs = none)
    (sane : SaneRows fan rows) (members : List Nat) {ended : StepFanOutcome}
    (stops : fan.survey policy refusals rows members tally = .error ended) :
    (fan.mode = .failFast ∧ ∃ error, ended = .threw error) ∨
      ∃ index message, refusals index = some message ∧ ended = .refused message := by
  induction members generalizing tally with
  | nil => cases stops
  | cons index rest ih =>
    unfold survey at stops
    cases found : rows index with
    | none =>
      rw [found] at stops
      exact ih stops
    | some row =>
      rw [found] at stops
      have looks := looked refusals admitted healOff index (sane index row found) tally
      revert stops looks
      generalize fan.look policy refusals index (some row) tally = outcome
      generalize fan.lookWrite policy refusals index (some row) = written
      intro stops looks
      cases looks with
      | completed _ | waits _ | failed _ _ | early _ _ _ _ | retries _ _ _ => exact ih stops
      | threw status last fast =>
        cases stops
        exact .inl ⟨fast, _, rfl⟩
      | refused status more refuses =>
        cases stops
        exact .inr ⟨index, _, refuses, rfl⟩

theorem surveyWrites_retry (refusals : Nat → Option String) (admitted : fan.Admitted policy)
    (healOff : policy.remoteRedispatchMs = none) (sane : SaneRows fan rows) (members : List Nat)
    (tally : FanTally) :
    ((fan.surveyWrites policy refusals rows members tally).map Prod.fst).Sublist members ∧
      ∀ entry ∈ fan.surveyWrites policy refusals rows members tally,
        ∃ row, rows entry.1 = some row ∧ row.status = .failed ∧
          isLastAttempt fan.step row = false ∧ Retries row entry.2 := by
  induction members generalizing tally with
  | nil => simp [surveyWrites]
  | cons index rest ih =>
    unfold surveyWrites
    cases found : rows index with
    | none =>
      simp only [lookWrite, look, Option.toList_none, List.map_nil, List.nil_append]
      exact ⟨(ih _).1.cons index, (ih _).2⟩
    | some row =>
      have looks := looked refusals admitted healOff index (sane index row found) tally
      revert looks
      generalize fan.look policy refusals index (some row) tally = outcome
      generalize fan.lookWrite policy refusals index (some row) = written
      intro looks
      cases looks with
      | completed _ | waits _ | failed _ _ | early _ _ _ _ =>
        exact ⟨(ih _).1.cons index, (ih _).2⟩
      | threw _ _ _ | refused _ _ _ => simp
      | retries status more retried =>
        refine ⟨(ih _).1.cons_cons index, ?_⟩
        intro entry member
        rcases List.mem_append.mp member with own | later
        · cases List.mem_singleton.mp own
          exact ⟨row, found, status, more, retried⟩
        · exact (ih _).2 entry later

/-- A turn that looks at every member writes something for one whose retry is due. -/
theorem surveyWrites_due (admitted : fan.Admitted policy)
    (healOff : policy.remoteRedispatchMs = none) (sane : SaneRows fan rows) (members : List Nat)
    (done : fan.survey policy refusals rows members tally = .ok final) (member : index ∈ members)
    (found : rows index = some row) (status : row.status = .failed)
    (more : isLastAttempt fan.step row = false)
    (due : ∀ retryAt, row.wakeAt = some retryAt → retryAt ≤ policy.clock) :
    fan.surveyWrites policy refusals rows members tally ≠ [] := by
  induction members generalizing tally with
  | nil => cases member
  | cons other rest ih =>
    unfold survey at done
    unfold surveyWrites
    cases here : rows other with
    | none =>
      rw [here] at done
      have elsewhere : index ∈ rest := by
        rcases List.mem_cons.mp member with rfl | later
        · simp [here] at found
        · exact later
      simpa [lookWrite, look] using ih done elsewhere
    | some row' =>
      rw [here] at done
      have looks := looked refusals admitted healOff other (sane other row' here) tally
      revert done looks
      generalize fan.look policy refusals other (some row') tally = outcome
      generalize fan.lookWrite policy refusals other (some row') = written
      intro done looks
      -- The member itself is retried; any other leaves it to the rest.
      have elsewhere : row' ≠ row → index ∈ rest := by
        intro different
        rcases List.mem_cons.mp member with rfl | later
        · rw [found] at here
          cases here
          exact absurd rfl different
        · exact later
      cases looks with
      | completed status' | waits status' =>
        refine ih done (elsewhere ?_)
        rintro rfl
        rw [status] at status'
        cases status'
      | failed status' last =>
        refine ih done (elsewhere ?_)
        rintro rfl
        rw [more] at last
        cases last
      | early status' more' stamped later =>
        refine ih done (elsewhere ?_)
        rintro rfl
        have soon := due _ stamped
        omega
      | threw _ _ _ | refused _ _ _ => cases done
      | retries _ _ _ => simp

/-- A write suits the checkpoint it replaces: a first attempt where there is none, or a retry. -/
def Fits (fan : StepFan) (row : Option StepCheckpoint) (written : StepCheckpoint) : Prop :=
  (row = none ∧ FanState.isFirstSend written = true ∧ Sane fan written) ∨
    ∃ old, row = some old ∧ old.status = .failed ∧ isLastAttempt fan.step old = false ∧
      Retries old written

/-- How many members have a checkpoint without a final result. -/
def openCount (fan : StepFan) (rows : FanRows) : Nat :=
  (List.range fan.inputs.length).countP fun index => isOpen fan.step (rows index)

def sendCount (rows : FanRows) (todo : List (Nat × StepCheckpoint)) : Nat :=
  todo.countP fun entry => (rows entry.1).isNone

/-- Writes that a turn may have left to make. -/
structure Makes (fan : StepFan) (rows : FanRows) (todo : List (Nat × StepCheckpoint)) : Prop where
  distinct : (todo.map Prod.fst).Nodup
  within : ∀ entry ∈ todo, entry.1 < fan.inputs.length
  fits : ∀ entry ∈ todo, Fits fan (rows entry.1) entry.2
  bounded : ∀ limit, fan.concurrency = some limit → openCount fan rows ≤ limit →
    openCount fan rows + sendCount rows todo ≤ limit

theorem firstAttempt_sane (index : Nat) :
    FanState.isFirstSend (fan.firstAttempt policy index) = true ∧
      Sane fan (fan.firstAttempt policy index) :=
  ⟨rfl, rfl, Nat.le_refl 1, .inl rfl⟩

theorem mem_sends {entry : Nat × StepCheckpoint}
    (member : entry ∈ fan.sends policy refusals tally) :
    entry.1 ∈ tally.unsent ∧ tally.inFlight = 0 ∧ entry.2 = fan.firstAttempt policy entry.1 := by
  unfold sends at member
  split at member
  · cases member
  · obtain ⟨index, listed, rfl⟩ := List.mem_map.mp member
    unfold batch at listed
    split at listed
    · cases listed
    · rename_i drained
      refine ⟨?_, by omega, rfl⟩
      split at listed
      · exact listed
      · exact List.mem_of_mem_take listed

theorem sends_bounded (fan : StepFan) (policy : RemotePolicy) (refusals : Nat → Option String)
    (tally : FanTally) :
    ((fan.sends policy refusals tally).map Prod.fst).Sublist tally.unsent ∧
      ∀ limit, fan.concurrency = some limit →
        (fan.sends policy refusals tally).length ≤ limit := by
  unfold sends
  split
  · simp
  · have names : ((fan.batch tally).map fun index => (index, fan.firstAttempt policy index)).map
        Prod.fst = fan.batch tally := by simp [Function.comp_def]
    rw [names, List.length_map]
    unfold batch
    split
    · simp
    · split
      · rename_i unlimited
        refine ⟨List.Sublist.refl _, fun limit limited => ?_⟩
        rw [unlimited] at limited
        cases limited
      · rename_i limit' limited'
        refine ⟨List.take_sublist _ _, fun limit limited => ?_⟩
        rw [limited', Option.some.injEq] at limited
        subst limited
        exact List.length_take_le _ _

/-- A turn only makes writes that suit the checkpoints it has read, within the limit. -/
theorem turnWrites_makes (refusals : Nat → Option String)
    (healOff : policy.remoteRedispatchMs = none) (sane : SaneRows fan rows) :
    Makes fan rows (fan.turnWrites policy refusals rows) := by
  unfold turnWrites
  cases reads : fan.refusedAtOnce policy with
  | true => exact ⟨by simp, by simp, by simp, by simp [sendCount]⟩
  | false =>
    have admitted := admitted_of_reads reads
    simp only [Bool.false_eq_true, if_false]
    obtain ⟨sublist, retry⟩ := surveyWrites_retry refusals admitted healOff sane
      (List.range fan.inputs.length) {}
    have retryWithin : ∀ entry ∈ fan.surveyWrites policy refusals rows
        (List.range fan.inputs.length) {}, entry.1 < fan.inputs.length := by
      intro entry member
      exact List.mem_range.mp (sublist.subset (List.mem_map_of_mem member))
    have retryFits : ∀ entry ∈ fan.surveyWrites policy refusals rows
        (List.range fan.inputs.length) {}, Fits fan (rows entry.1) entry.2 :=
      fun entry member => .inr (retry entry member)
    have noSend : sendCount rows (fan.surveyWrites policy refusals rows
        (List.range fan.inputs.length) {}) = 0 := by
      refine List.countP_eq_zero.mpr fun entry member => ?_
      obtain ⟨row, found, -⟩ := retry entry member
      simp [found]
    cases done : fan.survey policy refusals rows (List.range fan.inputs.length) {} with
    | error ended =>
      simp only [List.append_nil]
      refine ⟨sublist.nodup List.nodup_range, retryWithin, retryFits, ?_⟩
      intro limit limited within
      omega
    | ok tally =>
      dsimp only
      have counted := surveyed admitted healOff sane _ done
      have unsent : tally.unsent =
          (List.range fan.inputs.length).filter fun index => (rows index).isNone := by
        simpa using counted.unsent
      have drained : tally.inFlight = openCount fan rows := by
        simpa [openCount] using counted.inFlight
      obtain ⟨ordered, limits⟩ := sends_bounded fan policy refusals tally
      have sendUnsent : ∀ entry ∈ fan.sends policy refusals tally,
          entry.1 < fan.inputs.length ∧ rows entry.1 = none := by
        intro entry member
        have listed := (mem_sends member).1
        rw [unsent] at listed
        simpa using listed
      refine ⟨?_, ?_, ?_, ?_⟩
      · rw [List.map_append]
        refine List.nodup_append.mpr ⟨sublist.nodup List.nodup_range, ?_, ?_⟩
        · refine ordered.nodup ?_
          rw [unsent]
          exact List.nodup_range.filter _
        · -- A member to be retried has been sent.
          intro index retried other sent same
          obtain ⟨entry, member, rfl⟩ := List.mem_map.mp retried
          obtain ⟨entry', member', rfl⟩ := List.mem_map.mp sent
          obtain ⟨row, found, -⟩ := retry entry member
          have absent := (sendUnsent entry' member').2
          rw [← same, found] at absent
          cases absent
      · intro entry member
        rcases List.mem_append.mp member with retried | sent
        · exact retryWithin entry retried
        · exact (sendUnsent entry sent).1
      · intro entry member
        rcases List.mem_append.mp member with retried | sent
        · exact retryFits entry retried
        · refine .inl ⟨(sendUnsent entry sent).2, ?_⟩
          rw [(mem_sends sent).2.2]
          exact firstAttempt_sane entry.1
      · intro limit limited within
        have split : sendCount rows (fan.surveyWrites policy refusals rows
            (List.range fan.inputs.length) {} ++ fan.sends policy refusals tally) ≤
              (fan.sends policy refusals tally).length := by
          unfold sendCount at noSend ⊢
          rw [List.countP_append, noSend, Nat.zero_add]
          exact List.countP_le_length
        -- Nothing is sent while a member is open.
        cases sending : fan.sends policy refusals tally with
        | nil =>
          rw [sending] at split
          simp only [List.length_nil] at split
          omega
        | cons entry rest =>
          have member : entry ∈ fan.sends policy refusals tally := by
            rw [sending]
            exact List.mem_cons_self
          have empty := (mem_sends member).2.1
          rw [sending] at split
          have bound := limits limit limited
          rw [sending] at bound
          omega

/-- A fan that its turns and its workers keep within its limit. -/
structure Good (fan : StepFan) (state : FanState) : Prop where
  sane : SaneRows fan state.rows
  within : ∀ index row, state.rows index = some row → index < fan.inputs.length
  sent : ∀ index, index ∈ state.sent ↔ state.rows index ≠ none
  once : state.sent.Nodup
  distinct : (state.todo.map Prod.fst).Nodup
  todoWithin : ∀ entry ∈ state.todo, entry.1 < fan.inputs.length
  fits : ∀ entry ∈ state.todo, Fits fan (state.rows entry.1) entry.2
  bounded : ∀ limit, fan.concurrency = some limit →
    openCount fan state.rows + sendCount state.rows state.todo ≤ limit
  reported : ∀ index row, state.rows index = some row → row.status = .completed →
    state.reported index = some row.output

theorem countP_change (before : Nat → Bool) {after : Nat → Bool}
    (elsewhere : ∀ other, other ≠ index → after other = before other) (distinct : members.Nodup) :
    members.countP after ≤ members.countP before + if before index = true then 0 else 1 := by
  induction members with
  | nil => simp
  | cons member rest ih =>
    obtain ⟨absent, others⟩ := List.nodup_cons.mp distinct
    by_cases here : member = index
    · -- The rest does not see the change.
      subst here
      have same : rest.countP after = rest.countP before := by
        refine List.countP_congr fun other listed => ?_
        rw [elsewhere other (by rintro rfl; exact absent listed)]
      simp only [List.countP_cons, same]
      split <;> split <;> omega
    · have rest' := ih others
      simp only [List.countP_cons, elsewhere member here]
      omega

theorem openCount_write (fan : StepFan) (rows : FanRows) (index : Nat) (row : StepCheckpoint) :
    openCount fan (rows.write index row) ≤
      openCount fan rows + if isOpen fan.step (rows index) = true then 0 else 1 := by
  refine countP_change (fun index => isOpen fan.step (rows index)) ?_ List.nodup_range
  intro other different
  simp [FanRows.write, different]

theorem sendCount_write {todo : List (Nat × StepCheckpoint)}
    (elsewhere : ∀ entry ∈ todo, entry.1 ≠ index) :
    sendCount (rows.write index row) todo = sendCount rows todo := by
  refine List.countP_congr fun entry member => ?_
  simp [FanRows.write, elsewhere entry member]

theorem Retries.sane {written : StepCheckpoint} (retries : Retries row written)
    (sane : Sane fan row) (status : row.status = .failed) :
    FanState.isFirstSend written = false ∧ Sane fan written ∧ written.status ≠ .completed := by
  obtain ⟨named, started, -⟩ := sane
  rcases retries with ⟨-, retryAt, rfl⟩ | ⟨-, pending, next, same⟩
  · refine ⟨by simp [FanState.isFirstSend, status], ⟨named, started, .inr (.inl status)⟩, ?_⟩
    simp [status]
  · have later : written.attempts ≠ 1 := by omega
    refine ⟨by simp [FanState.isFirstSend, later], ⟨same.trans named, by omega, .inl pending⟩, ?_⟩
    simp [pending]

theorem good_start : Good fan {} where
  sane := by
    intro index row found
    cases found
  within := by
    intro index row found
    cases found
  sent := by simp
  once := List.nodup_nil
  distinct := List.nodup_nil
  todoWithin := by simp
  fits := by simp
  bounded := by simp [openCount, sendCount, isOpen]
  reported := by
    intro index row found
    cases found

/-- A write that suits its member keeps the fan good. -/
theorem Good.written (good : Good fan state) {before after : List (Nat × StepCheckpoint)}
    {checkpoint : StepCheckpoint} (next : state.todo = before ++ (index, checkpoint) :: after) :
    Good fan (state.written index checkpoint (before ++ after)) := by
  have listed : (index, checkpoint) ∈ state.todo := by rw [next]; simp
  have fits := good.fits _ listed
  have kept : ∀ entry ∈ before ++ after, entry ∈ state.todo := by
    intro entry member
    rw [next]
    rcases List.mem_append.mp member with first | last
    · exact List.mem_append_left _ first
    · exact List.mem_append_right _ (List.mem_cons_of_mem _ last)
  have sublist : (before ++ after).Sublist state.todo := by
    rw [next]
    exact List.Sublist.append_left (List.sublist_cons_self _ _) _
  have elsewhere : ∀ entry ∈ before ++ after, entry.1 ≠ index := by
    intro entry member same
    have distinct := good.distinct
    rw [next, List.map_append, List.map_cons, List.nodup_middle, ← List.map_append,
      List.nodup_cons] at distinct
    have image : entry.1 ∈ (before ++ after).map Prod.fst := List.mem_map_of_mem member
    rw [same] at image
    exact distinct.1 image
  have others : sendCount (state.rows.write index checkpoint) (before ++ after) =
      sendCount state.rows (before ++ after) := sendCount_write elsewhere
  have counts : sendCount state.rows state.todo = sendCount state.rows (before ++ after) +
      if (state.rows index).isNone then 1 else 0 := by
    rw [next]
    unfold sendCount
    simp only [List.countP_append, List.countP_cons]
    split <;> omega
  have opens := openCount_write fan state.rows index checkpoint
  -- Either the first attempt of a member, or the retry of one that is open already.
  have written : Sane fan checkpoint ∧ checkpoint.status ≠ .completed := by
    rcases fits with ⟨-, first, sane⟩ | ⟨old, found, status, -, retries⟩
    · refine ⟨sane, ?_⟩
      simp only [FanState.isFirstSend, Bool.and_eq_true, beq_iff_eq] at first
      simp [first.1]
    · exact (retries.sane (good.sane _ _ found) status).2
  refine { good with
    sane := ?_, within := ?_, sent := ?_, once := ?_, distinct := ?_, todoWithin := ?_
    fits := ?_, bounded := ?_, reported := ?_ }
  · intro other row found
    by_cases same : other = index
    · simp only [FanState.written, FanRows.write, same, if_true, Option.some.injEq] at found
      exact found ▸ written.1
    · simp only [FanState.written, FanRows.write, same, if_false] at found
      exact good.sane other row found
  · intro other row found
    by_cases same : other = index
    · rw [same]
      exact good.todoWithin _ listed
    · simp only [FanState.written, FanRows.write, same, if_false] at found
      exact good.within other row found
  · intro other
    rcases fits with ⟨absent, first, -⟩ | ⟨old, found, status, -, retries⟩
    · by_cases same : other = index
      · simp [FanState.written, FanRows.write, first, same]
      · have before := good.sent other
        simp only [FanState.written, FanRows.write, first, same, if_true, if_false,
          List.mem_append, List.mem_singleton, or_false]
        exact before
    · have later := (retries.sane (good.sane _ _ found) status).1
      have before := good.sent other
      by_cases same : other = index
      · subst same
        simp [FanState.written, FanRows.write, later, before, found]
      · simp only [FanState.written, FanRows.write, later, same, if_false, Bool.false_eq_true]
        exact before
  · rcases fits with ⟨absent, first, -⟩ | ⟨old, found, status, -, retries⟩
    · simp only [FanState.written, first, if_true]
      refine List.nodup_append.mpr ⟨good.once, List.nodup_singleton _, ?_⟩
      intro other member new same equal
      cases List.mem_singleton.mp same
      subst equal
      exact (good.sent other).mp member absent
    · have later := (retries.sane (good.sane _ _ found) status).1
      simpa [FanState.written, later] using good.once
  · exact (sublist.map Prod.fst).nodup good.distinct
  · exact fun entry member => good.todoWithin entry (kept entry member)
  · intro entry member
    have suits := good.fits entry (kept entry member)
    simpa [FanState.written, FanRows.write, elsewhere entry member] using suits
  · intro limit limited
    have bound := good.bounded limit limited
    show openCount fan (state.rows.write index checkpoint) +
      sendCount (state.rows.write index checkpoint) (before ++ after) ≤ limit
    rcases fits with ⟨absent, -, -⟩ | ⟨old, found, status, more, -⟩
    · simp only [absent, Option.isNone_none, if_true] at counts
      split at opens <;> omega
    · have wasOpen : isOpen fan.step (state.rows index) = true := by
        simp [found, isOpen_eq, status, more]
      simp only [wasOpen, if_true] at opens
      split at counts <;> omega
  · intro other row found complete
    by_cases same : other = index
    · simp only [FanState.written, FanRows.write, same, if_true, Option.some.injEq] at found
      exact absurd (found ▸ complete) written.2
    · simp only [FanState.written, FanRows.write, same, if_false] at found
      exact good.reported other row found complete

/-- A result keeps the fan good. -/
theorem Good.settled (good : Good fan state) (found : state.rows index = some row)
    (waiting : row.status = .pending) : Good fan (state.settled index row result) := by
  obtain ⟨named, started, -⟩ := good.sane index row found
  have status : (row.settled (settlementOf row result)).status = .failed ∨
      (row.settled (settlementOf row result)).status = .completed := by
    cases ended : result.status with
    | completed =>
      exact .inr (by simp [StepCheckpoint.settled, settlementOf, ended, ResultStatus.stepStatus])
    | failed =>
      exact .inl (by simp [StepCheckpoint.settled, settlementOf, ended, ResultStatus.stepStatus])
  -- No write is left for a member that is in flight.
  have elsewhere : ∀ entry ∈ state.todo, entry.1 ≠ index := by
    intro entry member same
    rcases good.fits entry member with ⟨absent, -⟩ | ⟨old, here, failed, -⟩
    · rw [same, found] at absent
      cases absent
    · rw [same, found] at here
      cases here
      rw [waiting] at failed
      cases failed
  refine { good with
    sane := ?_, within := ?_, sent := ?_, fits := ?_, bounded := ?_, reported := ?_ }
  · intro other row' here
    by_cases same : other = index
    · simp only [FanState.settled, FanRows.write, same, if_true, Option.some.injEq] at here
      rw [← here]
      exact ⟨named, started, .inr status⟩
    · simp only [FanState.settled, FanRows.write, same, if_false] at here
      exact good.sane other row' here
  · intro other row' here
    by_cases same : other = index
    · rw [same]
      exact good.within index row found
    · simp only [FanState.settled, FanRows.write, same, if_false] at here
      exact good.within other row' here
  · intro other
    have before := good.sent other
    by_cases same : other = index
    · subst same
      simp [FanState.settled, FanRows.write, before, found]
    · simpa [FanState.settled, FanRows.write, same] using before
  · intro entry member
    have suits := good.fits entry member
    simpa [FanState.settled, FanRows.write, elsewhere entry member] using suits
  · intro limit limited
    have bound := good.bounded limit limited
    have opens := openCount_write fan state.rows index (row.settled (settlementOf row result))
    have wasOpen : isOpen fan.step (state.rows index) = true := by
      simp [found, isOpen_eq, waiting]
    simp only [wasOpen, if_true] at opens
    show openCount fan (state.rows.write index (row.settled (settlementOf row result))) +
      sendCount (state.rows.write index (row.settled (settlementOf row result))) state.todo ≤ limit
    rw [sendCount_write elsewhere]
    omega
  · intro other row' here complete
    by_cases same : other = index
    · simp only [FanState.settled, FanRows.write, same, if_true, Option.some.injEq] at here
      subst here
      cases ended : result.status with
      | completed => simp [FanState.settled, same, ended, StepCheckpoint.settled, settlementOf]
      | failed =>
        simp [StepCheckpoint.settled, settlementOf, ended, ResultStatus.stepStatus] at complete
    · simp only [FanState.settled, FanRows.write, same, if_false] at here
      have before := good.reported other row' here complete
      simpa [FanState.settled, same] using before

theorem Good.step {next : FanState} (good : Good fan state) (step : fan.Step state next) :
    Good fan next := by
  cases step with
  | turn policy refusals healOff free =>
    have makes := turnWrites_makes refusals healOff good.sane
    have bounded := good.bounded
    refine { good with
      distinct := makes.distinct, todoWithin := makes.within, fits := makes.fits, bounded := ?_ }
    intro limit limited
    have bound := bounded limit limited
    exact makes.bounded limit limited (by omega)
  | write next => exact good.written next
  | cut =>
    refine { good with
      distinct := List.nodup_nil, todoWithin := by simp, fits := by simp, bounded := ?_ }
    intro limit limited
    have bound := good.bounded limit limited
    show openCount fan state.rows + sendCount state.rows [] ≤ limit
    simp only [sendCount, List.countP_nil]
    omega
  | settle result found waiting => exact good.settled found waiting

theorem Good.reaches {final : FanState} (good : Good fan state)
    (reached : Relation.ReflTransGen fan.Step state final) : Good fan final := by
  induction reached with
  | refl => exact good
  | tail _ step ih => exact ih.step step

theorem inFlight_le_open : fan.inFlight rows ≤ openCount fan rows := by
  refine List.countP_mono_left fun index _ pending => ?_
  cases found : rows index with
  | none => simp [found, isInFlight] at pending
  | some row =>
    simp only [found, isInFlight, beq_iff_eq] at pending
    simp [isOpen_eq, pending]

theorem turn_refusedAtOnce (refusals : Nat → Option String) (rows : FanRows)
    (refused : fan.refusedAtOnce policy = true) :
    ∃ message, fan.turn policy refusals rows = .refused message := by
  simp only [refusedAtOnce, Bool.or_eq_true, decide_eq_true_eq, Bool.not_eq_true'] at refused
  unfold turn
  split
  · exact ⟨_, rfl⟩
  · rename_i durable
    split
    · exact ⟨_, rfl⟩
    · rename_i positive
      have disconnected : policy.hasTransport = false := by
        rcases refused with (late | zero) | offline
        · exact absurd late durable
        · exact absurd zero positive
        · exact offline
      simp [disconnected]

theorem find?_keyed {keep : Nat → Option β} {key : β → Nat}
    (keyed : ∀ index kept, keep index = some kept → key kept = index) (members : List Nat)
    (index : Nat) : (members.filterMap keep).find? (fun kept => key kept == index) =
      if index ∈ members then keep index else none := by
  induction members with
  | nil => simp
  | cons member rest ih =>
    cases kept : keep member with
    | none =>
      rw [List.filterMap_cons_none kept, ih]
      by_cases same : index = member
      · subst same
        simp [kept]
      · simp [same]
    | some value =>
      rw [List.filterMap_cons_some kept, List.find?_cons]
      have named := keyed member value kept
      by_cases same : member = index
      · subst same
        simp [named, kept]
      · have differs : (member == index) = false := by simpa using same
        rw [named, differs]
        simp [ih, Ne.symm same]

theorem lookup_keyed (keep : Nat → Option β) (members : List Nat) (index : Nat) :
    (members.filterMap fun member => (keep member).map (member, ·)).lookup index =
      if index ∈ members then keep index else none := by
  induction members with
  | nil => simp
  | cons member rest ih =>
    cases kept : keep member with
    | none =>
      rw [List.filterMap_cons_none (by simp [kept]), ih]
      by_cases same : index = member
      · subst same
        simp [kept]
      · simp [same]
    | some value =>
      simp only [List.filterMap_cons, kept, Option.map_some, List.lookup_cons]
      by_cases same : index = member
      · subst same
        simp [kept]
      · have differs : (index == member) = false := by simpa using same
        rw [differs]
        simp [ih, same]

/-- What a turn has looked at when it finishes the fan. -/
structure Finished (fan : StepFan) (rows : FanRows) (tally : FanTally) : Prop where
  counted : Surveyed fan rows (List.range fan.inputs.length) {} tally
  final : ∀ index < fan.inputs.length, ∃ row, rows index = some row ∧
    (row.status = .completed ∨ row.status = .failed ∧ isLastAttempt fan.step row = true)

theorem unsent_of_batch (admitted : fan.Admitted policy) (drained : tally.inFlight = 0)
    (nothing : fan.batch tally = []) : tally.unsent = [] := by
  unfold batch at nothing
  rw [if_neg (by omega)] at nothing
  split at nothing
  · exact nothing
  · rename_i limit limited
    have positive := admitted.positive
    rcases List.take_eq_nil_iff.mp nothing with zero | empty
    · exact absurd (zero ▸ limited) positive
    · exact empty

theorem final_of_surveyed (counted : Surveyed fan rows (List.range fan.inputs.length) {} tally)
    (drained : tally.inFlight = 0) (all : tally.unsent = []) :
    ∀ index < fan.inputs.length, ∃ row, rows index = some row ∧
      (row.status = .completed ∨ row.status = .failed ∧ isLastAttempt fan.step row = true) := by
  intro index inside
  have member : index ∈ List.range fan.inputs.length := List.mem_range.mpr inside
  have unsent := counted.unsent
  have inFlight := counted.inFlight
  rw [all] at unsent
  rw [drained] at inFlight
  cases found : rows index with
  | none =>
    have listed : index ∈ (List.range fan.inputs.length).filter fun index =>
        (rows index).isNone := List.mem_filter.mpr ⟨member, by simp [found]⟩
    have empty : (List.range fan.inputs.length).filter (fun index => (rows index).isNone) = [] := by
      simpa using unsent.symm
    rw [empty] at listed
    cases listed
  | some row =>
    have none' : (List.range fan.inputs.length).countP
        (fun index => isOpen fan.step (rows index)) = 0 := by simpa using inFlight.symm
    have closed := List.countP_eq_zero.mp none' index member
    refine ⟨row, rfl, ?_⟩
    simp only [found, isOpen_eq, Bool.not_eq_true, Bool.not_eq_false', Bool.or_eq_true,
      Bool.and_eq_true, beq_iff_eq] at closed
    exact closed

theorem finished_of_turn {refusals : Nat → Option String}
    (healOff : policy.remoteRedispatchMs = none) (sane : SaneRows fan rows)
    {outcome : StepFanOutcome} (turned : fan.turn policy refusals rows = outcome)
    (ends : (∃ outputs, outcome = .returned outputs) ∨ ∃ results, outcome = .settled results) :
    ∃ tally, Finished fan rows tally ∧ fan.finish tally = outcome := by
  have reads : fan.refusedAtOnce policy = false := by
    by_contra refused
    obtain ⟨message, refusal⟩ := turn_refusedAtOnce refusals rows (by simpa using refused)
    rw [refusal] at turned
    subst turned
    rcases ends with ⟨_, absurd⟩ | ⟨_, absurd⟩ <;> cases absurd
  have admitted := admitted_of_reads reads
  rw [fan.turn_admitted policy refusals admitted] at turned
  cases done : fan.survey policy refusals rows (List.range fan.inputs.length) {} with
  | error ended =>
    rw [done] at turned
    have same : ended = outcome := turned
    subst same
    rcases survey_stops admitted healOff sane _ done with
      ⟨-, error, rfl⟩ | ⟨index, message, -, rfl⟩ <;>
      rcases ends with ⟨_, absurd⟩ | ⟨_, absurd⟩ <;> cases absurd
  | ok tally =>
    rw [done] at turned
    have counted := surveyed admitted healOff sane _ done
    have concluded : fan.conclude policy refusals tally = outcome := turned
    unfold conclude at concluded
    split at concluded
    · subst concluded
      rcases ends with ⟨_, absurd⟩ | ⟨_, absurd⟩ <;> cases absurd
    · split at concluded
      · subst concluded
        rcases ends with ⟨_, absurd⟩ | ⟨_, absurd⟩ <;> cases absurd
      · have drained : tally.inFlight = 0 := by omega
        have nothing : fan.batch tally = [] := List.length_eq_zero_iff.mp (by omega)
        exact ⟨tally, ⟨counted, final_of_surveyed counted drained
          (unsent_of_batch admitted drained nothing)⟩, concluded⟩

theorem Finished.output (finished : Finished fan rows tally) (inside : index < fan.inputs.length)
    (found : rows index = some row) (complete : row.status = .completed) :
    tally.outputs.lookup index = some row.output := by
  have outputs := finished.counted.outputs
  have listed : tally.outputs = (List.range fan.inputs.length).filterMap fun index =>
      (completedOutput (rows index)).map (index, ·) := by simpa using outputs
  have looked := lookup_keyed (fun index => completedOutput (rows index))
    (List.range fan.inputs.length) index
  rw [listed, looked, if_pos (List.mem_range.mpr inside), found]
  simp [completedOutput, complete]

theorem Finished.failure (finished : Finished fan rows tally) (inside : index < fan.inputs.length) :
    tally.failures.find? (fun failure => failure.index == index) =
      finalFailure fan index (rows index) := by
  have failures := finished.counted.failures
  have listed : tally.failures = (List.range fan.inputs.length).filterMap fun index =>
      finalFailure fan index (rows index) := by simpa using failures
  rw [listed, find?_keyed ?_, if_pos (List.mem_range.mpr inside)]
  intro other kept failed
  cases found : rows other with
  | none => simp [found, finalFailure] at failed
  | some row =>
    simp only [found, finalFailure, failureOf] at failed
    split at failed
    · cases failed
      rfl
    · cases failed

theorem Good.returned (good : Good fan state) {refusals : Nat → Option String}
    {outputs : List (Option Value)} (healOff : policy.remoteRedispatchMs = none)
    (turned : fan.turn policy refusals state.rows = .returned outputs) :
    outputs.length = fan.inputs.length ∧ ∀ index < fan.inputs.length,
      ∃ output, state.reported index = some output ∧ outputs[index]? = some output := by
  obtain ⟨tally, finished, result⟩ := finished_of_turn healOff good.sane turned (.inl ⟨_, rfl⟩)
  unfold finish at result
  split at result
  · cases result
  · split at result
    · rename_i unfailed
      cases result
      refine ⟨by simp, fun index inside => ?_⟩
      obtain ⟨row, found, complete | ⟨failed, last⟩⟩ := finished.final index inside
      · refine ⟨row.output, good.reported index row found complete, ?_⟩
        rw [List.getElem?_map, List.getElem?_range inside]
        simp [finished.output inside found complete]
      · -- A member that has failed for good would be among the failures.
        have failure := finished.failure inside
        have none' : tally.failures = [] := by simpa using unfailed
        simp [none', found, finalFailure, failed, last] at failure
    · cases result

theorem Good.settledResults (good : Good fan state) {refusals : Nat → Option String}
    {results : List Settled} (healOff : policy.remoteRedispatchMs = none)
    (turned : fan.turn policy refusals state.rows = .settled results) :
    results.length = fan.inputs.length ∧ ∀ index < fan.inputs.length,
      (∃ output, state.reported index = some output ∧
          results[index]? = some (.fulfilled output)) ∨
        ∃ row failure, state.rows index = some row ∧ row.status = .failed ∧
          failure.index = index ∧ results[index]? = some (.rejected failure) := by
  obtain ⟨tally, finished, result⟩ := finished_of_turn healOff good.sane turned (.inr ⟨_, rfl⟩)
  unfold finish at result
  split at result
  · cases result
    refine ⟨by simp, fun index inside => ?_⟩
    have failure := finished.failure inside
    obtain ⟨row, found, complete | ⟨failed, last⟩⟩ := finished.final index inside
    · refine .inl ⟨row.output, good.reported index row found complete, ?_⟩
      rw [List.getElem?_map, List.getElem?_range inside]
      simp [failure, found, finalFailure, complete, finished.output inside found complete]
    · refine .inr ⟨row, fan.failureOf index (row.error.getD { message := "remote step failed" }),
        found, failed, rfl, ?_⟩
      rw [List.getElem?_map, List.getElem?_range inside]
      simp [failure, found, finalFailure, failed, last]
  · split at result <;> cases result

def fanWeight (fan : StepFan) (rows : FanRows) : Nat :=
  (List.range fan.inputs.length).foldr (fun index rest => memberWeight fan.step (rows index) + rest) 0

theorem weigh_le {before after : Nat → Nat} (shrinks : ∀ index, after index ≤ before index) :
    members.foldr (fun index rest => after index + rest) 0 ≤
      members.foldr (fun index rest => before index + rest) 0 ∧
    ∀ index ∈ members, after index < before index →
      members.foldr (fun index rest => after index + rest) 0 <
        members.foldr (fun index rest => before index + rest) 0 := by
  induction members with
  | nil => simp
  | cons member rest ih =>
    have own := shrinks member
    simp only [List.foldr_cons]
    refine ⟨by omega, fun index listed less => ?_⟩
    rcases List.mem_cons.mp listed with rfl | later
    · omega
    · have smaller := ih.2 index later less
      omega

theorem Fits.lighter {row : Option StepCheckpoint} {written : StepCheckpoint}
    (fits : Fits fan row written) : memberWeight fan.step (some written) < memberWeight fan.step row := by
  rcases fits with ⟨rfl, first, -⟩ | ⟨old, rfl, failed, more, retries⟩
  · simp only [FanState.isFirstSend, Bool.and_eq_true, beq_iff_eq] at first
    simp only [memberWeight, first.1]
    omega
  · have left := attempts_lt more
    rcases retries with ⟨unstamped, retryAt, rfl⟩ | ⟨stamped, pending, next, -⟩
    · -- The deadline of the next attempt is written.
      have more' : isLastAttempt fan.step
          { old with status := .failed, wakeAt := some retryAt } = false := more
      simp only [memberWeight, failed, more, more', unstamped]
      simp
    · simp only [memberWeight, failed, pending, more, next]
      cases wake : old.wakeAt with
      | none => exact absurd wake stamped
      | some retryAt =>
        simp only [Bool.false_eq_true, if_false, Option.isNone_some]
        omega

theorem settled_lighter (waiting : row.status = .pending) :
    memberWeight fan.step (some (row.settled (settlementOf row result))) ≤
      memberWeight fan.step (some row) := by
  have attempts : (row.settled (settlementOf row result)).attempts = row.attempts := rfl
  cases ended : result.status with
  | completed =>
    have status : (row.settled (settlementOf row result)).status = .completed := by
      simp [StepCheckpoint.settled, settlementOf, ended, ResultStatus.stepStatus]
    simp only [memberWeight, status]
    omega
  | failed =>
    have status : (row.settled (settlementOf row result)).status = .failed := by
      simp [StepCheckpoint.settled, settlementOf, ended, ResultStatus.stepStatus]
    simp only [memberWeight, status, waiting, attempts]
    split
    · omega
    · split <;> omega

theorem Good.step_lighter {next : FanState} (good : Good fan state) (step : fan.Step state next) :
    fanWeight fan next.rows ≤ fanWeight fan state.rows ∧
      ∀ index, state.rows index ≠ none → next.rows index ≠ none := by
  cases step with
  | turn | cut => exact ⟨Nat.le_refl _, fun _ sent => sent⟩
  | @write before after index checkpoint listed =>
    have member : (index, checkpoint) ∈ state.todo := by rw [listed]; simp
    have lighter := (good.fits _ member).lighter
    refine ⟨(weigh_le fun other => ?_).1, fun other sent => ?_⟩
    · by_cases same : other = index
      · simp only [FanState.written, FanRows.write, same, if_true]
        exact Nat.le_of_lt lighter
      · simp [FanState.written, FanRows.write, same]
    · by_cases same : other = index
      · simp [FanState.written, FanRows.write, same]
      · simpa [FanState.written, FanRows.write, same] using sent
  | @settle index row result found waiting =>
    refine ⟨(weigh_le fun other => ?_).1, fun other sent => ?_⟩
    · by_cases same : other = index
      · simp only [FanState.settled, FanRows.write, same, if_true, found]
        exact settled_lighter waiting
      · simp [FanState.settled, FanRows.write, same]
    · by_cases same : other = index
      · simp [FanState.settled, FanRows.write, same]
      · simpa [FanState.settled, FanRows.write, same] using sent

theorem Good.reaches_lighter {final : FanState} (good : Good fan state)
    (reached : Relation.ReflTransGen fan.Step state final) :
    fanWeight fan final.rows ≤ fanWeight fan state.rows ∧
      ∀ index, state.rows index ≠ none → final.rows index ≠ none := by
  induction reached with
  | refl => exact ⟨Nat.le_refl _, fun _ sent => sent⟩
  | tail before step ih =>
    have further := (good.reaches before).step_lighter step
    exact ⟨Nat.le_trans further.1 ih.1, fun index sent => further.2 index (ih.2 index sent)⟩

theorem Good.flush (good : Good fan state) : Relation.ReflTransGen fan.Step state state.flush ∧
      (state.todo ≠ [] → fanWeight fan state.flush.rows < fanWeight fan state.rows) := by
  obtain ⟨rows, todo, sent, reported⟩ := state
  induction todo generalizing rows sent with
  | nil => exact ⟨.refl, fun absurd' => absurd rfl absurd'⟩
  | cons entry rest ih =>
    obtain ⟨index, checkpoint⟩ := entry
    have step : fan.Step ⟨rows, (index, checkpoint) :: rest, sent, reported⟩
        (FanState.written ⟨rows, (index, checkpoint) :: rest, sent, reported⟩ index checkpoint
          rest) := by
      have listed : (⟨rows, (index, checkpoint) :: rest, sent, reported⟩ : FanState).todo =
          [] ++ (index, checkpoint) :: rest := rfl
      exact .write listed
    have next := good.step step
    obtain ⟨reached, -⟩ := ih _ _ next
    have lighter := (next.reaches_lighter reached).1
    refine ⟨.head step reached, fun _ => Nat.lt_of_le_of_lt lighter ?_⟩
    -- The first write has made its member lighter, and no other heavier.
    have fits := good.fits _ List.mem_cons_self
    have inside := good.todoWithin _ List.mem_cons_self
    refine (weigh_le fun other => ?_).2 index (List.mem_range.mpr inside) ?_
    · by_cases same : other = index
      · simp only [FanState.written, FanRows.write, same, if_true]
        exact Nat.le_of_lt fits.lighter
      · simp [FanState.written, FanRows.write, same]
    · simpa [FanState.written, FanRows.write] using fits.lighter

/-- A full turn that has nothing to write has sent everything before. -/
theorem allSent_of_nothing {refusals : Nat → Option String} (sane : SaneRows fan rows)
    (reads : fan.refusedAtOnce policy = false) (healOff : policy.remoteRedispatchMs = none)
    (accepted : ∀ index, refusals index = none)
    (drained : ∀ index, isInFlight (rows index) = false)
    (due : ∀ index row retryAt, rows index = some row → row.status = .failed →
      row.wakeAt = some retryAt → retryAt ≤ policy.clock)
    (goesOn : ∀ error, fan.mode = .failFast → fan.turn policy refusals rows ≠ .threw error)
    (nothing : fan.turnWrites policy refusals rows = []) : fan.AllSent rows := by
  have admitted := admitted_of_reads reads
  simp only [turnWrites, reads, Bool.false_eq_true, if_false, List.append_eq_nil_iff] at nothing
  obtain ⟨noRetry, noSend⟩ := nothing
  cases done : fan.survey policy refusals rows (List.range fan.inputs.length) {} with
  | error ended =>
    -- The turn has thrown a failure that fails the fan fast, or a member was refused.
    rcases survey_stops admitted healOff sane _ done with
      ⟨fast, error, rfl⟩ | ⟨index, message, refused, -⟩
    · refine absurd ?_ (goesOn error fast)
      rw [fan.turn_admitted policy refusals admitted, done]
    · rw [accepted index] at refused
      cases refused
  | ok tally =>
    rw [done] at noSend
    have counted := surveyed admitted healOff sane _ done
    have closed : tally.inFlight = 0 := by
      rw [counted.inFlight, Nat.zero_add, List.countP_eq_zero]
      intro index member isOpened
      cases found : rows index with
      | none => simp [found, isOpen] at isOpened
      | some row =>
        have still := drained index
        simp only [found, isInFlight, beq_eq_false_iff_ne, ne_eq] at still
        simp only [found, isOpen_eq, Bool.not_eq_true', Bool.or_eq_false_iff, beq_eq_false_iff_ne,
          ne_eq, Bool.and_eq_false_iff] at isOpened
        rcases (sane index row found).known with pending | failed | completed
        · exact still pending
        · have more : isLastAttempt fan.step row = false := by
            rcases isOpened.2 with other | more
            · exact absurd failed other
            · exact more
          exact surveyWrites_due admitted healOff sane _ done member found failed more
            (fun retryAt => due index row retryAt found failed) noRetry
        · exact isOpened.1 completed
    have batched : fan.batch tally = [] := by
      have none' : (fan.batch tally).findSome? refusals = none := by
        rw [List.findSome?_eq_none_iff]
        exact fun index _ => accepted index
      simp only [sends, none', List.map_eq_nil_iff] at noSend
      exact noSend
    have final := final_of_surveyed counted closed (unsent_of_batch admitted closed batched)
    intro index inside
    obtain ⟨row, found, -⟩ := final index inside
    simp [found]

theorem fanWeight_le (rows : FanRows) : fanWeight fan rows ≤ fan.writeBound := by
  have each : ∀ row, memberWeight fan.step row ≤ 3 * max 1 (fan.step.retries.getD 1) + 3 := by
    intro row
    cases row with
    | none => exact Nat.le_refl _
    | some row =>
      unfold memberWeight
      dsimp only
      split
      · omega
      · split
        · omega
        · split <;> omega
      · omega
  have sum : ∀ members : List Nat,
      members.foldr (fun index rest => memberWeight fan.step (rows index) + rest) 0 ≤
        members.length * (3 * max 1 (fan.step.retries.getD 1) + 3) := by
    intro members
    generalize 3 * max 1 (fan.step.retries.getD 1) + 3 = bound at each
    induction members with
    | nil => simp
    | cons member rest ih =>
      have own := each (rows member)
      simp only [List.foldr_cons, List.length_cons, Nat.succ_mul]
      omega
  simpa [fanWeight, writeBound] using sum (List.range fan.inputs.length)

theorem Rounds.progress {policies : Nat → RemotePolicy} {refusals : Nat → Nat → Option String}
    {states : Nat → FanState} (rounds : fan.Rounds policies refusals states)
    (accepted : ∀ round index, refusals round index = none) (round : Nat) :
    Good fan (states round) ∧
      (fan.AllSent (states round).rows ∨ fanWeight fan (states round).rows + round ≤ fan.writeBound) := by
  induction round with
  | zero => exact ⟨good_start.reaches rounds.start, .inr (by simpa using fanWeight_le _)⟩
  | succ round ih =>
    obtain ⟨good, progress⟩ := ih
    obtain ⟨before, reached, full, goesOn⟩ := rounds.round round
    have goodBefore := good.reaches reached
    have lighter := good.reaches_lighter reached
    have turned := goodBefore.step
      (.turn (policies round) (refusals round) full.healOff full.free)
    have flushed := turned.flush
    rw [← full.complete] at flushed
    have goodAfter := turned.reaches flushed.1
    have kept := (turned.reaches_lighter flushed.1).2
    refine ⟨goodAfter, ?_⟩
    have stays : fan.AllSent before.rows → fan.AllSent (states (round + 1)).rows :=
      fun sent index inside => kept index (sent index inside)
    rcases progress with sent | bound
    · exact .inl (stays fun index inside => lighter.2 index (sent index inside))
    · by_cases nothing : fan.turnWrites (policies round) (refusals round) before.rows = []
      · exact .inl (stays (allSent_of_nothing goodBefore.sane full.reads full.healOff
          (accepted round) full.drained full.due goesOn nothing))
      · have less := flushed.2 nothing
        have before' := lighter.1
        refine .inr ?_
        have same : fanWeight fan ({ before with
          todo := fan.turnWrites (policies round) (refusals round) before.rows } :
            FanState).rows = fanWeight fan before.rows := rfl
        omega

section Examples

def soloSteps : StepFan :=
  { runId := "p", firstSeq := 0, inputs := [none], step := { name := "charge" }, mode := .waitAll }

end Examples

end StepFan

end Durable
