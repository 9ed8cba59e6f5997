import Durable.Engine.ResultBatches

/-! A batch of results and the same results one by one: what settling each does to its step. -/

namespace Durable

variable {cp : StepCheckpoint} {entry : ResultDelivery × Nat} {state : SettleState}

/-- What settling one result does to its own step. -/
structure SettleEffect where
  row : Option StepCheckpoint
  held : Option String
  frees : List String := []
  outcome : ResultOutcome := .done

/-- Whether a step's slot cannot be given back. -/
def ResultDelivery.releaseStuck (d : ResultDelivery) (cp : StepCheckpoint)
    (held : Option String) : Bool :=
  d.releaseFails && (cp.queue <|> held).isSome

section Effects

variable (env : Settling)

/-- Whether a run's late successes are kept. -/
def Settling.salvages : Bool := env.run == some .failed || env.run == some .dead

/-- What settling a pending step of a run that goes on does. -/
def liveEffect (cp : StepCheckpoint) (held : Option String) (d : ResultDelivery) : SettleEffect :=
  if d.writeFails then { row := some cp, held, outcome := .writeError }
  else
    { row := some (cp.settled (settlementOf cp d.result)), held := none
      frees := if d.releaseStuck cp held then [] else (cp.queue <|> held).toList
      outcome := if d.releaseStuck cp held then .releaseError else .done }

/-- What settling a pending step of a run that is over does. -/
def lateEffect (cp : StepCheckpoint) (held : Option String) (d : ResultDelivery) : SettleEffect :=
  if d.releaseStuck cp held then { row := some cp, held := none, outcome := .releaseError }
  else if env.salvages && d.result.status == .completed then
    if d.writeFails then
      { row := some cp, held := none, frees := (cp.queue <|> held).toList, outcome := .writeError }
    else
      { row := some (cp.settled { settlementOf cp d.result with error := cp.error })
        held := none, frees := (cp.queue <|> held).toList }
  else { row := some cp, held := none, frees := (cp.queue <|> held).toList }

/-- What settling a result does to its step. -/
def settleEffect (row : Option StepCheckpoint) (held : Option String) (d : ResultDelivery) :
    SettleEffect :=
  match row with
  | none => { row, held }
  | some cp =>
    if cp.status = .pending then
      if env.isOver then lateEffect env cp held d else liveEffect cp held d
    else { row, held }

/-- An effect, where its step is. -/
def SettleState.apply (state : SettleState) (entry : ResultDelivery × Nat)
    (effect : SettleEffect) : SettleState :=
  { state with
    rows := Function.update state.rows entry.1.seq effect.row
    stepQueue := Function.update state.stepQueue entry.1.seq effect.held
    freed := state.freed ++ effect.frees.map (entry.1.seq, ·)
    outcomes := Function.update state.outcomes entry.2
      (if effect.outcome = .done then state.outcomes entry.2 else effect.outcome) }

/-- A state after one result, but for the run's resuming. -/
def SettleState.after (state : SettleState) (entry : ResultDelivery × Nat) : SettleState :=
  state.apply entry
    (settleEffect env (state.rows entry.1.seq) (state.stepQueue entry.1.seq) entry.1)

/-- A state after several results, but for the run's resuming. -/
def SettleState.afterAll (state : SettleState) (entries : List (ResultDelivery × Nat)) :
    SettleState :=
  entries.foldl (SettleState.after env) state

/-- Whether a result resumes the run of its step. -/
def SettleState.wakes (state : SettleState) (entry : ResultDelivery × Nat) : Bool :=
  match state.rows entry.1.seq with
  | none => false
  | some cp =>
    env.run.isSome && !env.isOver &&
      (decide (cp.status ≠ .pending) ||
        (settleEffect env (some cp) (state.stepQueue entry.1.seq) entry.1).outcome == .done) &&
      !env.stepFanStillRunning (state.after env entry).rows cp entry.1

end Effects

section Writes

variable {env : Settling}

theorem write_pending {rows : Nat → Option StepCheckpoint} {d : ResultDelivery}
    (found : rows d.seq = some cp) (pending : cp.status = .pending) : env.write rows cp d =
      (Function.update rows d.seq (some (cp.settled (settlementOf cp d.result))), true) := by
  unfold Settling.write
  by_cases conditional : env.support.settles || env.support.savesIfPending
  · simp [conditional, found, pending]
  · simp [conditional]

theorem settleTogether_eq {entries : List (StepCheckpoint × ResultDelivery)}
    (fine : ∀ entry ∈ entries, entry.2.writeFails = false)
    (rows : Nat → Option StepCheckpoint) :
    env.settleTogether rows entries = env.settleEach rows entries := by
  induction entries generalizing rows with
  | nil => rfl
  | cons entry rest ih =>
    obtain ⟨cp, d⟩ := entry
    have written : d.writeFails = false := fine (cp, d) (by simp)
    simp only [Settling.settleTogether, Settling.settleEach, written, Bool.false_eq_true, if_false]
    rw [ih fun entry listed => fine entry (by simp [listed])]

theorem settlePendingCheckpoints_eq (rows : Nat → Option StepCheckpoint)
    (entries : List (StepCheckpoint × ResultDelivery)) :
    env.settlePendingCheckpoints rows entries = env.settleEach rows entries := by
  unfold Settling.settlePendingCheckpoints
  simp only
  split
  · rename_i together
    rw [Bool.and_eq_true, Bool.not_eq_true', Bool.or_eq_false_iff] at together
    apply settleTogether_eq
    intro entry listed
    have fine := List.any_eq_false.mp together.2.1 entry listed
    simpa using fine
  · rfl

theorem releaseQueueSlot_eq (state : SettleState) (cp : StepCheckpoint) (d : ResultDelivery) :
    state.releaseQueueSlot cp d =
      ({ state with
          stepQueue := Function.update state.stepQueue d.seq none
          freed := state.freed ++
            (if d.releaseStuck cp (state.stepQueue d.seq) then []
              else (cp.queue <|> state.stepQueue d.seq).toList).map (d.seq, ·) },
        !d.releaseStuck cp (state.stepQueue d.seq)) := by
  unfold SettleState.releaseQueueSlot ResultDelivery.releaseStuck
  cases queue : (cp.queue <|> state.stepQueue d.seq) with
  | none => simp
  | some queue => cases stuck : d.releaseFails <;> simp

end Writes

section OneStep

variable (env : Settling)

/-- An effect that changes nothing leaves the state as it is. -/
@[simp] theorem apply_idle (state : SettleState) (entry : ResultDelivery × Nat) :
    state.apply entry
      { row := state.rows entry.1.seq, held := state.stepQueue entry.1.seq } = state := by
  simp [SettleState.apply]

theorem settleLate_cases (state : SettleState) (index : Nat) (cp : StepCheckpoint)
    (d : ResultDelivery) :
    env.settleLate state index cp d =
      if (state.releaseQueueSlot cp d).2 then
        if env.salvages then env.salvage (state.releaseQueueSlot cp d).1 index cp d
        else (state.releaseQueueSlot cp d).1
      else (state.releaseQueueSlot cp d).1.fail index .releaseError := by
  unfold Settling.settleLate Settling.salvages
  cases released : (state.releaseQueueSlot cp d).2
  · simp [released]
  · cases run : env.run with
    | none => simp [released]
    | some status => cases status <;> simp [released]

theorem settleLate_eq (found : state.rows entry.1.seq = some cp) (pending : cp.status = .pending) :
    env.settleLate state entry.2 cp entry.1 =
      state.apply entry (lateEffect env cp (state.stepQueue entry.1.seq) entry.1) := by
  have same : Function.update state.rows entry.1.seq (some cp) = state.rows := by
    rw [← found, Function.update_eq_self]
  rw [settleLate_cases, releaseQueueSlot_eq]
  unfold lateEffect
  -- A slot that cannot be given back ends the settling before anything is kept.
  by_cases stuck : entry.1.releaseStuck cp (state.stepQueue entry.1.seq)
  · simp [stuck, SettleState.fail, SettleState.apply, same]
  · by_cases salvages : env.salvages
    · cases status : entry.1.result.status
      · unfold Settling.salvage
        cases fails : entry.1.writeFails
        · -- The store settles the row it holds, which is the one that was read.
          simp [SettleState.apply, stuck, salvages, status, found, pending]
        · simp [SettleState.apply, SettleState.fail, stuck, salvages, status, same]
      · simp [Settling.salvage, SettleState.apply, stuck, salvages, status, same]
    · simp [SettleState.apply, stuck, salvages, same]

theorem settleLive_eq (found : state.rows entry.1.seq = some cp) (pending : cp.status = .pending) :
    env.settleLive state entry.2 cp entry.1 =
      let effect := liveEffect cp (state.stepQueue entry.1.seq) entry.1
      if effect.outcome = .done then env.resumeAfter (state.apply entry effect) cp entry.1
      else state.apply entry effect := by
  have same : Function.update state.rows entry.1.seq (some cp) = state.rows := by
    rw [← found, Function.update_eq_self]
  unfold Settling.settleLive liveEffect
  rw [settlePendingCheckpoints_eq]
  cases fails : entry.1.writeFails
  · simp only [Settling.settleEach, fails, Bool.false_eq_true, if_false,
      write_pending found pending]
    rw [releaseQueueSlot_eq]
    by_cases stuck : entry.1.releaseStuck cp (state.stepQueue entry.1.seq)
    · simp [stuck, SettleState.fail, SettleState.apply]
    · simp [stuck, SettleState.apply]
  · simp [Settling.settleEach, fails, SettleState.fail, SettleState.apply, same]

theorem resumeAfter_eq (state : SettleState) (cp : StepCheckpoint) (d : ResultDelivery) :
    env.resumeAfter state cp d =
      { state with resumed := state.resumed ||
          (env.run.isSome && !env.stepFanStillRunning state.rows cp d) } := by
  unfold Settling.resumeAfter Settling.resume
  by_cases running : env.stepFanStillRunning state.rows cp d <;> simp [running]

theorem completeOne_eq (state : SettleState) (entry : ResultDelivery × Nat) :
    env.completeOne state entry =
      { state.after env entry with resumed := state.resumed || state.wakes env entry } := by
  unfold Settling.completeOne SettleState.wakes SettleState.after settleEffect
  cases found : state.rows entry.1.seq with
  | none =>
    have same := apply_idle state entry
    rw [found] at same
    simp [same]
  | some cp =>
    have same := apply_idle state entry
    rw [found] at same
    simp only
    by_cases pending : cp.status = .pending
    · cases gone : env.isOver
      · simp only [pending, if_true, Bool.false_eq_true, if_false, settleLive_eq env found pending,
          resumeAfter_eq]
        by_cases done : (liveEffect cp (state.stepQueue entry.1.seq) entry.1).outcome = .done
        · simp [done, SettleState.apply]
        · simp [done, SettleState.apply]
      · simp [pending, settleLate_eq env found pending, SettleState.apply]
    · cases gone : env.isOver
      · simp only [pending, if_false, Bool.false_eq_true, resumeAfter_eq, same]
        simp
      · simp [pending, same]

end OneStep

/-! ### Results one after the other -/

section OneAfterTheOther

variable (env : Settling)

/-- Whether a result of a list resumes the run. -/
def SettleState.wakesAny (state : SettleState) : List (ResultDelivery × Nat) → Bool
  | [] => false
  | entry :: rest => state.wakes env entry || (state.after env entry).wakesAny rest

theorem afterAll_resumed (state : SettleState) (resumed : Bool)
    (entries : List (ResultDelivery × Nat)) :
    ({ state with resumed } : SettleState).afterAll env entries =
      { state.afterAll env entries with resumed } := by
  induction entries generalizing state with
  | nil => rfl
  | cons entry rest ih => exact ih (state.after env entry)

theorem wakesAny_resumed (state : SettleState) (resumed : Bool)
    (entries : List (ResultDelivery × Nat)) :
    ({ state with resumed } : SettleState).wakesAny env entries = state.wakesAny env entries := by
  induction entries generalizing state with
  | nil => rfl
  | cons entry rest ih =>
    have others := ih (state.after env entry)
    unfold SettleState.wakesAny
    rw [← others]
    rfl

theorem settleOneByOne_eq (state : SettleState) (entries : List (ResultDelivery × Nat)) :
    env.settleOneByOne state entries =
      { state.afterAll env entries with
        resumed := state.resumed || state.wakesAny env entries } := by
  induction entries generalizing state with
  | nil => simp [Settling.settleOneByOne, SettleState.afterAll, SettleState.wakesAny]
  | cons entry rest ih =>
    have others := ih (env.completeOne state entry)
    rw [completeOne_eq, afterAll_resumed, wakesAny_resumed] at others
    unfold Settling.settleOneByOne SettleState.afterAll at others ⊢
    rw [List.foldl_cons, List.foldl_cons, completeOne_eq, others]
    simp [SettleState.wakesAny, Bool.or_assoc]

/-- What is kept of one step. -/
structure KeptStep where
  row : Option StepCheckpoint
  held : Option String
  frees : List String

/-- What a result makes of its step. -/
def KeptStep.after (view : KeptStep) (d : ResultDelivery) : KeptStep :=
  let effect := settleEffect env view.row view.held d
  { row := effect.row, held := effect.held, frees := view.frees ++ effect.frees }

/-- One step of a state. -/
def SettleState.view (state : SettleState) (seq : Nat) : KeptStep :=
  { row := state.rows seq, held := state.stepQueue seq
    frees := (state.freed.filter (·.1 = seq)).map Prod.snd }

theorem view_after (state : SettleState) (entry : ResultDelivery × Nat) (seq : Nat) :
    (state.after env entry).view seq =
      if entry.1.seq = seq then (state.view seq).after env entry.1 else state.view seq := by
  unfold SettleState.after SettleState.apply SettleState.view KeptStep.after
  by_cases own : entry.1.seq = seq
  · subst own
    simp [List.filter_append, List.filter_map, Function.comp_def]
  · have other : seq ≠ entry.1.seq := fun same => own same.symm
    simp [own, other, List.filter_append, List.filter_map, Function.comp_def]

theorem view_afterAll (state : SettleState) (entries : List (ResultDelivery × Nat)) (seq : Nat) :
    (state.afterAll env entries).view seq =
      (entries.filter (·.1.seq = seq)).foldl (fun view entry => view.after env entry.1)
        (state.view seq) := by
  induction entries generalizing state with
  | nil => rfl
  | cons entry rest ih =>
    have step := view_after env state entry seq
    have rest := ih (state.after env entry)
    unfold SettleState.afterAll at rest ⊢
    rw [List.foldl_cons, rest, step]
    by_cases own : entry.1.seq = seq
    · simp [own]
    · simp [own]

theorem outcome_unlisted {index : Nat} {entries : List (ResultDelivery × Nat)}
    (unlisted : index ∉ entries.map Prod.snd) (state : SettleState) :
    (state.afterAll env entries).outcomes index = state.outcomes index := by
  induction entries generalizing state with
  | nil => rfl
  | cons entry rest ih =>
    rw [List.map_cons, List.mem_cons, not_or] at unlisted
    have others := ih unlisted.2 (state.after env entry)
    unfold SettleState.afterAll at others ⊢
    rw [List.foldl_cons, others]
    simp [SettleState.after, SettleState.apply, unlisted.1]

theorem outcome_afterAll {before rest : List (ResultDelivery × Nat)}
    (fresh : state.outcomes entry.2 = .done)
    (distinct : ((before ++ entry :: rest).map Prod.snd).Nodup) :
    (state.afterAll env (before ++ entry :: rest)).outcomes entry.2 =
      (settleEffect env ((state.afterAll env before).view entry.1.seq).row
        ((state.afterAll env before).view entry.1.seq).held entry.1).outcome := by
  rw [List.map_append, List.map_cons, List.nodup_append] at distinct
  obtain ⟨-, later, apart⟩ := distinct
  -- The results before it and after it have other indexes.
  have unset : entry.2 ∉ before.map Prod.snd :=
    fun listed => apart _ listed entry.2 (by simp) rfl
  have before_done := outcome_unlisted env unset state
  have later_same := outcome_unlisted env (List.nodup_cons.mp later).1
    ((state.afterAll env before).after env entry)
  have split : state.afterAll env (before ++ entry :: rest) =
      ((state.afterAll env before).after env entry).afterAll env rest := by
    simp [SettleState.afterAll]
  rw [split, later_same]
  simp only [SettleState.after, SettleState.apply, Function.update_self, before_done, fresh,
    SettleState.view]
  split
  · rename_i done
    exact done.symm
  · rfl

end OneAfterTheOther

end Durable
