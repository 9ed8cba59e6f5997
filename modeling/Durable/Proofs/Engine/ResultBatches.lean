import Durable.Proofs.Engine.RepeatedResults

/-! A batch of results and the same results one by one: where they agree. -/

namespace Durable

variable {entry : ResultDelivery × Nat} {state : SettleState} {cp : StepCheckpoint}
  {live : List (ResultDelivery × Nat)} {rows : Nat → Option StepCheckpoint}

/-! ### A batch does to its steps what its results do -/

section Writes

variable (env : Settling)

/-- What comes of writing a result over a pending step. -/
def ReadResult.claim (read : ReadResult) : Claim :=
  if read.entry.1.writeFails then .failed else .wrote true

def pendingReads (rows : Nat → Option StepCheckpoint) (live : List (ResultDelivery × Nat)) :
    List ReadResult :=
  (readResults rows live).filter (·.cp.status = .pending)

theorem pendingReads_cons (rows : Nat → Option StepCheckpoint) (entry : ResultDelivery × Nat)
    (rest : List (ResultDelivery × Nat)) :
    pendingReads rows (entry :: rest) =
      match rows entry.1.seq with
      | none => pendingReads rows rest
      | some cp =>
        if cp.status = .pending then ⟨cp, entry⟩ :: pendingReads rows rest
        else pendingReads rows rest := by
  unfold pendingReads readResults
  cases found : rows entry.1.seq with
  | none => simp [found]
  | some cp =>
    by_cases pending : cp.status = .pending
    · simp [found, pending]
    · simp [found, pending]

theorem rows_after_other (state : SettleState) {other : ResultDelivery × Nat}
    (apart : other.1.seq ≠ entry.1.seq) :
    (state.after env entry).rows other.1.seq = state.rows other.1.seq := by
  simp [SettleState.after, SettleState.apply, apart]

theorem after_settled (settled : ∀ cp, state.rows entry.1.seq = some cp → cp.status ≠ .pending) :
    state.after env entry = state := by
  have idle := apply_idle state entry
  unfold SettleState.after settleEffect
  cases found : state.rows entry.1.seq with
  | none =>
    rw [found] at idle
    exact idle
  | some cp =>
    rw [found] at idle
    simp [settled cp found, idle]

theorem after_pending (goes : env.isOver = false) (found : state.rows entry.1.seq = some cp)
    (pending : cp.status = .pending) : state.after env entry =
      state.apply entry (liveEffect cp (state.stepQueue entry.1.seq) entry.1) := by
  simp [SettleState.after, settleEffect, found, pending, goes]

/-- Writing the results of distinct pending steps settles each of them. -/
theorem settleEach_eq (goes : env.isOver = false) (distinct : (live.map (·.1.seq)).Nodup)
    (state : SettleState) (stored : ∀ entry ∈ live, state.rows entry.1.seq = rows entry.1.seq) :
    env.settleEach state.rows
        ((pendingReads rows live).map fun read => (read.cp, read.entry.1)) =
      ((state.afterAll env live).rows, (pendingReads rows live).map ReadResult.claim) := by
  induction live generalizing state with
  | nil => rfl
  | cons entry rest ih =>
    rw [List.map_cons, List.nodup_cons] at distinct
    have here : state.rows entry.1.seq = rows entry.1.seq := stored entry (by simp)
    -- What the first result writes is not of the steps that follow.
    have others := ih distinct.2 (state.after env entry) (by
      intro other listed
      have apart : other.1.seq ≠ entry.1.seq := fun same =>
        distinct.1 (same ▸ List.mem_map_of_mem (f := (·.1.seq)) listed)
      rw [rows_after_other env state apart]
      exact stored other (by simp [listed]))
    have unfolded : state.afterAll env (entry :: rest) =
        (state.after env entry).afterAll env rest := rfl
    rw [pendingReads_cons, unfolded]
    rw [← here]
    cases found : state.rows entry.1.seq with
    | none =>
      rw [after_settled env (by simp [found])] at others ⊢
      exact others
    | some cp =>
      by_cases pending : cp.status = .pending
      · simp only [pending, if_true, List.map_cons]
        have same : Function.update state.rows entry.1.seq (some cp) = state.rows := by
          rw [← found, Function.update_eq_self]
        unfold Settling.settleEach
        cases fails : entry.1.writeFails
        · have written : (state.after env entry).rows = Function.update state.rows entry.1.seq
              (some (cp.settled (settlementOf cp entry.1.result))) := by
            simp [after_pending env goes found pending, SettleState.apply, liveEffect, fails]
          rw [written] at others
          simp [write_pending found pending, others, ReadResult.claim, fails]
        · have kept : (state.after env entry).rows = state.rows := by
            simp [after_pending env goes found pending, SettleState.apply, liveEffect, fails, same]
          rw [kept] at others
          simp [others, ReadResult.claim, fails]
      · simp only [pending, if_false]
        rw [after_settled env (by simp [found, pending])] at others ⊢
        exact others

theorem takeClaim_eq (goes : env.isOver = false) (pending : cp.status = .pending)
    (rows : Nat → Option StepCheckpoint) (found : state.rows entry.1.seq = some cp) :
    ({ state with rows } : SettleState).takeClaim ⟨cp, entry⟩ (ReadResult.claim ⟨cp, entry⟩) =
      { state.after env entry with rows } := by
  rw [after_pending env goes found pending]
  unfold ReadResult.claim
  simp only
  cases fails : entry.1.writeFails
  · simp only [Bool.false_eq_true, if_false, SettleState.takeClaim]
    rw [releaseQueueSlot_eq]
    by_cases stuck : entry.1.releaseStuck cp (state.stepQueue entry.1.seq)
    · simp [SettleState.fail, SettleState.apply, liveEffect, fails, stuck]
    · simp [SettleState.apply, liveEffect, fails, stuck]
  · simp [SettleState.takeClaim, SettleState.fail, SettleState.apply, liveEffect, fails]

theorem takeClaims_eq (original rows : Nat → Option StepCheckpoint) (goes : env.isOver = false)
    (distinct : (live.map (·.1.seq)).Nodup) (state : SettleState)
    (stored : ∀ entry ∈ live, state.rows entry.1.seq = original entry.1.seq) :
    ({ state with rows } : SettleState).takeClaims
        ((pendingReads original live).map fun read => (read, read.claim)) =
      { state.afterAll env live with rows } := by
  induction live generalizing state with
  | nil => rfl
  | cons entry rest ih =>
    rw [List.map_cons, List.nodup_cons] at distinct
    have here : state.rows entry.1.seq = original entry.1.seq := stored entry (by simp)
    have others := ih distinct.2 (state.after env entry) (by
      intro other listed
      have apart : other.1.seq ≠ entry.1.seq := fun same =>
        distinct.1 (same ▸ List.mem_map_of_mem (f := (·.1.seq)) listed)
      rw [rows_after_other env state apart]
      exact stored other (by simp [listed]))
    have unfolded : state.afterAll env (entry :: rest) =
        (state.after env entry).afterAll env rest := rfl
    rw [pendingReads_cons, unfolded, ← here]
    cases found : state.rows entry.1.seq with
    | none =>
      rw [after_settled env (by simp [found])] at others ⊢
      exact others
    | some cp =>
      by_cases pending : cp.status = .pending
      · simp only [pending, if_true, List.map_cons, SettleState.takeClaims]
        rw [takeClaim_eq env goes pending rows found]
        exact others
      · simp only [pending, if_false]
        rw [after_settled env (by simp [found, pending])] at others ⊢
        exact others

/-- The results whose run a batch may resume: of settled steps, and those it settles. -/
def resumableReads (rows : Nat → Option StepCheckpoint) (live : List (ResultDelivery × Nat)) :
    List ReadResult :=
  (readResults rows live).filter (·.cp.status ≠ .pending) ++
    (pendingReads rows live).filter (!·.entry.1.writeFails)

theorem zip_claims (reads : List ReadResult) :
    reads.zip (reads.map ReadResult.claim) = reads.map fun read => (read, read.claim) := by
  induction reads with
  | nil => rfl
  | cons read rest ih => simp [ih]

theorem claimed_written (reads : List ReadResult) :
    ((reads.map fun read => (read, read.claim)).filter (·.2 ≠ .failed)).map Prod.fst =
      reads.filter (!·.entry.1.writeFails) := by
  rw [List.filter_map, List.map_map]
  have same : (reads.filter fun read => decide (read.claim ≠ .failed)) =
      reads.filter (!·.entry.1.writeFails) := by
    apply List.filter_congr
    intro read _
    cases fails : read.entry.1.writeFails <;> simp [ReadResult.claim, fails]
  simpa [Function.comp_def] using same

theorem resumed_afterAll (state : SettleState) (entries : List (ResultDelivery × Nat)) :
    (state.afterAll env entries).resumed = state.resumed := by
  induction entries generalizing state with
  | nil => rfl
  | cons entry rest ih => exact ih (state.after env entry)

theorem settleBatch_eq (goes : env.isOver = false) (distinct : (live.map (·.1.seq)).Nodup)
    (state : SettleState) : env.settleBatch state live =
      { state.afterAll env live with
        resumed := state.resumed || (env.run.isSome &&
          env.batchWakes (state.afterAll env live).rows (resumableReads state.rows live) []) } := by
  have written := settleEach_eq env goes distinct state fun _ _ => rfl
  have taken := takeClaims_eq env state.rows (state.afterAll env live).rows goes distinct state
    fun _ _ => rfl
  have kept := resumed_afterAll env state live
  have reads : (readResults state.rows live).filter (·.cp.status = .pending) =
    pendingReads state.rows live := rfl
  unfold Settling.settleBatch
  simp only
  rw [reads, settlePendingCheckpoints_eq, written]
  simp only
  rw [zip_claims, taken, claimed_written, ← resumableReads]
  by_cases wakes : env.batchWakes (state.afterAll env live).rows (resumableReads state.rows live) []
  · simp [wakes, Settling.resume, kept]
  · simp [wakes, kept]

end Writes

/-! ### What is left pending, and the barriers of fans -/

section Barriers

/-- Whether a step is pending after results of a run that goes on: none of them has written it. -/
def leftPending (rows : Nat → Option StepCheckpoint) (seen : List (ResultDelivery × Nat))
    (seq : Nat) : Bool :=
  (rows seq).any (·.status = .pending) && seen.all fun entry =>
    decide (entry.1.seq ≠ seq) || entry.1.writeFails

variable (env : Settling) {seq : Nat}

/-- Whether a fan is left to a later result after some results: one is queued, or still to come. -/
def fanShut (rows : Nat → Option StepCheckpoint) (seen : List (ResultDelivery × Nat))
    (fan : Nat × Nat) : Bool :=
  env.queuedIn fan.1 fan.2 ||
    (List.range fan.2).any fun place => leftPending rows seen (fan.1 + place)

theorem row_after (goes : env.isOver = false) (found : state.rows seq = some cp)
    (entry : ResultDelivery × Nat) : ∃ now, (state.after env entry).rows seq = some now ∧
      now.parallelGroup = cp.parallelGroup ∧
      decide (now.status = .pending) = leftPending state.rows [entry] seq ∧
      (now.status = .pending →
        now = cp ∧ (state.after env entry).stepQueue seq = state.stepQueue seq) := by
  by_cases own : entry.1.seq = seq
  · subst own
    by_cases pending : cp.status = .pending
    · rw [after_pending env goes found pending]
      cases fails : entry.1.writeFails
      · have settled := settled_not_pending cp (settlementOf cp entry.1.result)
        refine ⟨cp.settled (settlementOf cp entry.1.result), ?_, rfl, ?_, fun h => absurd h settled⟩
        · simp [SettleState.apply, liveEffect, fails]
        · simp [leftPending, fails, settled]
      · refine ⟨cp, ?_, rfl, ?_, fun _ => ⟨rfl, ?_⟩⟩
        · simp [SettleState.apply, liveEffect, fails]
        · simp [leftPending, found, pending, fails]
        · simp [SettleState.apply, liveEffect, fails]
    · rw [after_settled env (by simp [found, pending])]
      exact ⟨cp, found, rfl, by simp [leftPending, found, pending], fun _ => ⟨rfl, rfl⟩⟩
  · have other : seq ≠ entry.1.seq := fun same => own same.symm
    refine ⟨cp, ?_, rfl, ?_, fun _ => ⟨rfl, ?_⟩⟩
    · simp [SettleState.after, SettleState.apply, other, found]
    · simp [leftPending, found, own]
    · simp [SettleState.after, SettleState.apply, other]

theorem rows_afterAll_none (missing : state.rows seq = none)
    (entries : List (ResultDelivery × Nat)) : (state.afterAll env entries).rows seq = none := by
  induction entries generalizing state with
  | nil => exact missing
  | cons entry rest ih =>
    apply ih
    by_cases own : entry.1.seq = seq
    · subst own
      rw [after_settled env (by simp [missing])]
      exact missing
    · have other : seq ≠ entry.1.seq := fun same => own same.symm
      simp [SettleState.after, SettleState.apply, other, missing]

theorem row_afterAll (goes : env.isOver = false) (found : state.rows seq = some cp)
    (entries : List (ResultDelivery × Nat)) :
    ∃ now, (state.afterAll env entries).rows seq = some now ∧
      now.parallelGroup = cp.parallelGroup ∧
      decide (now.status = .pending) = leftPending state.rows entries seq ∧
      (now.status = .pending →
        now = cp ∧ (state.afterAll env entries).stepQueue seq = state.stepQueue seq) := by
  induction entries generalizing state cp with
  | nil => exact ⟨cp, found, rfl, by simp [leftPending, found], fun _ => ⟨rfl, rfl⟩⟩
  | cons entry rest ih =>
    obtain ⟨next, here, group, left, same⟩ := row_after env goes found entry
    obtain ⟨now, there, group_now, left_now, same_now⟩ := ih here
    refine ⟨now, there, group_now.trans group, ?_, fun pending => ?_⟩
    · -- Pending after all of them is pending after the first and after the rest.
      rw [left_now]
      simp only [leftPending, here, found, Option.any_some, List.all_cons, List.all_nil,
        Bool.and_true] at left ⊢
      rw [left, Bool.and_assoc]
    · have still := same_now pending
      have next_pending : next.status = .pending := still.1 ▸ pending
      exact ⟨still.1.trans (same next_pending).1, still.2.trans (same next_pending).2⟩

theorem blockHasPending_afterAll (goes : env.isOver = false) (state : SettleState)
    (entries : List (ResultDelivery × Nat)) (firstSeq size : Nat) :
    blockHasPending (state.afterAll env entries).rows firstSeq size =
      (List.range size).any fun place => leftPending state.rows entries (firstSeq + place) := by
  have same : ∀ seq, ((state.afterAll env entries).rows seq).any (·.status = .pending) =
      leftPending state.rows entries seq := by
    intro seq
    cases found : state.rows seq with
    | none => simp [leftPending, found, rows_afterAll_none env found]
    | some cp =>
      obtain ⟨now, here, -, left, -⟩ := row_afterAll env goes found entries
      simp [here, left]
  unfold blockHasPending
  simp only [same]

/-- Whether a result resumes the run on its own: its step is settled and its slot free, and its
fan is not left to a later result. -/
def WakesAlone (state : SettleState) (before : List (ResultDelivery × Nat))
    (entry : ResultDelivery × Nat) : Prop :=
  ∃ cp, state.rows entry.1.seq = some cp ∧
    (leftPending state.rows before entry.1.seq →
      entry.1.writeFails = false ∧
        entry.1.releaseStuck cp (state.stepQueue entry.1.seq) = false) ∧
    ∀ fan, stepFanOf cp = some fan →
      entry.1.result.status = .failed ∨ fanShut env state.rows (before ++ [entry]) fan = false

theorem stepFanStillRunning_afterAll (goes : env.isOver = false) (state : SettleState)
    (entries : List (ResultDelivery × Nat)) (cp : StepCheckpoint) (d : ResultDelivery) :
    env.stepFanStillRunning (state.afterAll env entries).rows cp d = false ↔
      ∀ fan, stepFanOf cp = some fan →
        d.result.status = .failed ∨ fanShut env state.rows entries fan = false := by
  unfold Settling.stepFanStillRunning
  cases fan : stepFanOf cp with
  | none => simp
  | some block =>
    obtain ⟨firstSeq, size⟩ := block
    simp only [blockHasPending_afterAll env goes]
    by_cases failed : d.result.status = .failed
    · simp [failed]
    · simp [failed, fanShut]

theorem liveEffect_done (cp : StepCheckpoint) (held : Option String) (d : ResultDelivery) :
    (liveEffect cp held d).outcome = .done ↔
      d.writeFails = false ∧ d.releaseStuck cp held = false := by
  unfold liveEffect
  cases d.writeFails
  · cases d.releaseStuck cp held <;> simp
  · simp

theorem wakes_iff (goes : env.isOver = false) (state : SettleState)
    (before : List (ResultDelivery × Nat)) (entry : ResultDelivery × Nat) :
    (state.afterAll env before).wakes env entry ↔
      env.run.isSome ∧ WakesAlone env state before entry := by
  have whole : (state.afterAll env before).after env entry =
      state.afterAll env (before ++ [entry]) := by
    simp [SettleState.afterAll]
  unfold SettleState.wakes WakesAlone
  rw [whole]
  cases found : state.rows entry.1.seq with
  | none => simp [rows_afterAll_none env found]
  | some cp =>
    obtain ⟨now, here, group, left, same⟩ := row_afterAll env goes found before
    have fan_same : stepFanOf now = stepFanOf cp := by simp [stepFanOf, group]
    have fan_waits := stepFanStillRunning_afterAll env goes state (before ++ [entry]) now entry.1
    rw [fan_same] at fan_waits
    simp only [here, goes, Bool.not_false, Bool.and_true, Bool.and_eq_true, Bool.not_eq_true',
      fan_waits, Option.some.injEq, exists_eq_left', and_assoc, Bool.or_eq_true, ← left,
      decide_eq_true_eq]
    by_cases pending : now.status = .pending
    · obtain ⟨as_read, held⟩ := same pending
      subst as_read
      simp [settleEffect, pending, goes, held, liveEffect_done]
    · simp [pending]

theorem wakesAny_iff (state : SettleState) (entries : List (ResultDelivery × Nat)) :
    state.wakesAny env entries ↔
      ∃ before entry rest, entries = before ++ entry :: rest ∧
        (state.afterAll env before).wakes env entry := by
  induction entries generalizing state with
  | nil => simp [SettleState.wakesAny]
  | cons entry rest ih =>
    unfold SettleState.wakesAny
    rw [Bool.or_eq_true, ih]
    constructor
    · intro wakes
      rcases wakes with first | ⟨before, other, later, split, wakes⟩
      · exact ⟨[], entry, rest, rfl, first⟩
      · exact ⟨entry :: before, other, later, by rw [split]; rfl, wakes⟩
    · intro woken
      obtain ⟨before, other, later, split, wakes⟩ := woken
      cases before with
      | nil =>
        obtain ⟨rfl, rfl⟩ := List.cons.inj split
        exact .inl wakes
      | cons head before =>
        obtain ⟨rfl, rfl⟩ := List.cons.inj split
        exact .inr ⟨before, other, later, rfl, wakes⟩

/-- Whether a batch leaves its run asleep: each result it may resume it for is of a fan and
reports no failure, and a fan's first result at a position finds its barrier shut. -/
def BatchWaits (rows : Nat → Option StepCheckpoint) (entries : List (ResultDelivery × Nat)) :
    Prop :=
  ∀ before read after, resumableReads rows (firstCopies entries) = before ++ read :: after →
    read.entry.1.result.status ≠ .failed ∧
      ∃ fan, stepFanOf read.cp = some fan ∧
        ((∀ other ∈ before, (stepFanOf other.cp).map Prod.fst ≠ some fan.1) →
          fanShut env rows entries fan)

theorem forall_places_cons {α : Type} {P : List α → α → Prop} (head : α) (tail : List α) :
    (∀ before entry after, head :: tail = before ++ entry :: after → P before entry) ↔
      P [] head ∧
        ∀ before entry after, tail = before ++ entry :: after → P (head :: before) entry := by
  constructor
  · intro every
    exact ⟨every [] head tail rfl, fun before entry after split =>
      every (head :: before) entry after (by rw [split]; rfl)⟩
  · intro ⟨first, later⟩ before entry after split
    cases before with
    | nil =>
      obtain ⟨rfl, rfl⟩ := List.cons.inj split
      exact first
    | cons other before =>
      obtain ⟨rfl, rfl⟩ := List.cons.inj split
      exact later before entry after rfl

/-- The barriers of a batch resume its run unless all of them are shut. -/
theorem batchWakes_eq_false {reads : List ReadResult} {closed : List Nat} :
    env.batchWakes rows reads closed = false ↔
      ∀ before read after, reads = before ++ read :: after →
        read.entry.1.result.status ≠ .failed ∧
          ∃ fan, stepFanOf read.cp = some fan ∧
            (fan.1 ∉ closed →
              (∀ other ∈ before, (stepFanOf other.cp).map Prod.fst ≠ some fan.1) →
              (env.queuedIn fan.1 fan.2 || blockHasPending rows fan.1 fan.2)) := by
  induction reads generalizing closed with
  | nil => simp [Settling.batchWakes]
  | cons read rest ih =>
    rw [forall_places_cons]
    unfold Settling.batchWakes
    cases fan : stepFanOf read.cp with
    | none => simp
    | some block =>
      obtain ⟨firstSeq, size⟩ := block
      by_cases failed : read.entry.1.result.status = .failed
      · simp [failed]
      · simp only [failed, if_false, ne_eq, not_false_eq_true, true_and, Option.some.injEq,
          exists_eq_left', List.not_mem_nil, false_implies, implies_true, forall_const,
          List.forall_mem_cons, fan, Option.map_some]
        by_cases asked : firstSeq ∈ closed
        · simp only [asked, if_true, ih, not_true_eq_false, false_implies, true_and]
          apply forall₄_congr
          intro before other after _
          apply and_congr Iff.rfl
          apply exists_congr
          intro own
          apply and_congr Iff.rfl
          -- A position asked before is not the position of a fan that is still to be asked.
          have apart : own.1 ∉ closed → firstSeq ≠ own.1 := fun unasked same =>
            unasked (same ▸ asked)
          constructor
          · intro shut unasked first
            exact shut unasked first.2
          · intro shut unasked first
            exact shut unasked ⟨apart unasked, first⟩
        · by_cases shut : env.queuedIn firstSeq size || blockHasPending rows firstSeq size
          · simp only [asked, if_false, shut, if_true, ih, not_false_eq_true, true_implies,
              true_and, List.mem_cons, not_or]
            apply forall₄_congr
            intro before other after _
            apply and_congr Iff.rfl
            apply exists_congr
            intro own
            apply and_congr Iff.rfl
            constructor
            · intro shut unasked first
              exact shut ⟨fun same => first.1 same.symm, unasked⟩ first.2
            · intro shut unasked first
              exact shut unasked.2 ⟨fun same => unasked.1 same.symm, first⟩
          · simp [asked, shut]

end Barriers

/-! ### Later copies that are idle -/

section Agreement

variable (env : Settling) {entries : List (ResultDelivery × Nat)}

/-- Whether a later copy of a result finds nothing left to do after the first one. -/
def CopyIdle (row : Option StepCheckpoint) (held : Option String) (first copy : ResultDelivery) :
    Prop :=
  ∀ cp, row = some cp → cp.status = .pending →
    if env.isOver then
      -- The first one is kept, or nothing is: then the step holds no slot to free twice.
      (env.salvages ∧ first.result.status = .completed ∧ first.writeFails = false ∧
        first.releaseStuck cp held = false) ∨
      (cp.queue = none ∧ ¬(env.salvages ∧ copy.result.status = .completed))
    else first.writeFails = false

theorem lateEffect_cases (cp : StepCheckpoint) (held : Option String) (d : ResultDelivery) :
    ((env.salvages ∧ d.result.status = .completed ∧ d.writeFails = false ∧
        d.releaseStuck cp held = false) ∧
      ∃ row, (lateEffect env cp held d).row = some row ∧ row.status ≠ .pending) ∨
    (¬(env.salvages ∧ d.result.status = .completed ∧ d.writeFails = false ∧
        d.releaseStuck cp held = false) ∧ (lateEffect env cp held d).row = some cp) := by
  unfold lateEffect
  cases d.releaseStuck cp held <;> cases env.salvages <;> cases d.result.status <;>
    cases d.writeFails <;> simp [settled_not_pending]

/-- A late result of a step with no queue remembered does nothing where the step holds no slot
and there is nothing to salvage. -/
theorem lateEffect_idle (pending : cp.status = .pending) (d : ResultDelivery) :
    ((lateEffect env cp none d).row = some cp ∧ (lateEffect env cp none d).held = none ∧
      (lateEffect env cp none d).frees = [] ∧ (lateEffect env cp none d).outcome = .done) ↔
      cp.queue = none ∧ ¬(env.salvages ∧ d.result.status = .completed) := by
  have changed : ∀ settlement, cp.settled settlement ≠ cp := fun settlement same =>
    settled_not_pending cp settlement (by rw [same]; exact pending)
  unfold lateEffect ResultDelivery.releaseStuck
  cases queue : cp.queue with
  | none =>
    cases kept : env.salvages && d.result.status == .completed
    · have dropped : ¬(env.salvages ∧ d.result.status = .completed) := by
        simpa using kept
      simp [dropped]
    · have salvaged : env.salvages ∧ d.result.status = .completed := by
        simpa using kept
      cases d.writeFails <;> simp [salvaged, changed]
  | some queue =>
    cases d.releaseFails
    · cases env.salvages && d.result.status == .completed
      · simp
      · cases d.writeFails <;> simp
    · simp

theorem idle_after_iff (step : KeptStep) (first copy : ResultDelivery) :
    (step.after env first).Idle env copy ↔ CopyIdle env step.row step.held first copy := by
  obtain ⟨row, held, frees⟩ := step
  unfold KeptStep.Idle KeptStep.after CopyIdle
  cases row with
  | none => simp [settleEffect]
  | some cp =>
    by_cases pending : cp.status = .pending
    · cases gone : env.isOver
      · cases fails : first.writeFails
        · -- The first copy settled the step, and nothing is written over a settled one.
          simp [settleEffect, liveEffect, pending, gone, fails, settled_not_pending]
        · cases again : copy.writeFails
          · have changed : cp.settled (settlementOf cp copy.result) ≠ cp := fun same =>
              settled_not_pending cp (settlementOf cp copy.result) (by rw [same]; exact pending)
            simp [settleEffect, liveEffect, pending, gone, fails, again, changed]
          · simp [settleEffect, liveEffect, pending, gone, fails, again]
      · have forgotten : (lateEffect env cp held first).held = none := by
          unfold lateEffect
          cases first.releaseStuck cp held <;>
            cases env.salvages && first.result.status == .completed <;>
            cases first.writeFails <;> simp
        have late : ∀ held d, settleEffect env (some cp) held d = lateEffect env cp held d := by
          intro held d
          simp [settleEffect, pending, gone]
        rcases lateEffect_cases env cp held first with ⟨kept, row, found, settled⟩ | ⟨left, same⟩
        · have done : ∀ held d, settleEffect env (some row) held d = { row := some row, held } := by
            intro held d
            simp [settleEffect, settled]
          simp [late, found, done, kept]
        · have idle := lateEffect_idle env pending copy
          simp only [late, same, forgotten, Option.some.injEq, forall_eq', pending, true_implies,
            if_true, left, false_or, KeptStep.mk.injEq, List.append_right_eq_self, and_assoc] at *
          rw [idle]
    · simp [settleEffect, pending]

theorem firstCopies_distinct (entries : List (ResultDelivery × Nat)) :
    ((firstCopies entries).map (·.1.seq)).Nodup := by
  induction entries with
  | nil => exact List.nodup_nil
  | cons entry rest ih =>
    unfold firstCopies
    rw [List.map_cons, List.nodup_cons]
    constructor
    · intro again
      obtain ⟨other, kept, same⟩ := List.mem_map.mp again
      have apart := (List.mem_filter.mp kept).2
      simp [same] at apart
    · exact ih.sublist (List.filter_sublist.map _)

theorem mem_resumableReads (listed : entry ∈ live) (found : rows entry.1.seq = some cp)
    (settles : cp.status = .pending → entry.1.writeFails = false) :
    ⟨cp, entry⟩ ∈ resumableReads rows live := by
  have read : ⟨cp, entry⟩ ∈ readResults rows live := by
    unfold readResults
    exact List.mem_filterMap.mpr ⟨entry, listed, by rw [found]; rfl⟩
  unfold resumableReads pendingReads
  rw [List.mem_append, List.mem_filter, List.mem_filter, List.mem_filter]
  by_cases pending : cp.status = .pending
  · simp [read, pending, settles pending]
  · simp [read, pending]

theorem first_copy_of (before rest : List (ResultDelivery × Nat)) (entry : ResultDelivery × Nat) :
    ∃ first copies, first ∈ firstCopies (before ++ entry :: rest) ∧
      first.1.seq = entry.1.seq ∧
      (before ++ entry :: rest).filter (·.1.seq = entry.1.seq) = first :: copies ∧
      ((first = entry ∧ before.filter (·.1.seq = entry.1.seq) = []) ∨
        (first ∈ before ∧ entry ∈ copies)) := by
  have results := filter_split before rest entry
  have only := filter_firstCopies (before ++ entry :: rest) entry.1.seq
  cases earlier : before.filter (·.1.seq = entry.1.seq) with
  | nil =>
    rw [earlier, List.nil_append] at results
    rw [results, List.take_succ_cons, List.take_zero] at only
    have kept : entry ∈ (firstCopies (before ++ entry :: rest)).filter
        (·.1.seq = entry.1.seq) := by rw [only]; simp
    exact ⟨entry, _, (List.mem_filter.mp kept).1, rfl, results, .inl ⟨rfl, rfl⟩⟩
  | cons first copies =>
    rw [earlier, List.cons_append] at results
    rw [results, List.take_succ_cons, List.take_zero] at only
    have kept : first ∈ (firstCopies (before ++ entry :: rest)).filter
        (·.1.seq = entry.1.seq) := by rw [only]; simp
    have in_before : first ∈ before.filter (·.1.seq = entry.1.seq) := by rw [earlier]; simp
    exact ⟨first, _, (List.mem_filter.mp kept).1, by simpa using (List.mem_filter.mp kept).2,
      results, .inr ⟨(List.mem_filter.mp in_before).1, by simp⟩⟩

/-- Whether a result resumes, one by one, a run that the batch leaves asleep: a later copy reports
a failure, or a result finds its own fan open right after it. -/
def LostWake (state : SettleState) (entries : List (ResultDelivery × Nat)) : Prop :=
  ∃ before entry rest cp, entries = before ++ entry :: rest ∧
    state.rows entry.1.seq = some cp ∧
    ((entry.1.result.status = .failed ∧ ∃ first ∈ before, first.1.seq = entry.1.seq) ∨
      ((leftPending state.rows before entry.1.seq →
          entry.1.writeFails = false ∧
            entry.1.releaseStuck cp (state.stepQueue entry.1.seq) = false) ∧
        ∃ fan, stepFanOf cp = some fan ∧
          fanShut env state.rows (before ++ [entry]) fan = false))

/-- Where later copies are idle and the batch leaves its run asleep, a result resumes the run one
by one only in these two ways. -/
theorem wakesAny_iff_lostWake (goes : env.isOver = false) (exists_run : env.run.isSome)
    (idle : CopiesIdle env state entries) (waits : BatchWaits env state.rows entries) :
    state.wakesAny env entries ↔ LostWake env state entries := by
  rw [wakesAny_iff]
  have idle_first : ∀ seq first copies cp copy,
      entries.filter (·.1.seq = seq) = first :: copies → copy ∈ copies →
      state.rows seq = some cp → cp.status = .pending → first.1.writeFails = false := by
    intro seq first copies cp copy results listed found pending
    have nothing := (idle_after_iff env _ _ _).mp (idle seq first copies results copy listed)
    simpa [goes] using nothing cp found pending
  constructor
  · intro ⟨before, entry, rest, split, wakes⟩
    obtain ⟨-, cp, found, settles, barrier⟩ := (wakes_iff env goes state before entry).mp wakes
    subst split
    obtain ⟨first, copies, kept, same, results, place⟩ :=
      first_copy_of before rest entry
    -- The first copy of its step is one the batch asks for, so the step is of a fan.
    have written : cp.status = .pending → first.1.writeFails = false := by
      intro pending
      rcases place with ⟨rfl, none_before⟩ | ⟨-, copied⟩
      · have left : leftPending state.rows before first.1.seq := by
          unfold leftPending
          rw [List.filter_eq_nil_iff] at none_before
          simp only [found, Option.any_some, pending, decide_true, Bool.true_and, List.all_eq_true]
          intro other listed
          have apart := none_before other listed
          simp at apart
          simp [apart]
        exact (settles left).1
      · exact idle_first entry.1.seq first copies cp entry results copied found pending
    have asked := mem_resumableReads kept (by rw [same]; exact found) written
    obtain ⟨ahead, behind, at_place⟩ := List.append_of_mem asked
    obtain ⟨succeeds, fan, of_fan, -⟩ := waits ahead _ behind at_place
    refine ⟨before, entry, rest, cp, rfl, found, ?_⟩
    by_cases failed : entry.1.result.status = .failed
    · rcases place with ⟨rfl, -⟩ | ⟨earlier, -⟩
      · exact absurd failed succeeds
      · exact .inl ⟨failed, first, earlier, same⟩
    · exact .inr ⟨settles, fan, of_fan, (barrier fan of_fan).resolve_left failed⟩
  · intro ⟨before, entry, rest, cp, split, found, lost⟩
    refine ⟨before, entry, rest, split, (wakes_iff env goes state before entry).mpr
      ⟨exists_run, cp, found, ?_⟩⟩
    subst split
    rcases lost with ⟨failed, other, earlier, same⟩ | ⟨settles, fan, of_fan, unshut⟩
    · refine ⟨fun left => ?_, fun _ _ => .inl failed⟩
      obtain ⟨first, copies, -, same_first, results, place⟩ :=
        first_copy_of before rest entry
      rcases place with ⟨-, none_before⟩ | ⟨first_before, copied⟩
      · rw [List.filter_eq_nil_iff] at none_before
        exact absurd (by simpa using same) (none_before other earlier)
      · -- The first copy has been written before this one, so the step is not pending.
        simp only [leftPending, found, Option.any_some, Bool.and_eq_true, decide_eq_true_eq,
          List.all_eq_true] at left
        have written := idle_first entry.1.seq first copies cp entry results copied found left.1
        have refused := left.2 first first_before
        simp [same_first, written] at refused
    · refine ⟨settles, fun own of_own => .inr ?_⟩
      rw [of_fan] at of_own
      rw [← Option.some.inj of_own]
      exact unshut

theorem wakesAny_over (over_or_none : (env.run.isSome && !env.isOver) = false)
    (state : SettleState) (entries : List (ResultDelivery × Nat)) :
    state.wakesAny env entries = false := by
  induction entries generalizing state with
  | nil => rfl
  | cons entry rest ih =>
    unfold SettleState.wakesAny SettleState.wakes
    rw [ih, over_or_none]
    cases state.rows entry.1.seq <;> rfl

/-- Where later copies are idle, the barriers a batch asks are all shut exactly where it leaves
its run asleep. -/
theorem batchWakes_firstCopies (goes : env.isOver = false) (idle : CopiesIdle env state entries) :
    env.batchWakes (state.afterAll env (firstCopies entries)).rows
        (resumableReads state.rows (firstCopies entries)) [] = false ↔
      BatchWaits env state.rows entries := by
  have same_rows : (state.afterAll env (firstCopies entries)).rows =
      (state.afterAll env entries).rows := by
    funext seq
    exact congrArg KeptStep.row (view_idle env idle seq).symm
  rw [batchWakes_eq_false, same_rows]
  simp only [blockHasPending_afterAll env goes, List.not_mem_nil, not_false_eq_true, true_implies]
  rfl

/-- A batch leaves the checkpoints, gives back the slots and comes to the outcomes of its results
one by one, and resumes the run where they do. -/
def BatchAgrees (rows : Nat → Option StepCheckpoint) (stepQueue : Nat → Option String)
    (results : List ResultDelivery) : Prop :=
  let one := env.settleOneByOne { rows, stepQueue } results.zipIdx
  let batch := env.completeResults { rows, stepQueue } results.zipIdx
  one.rows = batch.rows ∧ one.freed.Perm batch.freed ∧ one.outcomes = batch.outcomes ∧
    (one.resumed → batch.resumed)

/-- Every later copy of a result of a list finds nothing left to do after the first one. -/
def CopiesSpare (state : SettleState) (entries : List (ResultDelivery × Nat)) : Prop :=
  ∀ seq first copies, entries.filter (·.1.seq = seq) = first :: copies →
    ∀ copy ∈ copies, CopyIdle env (state.rows seq) (state.stepQueue seq) first.1 copy.1

theorem copiesIdle_iff (state : SettleState) (entries : List (ResultDelivery × Nat)) :
    CopiesIdle env state entries ↔ CopiesSpare env state entries := by
  unfold CopiesIdle CopiesSpare
  simp only [idle_after_iff]
  rfl

/-- Where later copies are idle, a batch resumes a run that goes on wherever its results do one by
one, unless it leaves the run asleep. -/
theorem resume_kept_iff (goes : env.isOver = false) (exists_run : env.run.isSome)
    (idle : CopiesIdle env state entries) : (state.wakesAny env entries →
        env.batchWakes (state.afterAll env (firstCopies entries)).rows
          (resumableReads state.rows (firstCopies entries)) []) ↔
      (BatchWaits env state.rows entries → ¬LostWake env state entries) := by
  have asleep := batchWakes_firstCopies env goes idle
  constructor
  · intro kept waits lost
    have woken := kept ((wakesAny_iff_lostWake env goes exists_run idle waits).mpr lost)
    rw [asleep.mpr waits] at woken
    exact Bool.noConfusion woken
  · intro unlost wakes
    cases batch : env.batchWakes (state.afterAll env (firstCopies entries)).rows
        (resumableReads state.rows (firstCopies entries)) [] with
    | true => rfl
    | false =>
      have waits := asleep.mp batch
      exact absurd ((wakesAny_iff_lostWake env goes exists_run idle waits).mp wakes)
        (unlost waits)

theorem batch_of_one (state : SettleState) (entry : ResultDelivery × Nat) :
    CopiesSpare env state [entry] ∧
      (BatchWaits env state.rows [entry] → ¬LostWake env state [entry]) := by
  constructor
  · intro seq first copies results copy listed
    have short := (List.filter_sublist (p := (·.1.seq = seq)) (l := [entry])).length_le
    have none_left : copies = [] := by
      rw [results] at short
      exact List.length_eq_zero_iff.mp (by simpa using short)
    rw [none_left] at listed
    exact absurd listed List.not_mem_nil
  · intro waits ⟨before, own, rest, cp, split, found, lost⟩
    obtain ⟨rfl, rfl, rfl⟩ : before = [] ∧ own = entry ∧ rest = [] := by
      cases before with
      | nil => simpa [eq_comm] using split
      | cons head before => simp at split
    rcases lost with ⟨-, first, earlier, -⟩ | ⟨settles, fan, of_fan, unshut⟩
    · exact absurd earlier List.not_mem_nil
    · have written : cp.status = .pending → own.1.writeFails = false := fun pending =>
        (settles (by simp [leftPending, found, pending])).1
      have only : resumableReads state.rows (firstCopies [own]) = [] ++ ⟨cp, own⟩ :: [] := by
        by_cases pending : cp.status = .pending
        · simp [resumableReads, pendingReads, readResults, firstCopies, found, pending,
            written pending]
        · simp [resumableReads, pendingReads, readResults, firstCopies, found, pending]
      obtain ⟨-, asked, of_asked, shut⟩ := waits [] _ [] only
      rw [of_fan] at of_asked
      have closed := shut (by simp)
      rw [← Option.some.inj of_asked] at closed
      exact absurd closed (by simpa using unshut)

/-- A batch agrees with its results one by one exactly where each later copy of a result finds
nothing left to do, and the batch does not leave asleep a run that a later copy's failure, or a
result that finds its own fan open, resumes. -/
theorem completeResults_agrees_iff (rows : Nat → Option StepCheckpoint)
    (stepQueue : Nat → Option String) (results : List ResultDelivery) :
    BatchAgrees env rows stepQueue results ↔
      CopiesSpare env { rows, stepQueue } results.zipIdx ∧
        (env.run.isSome → env.isOver = false → BatchWaits env rows results.zipIdx →
          ¬LostWake env { rows, stepQueue } results.zipIdx) := by
  have distinct : (results.zipIdx.map Prod.snd).Nodup := by
    rw [List.zipIdx_map_snd]
    exact List.nodup_range'
  have agreed := afterAll_agrees_iff env { rows, stepQueue } (fun _ => rfl) distinct
  rw [copiesIdle_iff] at agreed
  unfold BatchAgrees Settling.completeResults
  by_cases single : results.zipIdx.length = 1
  · obtain ⟨entry, only⟩ := List.length_eq_one_iff.mp single
    have fine := batch_of_one env { rows, stepQueue } entry
    simp only [single, if_true, imp_self, and_true, List.Perm.refl, true_iff]
    rw [only]
    exact ⟨fine.1, fun _ _ => fine.2⟩
  · simp only [single, if_false, settleOneByOne_eq]
    cases settled : env.run.all isTerminalStatus
    · have exists_run : env.run.isSome := by
        cases run : env.run <;> simp [run] at settled ⊢
      have goes : env.isOver = false := by
        unfold Settling.isOver
        cases run : env.run <;> simp [run] at settled ⊢
        exact settled
      simp only [Bool.false_eq_true, if_false, Bool.false_or, exists_run, goes, Bool.true_and,
        settleBatch_eq env goes (firstCopies_distinct _), true_implies]
      constructor
      · intro ⟨same_rows, same_freed, same_outcomes, woken⟩
        have spare := agreed.mp ⟨same_rows, same_freed, same_outcomes⟩
        exact ⟨spare, (resume_kept_iff env goes exists_run
          ((copiesIdle_iff env _ _).mpr spare)).mp woken⟩
      · intro ⟨spare, unlost⟩
        obtain ⟨same_rows, same_freed, same_outcomes⟩ := agreed.mpr spare
        exact ⟨same_rows, same_freed, same_outcomes, (resume_kept_iff env goes exists_run
          ((copiesIdle_iff env _ _).mpr spare)).mpr unlost⟩
    · have stays : (env.run.isSome && !env.isOver) = false := by
        unfold Settling.isOver
        cases run : env.run <;> simp [run] at settled ⊢
        exact settled
      simp only [if_true, wakesAny_over env stays, Bool.false_or, Bool.false_eq_true, false_implies,
        and_true, agreed]
      -- A run that is over or not there is resumed on neither path.
      have none_resumed : env.run.isSome → env.isOver = false → False := by
        intro exists_run goes
        rw [exists_run, goes] at stays
        exact Bool.noConfusion stays
      constructor
      · intro spare
        exact ⟨spare, fun exists_run goes => (none_resumed exists_run goes).elim⟩
      · intro both
        exact both.1

end Agreement

def sentStep : Nat → Option StepCheckpoint := fun seq =>
  if seq = 0 then
    some { runId := "run", seq := 0, name := "charge", kind := .remote, status := .pending }
  else none

def chargeResult : StepResult := { runId := "run", seq := 0, status := .completed }

/-- Two copies of a result, of which the first one's write is refused. -/
def refusedThenFine : List ResultDelivery :=
  [{ result := chargeResult, writeFails := true }, { result := chargeResult }]

/-- One by one the second copy settles the step; the batch drops it and says it is done with. -/
theorem batch_drops_second_copy :
    ¬ ∀ (env : Settling) (rows : Nat → Option StepCheckpoint) (stepQueue : Nat → Option String)
        (results : List ResultDelivery), BatchAgrees env rows stepQueue results := by
  intro every
  have same := (every { run := some .suspended } sentStep (fun _ => none) refusedThenFine).1
  have differs := congrArg (fun row => row.map StepCheckpoint.status) (congrFun same 0)
  revert differs
  decide

end Durable
