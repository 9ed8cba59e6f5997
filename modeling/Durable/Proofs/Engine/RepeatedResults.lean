import Mathlib.Data.List.Nodup
import Mathlib.Data.List.Perm.Basic
import Mathlib.Tactic.ByContra
import Durable.Proofs.Engine.ResultEffects

/-! Later copies of a result: when they are idle, and that leaving them out shows otherwise. -/

namespace Durable

section Copies

variable (env : Settling) {copies : List (ResultDelivery × Nat)} {view : KeptStep}

/-- A result that changes nothing of its step, and ends in no error. -/
def KeptStep.Idle (view : KeptStep) (d : ResultDelivery) : Prop :=
  view.after env d = view ∧ (settleEffect env view.row view.held d).outcome = .done

/-- How far a step has come: it is settled once, and frees slots. -/
def KeptStep.progress (view : KeptStep) : Nat :=
  view.frees.length + if view.row.any (·.status = .pending) then 0 else 1

theorem settled_not_pending (cp : StepCheckpoint) (settlement : StepSettlement) :
    (cp.settled settlement).status ≠ .pending := by
  unfold StepCheckpoint.settled
  cases settlement.status <;> simp [ResultStatus.stepStatus]

theorem settleEffect_pending {cp : StepCheckpoint} (pending : cp.status = .pending)
    (held : Option String) (d : ResultDelivery) :
    (∃ row, (settleEffect env (some cp) held d).row = some row ∧ row.status ≠ .pending) ∨
      ((settleEffect env (some cp) held d).row = some cp ∧
        ((settleEffect env (some cp) held d).outcome = .done →
          (settleEffect env (some cp) held d).held = none ∧
            (settleEffect env (some cp) held d).frees = (cp.queue <|> held).toList)) := by
  unfold settleEffect
  simp only [pending, if_true]
  cases gone : env.isOver
  · unfold liveEffect
    cases d.writeFails <;> simp [settled_not_pending]
  · unfold lateEffect
    cases stuck : d.releaseStuck cp held
    · cases kept : env.salvages && d.result.status == .completed
      · simp
      · cases d.writeFails <;> simp [settled_not_pending]
    · simp

theorem progress_after (view : KeptStep) (d : ResultDelivery) :
    view.progress ≤ (view.after env d).progress ∧
      ((settleEffect env view.row view.held d).outcome = .done → view.after env d ≠ view →
        view.progress < (view.after env d).progress) := by
  obtain ⟨row, held, frees⟩ := view
  unfold KeptStep.after KeptStep.progress
  cases row with
  | none => simp [settleEffect]
  | some cp =>
    by_cases pending : cp.status = .pending
    · rcases settleEffect_pending env pending held d with ⟨row, found, settled⟩ | ⟨same, freed⟩
      · -- Settling the step counts even where it frees nothing.
        simp only [found, Option.any_some, settled, pending, decide_false, decide_true,
          Bool.false_eq_true, if_false, if_true, List.length_append]
        constructor
        · omega
        · intro _ _
          omega
      · simp only [same, List.length_append]
        constructor
        · omega
        · intro done changed
          obtain ⟨forgets, frees_all⟩ := freed done
          rw [forgets, frees_all] at changed
          rw [frees_all]
          cases queue : (cp.queue <|> held) with
          | some queue => simp
          | none =>
            -- With nothing to free, nothing was remembered either.
            have nothing : held = none := by
              cases held with
              | none => rfl
              | some held => cases own : cp.queue <;> simp [own] at queue
            rw [queue] at changed
            simp [nothing] at changed
    · simp [settleEffect, pending]

theorem foldl_idle (idle : ∀ copy ∈ copies, view.Idle env copy.1) :
    copies.foldl (fun view entry => view.after env entry.1) view = view := by
  induction copies with
  | nil => rfl
  | cons copy rest ih =>
    rw [List.foldl_cons, (idle copy (by simp)).1]
    exact ih fun other listed => idle other (by simp [listed])

theorem progress_foldl (view : KeptStep) (copies : List (ResultDelivery × Nat)) :
    view.progress ≤
      (copies.foldl (fun view entry => view.after env entry.1) view).progress := by
  induction copies generalizing view with
  | nil => exact Nat.le_refl _
  | cons copy rest ih => exact Nat.le_trans (progress_after env view copy.1).1 (ih _)

theorem idle_of_progress
    (stays : (copies.foldl (fun view entry => view.after env entry.1) view).progress =
      view.progress) (fine : ∀ done copy rest, copies = done ++ copy :: rest →
      let reached := done.foldl (fun view entry => view.after env entry.1) view
      (settleEffect env reached.row reached.held copy.1).outcome = .done) :
    ∀ copy ∈ copies, view.Idle env copy.1 := by
  induction copies with
  | nil => simp
  | cons copy rest ih =>
    have outcome := fine [] copy rest rfl
    simp only [List.foldl_nil] at outcome
    rw [List.foldl_cons] at stays
    have onward := progress_foldl env (view.after env copy.1) rest
    -- A first result that changed the step would have taken it further for good.
    have same : view.after env copy.1 = view := by
      by_contra changed
      have further := (progress_after env view copy.1).2 outcome changed
      omega
    have others := ih (by rw [← stays, same]) (by
      intro done other later split
      have reached := fine (copy :: done) other later (by rw [split]; rfl)
      rw [List.foldl_cons, same] at reached
      exact reached)
    intro other listed
    rcases List.mem_cons.mp listed with first | later
    · rw [first]
      exact ⟨same, outcome⟩
    · exact others other later

end Copies

/-! ### The first copies of a list of results -/

section FirstCopies

theorem filter_firstCopies (entries : List (ResultDelivery × Nat)) (seq : Nat) :
    (firstCopies entries).filter (·.1.seq = seq) =
      (entries.filter (·.1.seq = seq)).take 1 := by
  induction entries with
  | nil => rfl
  | cons entry rest ih =>
    unfold firstCopies
    by_cases own : entry.1.seq = seq
    · -- The later copies of this step have been left out.
      have none_left : ((firstCopies rest).filter (·.1.seq ≠ entry.1.seq)).filter
          (·.1.seq = seq) = [] := by
        rw [List.filter_filter, List.filter_eq_nil_iff]
        intro other _
        simp [own]
      simp [own]
    · have kept : ((firstCopies rest).filter (·.1.seq ≠ entry.1.seq)).filter
          (·.1.seq = seq) = (firstCopies rest).filter (·.1.seq = seq) := by
        rw [List.filter_filter]
        apply List.filter_congr
        intro other _
        by_cases same : other.1.seq = seq
        · have apart : seq ≠ entry.1.seq := fun equal => own equal.symm
          simp [same, apart]
        · simp [same]
      rw [List.filter_cons_of_neg (by simpa using own), kept, ih,
        List.filter_cons_of_neg (by simpa using own)]

theorem firstCopies_sublist (entries : List (ResultDelivery × Nat)) :
    (firstCopies entries).Sublist entries := by
  induction entries with
  | nil => exact .slnil
  | cons entry rest ih => exact (List.filter_sublist.trans ih).cons_cons entry

theorem perm_of_frees {freed others : List (Nat × String)}
    (same : ∀ seq, (freed.filter (·.1 = seq)).map Prod.snd =
      (others.filter (·.1 = seq)).map Prod.snd) : freed.Perm others := by
  have counted : ∀ (slots : List (Nat × String)) (slot : Nat × String),
      slots.count slot = ((slots.filter (·.1 = slot.1)).map Prod.snd).count slot.2 := by
    intro slots slot
    induction slots with
    | nil => rfl
    | cons head rest ih =>
      obtain ⟨seq, queue⟩ := head
      by_cases own : seq = slot.1
      · subst own
        by_cases equal : queue = slot.2
        · subst equal
          simp [ih]
        · have differs : (slot.1, queue) ≠ slot := fun h => equal (congrArg Prod.snd h)
          simp [ih, equal, differs]
      · have differs : (seq, queue) ≠ slot := fun h => own (congrArg Prod.fst h)
        simp [ih, own, differs]
  rw [List.perm_iff_count]
  intro slot
  rw [counted, counted, same]

variable (env : Settling) {entries : List (ResultDelivery × Nat)} {state : SettleState}
  {before rest : List (ResultDelivery × Nat)} {entry : ResultDelivery × Nat}

/-- Every later copy of a result is idle once the first one is settled. -/
def CopiesIdle (state : SettleState) (entries : List (ResultDelivery × Nat)) : Prop :=
  ∀ seq first copies, entries.filter (·.1.seq = seq) = first :: copies →
    ∀ copy ∈ copies, ((state.view seq).after env first.1).Idle env copy.1

theorem view_firstCopies (state : SettleState) (entries : List (ResultDelivery × Nat))
    (seq : Nat) :
    (state.afterAll env (firstCopies entries)).view seq =
      ((entries.filter (·.1.seq = seq)).take 1).foldl
        (fun view entry => view.after env entry.1) (state.view seq) := by
  rw [view_afterAll, filter_firstCopies]

theorem view_idle (idle : CopiesIdle env state entries) (seq : Nat) :
    (state.afterAll env entries).view seq =
      (state.afterAll env (firstCopies entries)).view seq := by
  rw [view_firstCopies, view_afterAll]
  cases results : entries.filter (·.1.seq = seq) with
  | nil => rfl
  | cons first copies =>
    rw [List.foldl_cons, foldl_idle env (idle seq first copies results)]
    rfl

theorem filter_split (before rest : List (ResultDelivery × Nat)) (entry : ResultDelivery × Nat) :
    (before ++ entry :: rest).filter (·.1.seq = entry.1.seq) =
      before.filter (·.1.seq = entry.1.seq) ++
        entry :: rest.filter (·.1.seq = entry.1.seq) := by
  simp [List.filter_append]

theorem copy_left_out (distinct : ((before ++ entry :: rest).map Prod.snd).Nodup)
    (repeated : before.filter (·.1.seq = entry.1.seq) ≠ []) :
    entry.2 ∉ (firstCopies (before ++ entry :: rest)).map Prod.snd := by
  intro listed
  obtain ⟨other, kept, same_index⟩ := List.mem_map.mp listed
  have other_listed := (firstCopies_sublist _).subset kept
  have same : other = entry :=
    List.inj_on_of_nodup_map distinct other_listed (by simp) same_index
  subst same
  -- The first copy of its step comes before it, so the two have one index.
  obtain ⟨first, copies, results⟩ := List.exists_cons_of_ne_nil repeated
  have only := filter_firstCopies (before ++ other :: rest) other.1.seq
  rw [filter_split, results] at only
  have in_only : other ∈ (firstCopies (before ++ other :: rest)).filter
      (·.1.seq = other.1.seq) := List.mem_filter.mpr ⟨kept, by simp⟩
  rw [only] at in_only
  have equal : other = first := by simpa using in_only
  have first_before : first ∈ before :=
    (List.mem_filter.mp (results ▸ List.mem_cons_self)).1
  rw [List.map_append, List.map_cons, List.nodup_append] at distinct
  exact distinct.2.2 first.2 (List.mem_map_of_mem first_before) other.2 (by simp) (by rw [equal])

theorem outcome_first (fresh : ∀ index, state.outcomes index = .done)
    (distinct : ((before ++ entry :: rest).map Prod.snd).Nodup)
    (earliest : before.filter (·.1.seq = entry.1.seq) = []) :
    (state.afterAll env (before ++ entry :: rest)).outcomes entry.2 =
      (state.afterAll env (firstCopies (before ++ entry :: rest))).outcomes entry.2 := by
  have kept := filter_firstCopies (before ++ entry :: rest) entry.1.seq
  rw [filter_split, earliest, List.nil_append, List.take_succ_cons, List.take_zero] at kept
  obtain ⟨front, back, split, fresh_front, -, -⟩ := List.filter_eq_cons_iff.mp kept
  have front_none : front.filter (·.1.seq = entry.1.seq) = [] := by
    rw [List.filter_eq_nil_iff]
    exact fresh_front
  have kept_distinct := distinct.sublist ((firstCopies_sublist _).map Prod.snd)
  rw [split] at kept_distinct ⊢
  -- In both lists it meets its step as it was in the beginning.
  rw [outcome_afterAll env (fresh _) distinct, outcome_afterAll env (fresh _) kept_distinct,
    view_afterAll, view_afterAll, earliest, front_none]

theorem outcome_idle (fresh : ∀ index, state.outcomes index = .done)
    (distinct : (entries.map Prod.snd).Nodup) (idle : CopiesIdle env state entries) (index : Nat) :
    (state.afterAll env entries).outcomes index =
      (state.afterAll env (firstCopies entries)).outcomes index := by
  by_cases listed : index ∈ entries.map Prod.snd
  · obtain ⟨entry, here, rfl⟩ := List.mem_map.mp listed
    obtain ⟨before, rest, rfl⟩ := List.append_of_mem here
    cases earlier : before.filter (·.1.seq = entry.1.seq) with
    | nil => exact outcome_first env fresh distinct earlier
    | cons first copies =>
      -- A later copy is idle where it is settled, and left out where it is not.
      have left_out := copy_left_out distinct (by rw [earlier]; simp)
      have results := filter_split before rest entry
      rw [earlier, List.cons_append] at results
      have same := idle entry.1.seq first _ results
      rw [outcome_unlisted env left_out, fresh, outcome_afterAll env (fresh _) distinct,
        view_afterAll, earlier, List.foldl_cons,
        foldl_idle env fun copy listed => same copy (by simp [listed])]
      exact (same entry (by simp)).2
  · have left_out : index ∉ (firstCopies entries).map Prod.snd := fun kept =>
      listed (((firstCopies_sublist entries).map Prod.snd).subset kept)
    rw [outcome_unlisted env listed, outcome_unlisted env left_out]

/-- Where leaving the later copies out makes no difference, they are idle. -/
theorem copiesIdle_of_agree (fresh : ∀ index, state.outcomes index = .done)
    (distinct : (entries.map Prod.snd).Nodup)
    (rows : (state.afterAll env entries).rows = (state.afterAll env (firstCopies entries)).rows)
    (freed : (state.afterAll env entries).freed.Perm
      (state.afterAll env (firstCopies entries)).freed)
    (outcomes : (state.afterAll env entries).outcomes =
      (state.afterAll env (firstCopies entries)).outcomes) : CopiesIdle env state entries := by
  intro seq first copies results
  have all := view_afterAll env state entries seq
  have one := view_firstCopies env state entries seq
  rw [results, List.foldl_cons] at all
  rw [results, List.take_succ_cons, List.take_zero, List.foldl_cons, List.foldl_nil] at one
  apply idle_of_progress
  · -- The step has come as far with the later copies as without.
    rw [← all, ← one]
    have same_row := congrFun rows seq
    have same_frees := ((freed.filter (·.1 = seq)).map Prod.snd).length_eq
    unfold KeptStep.progress SettleState.view
    rw [same_frees, same_row]
  · intro done copy rest split
    rw [split] at results
    obtain ⟨skipped, tail, whole, unrelated, own_first, later⟩ := List.filter_eq_cons_iff.mp results
    obtain ⟨middle, last, tail_split, middle_done, last_copies⟩ :=
      List.filter_eq_append_iff.mp later
    obtain ⟨gap, remaining, last_split, gap_unrelated, own, -⟩ :=
      List.filter_eq_cons_iff.mp last_copies
    have placed : entries = (skipped ++ first :: (middle ++ gap)) ++ copy :: remaining := by
      rw [whole, tail_split, last_split]
      simp
    have own_seq : copy.1.seq = seq := by simpa using own
    have earlier : (skipped ++ first :: (middle ++ gap)).filter (·.1.seq = seq) =
        first :: done := by
      rw [List.filter_append, List.filter_eq_nil_iff.mpr unrelated, List.nil_append,
        List.filter_cons, if_pos own_first, List.filter_append, middle_done,
        List.filter_eq_nil_iff.mpr gap_unrelated, List.append_nil]
    rw [placed] at distinct outcomes
    have left_out := copy_left_out distinct (by rw [own_seq, earlier]; simp)
    have settled := outcome_afterAll env (fresh copy.2) distinct
    rw [outcomes, outcome_unlisted env left_out, fresh, view_afterAll, own_seq, earlier,
      List.foldl_cons] at settled
    exact settled.symm

theorem afterAll_agrees_iff (state : SettleState) (fresh : ∀ index, state.outcomes index = .done)
    (distinct : (entries.map Prod.snd).Nodup) :
    ((state.afterAll env entries).rows = (state.afterAll env (firstCopies entries)).rows ∧
      (state.afterAll env entries).freed.Perm (state.afterAll env (firstCopies entries)).freed ∧
      (state.afterAll env entries).outcomes =
        (state.afterAll env (firstCopies entries)).outcomes) ↔
      CopiesIdle env state entries := by
  constructor
  · intro ⟨rows, freed, outcomes⟩
    exact copiesIdle_of_agree env fresh distinct rows freed outcomes
  · intro idle
    have same := view_idle env idle
    refine ⟨?_, ?_, ?_⟩
    · funext seq
      exact congrArg KeptStep.row (same seq)
    · exact perm_of_frees fun seq => congrArg KeptStep.frees (same seq)
    · funext index
      exact outcome_idle env fresh distinct idle index

end FirstCopies

end Durable
