import Durable.Proofs.Worker.Operations
import Mathlib.Data.List.Nodup
import Mathlib.Data.List.Range

/-! When a fail-fast fan of a worker's turn throws the same failure again on a longer history. -/

namespace Durable.Worker

/-- The members of a fail-fast fan: what kind of entry each of them has, and under which name. -/
def TurnOp.fastMembers : TurnOp → Option (HistoryKind × List String)
  | .gatherCalls calls .failFast => some (.call, calls.map GatherCall.name)
  | .gatherChildren workflow inputs .failFast => some (.child, inputs.map fun _ => workflow)
  | _ => none

/-- How many members a fail-fast fan has. -/
def TurnOp.width (op : TurnOp) : Nat := (op.fastMembers.map fun members => members.2.length).getD 0

/-- A history of one run at a later turn: it holds all that it held, and one entry a position. -/
structure Grows (history later : List HistoryEvent) : Prop where
  kept : ∀ event ∈ history, event ∈ later
  distinct : (later.map HistoryEvent.seq).Nodup

namespace TurnContext

variable (ctx : TurnContext)

def failedAt (seq : Nat) : Bool := (ctx.entryAt seq).any fun event => event.error.isSome

/-- The entry at a position, if there is one, was recorded by the member that reaches it. -/
def FitsAt (seq : Nat) (kind : HistoryKind) (name : String) : Prop :=
  ∀ event, ctx.entryAt seq = some event →
    event.kind = kind ∧ (event.name = none ∨ event.name = some name)

/-- A fan throws for one of its members: the first that failed, with that member's failure. -/
structure ThrowsFor (state : TurnState) (op : TurnOp) (index : Nat)
    (failure : String × StepError) : Prop where
  threw : ctx.perform state op = (.outcome (.error (.stepFailed (gatherFailed [failure]))),
    { state with seq := state.seq + op.width })
  failed : ctx.failedAt (state.seq + index) = true
  first : ∀ earlier < index, ctx.failedAt (state.seq + earlier) = false

end TurnContext

variable {ctx : TurnContext} {fastLabel : String → HistoryEvent → String} {names : List String}
  {kind : HistoryKind} {state after : TurnState} {seq : Nat} {seqs : List Nat}
  {history : List HistoryEvent}

theorem next_claims (claimed : ctx.next state = some (seq, after)) :
    seq = state.seq ∧ after = { state with seq := state.seq + 1 } := by
  unfold TurnContext.next at claimed
  -- With a cancellation callback or without one, a claim takes the next position.
  split at claimed
  · split at claimed
    · cases claimed
    · cases claimed
      exact ⟨rfl, rfl⟩
  · cases claimed
    exact ⟨rfl, rfl⟩

theorem reserve_claims (count : Nat) (reserved : ctx.reserve count state = some (seqs, after)) :
    seqs = List.range' state.seq count ∧ after = { state with seq := state.seq + count } := by
  induction count generalizing state after seqs with
  | zero =>
    cases reserved
    exact ⟨rfl, rfl⟩
  | succ count ih =>
    unfold TurnContext.reserve at reserved
    split at reserved
    · cases reserved
    · rename_i seq later claimed
      obtain ⟨rfl, rfl⟩ := next_claims claimed
      split at reserved
      · cases reserved
      · rename_i rest last tail
        obtain ⟨rfl, rfl⟩ := ih tail
        cases reserved
        refine ⟨rfl, ?_⟩
        simp only [Nat.add_assoc, Nat.add_comm 1 count]

theorem replayEntry_ok_iff (seq : Nat) (kind : HistoryKind) (name : String)
    (entry : Option HistoryEvent) :
    ctx.replayEntry seq kind (some name) = .ok entry ↔
      ctx.entryAt seq = entry ∧ ctx.FitsAt seq kind name := by
  unfold TurnContext.replayEntry TurnContext.FitsAt
  cases found : ctx.entryAt seq with
  | none => simp [eq_comm]
  | some event =>
    dsimp only
    have guard : (event.kind != kind ||
        ((some name).isSome && event.name.isSome && event.name != some name)) = false ↔
        event.kind = kind ∧ (event.name = none ∨ event.name = some name) := by
      cases event.name <;> simp
    by_cases fits : event.kind = kind ∧ (event.name = none ∨ event.name = some name)
    · rw [if_neg (by rw [Bool.not_eq_true]; exact guard.mpr fits)]
      constructor
      · intro same
        cases same
        refine ⟨rfl, ?_⟩
        intro other same
        cases same
        exact fits
      · rintro ⟨rfl, -⟩
        rfl
    · -- An entry of another operation stops the replay.
      rw [if_pos (by rw [← Bool.not_eq_false]; exact fun clear => fits (guard.mp clear))]
      constructor
      · intro same
        cases same
      · rintro ⟨-, all⟩
        exact absurd (all event rfl) fits

/-- The members' guards pass together exactly where every entry fits. -/
theorem replayEntries_ok_iff (kind : HistoryKind) (names : List String) (seq : Nat)
    (entries : List (Option HistoryEvent)) :
    ctx.replayEntries kind ((List.range' seq names.length).zip names) = .ok entries ↔
      entries = (List.range' seq names.length).map ctx.entryAt ∧
        ∀ index name, names[index]? = some name → ctx.FitsAt (seq + index) kind name := by
  induction names generalizing seq entries with
  | nil => simp [TurnContext.replayEntries, eq_comm]
  | cons name rest ih =>
    have split : (∀ index other, (name :: rest)[index]? = some other →
          ctx.FitsAt (seq + index) kind other) ↔
        ctx.FitsAt seq kind name ∧
          ∀ index other, rest[index]? = some other → ctx.FitsAt (seq + 1 + index) kind other := by
      constructor
      · intro all
        refine ⟨all 0 name rfl, fun index other held => ?_⟩
        have := all (index + 1) other (by simpa using held)
        rwa [show seq + (index + 1) = seq + 1 + index by omega] at this
      · rintro ⟨here, others⟩ index other held
        cases index with
        | zero =>
          have same : name = other := by simpa using held
          exact same ▸ here
        | succ index =>
          rw [show seq + (index + 1) = seq + 1 + index by omega]
          exact others index other (by simpa using held)
    rw [split]
    simp only [List.length_cons, List.range'_succ, List.zip_cons_cons, List.map_cons,
      TurnContext.replayEntries]
    cases first : ctx.replayEntry seq kind (some name) with
    | error error =>
      -- The first member does not fit, and nothing is read.
      simp only [reduceCtorEq, false_iff, not_and]
      rintro - here
      have passes := (replayEntry_ok_iff seq kind name (ctx.entryAt seq)).mpr ⟨rfl, here⟩
      rw [first] at passes
      cases passes
    | ok entry =>
      obtain ⟨same, fits⟩ := (replayEntry_ok_iff seq kind name entry).mp first
      subst same
      dsimp only
      cases others : ctx.replayEntries kind ((List.range' (seq + 1) rest.length).zip rest) with
      | error error =>
        simp only [reduceCtorEq, false_iff, not_and]
        rintro - - all
        have passes := (ih (seq + 1) _).mpr ⟨rfl, all⟩
        rw [others] at passes
        cases passes
      | ok found =>
        obtain ⟨rfl, all⟩ := (ih (seq + 1) found).mp others
        constructor
        · intro same
          cases same
          exact ⟨rfl, fits, all⟩
        · rintro ⟨rfl, -, -⟩
          rfl

/-- The failure a fail-fast fan finds is that of the first member that failed. -/
theorem firstFailed_iff (label : String → HistoryEvent → String) (names : List String) (seq : Nat)
    (failure : String × StepError) :
    firstFailed label (names.zip ((List.range' seq names.length).map ctx.entryAt)) =
        some failure ↔
      ∃ index name event error, names[index]? = some name ∧
        ctx.entryAt (seq + index) = some event ∧ event.error = some error ∧
        failure = (label name event, error) ∧
        ∀ earlier < index, ctx.failedAt (seq + earlier) = false := by
  induction names generalizing seq with
  | nil => simp [firstFailed]
  | cons name rest ih =>
    simp only [List.length_cons, List.range'_succ, List.map_cons, List.zip_cons_cons]
    -- Either the first member failed, or the failure is one of the others'.
    have later : ctx.failedAt seq = false →
        ((∃ index other event error, rest[index]? = some other ∧
            ctx.entryAt (seq + 1 + index) = some event ∧ event.error = some error ∧
            failure = (label other event, error) ∧
            ∀ earlier < index, ctx.failedAt (seq + 1 + earlier) = false) ↔
          ∃ index other event error, (name :: rest)[index]? = some other ∧
            ctx.entryAt (seq + index) = some event ∧ event.error = some error ∧
            failure = (label other event, error) ∧
            ∀ earlier < index, ctx.failedAt (seq + earlier) = false) := by
      intro passed
      constructor
      · rintro ⟨index, other, event, error, held, entry, failed, same, quiet⟩
        refine ⟨index + 1, other, event, error, by simpa using held, ?_, failed, same, ?_⟩
        · rw [show seq + (index + 1) = seq + 1 + index by omega]
          exact entry
        · intro earlier before
          cases earlier with
          | zero => exact passed
          | succ earlier =>
            rw [show seq + (earlier + 1) = seq + 1 + earlier by omega]
            exact quiet earlier (by omega)
      · rintro ⟨index, other, event, error, held, entry, failed, same, quiet⟩
        cases index with
        | zero =>
          have here : ctx.failedAt seq = true := by
            simp only [Nat.add_zero] at entry
            simp [TurnContext.failedAt, entry, failed]
          rw [here] at passed
          cases passed
        | succ index =>
          refine ⟨index, other, event, error, by simpa using held, ?_, failed, same, ?_⟩
          · rw [show seq + 1 + index = seq + (index + 1) by omega]
            exact entry
          · intro earlier before
            rw [show seq + 1 + earlier = seq + (earlier + 1) by omega]
            exact quiet (earlier + 1) (by omega)
    unfold firstFailed
    cases entry : ctx.entryAt seq with
    | none =>
      rw [← later (by simp [TurnContext.failedAt, entry])]
      exact ih (seq + 1)
    | some event =>
      dsimp only
      cases failed : event.error with
      | none =>
        rw [← later (by simp [TurnContext.failedAt, entry, failed])]
        exact ih (seq + 1)
      | some error =>
        dsimp only
        constructor
        · intro same
          cases same
          exact ⟨0, name, event, error, rfl, entry, failed, rfl, by simp⟩
        · rintro ⟨index, other, event', error', held, entry', failed', rfl, quiet⟩
          cases index with
          | zero =>
            have sameName : name = other := by simpa using held
            rw [Nat.add_zero, entry] at entry'
            cases entry'
            rw [failed] at failed'
            cases failed'
            rw [sameName]
          | succ index =>
            have passed := quiet 0 (by omega)
            simp [TurnContext.failedAt, entry, failed] at passed

theorem gather_throws (some_ : names.isEmpty = false)
    (reserved : ctx.reserve names.length state = some (seqs, after))
    (fits : ∀ index name, names[index]? = some name → ctx.FitsAt (state.seq + index) kind name)
    {failure : String × StepError} (found : firstFailed fastLabel
      (names.zip ((List.range' state.seq names.length).map ctx.entryAt)) = some failure)
    (label : HistoryEvent → String) (command : Nat → Nat → String → WorkflowCommand) :
    ctx.gather state kind names .failFast fastLabel label command =
      (.outcome (.error (.stepFailed (gatherFailed [failure]))),
        { state with seq := state.seq + names.length }) := by
  obtain ⟨rfl, rfl⟩ := reserve_claims names.length reserved
  have entries := (replayEntries_ok_iff kind names state.seq _).mpr ⟨rfl, fits⟩
  simp only [TurnContext.gather, some_, Bool.false_eq_true, if_false, reserved, entries, if_true,
    found]

theorem aggregate_of_none (names : List String) (seq : Nat) (none_ : firstFailed fastLabel
      (names.zip ((List.range' seq names.length).map ctx.entryAt)) = none)
    (label : HistoryEvent → String) (error : StepError) :
    aggregate label ((List.range' seq names.length).map ctx.entryAt) ≠
      .error (.stepFailed error) := by
  have clean : ((List.range' seq names.length).map ctx.entryAt).filterMap (fun entry =>
      entry.bind fun event => event.error.map fun error => (label event, error)) = [] := by
    induction names generalizing seq with
    | nil => rfl
    | cons name rest ih =>
      simp only [List.length_cons, List.range'_succ, List.map_cons, List.zip_cons_cons,
        firstFailed] at none_ ⊢
      cases entry : ctx.entryAt seq with
      | none =>
        rw [entry] at none_
        simpa using ih (seq + 1) none_
      | some event =>
        rw [entry] at none_
        cases failed : event.error with
        | none =>
          simp only [failed] at none_
          simpa [failed] using ih (seq + 1) none_
        | some error =>
          simp only [failed] at none_
          cases none_
  simp [aggregate, clean]

theorem gather_threw {label : HistoryEvent → String}
    {command : Nat → Nat → String → WorkflowCommand} {error : StepError}
    (threw : ctx.gather state kind names .failFast fastLabel label command =
      (.outcome (.error (.stepFailed error)), after)) :
    names.isEmpty = false ∧ (∃ seqs later, ctx.reserve names.length state = some (seqs, later)) ∧
      (∀ index name, names[index]? = some name → ctx.FitsAt (state.seq + index) kind name) ∧
      ∃ failure, firstFailed fastLabel
          (names.zip ((List.range' state.seq names.length).map ctx.entryAt)) = some failure ∧
        error = gatherFailed [failure] := by
  unfold TurnContext.gather at threw
  split at threw
  · cases threw
  · rename_i some_
    split at threw
    · cases threw
    · rename_i seqs later reserved
      obtain ⟨rfl, rfl⟩ := reserve_claims names.length reserved
      dsimp only at threw
      split at threw
      · cases threw
      · rename_i entries read
        obtain ⟨rfl, fits⟩ := (replayEntries_ok_iff kind names state.seq entries).mp read
        simp only [if_true] at threw
        cases found : firstFailed fastLabel
            (names.zip ((List.range' state.seq names.length).map ctx.entryAt)) with
        | some failure =>
          rw [found] at threw
          cases threw
          exact ⟨by simpa using some_, ⟨_, _, reserved⟩, fits, failure, rfl, rfl⟩
        | none =>
          -- With no failed member the fan suspends, or returns its outputs.
          rw [found] at threw
          dsimp only at threw
          split at threw
          · simp only [Prod.mk.injEq, OpEnd.outcome.injEq] at threw
            exact absurd threw.1 (aggregate_of_none names state.seq found label error)
          · cases threw

theorem perform_gather {op : TurnOp} (fan : op.fastMembers = some (kind, names))
    (ctx : TurnContext) :
    ∃ (fastLabel : String → HistoryEvent → String) (label : HistoryEvent → String),
      ∀ (history : List HistoryEvent) (state : TurnState),
        ∃ command, ({ ctx with history } : TurnContext).perform state op =
          ({ ctx with history } : TurnContext).gather state kind names .failFast fastLabel label
            command := by
  cases op with
  | gatherCalls calls mode =>
    cases mode with
    | waitAll => cases fan
    | failFast =>
      cases fan
      refine ⟨fun name event => event.name.getD name, fun event => event.name.getD "", ?_⟩
      intro history state
      exact ⟨fun index seq parallelGroup =>
        .call seq (calls.getD index { name := "" }).name
          (((calls.getD index { name := "" }).group.orElse fun _ =>
            ctx.options.partition).getD "")
          (calls.getD index { name := "" }).input (some parallelGroup), rfl⟩
  | gatherChildren workflow inputs mode =>
    cases mode with
    | waitAll => cases fan
    | failFast =>
      cases fan
      refine ⟨fun _ _ => workflow, fun _ => workflow, ?_⟩
      intro history state
      exact ⟨fun index seq parallelGroup =>
        .startChild seq workflow (inputs.getD index none) (some parallelGroup), rfl⟩
  | step | sleep | waitSignal | startChild | now | sideEffect => cases fan

theorem reserve_history (ctx : TurnContext) (history : List HistoryEvent) (count : Nat)
    (state : TurnState) :
    ({ ctx with history } : TurnContext).reserve count state = ctx.reserve count state := by
  induction count generalizing state with
  | zero => rfl
  | succ count ih =>
    have same : ({ ctx with history } : TurnContext).next state = ctx.next state := rfl
    simp only [TurnContext.reserve, same, ih]

theorem Grows.entryAt (grows : Grows ctx.history history) {event : HistoryEvent}
    (found : ctx.entryAt seq = some event) :
    ({ ctx with history } : TurnContext).entryAt seq = some event := by
  have placed : event.seq = seq := entryAt_seq found
  have held : event ∈ history := grows.kept event (by
    simpa using List.mem_of_find?_eq_some found)
  unfold TurnContext.entryAt
  cases later : history.reverse.find? (·.seq == seq) with
  | none =>
    have passed := List.find?_eq_none.mp later event (by simpa using held)
    simp [placed] at passed
  | some other =>
    -- Another entry at the position would be a second one there.
    have sameSeq : other.seq = seq := by simpa using List.find?_some later
    have listed : other ∈ history := by simpa using List.mem_of_find?_eq_some later
    rw [List.inj_on_of_nodup_map grows.distinct listed held (by rw [sameSeq, placed])]

theorem Grows.failedAt (grows : Grows ctx.history history) (failed : ctx.failedAt seq = true) :
    ({ ctx with history } : TurnContext).failedAt seq = true := by
  unfold TurnContext.failedAt at failed ⊢
  cases found : ctx.entryAt seq with
  | none =>
    rw [found] at failed
    cases failed
  | some event =>
    rw [found] at failed
    rw [grows.entryAt found]
    exact failed

/--
A fail-fast fan that threw throws the same on a longer history exactly when no member listed before
the one it threw for has failed meanwhile.

An entry at one of its positions that another operation recorded stops the replay instead.
-/
theorem gather_stable_iff (ctx : TurnContext) (history : List HistoryEvent)
    (grows : Grows ctx.history history) (state : TurnState) (op : TurnOp) (kind : HistoryKind)
    (names : List String) (fan : op.fastMembers = some (kind, names)) (index : Nat)
    (failure : String × StepError) (threw : ctx.ThrowsFor state op index failure) :
    ({ ctx with history } : TurnContext).ThrowsFor state op index failure ↔
      (∀ earlier < index,
        ({ ctx with history } : TurnContext).failedAt (state.seq + earlier) = false) ∧
      ∀ member name, names[member]? = some name →
        ({ ctx with history } : TurnContext).FitsAt (state.seq + member) kind name := by
  obtain ⟨fastLabel, label, performs⟩ := perform_gather fan ctx
  have width : op.width = names.length := by simp [TurnOp.width, fan]
  obtain ⟨command, here⟩ := performs ctx.history state
  obtain ⟨later, there⟩ := performs history state
  constructor
  · intro again
    have fits := gather_threw (there.symm.trans again.threw)
    exact ⟨again.first, fits.2.2.1⟩
  · rintro ⟨quiet, fits⟩
    obtain ⟨some_, ⟨seqs, after, reserved⟩, -, thrown, found, same⟩ :=
      gather_threw (here.symm.trans threw.threw)
    obtain ⟨first, name, event, error, held, entry, failed, rfl, before⟩ :=
      (firstFailed_iff fastLabel names state.seq thrown).mp found
    -- The member the fan threw for is the first one that failed on the shorter history.
    have member : first = index := by
      rcases Nat.lt_trichotomy first index with below | equal | above
      · have passed := threw.first first below
        simp [TurnContext.failedAt, entry, failed] at passed
      · exact equal
      · have passed := before index above
        have recorded := threw.failed
        rw [passed] at recorded
        cases recorded
    subst member
    have again : firstFailed fastLabel (names.zip ((List.range' state.seq names.length).map
        ({ ctx with history } : TurnContext).entryAt)) = some (fastLabel name event, error) :=
      (firstFailed_iff fastLabel names state.seq _).mpr
        ⟨first, name, event, error, held, grows.entryAt entry, failed, rfl, quiet⟩
    refine ⟨?_, grows.failedAt threw.failed, quiet⟩
    rw [there, gather_throws some_ ((reserve_history ctx history _ _).trans reserved) fits again label later, width, same]

def pairCalls : TurnOp := .gatherCalls [{ name := "reserve" }, { name := "charge" }] .failFast

def chargeDeclined : HistoryEvent :=
  { seq := 1, kind := .call, name := some "charge", error := some { message := "declined" } }

/-- The replay context of a turn whose history holds these entries. -/
def turnOn (history : List HistoryEvent) : TurnContext where
  history := history
  pendingSignals := []
  options := { capture := fun _ => .ok none }

theorem pairCalls_threw : (turnOn [chargeDeclined]).ThrowsFor {} pairCalls 1
    ("charge", { message := "declined" }) where
  threw := rfl
  failed := rfl
  first earlier before := by
    obtain rfl : earlier = 0 := by omega
    rfl

/-- Once the first member fails too, the same fan throws for that one. -/
theorem sibling_changes_failure :
    let reserveFailed : HistoryEvent :=
      { seq := 0, kind := .call, name := some "reserve", error := some { message := "sold out" } }
    Grows [chargeDeclined] [chargeDeclined, reserveFailed] ∧
      ((turnOn [chargeDeclined]).perform {} pairCalls).1 =
        .outcome (.error (.stepFailed
          (gatherFailed [("charge", { message := "declined" })]))) ∧
      ((turnOn [chargeDeclined, reserveFailed]).perform {} pairCalls).1 =
        .outcome (.error (.stepFailed
          (gatherFailed [("reserve", { message := "sold out" })]))) :=
  ⟨⟨by simp, by decide⟩, rfl, rfl⟩

/-- With the first member succeeding meanwhile, the fan throws for the second one again. -/
theorem gather_stable_pair :
    (turnOn [chargeDeclined, { seq := 0, kind := .call, name := some "reserve" }]).ThrowsFor {}
      pairCalls 1 ("charge", { message := "declined" }) := by
  refine (gather_stable_iff (turnOn [chargeDeclined]) _ ⟨by simp [turnOn], by decide⟩ {} pairCalls .call
    ["reserve", "charge"] rfl 1 _ pairCalls_threw).mpr ⟨?_, ?_⟩
  · intro earlier before
    obtain rfl : earlier = 0 := by omega
    rfl
  · intro member name held event found
    rcases member with _ | _ | member
    · cases held
      cases found
      exact ⟨rfl, .inr rfl⟩
    · cases held
      cases found
      exact ⟨rfl, .inr rfl⟩
    · simp at held

end Durable.Worker
