import Durable.Worker.Direct

/-! One replayed operation: it answers as the oracle does, or commands what is missing. -/

namespace Durable.Worker

variable {ctx : TurnContext} {seq : Nat} {event : HistoryEvent} {oracle : Oracle}
  {kind : HistoryKind} {name : Option String} {state : TurnState}

/-- A history event is the oracle's result for the operation of a slot. -/
structure Resolves (oracle : Oracle) (slot : Slot) (event : HistoryEvent) : Prop where
  kind : event.kind = slot.kind
  name : event.name = none ∨ slot.name = none ∨ event.name = slot.name
  label : slot.kind = .call → event.name = slot.name
  output : event.output = outputOf (oracle event.seq)
  error : event.error = errorOf (oracle event.seq)

/-- Every entry the history holds for these positions is the oracle's result there. -/
def Agrees (oracle : Oracle) (ctx : TurnContext) (seq : Nat) (slots : List Slot) : Prop :=
  ∀ index slot, slots[index]? = some slot → ∀ event, ctx.entryAt (seq + index) = some event →
    Resolves oracle slot event

/-- What a stretch of replay adds to the turn, placed within the positions it claims. -/
structure Emits (ctx : TurnContext) (oracle : Oracle) (seq : Nat) (slots : List Slot) (before after : TurnState)
    (emitted : List WorkflowCommand) : Prop where
  commands : after.commands = before.commands ++ emitted
  ran : after.ran = before.ran ++
    (emitted.filter WorkflowCommand.records).map WorkflowCommand.seq
  captured : ∀ command ∈ emitted, ∀ result, command.recorded = some result →
    result = oracle command.seq
  fresh : ∀ command ∈ emitted, ctx.entryAt command.seq = none
  placed : ∀ command ∈ emitted, seq ≤ command.seq ∧
    slots[command.seq - seq]? = some command.slot
  ordered : (emitted.map WorkflowCommand.seq).Pairwise (· < ·)

theorem entryAt_seq (found : ctx.entryAt seq = some event) : event.seq = seq := by
  simpa using List.find?_some found

theorem next_uncancelled (live : Uncancelled ctx.options) (state : TurnState) :
    ctx.next state = some (state.seq, { state with seq := state.seq + 1 }) := by
  -- A cancellation callback answers `false` at every position.
  unfold TurnContext.next
  cases installed : ctx.options.isCancelled with
  | none => rfl
  | some cancelled => simp [live cancelled installed]

theorem reserve_uncancelled (live : Uncancelled ctx.options) (count : Nat) (state : TurnState) :
    ctx.reserve count state =
      some (List.range' state.seq count, { state with seq := state.seq + count }) := by
  -- Each member claims the next position, and the rest of the block follows it.
  induction count generalizing state with
  | zero => rfl
  | succ count ih =>
    simp only [TurnContext.reserve, next_uncancelled live, ih, List.range'_succ]
    simp [Nat.add_assoc, Nat.add_comm 1 count]

theorem replayEntry_found (found : ctx.entryAt seq = some event)
    (resolves : Resolves oracle ⟨kind, name⟩ event) :
    ctx.replayEntry seq kind name = .ok (some event) := by
  -- The kinds are equal, and two known names are equal too.
  have sameKind : event.kind = kind := resolves.kind
  unfold TurnContext.replayEntry
  rcases resolves.name with unnamed | unnamed | same
  · simp [found, sameKind, unnamed]
  · have unnamed : name = none := unnamed
    simp [found, sameKind, unnamed]
  · have same : event.name = name := same
    simp [found, sameKind, same]

theorem replayEntry_missing (missing : ctx.entryAt seq = none) (kind : HistoryKind)
    (name : Option String) : ctx.replayEntry seq kind name = .ok none := by
  simp [TurnContext.replayEntry, missing]

theorem replay_found (found : ctx.entryAt seq = some event)
    (resolves : Resolves oracle ⟨kind, name⟩ event) : ctx.replay seq kind name =
      match oracle seq with
      | .ok output => .ok (some output)
      | .error error => .error (.stepFailed error) := by
  have output := resolves.output
  have error := resolves.error
  rw [entryAt_seq found] at output error
  simp only [TurnContext.replay, replayEntry_found found resolves, error, output]
  cases oracle seq <;> rfl

theorem replay_missing (missing : ctx.entryAt seq = none) (kind : HistoryKind)
    (name : Option String) : ctx.replay seq kind name = .ok none := by
  simp [TurnContext.replay, replayEntry_missing missing]

theorem Emits.silent (ctx : TurnContext) (oracle : Oracle) (seq : Nat) (slots : List Slot) (state : TurnState)
    (next : Nat) : Emits ctx oracle seq slots state { state with seq := next } [] :=
  ⟨by simp, by simp, by simp, by simp, by simp, by simp⟩

theorem Emits.single {slot : Slot} {before after : TurnState} {command : WorkflowCommand}
    (missing : ctx.entryAt seq = none) (place : command.seq = seq) (same : command.slot = slot)
    (held : ∀ result, command.recorded = some result → result = oracle seq)
    (commands : after.commands = before.commands ++ [command])
    (ran : after.ran = before.ran ++ if command.records then [seq] else []) :
    Emits ctx oracle seq [slot] before after [command] := by
  refine ⟨commands, ?_, ?_, ?_, ?_, by simp⟩
  · -- The only position that may have run its captured body is the one recorded.
    rw [ran]
    cases recorded : command.records <;> simp [recorded, place]
  · simpa [place] using held
  · simpa [place] using missing
  · simp [place, same]

/-- What one operation does to a turn whose history agrees with the oracle. -/
def Performs (ctx : TurnContext) (oracle : Oracle) (state : TurnState) (operation : TurnOp) :
    Prop :=
  ∃ emitted after,
    Emits ctx oracle state.seq (operation.slots state.seq) state after emitted ∧
    after.seq = state.seq + (operation.slots state.seq).length ∧
    ((ctx.perform state operation = (.outcome (operation.answer oracle state.seq), after) ∧
        ∀ command ∈ emitted, command.records = true) ∨
      (ctx.perform state operation = (.suspended, after) ∧
        (emitted ≠ [] ∧ ∀ command ∈ emitted, command.records = false)))

theorem blocking_spec (live : Uncancelled ctx.options)
    (agrees : Agrees oracle ctx state.seq [⟨kind, name⟩]) (found : Option Value → Returned)
    (command : Nat → WorkflowCommand) (place : (command state.seq).seq = state.seq)
    (same : (command state.seq).slot = ⟨kind, name⟩) (asks : (command state.seq).records = false) :
    ∃ emitted after, Emits ctx oracle state.seq [⟨kind, name⟩] state after emitted ∧
      after.seq = state.seq + 1 ∧
      ((ctx.blocking state kind name found command =
          (.outcome (awaited found (oracle state.seq)), after) ∧
          ∀ command ∈ emitted, command.records = true) ∨
        (ctx.blocking state kind name found command = (.suspended, after) ∧
          (emitted ≠ [] ∧ ∀ command ∈ emitted, command.records = false))) := by
  simp only [TurnContext.blocking, next_uncancelled live]
  cases entry : ctx.entryAt state.seq with
  | some event =>
    -- The recorded result is the oracle's, so the outcome is the awaited one.
    have resolves := agrees 0 _ rfl event (by simpa using entry)
    refine ⟨[], _, Emits.silent ctx oracle _ _ state (state.seq + 1), rfl, .inl ⟨?_, by simp⟩⟩
    rw [replay_found entry resolves]
    cases oracle state.seq <;> rfl
  | none =>
    -- Nothing is recorded: the operation commands itself and the turn ends.
    let after := TurnState.push { state with seq := state.seq + 1 } (command state.seq)
    refine ⟨[command state.seq], after, ?_, rfl, .inr ⟨?_, by simp, by simpa using asks⟩⟩
    · have silent : ∀ result, (command state.seq).recorded = some result →
          result = oracle state.seq := by
        intro result held
        simp [WorkflowCommand.records, held] at asks
      exact Emits.single entry place same silent rfl (by simp [asks, after, TurnState.push])
    · simp [replay_missing entry, after]

/-- A local step answers from the history, or runs its body once and records it. -/
theorem localStep_spec (live : Uncancelled ctx.options) (captures : Captures oracle ctx)
    {name : String} (agrees : Agrees oracle ctx state.seq [⟨.step, some name⟩]) :
    ∃ emitted after, Emits ctx oracle state.seq [⟨.step, some name⟩] state after emitted ∧
      after.seq = state.seq + 1 ∧
      (ctx.localStep state name = (.outcome (awaited .one (oracle state.seq)), after) ∧
        ∀ command ∈ emitted, command.records = true) := by
  simp only [TurnContext.localStep, next_uncancelled live]
  cases entry : ctx.entryAt state.seq with
  | some event =>
    have resolves := agrees 0 _ rfl event (by simpa using entry)
    refine ⟨[], _, Emits.silent ctx oracle _ _ state (state.seq + 1), rfl, ?_, by simp⟩
    rw [replay_found entry resolves]
    cases oracle state.seq <;> rfl
  | none =>
    -- The captured body's result is the oracle's, whether it returned or threw.
    have captured := captures state.seq entry
    rw [replay_missing entry]
    let ran : TurnState :=
      { state with seq := state.seq + 1, ran := state.ran ++ [state.seq] }
    cases result : ctx.options.capture state.seq with
    | ok output =>
      rw [result] at captured
      let record := WorkflowCommand.recordStep state.seq name (.ok output)
        (ctx.options.startedAt state.seq) (ctx.options.finishedAt state.seq)
      have held : ∀ result, record.recorded = some result → result = oracle state.seq := by
        rintro _ ⟨⟩
        exact captured
      refine ⟨[record], ran.push record, Emits.single entry rfl rfl held rfl rfl, rfl, ?_, by
        simp [record, WorkflowCommand.records, WorkflowCommand.recorded]⟩
      · rw [← captured]
        simp [awaited, record, ran]
        rfl
    | error thrown =>
      rw [result] at captured
      let record := WorkflowCommand.recordStep state.seq name (.error (toStepError thrown))
        (ctx.options.startedAt state.seq) (ctx.options.finishedAt state.seq)
      have held : ∀ result, record.recorded = some result → result = oracle state.seq := by
        rintro _ ⟨⟩
        exact captured
      refine ⟨[record], ran.push record, Emits.single entry rfl rfl held rfl rfl, rfl, ?_, by
        simp [record, WorkflowCommand.records, WorkflowCommand.recorded]⟩
      · rw [← captured]
        simp [awaited, record, ran]
        rfl

theorem replayEntries_agrees (names : List String) (seq : Nat)
    (agrees : Agrees oracle ctx seq (names.map fun name => ⟨kind, some name⟩)) :
    ctx.replayEntries kind ((List.range' seq names.length).zip names) =
      .ok ((List.range' seq names.length).map ctx.entryAt) := by
  -- The positions and the names advance together.
  induction names generalizing seq with
  | nil => rfl
  | cons name rest ih =>
    have tail := ih (seq + 1) fun index slot placed event found =>
      agrees (index + 1) slot (by simpa using placed) event (by
        rw [← found]
        congr 1
        omega)
    simp only [List.length_cons, List.range'_succ, List.zip_cons_cons, List.map_cons,
      TurnContext.replayEntries]
    cases entry : ctx.entryAt seq with
    | none => simp [replayEntry_missing entry, tail]
    | some event =>
      have resolves := agrees 0 ⟨kind, some name⟩ rfl event (by simpa using entry)
      simp [replayEntry_found entry resolves, tail]

theorem aggregate_failures {label : HistoryEvent → String} (names : List String) (seq : Nat)
    (labels : ∀ event, ∀ name ∈ names, Resolves oracle ⟨kind, some name⟩ event →
      label event = name)
    (agrees : Agrees oracle ctx seq (names.map fun name => ⟨kind, some name⟩))
    (settled : ∀ index < names.length, ctx.entryAt (seq + index) ≠ none) :
    ((List.range' seq names.length).map ctx.entryAt).filterMap (fun entry =>
        entry.bind fun event => event.error.map fun error => (label event, error)) =
      (memberResults oracle seq names).filterMap (fun member =>
        (errorOf member.2).map fun error => (member.1, error)) ∧
    ((List.range' seq names.length).map ctx.entryAt).map (fun entry =>
        entry.bind HistoryEvent.output) =
      (memberResults oracle seq names).map (fun member => outputOf member.2) := by
  -- The head entry carries the oracle's result for its position, and its label is the name.
  induction names generalizing seq with
  | nil => exact ⟨rfl, rfl⟩
  | cons name rest ih =>
    obtain ⟨failures, outputs⟩ := ih (seq + 1)
      (fun event name member => labels event name (List.mem_cons_of_mem _ member))
      (fun index slot placed event found =>
        agrees (index + 1) slot (by simpa using placed) event (by
          rw [← found]
          congr 1
          omega))
      (fun index within => by
        have head := settled (index + 1) (by simpa using within)
        rwa [show seq + (index + 1) = seq + 1 + index by omega] at head)
    obtain ⟨event, entry⟩ := Option.ne_none_iff_exists'.mp (settled 0 (by simp))
    rw [Nat.add_zero] at entry
    have resolves := agrees 0 ⟨kind, some name⟩ rfl event (by simpa using entry)
    have output := resolves.output
    have error := resolves.error
    rw [entryAt_seq entry] at output error
    simp only [List.length_cons, List.range'_succ, List.map_cons, List.filterMap_cons, entry,
      memberResults, Option.bind_some, error, output, failures, outputs]
    cases oracle seq with
    | ok value => simp [errorOf]
    | error failure => simp [errorOf, labels event name List.mem_cons_self resolves]

theorem aggregate_settled {label : HistoryEvent → String} (names : List String) (seq : Nat)
    (labels : ∀ event, ∀ name ∈ names, Resolves oracle ⟨kind, some name⟩ event →
      label event = name)
    (agrees : Agrees oracle ctx seq (names.map fun name => ⟨kind, some name⟩))
    (settled : ∀ index < names.length, ctx.entryAt (seq + index) ≠ none) :
    aggregate label ((List.range' seq names.length).map ctx.entryAt) =
      gathered (memberResults oracle seq names) := by
  obtain ⟨failures, outputs⟩ := aggregate_failures names seq labels agrees settled
  simp only [aggregate, gathered, failures, outputs]

theorem mem_missing {count : Nat} {member : (Nat × Option HistoryEvent) × Nat} :
    member ∈ (((List.range' seq count).zip
        ((List.range' seq count).map ctx.entryAt)).zipIdx.filter fun member =>
          member.1.2.isNone) ↔
      member.2 < count ∧ member.1.1 = seq + member.2 ∧ member.1.2 = none ∧
        ctx.entryAt member.1.1 = none := by
  -- A member's index in the zipped list is its offset from the fan's first position.
  obtain ⟨⟨position, entry⟩, index⟩ := member
  simp only [List.mem_filter, List.mem_zipIdx_iff_getElem?, List.getElem?_zip_eq_some,
    List.getElem?_map, Option.isNone_iff_eq_none]
  constructor
  · rintro ⟨⟨located, entered⟩, rfl⟩
    obtain ⟨within, rfl⟩ := List.getElem?_eq_some_iff.mp located
    rw [located] at entered
    simp only [List.length_range'] at within
    simp only [List.getElem_range', Nat.one_mul] at entered ⊢
    exact ⟨within, trivial, trivial, by simpa using entered⟩
  · rintro ⟨within, rfl, rfl, missing⟩
    have located : (List.range' seq count)[index]? = some (seq + index) := by
      simp [within]
    simp [located, missing]

/-- A fan that waits for all answers once it is complete, or commands what it misses. -/
theorem gather_spec (live : Uncancelled ctx.options) {names : List String}
    (agrees : Agrees oracle ctx state.seq (names.map fun name => ⟨kind, some name⟩))
    (fastLabel : String → HistoryEvent → String) (label : HistoryEvent → String)
    (labels : ∀ event, ∀ name ∈ names, Resolves oracle ⟨kind, some name⟩ event →
      label event = name) (command : Nat → Nat → String → WorkflowCommand)
    (built : ∀ index name seq group, names[index]? = some name →
      (command index seq group).seq = seq ∧
      (command index seq group).slot = ⟨kind, some name⟩ ∧
      (command index seq group).records = false) : ∃ emitted after,
      Emits ctx oracle state.seq (names.map fun name => ⟨kind, some name⟩) state after emitted ∧
      after.seq = state.seq + names.length ∧
      ((ctx.gather state kind names .waitAll fastLabel label command =
          (.outcome (gathered (memberResults oracle state.seq names)), after) ∧
          ∀ command ∈ emitted, command.records = true) ∨
        (ctx.gather state kind names .waitAll fastLabel label command = (.suspended, after) ∧
          (emitted ≠ [] ∧ ∀ command ∈ emitted, command.records = false))) := by
  -- An empty fan claims nothing and answers at once.
  by_cases vacant : names = []
  · subst vacant
    exact ⟨[], state, Emits.silent ctx oracle _ _ state state.seq, rfl,
      .inl ⟨by simp [TurnContext.gather, gathered, memberResults], by simp⟩⟩
  have occupied : names.isEmpty = false := by simpa using vacant
  let positions := List.range' state.seq names.length
  let missing := ((positions.zip (positions.map ctx.entryAt)).zipIdx.filter fun member =>
    member.1.2.isNone)
  let group := s!"gather:{positions.headD 0}"
  let emitted := missing.map fun member => command member.2 member.1.1 group
  have unfolded : ctx.gather state kind names .waitAll fastLabel label command =
      if missing.isEmpty then
        (.outcome (aggregate label (positions.map ctx.entryAt)),
          { state with seq := state.seq + names.length })
      else (.suspended, { state with
        seq := state.seq + names.length, commands := state.commands ++ emitted }) := by
    simp [TurnContext.gather, occupied, reserve_uncancelled live,
      replayEntries_agrees names state.seq agrees, positions, missing, emitted, group]
  by_cases complete : missing = []
  · -- Every member is in the history, so the fan aggregates their results.
    refine ⟨[], _, Emits.silent ctx oracle _ _ state (state.seq + names.length), rfl, .inl ⟨?_, by simp⟩⟩
    have settled : ∀ index < names.length, ctx.entryAt (state.seq + index) ≠ none := by
      intro index within absent
      have member : ((state.seq + index, none), index) ∈ missing :=
        mem_missing.mpr ⟨within, rfl, rfl, absent⟩
      simp [complete] at member
    rw [unfolded, complete, aggregate_settled names state.seq labels agrees settled]
    rfl
  · -- Some member is missing: exactly the missing ones are commanded.
    have places : ∀ member ∈ missing,
        (command member.2 member.1.1 group).seq = member.1.1 ∧
        (command member.2 member.1.1 group).slot = ⟨kind, some (names.getD member.2 "")⟩ ∧
        (command member.2 member.1.1 group).records = false := by
      intro member listed
      obtain ⟨within, -, -, -⟩ := mem_missing.mp listed
      exact built member.2 _ member.1.1 group (by simp [within])
    refine ⟨emitted, { state with
      seq := state.seq + names.length, commands := state.commands ++ emitted },
      ⟨rfl, ?_, ?_, ?_, ?_, ?_⟩, rfl, .inr ⟨by simp [unfolded, complete], ?_, ?_⟩⟩
    · -- No captured body runs in a fan.
      have none : emitted.filter WorkflowCommand.records = [] := by
        simp only [List.filter_eq_nil_iff, emitted, List.mem_map]
        rintro _ ⟨member, listed, rfl⟩
        simp [(places member listed).2.2]
      simp [none]
    · simp only [emitted, List.mem_map]
      rintro _ ⟨member, listed, rfl⟩ result held
      have asks := (places member listed).2.2
      simp [WorkflowCommand.records, held] at asks
    · simp only [emitted, List.mem_map]
      rintro _ ⟨member, listed, rfl⟩
      rw [(places member listed).1]
      exact (mem_missing.mp listed).2.2.2
    · simp only [emitted, List.mem_map]
      rintro _ ⟨member, listed, rfl⟩
      obtain ⟨within, position, -, -⟩ := mem_missing.mp listed
      obtain ⟨place, slot, -⟩ := places member listed
      rw [place, slot, position]
      simp [within]
    · -- The missing positions are a sublist of the reserved block.
      have ordered : (missing.map fun member => member.1.1).Pairwise (· < ·) := by
        have block : (((positions.zip (positions.map ctx.entryAt)).zipIdx).map
            fun member => member.1.1) = positions := by
          rw [show (fun member : (Nat × Option HistoryEvent) × Nat => member.1.1) =
            Prod.fst ∘ Prod.fst from rfl, ← List.map_map, List.zipIdx_map_fst,
            List.map_fst_zip (by simp)]
        have sub : (missing.map fun member => member.1.1).Sublist positions := by
          rw [← block]
          exact List.Sublist.map _ List.filter_sublist
        exact List.Pairwise.sublist sub List.pairwise_lt_range'
      have same : emitted.map WorkflowCommand.seq = missing.map fun member => member.1.1 := by
        simp only [emitted, List.map_map]
        exact List.map_congr_left fun member listed => (places member listed).1
      rwa [same]
    · simpa [emitted] using complete
    · simp only [emitted, List.mem_map]
      rintro _ ⟨member, listed, rfl⟩
      exact (places member listed).2.2

end Durable.Worker
