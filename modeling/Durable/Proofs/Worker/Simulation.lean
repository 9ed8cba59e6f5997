import Durable.Interleaving.Entries
import Durable.Proofs.Worker.Operations

/-! One turn follows the direct interpretation until the first result it still misses. -/

namespace Durable.Worker

variable {ctx : TurnContext} {oracle : Oracle} {slots rest : List Slot} {seq : Nat}
  {next : List Outcome → BodyStep}

/-- Every operation answers from the history as the oracle does, or commands what is missing. -/
theorem perform_spec (live : Uncancelled ctx.options) (captures : Captures oracle ctx)
    (drained : ctx.pendingSignals = []) {state : TurnState} {operation : TurnOp}
    (waits : match operation with
      | .gatherCalls _ mode => mode = .waitAll
      | .gatherChildren _ _ mode => mode = .waitAll
      | _ => True) (agrees : Agrees oracle ctx state.seq (operation.slots state.seq)) :
    Performs ctx oracle state operation := by
  cases operation with
  | step name input group => exact blocking_spec live agrees _ _ rfl rfl rfl
  | sleep ms => exact blocking_spec live agrees _ _ rfl rfl rfl
  | waitSignal name =>
    -- With no pending signal the wait is an ordinary blocking operation.
    have plain : ctx.waitSignal state name =
        ctx.blocking state .signal (some name) .one fun seq => .waitSignal seq name := by
      simp only [TurnContext.waitSignal, TurnContext.blocking, next_uncancelled live, drained]
      rcases ctx.replay state.seq .signal (some name) with _ | _ | _ <;> rfl
    unfold Performs TurnContext.perform
    simp only [plain]
    exact blocking_spec live agrees _ _ rfl rfl rfl
  | startChild workflow input => exact blocking_spec live agrees _ _ rfl rfl rfl
  | gatherCalls calls mode =>
    have waits : mode = .waitAll := waits
    subst waits
    have slots : (TurnOp.gatherCalls calls .waitAll).slots state.seq =
        (calls.map GatherCall.name).map fun name => ⟨.call, some name⟩ := by
      simp [TurnOp.slots]
    unfold Performs
    rw [slots] at agrees ⊢
    rw [List.length_map]
    simp only [TurnContext.perform, TurnContext.gatherCalls, TurnOp.answer]
    -- Every member is commanded under its own name, and reported under it.
    refine gather_spec live agrees _ _ (fun event name member resolves => ?_) _
      fun index name seq group located => ⟨rfl, ?_, rfl⟩
    · simp [resolves.label rfl]
    · simp only [List.getElem?_map, Option.map_eq_some_iff] at located
      obtain ⟨call, member, rfl⟩ := located
      simp [WorkflowCommand.slot, WorkflowCommand.kind, WorkflowCommand.name, member]
  | gatherChildren workflow inputs mode =>
    have waits : mode = .waitAll := waits
    subst waits
    have slots : (TurnOp.gatherChildren workflow inputs .waitAll).slots state.seq =
        (inputs.map fun _ => workflow).map fun name => ⟨.child, some name⟩ := by
      simp [TurnOp.slots]
    unfold Performs
    rw [slots] at agrees ⊢
    rw [List.length_map]
    simp only [TurnContext.perform, TurnContext.gatherChildren, TurnOp.answer]
    -- A failed child is labelled by the workflow all members share.
    refine gather_spec live agrees _ _ (fun event name member resolves => ?_) _
      fun index name seq group located => ⟨rfl, ?_, rfl⟩
    · obtain ⟨_, _, rfl⟩ := List.mem_map.mp member
      rfl
    · simp only [List.getElem?_map, Option.map_eq_some_iff] at located
      obtain ⟨_, _, rfl⟩ := located
      rfl
  | now =>
    obtain ⟨emitted, after, emits, seq, performed⟩ := localStep_spec live captures agrees
    exact ⟨emitted, after, emits, seq, .inl performed⟩
  | sideEffect =>
    obtain ⟨emitted, after, emits, seq, performed⟩ := localStep_spec live captures agrees
    exact ⟨emitted, after, emits, seq, .inl performed⟩

theorem Emits.extend {before after : TurnState} {emitted : List WorkflowCommand}
    (rest : List Slot) (emits : Emits ctx oracle seq slots before after emitted) :
    Emits ctx oracle seq (slots ++ rest) before after emitted := by
  refine ⟨emits.commands, emits.ran, emits.captured, emits.fresh, fun command member => ?_,
    emits.ordered⟩
  obtain ⟨lower, place⟩ := emits.placed command member
  exact ⟨lower, Interleaving.getElem?_append_of_some place⟩

theorem Emits.append {before middle after : TurnState} {first second : List WorkflowCommand}
    (opening : Emits ctx oracle seq slots before middle first)
    (closing : Emits ctx oracle (seq + slots.length) rest middle after second) :
    Emits ctx oracle seq (slots ++ rest) before after (first ++ second) := by
  have below : ∀ command ∈ first, command.seq < seq + slots.length := by
    intro command member
    obtain ⟨lower, place⟩ := opening.placed command member
    obtain ⟨within, -⟩ := List.getElem?_eq_some_iff.mp place
    omega
  refine ⟨by simp [closing.commands, opening.commands], by simp [closing.ran, opening.ran],
    ?_, ?_, ?_, ?_⟩
  · intro command member
    rcases List.mem_append.mp member with member | member
    · exact opening.captured command member
    · exact closing.captured command member
  · intro command member
    rcases List.mem_append.mp member with member | member
    · exact opening.fresh command member
    · exact closing.fresh command member
  · intro command member
    rcases List.mem_append.mp member with member | member
    · exact (opening.extend rest).placed command member
    · -- A position of the second stretch lies past every slot of the first.
      obtain ⟨lower, place⟩ := closing.placed command member
      refine ⟨by omega, ?_⟩
      rw [List.getElem?_append_right (by omega), ← place]
      congr 1
      omega
  · rw [List.map_append, List.pairwise_append]
    refine ⟨opening.ordered, closing.ordered, ?_⟩
    simp only [List.mem_map]
    rintro _ ⟨left, first, rfl⟩ _ ⟨right, second, rfl⟩
    have := below left first
    have := (closing.placed right second).1
    omega

theorem Agrees.left (agrees : Agrees oracle ctx seq (slots ++ rest)) :
    Agrees oracle ctx seq slots := by
  intro index slot placed event found
  exact agrees index slot (Interleaving.getElem?_append_of_some placed) event found

theorem Agrees.right (agrees : Agrees oracle ctx seq (slots ++ rest)) :
    Agrees oracle ctx (seq + slots.length) rest := by
  intro index slot placed event found
  refine agrees (slots.length + index) slot ?_ event (by rwa [← Nat.add_assoc])
  rw [List.getElem?_append_right (by omega), ← placed]
  congr 1
  omega

/-- How a turn ends when the interpretation settles this way. -/
def endOf : Except Thrown (Option Value) → TurnEnd
  | .ok output => .returned output
  | .error error => .threw error

/-- A turn settles as the interpretation does, or suspends on something it commanded. -/
theorem runBody_sim (live : Uncancelled ctx.options) (captures : Captures oracle ctx)
    (drained : ctx.pendingSignals = []) (waits : WaitsAll next) (fuel : Nat) :
    ∀ (seen : List Outcome) (state : TurnState) (settled : Except Thrown (Option Value)),
      direct next oracle fuel seen state.seq = some settled →
      Agrees oracle ctx state.seq (claimed next oracle fuel seen state.seq) →
      ∃ ended final emitted, runBody next ctx fuel seen state = some (ended, final) ∧
        Emits ctx oracle state.seq (claimed next oracle fuel seen state.seq) state final emitted ∧
        ((ended = endOf settled ∧ ∀ command ∈ emitted, command.records = true) ∨
          (ended = .suspended ∧ ∃ command ∈ emitted, command.records = false)) := by
  -- The turn and the interpretation take the same operations for as long as each one answers.
  induction fuel with
  | zero => intro seen state settled interpreted; simp [direct] at interpreted
  | succ fuel ih =>
    intro seen state settled interpreted agrees
    cases step : next seen with
    | ret output =>
      simp only [direct, step, Option.some.injEq] at interpreted
      subst interpreted
      exact ⟨.returned output, state, [], by simp [runBody, step],
        Emits.silent ctx oracle _ _ state state.seq, .inl ⟨rfl, by simp⟩⟩
    | throw error =>
      simp only [direct, step, Option.some.injEq] at interpreted
      subst interpreted
      exact ⟨.threw error, state, [], by simp [runBody, step],
        Emits.silent ctx oracle _ _ state state.seq, .inl ⟨rfl, by simp⟩⟩
    | op operation =>
      simp only [direct, step] at interpreted
      simp only [claimed, step] at agrees ⊢
      obtain ⟨emitted, after, emits, advanced, performed⟩ :=
        perform_spec live captures drained (waits seen operation step) agrees.left
      rcases performed with ⟨answered, recorded⟩ | ⟨suspended, vacant, asked⟩
      · -- The operation answered: both sides go on with the same outcome.
        rw [← advanced] at interpreted ⊢
        obtain ⟨ended, final, later, ran, following, outcome⟩ :=
          ih _ after settled interpreted (by rw [advanced]; exact agrees.right)
        refine ⟨ended, final, emitted ++ later, by simp [runBody, step, answered, ran],
          emits.append (by rwa [← advanced]), ?_⟩
        rcases outcome with ⟨finished, all⟩ | ⟨stopped, command, member, asks⟩
        · refine .inl ⟨finished, fun command member => ?_⟩
          rcases List.mem_append.mp member with member | member
          · exact recorded command member
          · exact all command member
        · exact .inr ⟨stopped, command, List.mem_append_right _ member, asks⟩
      · -- The operation is missing a result: the turn stops here.
        obtain ⟨command, member⟩ := List.exists_mem_of_ne_nil emitted vacant
        exact ⟨.suspended, after, emitted, by simp [runBody, step, suspended],
          emits.extend _, .inr ⟨rfl, command, member, asked command member⟩⟩

theorem direct_mono {fuel more : Nat} (enough : fuel ≤ more) :
    ∀ (seen : List Outcome) (seq : Nat) (settled : Except Thrown (Option Value)),
      direct next oracle fuel seen seq = some settled →
      direct next oracle more seen seq = some settled ∧
        claimed next oracle more seen seq = claimed next oracle fuel seen seq := by
  induction fuel generalizing more with
  | zero => intro seen seq settled interpreted; simp [direct] at interpreted
  | succ fuel ih =>
    intro seen seq settled interpreted
    obtain ⟨more, rfl⟩ : ∃ rest, more = rest + 1 := ⟨more - 1, by omega⟩
    cases step : next seen with
    | ret output => simpa [direct, claimed, step] using interpreted
    | throw error => simpa [direct, claimed, step] using interpreted
    | op operation =>
      simp only [direct, step] at interpreted
      obtain ⟨same, claims⟩ := ih (Nat.le_of_succ_le_succ enough) _ _ _ interpreted
      exact ⟨by simpa [direct, step] using same, by simp [claimed, step, claims]⟩

theorem runBody_mono {fuel more : Nat} (enough : fuel ≤ more) :
    ∀ (seen : List Outcome) (state : TurnState) (result : TurnEnd × TurnState),
      runBody next ctx fuel seen state = some result →
      runBody next ctx more seen state = some result := by
  induction fuel generalizing more with
  | zero => intro seen state result finished; simp [runBody] at finished
  | succ fuel ih =>
    intro seen state result finished
    obtain ⟨more, rfl⟩ : ∃ rest, more = rest + 1 := ⟨more - 1, by omega⟩
    cases step : next seen with
    | ret output => simpa [runBody, step] using finished
    | throw error => simpa [runBody, step] using finished
    | op operation =>
      simp only [runBody, step] at finished ⊢
      rcases performed : ctx.perform state operation with ⟨_ | _ | _, after⟩
      · simp only [performed] at finished ⊢
        exact ih (Nat.le_of_succ_le_succ enough) _ _ _ finished
      · simpa [performed] using finished
      · simpa [performed] using finished

end Durable.Worker
