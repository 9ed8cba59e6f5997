import Mathlib.Data.List.Perm.Subperm
import Durable.Worker.Direct
import Durable.Proofs.Worker.Simulation

/-! Replaying a run turn by turn refines one direct interpretation of its body. -/

namespace Durable.Worker

variable {iteration : Iteration} {slots : List Slot} {ctx : TurnContext} {seq : Nat}
  {command : WorkflowCommand}

/-- What stays true of a run while turns and results alternate. -/
structure Consistent (oracle : Oracle) (slots : List Slot) (iteration : Iteration) : Prop where
  resolves : ∀ event ∈ iteration.history, ∃ slot, slots[event.seq]? = some slot ∧
    Resolves oracle slot event
  distinct : (iteration.history.map HistoryEvent.seq).Nodup
  placed : ∀ command ∈ iteration.emitted, slots[command.seq]? = some command.slot
  recorded : ∀ seq ∈ iteration.ran, ∃ event ∈ iteration.history, event.seq = seq
  once : iteration.ran.Nodup
  counted : iteration.resolved ≤ iteration.history.length
  paced : iteration.productive ≤ iteration.resolved + if iteration.answered then 0 else 1

theorem entryAt_eq_none : ctx.entryAt seq = none ↔ ∀ event ∈ ctx.history, event.seq ≠ seq := by
  simp [TurnContext.entryAt, List.find?_eq_none]

theorem entryAt_mem {event : HistoryEvent} (found : ctx.entryAt seq = some event) :
    event ∈ ctx.history := by
  simpa using List.mem_of_find?_eq_some found

theorem Consistent.agrees {oracle : Oracle} (consistent : Consistent oracle slots iteration)
    (options : TurnOptions) : Agrees oracle ⟨iteration.history, [], options⟩ 0 slots := by
  intro index slot placed event found
  obtain ⟨held, located, resolves⟩ := consistent.resolves event (entryAt_mem found)
  have position : event.seq = index := by simpa using entryAt_seq found
  rw [position, placed] at located
  cases located
  exact resolves

theorem Consistent.length_le {oracle : Oracle} (consistent : Consistent oracle slots iteration) :
    iteration.history.length ≤ slots.length := by
  -- Distinct positions below the number of slots are at most that many.
  have within : ∀ seq ∈ iteration.history.map HistoryEvent.seq, seq ∈ List.range slots.length := by
    simp only [List.mem_map, List.mem_range]
    rintro _ ⟨event, member, rfl⟩
    obtain ⟨slot, placed, -⟩ := consistent.resolves event member
    exact (List.getElem?_eq_some_iff.mp placed).1
  simpa using (List.subperm_of_subset consistent.distinct within).length_le

theorem resultEvent_resolves {oracle : Oracle} {result : Except StepError (Option Value)}
    (same : result = oracle command.seq) :
    Resolves oracle command.slot (command.resultEvent result) := by
  subst same
  cases command <;>
    exact ⟨rfl, by simp [WorkflowCommand.resultEvent, WorkflowCommand.slot, WorkflowCommand.name],
      by simp [WorkflowCommand.resultEvent, WorkflowCommand.slot, WorkflowCommand.name,
        WorkflowCommand.kind], rfl, rfl⟩

section Turns

variable {bodies : String → Option WorkflowBody} {task : WorkflowTask} {body : WorkflowBody}
  {oracle : Oracle} {settled : Except Thrown (Option Value)} {enough : Nat} {options : TurnOptions}
  {fuel : Nat} {decision : WorkflowDecision} {ran : List Nat} {final : TurnState} {taskId : String}

/-- The positions a body claims in an interpretation with this much fuel. -/
abbrev bodySlots (task : WorkflowTask) (body : WorkflowBody) (oracle : Oracle) (fuel : Nat) :
    List Slot :=
  claimed (body task.input) oracle fuel [] 0

theorem turn_emits (waits : WaitsAll (body task.input))
    (interpreted : direct (body task.input) oracle enough [] 0 = some settled)
    (consistent : Consistent oracle (bodySlots task body oracle enough) iteration)
    (live : Uncancelled options) (captures : Captures oracle ⟨iteration.history, [], options⟩)
    {ended : TurnEnd}
    (finished : runBody (body task.input) ⟨iteration.history, [], options⟩ fuel [] {} =
      some (ended, final)) :
    ∃ emitted, Emits ⟨iteration.history, [], options⟩ oracle 0 (bodySlots task body oracle enough) {}
        final emitted ∧
      ((ended = endOf settled ∧ ∀ command ∈ emitted, command.records = true) ∨
        (ended = .suspended ∧ ∃ command ∈ emitted, command.records = false)) := by
  -- With fuel for both, the turn is the one the simulation speaks about.
  obtain ⟨same, claims⟩ := direct_mono (Nat.le_max_left enough fuel) [] 0 settled interpreted
  have agrees := consistent.agrees options
  rw [bodySlots, ← claims] at agrees
  obtain ⟨ended', final', emitted, ran, emits, outcome⟩ :=
    runBody_sim live captures rfl waits (max enough fuel) [] {} settled same agrees
  rw [runBody_mono (Nat.le_max_right enough fuel) [] {} _ finished] at ran
  cases ran
  rw [bodySlots, ← claims]
  exact ⟨emitted, emits, outcome⟩

theorem recordedEvents_seq (commands : List WorkflowCommand) :
    (recordedEvents commands).map HistoryEvent.seq =
      (commands.filter WorkflowCommand.records).map WorkflowCommand.seq := by
  induction commands with
  | nil => rfl
  | cons command rest ih =>
    unfold recordedEvents at ih ⊢
    cases held : command.recorded <;>
      simp [WorkflowCommand.records, held, ih, WorkflowCommand.resultEvent]

/-- A turn that does not settle the run leaves it consistent. -/
theorem Consistent.afterTurn (consistent : Consistent oracle slots iteration)
    (emits : Emits ⟨iteration.history, [], options⟩ oracle 0 slots {} final decision.commands)
    (counted : ran = final.ran) : Consistent oracle slots (iteration.afterTurn decision ran) := by
  have ran : ran = (recordedEvents decision.commands).map HistoryEvent.seq := by
    rw [counted, emits.ran, recordedEvents_seq]
    rfl
  have fresh : ∀ event ∈ recordedEvents decision.commands, ∀ held ∈ iteration.history,
      held.seq ≠ event.seq := by
    simp only [recordedEvents, List.mem_filterMap, Option.map_eq_some_iff]
    rintro _ ⟨command, member, result, -, rfl⟩
    exact entryAt_eq_none.mp (emits.fresh command member)
  have ordered : ((recordedEvents decision.commands).map HistoryEvent.seq).Nodup := by
    rw [recordedEvents_seq]
    exact (emits.ordered.sublist (List.Sublist.map _ List.filter_sublist)).imp Nat.ne_of_lt
  refine ⟨?_, ?_, ?_, ?_, ?_, ?_, ?_⟩
  · -- The new events are the results of the turn's own recording commands.
    intro event member
    rcases List.mem_append.mp member with member | member
    · exact consistent.resolves event member
    · simp only [recordedEvents, List.mem_filterMap, Option.map_eq_some_iff] at member
      obtain ⟨command, listed, result, held, rfl⟩ := member
      exact ⟨command.slot, by
        simpa [WorkflowCommand.resultEvent] using (emits.placed command listed).2,
        resultEvent_resolves (emits.captured command listed result held)⟩
  · simp only [Iteration.afterTurn, List.map_append, List.nodup_append]
    refine ⟨consistent.distinct, ordered, ?_⟩
    simp only [List.mem_map]
    rintro _ ⟨held, old, rfl⟩ _ ⟨event, new, rfl⟩
    exact fresh event new held old
  · intro command member
    rcases List.mem_append.mp member with member | member
    · exact consistent.placed command member
    · simpa using (emits.placed command member).2
  · intro seq member
    simp only [Iteration.afterTurn, List.mem_append] at member ⊢
    rcases member with member | member
    · obtain ⟨event, held, same⟩ := consistent.recorded seq member
      exact ⟨event, .inl held, same⟩
    · rw [ran] at member
      obtain ⟨event, new, same⟩ := List.mem_map.mp member
      exact ⟨event, .inr new, same⟩
  · -- A body that ran before has its record, and this turn found none.
    simp only [Iteration.afterTurn, List.nodup_append]
    refine ⟨consistent.once, by rwa [ran], ?_⟩
    rintro left old right new rfl
    obtain ⟨held, recorded, same⟩ := consistent.recorded left old
    rw [ran] at new
    obtain ⟨event, member, again⟩ := List.mem_map.mp new
    exact fresh event member held recorded (by rw [same, again])
  · have counted := consistent.counted
    simp only [Iteration.afterTurn, List.length_append]
    omega
  · have paced := consistent.paced
    cases answered : iteration.answered <;>
      simp only [Iteration.afterTurn, answered, if_true, Bool.false_eq_true, if_false] at paced ⊢ <;>
      omega

theorem Consistent.afterResult (consistent : Consistent oracle slots iteration)
    (emitted : command ∈ iteration.emitted)
    (missing : ∀ event ∈ iteration.history, event.seq ≠ command.seq) :
    Consistent oracle slots (iteration.afterResult command (oracle command.seq)) := by
  refine ⟨?_, ?_, consistent.placed, ?_, consistent.once, ?_, ?_⟩
  · intro event member
    rcases List.mem_append.mp member with member | member
    · exact consistent.resolves event member
    · obtain rfl := List.mem_singleton.mp member
      exact ⟨command.slot, consistent.placed command emitted, resultEvent_resolves rfl⟩
  · simp only [Iteration.afterResult, List.map_append, List.nodup_append]
    refine ⟨consistent.distinct, by simp, ?_⟩
    simp only [List.mem_map]
    rintro _ ⟨held, old, rfl⟩ _ ⟨event, new, rfl⟩
    obtain rfl := List.mem_singleton.mp new
    exact missing held old
  · intro seq member
    obtain ⟨event, held, same⟩ := consistent.recorded seq member
    exact ⟨event, List.mem_append_left _ held, same⟩
  · have counted := consistent.counted
    simp only [Iteration.afterResult, List.length_append, List.length_singleton]
    omega
  · have paced := consistent.paced
    simp only [Iteration.afterResult, if_true]
    split at paced <;> omega

/-- The commands of a decision are those its turn accumulated. -/
@[simp] theorem decisionOf_commands (task : WorkflowTask) (ended : TurnEnd)
    (commands : List WorkflowCommand) : (decisionOf task ended commands).commands = commands := by
  rcases ended with _ | _ | _ | _ <;> first | rfl | skip
  rename_i error
  cases error <;> rfl

theorem runWorkflowTurn_inv (registered : bodies task.workflow = some body)
    (decided : runWorkflowTurn bodies (nextTask task taskId iteration.history) options fuel =
      some (decision, ran)) :
    ∃ ended final, runBody (body task.input) ⟨iteration.history, [], options⟩ fuel [] {} =
        some (ended, final) ∧
      decision = decisionOf (nextTask task taskId iteration.history) ended final.commands ∧
      ran = final.ran := by
  simp only [runWorkflowTurn, nextTask, registered] at decided
  cases finished : runBody (body task.input) ⟨iteration.history, [], options⟩ fuel [] {} with
  | none => simp [finished] at decided
  | some result =>
    obtain ⟨ended, final⟩ := result
    simp only [finished, Option.some.injEq, Prod.mk.injEq] at decided
    exact ⟨ended, final, rfl, decided.1.symm, decided.2.symm⟩

theorem iterates_consistent (registered : bodies task.workflow = some body)
    (waits : WaitsAll (body task.input))
    (interpreted : direct (body task.input) oracle enough [] 0 = some settled)
    (reached : Iterates bodies task oracle iteration) :
    Consistent oracle (bodySlots task body oracle enough) iteration := by
  -- The induction follows the alternation of turns and results.
  induction reached with
  | start => exact ⟨by simp, by simp, by simp, by simp, by simp, by simp, by simp⟩
  | turn reached live captures decided continues ih =>
    obtain ⟨ended, final, finished, rfl, same⟩ := runWorkflowTurn_inv registered decided
    obtain ⟨emitted, emits, -⟩ := turn_emits waits interpreted ih live captures finished
    have all : final.commands = emitted := by simpa using emits.commands
    subst all
    exact ih.afterTurn (by simpa using emits) same
  | result reached emitted asks missing ih => exact ih.afterResult emitted missing
  | reorder reached shuffled ih =>
    refine ⟨fun event member => ih.resolves event (shuffled.mem_iff.mpr member),
      (shuffled.map _).nodup_iff.mp ih.distinct, ih.placed, fun seq member => ?_, ih.once, ?_,
      ih.paced⟩
    · obtain ⟨event, held, same⟩ := ih.recorded seq member
      exact ⟨event, shuffled.mem_iff.mp held, same⟩
    · simpa [← shuffled.length_eq] using ih.counted

theorem Consistent.refines (registered : bodies task.workflow = some body)
    (waits : WaitsAll (body task.input))
    (interpreted : direct (body task.input) oracle enough [] 0 = some settled)
    (consistent : Consistent oracle (bodySlots task body oracle enough) iteration)
    (live : Uncancelled options) (captures : Captures oracle ⟨iteration.history, [], options⟩)
    (decided : runWorkflowTurn bodies (nextTask task taskId iteration.history) options fuel =
      some (decision, ran)) : Refines settled iteration decision ran := by
  obtain ⟨ended, final, finished, rfl, same⟩ := runWorkflowTurn_inv registered decided
  obtain ⟨emitted, emits, outcome⟩ := turn_emits waits interpreted consistent live captures finished
  have all : final.commands = emitted := by simpa using emits.commands
  subst all
  have after : Consistent oracle (bodySlots task body oracle enough) (iteration.afterTurn
      (decisionOf (nextTask task taskId iteration.history) ended final.commands) ran) :=
    consistent.afterTurn (by simpa using emits) same
  refine ⟨?_, ?_, ?_, after.once⟩
  · rcases outcome with ⟨rfl, -⟩ | ⟨rfl, command, member, asks⟩
    · refine .inl ?_
      rcases settled with (_ | _) | _ <;> exact ⟨rfl, by trivial⟩
    · exact .inr ⟨rfl, command, member, asks⟩
  · intro command member
    exact entryAt_eq_none.mp (emits.fresh command (by simpa using member))
  · -- The slot at a position is one kind and one name, whichever turn commands it.
    intro command member other listed position
    have own := after.placed command (List.mem_append_right _ member)
    have others := after.placed other listed
    rw [position, own] at others
    simp only [WorkflowCommand.slot, Option.some.injEq, Slot.mk.injEq] at others
    exact ⟨others.1.symm, others.2.symm⟩

end Turns

/-- A body that catches a failed fan, captures a value, sleeps, and returns the capture. -/
def fanThenCapture : WorkflowBody := fun _ seen =>
  match seen with
  | [] => .op (.gatherCalls [{ name := "charge" }, { name := "ship" }] .waitAll)
  | [.error _] => .op .sideEffect
  | [.error _, .ok (.one _)] => .op (.sleep 1000)
  | [.error _, .ok (.one captured), _] => .ret captured
  | _ => .ret none

def shipFails : Oracle
  | 1 => .error { message := "no stock" }
  | 2 => .ok (some (.num 7))
  | _ => .ok none

/-- The run of `fanThenCapture` that its tests and the general theorem speak about. -/
def fanTask : WorkflowTask :=
  { taskId := "t", runId := "r", workflow := "order", input := none, history := [] }

/-- The options of a turn whose captured bodies do what the oracle says. -/
def fanOptions : TurnOptions where
  capture
    | 1 => .error { message := "no stock" }
    | 2 => .ok (some (.num 7))
    | _ => .ok none

/-- What a turn of the run decides, and which captured bodies it runs. -/
def fanTurn (history : List HistoryEvent) : WorkflowDecision × List Nat :=
  (runWorkflowTurn (fun _ => some fanThenCapture) (nextTask fanTask "t" history) fanOptions
    5).getD (noWorkflow fanTask, [])

def fanSent : Iteration := Iteration.afterTurn {} (fanTurn []).1 (fanTurn []).2

/-- The run after both results of the fan, the failed one first. -/
def fanSettled : Iteration :=
  (fanSent.afterResult (.call 1 "ship" "" none (some "gather:0")) (shipFails 1)).afterResult
    (.call 0 "charge" "" none (some "gather:0")) (shipFails 0)

theorem fanOptions_uncancelled : Uncancelled fanOptions := by
  intro cancelled set
  cases set

theorem fanOptions_captures (history : List HistoryEvent) :
    Captures shipFails ⟨history, [], fanOptions⟩ := by
  intro seq _
  rcases seq with _ | _ | _ | seq <;> rfl

theorem fanSettled_iterates :
    Iterates (fun _ => some fanThenCapture) fanTask shipFails fanSettled := by
  have sent : Iterates (fun _ => some fanThenCapture) fanTask shipFails fanSent :=
    @Iterates.turn _ _ _ {} "t" fanOptions 5 _ _ .start fanOptions_uncancelled
      (fanOptions_captures []) rfl rfl
  have shipped : Iterates (fun _ => some fanThenCapture) fanTask shipFails
      (fanSent.afterResult (.call 1 "ship" "" none (some "gather:0")) (shipFails 1)) :=
    .result sent (.tail _ (.head _)) rfl fun _ held => by cases held
  refine .result shipped (.head _) rfl fun event held => ?_
  rcases List.mem_singleton.mp held with rfl
  exact Nat.one_ne_zero

end Durable.Worker
