import Mathlib.Data.List.Perm.Basic
import Durable.Interleaving.Monitor
import Durable.Interleaving.System

/-! Processes that carry the phase of a monitor, and invariants over the phases of all of them. -/

namespace Interleaving

/-- A process: what is left of its program, and the phase its operations have led to. -/
structure Process (Op : Type) (Ans : Op → Type) (Φ α : Type) where
  phase : Φ
  rest : Program Op Ans α
  again : Option (Program Op Ans α) := none

variable {S Op D Φ α : Type} {Ans : Op → Type} {monitor : Monitor Op Ans Φ} {ends : Φ → α → Prop}
  {process : Process Op Ans Φ α} {result : α} {start : Config S (Process Op Ans Φ α)}
  {pool : List (Process Op Ans Φ α)} {index : Nat}

namespace Process

variable {program : Program Op Ans α} {phase : Φ}

/-- The program a process goes on with: what is left, or its program anew. -/
def current (process : Process Op Ans Φ α) : Program Op Ans α :=
  match process.rest, process.again with
  | .done _, some program => program
  | rest, _ => rest

/-- What a process does next; its phase follows the operation and its answer. -/
def view (monitor : Monitor Op Ans Φ) (process : Process Op Ans Φ α) :
    View Op Ans (Process Op Ans Φ α) :=
  match process.current with
  | .done _ => .done
  | .call op next => .call op fun answer =>
    { process with phase := monitor.advance process.phase op answer, rest := next answer }

/--
A process follows its monitor, in what is left and whenever it runs its program anew.

What it ends with each time is for the process itself to choose among the ends.
-/
def Follows (monitor : Monitor Op Ans Φ) (ends : Φ → α → Prop)
    (process : Process Op Ans Φ α) : Prop :=
  ∃ own : Φ → α → Prop, (∀ phase result, own phase result → ends phase result) ∧
    process.rest.Meets monitor own process.phase ∧
    ∀ program ∈ process.again, ∀ phase result, own phase result →
      program.Meets monitor own phase

/-- A process that runs one program follows its monitor when the program is met. -/
theorem follows_once (meets : program.Meets monitor ends phase) :
    Follows monitor ends { phase, rest := program } :=
  ⟨ends, fun _ _ ended => ended, meets, by simp⟩

/-- A process that runs a program again and again follows its monitor when each run is met. -/
theorem follows_again (own : Φ → α → Prop) (rested : own phase result)
    (widens : ∀ phase result, own phase result → ends phase result)
    (meets : ∀ phase result, own phase result → program.Meets monitor own phase) :
    Follows monitor ends { phase, rest := .done result, again := some program } := by
  refine ⟨own, widens, rested, ?_⟩
  rintro program' ⟨⟩
  exact meets

/-- A process that follows its monitor performs what is allowed, and follows it further. -/
theorem Follows.step (follows : process.Follows monitor ends) {op : Op}
    {next : Ans op → Process Op Ans Φ α} (viewed : process.view monitor = .call op next) :
    monitor.allows process.phase op ∧ ∀ answer,
      (next answer).phase = monitor.advance process.phase op answer ∧
        (monitor.expects process.phase op answer → (next answer).Follows monitor ends) := by
  obtain ⟨own, widens, leftover, anew⟩ := follows
  have meets : process.current.Meets monitor own process.phase := by
    unfold current
    split
    · rename_i result program finished repeated
      rw [finished] at leftover
      exact anew program (by simp [repeated]) process.phase result leftover
    · exact leftover
  unfold view at viewed
  cases shape : process.current with
  | done result => simp [shape] at viewed
  | call op' next' =>
    rw [shape] at meets viewed
    cases viewed
    exact ⟨meets.1, fun answer =>
      ⟨rfl, fun fits => ⟨own, widens, meets.2 answer fits, anew⟩⟩⟩

end Process

/-- A process is between two runs of its program, or done with the last one. -/
def Process.rests (process : Process Op Ans Φ α) : Bool := process.rest.isDone

/-- A process at rest has ended as it should. -/
theorem Process.Follows.ended (follows : process.Follows monitor ends)
    (rests : process.rests = true) : ∃ result, ends process.phase result := by
  obtain ⟨own, widens, leftover, -⟩ := follows
  obtain ⟨result, finished⟩ := Program.eq_done_of_isDone rests
  rw [finished] at leftover
  exact ⟨result, widens _ _ leftover⟩

/-- A process that has ended has ended as it should. -/
theorem Process.Follows.ended_with (follows : process.Follows monitor ends)
    (finished : process.rest = .done result) : ends process.phase result := by
  obtain ⟨own, widens, leftover, -⟩ := follows
  rw [finished] at leftover
  exact widens _ _ leftover

/-- The phases of a pool of processes. -/
def phases (pool : List (Process Op Ans Φ α)) : List Φ := pool.map Process.phase

/-- Processes over a shared state, each carrying the phase of a monitor. -/
def processes (monitor : Monitor Op Ans Φ) (exec : S → (op : Op) → S × Ans op)
    (crash : Process Op Ans Φ α → Option (Process Op Ans Φ α)) (drift : D → S → S) :
    System S Op (Process Op Ans Φ α) D Ans where
  view := Process.view monitor
  exec := exec
  crash := crash
  drift := drift

/-- A condition on moves, stated of the shared state, the moving process, and the others. -/
structure Admission (S Op Φ : Type) where
  /-- Whether a process in a phase may perform an operation beside the others. -/
  step : S → Φ → List Φ → Op → Prop := fun _ _ _ _ => True
  /-- Whether a process in a phase may crash beside the others. -/
  crash : S → Φ → List Φ → Prop := fun _ _ _ => True

/-- A move meets an admission's condition where it is made. -/
def Admission.permits (admission : Admission S Op Φ) (monitor : Monitor Op Ans Φ)
    (config : Config S (Process Op Ans Φ α)) : Move D → Prop
  | .step index => ∀ process op next, config.pool[index]? = some process →
      process.view monitor = .call op next →
        admission.step config.shared process.phase (phases (config.pool.eraseIdx index)) op
  | .crash index => ∀ process, config.pool[index]? = some process →
      admission.crash config.shared process.phase (phases (config.pool.eraseIdx index))
  | .drift _ => True

section Checked

variable (admission : Admission S Op Φ)
  [∀ shared phase others op, Decidable (admission.step shared phase others op)]
  [∀ shared phase others, Decidable (admission.crash shared phase others)]

/-- Whether a move meets an admission's condition, where that can be decided. -/
def Admission.admits (monitor : Monitor Op Ans Φ) (config : Config S (Process Op Ans Φ α)) :
    Move D → Bool
  | .step index =>
    match config.pool[index]? with
    | none => true
    | some process =>
      match process.view monitor with
      | .done => true
      | .call op _ =>
        decide (admission.step config.shared process.phase (phases (config.pool.eraseIdx index)) op)
  | .crash index =>
    match config.pool[index]? with
    | none => true
    | some process =>
      decide (admission.crash config.shared process.phase (phases (config.pool.eraseIdx index)))
  | .drift _ => true

/-- A move that is admitted is permitted. -/
theorem Admission.permits_of_admits {config : Config S (Process Op Ans Φ α)} {move : Move D}
    (admitted : admission.admits monitor config move = true) :
    admission.permits monitor config move := by
  cases move with
  | step index =>
    intro process op next located viewed
    simpa [admits, located, viewed] using admitted
  | crash index =>
    intro process located
    simpa [admits, located] using admitted
  | drift disturbance => trivial

/-- Whether every move of a list meets an admission's condition where it is made. -/
def Admission.admitsRun (monitor : Monitor Op Ans Φ)
    (sys : System S Op (Process Op Ans Φ α) D Ans) (config : Config S (Process Op Ans Φ α)) :
    List (Move D) → Bool
  | [] => true
  | move :: moves =>
    admission.admits monitor config move &&
      match sys.fire config move with
      | none => true
      | some next => admitsRun monitor sys next moves

/-- A list of moves that is admitted leads along permitted moves to where its run ends. -/
theorem Admission.reaches_get {sys : System S Op (Process Op Ans Φ α) D Ans}
    (moves : List (Move D)) (ran : (sys.run start moves).isSome)
    (admitted : admission.admitsRun monitor sys start moves = true) :
    sys.Reaches (admission.permits monitor) start ((sys.run start moves).get ran) := by
  refine System.reaches_of_run_meets moves (Option.some_get ran).symm ?_
  clear ran
  induction moves generalizing start with
  | nil => trivial
  | cons move moves ih =>
    simp only [admitsRun, Bool.and_eq_true] at admitted
    refine ⟨admission.permits_of_admits admitted.1, fun next fired => ih ?_⟩
    simpa [fired] using admitted.2

end Checked

/-- The phases of a pool, with one process's phase first. -/
theorem phases_perm (located : pool[index]? = some process) :
    (phases pool).Perm (process.phase :: phases (pool.eraseIdx index)) := by
  obtain ⟨within, rfl⟩ := List.getElem?_eq_some_iff.mp located
  exact (List.getElem_cons_eraseIdx_perm within).symm.map _

/-- The phases of a pool after one process has moved, with its phase first. -/
theorem phases_set_perm (located : pool[index]? = some process) (moved : Process Op Ans Φ α) :
    (phases (pool.set index moved)).Perm (moved.phase :: phases (pool.eraseIdx index)) := by
  obtain ⟨within, rfl⟩ := List.getElem?_eq_some_iff.mp located
  exact (List.set_perm_cons_eraseIdx within moved).map _

/--
An invariant of the shared state and the phases holds along every run of processes.

Each allowed operation of one process beside the others has to keep it, and to be answered as the
monitor expects. The order of the processes does not matter to it.
-/
theorem processes_invariant {exec : S → (op : Op) → S × Ans op}
    {crash : Process Op Ans Φ α → Option (Process Op Ans Φ α)} {drift : D → S → S}
    {admission : Admission S Op Φ} (ends : Φ → α → Prop) (holds : S → List Φ → Prop)
    (unordered : ∀ shared {before after : List Φ}, before.Perm after →
      holds shared before → holds shared after)
    (stepped : ∀ shared phase others op, holds shared (phase :: others) →
      monitor.allows phase op → admission.step shared phase others op →
        monitor.expects phase op (exec shared op).2 ∧
          holds (exec shared op).1 (monitor.advance phase op (exec shared op).2 :: others))
    (crashed : ∀ shared process others left, holds shared (process.phase :: others) →
      process.Follows monitor ends → crash process = some left →
      admission.crash shared process.phase others →
        left.Follows monitor ends ∧ holds shared (left.phase :: others))
    (drifted : ∀ shared every disturbance, holds shared every →
      holds (drift disturbance shared) every) {final : Config S (Process Op Ans Φ α)}
    (following : ∀ process ∈ start.pool, process.Follows monitor ends)
    (initially : holds start.shared (phases start.pool))
    (reached : (processes monitor exec crash drift).Reaches (admission.permits monitor) start final) :
    holds final.shared (phases final.pool) ∧
      ∀ process ∈ final.pool, process.Follows monitor ends := by
  refine reached.invariant
    (fun config => holds config.shared (phases config.pool) ∧
      ∀ process ∈ config.pool, process.Follows monitor ends) ⟨initially, following⟩ ?_
  rintro config move next ⟨holding, follow⟩ permitted fired
  rcases System.fire_cases fired with
    ⟨index, process, op, rest, rfl, located, viewed, rfl⟩ |
      ⟨index, process, left, rfl, located, fell, rfl⟩ | ⟨disturbance, rfl, rfl⟩
  · have own := (follow process (List.mem_of_getElem? located)).step viewed
    have kept := stepped config.shared process.phase _ op
      (unordered _ (phases_perm located) holding) own.1 (permitted process op rest located viewed)
    refine ⟨unordered _ (phases_set_perm located _).symm ?_,
      forall_mem_set follow ((own.2 _).2 kept.1)⟩
    have phase := (own.2 (exec config.shared op).2).1
    exact phase ▸ kept.2
  · have kept := crashed config.shared process _ left
      (unordered _ (phases_perm located) holding) (follow process (List.mem_of_getElem? located))
      fell (permitted process located)
    exact ⟨unordered _ (phases_set_perm located _).symm kept.2, forall_mem_set follow kept.1⟩
  · exact ⟨drifted _ _ _ holding, follow⟩

end Interleaving
