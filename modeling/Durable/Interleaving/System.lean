import Durable.Interleaving.Program

/-! Processes sharing one state: single-operation steps, crashes, and invariants over runs. -/

namespace Interleaving

/-- What a process does next: nothing, or one operation whose answer decides how it goes on. -/
inductive View (Op : Type) (Ans : Op → Type) (P : Type) where
  | done
  | call (op : Op) (next : Ans op → P)

/-- The next action of a program. -/
def Program.view {Op : Type} {Ans : Op → Type} {α : Type} :
    Program Op Ans α → View Op Ans (Program Op Ans α)
  | done _ => .done
  | call op next => .call op next

/-- Processes of type `P` over a shared state `S`, disturbed by moves of type `D`. -/
structure System (S Op P D : Type) (Ans : Op → Type) where
  view : P → View Op Ans P
  /-- What an operation does to the shared state, and its answer. -/
  exec : S → (op : Op) → S × Ans op
  /-- What a crash leaves of a process; `none` when it cannot crash. -/
  crash : P → Option P
  drift : D → S → S

/-- The shared state and the processes. -/
structure Config (S P : Type) where
  shared : S
  pool : List P

/-- One move of a system. -/
inductive Move (D : Type) where
  | step (index : Nat)
  | crash (index : Nat)
  | drift (disturbance : D)
deriving DecidableEq

variable {S Op P D : Type} {Ans : Op → Type} {move : Move D} {α : Type} {admits : S → Op → Prop}
  {exec : S → (op : Op) → S × Ans op} {index : Nat} {config : Config S (Program Op Ans α)}
  {drift : D → S → S} {holds : S → Prop}

namespace System

variable (sys : System S Op P D Ans)

/-- The configuration after a move, if the move is possible. -/
def fire (config : Config S P) : Move D → Option (Config S P)
  | .step index =>
    match config.pool[index]? with
    | none => none
    | some process =>
      match sys.view process with
      | .done => none
      | .call op next =>
        let executed := sys.exec config.shared op
        some ⟨executed.1, config.pool.set index (next executed.2)⟩
  | .crash index =>
    match config.pool[index]? with
    | none => none
    | some process =>
      match sys.crash process with
      | none => none
      | some rest => some ⟨config.shared, config.pool.set index rest⟩
  | .drift disturbance => some ⟨sys.drift disturbance config.shared, config.pool⟩

/-- The configuration after a list of moves, if all of them are possible. -/
def run (config : Config S P) : List (Move D) → Option (Config S P)
  | [] => some config
  | move :: moves =>
    match sys.fire config move with
    | none => none
    | some next => run next moves

/-- One configuration is reached from another by moves that all meet a condition. -/
inductive Reaches (allowed : Config S P → Move D → Prop) (start : Config S P) :
    Config S P → Prop where
  | refl : Reaches allowed start start
  | move {config next : Config S P} {move : Move D} (before : Reaches allowed start config)
      (meets : allowed config move) (fired : sys.fire config move = some next) :
      Reaches allowed start next

/-- The moves of a run may be of any kind. -/
def anyMove : Config S P → Move D → Prop := fun _ _ => True

/-- Every move of a list meets a condition where it is fired. -/
def RunMeets (allowed : Config S P → Move D → Prop) (config : Config S P) :
    List (Move D) → Prop
  | [] => True
  | move :: moves =>
    allowed config move ∧ ∀ next, sys.fire config move = some next → RunMeets allowed next moves

variable {sys} {allowed : Config S P → Move D → Prop} {start final : Config S P}

/-- What a move did: a process performed its next operation, it crashed, or the state drifted. -/
theorem fire_cases {config next : Config S P} (fired : sys.fire config move = some next) :
    (∃ index process op rest, move = .step index ∧ config.pool[index]? = some process ∧
        sys.view process = .call op rest ∧
        next = ⟨(sys.exec config.shared op).1,
          config.pool.set index (rest (sys.exec config.shared op).2)⟩) ∨
      (∃ index process rest, move = .crash index ∧ config.pool[index]? = some process ∧
        sys.crash process = some rest ∧ next = ⟨config.shared, config.pool.set index rest⟩) ∨
      (∃ disturbance, move = .drift disturbance ∧
        next = ⟨sys.drift disturbance config.shared, config.pool⟩) := by
  cases move with
  | step index =>
    simp only [fire] at fired
    cases located : config.pool[index]? with
    | none => simp [located] at fired
    | some process =>
      cases viewed : sys.view process with
      | done => simp [located, viewed] at fired
      | call op rest =>
        simp only [located, viewed, Option.some.injEq] at fired
        exact .inl ⟨index, process, op, rest, rfl, located, viewed, fired.symm⟩
  | crash index =>
    simp only [fire] at fired
    cases located : config.pool[index]? with
    | none => simp [located] at fired
    | some process =>
      cases crashed : sys.crash process with
      | none => simp [located, crashed] at fired
      | some rest =>
        simp only [located, crashed, Option.some.injEq] at fired
        exact .inr (.inl ⟨index, process, rest, rfl, located, crashed, fired.symm⟩)
  | drift disturbance =>
    simp only [fire, Option.some.injEq] at fired
    exact .inr (.inr ⟨disturbance, rfl, fired.symm⟩)

/-- Runs compose. -/
theorem Reaches.trans {middle : Config S P} (first : sys.Reaches allowed start middle)
    (second : sys.Reaches allowed middle final) : sys.Reaches allowed start final := by
  induction second with
  | refl => exact first
  | move _ meets fired ih => exact .move ih meets fired

/-- What holds at the start and is kept by every allowed move holds wherever a run leads. -/
theorem Reaches.invariant (holds : Config S P → Prop) (reached : sys.Reaches allowed start final)
    (initially : holds start) (kept : ∀ config move next, holds config → allowed config move →
      sys.fire config move = some next → holds next) : holds final := by
  induction reached with
  | refl => exact initially
  | move _ meets fired ih => exact kept _ _ _ ih meets fired

/-- A list of moves that can be fired, each meeting the condition, is a run. -/
theorem reaches_of_run_meets (moves : List (Move D)) (ran : sys.run start moves = some final)
    (meets : sys.RunMeets allowed start moves) : sys.Reaches allowed start final := by
  induction moves generalizing start with
  | nil =>
    cases ran
    exact .refl
  | cons move moves ih =>
    simp only [run] at ran
    cases fired : sys.fire start move with
    | none => simp [fired] at ran
    | some next =>
      simp only [fired] at ran
      exact Reaches.trans (.move .refl meets.1 fired) (ih ran (meets.2 next fired))

variable (sys) in
/-- Whether every move of a list passes a check where it is fired. -/
def checkRun (check : Config S P → Move D → Bool) (config : Config S P) : List (Move D) → Bool
  | [] => true
  | move :: moves =>
    check config move &&
      match sys.fire config move with
      | none => true
      | some next => checkRun check next moves

/-- Where a check is sound, a run whose moves all pass it meets the condition. -/
theorem runMeets_of_check {check : Config S P → Move D → Bool}
    (sound : ∀ config move, check config move = true → allowed config move)
    (moves : List (Move D)) : ∀ {start : Config S P}, sys.checkRun check start moves = true →
      sys.RunMeets allowed start moves := by
  induction moves with
  | nil => exact fun _ => trivial
  | cons move moves ih =>
    intro start checked
    simp only [checkRun, Bool.and_eq_true] at checked
    refine ⟨sound start move checked.1, fun next fired => ih ?_⟩
    simpa [fired] using checked.2

/-- Every move meets no condition. -/
theorem runMeets_anyMove (start : Config S P) (moves : List (Move D)) :
    sys.RunMeets anyMove start moves := by
  induction moves generalizing start with
  | nil => trivial
  | cons move moves ih => exact ⟨trivial, fun next _ => ih next⟩

/-- A list of moves that can be fired is a run. -/
theorem reaches_of_run (moves : List (Move D)) (ran : sys.run start moves = some final) :
    sys.Reaches anyMove start final :=
  reaches_of_run_meets moves ran (runMeets_anyMove start moves)

/-- A list of moves that can be fired leads where the run of the moves ends. -/
theorem reaches_get (moves : List (Move D)) (ran : (sys.run start moves).isSome) :
    sys.Reaches anyMove start ((sys.run start moves).get ran) :=
  reaches_of_run moves (Option.some_get ran).symm

end System

/-- A property of every process survives replacing one of them by one that has it. -/
theorem forall_mem_set {pool : List P} {holds : P → Prop} {replacement : P}
    (every : ∀ process ∈ pool, holds process) (new : holds replacement) :
    ∀ process ∈ pool.set index replacement, holds process := by
  intro process member
  rcases List.mem_or_eq_of_mem_set member with old | rfl
  · exact every process old
  · exact new

/-- Programs over a shared state, which do not crash, and an environment that disturbs the state. -/
def disturbed {α : Type} (exec : S → (op : Op) → S × Ans op) (drift : D → S → S) :
    System S Op (Program Op Ans α) D Ans where
  view := Program.view
  exec := exec
  crash := fun _ => none
  drift := drift

/-- Programs over a shared state, which neither crash nor are disturbed. -/
def programs {α : Type} (exec : S → (op : Op) → S × Ans op) :
    System S Op (Program Op Ans α) Empty Ans where
  view := Program.view
  exec := exec
  crash := fun _ => none
  drift := fun disturbance _ => disturbance.elim

/-- A move performs an operation only where the operation is admitted. -/
def Performs {α : Type} (admits : S → Op → Prop) (config : Config S (Program Op Ans α))
    (move : Move D) : Prop :=
  ∀ index program op next, move = .step index → config.pool[index]? = some program →
    Program.view program = .call op next → admits config.shared op

/-- A drift performs nothing. -/
theorem performs_drift (admits : S → Op → Prop) (config : Config S (Program Op Ans α))
    (disturbance : D) : Performs admits config (.drift disturbance) := by
  intro index program op next same
  cases same

/-- A step performs the next operation of its program. -/
theorem performs_step_iff {op : Op} {rest : Ans op → Program Op Ans α}
    (located : config.pool[index]? = some (.call op rest)) :
    Performs admits config (.step index : Move D) ↔ admits config.shared op := by
  constructor
  · intro performs
    exact performs index _ op rest rfl located rfl
  · intro admitted other program op' next same located' viewed
    cases same
    rw [located, Option.some.injEq] at located'
    subst located'
    cases viewed
    exact admitted

/-- Whether a move performs only what is admitted, where that can be decided. -/
def performsCheck {α : Type} (admits : S → Op → Bool) (config : Config S (Program Op Ans α)) :
    Move D → Bool
  | .step index =>
    match config.pool[index]? with
    | some (.call op _) => admits config.shared op
    | _ => true
  | _ => true

/-- A move that passes the check performs only what is admitted. -/
theorem performs_of_check {admits : S → Op → Bool}
    (checked : performsCheck admits config move = true) :
    Performs (fun shared op => admits shared op = true) config move := by
  intro index program op next same located viewed
  subst same
  cases program with
  | done result => cases viewed
  | call op' next' =>
    cases viewed
    simpa [performsCheck, located] using checked

/-- What a move of programs does: one performs its next operation, or the state drifts. -/
theorem disturbed_cases {next : Config S (Program Op Ans α)}
    (fired : (disturbed exec drift).fire config move = some next) :
    (∃ index op rest, move = .step index ∧ config.pool[index]? = some (.call op rest) ∧
        next = ⟨(exec config.shared op).1,
          config.pool.set index (rest (exec config.shared op).2)⟩) ∨
      (∃ disturbance, move = .drift disturbance ∧
        next = ⟨drift disturbance config.shared, config.pool⟩) := by
  rcases System.fire_cases fired with
    ⟨index, program, op, rest, rfl, located, viewed, rfl⟩ |
      ⟨index, process, rest, rfl, located, crashed, rfl⟩ | ⟨disturbance, rfl, rfl⟩
  · cases program with
    | done result => cases viewed
    | call op' next' =>
      cases viewed
      exact .inl ⟨index, op, rest, rfl, located, rfl⟩
  · cases crashed
  · exact .inr ⟨disturbance, rfl, rfl⟩

/--
An invariant of the shared state holds along every run of programs that call allowed operations.

Each operation has to keep it where the run's condition admits the operation, and so has a drift.
-/
theorem disturbed_invariant {allowed : Op → Prop}
    (kept : ∀ shared op, allowed op → admits shared op → holds shared → holds (exec shared op).1)
    (drifted : ∀ shared disturbance, holds shared → holds (drift disturbance shared))
    {start final : Config S (Program Op Ans α)}
    (uses : ∀ program ∈ start.pool, program.Uses allowed) (initially : holds start.shared)
    (reached : (disturbed exec drift).Reaches (Performs admits) start final) :
    holds final.shared ∧ ∀ program ∈ final.pool, program.Uses allowed := by
  -- A step replaces one program by its continuation, which calls only allowed operations too.
  refine reached.invariant
    (fun config => holds config.shared ∧ ∀ program ∈ config.pool, program.Uses allowed)
    ⟨initially, uses⟩ ?_
  rintro config move next ⟨holding, allUse⟩ admitted fired
  rcases disturbed_cases fired with ⟨index, op, rest, rfl, located, rfl⟩ | ⟨disturbance, rfl, rfl⟩
  · have own := allUse _ (List.mem_of_getElem? located)
    have permitted := (performs_step_iff located).mp admitted
    exact ⟨kept _ op own.1 permitted holding, forall_mem_set allUse (own.2 _)⟩
  · exact ⟨drifted _ _ holding, allUse⟩

/--
An invariant of the shared state holds along every run of programs that call allowed operations.

Each operation has to keep it where the run's condition admits the operation.
-/
theorem programs_invariant {allowed : Op → Prop}
    (kept : ∀ shared op, allowed op → admits shared op → holds shared → holds (exec shared op).1)
    {start final : Config S (Program Op Ans α)}
    (uses : ∀ program ∈ start.pool, program.Uses allowed) (initially : holds start.shared)
    (reached : (programs exec).Reaches
      (fun config move => ∀ index program op next, move = .step index →
        config.pool[index]? = some program → Program.view program = .call op next →
        admits config.shared op) start final) :
    holds final.shared ∧ ∀ program ∈ final.pool, program.Uses allowed := by
  -- Programs that nothing disturbs are programs with an environment that cannot move.
  have still : ∀ shared (disturbance : Empty), holds shared →
      holds ((programs exec : System S Op (Program Op Ans α) Empty Ans).drift disturbance shared) :=
    fun _ disturbance => disturbance.elim
  exact disturbed_invariant kept still uses initially reached

end Interleaving
