import Durable.Transport.AdaptiveConcurrency
import Mathlib.Tactic.Linarith
import Mathlib.Tactic.Ring

/-! The adaptive limit stays between its bounds and grows on evidence only. A worker that goes idle
keeps it, unless more than a fifth of its last steps failed. -/

namespace Durable.AdaptiveConcurrency

variable {worker : Worker} {config : AdaptiveConfig} {state next : State} {rss : ℚ}
  {stalled growOnly fresh : Bool}

section Decisions

variable {value high low asked : Nat}

theorem le_clamp (ordered : low ≤ high) : low ≤ clamp value low high :=
  Nat.le_min.mpr ⟨ordered, Nat.le_max_left ..⟩

theorem clamp_le : clamp value low high ≤ high := Nat.min_le_left ..

theorem clamp_eq (above : low ≤ value) (below : value ≤ high) : clamp value low high = value := by
  unfold clamp
  rw [Nat.max_eq_right above, Nat.min_eq_right below]

theorem AdaptiveConfig.ordered (config : AdaptiveConfig) : config.min ≤ config.max :=
  Nat.le_trans config.startsAbove config.startsBelow

theorem signal_grow (found : signal worker config state rss stalled fresh = some (asked, .grow)) :
    state.saturated = true ∧ ceilingReached worker config state rss = false := by
  unfold signal at found
  dsimp only at found
  split at found
  · cases found
  rename_i memory
  split at found
  · cases found
  rename_i processor
  split at found
  · cases found
  split at found
  · cases found
  split at found
  · rename_i guard
    refine ⟨guard.2.2, ?_⟩
    simp only [ceilingReached, memory, decide_false, Bool.false_or]
    simpa using processor
  · cases found

theorem signal_le {reason : Reason} (above : config.min ≤ state.currentLimit)
    (found : signal worker config state rss stalled fresh = some (asked, reason))
    (other : reason ≠ .grow) : asked ≤ state.currentLimit := by
  unfold signal at found
  dsimp only at found
  split at found
  · cases found
    omega
  split at found
  · cases found
    omega
  split at found
  · cases found
    omega
  split at found
  · cases found
    omega
  split at found
  · cases found
    exact absurd rfl other
  · cases found

theorem signal_stale (free : ceilingReached worker config state rss = false) :
    signal worker config state rss false false =
      if 1 / 5 < state.errorRate then
        some (max config.min (state.currentLimit - 1), .backpressure)
      else none := by
  obtain ⟨memory, processor⟩ := Bool.or_eq_false_iff.mp free
  have memory : ¬ config.ramCeilingPct ≤ worker.rssPct rss := of_decide_eq_false memory
  unfold signal
  dsimp only
  rw [if_neg memory, if_neg (by simpa using processor)]
  simp

theorem decideLimit_frame :
    let next := decideLimit worker config state rss stalled growOnly fresh
    next.inFlightCount = state.inFlightCount ∧ next.window = state.window ∧
      next.cpuPct = state.cpuPct ∧ next.stepsThisTick = state.stepsThisTick ∧
      next.lastCpuUsage = state.lastCpuUsage := by
  unfold decideLimit
  dsimp only
  split
  · exact ⟨rfl, rfl, rfl, rfl, rfl⟩
  · split
    · exact ⟨rfl, rfl, rfl, rfl, rfl⟩
    · split
      · exact ⟨rfl, rfl, rfl, rfl, rfl⟩
      · exact ⟨rfl, rfl, rfl, rfl, rfl⟩

theorem decideLimit_within (above : config.min ≤ state.currentLimit)
    (below : state.currentLimit ≤ config.max) :
    config.min ≤ (decideLimit worker config state rss stalled growOnly fresh).currentLimit ∧
      (decideLimit worker config state rss stalled growOnly fresh).currentLimit ≤ config.max := by
  unfold decideLimit
  dsimp only
  split
  · exact ⟨above, below⟩
  · split
    · exact ⟨above, below⟩
    · split
      · exact ⟨above, below⟩
      · exact ⟨le_clamp config.ordered, clamp_le⟩

theorem decideLimit_grows (above : config.min ≤ state.currentLimit)
    (grows : state.currentLimit <
      (decideLimit worker config state rss stalled growOnly fresh).currentLimit) :
    state.saturated = true ∧ ceilingReached worker config state rss = false := by
  unfold decideLimit at grows
  dsimp only at grows
  split at grows
  · exact absurd grows (Nat.lt_irrefl _)
  · rename_i asked reason found
    split at grows
    · exact absurd grows (Nat.lt_irrefl _)
    · split at grows
      · exact absurd grows (Nat.lt_irrefl _)
      · by_cases same : reason = .grow
        · subst same
          exact signal_grow found
        · -- What asks for no higher limit is clamped to no higher one.
          have asked := signal_le above found same
          dsimp only [clamp] at grows
          omega

/-- Without new evidence, and below the ceilings, the limit moves exactly if more than a fifth of
the steps in the window failed, and it is not the lower bound. -/
theorem decideLimit_stale (above : config.min ≤ state.currentLimit)
    (below : state.currentLimit ≤ config.max)
    (free : ceilingReached worker config state rss = false) :
    (decideLimit worker config state rss false false false).currentLimit = state.currentLimit ↔
      ¬ 1 / 5 < state.errorRate ∨ state.currentLimit = config.min := by
  have positive := config.positive
  unfold decideLimit
  dsimp only
  rw [signal_stale free]
  by_cases failing : 1 / 5 < state.errorRate
  · have plain : (¬ 1 / 5 < state.errorRate ∨ state.currentLimit = config.min) ↔
        state.currentLimit = config.min := by
      simp only [failing, not_true_eq_false, false_or]
    have lowered : clamp (max config.min (state.currentLimit - 1)) config.min config.max =
        max config.min (state.currentLimit - 1) :=
      clamp_eq (Nat.le_max_left ..) (by omega)
    rw [if_pos failing, plain]
    dsimp only
    rw [lowered]
    split
    · rename_i same
      simp only [true_iff]
      omega
    · simp only [Bool.false_and, Bool.false_eq_true, if_false]
      omega
  · rw [if_neg failing]
    constructor
    · intro _
      exact .inl failing
    · intro _
      rfl

end Decisions

section Calls

variable {durationMs : ℚ} {ok : Bool} {kind : Kind} {cpu : CpuUsage} {call : Call}

def Call.readsRss : Call → Option ℚ
  | .onSettle _ _ _ rss => some rss
  | .tick rss _ => some rss
  | _ => none

/-- A call that moves the limit decides it, from a state with the same limit and the same tasks in
flight, and with the processor time that the state has afterwards. -/
structure Decided (worker : Worker) (state : State) (call : Call) (next : State)
    (config : AdaptiveConfig) (rss : ℚ) (before : State) : Prop where
  adaptive : worker.resolved = .adaptive config
  reads : call.readsRss = some rss
  limit : before.currentLimit = state.currentLimit
  inFlight : before.inFlightCount = state.inFlightCount
  cpuPct : before.cpuPct = next.cpuPct
  decides : ∃ stalled growOnly fresh, next.currentLimit =
    (decideLimit worker config before rss stalled growOnly fresh).currentLimit

theorem refreshRttLong_frame {fresh : Prop} [Decidable fresh] :
    let next := if fresh then state.refreshRttLong else state
    next.currentLimit = state.currentLimit ∧ next.inFlightCount = state.inFlightCount ∧
      next.cpuPct = state.cpuPct ∧ next.lastCpuUsage = state.lastCpuUsage := by
  dsimp only
  split
  · unfold State.refreshRttLong
    split
    · exact ⟨rfl, rfl, rfl, rfl⟩
    · split
      · exact ⟨rfl, rfl, rfl, rfl⟩
      · exact ⟨rfl, rfl, rfl, rfl⟩
  · exact ⟨rfl, rfl, rfl, rfl⟩

theorem sampleCpu_frame {elapsedMs : Nat} :
    let next := sampleCpu worker state elapsedMs cpu
    next.currentLimit = state.currentLimit ∧ next.inFlightCount = state.inFlightCount ∧
      next.window = state.window ∧ next.stepsThisTick = state.stepsThisTick ∧
      next.lastCpuUsage = some cpu := by
  unfold sampleCpu State.resetCpuBaseline
  dsimp only
  split
  · exact ⟨rfl, rfl, rfl, rfl, rfl⟩
  · split
    · exact ⟨rfl, rfl, rfl, rfl, rfl⟩
    · exact ⟨rfl, rfl, rfl, rfl, rfl⟩

theorem onSettle_cases :
    let call := Call.onSettle durationMs ok kind rss
    (perform worker state call).currentLimit = state.currentLimit ∨
      ∃ config rss before, Decided worker state call (perform worker state call) config rss
        before := by
  dsimp only [perform, onSettle]
  cases kind with
  | workflow => exact .inl rfl
  | step =>
    dsimp only
    unfold onSettleStep
    dsimp only
    split
    · exact .inl rfl
    · rename_i config adaptive
      split
      · -- A limit's worth of steps has settled, and the limit has never moved down.
        right
        refine ⟨config, rss, _, adaptive, rfl, ?_, ?_, ?_, _, _, _, rfl⟩
        · exact refreshRttLong_frame.1
        · exact refreshRttLong_frame.2.1
        · exact decideLimit_frame.2.2.1.symm
      · exact .inl rfl

theorem tick_cases :
    let call := Call.tick rss cpu
    (perform worker state call).currentLimit = state.currentLimit ∨
      ∃ config rss before, Decided worker state call (perform worker state call) config rss
        before := by
  dsimp only [perform]
  unfold tick
  split
  · exact .inl rfl
  · rename_i config adaptive
    right
    refine ⟨config, rss, _, adaptive, rfl, ?_, ?_, ?_, _, _, _, rfl⟩
    · exact refreshRttLong_frame.1.trans sampleCpu_frame.1
    · exact refreshRttLong_frame.2.1.trans sampleCpu_frame.2.1
    · exact decideLimit_frame.2.2.1.symm

theorem perform_cases (worker : Worker) (state : State) (call : Call) :
    (perform worker state call).currentLimit = state.currentLimit ∨
    ∃ config rss before, Decided worker state call (perform worker state call) config rss
      before := by
  cases call with
  | start cpu =>
    left
    dsimp only [perform, start]
    split
    · rfl
    · rfl
  | onStart => exact .inl rfl
  | onSettle durationMs ok kind rss => exact onSettle_cases
  | tick rss cpu => exact tick_cases

/-- The processor time is known only where there is a sample to compare with. -/
def State.Sampled (state : State) : Prop := state.lastCpuUsage = none → state.cpuPct = none

theorem State.Sampled.congr (sampled : state.Sampled)
    (last : next.lastCpuUsage = state.lastCpuUsage) (pct : next.cpuPct = state.cpuPct) :
    next.Sampled := by
  intro none
  rw [pct]
  exact sampled (last ▸ none)

theorem perform_sampled (sampled : state.Sampled) : (perform worker state call).Sampled := by
  cases call with
  | start cpu =>
    dsimp only [perform, start]
    split
    · exact sampled
    · intro none
      cases none
  | onStart => exact sampled
  | onSettle durationMs ok kind rss =>
    cases kind with
    | workflow => exact sampled
    | step =>
      dsimp only [perform, onSettle]
      unfold onSettleStep
      dsimp only
      split
      · exact sampled
      · split
        · apply State.Sampled.congr ?_ decideLimit_frame.2.2.2.2 decideLimit_frame.2.2.1
          exact State.Sampled.congr sampled refreshRttLong_frame.2.2.2 refreshRttLong_frame.2.2.1
        · exact sampled
  | tick rss cpu =>
    dsimp only [perform]
    unfold tick
    split
    · exact sampled
    · -- The tick has just taken a sample.
      apply State.Sampled.congr ?_ decideLimit_frame.2.2.2.2 decideLimit_frame.2.2.1
      intro none
      have kept := refreshRttLong_frame.2.2.2.symm.trans none
      rw [sampleCpu_frame.2.2.2.2] at kept
      cases kept

end Calls

section Idle

variable {cpu : CpuUsage}

/-- The limits that a worker may have. -/
def Worker.Allows (worker : Worker) (limit : Nat) : Prop :=
  match worker.resolved with
  | .fixed fixed => limit = fixed
  | .adaptive config => config.min ≤ limit ∧ limit ≤ config.max

/-- Whether the memory or the processor time is at its ceiling. -/
def braked (worker : Worker) (state : State) (rss : ℚ) : Bool :=
  match worker.resolved with
  | .fixed _ => false
  | .adaptive config => ceilingReached worker config state rss

/-- No task is in flight, and no step has settled since the last tick. -/
def State.Idle (state : State) : Prop := state.inFlightCount = 0 ∧ state.stepsThisTick = 0

/-- What a tick reads. -/
structure Reading where
  rss : ℚ
  cpu : CpuUsage

/-- Ticks one after the other move the limit through a ceiling only. -/
def KeptByTicks (worker : Worker) : State → List Reading → Prop
  | _, [] => True
  | state, reading :: rest =>
    let next := tick worker state reading.rss reading.cpu
    (next.currentLimit = state.currentLimit ∨ braked worker next reading.rss = true) ∧
      KeptByTicks worker next rest

/-- At most a fifth of the steps in the window failed, or the limit is at its lower bound. -/
def Settled (worker : Worker) (state : State) : Prop :=
  match worker.resolved with
  | .fixed _ => True
  | .adaptive config =>
    5 * state.errors ≤ state.window.length ∨ state.currentLimit = config.min

theorem errorRate_iff : 1 / 5 < state.errorRate ↔ state.window.length < 5 * state.errors := by
  unfold State.errorRate
  split
  · rename_i empty
    have none : state.errors = 0 := by
      unfold State.errors
      rw [List.length_eq_zero_iff.mp empty]
      rfl
    rw [empty, none]
    norm_num
  · rename_i some
    have positive : (0 : ℚ) < state.window.length := by
      exact_mod_cast Nat.pos_of_ne_zero some
    rw [lt_div_iff₀ positive]
    constructor
    · intro more
      have more : (state.window.length : ℚ) < 5 * state.errors := by linarith
      exact_mod_cast more
    · intro more
      have more : (state.window.length : ℚ) < 5 * state.errors := by exact_mod_cast more
      linarith

theorem tick_idle (rss : ℚ) (cpu : CpuUsage) (adaptive : worker.resolved = .adaptive config)
    (idle : state.Idle) :
    ∃ before, tick worker state rss cpu =
        decideLimit worker config before rss false false false ∧
      before.currentLimit = state.currentLimit ∧ before.window = state.window ∧ before.Idle ∧
      before.cpuPct = (sampleCpu worker state config.tickMs cpu).cpuPct := by
  have limit : (sampleCpu worker state config.tickMs cpu).currentLimit = state.currentLimit :=
    sampleCpu_frame.1
  have inFlight : (sampleCpu worker state config.tickMs cpu).inFlightCount = 0 :=
    sampleCpu_frame.2.1.trans idle.1
  have window : (sampleCpu worker state config.tickMs cpu).window = state.window :=
    sampleCpu_frame.2.2.1
  have steps : (sampleCpu worker state config.tickMs cpu).stepsThisTick = 0 :=
    sampleCpu_frame.2.2.2.1.trans idle.2
  unfold tick
  rw [adaptive]
  dsimp only
  generalize sampleCpu worker state config.tickMs cpu = sampled at limit inFlight window steps ⊢
  -- Nothing is new, and without a task in flight nothing stalls.
  simp only [steps, inFlight, Nat.lt_irrefl, decide_false, Bool.false_eq_true, if_false, false_and]
  exact ⟨_, rfl, limit, window, ⟨rfl, rfl⟩, rfl⟩

/-- What an idle tick leaves. -/
structure AfterIdleTick (worker : Worker) (state next : State) : Prop where
  window : next.window = state.window
  idle : next.Idle
  lowers : next.currentLimit ≤ state.currentLimit
  allows : worker.Allows next.currentLimit

theorem idle_tick (allowed : worker.Allows state.currentLimit) (idle : state.Idle) :
    AfterIdleTick worker state (tick worker state rss cpu) := by
  cases adaptive : worker.resolved with
  | fixed limit =>
    unfold tick
    rw [adaptive]
    exact ⟨rfl, idle, Nat.le_refl _, allowed⟩
  | adaptive config =>
    obtain ⟨before, ticked, limit, window, still, -⟩ := tick_idle rss cpu adaptive idle
    have bounds := allowed
    unfold Worker.Allows at bounds
    rw [adaptive, ← limit] at bounds
    rw [ticked]
    refine ⟨decideLimit_frame.2.1.trans window, ⟨?_, ?_⟩, ?_, ?_⟩
    · exact decideLimit_frame.1.trans still.1
    · exact decideLimit_frame.2.2.2.1.trans still.2
    · rw [← limit]
      by_contra grows
      -- The limit is raised where most slots are in use, and none is.
      have used := (decideLimit_grows bounds.1 (Nat.lt_of_not_le grows)).1
      have positive := config.positive
      have least := bounds.1
      simp only [State.saturated, still.1, decide_eq_true_eq] at used
      omega
    · unfold Worker.Allows
      rw [adaptive]
      exact decideLimit_within bounds.1 bounds.2

theorem tick_kept_iff (adaptive : worker.resolved = .adaptive config)
    (allowed : worker.Allows state.currentLimit) (idle : state.Idle)
    (free : braked worker (tick worker state rss cpu) rss = false) :
    (tick worker state rss cpu).currentLimit = state.currentLimit ↔ Settled worker state := by
  obtain ⟨before, ticked, limit, window, -, -⟩ := tick_idle rss cpu adaptive idle
  have bounds := allowed
  unfold Worker.Allows at bounds
  unfold braked at free
  rw [adaptive] at bounds free
  dsimp only at bounds free
  rw [← limit] at bounds
  have known : ceilingReached worker config before rss = false := by
    rw [ticked] at free
    unfold ceilingReached at free ⊢
    rw [decideLimit_frame.2.2.1] at free
    exact free
  have errors : before.errors = state.errors := by
    unfold State.errors
    rw [window]
  have settled : Settled worker state ↔
      ¬ 1 / 5 < before.errorRate ∨ before.currentLimit = config.min := by
    unfold Settled
    rw [adaptive, errorRate_iff, window, errors, limit, Nat.not_lt]
  rw [ticked, settled, ← limit]
  exact decideLimit_stale bounds.1 bounds.2 known

theorem Settled.tick (settled : Settled worker state)
    (after : AfterIdleTick worker state next) : Settled worker next := by
  unfold Settled at settled ⊢
  have still := after.allows
  have lowers := after.lowers
  have errors : next.errors = state.errors := by
    unfold State.errors
    rw [after.window]
  unfold Worker.Allows at still
  split at settled
  · trivial
  · rename_i config adaptive
    rw [adaptive] at still
    dsimp only at still
    rw [after.window, errors]
    rcases settled with few | least
    · exact .inl few
    · right
      omega

theorem keptByTicks (readings : List Reading) (allowed : worker.Allows state.currentLimit)
    (idle : state.Idle) (settled : Settled worker state) :
    KeptByTicks worker state readings := by
  induction readings generalizing state with
  | nil => trivial
  | cons reading rest ih =>
    have after : AfterIdleTick worker state (tick worker state reading.rss reading.cpu) :=
      idle_tick allowed idle
    refine ⟨?_, ih after.allows after.idle (settled.tick after)⟩
    cases adaptive : worker.resolved with
    | fixed limit =>
      left
      unfold AdaptiveConcurrency.tick
      rw [adaptive]
    | adaptive config =>
      by_cases held : braked worker (tick worker state reading.rss reading.cpu) reading.rss = true
      · exact .inr held
      · left
        have free := eq_false_of_ne_true held
        exact (tick_kept_iff adaptive allowed idle free).mpr settled

/-- What a tick reads that uses no memory, and for which no processor time was spent. -/
def State.quiet (state : State) : Reading := ⟨0, state.lastCpuUsage.getD ⟨0, 0⟩⟩

theorem quiet_free (sampled : state.Sampled) (idle : state.Idle) :
    braked worker (tick worker state state.quiet.rss state.quiet.cpu) state.quiet.rss = false := by
  unfold braked
  split
  · rfl
  · rename_i config adaptive
    obtain ⟨before, ticked, -, -, -, pct⟩ :=
      tick_idle state.quiet.rss state.quiet.cpu adaptive idle
    have none : before.cpuPct.getD 0 ≤ 0 := by
      rw [pct]
      unfold sampleCpu State.resetCpuBaseline State.quiet
      cases last : state.lastCpuUsage with
      | none => simp [sampled last]
      | some previous =>
        dsimp only
        have lasts := config.tickPositive
        rw [if_neg (by omega)]
        simp
    have memory : worker.rssPct state.quiet.rss = 0 := by
      unfold Worker.rssPct State.quiet
      split
      · rfl
      · simp
    rw [ticked]
    unfold ceilingReached
    rw [decideLimit_frame.2.2.1, memory, Bool.or_eq_false_iff]
    constructor
    · exact decide_eq_false (not_le.mpr config.ramPositive)
    · rw [Option.any_eq_false]
      intro ceiling held
      have positive := config.cpuPositive ceiling held
      exact decide_eq_false (not_le.mpr (lt_of_le_of_lt none positive))

end Idle

section Theorem

/-- What holds in every state of a controller. -/
structure Good (worker : Worker) (state : State) : Prop where
  allows : worker.Allows state.currentLimit
  sampled : state.Sampled

theorem good_initial : Good worker worker.initial := by
  constructor
  · unfold Worker.Allows Worker.initial
    cases worker.resolved with
    | fixed limit => rfl
    | adaptive config => exact ⟨config.startsAbove, config.startsBelow⟩
  · intro _
    rfl

theorem good_perform (good : Good worker state) (call : Call) :
    Good worker (perform worker state call) := by
  refine ⟨?_, perform_sampled good.sampled⟩
  rcases perform_cases worker state call with kept | ⟨config, rss, before, decided⟩
  · rw [kept]
    exact good.allows
  · obtain ⟨stalled, growOnly, fresh, decides⟩ := decided.decides
    have bounds := good.allows
    unfold Worker.Allows at bounds ⊢
    rw [decided.adaptive, ← decided.limit] at bounds
    rw [decided.adaptive, decides]
    exact decideLimit_within bounds.1 bounds.2

theorem good_performAll (good : Good worker state) (calls : List Call) :
    Good worker (performAll worker calls state) := by
  induction calls generalizing state with
  | nil => exact good
  | cons call rest ih => exact ih (good_perform good call)

theorem perform_grows {call : Call} (good : Good worker state)
    (grows : state.currentLimit < (perform worker state call).currentLimit) :
    state.saturated = true ∧ ∃ rss, call.readsRss = some rss ∧
      braked worker (perform worker state call) rss = false := by
  rcases perform_cases worker state call with kept | ⟨config, rss, before, decided⟩
  · omega
  · obtain ⟨stalled, growOnly, fresh, decides⟩ := decided.decides
    have bounds := good.allows
    unfold Worker.Allows at bounds
    rw [decided.adaptive, ← decided.limit] at bounds
    rw [decides, ← decided.limit] at grows
    obtain ⟨used, free⟩ := decideLimit_grows bounds.1 grows
    constructor
    · unfold State.saturated at used ⊢
      rw [decided.limit, decided.inFlight] at used
      exact used
    · refine ⟨rss, decided.reads, ?_⟩
      unfold braked
      rw [decided.adaptive]
      unfold ceilingReached at free ⊢
      rw [decided.cpuPct] at free
      exact free

/-- What is promised of the limit in a state. -/
structure Steered (worker : Worker) (state : State) : Prop where
  within : worker.Allows state.currentLimit
  /-- It grows only where at least 80% of the slots are in use, and neither the memory nor the
  processor time is at its ceiling. -/
  grows : ∀ call, state.currentLimit < (perform worker state call).currentLimit →
    state.saturated = true ∧ ∃ rss, call.readsRss = some rss ∧
      braked worker (perform worker state call) rss = false
  /-- While no task is in flight and no step settles, the ticks move it through the ceilings only,
  exactly if at most a fifth of the last steps failed, or it is at its lower bound. -/
  idle : state.Idle → ((∀ readings, KeptByTicks worker state readings) ↔ Settled worker state)

/-- The adaptive limit stays between its bounds and grows on evidence only, for every option and
every sequence of calls and readings. A worker that goes idle keeps it up to the ceilings, exactly
if at most a fifth of the last steps failed, or the limit is at its lower bound. -/
theorem limit_steered (concurrency : Option ConcurrencyOption) (memoryLimitBytes : ℚ)
    (cpuCount : OptionNumber) (calls : List Call) :
    let worker := Worker.of concurrency memoryLimitBytes cpuCount
    Steered worker (performAll worker calls worker.initial) := by
  intro worker
  have good : Good worker (performAll worker calls worker.initial) :=
    good_performAll good_initial calls
  generalize performAll worker calls worker.initial = state at good
  refine ⟨good.allows, ?_, ?_⟩
  · intro call grows
    exact perform_grows good grows
  · intro idle
    constructor
    · intro kept
      cases adaptive : worker.resolved with
      | fixed limit =>
        unfold Settled
        rw [adaptive]
        trivial
      | adaptive config =>
        -- A tick that is below the ceilings shows that the window is settled.
        have free : braked worker (tick worker state state.quiet.rss state.quiet.cpu)
            state.quiet.rss = false :=
          quiet_free good.sampled idle
        have first := (kept [state.quiet]).1
        rw [free] at first
        have same := first.resolve_right Bool.false_ne_true
        exact (tick_kept_iff adaptive good.allows idle free).mp same
    · intro settled readings
      exact keptByTicks readings good.allows idle settled

/-- One step fails, and nothing is asked of the worker any more: each tick takes one off its limit,
down to the lower bound, with no memory in use and no processor time spent. -/
theorem failed_burst_sinks :
    let worker := Worker.of (some (.overrides { start := some (.finite 4) })) 1000 (.finite 1)
    let state := performAll worker
      [.onStart, .onSettle 100 false .step 0, .tick 0 ⟨0, 0⟩] worker.initial
    state.Idle ∧ state.currentLimit = 3 ∧
      (performAll worker [.tick 0 ⟨0, 0⟩, .tick 0 ⟨0, 0⟩] state).currentLimit = 1 ∧
      ¬ KeptByTicks worker state [⟨0, ⟨0, 0⟩⟩] := by
  intro worker state
  refine ⟨⟨by decide +kernel, by decide +kernel⟩, by decide +kernel, by decide +kernel, ?_⟩
  intro kept
  have moved : ¬ ((tick worker state 0 ⟨0, 0⟩).currentLimit = state.currentLimit ∨
      braked worker (tick worker state 0 ⟨0, 0⟩) 0 = true) := by
    decide +kernel
  exact moved kept.1

end Theorem

end Durable.AdaptiveConcurrency
