import Mathlib.Data.List.Sort
import Mathlib.Data.Rat.Floor

/-! The limit that an adaptive worker sets itself, from the latency and the failures of its last
steps, and from the memory and processor time that it uses. -/

namespace Durable.AdaptiveConcurrency

/-- A number that an option holds. -/
inductive OptionNumber where
  | finite (value : ℚ)
  | infinite (negative : Bool)
  | notANumber

/-- The tunables, each of which may be left out. -/
structure AdaptiveConcurrencyOptions where
  min : Option OptionNumber := none
  max : Option OptionNumber := none
  start : Option OptionNumber := none
  ramCeilingPct : Option OptionNumber := none
  cpuCeilingPct : Option OptionNumber := none
  tickMs : Option OptionNumber := none

/-- The `concurrency` option. -/
inductive ConcurrencyOption where
  | number (value : OptionNumber)
  | adaptive
  | overrides (options : AdaptiveConcurrencyOptions)

/-- The tunables with every default applied. -/
structure AdaptiveConfig where
  min : Nat
  max : Nat
  start : Nat
  ramCeilingPct : ℚ
  cpuCeilingPct : Option ℚ
  tickMs : Nat
  positive : 1 ≤ min
  startsAbove : min ≤ start
  startsBelow : start ≤ max
  ramPositive : 0 < ramCeilingPct
  cpuPositive : ∀ ceiling, cpuCeilingPct = some ceiling → 0 < ceiling
  tickPositive : 1 ≤ tickMs

/-- A limit that never moves, or the tunables of one that does. -/
inductive ResolvedConcurrency where
  | fixed (limit : Nat)
  | adaptive (config : AdaptiveConfig)

/-- `value`, or the bound that it is beyond. -/
def clamp (value low high : Nat) : Nat := min high (max low value)

/-- `value` floored when it is a finite number of at least 1, else `fallback`. -/
def wholeAtLeastOne (value : Option OptionNumber) (fallback : Nat) : Nat :=
  match value with
  | some (.finite value) => if 1 ≤ value then ⌊value⌋.toNat else fallback
  | _ => fallback

/-- `value` when it is a finite number above 0. -/
def finitePositive (value : Option OptionNumber) : Option ℚ :=
  match value with
  | some (.finite value) => if 0 < value then some value else none
  | _ => none

/-- A whole number of at least 1, if the fallback is. -/
theorem one_le_wholeAtLeastOne {value : Option OptionNumber} {fallback : Nat}
    (positive : 1 ≤ fallback) : 1 ≤ wholeAtLeastOne value fallback := by
  unfold wholeAtLeastOne
  split
  · split
    · rename_i value least
      have floored : 1 ≤ ⌊value⌋ := Int.le_floor.mpr (by exact_mod_cast least)
      omega
    · exact positive
  · exact positive

/-- What is kept is above 0. -/
theorem finitePositive_pos {value : Option OptionNumber} {kept : ℚ}
    (found : finitePositive value = some kept) : 0 < kept := by
  unfold finitePositive at found
  split at found
  · rw [Option.ite_none_right_eq_some] at found
    obtain ⟨positive, same⟩ := found
    obtain rfl := Option.some.inj same
    exact positive
  · cases found

/-- `resolveConcurrency`, for the tunables. -/
def resolveOverrides (overrides : AdaptiveConcurrencyOptions) : AdaptiveConfig :=
  let min := wholeAtLeastOne overrides.min 1
  let max := Max.max min (wholeAtLeastOne overrides.max 32)
  { min, max
    start := clamp (wholeAtLeastOne overrides.start min) min max
    ramCeilingPct := (finitePositive overrides.ramCeilingPct).getD 85
    cpuCeilingPct := finitePositive overrides.cpuCeilingPct
    tickMs := wholeAtLeastOne overrides.tickMs 2000
    positive := one_le_wholeAtLeastOne (Nat.le_refl 1)
    startsAbove := Nat.le_min.mpr ⟨Nat.le_max_left .., Nat.le_max_left ..⟩
    startsBelow := Nat.min_le_left ..
    ramPositive := by
      cases kept : finitePositive overrides.ramCeilingPct with
      | none => norm_num
      | some ceiling => exact finitePositive_pos kept
    cpuPositive := fun _ kept => finitePositive_pos kept
    tickPositive := one_le_wholeAtLeastOne (by omega) }

/-- Apply every default to the option. -/
def resolveConcurrency : Option ConcurrencyOption → ResolvedConcurrency
  | none => .fixed 1
  | some (.number value) => .fixed (wholeAtLeastOne (some value) 1)
  | some .adaptive => .adaptive (resolveOverrides {})
  | some (.overrides options) => .adaptive (resolveOverrides options)

/-- A step that has settled. -/
structure Completion where
  durationMs : ℚ
  ok : Bool

/-- The processor time that a process has used. -/
structure CpuUsage where
  user : ℚ
  system : ℚ

/-- Why the limit was moved. -/
inductive Reason where
  | ramCeiling | cpuCeiling | backpressure | shrink | grow
deriving Repr, DecidableEq

/-- The last move of the limit. -/
structure WorkerAdjust where
  old : Nat
  new : Nat
  reason : Reason
deriving Repr, DecidableEq

/-- What a task is. -/
inductive Kind where
  | workflow | step
deriving Repr, DecidableEq

/-- What stays as it is while a controller lives. -/
structure Worker where
  resolved : ResolvedConcurrency
  memoryLimitBytes : ℚ
  cpuCores : Nat

/-- A controller for an option, with the limits that the host reads. -/
def Worker.of (concurrency : Option ConcurrencyOption) (memoryLimitBytes : ℚ)
    (cpuCount : OptionNumber) : Worker where
  resolved := resolveConcurrency concurrency
  memoryLimitBytes := memoryLimitBytes
  cpuCores := wholeAtLeastOne (some cpuCount) 1

/-- What a controller keeps. -/
structure State where
  currentLimit : Nat
  inFlightCount : Nat := 0
  window : List Completion := []
  rttLongMs : Option ℚ := none
  cpuPct : Option ℚ := none
  lastAdjust : Option WorkerAdjust := none
  completionsThisTick : Nat := 0
  stepsThisTick : Nat := 0
  stallTicks : Nat := 0
  backedOff : Bool := false
  settledSinceDecide : Nat := 0
  lastCpuUsage : Option CpuUsage := none

/-- The controller of a worker that starts. -/
def Worker.initial (worker : Worker) : State where
  currentLimit :=
    match worker.resolved with
    | .fixed limit => limit
    | .adaptive config => config.start

/-- The value below which a part of the others are, in hundredths. -/
def percentile (sortedAsc : List ℚ) (p : Nat) : ℚ :=
  if sortedAsc.length = 0 then 0
  else
    let index := clamp ((p * sortedAsc.length + 99) / 100 - 1) 0 (sortedAsc.length - 1)
    (sortedAsc[index]?).getD 0

section Readings

variable (worker : Worker) (state : State)

/-- The median of the durations in the window. -/
def State.p50 : ℚ :=
  percentile ((state.window.map (·.durationMs)).insertionSort (· ≤ ·)) 50

/-- How many of the steps in the window failed. -/
def State.errors : Nat := state.window.countP fun completion => !completion.ok

/-- The part of the steps in the window that failed. -/
def State.errorRate : ℚ :=
  if state.window.length = 0 then 0 else state.errors / state.window.length

/-- The median compared with what it is without queuing. -/
def State.gradient : ℚ :=
  match state.rttLongMs with
  | some rttLongMs => if 0 < state.p50 then min 1 ((2 * rttLongMs + 5) / state.p50) else 1
  | none => 1

/-- Whether at least 80% of the slots are in use. -/
def State.saturated : Bool := 4 * state.currentLimit ≤ 5 * state.inFlightCount

/-- The memory in use, in hundredths of the limit. -/
def Worker.rssPct (rss : ℚ) : ℚ :=
  if worker.memoryLimitBytes ≤ 0 then 0 else 100 * rss / worker.memoryLimitBytes

/-- `resetCpuBaseline`. -/
def State.resetCpuBaseline (cpu : CpuUsage) : State := { state with lastCpuUsage := some cpu }

/-- The processor time spent since the last sample, over the wall time since. -/
def sampleCpu (elapsedMs : Nat) (cpu : CpuUsage) : State :=
  let sampled := state.resetCpuBaseline cpu
  match state.lastCpuUsage with
  | none => sampled
  | some previous =>
    if elapsedMs = 0 then sampled
    else
      let micros := cpu.user - previous.user + (cpu.system - previous.system)
      let pct := micros / (elapsedMs * 1000 * worker.cpuCores) * 100
      { sampled with cpuPct := some (max 0 pct) }

/-- Let the latency without queuing follow the median: a drop at once, a rise slowly. -/
def State.refreshRttLong : State :=
  if state.window.length = 0 then state
  else
    match state.rttLongMs with
    | none => { state with rttLongMs := some state.p50 }
    | some rttLongMs =>
      let alpha : ℚ := if state.p50 < rttLongMs then 1 / 2 else 1 / 10
      { state with rttLongMs := some (alpha * state.p50 + (1 - alpha) * rttLongMs) }

end Readings

section Decisions

variable (worker : Worker) (config : AdaptiveConfig) (state : State)

/-- Whether a ceiling is reached. -/
def ceilingReached (rss : ℚ) : Bool :=
  config.ramCeilingPct ≤ worker.rssPct rss ||
    config.cpuCeilingPct.any fun ceiling => ceiling ≤ state.cpuPct.getD 0

/-- The first signal that `decide` follows, with the limit that it asks for. The fractions of the
limit are those of the source, 0.8 down and 0.75 to the nearest, with halves up. -/
def signal (rss : ℚ) (stalled fresh : Bool) : Option (Nat × Reason) :=
  let current := state.currentLimit
  if config.ramCeilingPct ≤ worker.rssPct rss then
    some (max config.min (4 * current / 5), .ramCeiling)
  else if config.cpuCeilingPct.any fun ceiling => ceiling ≤ state.cpuPct.getD 0 then
    some (max config.min (current - 1), .cpuCeiling)
  else if 1 / 5 < state.errorRate ∨ stalled then
    some (max config.min (current - 1), .backpressure)
  else if fresh ∧ state.gradient < 7 / 10 then
    some (max config.min (min (current - 1) ((3 * current + 2) / 4)), .shrink)
  else if fresh ∧ 9 / 10 ≤ state.gradient ∧ state.saturated then
    let step := if state.backedOff then max 1 current.sqrt else current
    some (min config.max (current + step), .grow)
  else none

/-- `decide`: follow the first signal. -/
def decideLimit (rss : ℚ) (stalled growOnly fresh : Bool) : State :=
  let decided := { state with settledSinceDecide := 0 }
  match signal worker config state rss stalled fresh with
  | none => decided
  | some (asked, reason) =>
    let next := clamp asked config.min config.max
    if next = state.currentLimit then decided
    else if growOnly && reason != .grow then decided
    else
      { decided with
        backedOff := state.backedOff || next < state.currentLimit
        currentLimit := next
        lastAdjust := some ⟨state.currentLimit, next, reason⟩ }

end Decisions

section Calls

variable (worker : Worker) (state : State)

/-- `start`, which takes the first sample. -/
def start (cpu : CpuUsage) : State :=
  match state.lastCpuUsage with
  | some _ => state
  | none => state.resetCpuBaseline cpu

/-- A task started. -/
def onStart : State := { state with inFlightCount := state.inFlightCount + 1 }

/-- A step settled: keep it in the window of the last 100, and decide whether the limit grows once
there was a limit's worth of steps, until it first moves down. -/
def onSettleStep (durationMs : ℚ) (ok : Bool) (rss : ℚ) : State :=
  let window := state.window ++ [⟨durationMs, ok⟩]
  let settled := { state with
    stepsThisTick := state.stepsThisTick + 1
    window := if 100 < window.length then window.tail else window
    settledSinceDecide := state.settledSinceDecide + 1 }
  match worker.resolved with
  | .fixed _ => settled
  | .adaptive config =>
    if !settled.backedOff && settled.currentLimit ≤ settled.settledSinceDecide then
      let measured := if settled.rttLongMs.isNone then settled.refreshRttLong else settled
      decideLimit worker config measured rss false true true
    else settled

/-- A task settled. -/
def onSettle (durationMs : ℚ) (ok : Bool) (kind : Kind) (rss : ℚ) : State :=
  let counted := { state with completionsThisTick := state.completionsThisTick + 1 }
  let decided :=
    match kind with
    | .step => onSettleStep worker counted durationMs ok rss
    | .workflow => counted
  { decided with inFlightCount := decided.inFlightCount - 1 }

/-- One iteration of the control loop. -/
def tick (rss : ℚ) (cpu : CpuUsage) : State :=
  match worker.resolved with
  | .fixed _ => state
  | .adaptive config =>
    let sampled := sampleCpu worker state config.tickMs cpu
    let fresh : Bool := 0 < sampled.stepsThisTick
    let counted := { sampled with stepsThisTick := 0 }
    let measured := if fresh then counted.refreshRttLong else counted
    let stallTicks :=
      if 0 < measured.inFlightCount ∧ measured.completionsThisTick = 0 then
        measured.stallTicks + 1
      else 0
    decideLimit worker config { measured with stallTicks, completionsThisTick := 0 } rss
      (2 ≤ stallTicks) false fresh

/-- A call of a controller, with what is read in it. -/
inductive Call where
  | start (cpu : CpuUsage)
  | onStart
  | onSettle (durationMs : ℚ) (ok : Bool) (kind : Kind) (rss : ℚ)
  | tick (rss : ℚ) (cpu : CpuUsage)

/-- What a call makes of the state. -/
def perform : Call → State
  | .start cpu => start state cpu
  | .onStart => onStart state
  | .onSettle durationMs ok kind rss => onSettle worker state durationMs ok kind rss
  | .tick rss cpu => tick worker state rss cpu

end Calls

/-- What calls make of the state, one after the other. -/
def performAll (worker : Worker) (calls : List Call) (state : State) : State :=
  calls.foldl (perform worker) state

end Durable.AdaptiveConcurrency
