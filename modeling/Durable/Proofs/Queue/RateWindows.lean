import Mathlib.Data.List.TakeWhile
import Mathlib.Order.Basic
import Durable.Interleaving.Histories
import Durable.Proofs.Queue.Waiters

/-! The admissions of a queue over whole runs: its rate windows, and when a call may ask again. -/

namespace Durable

open Interleaving (within recent Anew within_cons_le within_zero)

namespace QueueController

/-- A controller that calls and releases have led to, the moments of the calls that it has
admitted, the latest first, and its clock, which never goes back. -/
inductive Served (config : QueueConfig) : QueueController → List Nat → Nat → Prop where
  | start : Served config { config } [] 0
  | tryAdmit {controller : QueueController} {admitted : List Nat} {clock now : Nat}
      (before : Served config controller admitted clock) (later : clock ≤ now)
      (item : AdmissionItem) :
      Served config (controller.tryAdmit now item).1
        (if (controller.tryAdmit now item).2 = .admitted then now :: admitted else admitted) now
  | release {controller : QueueController} {admitted : List Nat} {clock : Nat}
      (before : Served config controller admitted clock) :
      Served config controller.release admitted clock

/-- What the rate limit keeps. -/
structure RateWindow where
  rolling : List Nat
  begun : Nat
  count : Nat

/-- What a controller keeps for its rate limit. -/
def window (controller : QueueController) : RateWindow :=
  ⟨controller.slidingAdmits, controller.windowStart, controller.windowCount⟩

/-- An admission is counted as the algorithm counts it. -/
def RateWindow.add (kept : RateWindow) (algorithm : RateAlgorithm) (now : Nat) : RateWindow :=
  match algorithm with
  | .sliding => { kept with rolling := kept.rolling ++ [now] }
  | .fixed => { kept with count := kept.count + 1 }

/-- What is over by a moment is left out. -/
def RateWindow.renew (kept : RateWindow) (rate : RateLimit) (now : Nat) : RateWindow :=
  match rate.algorithm with
  | .sliding =>
    { kept with rolling := kept.rolling.dropWhile fun admitted => admitted + rate.periodMs ≤ now }
  | .fixed => if kept.begun + rate.periodMs ≤ now then { kept with begun := now, count := 0 } else kept

/-- How much of the limit is used up. -/
def RateWindow.used (kept : RateWindow) (algorithm : RateAlgorithm) : Nat :=
  match algorithm with
  | .sliding => kept.rolling.length
  | .fixed => kept.count

/-- When a used-up window has room again. -/
def RateWindow.retryAt (kept : RateWindow) (rate : RateLimit) : Nat :=
  match rate.algorithm with
  | .sliding => kept.rolling.headD 0 + rate.periodMs
  | .fixed => kept.begun + rate.periodMs

variable {controller : QueueController} {rate : RateLimit}

section Calls

theorem used_eq (now : Nat) :
    controller.used now rate = (controller.window.renew rate now).used rate.algorithm := by
  unfold used renewWindow RateWindow.renew window RateWindow.used
  cases algorithm : rate.algorithm with
  | sliding => rfl
  | fixed =>
    dsimp only
    split <;> rfl

theorem keepWaiting_window (item : AdmissionItem) :
    (controller.keepWaiting item).window = controller.window := by
  obtain ⟨waiters, waiterSeq, kept⟩ := keepWaiting_waits controller item
  rw [kept]
  rfl

/-- Looking at the rate window leaves out what is over. -/
theorem checkRate_window (limited : controller.config.rateLimit = some rate) (now : Nat) :
    (controller.checkRate now).1.window = controller.window.renew rate now := by
  cases algorithm : rate.algorithm with
  | sliding =>
    have pruned : (controller.checkRate now).1 =
        { controller with
          slidingAdmits := controller.slidingAdmits.dropWhile fun admitted =>
            admitted + rate.periodMs ≤ now } := by
      simp only [checkRate, limited, algorithm]
      split <;> rfl
    rw [pruned, RateWindow.renew, algorithm]
    rfl
  | fixed =>
    have renewed : (controller.checkRate now).1 = controller.renewWindow now rate.periodMs := by
      simp only [checkRate, limited, algorithm]
      split <;> rfl
    rw [renewed, RateWindow.renew, algorithm]
    unfold renewWindow window
    dsimp only
    split <;> rfl

theorem admitCall_window (limited : controller.config.rateLimit = some rate) (now : Nat)
    (item : AdmissionItem) :
    (controller.admitCall now item).window = controller.window.add rate.algorithm now := by
  obtain ⟨priority, key, waiterId⟩ := item
  unfold admitCall RateWindow.add window
  cases algorithm : rate.algorithm <;> simp only [limited, algorithm] <;>
    cases key <;> cases waiterId <;> rfl

/-- A call is counted exactly where it is admitted, and then in a window that is open. -/
theorem tryAdmit_window (limited : controller.config.rateLimit = some rate) (now : Nat)
    (item : AdmissionItem) :
    (controller.tryAdmit now item).2 ≠ .admitted ∧
        (controller.tryAdmit now item).1.window = controller.window.renew rate now ∨
      (controller.tryAdmit now item).2 = .admitted ∧
        (controller.window.renew rate now).used rate.algorithm < rate.limit ∧
        (controller.tryAdmit now item).1.window =
          (controller.window.renew rate now).add rate.algorithm now := by
  have renewed := checkRate_window limited now
  have opens : (controller.checkRate now).2 = none ↔ _ := checkRate_open_iff now
  have config : (controller.checkRate now).1.config = controller.config := (checkRate_inFlight now).2
  unfold tryAdmit
  generalize controller.checkRate now = looked at *
  obtain ⟨checked, retryAt⟩ := looked
  dsimp only at renewed opens config
  have added : ∀ waiting : QueueController, waiting.window = checked.window →
      waiting.config = checked.config → (waiting.admitCall now item).window =
        (controller.window.renew rate now).add rate.algorithm now := by
    intro waiting same kept
    rw [admitCall_window (by rw [kept, config, limited]) now item, same, renewed]
  cases retryAt with
  | some retryAt => exact .inl ⟨nofun, renewed⟩
  | none =>
    have room := used_eq now ▸ opens.mp rfl rate limited
    dsimp only
    split
    · refine .inl ⟨nofun, ?_⟩
      split
      · rw [keepWaiting_window, renewed]
      · exact renewed
    · split
      · split
        · exact .inr ⟨rfl, room, added _ (keepWaiting_window item) (keepWaiting_config item)⟩
        · exact .inl ⟨nofun, (keepWaiting_window item).trans renewed⟩
      · exact .inr ⟨rfl, room, added _ rfl rfl⟩

end Calls

section Rolling

variable {period limit clock : Nat} {rolling admitted : List Nat}

/-- The rolling window has every admission that is not over yet. -/
structure Rolls (period limit clock : Nat) (rolling admitted : List Nat) : Prop where
  gone : ∃ earlier, admitted = rolling.reverse ++ earlier ∧ ∀ moment ∈ earlier, moment + period ≤ clock
  few : rolling.length ≤ limit
  windows : ∀ start, within id period start admitted ≤ limit

/-- Time goes on, and what is over is left out. -/
theorem Rolls.renew (rolls : Rolls period limit clock rolling admitted) {now : Nat}
    (later : clock ≤ now) :
    Rolls period limit now (rolling.dropWhile fun moment => moment + period ≤ now) admitted := by
  obtain ⟨⟨earlier, split, gone⟩, few, windows⟩ := rolls
  have parts := List.takeWhile_append_dropWhile
    (p := fun moment => decide (moment + period ≤ now)) (l := rolling)
  refine ⟨⟨(rolling.takeWhile fun moment => moment + period ≤ now).reverse ++ earlier, ?_, ?_⟩,
    (List.dropWhile_sublist _).length_le.trans few, windows⟩
  · rw [← List.append_assoc, ← List.reverse_append, parts, split]
  · intro moment listed
    rcases List.mem_append.mp listed with dropped | before
    · simpa using List.mem_takeWhile_imp (List.mem_reverse.mp dropped)
    · exact (gone moment before).trans later

/-- An admission below the limit is counted. -/
theorem Rolls.add (rolls : Rolls period limit clock rolling admitted)
    (room : rolling.length < limit) :
    Rolls period limit clock (rolling ++ [clock]) (clock :: admitted) := by
  obtain ⟨⟨earlier, split, gone⟩, few, windows⟩ := rolls
  refine ⟨⟨earlier, ?_, gone⟩, ?_, within_cons_le windows ?_⟩
  · rw [split, List.reverse_append]
    rfl
  · rw [List.length_append]
    exact room
  · -- What the rolling window lacks is not recent.
    have none : recent id period clock earlier = 0 := by
      refine List.countP_eq_zero.mpr fun moment listed late => ?_
      have over_ := gone moment listed
      simp only [id_eq, decide_eq_true_eq] at late
      omega
    have most := List.countP_le_length (l := rolling.reverse)
      (p := fun moment => decide (clock < id moment + period))
    rw [List.length_reverse] at most
    rw [split, recent, List.countP_append]
    unfold recent at none
    simp only [id_eq] at none most ⊢
    omega

end Rolling

/-- What a rate limit has counted agrees with what was admitted. -/
def Counted (rate : RateLimit) (kept : RateWindow) (admitted : List Nat) (clock : Nat) : Prop :=
  match rate.algorithm with
  | .sliding => Rolls rate.periodMs rate.limit clock kept.rolling admitted
  | .fixed => kept.begun ≤ clock ∧ (rate.periodMs = 0 ∨
      Anew id rate.periodMs rate.limit kept.begun admitted ∧
        kept.count = admitted.countP fun moment => kept.begun ≤ moment)

/-- Time goes on, and what is over is left out. -/
theorem Counted.renew {kept : RateWindow} {admitted : List Nat} {clock now : Nat}
    (counted : Counted rate kept admitted clock) (later : clock ≤ now) :
    Counted rate (kept.renew rate now) admitted now ∧
      (rate.algorithm = .fixed → 0 < rate.periodMs →
        now < (kept.renew rate now).begun + rate.periodMs) := by
  unfold Counted RateWindow.renew at *
  cases algorithm : rate.algorithm with
  | sliding =>
    simp only [algorithm] at counted ⊢
    exact ⟨counted.renew later, nofun⟩
  | fixed =>
    simp only [algorithm] at counted ⊢
    obtain ⟨begun, counts⟩ := counted
    split
    · rename_i over_
      refine ⟨⟨Nat.le_refl _, counts.imp_right fun counts => ?_⟩, fun _ some => ?_⟩
      · -- Nothing that was admitted is as late as the new window.
        refine ⟨counts.1.begin over_, (List.countP_eq_zero.mpr fun moment listed late => ?_).symm⟩
        have early := counts.1.lasts moment listed
        simp only [id_eq, decide_eq_true_eq] at early late
        omega
      · show now < now + rate.periodMs
        omega
    · rename_i lasts
      exact ⟨⟨begun.trans later, counts⟩, fun _ _ => by omega⟩

/-- An admission in an open window is counted. -/
theorem Counted.add {kept : RateWindow} {admitted : List Nat} {now : Nat}
    (counted : Counted rate kept admitted now)
    (lasts : rate.algorithm = .fixed → 0 < rate.periodMs → now < kept.begun + rate.periodMs)
    (room : kept.used rate.algorithm < rate.limit) :
    Counted rate (kept.add rate.algorithm now) (now :: admitted) now := by
  unfold Counted RateWindow.add RateWindow.used at *
  cases algorithm : rate.algorithm with
  | sliding =>
    simp only [algorithm] at counted room ⊢
    exact counted.add room
  | fixed =>
    simp only [algorithm, forall_const] at counted room lasts ⊢
    obtain ⟨begun, counts⟩ := counted
    refine ⟨begun, ?_⟩
    rcases Nat.eq_zero_or_pos rate.periodMs with none | some
    · exact .inl none
    rcases counts with none | ⟨anew, count⟩
    · exact .inl none
    refine .inr ⟨anew.cons begun (lasts some) (count ▸ room), ?_⟩
    rw [List.countP_cons_of_pos (by simpa using begun), count]

/-- Whatever is called and released, the rate limit has counted what was admitted. -/
theorem Served.counted {config : QueueConfig} {admitted : List Nat} {clock : Nat}
    (served : Served config controller admitted clock) (limited : config.rateLimit = some rate) :
    controller.config = config ∧ Counted rate controller.window admitted clock := by
  induction served with
  | start =>
    refine ⟨rfl, ?_⟩
    unfold Counted
    split
    · exact ⟨⟨[], rfl, nofun⟩, Nat.zero_le _, fun _ => Nat.zero_le _⟩
    · exact ⟨Nat.le_refl _, .inr ⟨⟨nofun, Nat.zero_le _, Nat.zero_le _, fun _ => Nat.zero_le _⟩, rfl⟩⟩
  | @tryAdmit controller admitted clock now before later item ih =>
    obtain ⟨config, counted⟩ := ih
    have kept := (tryAdmit_took controller now item).config
    obtain ⟨renewed, lasts⟩ := counted.renew later
    refine ⟨kept.trans config, ?_⟩
    rcases tryAdmit_window (by rw [config, limited]) now item with
      ⟨blocked, same⟩ | ⟨admitted, room, more⟩
    · rw [if_neg blocked, same]
      exact renewed
    · rw [if_pos admitted, more]
      exact renewed.add lasts room
  | release before ih => exact ih

/--
In every run, no period has more admissions than a rolling window allows, or than twice what a
fixed window allows: one window that ends in it and one that begins in it.
-/
theorem admissions_within_limit {config : QueueConfig} {admitted : List Nat} {clock : Nat}
    (served : Served config controller admitted clock) (limited : config.rateLimit = some rate)
    (start : Nat) :
    within id rate.periodMs start admitted ≤
      match rate.algorithm with
      | .sliding => rate.limit
      | .fixed => 2 * rate.limit := by
  have counted := (served.counted limited).2
  unfold Counted at counted
  cases algorithm : rate.algorithm with
  | sliding =>
    simp only [algorithm] at counted
    exact counted.windows start
  | fixed =>
    simp only [algorithm] at counted
    rcases counted.2 with none | ⟨anew, -⟩
    · rw [none, within_zero]
      exact Nat.zero_le _
    · exact anew.windows start

/-- A call in ten milliseconds. -/
def oneInTen : QueueConfig :=
  { name := "mail", rateLimit := some { limit := 1, periodMs := 10, algorithm := .sliding } }

/-- The queue has admitted a call, blocked one, and admitted another. -/
theorem admissions_within_limit_twice : within id 10 2 [11, 1] ≤ 1 :=
  have served : Served oneInTen _ [11, 1] 11 :=
    .tryAdmit (.tryAdmit (.tryAdmit .start (Nat.zero_le 1) {}) (by decide : 1 ≤ 5) {})
      (by decide : 5 ≤ 11) {}
  admissions_within_limit served rfl 2

/-- Wherever calls and releases have led, no more is counted than the limit. -/
theorem Reached.few {config : QueueConfig} (reached : Reached config controller)
    (limited : config.rateLimit = some rate) : controller.config = config ∧
      controller.window.rolling.length ≤ rate.limit ∧ controller.window.count ≤ rate.limit := by
  induction reached with
  | start => exact ⟨rfl, Nat.zero_le _, Nat.zero_le _⟩
  | @tryAdmit controller before now item ih =>
    obtain ⟨config, rolling, count⟩ := ih
    refine ⟨(tryAdmit_took controller now item).config.trans config, ?_⟩
    have fewer : (controller.window.renew rate now).rolling.length ≤ rate.limit ∧
        (controller.window.renew rate now).count ≤ rate.limit := by
      unfold RateWindow.renew
      split
      · exact ⟨(List.dropWhile_sublist _).length_le.trans rolling, count⟩
      · split
        · exact ⟨rolling, Nat.zero_le _⟩
        · exact ⟨rolling, count⟩
    rcases tryAdmit_window (by rw [config, limited]) now item with ⟨-, same⟩ | ⟨-, room, more⟩
    · rw [same]
      exact fewer
    · rw [more]
      unfold RateWindow.used RateWindow.add at *
      cases algorithm : rate.algorithm with
      | sliding =>
        simp only [algorithm, List.length_append, List.length_singleton] at room ⊢
        exact ⟨room, fewer.2⟩
      | fixed =>
        simp only [algorithm] at room ⊢
        exact ⟨fewer.1, room⟩
  | release before ih => exact ih

/-- What a full window says is the moment from which it has room again. -/
theorem RateWindow.renew_room {kept : RateWindow} {now : Nat} (some_ : 0 < rate.limit)
    (few : kept.rolling.length ≤ rate.limit)
    (full : rate.limit ≤ (kept.renew rate now).used rate.algorithm) (later : Nat) :
    now < (kept.renew rate now).retryAt rate ∧
      (((kept.renew rate now).renew rate later).used rate.algorithm < rate.limit ↔
        (kept.renew rate now).retryAt rate ≤ later) := by
  unfold RateWindow.renew RateWindow.used RateWindow.retryAt at *
  cases algorithm : rate.algorithm with
  | sliding =>
    simp only [algorithm] at full ⊢
    have most := (List.dropWhile_sublist (l := kept.rolling)
      fun moment => decide (moment + rate.periodMs ≤ now)).length_le
    have first := List.head?_dropWhile_not
      (fun moment => decide (moment + rate.periodMs ≤ now)) kept.rolling
    generalize kept.rolling.dropWhile (fun moment => decide (moment + rate.periodMs ≤ now)) = live
      at full most first
    cases live with
    | nil => simp only [List.length_nil] at full; omega
    | cons oldest rest =>
      simp only [List.head?_cons, decide_eq_false_iff_not] at first
      simp only [List.headD_cons, List.length_cons] at full most ⊢
      refine ⟨by omega, ?_⟩
      rw [List.dropWhile_cons]
      have fewer := (List.dropWhile_sublist (l := rest)
        fun moment => decide (moment + rate.periodMs ≤ later)).length_le
      split <;> rename_i over_ <;> simp only [decide_eq_true_eq] at over_
      · omega
      · simp only [List.length_cons]
        omega
  | fixed =>
    simp only [algorithm] at full ⊢
    split at full <;> rename_i over_
    · simp only at full
      omega
    · simp only [if_neg over_]
      refine ⟨by omega, ?_⟩
      split
      · rename_i begins
        exact iff_of_true some_ begins
      · omega

/--
A call that finds the rate window used up is told the very moment from which the window has room
again: none before, and that one for certain where nothing is admitted meanwhile.
-/
theorem retryAt_exact {config : QueueConfig} (reached : Reached config controller)
    (limited : config.rateLimit = some rate) (some_ : 0 < rate.limit) {now retryAt : Nat}
    (item : AdmissionItem) (used_up : (controller.checkRate now).2 = some retryAt) :
    (controller.tryAdmit now item).2 = .blocked retryAt ∧ now < retryAt ∧ ∀ later,
      ((controller.tryAdmit now item).1.checkRate later).2 = none ↔ retryAt ≤ later := by
  obtain ⟨config, few, -⟩ := reached.few limited
  have limits : controller.config.rateLimit = some rate := by rw [config, limited]
  have called : controller.tryAdmit now item =
      ((controller.checkRate now).1, .blocked retryAt) := by
    unfold tryAdmit
    generalize controller.checkRate now = looked at *
    obtain ⟨checked, answer⟩ := looked
    cases used_up
    rfl
  have closed : rate.limit ≤ (controller.window.renew rate now).used rate.algorithm := by
    refine Nat.le_of_not_lt fun room => ?_
    rw [(checkRate_open_iff now).mpr fun other same => by
      cases limits.symm.trans same
      exact used_eq now ▸ room] at used_up
    cases used_up
  have told : retryAt = (controller.window.renew rate now).retryAt rate := by
    rw [← checkRate_window limits]
    unfold checkRate at used_up ⊢
    unfold RateWindow.retryAt
    cases algorithm : rate.algorithm <;> simp only [limits, algorithm] at used_up ⊢ <;>
      split at used_up <;> simp_all [window]
  rw [called, told]
  refine ⟨rfl, (RateWindow.renew_room some_ few closed now).1, fun later => ?_⟩
  rw [← (RateWindow.renew_room some_ few closed later).2, checkRate_open_iff]
  have kept : (controller.checkRate now).1.config = controller.config := (checkRate_inFlight now).2
  rw [kept, limits]
  simp only [Option.some.injEq, forall_eq', used_eq, checkRate_window limits]

/-- A call that comes too soon after the first is told when that one is over. -/
theorem retryAt_exact_once :
    ((({ config := oneInTen } : QueueController).tryAdmit 1 {}).1.tryAdmit 5 {}).2 = .blocked 11 ∧
      5 < 11 ∧ ∀ later, ((((({ config := oneInTen } : QueueController).tryAdmit 1 {}).1.tryAdmit 5
        {}).1.checkRate later).2 = none ↔ 11 ≤ later) :=
  retryAt_exact (.tryAdmit .start 1 {}) rfl (by decide) {} (by decide)

end QueueController

end Durable
