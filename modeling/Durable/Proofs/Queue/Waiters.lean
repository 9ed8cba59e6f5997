import Durable.Queue.Controller

/-! A call is admitted to a free slot exactly when no waiter comes before it. -/

namespace Durable

open Interleaving (Table)

namespace QueueController

variable {controller : QueueController}

section Order

theorem arrivesBefore_trans {one two three : Option Nat}
    (first : arrivesBefore one two = true) (second : arrivesBefore two three = true) :
    arrivesBefore one three = true := by
  cases one with
  | none => cases first
  | some one =>
    cases two with
    | none => cases second
    | some two =>
      cases three with
      | none => rfl
      | some three =>
        simp only [arrivesBefore, decide_eq_true_eq] at first second ⊢
        omega

theorem arrivesBefore_irrefl (one : Option Nat) : arrivesBefore one one = false := by
  cases one <;> simp [arrivesBefore]

/-- Among equal waiters, the arrival decides. -/
def arrives (controller : QueueController) (one other : QueueWaiter) : Bool :=
  if controller.config.lifo then arrivesBefore other.seq one.seq
  else arrivesBefore one.seq other.seq

theorem arrives_trans {one two three : QueueWaiter} (first : controller.arrives one two = true)
    (second : controller.arrives two three = true) : controller.arrives one three = true := by
  unfold arrives at first second ⊢
  split at first
  · rename_i lifo
    rw [if_pos lifo] at second ⊢
    exact arrivesBefore_trans second first
  · rename_i fifo
    rw [if_neg fifo] at second ⊢
    exact arrivesBefore_trans first second

theorem better_iff (one other : QueueWaiter) : controller.better one other = true ↔
    other.priority < one.priority ∨ one.priority = other.priority ∧
      (controller.config.fairnessByKey = true ∧
          controller.servedOf one.key < controller.servedOf other.key ∨
        (controller.config.fairnessByKey = true →
          controller.servedOf one.key = controller.servedOf other.key) ∧
          controller.arrives one other = true) := by
  unfold better arrives
  by_cases equal : one.priority = other.priority
  · -- Equal priorities leave the decision to the buckets.
    rw [if_neg fun differ => differ equal]
    by_cases fair : controller.config.fairnessByKey = true
    · by_cases served : controller.servedOf one.key = controller.servedOf other.key
      · simp [equal, fair, served]
      · simp [equal, fair, served]
    · simp [equal, fair]
  · rw [if_pos equal]
    simp [equal]

theorem better_irrefl (waiter : QueueWaiter) : controller.better waiter waiter = false := by
  refine Bool.eq_false_iff.mpr fun before => ?_
  rcases (better_iff waiter waiter).mp before with less | ⟨-, ⟨-, less⟩ | ⟨-, arrived⟩⟩
  · omega
  · omega
  · unfold arrives at arrived
    rw [arrivesBefore_irrefl, ite_self] at arrived
    cases arrived

theorem better_trans {one two three : QueueWaiter} (first : controller.better one two = true)
    (second : controller.better two three = true) : controller.better one three = true := by
  refine (better_iff one three).mpr ?_
  rcases (better_iff one two).mp first with less | ⟨equal, rest⟩
  · -- The first difference is in the priorities.
    rcases (better_iff two three).mp second with less' | ⟨equal', -⟩
    · exact .inl (by omega)
    · exact .inl (by omega)
  rcases (better_iff two three).mp second with less' | ⟨equal', rest'⟩
  · exact .inl (by omega)
  refine .inr ⟨equal.trans equal', ?_⟩
  rcases rest with ⟨fair, served⟩ | ⟨served, arrived⟩
  · -- The first difference is in the buckets.
    rcases rest' with ⟨-, served'⟩ | ⟨served', -⟩
    · exact .inl ⟨fair, by omega⟩
    · have same := served' fair
      exact .inl ⟨fair, by omega⟩
  · rcases rest' with ⟨fair, served'⟩ | ⟨served', arrived'⟩
    · have same := served fair
      exact .inl ⟨fair, by omega⟩
    · exact .inr ⟨fun fair => (served fair).trans (served' fair), arrives_trans arrived arrived'⟩

end Order

section Next

theorem best_stays {self : Option String × QueueWaiter} (rows : List (String × QueueWaiter))
    (own : ∀ entry ∈ rows, some entry.1 = self.1 → controller.better entry.2 self.2 = false) :
    ∀ best : Option String × QueueWaiter, best.1 ≠ self.1 →
      controller.better best.2 self.2 = true →
        (rows.foldl (fun (best : Option String × QueueWaiter) entry =>
          if controller.better entry.2 best.2 then (some entry.1, entry.2) else best) best).1 ≠
            self.1 := by
  induction rows with
  | nil => exact fun best other _ => other
  | cons entry rest ih =>
    intro best other before
    have others := fun each listed => own each (List.mem_cons_of_mem _ listed)
    rw [List.foldl_cons]
    by_cases ahead : controller.better entry.2 best.2 = true
    · -- A waiter before the best one is before the call, and so it is not the call itself.
      rw [if_pos ahead]
      have further := better_trans ahead before
      refine ih others _ (fun same => ?_) further
      have behind := own entry List.mem_cons_self same
      rw [further] at behind
      cases behind
    · rw [if_neg ahead]
      exact ih others best other before

theorem best_iff {self : Option String × QueueWaiter} (rows : List (String × QueueWaiter))
    (own : ∀ entry ∈ rows, some entry.1 = self.1 → controller.better entry.2 self.2 = false) :
    (rows.foldl (fun (best : Option String × QueueWaiter) entry =>
        if controller.better entry.2 best.2 then (some entry.1, entry.2) else best) self).1 =
          self.1 ↔
      ∀ entry ∈ rows, controller.better entry.2 self.2 = false := by
  induction rows with
  | nil => simp
  | cons entry rest ih =>
    have others := fun each listed => own each (List.mem_cons_of_mem _ listed)
    rw [List.foldl_cons, List.forall_mem_cons]
    by_cases ahead : controller.better entry.2 self.2 = true
    · rw [if_pos ahead]
      have other : some entry.1 ≠ self.1 := fun same => by
        have behind := own entry List.mem_cons_self same
        rw [ahead] at behind
        cases behind
      refine iff_of_false (best_stays rest others (some entry.1, entry.2) other ahead) fun none => ?_
      rw [none.1] at ahead
      cases ahead
    · rw [if_neg ahead, ih others]
      exact (and_iff_right (Bool.eq_false_iff.mpr ahead)).symm

theorem isNext_iff (distinct : controller.waiters.Distinct) (item : AdmissionItem) :
    controller.isNext item = true ↔ controller.Foremost item := by
  let self : Option String × QueueWaiter := (item.waiterId, controller.selfOf item)
  have own : ∀ entry ∈ controller.waiters.rows, some entry.1 = self.1 →
      controller.better entry.2 self.2 = false := by
    intro entry listed same
    -- The row of the call's own id is the call itself.
    have found := distinct.mem_rows_iff.mp listed
    have own : controller.selfOf item = entry.2 := by
      unfold selfOf
      rw [← show some entry.1 = item.waiterId from same, Option.bind_some, found, Option.getD_some]
    show controller.better entry.2 (controller.selfOf item) = false
    rw [own]
    exact better_irrefl entry.2
  have best := best_iff (controller.waiters.rows) own
  unfold isNext
  rw [beq_iff_eq]
  refine best.trans ⟨?_, ?_⟩
  · exact fun none waiterId waiter found => none _ (distinct.mem_rows_iff.mpr found)
  · exact fun none entry listed => none entry.1 entry.2 (distinct.mem_rows_iff.mp listed)

end Next

section Distinct

theorem keepWaiting_distinct (distinct : controller.waiters.Distinct) (item : AdmissionItem) :
    (controller.keepWaiting item).waiters.Distinct := by
  unfold keepWaiting register
  split
  · split <;> exact distinct.set _ _
  · exact distinct

theorem admitCall_distinct (distinct : controller.waiters.Distinct) (now : Nat)
    (item : AdmissionItem) : (controller.admitCall now item).waiters.Distinct := by
  obtain ⟨priority, key, waiterId⟩ := item
  unfold admitCall
  cases key <;> cases waiterId <;> dsimp only <;> split <;>
    first
    | exact distinct
    | exact distinct.erase _
    | (split <;> first | exact distinct | exact distinct.erase _)

variable (controller) in
theorem checkRate_waiters (now : Nat) :
    (controller.checkRate now).1.waiters = controller.waiters := by
  unfold checkRate
  split
  · rfl
  · split
    · dsimp only
      split <;> rfl
    · dsimp only [renewWindow]
      split <;> split <;> rfl

theorem tryAdmit_distinct (distinct : controller.waiters.Distinct) (now : Nat)
    (item : AdmissionItem) : (controller.tryAdmit now item).1.waiters.Distinct := by
  have same := checkRate_waiters controller now
  unfold tryAdmit
  generalize controller.checkRate now = looked at *
  obtain ⟨checked, retryAt⟩ := looked
  have kept : checked.waiters.Distinct := same ▸ distinct
  cases retryAt with
  | some retryAt => exact kept
  | none =>
    dsimp only
    split
    · split
      · exact keepWaiting_distinct kept item
      · exact kept
    · split
      · split
        · exact admitCall_distinct (keepWaiting_distinct kept item) now item
        · exact keepWaiting_distinct kept item
      · exact admitCall_distinct kept now item

theorem Reached.distinct {config : QueueConfig} (reached : Reached config controller) :
    controller.waiters.Distinct := by
  induction reached with
  | start => exact Table.distinct_empty
  | tryAdmit before now item ih => exact tryAdmit_distinct ih now item
  | release before ih => exact ih

end Distinct

section Blocked

/-- Two controllers agree on everything that orders their calls. -/
structure Alike (one other : QueueController) : Prop where
  config : one.config = other.config
  inFlight : one.inFlight = other.inFlight
  waiters : one.waiters = other.waiters
  waiterSeq : one.waiterSeq = other.waiterSeq
  keyServed : one.keyServed = other.keyServed

variable {one other : QueueController}

theorem Alike.keepWaiting (alike : Alike one other) (item : AdmissionItem) :
    Alike (one.keepWaiting item) (other.keepWaiting item) := by
  obtain ⟨config, inFlight, waiters, waiterSeq, keyServed⟩ := alike
  unfold QueueController.keepWaiting register
  cases item.waiterId with
  | none => exact ⟨config, inFlight, waiters, waiterSeq, keyServed⟩
  | some waiterId =>
    dsimp only
    rw [waiters]
    split
    · exact ⟨config, inFlight, rfl, waiterSeq, keyServed⟩
    · rw [waiterSeq]
      exact ⟨config, inFlight, rfl, rfl, keyServed⟩

theorem Alike.keepEach (alike : Alike one other) (items : List AdmissionItem) :
    Alike (one.keepEach items) (other.keepEach items) := by
  induction items generalizing one other with
  | nil => exact alike
  | cons item rest ih => exact ih (alike.keepWaiting item)

theorem Alike.better (alike : Alike one other) (waiter rival : QueueWaiter) :
    one.better waiter rival = other.better waiter rival := by
  unfold QueueController.better servedOf
  rw [alike.config, alike.keyServed]

theorem Alike.goesAhead (alike : Alike one other) (item : AdmissionItem) :
    one.GoesAhead item ↔ other.GoesAhead item := by
  have kept := alike.keepWaiting item
  have order : one.usesOrder item = other.usesOrder item := by
    unfold usesOrder ordered
    rw [alike.config]
  have self : (one.keepWaiting item).selfOf item = (other.keepWaiting item).selfOf item := by
    unfold selfOf
    rw [kept.waiters]
  unfold GoesAhead Foremost
  rw [order, alike.waiters, kept.waiters, self]
  simp only [kept.better]

variable (controller) in
theorem checkRate_alike (now : Nat) : Alike (controller.checkRate now).1 controller := by
  unfold checkRate
  split
  · exact ⟨rfl, rfl, rfl, rfl, rfl⟩
  · split
    · dsimp only
      split <;> exact ⟨rfl, rfl, rfl, rfl, rfl⟩
    · dsimp only [renewWindow]
      split <;> split <;> exact ⟨rfl, rfl, rfl, rfl, rfl⟩

theorem dropWhile_suffix_length {α : Type} (drops : α → Bool) {part whole : List α}
    (suffix : part <:+ whole) :
    (part.dropWhile drops).length ≤ (whole.dropWhile drops).length := by
  obtain ⟨before, rfl⟩ := suffix
  induction before with
  | nil => exact Nat.le_refl _
  | cons first rest ih =>
    rw [List.cons_append, List.dropWhile_cons]
    split
    · exact ih
    · have shorter := (List.dropWhile_sublist drops (l := part)).length_le
      simp only [List.length_cons, List.length_append]
      omega

/-- What a rate window has used up as of a moment. -/
def used (controller : QueueController) (now : Nat) (rate : RateLimit) : Nat :=
  match rate.algorithm with
  | .sliding =>
    (controller.slidingAdmits.dropWhile fun admitted => admitted + rate.periodMs ≤ now).length
  | .fixed => (controller.renewWindow now rate.periodMs).windowCount

theorem checkRate_open_iff (now : Nat) : (controller.checkRate now).2 = none ↔
    ∀ rate, controller.config.rateLimit = some rate → controller.used now rate < rate.limit := by
  unfold checkRate used
  cases controller.config.rateLimit with
  | none => simp
  | some rate =>
    simp only [Option.some.injEq, forall_eq']
    cases rate.algorithm with
    | sliding =>
      dsimp only
      split <;> simp only [reduceCtorEq, true_iff, false_iff] <;> omega
    | fixed =>
      dsimp only
      split <;> simp only [reduceCtorEq, true_iff, false_iff] <;> omega

theorem checkRate_used (now later : Nat) (rate : RateLimit)
    (limited : controller.config.rateLimit = some rate) :
    (controller.checkRate now).1.used later rate ≤ controller.used later rate := by
  unfold used
  cases algorithm : rate.algorithm with
  | sliding =>
    have pruned : (controller.checkRate now).1.slidingAdmits =
        controller.slidingAdmits.dropWhile fun admitted => admitted + rate.periodMs ≤ now := by
      simp only [checkRate, limited, algorithm]
      split <;> rfl
    dsimp only
    rw [pruned]
    exact dropWhile_suffix_length _ (List.dropWhile_suffix _)
  | fixed =>
    have renewed : (controller.checkRate now).1 = controller.renewWindow now rate.periodMs := by
      simp only [checkRate, limited, algorithm]
      split <;> rfl
    dsimp only
    rw [renewed]
    unfold renewWindow
    -- A window that has begun anew has nothing used up.
    by_cases old : controller.windowStart + rate.periodMs ≤ now
    · rw [if_pos old]
      split <;> exact Nat.zero_le _
    · exact Nat.le_of_eq (by rw [if_neg old])

variable (controller) in
theorem keepWaiting_waits (item : AdmissionItem) : ∃ waiters waiterSeq,
    controller.keepWaiting item = { controller with waiters, waiterSeq } := by
  unfold keepWaiting register
  split
  · split <;> exact ⟨_, _, rfl⟩
  · exact ⟨_, _, rfl⟩

theorem keepWaiting_used (item : AdmissionItem) (now : Nat) (rate : RateLimit) :
    (controller.keepWaiting item).used now rate = controller.used now rate := by
  obtain ⟨waiters, waiterSeq, kept⟩ := keepWaiting_waits controller item
  rw [kept]
  unfold used renewWindow
  cases rate.algorithm with
  | sliding => rfl
  | fixed =>
    dsimp only
    split <;> rfl

theorem open_after_blocked {now later : Nat} (item : AdmissionItem)
    (openLater : (controller.checkRate later).2 = none) :
    (((controller.checkRate now).1.keepWaiting item).checkRate later).2 = none := by
  refine (checkRate_open_iff later).mpr fun rate limited => ?_
  have config : controller.config.rateLimit = some rate := by
    rw [keepWaiting_config, (checkRate_inFlight now).2] at limited
    exact limited
  rw [keepWaiting_used]
  exact Nat.lt_of_le_of_lt (checkRate_used now later rate config)
    ((checkRate_open_iff later).mp openLater rate config)

/-- A call that finds a slot free and the window open is admitted exactly when it goes ahead. -/
theorem tryAdmit_free (distinct : controller.waiters.Distinct) (free : controller.full = false)
    {now : Nat} (open_ : (controller.checkRate now).2 = none) (item : AdmissionItem) :
    controller.GoesAhead item ∧ (controller.tryAdmit now item).2 = .admitted ∨
      ¬ controller.GoesAhead item ∧ (controller.tryAdmit now item).2 ≠ .admitted ∧
        (controller.tryAdmit now item).1 = (controller.checkRate now).1.keepWaiting item := by
  have alike := checkRate_alike controller now
  have goes := alike.goesAhead item
  have next := isNext_iff (keepWaiting_distinct (alike.waiters ▸ distinct) item) item
  have order : (controller.checkRate now).1.usesOrder item = controller.usesOrder item := by
    unfold usesOrder ordered
    rw [alike.config]
  have free' : (controller.checkRate now).1.full = false := by
    unfold full at free ⊢
    rw [alike.config, alike.inFlight]
    exact free
  unfold tryAdmit
  rw [← goes]
  generalize found : controller.checkRate now = looked at *
  obtain ⟨checked, retryAt⟩ := looked
  cases open_
  dsimp only at *
  have ordered_ : (checked.ordered || item.priority.isSome || item.waiterId.isSome) =
      checked.usesOrder item := rfl
  rw [ordered_, free']
  simp only [Bool.false_eq_true, if_false]
  by_cases waits : (checked.usesOrder item && !checked.waiters.rows.isEmpty) = true
  · rw [if_pos waits]
    obtain ⟨uses, some_⟩ := Bool.and_eq_true_iff.mp waits
    have goesIff : checked.GoesAhead item ↔ (checked.keepWaiting item).Foremost item := by
      unfold GoesAhead
      rw [uses]
      simp only [Bool.not_eq_true', List.isEmpty_eq_false_iff] at some_
      simp [some_]
    rw [goesIff, ← next]
    by_cases first : (checked.keepWaiting item).isNext item = true
    · rw [if_pos first]
      exact .inl ⟨first, rfl⟩
    · rw [if_neg first]
      exact .inr ⟨first, nofun, rfl⟩
  · -- A call that is not ordered, or that nobody waits with, is admitted at once.
    rw [if_neg waits]
    refine .inl ⟨?_, rfl⟩
    cases uses : checked.usesOrder item with
    | false => exact .inl uses
    | true =>
      rw [uses, Bool.true_and, Bool.not_eq_true', Bool.not_eq_false] at waits
      exact .inr (.inl (List.isEmpty_iff.mp waits))

end Blocked

theorem tryEach_admits_iff (distinct : controller.waiters.Distinct) (free : controller.full = false)
    (calls : List (Nat × AdmissionItem)) (open_ : controller.Open calls) :
    .admitted ∈ controller.tryEach calls ↔ controller.SomeGoesAhead calls := by
  induction calls generalizing controller with
  | nil => simp [tryEach, SomeGoesAhead]
  | cons call rest ih =>
    obtain ⟨now, item⟩ := call
    have opens : (controller.checkRate now).2 = none := open_ _ List.mem_cons_self
    rw [tryEach, List.mem_cons]
    rcases tryAdmit_free distinct free opens item with ⟨goes, admitted⟩ | ⟨waits, blocked, kept⟩
    · -- The first call goes ahead.
      refine iff_of_true (.inl admitted.symm) ⟨[], (now, item), rest, rfl, goes⟩
    · have alike := (checkRate_alike controller now).keepWaiting item
      rw [kept]
      have later := ih (keepWaiting_distinct (checkRate_waiters controller now ▸ distinct) item) (by
          unfold full at free ⊢
          rw [alike.config, alike.inFlight, keepWaiting_config, keepWaiting_inFlight]
          exact free) fun call listed =>
        open_after_blocked item (open_ call (List.mem_cons_of_mem _ listed))
      rw [or_iff_right fun same => blocked same.symm, later]
      -- The call was kept waiting, and the others are compared with it as well.
      constructor
      · rintro ⟨before, other, after, rfl, goes⟩
        refine ⟨(now, item) :: before, other, after, rfl, ?_⟩
        exact ((alike.keepEach (before.map Prod.snd)).goesAhead other.2).mp goes
      · rintro ⟨before, other, after, split, goes⟩
        cases before with
        | nil =>
          cases split
          exact absurd goes waits
        | cons first before =>
          cases split
          refine ⟨before, other, after, rfl, ?_⟩
          exact ((alike.keepEach (before.map Prod.snd)).goesAhead other.2).mpr goes

/--
Where a slot is free and the window open, calls that are each made once admit one of them exactly
when some call goes ahead of all waiters that are kept by then.

The kept waiters are those that were blocked before, whether or not they still call, and the calls
that were made first.
-/
theorem free_slot_admits_iff {config : QueueConfig} (reached : Reached config controller)
    (free : controller.full = false) (calls : List (Nat × AdmissionItem))
    (open_ : controller.Open calls) :
    .admitted ∈ controller.tryEach calls ↔ controller.SomeGoesAhead calls :=
  tryEach_admits_iff reached.distinct free calls open_

/-- One slot. -/
def oneSlot : QueueConfig := { name := "mail", concurrency := some 1 }

def givenUp : AdmissionItem := { priority := some 5, waiterId := some "given-up" }

/-- A call that goes on retrying. -/
def retrying : AdmissionItem := { waiterId := some "retrying" }

/-- The slot was taken, two calls were blocked, and the slot was given back. -/
def slotGivenBack : QueueController :=
  ((((({ config := oneSlot } : QueueController).tryAdmit 1 { waiterId := some "first" }).1.tryAdmit 2
    givenUp).1.tryAdmit 3 retrying).1).release

theorem slotGivenBack_reached : Reached oneSlot slotGivenBack :=
  .release (.tryAdmit (.tryAdmit (.tryAdmit .start 1 _) 2 givenUp) 3 retrying)

/-- Where both calls still retry, one of them is admitted exactly when one goes ahead. -/
theorem free_slot_admits_iff_both :
    .admitted ∈ slotGivenBack.tryEach [(4, retrying), (5, givenUp)] ↔
      slotGivenBack.SomeGoesAhead [(4, retrying), (5, givenUp)] :=
  free_slot_admits_iff slotGivenBack_reached (by decide) _ fun call listed => by
    simp only [List.mem_cons, List.not_mem_nil, or_false] at listed
    rcases listed with rfl | rfl <;> rfl

/-- A waiter that has been given up keeps the slot from the one that still retries. -/
theorem given_up_waiter_blocks :
    ¬ ∀ (config : QueueConfig) (controller : QueueController), Reached config controller →
      controller.full = false → ∀ calls : List (Nat × AdmissionItem), calls ≠ [] →
        controller.Open calls → .admitted ∈ controller.tryEach calls := by
  intro claimed
  have admitted := claimed oneSlot slotGivenBack slotGivenBack_reached (by decide) [(4, retrying)]
    (List.cons_ne_nil _ _) fun call listed => by
      rw [List.mem_singleton.mp listed]
      rfl
  have blocked : .admitted ∉ slotGivenBack.tryEach [(4, retrying)] := by decide
  exact blocked admitted

end QueueController

end Durable
