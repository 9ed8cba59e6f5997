import Durable.Interleaving.Table

/-! `QueueController`: the in-process admission of one flow-control queue, and who waits on it. -/

namespace Durable

open Interleaving (Table)

/-- How a queue counts the admissions of a period. -/
inductive RateAlgorithm where
  | fixed | sliding
deriving Repr, DecidableEq, Inhabited

/-- At most so many admissions in a period. -/
structure RateLimit where
  limit : Nat
  periodMs : Nat
  algorithm : RateAlgorithm := .fixed
deriving Repr, DecidableEq, Inhabited

/-- A queue's caps and its ordering. -/
structure QueueConfig where
  name : String
  concurrency : Option Nat := none
  rateLimit : Option RateLimit := none
  retryMs : Option Nat := none
  fairnessByKey : Bool := false
  lifo : Bool := false
deriving Repr, DecidableEq, Inhabited

/-- The hints of one call. -/
structure AdmissionItem where
  priority : Option Int := none
  key : Option String := none
  waiterId : Option String := none
deriving Repr, DecidableEq, Inhabited

/-- An admission, or when to ask again. -/
inductive QueueAdmission where
  | admitted
  | blocked (retryAt : Nat)
deriving Repr, DecidableEq, Inhabited

/-- A call that was blocked. -/
structure QueueWaiter where
  priority : Int
  key : Option String
  seq : Option Nat
deriving Repr, DecidableEq, Inhabited

/-- The state of one queue's controller. -/
structure QueueController where
  config : QueueConfig
  inFlight : Nat := 0
  windowStart : Nat := 0
  windowCount : Nat := 0
  slidingAdmits : List Nat := []
  waiters : Table String QueueWaiter := .empty
  waiterSeq : Nat := 0
  keyServed : Table String Nat := .empty
  servedTick : Nat := 0
deriving Repr, DecidableEq

namespace QueueController

variable (controller : QueueController)

/-- Whether waiting calls are ordered. -/
def ordered : Bool := controller.config.fairnessByKey || controller.config.lifo

/-- When a fairness bucket was last served; never is before everything. -/
def servedOf (key : Option String) : Nat :=
  (key.bind controller.keyServed.get).getD 0

/-- One arrival is before another. -/
def arrivesBefore : Option Nat → Option Nat → Bool
  | some left, some right => left < right
  | some _, none => true
  | none, _ => false

/-- One waiter is to be admitted before another. -/
def better (one other : QueueWaiter) : Bool :=
  if one.priority ≠ other.priority then other.priority < one.priority
  else if controller.config.fairnessByKey ∧
      controller.servedOf one.key ≠ controller.servedOf other.key then
    controller.servedOf one.key < controller.servedOf other.key
  else if controller.config.lifo then arrivesBefore other.seq one.seq
  else arrivesBefore one.seq other.seq

/-- Keep a blocked call; its arrival is set once. -/
def register (waiterId : String) (item : AdmissionItem) : QueueController :=
  match controller.waiters.get waiterId with
  | some existing =>
    { controller with
      waiters := controller.waiters.set waiterId
        { existing with priority := item.priority.getD 0, key := item.key } }
  | none =>
    { controller with
      waiters := controller.waiters.set waiterId
        { priority := item.priority.getD 0, key := item.key, seq := some controller.waiterSeq }
      waiterSeq := controller.waiterSeq + 1 }

/-- The call is the best of all that wait. -/
def isNext (item : AdmissionItem) : Bool :=
  let self := (item.waiterId.bind controller.waiters.get).getD
    { priority := item.priority.getD 0, key := item.key, seq := none }
  let best := controller.waiters.rows.foldl (fun (best : Option String × QueueWaiter) entry =>
    if controller.better entry.2 best.2 then (some entry.1, entry.2) else best)
    (item.waiterId, self)
  best.1 == item.waiterId

/-- Begin a new fixed window once the last one is over. -/
def renewWindow (now periodMs : Nat) : QueueController :=
  if controller.windowStart + periodMs ≤ now then
    { controller with windowStart := now, windowCount := 0 }
  else controller

/-- The rate window as of now, and when to ask again if it is used up. -/
def checkRate (now : Nat) : QueueController × Option Nat :=
  match controller.config.rateLimit with
  | none => (controller, none)
  | some rate =>
    match rate.algorithm with
    | .sliding =>
      let live := controller.slidingAdmits.dropWhile fun admitted => admitted + rate.periodMs ≤ now
      let pruned := { controller with slidingAdmits := live }
      if rate.limit ≤ live.length then (pruned, some (live.headD 0 + rate.periodMs))
      else (pruned, none)
    | .fixed =>
      let renewed := controller.renewWindow now rate.periodMs
      if rate.limit ≤ renewed.windowCount then
        (renewed, some (renewed.windowStart + rate.periodMs))
      else (renewed, none)

/-- Keep the call waiting where calls are ordered and it has an id. -/
def keepWaiting (item : AdmissionItem) : QueueController :=
  match item.waiterId with
  | some waiterId => controller.register waiterId item
  | none => controller

/-- Take a slot, and one of the window's admissions. -/
def admitCall (now : Nat) (item : AdmissionItem) : QueueController :=
  let counted :=
    match controller.config.rateLimit with
    | none => controller
    | some rate =>
      match rate.algorithm with
      | .sliding => { controller with slidingAdmits := controller.slidingAdmits ++ [now] }
      | .fixed => { controller with windowCount := controller.windowCount + 1 }
  let seated := { counted with inFlight := counted.inFlight + 1 }
  let unqueued :=
    match item.waiterId with
    | some waiterId => { seated with waiters := seated.waiters.erase waiterId }
    | none => seated
  match item.key with
  | some key =>
    { unqueued with
      keyServed := unqueued.keyServed.set key (unqueued.servedTick + 1)
      servedTick := unqueued.servedTick + 1 }
  | none => unqueued

/-- The slots are all taken. -/
def full : Bool := controller.config.concurrency.any (· ≤ controller.inFlight)

/-- Admit one call, or say when it may ask again. -/
def tryAdmit (now : Nat) (item : AdmissionItem) : QueueController × QueueAdmission :=
  match controller.checkRate now with
  | (checked, some retryAt) => (checked, .blocked retryAt)
  | (checked, none) =>
    let retry := QueueAdmission.blocked (now + checked.config.retryMs.getD 1000)
    let usingOrder := checked.ordered || item.priority.isSome || item.waiterId.isSome
    if checked.full then (if usingOrder then checked.keepWaiting item else checked, retry)
    else if usingOrder && !checked.waiters.rows.isEmpty then
      let waiting := checked.keepWaiting item
      if waiting.isNext item then (waiting.admitCall now item, .admitted) else (waiting, retry)
    else (checked.admitCall now item, .admitted)

/-- Give a slot back. -/
def release : QueueController := { controller with inFlight := controller.inFlight - 1 }

variable {controller}

/-- Keeping a call waiting takes no slot. -/
@[simp] theorem keepWaiting_inFlight (item : AdmissionItem) :
    (controller.keepWaiting item).inFlight = controller.inFlight := by
  unfold keepWaiting register
  split
  · split <;> rfl
  · rfl

/-- Keeping a call waiting leaves the caps alone. -/
@[simp] theorem keepWaiting_config (item : AdmissionItem) :
    (controller.keepWaiting item).config = controller.config := by
  unfold keepWaiting register
  split
  · split <;> rfl
  · rfl

/-- A new window takes no slot. -/
theorem renewWindow_inFlight (now periodMs : Nat) :
    (controller.renewWindow now periodMs).inFlight = controller.inFlight ∧
      (controller.renewWindow now periodMs).config = controller.config := by
  unfold renewWindow
  split <;> exact ⟨rfl, rfl⟩

/-- Looking at the rate window takes no slot. -/
theorem checkRate_inFlight (now : Nat) :
    (controller.checkRate now).1.inFlight = controller.inFlight ∧
      (controller.checkRate now).1.config = controller.config := by
  unfold checkRate
  split
  · exact ⟨rfl, rfl⟩
  · split
    · dsimp only
      split <;> exact ⟨rfl, rfl⟩
    · dsimp only
      split <;> exact renewWindow_inFlight now _

/-- An admission takes one slot. -/
theorem admit_inFlight (now : Nat) (item : AdmissionItem) :
    (controller.admitCall now item).inFlight = controller.inFlight + 1 ∧
      (controller.admitCall now item).config = controller.config := by
  obtain ⟨priority, key, waiterId⟩ := item
  unfold admitCall
  cases key <;> cases waiterId <;> dsimp only <;> split <;>
    first | exact ⟨rfl, rfl⟩ | (split <;> exact ⟨rfl, rfl⟩)

/-- The slots that are taken after a call: one more if it is admitted, and then within the cap. -/
structure Took (before after : QueueController) (admission : QueueAdmission) : Prop where
  config : after.config = before.config
  counted : after.inFlight = before.inFlight + if admission = .admitted then 1 else 0
  capped : admission = .admitted → ∀ cap, before.config.concurrency = some cap →
    after.inFlight ≤ cap

/-- A blocked call takes nothing. -/
theorem Took.blocked {before after : QueueController} {retryAt : Nat}
    (config : after.config = before.config) (same : after.inFlight = before.inFlight) :
    Took before after (.blocked retryAt) :=
  ⟨config, by simp [same], nofun⟩

/-- A call that is admitted takes one slot within the cap, and one that is blocked none. -/
theorem tryAdmit_took (controller : QueueController) (now : Nat) (item : AdmissionItem) :
    Took controller (controller.tryAdmit now item).1 (controller.tryAdmit now item).2 := by
  unfold tryAdmit
  have rate := @checkRate_inFlight controller now
  split
  · -- The window is used up.
    rename_i checked retryAt found
    rw [found] at rate
    exact .blocked rate.2 rate.1
  · rename_i checked found
    rw [found] at rate
    obtain ⟨slots, config⟩ := rate
    dsimp only at slots config ⊢
    split
    · -- The slots are all taken.
      split
      · exact .blocked (by simp [config]) (by simp [slots])
      · exact .blocked config slots
    · rename_i free
      have capped : ∀ cap, controller.config.concurrency = some cap → controller.inFlight < cap := by
        intro cap limit
        simp only [full, config, limit, slots, Option.any_some, decide_eq_true_eq] at free
        omega
      have took : ∀ waiting : QueueController, waiting.inFlight = controller.inFlight →
          waiting.config = controller.config →
            Took controller (waiting.admitCall now item) .admitted := by
        intro waiting same kept
        obtain ⟨seat, limits⟩ := @admit_inFlight waiting now item
        refine ⟨limits.trans kept, by simp [seat, same], fun _ cap limit => ?_⟩
        have room := capped cap limit
        omega
      split
      · -- Ordered calls are admitted in their turn.
        split
        · exact took _ (by simp [slots]) (by simp [config])
        · exact .blocked (by simp [config]) (by simp [slots])
      · exact took _ slots config

section Waiters

/-- A controller that calls and releases have led to. -/
inductive Reached (config : QueueConfig) : QueueController → Prop where
  | start : Reached config { config }
  | tryAdmit {controller : QueueController} (before : Reached config controller) (now : Nat)
      (item : AdmissionItem) : Reached config (controller.tryAdmit now item).1
  | release {controller : QueueController} (before : Reached config controller) :
      Reached config controller.release

variable (controller : QueueController)

/-- Whether a call is ordered among those that wait. -/
def usesOrder (item : AdmissionItem) : Bool :=
  controller.ordered || item.priority.isSome || item.waiterId.isSome

/-- A call as it is compared: as the waiter that is kept for it, or by its hints alone. -/
def selfOf (item : AdmissionItem) : QueueWaiter :=
  (item.waiterId.bind controller.waiters.get).getD
    { priority := item.priority.getD 0, key := item.key, seq := none }

/-- No kept waiter is to be admitted before a call. -/
def Foremost (item : AdmissionItem) : Prop :=
  ∀ waiterId waiter, controller.waiters.get waiterId = some waiter →
    controller.better waiter (controller.selfOf item) = false

/-- A call is not ordered, or nobody waits, or it is foremost once it is kept itself. -/
def GoesAhead (item : AdmissionItem) : Prop :=
  controller.usesOrder item = false ∨ controller.waiters.rows = [] ∨
    (controller.keepWaiting item).Foremost item

/-- Calls are kept waiting, one after the other. -/
def keepEach (items : List AdmissionItem) : QueueController :=
  items.foldl keepWaiting controller

/-- Each call of a list is made once, one after the other; what they are answered. -/
def tryEach (controller : QueueController) : List (Nat × AdmissionItem) → List QueueAdmission
  | [] => []
  | (now, item) :: rest =>
    (controller.tryAdmit now item).2 :: tryEach (controller.tryAdmit now item).1 rest

/-- The rate window is open for every call of a list. -/
def Open (calls : List (Nat × AdmissionItem)) : Prop :=
  ∀ call ∈ calls, (controller.checkRate call.1).2 = none

/-- Some call goes ahead of all waiters that are kept by the time it is made. -/
def SomeGoesAhead (calls : List (Nat × AdmissionItem)) : Prop :=
  ∃ before call after, calls = before ++ call :: after ∧
    (controller.keepEach (before.map Prod.snd)).GoesAhead call.2

end Waiters

end QueueController

end Durable
