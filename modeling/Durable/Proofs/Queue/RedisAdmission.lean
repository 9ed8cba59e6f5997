import Durable.Data.Ids
import Durable.Interleaving.Histories
import Durable.Queue.RedisAdmission
import Mathlib.Data.List.Induction
import Mathlib.Data.List.Nodup
import Mathlib.Data.List.Perm.Subperm

/-! A queue's slots and rate windows, over every order in which instances call the script. -/

namespace Durable

open Interleaving (Table within recent within_cons_le within_zero)

namespace RedisQueue

/-- What an instance does to a queue's keys. -/
inductive Call where
  | tryAdmit (server : Nat) (params : AcquireParams)
  | release (slotId : String)
  | refreshLiveness (options : RedisAdmissionOptions) (server : Nat)

/-- A queue after one call. -/
def step (queue : RedisQueue) : Call → RedisQueue
  | .tryAdmit server params => (queue.tryAdmit server params).1
  | .release slotId => queue.release slotId
  | .refreshLiveness options server => queue.refreshLiveness options server

/-- A queue after calls, one after the other. -/
def run (queue : RedisQueue) (calls : List Call) : RedisQueue := calls.foldl step queue

variable {queue : RedisQueue} {server : Nat} {params : AcquireParams}

section Script

variable (queue server params) in
/-- Looking at the rate changes the rolling window alone. -/
theorem checkRate_frame : ∃ rolling, (queue.checkRate server params).1 = { queue with rolling } := by
  unfold checkRate
  split
  · exact ⟨_, rfl⟩
  · split
    · dsimp only
      split <;> exact ⟨_, rfl⟩
    · split <;> exact ⟨_, rfl⟩

variable (queue params) in
/-- Keeping a place changes the places and the last arrival alone. -/
theorem register_frame : ∃ waiters seq, queue.register params = { queue with waiters, seq } := by
  unfold register
  split <;> exact ⟨_, _, rfl⟩

variable (queue server params) in
/--
A script reclaims and prunes, looks at the rate, and may keep the call's place.

It admits the call only into an open window and a free slot.
-/
theorem tryAdmit_cases : ∃ waiters seq,
    (queue.tryAdmit server params).2 ≠ .admitted ∧ (queue.tryAdmit server params).1 =
        { ((queue.current server params).checkRate server params).1 with waiters, seq } ∨
      (queue.tryAdmit server params).2 = .admitted ∧
        ((queue.current server params).checkRate server params).2 = none ∧
        (queue.current server params).full params.config = false ∧
        (queue.tryAdmit server params).1 = ({ ((queue.current server params).checkRate server
          params).1 with waiters, seq } : RedisQueue).admitCall server params := by
  obtain ⟨rolling, framed⟩ := checkRate_frame (queue.current server params) server params
  unfold tryAdmit
  generalize (queue.current server params).checkRate server params = looked at *
  obtain ⟨checked, retryAt⟩ := looked
  dsimp only at framed ⊢
  cases retryAt with
  | some retryAt => exact ⟨checked.waiters, checked.seq, .inl ⟨by simp, rfl⟩⟩
  | none =>
    have kept : ∃ waiters seq, (if params.hasOrdering then checked.register params else checked) =
        { checked with waiters, seq } := by
      by_cases ordering : params.hasOrdering = true
      · rw [if_pos ordering]
        exact register_frame checked params
      · rw [if_neg ordering]
        exact ⟨_, _, rfl⟩
    obtain ⟨waiters, seq, kept⟩ := kept
    refine ⟨waiters, seq, ?_⟩
    simp only [kept]
    split
    · exact .inl ⟨by simp, rfl⟩
    · rename_i free
      rw [Bool.not_eq_true, Bool.or_eq_false_iff] at free
      exact .inr ⟨rfl, trivial, by simpa [framed, full] using free.1, rfl⟩

variable (queue server params) in
/-- An admission takes the slot of its id for the instance that calls, and is counted. -/
theorem admitCall_frame : ∃ keyServed servedSeq, queue.admitCall server params =
    ({ queue with
        slots := queue.slots.set params.waiterId params.options.instanceId
        waiters := queue.waiters.erase params.waiterId
        keyServed, servedSeq } : RedisQueue).countAdmission server params := by
  unfold admitCall serveKey
  split <;> exact ⟨_, _, rfl⟩

variable (queue server params) in
theorem admitCall_keys :
    (queue.admitCall server params).slots =
        queue.slots.set params.waiterId params.options.instanceId ∧
      (queue.admitCall server params).waiters = queue.waiters.erase params.waiterId ∧
      (queue.admitCall server params).seq = queue.seq := by
  obtain ⟨keyServed, servedSeq, framed⟩ := admitCall_frame queue server params
  rw [framed, countAdmission]
  split
  · exact ⟨rfl, rfl, rfl⟩
  · split <;> exact ⟨rfl, rfl, rfl⟩

/-- The slots after a script: those of instances that are alive, and the one it takes. -/
theorem tryAdmit_slots : (queue.tryAdmit server params).1.slots =
    if (queue.tryAdmit server params).2 = .admitted then
      (queue.current server params).slots.set params.waiterId params.options.instanceId
    else (queue.current server params).slots := by
  obtain ⟨rolling, framed⟩ := checkRate_frame (queue.current server params) server params
  obtain ⟨waiters, seq, ⟨blocked, same⟩ | ⟨admitted, -, -, same⟩⟩ := tryAdmit_cases queue server params
  · rw [if_neg blocked, same, framed]
  · rw [if_pos admitted, same, (admitCall_keys _ server params).1, framed]

end Script

section Slots

theorem length_set_le {Value : Type} (table : Table String Value) (key : String) (value : Value) :
    (table.set key value).rows.length ≤ table.rows.length + 1 := by
  obtain ⟨rows⟩ := table
  show (Table.setRow key value rows).length ≤ rows.length + 1
  induction rows with
  | nil => exact Nat.le_refl _
  | cons row rest ih =>
    unfold Table.setRow
    split
    · exact Nat.le_succ _
    · exact Nat.succ_le_succ ih

/-- Slots are kept once each, and no more of them than the cap. -/
structure Fits (cap : Nat) (queue : RedisQueue) : Prop where
  distinct : queue.slots.Distinct
  few : queue.slots.rows.length ≤ cap

/-- Every call keeps the cap. -/
theorem Fits.step {cap : Nat} (fits : Fits cap queue) (positive : 0 < cap) {call : Call}
    (capped : ∀ server params, call = .tryAdmit server params → params.config.concurrency = some cap) :
    Fits cap (queue.step call) := by
  obtain ⟨distinct, few⟩ := fits
  cases call with
  | release slotId =>
    refine ⟨distinct.erase slotId, Nat.le_trans ?_ few⟩
    show (Table.eraseRow slotId queue.slots.rows).length ≤ _
    rw [Table.eraseRow_eq_filter]
    exact List.length_filter_le _ _
  | refreshLiveness options server => exact ⟨distinct, few⟩
  | tryAdmit server params =>
    have kept : (queue.current server params).slots.Distinct :=
      List.Nodup.sublist (List.Sublist.map _ List.filter_sublist) distinct
    have fewer : (queue.current server params).slots.rows.length ≤ cap :=
      Nat.le_trans (List.length_filter_le _ _) few
    obtain ⟨waiters, seq, ⟨blocked, -⟩ | ⟨admitted, -, free, -⟩⟩ := tryAdmit_cases queue server params
    · unfold RedisQueue.step
      refine ⟨?_, ?_⟩ <;> rw [tryAdmit_slots, if_neg blocked]
      · exact kept
      · exact fewer
    · unfold RedisQueue.step
      refine ⟨?_, ?_⟩ <;> rw [tryAdmit_slots, if_pos admitted]
      · exact kept.set _ _
      · -- The script counts the slots it found alive.
        rw [full, capped server params rfl] at free
        simp only [Option.any_some, Bool.and_eq_false_iff, decide_eq_false_iff_not] at free
        exact Nat.le_trans (length_set_le _ _ _) (by omega)

/-- A slot outlasts a call that neither gives it back, nor is made under its id, nor finds the
instance that holds it gone. -/
theorem slot_outlasts (distinct : queue.slots.Distinct) {slot owner : String}
    (held : queue.slots.get slot = some owner) {call : Call} (kept : call ≠ .release slot)
    (beats : ∀ server params, call = .tryAdmit server params → params.waiterId ≠ slot ∧
      (queue.refreshLiveness params.options server).isAlive server owner = true) :
    (queue.step call).slots.get slot = some owner := by
  cases call with
  | release slotId =>
    exact (Table.get_erase_ne _ fun same => kept (congrArg Call.release same)).trans held
  | refreshLiveness options server => exact held
  | tryAdmit server params =>
    obtain ⟨other, alive⟩ := beats server params rfl
    have still : (queue.current server params).slots.get slot = some owner := by
      have listed : (slot, owner) ∈ (queue.current server params).slots.rows :=
        List.mem_filter.mpr ⟨distinct.mem_rows_iff.mpr held, alive⟩
      have kept : (queue.current server params).slots.Distinct :=
        List.Nodup.sublist (List.Sublist.map _ List.filter_sublist) distinct
      exact kept.mem_rows_iff.mp listed
    show (queue.tryAdmit server params).1.slots.get slot = some owner
    rw [tryAdmit_slots]
    split
    · rw [Table.get_set_ne _ _ other, still]
    · exact still

/--
However instances call and whatever their clocks say, no more slots are taken than the cap, and an
instance keeps a slot until it is given back, for as long as every script finds it alive.
-/
theorem slots_kept {cap : Nat} (positive : 0 < cap) (calls : List Call)
    (capped : ∀ server params, .tryAdmit server params ∈ calls →
      params.config.concurrency = some cap) :
    (run {} calls).slots.rows.length ≤ cap ∧
      ∀ before after slot owner, calls = before ++ after →
        (run {} before).slots.get slot = some owner → .release slot ∉ after →
        (∀ earlier server params later, after = earlier ++ .tryAdmit server params :: later →
          params.waiterId ≠ slot ∧ ((run {} (before ++ earlier)).refreshLiveness params.options
            server).isAlive server owner = true) →
        (run {} calls).slots.get slot = some owner := by
  have fits : ∀ calls : List Call, (∀ server params, .tryAdmit server params ∈ calls →
      params.config.concurrency = some cap) → Fits cap (run {} calls) := by
    intro calls capped
    induction calls using List.reverseRecOn with
    | nil => exact ⟨Table.distinct_empty, Nat.zero_le _⟩
    | append_singleton calls call ih =>
      rw [run, List.foldl_append]
      refine (ih fun server params listed => capped server params
        (List.mem_append_left _ listed)).step positive ?_
      intro server params same
      exact capped server params (by simp [same])
  refine ⟨(fits calls capped).few, ?_⟩
  intro before after slot owner split held kept beats
  subst split
  induction after using List.reverseRecOn with
  | nil => simpa using held
  | append_singleton after call ih =>
    simp only [List.mem_append, List.mem_singleton, not_or] at kept
    rw [← List.append_assoc] at capped ⊢
    have sooner := fun server params listed => capped server params (List.mem_append_left _ listed)
    have still := ih kept.1 (fun earlier server params later same =>
      beats earlier server params (later ++ [call]) (by simp [same])) sooner
    rw [run, List.foldl_append]
    refine slot_outlasts (fits _ sooner).distinct still (Ne.symm kept.2) ?_
    rintro server params rfl
    exact beats after server params [] rfl

/-- A step that calls for the one slot of a queue with a rolling window. -/
def stepCall (step : String) (now : Nat) : AcquireParams :=
  { config :=
      { name := "mail"
        concurrency := some 1
        rateLimit := some { limit := 1, periodMs := 10, algorithm := .sliding } }
    options := { instanceId := "pod" }
    item := { waiterId := some step }
    now }

/-- The first step keeps its slot while another calls. -/
theorem slots_kept_while_called :
    (run {} [.tryAdmit 3 (stepCall "first" 3), .tryAdmit 5 (stepCall "second" 5)]).slots.get
      "first" = some "pod" :=
  (slots_kept Nat.one_pos [.tryAdmit 3 (stepCall "first" 3), .tryAdmit 5 (stepCall "second" 5)]
    fun server params listed => by
      simp only [List.mem_cons, Call.tryAdmit.injEq, List.not_mem_nil, or_false] at listed
      rcases listed with ⟨-, rfl⟩ | ⟨-, rfl⟩ <;> rfl).2
    [.tryAdmit 3 (stepCall "first" 3)] [.tryAdmit 5 (stepCall "second" 5)] "first" "pod" rfl rfl
    (by simp) fun earlier server params later split => by
      cases earlier with
      | nil =>
        cases split
        exact ⟨by decide, rfl⟩
      | cons call rest => simp at split

end Slots

section Rates

/-- A queue that calls and releases have led to, all by one clock that never goes back, and the calls
that were admitted, by id and moment, the latest first; a call counts once a moment. -/
inductive Served (config : QueueConfig) : RedisQueue → List (String × Nat) → Nat → Prop where
  | start : Served config {} [] 0
  | tryAdmit {queue : RedisQueue} {admitted : List (String × Nat)} {clock : Nat}
      (before : Served config queue admitted clock) (params : AcquireParams)
      (same : params.config = config) (later : clock ≤ params.now) :
      Served config (queue.tryAdmit params.now params).1
        (if (queue.tryAdmit params.now params).2 = .admitted then
          admitted.insert (params.waiterId, params.now) else admitted) params.now
  | release {queue : RedisQueue} {admitted : List (String × Nat)} {clock : Nat}
      (before : Served config queue admitted clock) (slotId : String) :
      Served config (queue.release slotId) admitted clock
  | refreshLiveness {queue : RedisQueue} {admitted : List (String × Nat)} {clock : Nat}
      (before : Served config queue admitted clock) (options : RedisAdmissionOptions) (server : Nat) :
      Served config (queue.refreshLiveness options server) admitted clock

variable {rate : RateLimit} {admitted : List (String × Nat)} {clock : Nat}

/-- The row of an admission in the rolling window. -/
def memberOf (admission : String × Nat) : String := admission.1 ++ ":" ++ toString admission.2

theorem memberOf_injective : Function.Injective memberOf := fun _ _ same =>
  Prod.ext_iff.mpr (separated_injective ":" rfl (by decide) same)

/-- The rolling window has every admission that is not over. -/
structure Rolls (rate : RateLimit) (clock : Nat) (queue : RedisQueue)
    (admitted : List (String × Nat)) : Prop where
  distinct : queue.rolling.Distinct
  nodup : admitted.Nodup
  past : ∀ admission ∈ admitted, admission.2 ≤ clock
  /-- What is not over has its row, in a key that outlasts it. -/
  kept : ∀ admission ∈ admitted, clock < admission.2 + rate.periodMs →
    queue.rolling.get (memberOf admission) = some admission.2 ∧
      admission.2 + rate.periodMs ≤ queue.rollingLapses
  windows : ∀ start, within Prod.snd rate.periodMs start admitted ≤ rate.limit

/-- A script finds the admissions that are not over, and leaves out the others. -/
theorem Rolls.live (rolls : Rolls rate clock queue admitted) {now : Nat} (later : clock ≤ now) :
    recent Prod.snd rate.periodMs now admitted ≤
        (queue.liveAdmissions now now rate.periodMs).length ∧
      Rolls rate now
        { queue with rolling := ⟨queue.liveAdmissions now now rate.periodMs⟩ } admitted := by
  obtain ⟨distinct, nodup, past, kept, windows⟩ := rolls
  have rows : ∀ admission ∈ admitted, now < admission.2 + rate.periodMs →
      (memberOf admission, admission.2) ∈ queue.liveAdmissions now now rate.periodMs := by
    intro admission listed late
    obtain ⟨row, lasts⟩ := kept admission listed (by omega)
    refine List.mem_filter.mpr ⟨?_, by simpa using late⟩
    rw [if_pos (by omega)]
    exact Table.mem_rows _ row
  have distinct' : Table.Distinct ⟨queue.liveAdmissions now now rate.periodMs⟩ := by
    refine List.Nodup.sublist (List.Sublist.map _ List.filter_sublist) ?_
    split
    · exact distinct
    · exact List.nodup_nil
  refine ⟨?_, distinct', nodup, fun admission listed => Nat.le_trans (past admission listed) later, ?_,
    windows⟩
  · -- Different admissions have different rows.
    unfold recent
    rw [List.countP_eq_length_filter, ← List.length_map memberOf]
    refine Nat.le_trans (List.subperm_of_subset ((nodup.filter _).map memberOf_injective)
      ?_).length_le (Nat.le_of_eq (List.length_map Prod.fst))
    intro member listed
    obtain ⟨admission, found, rfl⟩ := List.mem_map.mp listed
    obtain ⟨among, late⟩ := List.mem_filter.mp found
    exact List.mem_map.mpr ⟨_, rows admission among (by simpa using late), rfl⟩
  · intro admission listed late
    exact ⟨distinct'.mem_rows_iff.mp (rows admission listed late),
      (kept admission listed (by omega)).2⟩

/-- The fixed windows' counters have counted every admission. -/
structure Buckets (rate : RateLimit) (clock : Nat) (queue : RedisQueue)
    (admitted : List (String × Nat)) : Prop where
  past : ∀ admission ∈ admitted, admission.2 ≤ clock
  counted : ∀ window, admitted.countP (fun admission => admission.2 / rate.periodMs = window) ≤
    (queue.counters.get window).elim 0 WindowCounter.used
  lasts : ∀ admission ∈ admitted, ∀ counter,
    queue.counters.get (admission.2 / rate.periodMs) = some counter →
      admission.2 + rate.periodMs ≤ counter.lapses
  few : ∀ window, (queue.counters.get window).elim 0 WindowCounter.used ≤ rate.limit

/-- What a counter says while its key lasts covers what was admitted. -/
theorem Buckets.used (buckets : Buckets rate clock queue admitted) (positive : 0 < rate.periodMs)
    (now : Nat) : admitted.countP (fun admission => admission.2 / rate.periodMs = now / rate.periodMs) ≤
      queue.usedIn now (now / rate.periodMs) := by
  have counted := buckets.counted (now / rate.periodMs)
  unfold usedIn
  cases found : queue.counters.get (now / rate.periodMs) with
  | none => simpa [found] using counted
  | some counter =>
    rw [found] at counted
    rw [Option.filter_some]
    split
    · exact counted
    · -- A counter that has lapsed had no admission of the window.
      rename_i lapsed
      rw [decide_eq_true_eq] at lapsed
      refine le_of_eq_of_le (List.countP_eq_zero.mpr fun admission listed here => ?_) (Nat.zero_le _)
      have same := of_decide_eq_true here
      have lasts := buckets.lasts admission listed counter (same ▸ found)
      have first := Nat.div_add_mod now rate.periodMs
      have second := Nat.div_add_mod admission.2 rate.periodMs
      have third := Nat.mod_lt now positive
      rw [same] at second
      omega

variable (queue server) in
/-- An admission is counted in the algorithm's own keys. -/
theorem admitCall_rate (limited : params.rateLimit = some rate) :
    (rate.algorithm = .sliding →
      (queue.admitCall server params).rolling = queue.rolling.set params.member params.now ∧
        (queue.admitCall server params).rollingLapses = server + rate.periodMs * 2) ∧
    (rate.algorithm = .fixed → (queue.admitCall server params).counters =
      queue.counters.set (params.now / rate.periodMs)
        { used := queue.usedIn server (params.now / rate.periodMs) + 1
          lapses := server + rate.periodMs }) := by
  obtain ⟨keyServed, servedSeq, framed⟩ := admitCall_frame queue server params
  rw [framed, countAdmission, limited]
  obtain ⟨limit, periodMs, algorithm⟩ := rate
  cases algorithm with
  | sliding => exact ⟨fun _ => ⟨rfl, rfl⟩, nofun⟩
  | fixed => exact ⟨nofun, fun _ => rfl⟩

variable (queue server) in
/-- What a script finds of the rate: a window that is open has room. -/
theorem checkRate_open (limited : params.rateLimit = some rate) :
    (rate.algorithm = .sliding → (queue.checkRate server params).1 =
        { queue with rolling := ⟨queue.liveAdmissions server params.now rate.periodMs⟩ } ∧
      ((queue.checkRate server params).2 = none →
        (queue.liveAdmissions server params.now rate.periodMs).length < rate.limit)) ∧
    (rate.algorithm = .fixed → (queue.checkRate server params).1 = queue ∧
      ((queue.checkRate server params).2 = none →
        queue.usedIn server (params.now / rate.periodMs) < rate.limit)) := by
  rw [checkRate, limited]
  obtain ⟨limit, periodMs, algorithm⟩ := rate
  cases algorithm with
  | sliding =>
    refine ⟨fun _ => ?_, nofun⟩
    dsimp only
    split
    · exact ⟨rfl, nofun⟩
    · exact ⟨rfl, fun _ => by omega⟩
  | fixed =>
    refine ⟨nofun, fun _ => ?_⟩
    dsimp only
    split
    · exact ⟨rfl, nofun⟩
    · exact ⟨rfl, fun _ => by omega⟩

/-- A script keeps the rolling window's count. -/
theorem Rolls.tryAdmit (rolls : Rolls rate clock queue admitted)
    (limited : params.rateLimit = some rate) (sliding : rate.algorithm = .sliding)
    (later : clock ≤ params.now) :
    Rolls rate params.now (queue.tryAdmit params.now params).1
      (if (queue.tryAdmit params.now params).2 = .admitted then
        admitted.insert (params.waiterId, params.now) else admitted) := by
  obtain ⟨most, distinct, nodup, past, kept, windows⟩ := rolls.live later
  obtain ⟨looked, few⟩ := (checkRate_open (queue.current params.now params) params.now
    limited).1 sliding
  obtain ⟨waiters, seq, ⟨blocked, same⟩ | ⟨admit_, room, -, same⟩⟩ :=
    tryAdmit_cases queue params.now params
  · rw [if_neg blocked, same, looked]
    exact ⟨distinct, nodup, past, kept, windows⟩
  have fewer : recent Prod.snd rate.periodMs params.now admitted < rate.limit :=
    Nat.lt_of_le_of_lt most (few room)
  rw [if_pos admit_, same, looked]
  obtain ⟨rolling, lapses⟩ := (admitCall_rate _ params.now limited).1 sliding
  have among : ∀ admission ∈ admitted.insert (params.waiterId, params.now),
      admission = (params.waiterId, params.now) ∨ admission ∈ admitted := fun _ =>
    List.mem_insert_iff.mp
  refine ⟨?_, nodup.insert, fun admission listed => ?_, fun admission listed late => ?_, ?_⟩
  · rw [rolling]
    exact distinct.set _ _
  · rcases among admission listed with rfl | listed
    · exact Nat.le_refl _
    · exact past admission listed
  · rw [rolling, lapses, Table.get_set]
    by_cases own : params.member = memberOf admission
    · -- The row of the new admission.
      cases memberOf_injective (show memberOf (params.waiterId, params.now) = _ from own)
      rw [if_pos own]
      exact ⟨rfl, by dsimp only; omega⟩
    · rw [if_neg own]
      rcases among admission listed with rfl | listed
      · exact absurd rfl own
      · have before := past admission listed
        exact ⟨(kept admission listed late).1, by omega⟩
  · by_cases known : (params.waiterId, params.now) ∈ admitted
    · rw [List.insert_of_mem known]
      exact windows
    · rw [List.insert_of_not_mem known]
      exact within_cons_le windows fewer

/-- A script keeps the fixed windows' counts. -/
theorem Buckets.tryAdmit (buckets : Buckets rate clock queue admitted)
    (positive : 0 < rate.periodMs) (limited : params.rateLimit = some rate)
    (fixed : rate.algorithm = .fixed) (later : clock ≤ params.now) :
    Buckets rate params.now (queue.tryAdmit params.now params).1
      (if (queue.tryAdmit params.now params).2 = .admitted then
        admitted.insert (params.waiterId, params.now) else admitted) := by
  have used := buckets.used positive params.now
  obtain ⟨past, counted, lasts, few⟩ := buckets
  have sooner := fun admission listed => Nat.le_trans (past admission listed) later
  obtain ⟨looked, room_⟩ := (checkRate_open (queue.current params.now params) params.now
    limited).2 fixed
  obtain ⟨waiters, seq, ⟨blocked, same⟩ | ⟨admit_, room, -, same⟩⟩ :=
    tryAdmit_cases queue params.now params
  · rw [if_neg blocked, same, looked]
    exact ⟨sooner, counted, lasts, few⟩
  have fewer : queue.usedIn params.now (params.now / rate.periodMs) < rate.limit := room_ room
  rw [if_pos admit_, same, looked]
  have among : ∀ admission ∈ admitted.insert (params.waiterId, params.now),
      admission = (params.waiterId, params.now) ∨ admission ∈ admitted := fun _ =>
    List.mem_insert_iff.mp
  have counters := fun queue : RedisQueue =>
    (admitCall_rate queue params.now limited).2 fixed
  refine ⟨fun admission listed => ?_, fun window => ?_, fun admission listed counter stored => ?_,
    fun window => ?_⟩
  · rcases among admission listed with rfl | listed
    · exact Nat.le_refl _
    · exact sooner admission listed
  · have before := counted window
    have more : (admitted.insert (params.waiterId, params.now)).countP
          (fun admission => decide (admission.2 / rate.periodMs = window)) ≤
        admitted.countP (fun admission => decide (admission.2 / rate.periodMs = window)) +
          if params.now / rate.periodMs = window then 1 else 0 := by
      unfold List.insert
      split
      · exact Nat.le_add_right _ _
      · simp [List.countP_cons]
    rw [counters, Table.get_set]
    split at more <;> rename_i here
    · rw [if_pos here]
      subst here
      exact Nat.le_trans more (Nat.succ_le_succ used)
    · rw [if_neg here]
      exact Nat.le_trans more before
  · rw [counters, Table.get_set] at stored
    split at stored
    · cases stored
      have past' : admission.2 ≤ params.now := by
        rcases among admission listed with rfl | listed
        · exact Nat.le_refl _
        · exact sooner admission listed
      exact Nat.add_le_add_right past' _
    · rename_i other
      rcases among admission listed with rfl | listed
      · exact absurd rfl other
      · exact lasts admission listed counter stored
  · rw [counters, Table.get_set]
    split
    · exact fewer
    · exact few window

/-- What the keys of a rate limit have counted agrees with what was admitted. -/
def Counted (rate : RateLimit) (clock : Nat) (queue : RedisQueue)
    (admitted : List (String × Nat)) : Prop :=
  match rate.algorithm with
  | .sliding => Rolls rate clock queue admitted
  | .fixed => Buckets rate clock queue admitted

/-- Whatever instances call, the rate limit has counted what was admitted. -/
theorem Served.counted {config : QueueConfig} (served : Served config queue admitted clock)
    (limited : config.rateLimit = some rate) (some_ : 0 < rate.limit)
    (positive : 0 < rate.periodMs) : Counted rate clock queue admitted := by
  unfold Counted
  induction served with
  | start =>
    split
    · exact ⟨List.nodup_nil, List.nodup_nil, nofun, nofun, fun _ => Nat.zero_le _⟩
    · exact ⟨nofun, fun _ => Nat.zero_le _, nofun, fun _ => Nat.zero_le _⟩
  | tryAdmit before params same later ih =>
    have limits : params.rateLimit = some rate := by
      simp [AcquireParams.rateLimit, same, limited, some_]
    cases algorithm : rate.algorithm <;> simp only [algorithm] at ih ⊢
    · exact ih.tryAdmit positive limits algorithm later
    · exact ih.tryAdmit limits algorithm later
  | release before slotId ih =>
    split <;> rename_i algorithm <;> simp only [algorithm] at ih
    · exact ⟨ih.distinct, ih.nodup, ih.past, ih.kept, ih.windows⟩
    · exact ⟨ih.past, ih.counted, ih.lasts, ih.few⟩
  | refreshLiveness before options server ih =>
    split <;> rename_i algorithm <;> simp only [algorithm] at ih
    · exact ⟨ih.distinct, ih.nodup, ih.past, ih.kept, ih.windows⟩
    · exact ⟨ih.past, ih.counted, ih.lasts, ih.few⟩

/--
However instances that share a clock call, the fleet admits no more than the limit: in any period
where the window rolls, and in each period that begins at a multiple of its length where it is fixed.
-/
theorem fleet_within_limit {config : QueueConfig} (served : Served config queue admitted clock)
    (limited : config.rateLimit = some rate) (some_ : 0 < rate.limit) (start : Nat)
    (aligned : rate.algorithm = .fixed → rate.periodMs ∣ start) :
    within Prod.snd rate.periodMs start admitted ≤ rate.limit := by
  rcases Nat.eq_zero_or_pos rate.periodMs with none | positive
  · rw [none, within_zero]
    exact Nat.zero_le _
  have counted := served.counted limited some_ positive
  unfold Counted at counted
  cases algorithm : rate.algorithm <;> simp only [algorithm] at counted
  · obtain ⟨window, rfl⟩ := aligned algorithm
    refine Nat.le_trans ?_ (Nat.le_trans (counted.counted window) (counted.few window))
    refine List.countP_mono_left fun admission _ inside => ?_
    simp only [decide_eq_true_eq] at inside ⊢
    exact Nat.div_eq_of_lt_le (by rw [Nat.mul_comm]; exact inside.1)
      (by rw [Nat.succ_mul, Nat.mul_comm]; exact inside.2)
  · exact counted.windows start

/-- Two steps were admitted, a period apart. -/
theorem fleet_within_limit_twice : within Prod.snd 10 4 [("second", 14), ("first", 3)] ≤ 1 :=
  have served : Served (stepCall "" 0).config _ [("second", 14), ("first", 3)] 14 :=
    .tryAdmit (.release (.tryAdmit .start (stepCall "first" 3) rfl (by decide : 0 ≤ 3)) "first")
      (stepCall "second" 14) rfl (by decide : 3 ≤ 14)
  fleet_within_limit served rfl Nat.one_pos 4 nofun

end Rates

section Order

/-- One place comes before another. -/
def Ahead (queue : RedisQueue) (config : QueueConfig) (one other : WaitingPlace) : Prop :=
  other.priority < one.priority ∨
    one.priority = other.priority ∧ queue.better config one other = true

/-- The place of a call: the one that is kept for it until it is given up, or a new one. -/
def placeOf (queue : RedisQueue) (params : AcquireParams) : WaitingPlace :=
  let kept := (queue.waiters.get params.waiterId).filter (params.now < ·.expiry)
  { priority := params.item.priority.getD 0
    seq := (kept.map WaitingPlace.seq).getD (queue.seq + 1)
    fairKey := (kept.map WaitingPlace.fairKey).getD params.fairKey
    expiry := params.now + params.options.waiterTtlMs }

/-- Each call has one place, and each place an arrival of its own. -/
structure Orderly (queue : RedisQueue) : Prop where
  distinct : queue.waiters.Distinct
  past : ∀ id place, queue.waiters.get id = some place → place.seq ≤ queue.seq
  apart : ∀ id other place place', queue.waiters.get id = some place →
    queue.waiters.get other = some place' → place.seq = place'.seq → id = other

/-- Giving up some places leaves the others. -/
theorem get_filter {Value : Type} {table : Table String Value} (distinct : table.Distinct)
    (keeps : String × Value → Bool) (key : String) (value : Value) :
    Table.get ⟨table.rows.filter keeps⟩ key = some value ↔
      table.get key = some value ∧ keeps (key, value) = true := by
  have distinct' : Table.Distinct ⟨table.rows.filter keeps⟩ :=
    List.Nodup.sublist (List.Sublist.map _ List.filter_sublist) distinct
  rw [← distinct'.mem_rows_iff, ← distinct.mem_rows_iff]
  exact List.mem_filter

theorem Orderly.fewer (orderly : Orderly queue) {waiters : Table String WaitingPlace}
    (distinct : waiters.Distinct) (fewer : ∀ id place, waiters.get id = some place →
      queue.waiters.get id = some place) : Orderly { queue with waiters } :=
  ⟨distinct, fun id place found => orderly.past id place (fewer id place found),
    fun id other place place' found found' =>
      orderly.apart id other place place' (fewer id place found) (fewer other place' found')⟩

theorem Orderly.prune (orderly : Orderly queue) (now : Nat) : Orderly (queue.pruneWaiters now) :=
  orderly.fewer (List.Nodup.sublist (List.Sublist.map _ List.filter_sublist) orderly.distinct)
    fun id place found => ((get_filter orderly.distinct _ id place).mp found).1

theorem Orderly.register (orderly : Orderly queue) (params : AcquireParams) :
    Orderly (queue.register params) := by
  obtain ⟨distinct, past, apart⟩ := orderly
  unfold RedisQueue.register
  split <;> rename_i place known
  · -- The place keeps its arrival.
    have held : ∀ id place', (queue.waiters.set params.waiterId { place with
        priority := params.item.priority.getD 0
        expiry := params.now + params.options.waiterTtlMs }).get id = some place' →
        ∃ before, queue.waiters.get id = some before ∧ before.seq = place'.seq := by
      intro id place' found
      rw [Table.get_set] at found
      split at found
      · rename_i same
        cases found
        exact ⟨place, same ▸ known, rfl⟩
      · exact ⟨place', found, rfl⟩
    refine ⟨distinct.set _ _, fun id place' found => ?_, fun id other one two found found' same => ?_⟩
    · obtain ⟨before, found, seq⟩ := held id place' found
      exact seq ▸ past id before found
    · obtain ⟨before, found, seq⟩ := held id one found
      obtain ⟨before', found', seq'⟩ := held other two found'
      exact apart id other before before' found found' (seq.trans (same.trans seq'.symm))
  · refine ⟨distinct.set _ _, fun id place found => ?_, fun id other one two found found' same => ?_⟩
    · rw [Table.get_set] at found
      split at found
      · cases found
        exact Nat.le_refl _
      · exact Nat.le_succ_of_le (past id place found)
    · -- A new arrival is later than all others.
      rw [Table.get_set] at found found'
      split at found <;> split at found' <;> rename_i here there
      · exact here.symm.trans there
      · cases found
        have early := past other two found'
        simp only at same
        omega
      · cases found'
        have early := past id one found
        simp only at same
        omega
      · exact apart id other one two found found' same

/-- Every call leaves the places orderly. -/
theorem Orderly.step (orderly : Orderly queue) (call : Call) : Orderly (queue.step call) := by
  cases call with
  | release slotId => exact ⟨orderly.distinct, orderly.past, orderly.apart⟩
  | refreshLiveness options server => exact ⟨orderly.distinct, orderly.past, orderly.apart⟩
  | tryAdmit server params =>
    have pruned := orderly.prune params.now
    obtain ⟨rolling, framed⟩ := checkRate_frame (queue.current server params) server params
    show Orderly (queue.tryAdmit server params).1
    unfold tryAdmit
    generalize (queue.current server params).checkRate server params = looked at *
    obtain ⟨checked, retryAt⟩ := looked
    have found : Orderly checked := by
      rw [show checked = _ from framed]
      exact ⟨pruned.distinct, pruned.past, pruned.apart⟩
    cases retryAt with
    | some retryAt => exact found
    | none =>
      have waiting : Orderly (if params.hasOrdering then checked.register params else checked) := by
        split
        · exact found.register params
        · exact found
      dsimp only
      generalize (if params.hasOrdering then checked.register params else checked) = kept at waiting ⊢
      split
      · exact waiting
      · obtain ⟨-, waiters, seq⟩ := admitCall_keys kept server params
        have left := waiting.fewer (waiting.distinct.erase params.waiterId) fun id place held => by
          rw [Table.get_erase] at held
          split at held
          · cases held
          · exact held
        refine ⟨waiters ▸ left.distinct, ?_, waiters ▸ left.apart⟩
        rw [waiters, seq]
        exact left.past

theorem orderly_run (calls : List Call) : Orderly (run {} calls) := by
  induction calls using List.reverseRecOn with
  | nil => exact ⟨Table.distinct_empty, nofun, nofun⟩
  | append_singleton calls call ih =>
    rw [run, List.foldl_append]
    exact ih.step call

variable (queue) in
/-- Of two places of one priority that arrived apart, one is better, and not both are. -/
theorem better_order (config : QueueConfig) :
    (∀ one other, queue.better config one other = true → queue.better config other one = false) ∧
    (∀ one two three, queue.better config one two = false → queue.better config two three = false →
      queue.better config one three = false) ∧
    ∀ one other, one.seq ≠ other.seq → queue.better config one other = false →
      queue.better config other one = true := by
  unfold better
  refine ⟨fun one other => ?_, fun one two three => ?_, fun one other => ?_⟩ <;>
    generalize queue.served config one = first <;> split <;> (try split) <;> grind

/-- The best place is the one that no other comes before. -/
theorem bestId_iff (orderly : Orderly queue) (config : QueueConfig) {id : String}
    {own : WaitingPlace} (known : queue.waiters.get id = some own) :
    queue.bestId config = some id ↔ ∀ other place, queue.waiters.get other = some place →
      other ≠ id → ¬ queue.Ahead config place own := by
  obtain ⟨asymmetric, through, total⟩ := better_order queue config
  have rows : ∀ {other place}, (other, place) ∈ queue.waiters.rows ↔
      queue.waiters.get other = some place := orderly.distinct.mem_rows_iff
  have highest : ∀ {place : WaitingPlace}, (queue.waiters.rows.map (·.2.priority)).max? =
      some place.priority → ∀ other rival, queue.waiters.get other = some rival →
        rival.priority ≤ place.priority := fun top other rival found =>
    (List.max?_eq_some_iff.mp top).2 _ (List.mem_map.mpr ⟨_, rows.mpr found, rfl⟩)
  unfold bestId
  dsimp only
  generalize listed : queue.waiters.rows.filter (fun waiter => some waiter.2.priority ==
    (queue.waiters.rows.map (·.2.priority)).max?) = tier
  have inTier : ∀ {other : String} {place : WaitingPlace}, (other, place) ∈ tier ↔
      queue.waiters.get other = some place ∧
        (queue.waiters.rows.map (·.2.priority)).max? = some place.priority := by
    intro other place
    rw [← listed, List.mem_filter, rows, beq_iff_eq, eq_comm (a := some _)]
  have unbeaten : ∀ champ, Champion.champion (fun one other => queue.better config one.2 other.2)
      tier = some champ → ∀ item ∈ tier, queue.better config item.2 champ.2 = false :=
    fun _ => Champion.champion_unbeaten (fun _ _ => asymmetric _ _) fun _ _ _ => through _ _ _
  constructor
  · intro best other place found apart ahead
    obtain ⟨⟨id', champ⟩, wins, rfl⟩ := Option.map_eq_some_iff.mp best
    obtain ⟨last, among, same⟩ := Champion.champion_mem
      (fun one other => queue.better config one.2 other.2) (fun none : tier = [] => by
        rw [none] at wins
        cases wins)
    cases wins.symm.trans same
    obtain ⟨held, top⟩ := inTier.mp among
    cases held.symm.trans known
    rcases ahead with higher | ⟨equal, better⟩
    · have most := highest top other place found
      omega
    · have weaker := unbeaten _ wins (other, place) (inTier.mpr ⟨found, equal ▸ top⟩)
      exact Bool.false_ne_true (weaker.symm.trans better)
  · intro foremost
    have top : (queue.waiters.rows.map (·.2.priority)).max? = some own.priority := by
      refine List.max?_eq_some_iff.mpr ⟨List.mem_map.mpr ⟨_, rows.mpr known, rfl⟩, ?_⟩
      intro priority among
      obtain ⟨⟨other, place⟩, found, rfl⟩ := List.mem_map.mp among
      by_cases same : other = id
      · subst same
        cases (rows.mp found).symm.trans known
        exact Int.le_refl _
      · exact Int.not_lt.mp fun higher => foremost other place (rows.mp found) same (.inl higher)
    have member := inTier.mpr ⟨known, top⟩
    obtain ⟨⟨other, champ⟩, among, wins⟩ := Champion.champion_mem
      (fun one other => queue.better config one.2 other.2) (List.ne_nil_of_mem member)
    rw [wins]
    by_cases same : other = id
    · rw [same]
      rfl
    · -- Another in charge would come before the call.
      obtain ⟨found, top'⟩ := inTier.mp among
      have weaker := unbeaten _ wins _ member
      have better := total own champ (fun seq => same (orderly.apart id other own champ known found
        seq).symm) weaker
      exact absurd (.inr ⟨Option.some.inj (top'.symm.trans top), better⟩)
        (foremost other champ found same)

variable (server params) in
/-- What a call finds of the places is what is not given up yet. -/
theorem current_get (distinct : queue.waiters.Distinct) (id : String) :
    (queue.current server params).waiters.get id =
      (queue.waiters.get id).filter (params.now < ·.expiry) := by
  refine Option.ext fun place => ?_
  rw [Option.filter_eq_some_iff]
  exact get_filter distinct (fun waiter => decide (params.now < waiter.2.expiry)) id place

/-- The place that is kept for a call. -/
theorem register_get {checked : RedisQueue} (seq : checked.seq = queue.seq)
    (found : checked.waiters.get params.waiterId =
      (queue.waiters.get params.waiterId).filter (params.now < ·.expiry)) :
    (checked.register params).waiters.get params.waiterId = some (queue.placeOf params) := by
  unfold register placeOf
  dsimp only
  rw [← found, ← seq]
  split <;> rename_i known <;> rw [Table.get_set_self, known] <;> rfl

variable (queue) in
/-- Keeping a call's place changes no other, and no turn of a bucket. -/
theorem register_others {other : String} (apart : other ≠ params.waiterId) :
    (queue.register params).waiters.get other = queue.waiters.get other ∧
      (queue.register params).keyServed = queue.keyServed := by
  unfold register
  split <;> exact ⟨Table.get_set_ne _ _ (Ne.symm apart), rfl⟩

/--
Whatever was called before, a call that finds a slot free and the window open is admitted exactly
when no other place that has not been given up comes before its own: a caller that stopped retrying
blocks nobody for longer than its place is kept.
-/
theorem free_slot_goes_to_foremost (calls : List Call) (server : Nat) (params : AcquireParams)
    (ordered : params.hasOrdering = true)
    (free : ((run {} calls).current server params).full params.config = false)
    (open_ : (((run {} calls).current server params).checkRate server params).2 = none) :
    ((run {} calls).tryAdmit server params).2 = .admitted ↔
      ∀ other place, (run {} calls).waiters.get other = some place → params.now < place.expiry →
        other ≠ params.waiterId →
          ¬ (run {} calls).Ahead params.config place ((run {} calls).placeOf params) := by
  have orderly := orderly_run calls
  generalize run {} calls = queue at *
  have found := current_get server params orderly.distinct
  have pruned := orderly.prune params.now
  obtain ⟨rolling, framed⟩ := checkRate_frame (queue.current server params) server params
  unfold tryAdmit
  generalize (queue.current server params).checkRate server params = looked at *
  obtain ⟨checked, retryAt⟩ := looked
  cases open_
  dsimp only at framed
  have left : Orderly checked := by
    rw [framed]
    exact ⟨pruned.distinct, pruned.past, pruned.apart⟩
  have places : checked.waiters = (queue.current server params).waiters := by rw [framed]
  have turns : checked.keyServed = queue.keyServed := by rw [framed]; rfl
  have seq : checked.seq = queue.seq := by rw [framed]; rfl
  have slots : checked.full params.config = false := by rw [framed]; exact free
  have best := bestId_iff (left.register params) params.config
    (register_get seq (places ▸ found params.waiterId))
  have admits : (if checked.full params.config || params.hasOrdering &&
          (checked.register params).bestId params.config != some params.waiterId then
        (checked.register params, .blocked params.retryAt)
      else ((checked.register params).admitCall server params, QueueAdmission.admitted)).2 =
        .admitted ↔ (checked.register params).bestId params.config = some params.waiterId := by
    rw [slots, ordered]
    simp only [Bool.true_and, Bool.false_or, bne_iff_ne]
    split <;> rename_i best
    · exact iff_of_false nofun best
    · exact iff_of_true rfl (not_not.mp best)
  simp only [ordered, if_true, Bool.true_and] at admits ⊢
  rw [admits, best]
  refine forall₂_congr fun other place => ?_
  constructor
  · intro foremost held late apart ahead
    obtain ⟨same, served⟩ := register_others checked apart
    rw [places] at same
    refine foremost (same.trans ((found other).trans ?_)) apart ?_
    · rw [held]
      simpa using late
    · unfold Ahead better RedisQueue.served at ahead ⊢
      rw [served, turns]
      exact ahead
  · intro foremost held apart ahead
    obtain ⟨same, served⟩ := register_others checked apart
    rw [places] at same
    obtain ⟨held, late⟩ := Option.filter_eq_some_iff.mp
      ((found other).symm.trans (same.symm.trans held))
    refine foremost held (by simpa using late) apart ?_
    unfold Ahead better RedisQueue.served at ahead ⊢
    rw [served, turns] at ahead
    exact ahead

/-- A step that waits for the slot comes before one that asks once it is given back. -/
theorem free_slot_goes_to_foremost_waiting :
    let queue := run {} [.tryAdmit 3 (stepCall "first" 3), .tryAdmit 14 (stepCall "second" 14),
      .release "first"]
    (queue.tryAdmit 15 (stepCall "third" 15)).2 = .admitted ↔
      ∀ other place, queue.waiters.get other = some place → 15 < place.expiry →
        other ≠ "third" → ¬ queue.Ahead (stepCall "third" 15).config place
          (queue.placeOf (stepCall "third" 15)) :=
  free_slot_goes_to_foremost _ 15 (stepCall "third" 15) rfl (by decide) (by decide)

end Order

end RedisQueue

end Durable
