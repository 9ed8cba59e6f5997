import Durable.Interleaving.Entries
import Durable.Store.Takes
import Mathlib.Data.List.Nodup
import Mathlib.Data.List.Permutation

/-! The takes of a token are linearizable where each delete arbitrates between what was read. -/

namespace Durable.Takes

open Interleaving (CallRecord Placed Explains getElem?_append_of_some getElem?_concat_eq_some
  getElem?_set_cases replay replay_append replay_idle)

/-- A take's delete removes the row that was read, or finds no row of its kind: the row of a waiter
is the one read, and a signal read is still there unless there was a moment without signals. -/
def Arbitrates (state : State) (move : Move) : Prop :=
  ∀ index live, move = .advance index → state.calls[index]? = some live →
    (∀ row, live.phase = .readWaiter row →
      ∀ present, state.tables.waiter = some present → present = row) ∧
    (∀ id payload, live.phase = .readSignal id payload → live.emptied = false →
      ∃ row ∈ state.tables.signals, row.1 = id)

/-- The answer that is decided for a call. -/
def LiveCall.settled (live : LiveCall) : Option SignalAnswer :=
  match live.phase with
  | .made => none
  | .readWaiter _ => none
  | .readSignal _ _ => if live.emptied then some (.signal none) else none
  | .answered answer => some answer
  | .returned answer => some answer

theorem LiveCall.settled_of_returned {live : LiveCall} (returned : live.hasReturned = true) :
    live.settled ≠ none := by
  unfold LiveCall.hasReturned at returned
  unfold LiveCall.settled
  cases phase : live.phase <;> simp [phase] at returned ⊢

/-- The calls, and an order of those that are decided, which leads to some rows. -/
structure Ordered (memory : MemoryToken) (calls : List LiveCall)
    (order : List (Placed SignalCall SignalAnswer)) : Prop where
  replays : replay MemoryToken.exec {} order = some memory
  once : (order.map (·.call)).Nodup
  placed : ∀ index op answer, ⟨index, op, answer⟩ ∈ order ↔
    ∃ live : LiveCall, calls[index]? = some live ∧ live.call = op ∧ live.settled = some answer
  realTime : order.Pairwise fun earlier later =>
    ∀ live : LiveCall, calls[earlier.call]? = some live → later.call ∉ live.after
  timely : ∀ (index : Nat) (live : LiveCall), calls[index]? = some live → ∀ other ∈ live.after,
    ∃ earlier : LiveCall, calls[other]? = some earlier ∧ earlier.hasReturned = true

section Orders

variable {memory next : MemoryToken} {calls later : List LiveCall}
  {order batch : List (Placed SignalCall SignalAnswer)}

theorem Ordered.explains (good : Ordered memory calls order) :
    Explains MemoryToken.exec {} memory (calls.map (·.record)) order where
  once := good.once
  known entry listed := by
    obtain ⟨live, found, op, -⟩ := (good.placed entry.call entry.op entry.answer).mp listed
    exact ⟨live.record, by simp [found], op⟩
  returned call record answer found returned := by
    rw [List.getElem?_map, Option.map_eq_some_iff] at found
    obtain ⟨live, found, rfl⟩ := found
    refine (good.placed _ _ _).mpr ⟨live, found, rfl, ?_⟩
    unfold LiveCall.record at returned
    unfold LiveCall.settled
    cases phase : live.phase <;> simp [phase] at returned ⊢
    exact returned
  realTime := by
    refine good.realTime.imp fun {earlier after} apart record found => ?_
    rw [List.getElem?_map, Option.map_eq_some_iff] at found
    obtain ⟨live, found, rfl⟩ := found
    exact apart live found
  replays := good.replays

/-- Calls that are decided now come last: whatever returned before another call was made had been
decided. -/
theorem Ordered.grow (good : Ordered memory calls order)
    (kept : ∀ (index : Nat) (live' : LiveCall), later[index]? = some live' →
      ∃ live : LiveCall, calls[index]? = some live ∧ live'.call = live.call ∧
        live'.after = live.after)
    (returned : ∀ (index : Nat) (live : LiveCall), calls[index]? = some live →
      live.hasReturned = true →
        ∃ live' : LiveCall, later[index]? = some live' ∧ live'.hasReturned = true)
    (distinct : (batch.map (·.call)).Nodup)
    (undecided : ∀ entry ∈ batch,
      ∃ live : LiveCall, calls[entry.call]? = some live ∧ live.settled = none)
    (settled : ∀ index op answer,
      (∃ live' : LiveCall, later[index]? = some live' ∧ live'.call = op ∧
          live'.settled = some answer) ↔
        (∃ live : LiveCall, calls[index]? = some live ∧ live.call = op ∧
          live.settled = some answer) ∨
          ⟨index, op, answer⟩ ∈ batch)
    (ran : replay MemoryToken.exec memory batch = some next) :
    Ordered next later (order ++ batch) where
  replays := by rw [replay_append, good.replays, Option.bind_some, ran]
  once := by
    rw [List.map_append]
    refine good.once.append distinct ?_
    intro call first second
    obtain ⟨entry, listed, rfl⟩ := List.mem_map.mp first
    obtain ⟨other, now, same⟩ := List.mem_map.mp second
    obtain ⟨live, found, -, decided⟩ := (good.placed _ _ _).mp listed
    obtain ⟨live', found', none⟩ := undecided other now
    rw [same, found] at found'
    obtain rfl := Option.some.inj found'
    rw [none] at decided
    cases decided
  placed index op answer := by rw [settled, List.mem_append, good.placed]
  realTime := by
    -- A call decided now had not returned, so no call was made after it returned.
    have open_ : ∀ entry ∈ batch, ∀ (index : Nat) (live' : LiveCall), later[index]? = some live' →
        entry.call ∉ live'.after := by
      intro entry now index live' found' after
      obtain ⟨live, found, -, same⟩ := kept index live' found'
      rw [same] at after
      obtain ⟨earlier, at_, over_⟩ := good.timely index live found _ after
      obtain ⟨own, at_', none⟩ := undecided entry now
      rw [at_] at at_'
      obtain rfl := Option.some.inj at_'
      exact LiveCall.settled_of_returned over_ none
    refine List.pairwise_append.mpr ⟨?_, ?_, ?_⟩
    · refine good.realTime.imp fun {earlier after} apart live' found' => ?_
      obtain ⟨live, found, -, same⟩ := kept _ live' found'
      rw [same]
      exact apart live found
    · refine List.pairwise_of_forall_mem_list fun earlier _ after now live' found' => ?_
      exact open_ after now _ live' found'
    · exact fun earlier _ after now live' found' => open_ after now _ live' found'
  timely index live' found' other after := by
    obtain ⟨live, found, -, same⟩ := kept index live' found'
    rw [same] at after
    obtain ⟨earlier, at_, over_⟩ := good.timely index live found other after
    exact returned other earlier at_ over_

section Single

variable {index : Nat} {live live' : LiveCall}

theorem set_kept (found : calls[index]? = some live) (call : live'.call = live.call)
    (after : live'.after = live.after) (other : Nat) (own : LiveCall)
    (listed : (calls.set index live')[other]? = some own) :
    ∃ earlier : LiveCall, calls[other]? = some earlier ∧ own.call = earlier.call ∧
      own.after = earlier.after := by
  rcases getElem?_set_cases listed with ⟨rfl, rfl⟩ | ⟨-, before⟩
  · exact ⟨live, found, call, after⟩
  · exact ⟨own, before, rfl, rfl⟩

theorem set_returned (found : calls[index]? = some live)
    (returned : live.hasReturned = true → live'.hasReturned = true) (other : Nat) (own : LiveCall)
    (listed : calls[other]? = some own) (over_ : own.hasReturned = true) :
    ∃ later : LiveCall, (calls.set index live')[other]? = some later ∧
      later.hasReturned = true := by
  by_cases same : index = other
  · subst same
    rw [found] at listed
    obtain rfl := Option.some.inj listed
    exact ⟨live', List.getElem?_set_self (List.getElem?_eq_some_iff.mp found).1, returned over_⟩
  · exact ⟨own, by rw [List.getElem?_set_ne same, listed], over_⟩

theorem Ordered.rephase (good : Ordered memory calls order) (found : calls[index]? = some live)
    (call : live'.call = live.call) (after : live'.after = live.after)
    (returned : live.hasReturned = true → live'.hasReturned = true)
    (settled : live'.settled = live.settled) :
    Ordered memory (calls.set index live') order := by
  have grown : Ordered memory (calls.set index live') (order ++ []) := by
    refine good.grow (set_kept found call after) (set_returned found returned) List.nodup_nil
      (by simp) ?_ rfl
    intro other op answer
    by_cases same : index = other
    · subst same
      rw [List.getElem?_set_self (List.getElem?_eq_some_iff.mp found).1, found]
      simp [call, settled]
    · simp [List.getElem?_set_ne same]
  rwa [List.append_nil] at grown

theorem Ordered.decide (good : Ordered memory calls order) (found : calls[index]? = some live)
    (undecided : live.settled = none) {answer : SignalAnswer}
    (ran : MemoryToken.exec memory live.call = (next, answer)) :
    Ordered next (calls.set index { live with phase := .answered answer })
      (order ++ [⟨index, live.call, answer⟩]) := by
  refine good.grow (set_kept found rfl rfl) (set_returned found ?_) (by simp) ?_ ?_
    (by simp [replay, ran])
  · intro over_
    exact absurd undecided (LiveCall.settled_of_returned over_)
  · intro entry listed
    obtain rfl := List.mem_singleton.mp listed
    exact ⟨live, found, undecided⟩
  · intro other op given
    by_cases same : index = other
    · subst same
      rw [List.getElem?_set_self (List.getElem?_eq_some_iff.mp found).1, found]
      have now : LiveCall.settled { live with phase := .answered answer } = some answer := rfl
      simp only [Option.some.injEq, exists_eq_left', undecided, now, List.mem_singleton,
        Placed.mk.injEq, true_and, reduceCtorEq, and_false, false_or]
      exact and_congr eq_comm eq_comm
    · have apart : other ≠ index := fun own => same own.symm
      simp [List.getElem?_set_ne same, apart]

end Single

theorem Ordered.invoke (good : Ordered memory calls order) (call : SignalCall) (after : List Nat)
    (over_ : ∀ other ∈ after, ∃ earlier : LiveCall, calls[other]? = some earlier ∧
      earlier.hasReturned = true) :
    Ordered memory (calls ++ [{ call := call, after := after }]) order := by
  refine ⟨good.replays, good.once, ?_, ?_, ?_⟩
  · intro index op answer
    rw [good.placed]
    constructor
    · rintro ⟨live, found, same, settled⟩
      exact ⟨live, getElem?_append_of_some found, same, settled⟩
    · rintro ⟨live, found, same, settled⟩
      rcases getElem?_concat_eq_some found with before | ⟨-, rfl⟩
      · exact ⟨live, before, same, settled⟩
      · simp [LiveCall.settled] at settled
  · refine good.realTime.imp_of_mem fun {earlier later} listed _ apart live found => ?_
    obtain ⟨own, known, -⟩ := (good.placed _ _ _).mp listed
    rw [getElem?_append_of_some known] at found
    obtain rfl := Option.some.inj found
    exact apart own known
  · intro index live found other listed
    rcases getElem?_concat_eq_some found with before | ⟨-, rfl⟩
    · obtain ⟨earlier, known, returned⟩ := good.timely index live before other listed
      exact ⟨earlier, getElem?_append_of_some known, returned⟩
    · obtain ⟨earlier, known, returned⟩ := over_ other listed
      exact ⟨earlier, getElem?_append_of_some known, returned⟩

end Orders

/-- What holds of a call that has read a signal and is to delete it. -/
structure SignalRead (tables : Tables) (live : LiveCall) (id : Nat) (payload : String) : Prop where
  call : live.call = .takeBufferedSignal
  known : id < tables.nextId
  oldest : ∀ row ∈ tables.signals, id ≤ row.1
  same : ∀ row ∈ tables.signals, row.1 = id → row.2 = payload
  gone : live.emptied = true → ∀ row ∈ tables.signals, row.1 ≠ id

/-- What holds of a call between its statements. -/
structure GoodCall (tables : Tables) (live : LiveCall) : Prop where
  signal : ∀ id payload, live.phase = .readSignal id payload → SignalRead tables live id payload
  waiter : ∀ row, live.phase = .readWaiter row → live.call = .takeSignalWaiter

/-- The buffered signals stand in the order of their ids. -/
structure GoodTables (tables : Tables) : Prop where
  ascending : tables.signals.Pairwise fun first second => first.1 < second.1
  fresh : ∀ row ∈ tables.signals, row.1 < tables.nextId

/-- The order leads to the rows there are, and the calls under way fit them. -/
structure Good (state : State) : Prop where
  ordered : Ordered state.tables.memory state.calls state.order
  tables : GoodTables state.tables
  calls : ∀ live ∈ state.calls, GoodCall state.tables live

section Rows

variable {tables : Tables} {live : LiveCall}

theorem goodCall_of_phase (signal : ∀ id payload, live.phase ≠ .readSignal id payload)
    (waiter : ∀ row, live.phase ≠ .readWaiter row) : GoodCall tables live where
  signal id payload phase := absurd phase (signal id payload)
  waiter row phase := absurd phase (waiter row)

theorem GoodTables.fewer (good : GoodTables tables) {signals : List (Nat × String)}
    (fewer : signals.Sublist tables.signals) (waiter : Option Waiter) :
    GoodTables { tables with waiter := waiter, signals := signals } where
  ascending := good.ascending.sublist fewer
  fresh row listed := good.fresh row (fewer.subset listed)

theorem GoodCall.fewer (good : GoodCall tables live) {signals : List (Nat × String)}
    (fewer : signals.Sublist tables.signals) (waiter : Option Waiter) :
    GoodCall { tables with waiter := waiter, signals := signals } live where
  signal id payload phase := by
    have read := good.signal id payload phase
    exact ⟨read.call, read.known, fun row listed => read.oldest row (fewer.subset listed),
      fun row listed => read.same row (fewer.subset listed),
      fun emptied row listed => read.gone emptied row (fewer.subset listed)⟩
  waiter := good.waiter

/-- The rows after a signal is buffered. -/
def Tables.buffered (tables : Tables) (payload : String) : Tables :=
  { tables with
    signals := tables.signals ++ [(tables.nextId, payload)], nextId := tables.nextId + 1 }

theorem GoodTables.buffered (good : GoodTables tables) (payload : String) :
    GoodTables (tables.buffered payload) where
  ascending := by
    refine List.pairwise_append.mpr ⟨good.ascending, List.pairwise_singleton _ _, ?_⟩
    intro first before second last
    obtain rfl := List.mem_singleton.mp last
    exact good.fresh first before
  fresh row listed := by
    rcases List.mem_append.mp listed with before | last
    · exact Nat.lt_succ_of_lt (good.fresh row before)
    · obtain rfl := List.mem_singleton.mp last
      exact Nat.lt_succ_self tables.nextId

theorem GoodCall.buffered (good : GoodCall tables live) (buffered : String) :
    GoodCall (tables.buffered buffered) live where
  signal id payload phase := by
    have read := good.signal id payload phase
    have known := read.known
    -- A row is an earlier one, or has the next id.
    have rows : ∀ {row}, row ∈ (tables.buffered buffered).signals →
        row ∈ tables.signals ∨ id < row.1 := by
      intro row listed
      rcases List.mem_append.mp listed with before | last
      · exact .inl before
      · obtain rfl := List.mem_singleton.mp last
        exact .inr known
    refine ⟨read.call, Nat.lt_succ_of_lt known, fun row listed => ?_, fun row listed same => ?_,
      fun emptied row listed => ?_⟩
    · rcases rows listed with before | later
      · exact read.oldest row before
      · omega
    · rcases rows listed with before | later
      · exact read.same row before same
      · omega
    · rcases rows listed with before | later
      · exact read.gone emptied row before
      · omega
  waiter := good.waiter

theorem signals_eq_cons (good : GoodTables tables) {id : Nat} {payload : String}
    (read : SignalRead tables live id payload) (present : ∃ row ∈ tables.signals, row.1 = id) :
    tables.signals = (id, payload) :: tables.signals.filter (·.1 ≠ id) := by
  obtain ⟨row, listed, own⟩ := present
  have ascending := good.ascending
  cases signals : tables.signals with
  | nil => simp [signals] at listed
  | cons first rest =>
    rw [signals] at listed ascending
    obtain ⟨before, -⟩ := List.pairwise_cons.mp ascending
    have least := read.oldest first (by simp [signals])
    have head : first.1 = id := by
      rcases List.mem_cons.mp listed with rfl | later
      · exact own
      · have less := before row later
        omega
    have same := read.same first (by simp [signals]) head
    have others : rest.filter (fun other => decide (other.1 ≠ id)) = rest := by
      apply List.filter_eq_self.mpr
      intro other later
      have less := before other later
      simp only [decide_eq_true_eq]
      omega
    rw [List.filter_cons_of_neg (by simp [head]), others, ← head, ← same]

end Rows

section Steps

variable {state next : State} {index : Nat} {live : LiveCall}

theorem good_start : Good {} where
  ordered := ⟨rfl, List.nodup_nil, by simp, List.Pairwise.nil, by simp⟩
  tables := ⟨List.Pairwise.nil, by simp⟩
  calls := by simp

theorem good_invoke (good : Good state) (call : SignalCall) : Good (invoke state call) where
  ordered := by
    refine good.ordered.invoke call _ ?_
    intro other listed
    obtain ⟨entry, chosen, rfl⟩ := List.mem_map.mp listed
    obtain ⟨member, returned⟩ := List.mem_filter.mp chosen
    exact ⟨entry.1, List.mem_zipIdx_iff_getElem?.mp member, returned⟩
  tables := good.tables
  calls live listed := by
    rcases List.mem_append.mp listed with before | last
    · exact good.calls live before
    · obtain rfl := List.mem_singleton.mp last
      exact goodCall_of_phase (by simp) (by simp)

theorem good_decided (good : Good state) (found : state.calls[index]? = some live)
    (undecided : live.settled = none) {tables : Tables} {answer : SignalAnswer}
    (ran : MemoryToken.exec state.tables.memory live.call = (tables.memory, answer))
    (rows : GoodTables tables)
    (calls : ∀ other, GoodCall state.tables other → GoodCall tables other) :
    Good (decided state index live tables answer) where
  ordered := good.ordered.decide found undecided ran
  tables := rows
  calls other listed := by
    rcases List.mem_or_eq_of_mem_set listed with before | rfl
    · exact calls other (good.calls other before)
    · exact goodCall_of_phase (by simp) (by simp)

theorem good_rephase (good : Good state) (found : state.calls[index]? = some live)
    {live' : LiveCall} (call : live'.call = live.call) (after : live'.after = live.after)
    (returned : live.hasReturned = true → live'.hasReturned = true)
    (settled : live'.settled = live.settled) (fits : GoodCall state.tables live') :
    Good { state with calls := state.calls.set index live' } where
  ordered := good.ordered.rephase found call after returned settled
  tables := good.tables
  calls other listed := by
    rcases List.mem_or_eq_of_mem_set listed with before | rfl
    · exact good.calls other before
    · exact fits

/-- A first statement keeps everything good. -/
theorem good_first (good : Good state) (found : state.calls[index]? = some live)
    (made : live.phase = .made) : Good (firstStatement state index live) := by
  have undecided : live.settled = none := by simp [LiveCall.settled, made]
  have open_ : live.hasReturned = false := by simp [LiveCall.hasReturned, made]
  -- A statement on the waiter leaves the signals.
  have onWaiter : ∀ (waiter : Option Waiter) (answer : SignalAnswer),
      MemoryToken.exec state.tables.memory live.call =
        ({ state.tables.memory with signalWaiter := waiter }, answer) →
      Good (decided state index live { state.tables with waiter := waiter } answer) := by
    intro waiter answer ran
    exact good_decided good found undecided ran (good.tables.fewer (.refl _) waiter)
      fun other fits => fits.fewer (.refl _) waiter
  unfold firstStatement
  cases call : live.call with
  | putSignalWaiter waiter => exact onWaiter _ _ (by rw [call]; rfl)
  | registerChildWaits waiters => exact onWaiter _ _ (by rw [call]; rfl)
  | removeSignalWaiter waiter => exact onWaiter _ _ (by rw [call]; rfl)
  | takeSignalWaiter =>
    simp only []
    cases present : state.tables.waiter with
    | none =>
      refine good_decided good found undecided ?_ good.tables fun _ fits => fits
      simp [call, MemoryToken.exec, Tables.memory, present]
    | some row =>
      exact good_rephase good found call.symm rfl (by simp [open_]) (by rw [undecided]; rfl)
        ⟨by simp, fun _ _ => rfl⟩
  | bufferSignal payload =>
    refine good_decided good found undecided ?_ (good.tables.buffered payload) fun other fits =>
      fits.buffered payload
    simp [call, MemoryToken.exec, Tables.memory]
  | takeBufferedSignal =>
    simp only []
    cases signals : state.tables.signals with
    | nil =>
      refine good_decided good found undecided ?_ good.tables fun _ fits => fits
      simp [call, MemoryToken.exec, Tables.memory, signals]
    | cons row rest =>
      obtain ⟨id, payload⟩ := row
      have ascending := good.tables.ascending
      rw [signals] at ascending
      obtain ⟨before, -⟩ := List.pairwise_cons.mp ascending
      refine good_rephase good found call.symm rfl (by simp [open_]) (by rw [undecided]; rfl)
        ⟨fun other text same => ?_, by simp⟩
      obtain ⟨rfl, rfl⟩ := Phase.readSignal.inj same
      refine ⟨rfl, good.tables.fresh (id, payload) (by simp [signals]), fun row listed => ?_,
        fun row listed own => ?_, by simp⟩
      · rw [signals] at listed
        rcases List.mem_cons.mp listed with rfl | later
        · exact Nat.le_refl _
        · exact Nat.le_of_lt (before row later)
      · rw [signals] at listed
        rcases List.mem_cons.mp listed with rfl | later
        · rfl
        · have less := before row later
          dsimp only at less
          omega

theorem good_deleteWaiter (good : Good state) (found : state.calls[index]? = some live)
    {row : Waiter} (read : live.phase = .readWaiter row)
    (own : ∀ present, state.tables.waiter = some present → present = row) :
    Good (deleteWaiter state index live row) := by
  have undecided : live.settled = none := by simp [LiveCall.settled, read]
  have call := (good.calls live (List.mem_of_getElem? found)).waiter row read
  unfold deleteWaiter
  cases present : state.tables.waiter with
  | none =>
    refine good_decided good found undecided ?_ good.tables fun _ fits => fits
    simp [call, MemoryToken.exec, Tables.memory, present]
  | some other =>
    obtain rfl := own other present
    refine good_decided good found undecided ?_ (good.tables.fewer (.refl _) none) fun other fits =>
      fits.fewer (.refl _) none
    simp [call, MemoryToken.exec, Tables.memory, present]

theorem LiveCall.settled_of_waits (waits : live.waits = true) : live.settled = none := by
  unfold LiveCall.waits at waits
  unfold LiveCall.settled
  cases phase : live.phase <;> simp [phase] at waits ⊢
  exact waits

theorem LiveCall.settled_noted (live : LiveCall) :
    live.noted.settled = if live.waits then some (.signal none) else live.settled := by
  unfold LiveCall.noted
  split
  · rename_i waits
    unfold LiveCall.waits at waits
    unfold LiveCall.settled
    cases phase : live.phase <;> simp [phase] at waits ⊢
  · rfl

@[simp] theorem LiveCall.noted_call (live : LiveCall) : live.noted.call = live.call := by
  unfold LiveCall.noted
  split <;> rfl

@[simp] theorem LiveCall.noted_after (live : LiveCall) : live.noted.after = live.after := by
  unfold LiveCall.noted
  split <;> rfl

@[simp] theorem LiveCall.noted_returned (live : LiveCall) :
    live.noted.hasReturned = live.hasReturned := by
  unfold LiveCall.noted
  split <;> rfl

theorem mem_doomed {op : SignalCall} {answer : SignalAnswer} :
    ⟨index, op, answer⟩ ∈ doomed state ↔
      ∃ live : LiveCall, state.calls[index]? = some live ∧ live.waits = true ∧ live.call = op ∧
        answer = .signal none := by
  simp only [doomed, List.mem_map, List.mem_filter, List.mem_zipIdx_iff_getElem?, Placed.mk.injEq]
  constructor
  · rintro ⟨⟨live, own⟩, ⟨found, waits⟩, rfl, same, given⟩
    exact ⟨live, found, waits, same, given.symm⟩
  · rintro ⟨live, found, waits, same, given⟩
    exact ⟨(live, index), ⟨found, waits⟩, rfl, same, given.symm⟩

theorem doomed_nodup (state : State) : ((doomed state).map (·.call)).Nodup := by
  have places : (state.calls.zipIdx.map (·.2)).Nodup := by
    rw [List.zipIdx_map_snd]
    exact List.nodup_range'
  rw [doomed, List.map_map]
  exact places.sublist (List.filter_sublist.map _)

/-- Where there are no signals, the calls that have read one are bound to find nothing. -/
theorem good_noteEmptied (good : Good state) (empty : state.tables.signals = []) :
    Good (noteEmptied state) := by
  have noted : ∀ index, (noteEmptied state).calls[index]? =
      (state.calls[index]?).map LiveCall.noted := fun index => List.getElem?_map
  refine ⟨good.ordered.grow ?_ ?_ (doomed_nodup state) ?_ ?_ ?_, good.tables, ?_⟩
  · intro index live' found
    rw [noted, Option.map_eq_some_iff] at found
    obtain ⟨live, found, rfl⟩ := found
    exact ⟨live, found, live.noted_call, live.noted_after⟩
  · intro index live found returned
    exact ⟨live.noted, by rw [noted, found, Option.map_some], by rw [live.noted_returned, returned]⟩
  · intro entry listed
    obtain ⟨live, found, waits, -⟩ := mem_doomed.mp listed
    exact ⟨live, found, LiveCall.settled_of_waits waits⟩
  · intro index op answer
    rw [mem_doomed, noted]
    cases state.calls[index]? with
    | none => simp
    | some live =>
      by_cases waits : live.waits = true
      · have answers : some (SignalAnswer.signal none) = some answer ↔ answer = .signal none := by
          rw [Option.some.injEq]
          exact eq_comm
        simp [LiveCall.settled_noted, waits, LiveCall.settled_of_waits waits, answers]
      · simp [LiveCall.settled_noted, waits]
  · -- Each of them is a take, and takes nothing from no signals.
    apply replay_idle
    intro entry listed
    obtain ⟨live, found, waits, same, given⟩ := mem_doomed.mp listed
    have call : live.call = .takeBufferedSignal := by
      unfold LiveCall.waits at waits
      cases phase : live.phase with
      | readSignal id payload =>
        exact ((good.calls live (List.mem_of_getElem? found)).signal id payload phase).call
      | _ => simp [phase] at waits
    rw [← same, call, given]
    simp [MemoryToken.exec, Tables.memory, empty]
  · intro live' listed
    obtain ⟨live, member, rfl⟩ := List.mem_map.mp listed
    have fits := good.calls live member
    unfold LiveCall.noted
    split
    · refine ⟨fun id payload phase => ?_, fits.waiter⟩
      have read := fits.signal id payload phase
      refine ⟨read.call, read.known, read.oldest, read.same, fun _ row listed => ?_⟩
      have none : row ∈ state.tables.signals := listed
      rw [empty] at none
      exact absurd none List.not_mem_nil
    · exact fits

/-- A take's delete of the signal it read keeps everything good. -/
theorem good_deleteSignal (good : Good state) (found : state.calls[index]? = some live)
    {id : Nat} {payload : String} (phase : live.phase = .readSignal id payload)
    (present : live.emptied = false → ∃ row ∈ state.tables.signals, row.1 = id) :
    Good (deleteSignal state index live id payload) := by
  have read := (good.calls live (List.mem_of_getElem? found)).signal id payload phase
  unfold deleteSignal
  by_cases there : ∃ row ∈ state.tables.signals, row.1 = id
  · have any : state.tables.signals.any (·.1 = id) = true := by simpa using there
    have kept : live.emptied = false := by
      cases emptied : live.emptied with
      | false => rfl
      | true =>
        obtain ⟨row, listed, own⟩ := there
        exact absurd own (read.gone emptied row listed)
    have undecided : live.settled = none := by simp [LiveCall.settled, phase, kept]
    have signals := signals_eq_cons good.tables read there
    have shorter : (state.tables.signals.filter (·.1 ≠ id)).Sublist state.tables.signals :=
      List.filter_sublist
    have taken : Good (decided state index live
        { state.tables with signals := state.tables.signals.filter (·.1 ≠ id) }
        (.signal (some payload))) := by
      refine good_decided good found undecided ?_ (good.tables.fewer shorter _) fun other fits =>
        fits.fewer shorter _
      have front : state.tables.memory.bufferedSignals =
          payload :: (state.tables.signals.filter (·.1 ≠ id)).map (·.2) := by
        rw [Tables.memory]
        exact congrArg (List.map (·.2)) signals
      simp only [read.call, MemoryToken.exec, front]
      rfl
    rw [if_pos any]
    simp only []
    split
    · rename_i none
      exact good_noteEmptied taken (List.isEmpty_iff.mp none)
    · exact taken
  · have any : ¬state.tables.signals.any (·.1 = id) = true := by simpa using there
    rw [if_neg any]
    cases emptied : live.emptied with
    | false => exact absurd (present emptied) there
    | true =>
      -- It was decided where there was no signal.
      refine good_rephase good found rfl rfl ?_ ?_ (goodCall_of_phase (by simp) (by simp))
      · simp [LiveCall.hasReturned, phase]
      · simp [LiveCall.settled, phase, emptied]

/-- Every step keeps everything good, where each delete arbitrates. -/
theorem good_step (good : Good state) {move : Move} (arbitrates : Arbitrates state move)
    (moved : step state move = some next) : Good next := by
  cases move with
  | invoke call =>
    obtain rfl := Option.some.inj moved
    exact good_invoke good call
  | advance index =>
    simp only [step] at moved
    cases found : state.calls[index]? with
    | none => simp [found] at moved
    | some live =>
      obtain ⟨waiter, signal⟩ := arbitrates index live rfl found
      simp only [found] at moved
      cases phase : live.phase with
      | made =>
        rw [phase] at moved
        obtain rfl := Option.some.inj moved
        exact good_first good found phase
      | readWaiter row =>
        rw [phase] at moved
        obtain rfl := Option.some.inj moved
        exact good_deleteWaiter good found phase (waiter row phase)
      | readSignal id payload =>
        rw [phase] at moved
        obtain rfl := Option.some.inj moved
        exact good_deleteSignal good found phase (signal id payload phase)
      | answered answer => simp [phase] at moved
      | returned answer => simp [phase] at moved
  | finish index =>
    simp only [step] at moved
    cases found : state.calls[index]? with
    | none => simp [found] at moved
    | some live =>
      simp only [found] at moved
      cases phase : live.phase with
      | answered answer =>
        rw [phase] at moved
        obtain rfl := Option.some.inj moved
        refine good_rephase good found rfl rfl ?_ ?_ (goodCall_of_phase (by simp) (by simp))
        · exact fun _ => rfl
        · simp [LiveCall.settled, phase]
      | _ => simp [phase] at moved

end Steps

/-- In every run in which each delete of a take arbitrates, the calls are explained by the in-memory
store's operations one after the other. -/
theorem takes_linearizable (state : State) (reached : Reaches Arbitrates state) :
    Linearizable state := by
  have good : Good state := by
    induction reached with
    | start => exact good_start
    | step _ permitted moved ih => exact good_step ih permitted moved
  exact ⟨state.order, good.ordered.explains⟩

section Runs

theorem arbitrates_waiter {state : State} (index : Nat) {live : LiveCall} {row : Waiter}
    (found : state.calls[index]? = some live) (phase : live.phase = .readWaiter row)
    (present : state.tables.waiter = some row) : Arbitrates state (.advance index) := by
  intro other own same listed
  obtain rfl := Move.advance.inj same
  rw [found] at listed
  obtain rfl := Option.some.inj listed
  constructor
  · intro read phase' there at_
    rw [phase] at phase'
    obtain rfl := Phase.readWaiter.inj phase'
    rw [present] at at_
    exact (Option.some.inj at_).symm
  · intro id payload phase'
    rw [phase] at phase'
    cases phase'

theorem arbitrates_made {state : State} (index : Nat) {live : LiveCall}
    (found : state.calls[index]? = some live) (phase : live.phase = .made) :
    Arbitrates state (.advance index) := by
  intro other own same listed
  obtain rfl := Move.advance.inj same
  rw [found] at listed
  obtain rfl := Option.some.inj listed
  exact ⟨by simp [phase], by simp [phase]⟩

/-- A waiter is taken that no one replaces. -/
theorem undisturbed_take_linearizable :
    ∃ state : State, (∃ live ∈ state.calls,
      live.phase = .answered (.waiter (some { runId := "run", seq := 0 }))) ∧
      Linearizable state := by
  have quiet : ∀ (state : State) (call : SignalCall), Arbitrates state (.invoke call) := by
    intro state call index live same
    cases same
  have put := Reaches.step .start (quiet _ (.putSignalWaiter { runId := "run", seq := 0 })) rfl
  have written := Reaches.step put (arbitrates_made 0 rfl rfl) rfl
  have take := Reaches.step written (quiet _ .takeSignalWaiter) rfl
  have read := Reaches.step take (arbitrates_made 1 rfl rfl) rfl
  refine ⟨_, ?_, takes_linearizable _ (.step read (arbitrates_waiter 1 rfl rfl rfl) rfl)⟩
  exact ⟨_, List.mem_cons_of_mem _ (List.mem_singleton_self _), rfl⟩

/-- Where moves lead. -/
def moves (state : State) : List Move → Option State
  | [] => some state
  | move :: rest => (step state move).bind (moves · rest)

theorem reaches_moves (list : List Move) : ∀ {state final : State},
    Reaches (fun _ _ => True) state → moves state list = some final →
      Reaches (fun _ _ => True) final := by
  induction list with
  | nil =>
    intro state final reached ran
    obtain rfl := Option.some.inj ran
    exact reached
  | cons move rest ih =>
    intro state final reached ran
    obtain ⟨next, moved, later⟩ := Option.bind_eq_some_iff.mp ran
    exact ih (.step reached trivial moved) later

theorem explains_perm {calls : List LiveCall} {memory : MemoryToken}
    {order answers : List (Placed SignalCall SignalAnswer)}
    (explained : Explains MemoryToken.exec {} memory (calls.map (·.record)) order)
    (distinct : answers.Nodup)
    (given : ∀ index live, calls[index]? = some live →
      ∃ answer, live.record.returned = some answer ∧ ⟨index, live.call, answer⟩ ∈ answers)
    (only : ∀ entry ∈ answers, ∃ live : LiveCall, calls[entry.call]? = some live ∧
      live.call = entry.op ∧ live.record.returned = some entry.answer) :
    order.Perm answers := by
  have listed : ∀ index (live : LiveCall) answer, calls[index]? = some live →
      live.record.returned = some answer → ⟨index, live.call, answer⟩ ∈ order := by
    intro index live answer found returned
    exact explained.returned index live.record answer (by simp [found]) returned
  refine (List.perm_ext_iff_of_nodup (List.Nodup.of_map _ explained.once) distinct).mpr ?_
  intro entry
  constructor
  · intro member
    obtain ⟨record, found, op⟩ := explained.known entry member
    rw [List.getElem?_map, Option.map_eq_some_iff] at found
    obtain ⟨live, found, rfl⟩ := found
    obtain ⟨answer, returned, placed⟩ := given entry.call live found
    -- The calls stand in the order once, so this is the answer that was returned.
    have same := List.inj_on_of_nodup_map explained.once member
      (listed entry.call live answer found returned) rfl
    rwa [same]
  · intro member
    obtain ⟨live, found, op, returned⟩ := only entry member
    have placed := listed entry.call live entry.answer found returned
    rwa [op] at placed

/-- A waiter is replaced between a take's read and its delete: the take removes the second and
answers the first. -/
theorem replaced_waiter_lost :
    ¬∀ state, Reaches (fun _ _ => True) state → Linearizable state := by
  intro linearizable
  let first : Waiter := { runId := "first", seq := 0 }
  let second : Waiter := { runId := "second", seq := 0 }
  let answers : List (Placed SignalCall SignalAnswer) :=
    [⟨0, .putSignalWaiter first, .done⟩, ⟨1, .takeSignalWaiter, .waiter (some first)⟩,
      ⟨2, .putSignalWaiter second, .done⟩]
  let calls : List LiveCall :=
    [{ call := .putSignalWaiter first, phase := .returned .done },
      { call := .takeSignalWaiter, phase := .returned (.waiter (some first)), after := [0] },
      { call := .putSignalWaiter second, phase := .returned .done, after := [0] }]
  have ran : ∃ final, moves {} [.invoke (.putSignalWaiter first), .advance 0, .finish 0,
      .invoke .takeSignalWaiter, .advance 1, .invoke (.putSignalWaiter second), .advance 2,
      .finish 2, .advance 1, .finish 1] = some final ∧ final.calls = calls ∧
      final.tables.memory = {} := ⟨_, rfl, by decide, by decide⟩
  obtain ⟨final, ran, made, left⟩ := ran
  obtain ⟨order, explained⟩ := linearizable final (reaches_moves _ .start ran)
  rw [made, left] at explained
  have perm : order.Perm answers := by
    refine explains_perm explained (by decide) ?_ (by decide)
    intro index live found
    have within := (List.getElem?_eq_some_iff.mp found).1
    rcases index with _ | _ | _ | index
    · obtain rfl := Option.some.inj found
      exact ⟨_, rfl, by decide⟩
    · obtain rfl := Option.some.inj found
      exact ⟨_, rfl, by decide⟩
    · obtain rfl := Option.some.inj found
      exact ⟨_, rfl, by decide⟩
    · simp [calls] at within
      omega
  -- The first put returned before the second was made, so the second waiter is left or taken.
  have none : ∀ order ∈ answers.permutations', replay MemoryToken.exec {} order = some {} →
      ¬order.Pairwise fun earlier later =>
        later.call ∉ ((calls[earlier.call]?).map (·.after)).getD [] := by
    decide
  refine none order (List.mem_permutations'.mpr perm) explained.replays ?_
  refine explained.realTime.imp fun {earlier later} apart => ?_
  cases found : calls[earlier.call]? with
  | none => simp
  | some live =>
    exact apart live.record (by simp [found])

end Runs

end Durable.Takes
