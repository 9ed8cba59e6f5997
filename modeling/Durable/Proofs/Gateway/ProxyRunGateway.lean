import Durable.Gateway.ProxyRunGateway
import Durable.Interleaving.Entries

/-! Every call on a proxy run gateway is settled by an event of its own, as long as no event finds
another call pending under its id. -/

namespace Durable.ProxyRunGateway

open Interleaving (Runs Table getElem?_append_of_some getElem?_concat_eq_some moves)

variable {Data : Type} {timeoutMs : Nat} {state next : State Data} {index : Nat} {call : Call Data}

/-- The call whose message, timer or reply a source is. -/
def Source.of : Source → Option Nat
  | .reply message => message
  | .send call => some call
  | .timer call => some call

/-- The call that a move is of. -/
def Move.of : Move Data → Option Nat
  | .request _ _ => none
  | .start _ _ => none
  | .reply _ message => message
  | .sent call => some call
  | .sendFails call _ => some call
  | .timer call => some call

/-- No event finds another call pending under its id: a start is not made under the id of a call
that waits, and neither a reply nor a failed send arrives for a message whose id is by now another
call's. -/
def Undisturbed (state : State Data) : Move Data → Prop
  | .start (some runId) _ => state.pending.get runId = none
  | .reply reply message => ∀ index, state.pending.get reply.requestId = some index →
      message = some index
  | .sendFails index _ => ∀ call other, state.calls[index]? = some call →
      state.pending.get call.correlationId = some other → other = index
  | _ => True

/-- A call waits: it is not settled, its timer is armed, and it is pending under its id. -/
structure Waits (state : State Data) (index : Nat) (call : Call Data) : Prop where
  unsettled : call.settled = []
  armed : call.armed = true
  pending : state.pending.get call.correlationId = some index

/-- A call has been settled once, by an event of its own, and its timer is not armed. -/
structure Settled (index : Nat) (call : Call Data) : Prop where
  once : ∃ source settlement, call.settled = [(source, settlement)] ∧ source.of = some index
  disarmed : call.armed = false

/-- Every call waits or is settled, and only calls that wait are pending. -/
structure Good (state : State Data) : Prop where
  pending : ∀ correlationId index, state.pending.get correlationId = some index →
    ∃ call, state.calls[index]? = some call ∧ call.correlationId = correlationId ∧
      call.settled = []
  calls : ∀ index call, state.calls[index]? = some call →
    Waits state index call ∨ Settled index call

section Frames

variable {other : Nat} {source : Source} {settlement : Settlement Data}

theorem settle_ne (apart : index ≠ other) :
    (settle state index source settlement).calls[other]? = state.calls[other]? := by
  exact List.getElem?_modify_ne _ _ apart

theorem settle_self (pending : Table String Nat) (found : state.calls[index]? = some call) :
    (settle { state with pending := pending } index source settlement).calls[index]? =
      some { call with armed := false, settled := call.settled ++ [(source, settlement)] } := by
  simp [settle, found]

theorem stopSending_ne (apart : index ≠ other) :
    (stopSending state index).calls[other]? = state.calls[other]? := by
  exact List.getElem?_modify_ne _ _ apart

theorem stopSending_self (found : state.calls[index]? = some call) :
    (stopSending state index).calls[index]? = some { call with sending := false } := by
  simp [stopSending, found]

end Frames

section Steps

variable {correlationId : String} {source : Source}

theorem good_start : Good ({} : State Data) where
  pending correlationId index found := by cases found
  calls index call found := by cases found

theorem Good.waits (good : Good state) (found : state.calls[index]? = some call)
    (unsettled : call.settled = []) : Waits state index call := by
  rcases good.calls index call found with waits | settled
  · exact waits
  · obtain ⟨source, settlement, once, -⟩ := settled.once
    rw [unsettled] at once
    cases once

theorem Good.waits_of_armed (good : Good state) (found : state.calls[index]? = some call)
    (armed : call.armed = true) : Waits state index call := by
  rcases good.calls index call found with waits | settled
  · exact waits
  · rw [settled.disarmed] at armed
    cases armed

theorem good_await (good : Good state) (free : state.pending.get correlationId = none)
    (verbLabel : String) : Good (awaitReply state correlationId verbLabel) where
  pending other index found := by
    rw [awaitReply, Table.get_set] at found
    split at found
    · -- The new call is the last.
      rename_i same
      obtain rfl := Option.some.inj found
      exact ⟨_, List.getElem?_concat_length, same, rfl⟩
    · obtain ⟨call, listed, own, unsettled⟩ := good.pending other index found
      exact ⟨call, getElem?_append_of_some listed, own, unsettled⟩
  calls index call found := by
    rcases getElem?_concat_eq_some found with before | ⟨rfl, rfl⟩
    · rcases good.calls index call before with waits | settled
      · left
        refine ⟨waits.unsettled, waits.armed, ?_⟩
        have apart : correlationId ≠ call.correlationId := by
          intro same
          rw [same, waits.pending] at free
          cases free
        rw [awaitReply, Table.get_set_ne _ _ apart, waits.pending]
      · exact .inr settled
    · -- The new call waits under its own id.
      exact .inl ⟨rfl, rfl, by rw [awaitReply, Table.get_set_self]⟩

theorem Good.free (good : Good state) (fresh : unused state correlationId = true) :
    state.pending.get correlationId = none := by
  rw [Option.eq_none_iff_forall_ne_some]
  intro index found
  obtain ⟨call, listed, own, -⟩ := good.pending correlationId index found
  have other := List.all_eq_true.mp fresh call (List.mem_of_getElem? listed)
  exact absurd own (of_decide_eq_true other)

theorem good_settle (good : Good state) (found : state.calls[index]? = some call)
    (waits : Waits state index call) (own : source.of = some index) (settlement : Settlement Data) :
    Good (settle { state with pending := state.pending.erase call.correlationId } index source
      settlement) where
  pending correlationId other pends := by
    have pends : (state.pending.erase call.correlationId).get correlationId = some other := pends
    rw [Table.get_erase] at pends
    split at pends
    · cases pends
    · rename_i different
      obtain ⟨another, listed, same, unsettled⟩ := good.pending correlationId other pends
      have apart : index ≠ other := by
        rintro rfl
        rw [found] at listed
        obtain rfl := Option.some.inj listed
        exact different same
      exact ⟨another, by rw [settle_ne apart, listed], same, unsettled⟩
  calls other another listed := by
    by_cases here : index = other
    · subst here
      rw [settle_self _ found] at listed
      obtain rfl := Option.some.inj listed
      right
      exact ⟨⟨source, settlement, by rw [waits.unsettled]; rfl, own⟩, rfl⟩
    · rw [settle_ne here] at listed
      rcases good.calls other another listed with waits' | settled
      · left
        refine ⟨waits'.unsettled, waits'.armed, ?_⟩
        -- No two calls wait under one id.
        have apart : call.correlationId ≠ another.correlationId := by
          intro same
          have both := waits.pending.symm.trans (same ▸ waits'.pending)
          exact here (Option.some.inj both)
        rw [settle, Table.get_erase_ne _ apart, waits'.pending]
      · exact .inr settled

theorem good_stopSending (good : Good state) (found : state.calls[index]? = some call) :
    Good (stopSending state index) where
  pending correlationId other pends := by
    obtain ⟨another, listed, same, unsettled⟩ := good.pending correlationId other pends
    by_cases here : index = other
    · subst here
      exact ⟨_, stopSending_self listed, same, unsettled⟩
    · exact ⟨another, by rw [stopSending_ne here, listed], same, unsettled⟩
  calls other another listed := by
    by_cases here : index = other
    · subst here
      rw [stopSending_self found] at listed
      obtain rfl := Option.some.inj listed
      rcases good.calls index call found with waits | settled
      · exact .inl ⟨waits.unsettled, waits.armed, waits.pending⟩
      · exact .inr ⟨settled.once, settled.disarmed⟩
    · rw [stopSending_ne here] at listed
      rcases good.calls other another listed with waits | settled
      · exact .inl ⟨waits.unsettled, waits.armed, waits.pending⟩
      · exact .inr settled

theorem good_settlePending (good : Good state)
    (own : ∀ index, state.pending.get correlationId = some index → source.of = some index)
    (settlement : Settlement Data) :
    Good (settlePending state correlationId source settlement) := by
  unfold settlePending
  split
  · exact good
  · rename_i index pends
    obtain ⟨call, found, rfl, unsettled⟩ := good.pending correlationId index pends
    exact good_settle good found (good.waits found unsettled) (own index pends) settlement

/-- Every undisturbed step keeps the calls good. -/
theorem good_step (good : Good state) {move : Move Data} (permitted : Undisturbed state move)
    (moved : step timeoutMs state move = some next) : Good next := by
  cases move with
  | request kind requestId =>
    simp only [step, Option.ite_none_right_eq_some, Option.some.injEq] at moved
    obtain ⟨fresh, rfl⟩ := moved
    exact good_await good (good.free fresh) kind
  | start runId minted =>
    cases runId with
    | some runId =>
      obtain rfl := Option.some.inj moved
      exact good_await good permitted "start"
    | none =>
      simp only [step, Option.ite_none_right_eq_some, Option.some.injEq] at moved
      obtain ⟨fresh, rfl⟩ := moved
      exact good_await good (good.free fresh) "start"
  | reply reply message =>
    simp only [step, Option.ite_none_right_eq_some, Option.some.injEq] at moved
    obtain ⟨-, rfl⟩ := moved
    apply good_settlePending good
    intro index pends
    exact permitted index pends
  | sent index =>
    simp only [step] at moved
    split at moved
    · cases moved
    · simp only [Option.ite_none_right_eq_some, Option.some.injEq] at moved
      obtain ⟨-, rfl⟩ := moved
      exact good_stopSending good ‹_›
  | sendFails index error =>
    simp only [step] at moved
    split at moved
    · cases moved
    · rename_i call found
      simp only [Option.ite_none_right_eq_some, Option.some.injEq] at moved
      obtain ⟨-, rfl⟩ := moved
      apply good_settlePending (good_stopSending good found)
      intro other pends
      exact congrArg some (permitted call other found pends).symm
  | timer index =>
    simp only [step] at moved
    split at moved
    · cases moved
    · rename_i call found
      simp only [Option.ite_none_right_eq_some, Option.some.injEq] at moved
      obtain ⟨armed, rfl⟩ := moved
      exact good_settle good found (good.waits_of_armed found armed) rfl _

theorem settlePending_others {own : Option Nat}
    (only : ∀ index, state.pending.get correlationId = some index → own = some index)
    (settlement : Settlement Data) {other : Nat} (apart : own ≠ some other) :
    (settlePending state correlationId source settlement).calls[other]? = state.calls[other]? := by
  unfold settlePending
  split
  · rfl
  · rename_i index pends
    apply settle_ne
    rintro rfl
    exact apart (only index pends)

/-- An undisturbed step leaves every call but its own. -/
theorem step_others {move : Move Data} (permitted : Undisturbed state move)
    (moved : step timeoutMs state move = some next) {other : Nat} {another : Call Data}
    (listed : state.calls[other]? = some another) (apart : move.of ≠ some other) :
    next.calls[other]? = some another := by
  have awaits : ∀ correlationId verbLabel,
      (awaitReply state correlationId verbLabel).calls[other]? = some another := by
    intro correlationId verbLabel
    exact getElem?_append_of_some listed
  cases move with
  | request kind requestId =>
    simp only [step, Option.ite_none_right_eq_some, Option.some.injEq] at moved
    obtain ⟨-, rfl⟩ := moved
    exact awaits requestId kind
  | start runId minted =>
    cases runId with
    | some runId =>
      obtain rfl := Option.some.inj moved
      exact awaits runId "start"
    | none =>
      simp only [step, Option.ite_none_right_eq_some, Option.some.injEq] at moved
      obtain ⟨-, rfl⟩ := moved
      exact awaits minted "start"
  | reply reply message =>
    simp only [step, Option.ite_none_right_eq_some, Option.some.injEq] at moved
    obtain ⟨-, rfl⟩ := moved
    exact (settlePending_others permitted _ apart).trans listed
  | sent index =>
    simp only [step] at moved
    split at moved
    · cases moved
    · simp only [Option.ite_none_right_eq_some, Option.some.injEq] at moved
      obtain ⟨-, rfl⟩ := moved
      exact (stopSending_ne fun same => apart (congrArg some same)).trans listed
  | sendFails index error =>
    simp only [step] at moved
    split at moved
    · cases moved
    · rename_i call found
      simp only [Option.ite_none_right_eq_some, Option.some.injEq] at moved
      obtain ⟨-, rfl⟩ := moved
      have kept : (stopSending state index).calls[other]? = some another :=
        (stopSending_ne fun same => apart (congrArg some same)).trans listed
      refine (settlePending_others ?_ _ apart).trans kept
      intro pending pends
      exact congrArg some (permitted call pending found pends).symm
  | timer index =>
    simp only [step] at moved
    split at moved
    · cases moved
    · simp only [Option.ite_none_right_eq_some, Option.some.injEq] at moved
      obtain ⟨-, rfl⟩ := moved
      exact (settle_ne fun same => apart (congrArg some same)).trans listed

end Steps

section Runs

/-- What the calls on a gateway are promised in a state. -/
structure Accounted (timeoutMs : Nat) (state : State Data) : Prop where
  /-- Every call waits, armed and pending, or has been settled once, by an event of its own. -/
  each : ∀ index call, state.calls[index]? = some call →
    Waits state index call ∨ Settled index call
  /-- The timer of a call that is not settled can fire, and settles it. -/
  expires : ∀ index call, state.calls[index]? = some call → call.settled = [] →
    ∃ next after, step timeoutMs state (.timer index) = some next ∧
      next.calls[index]? = some after ∧ Settled index after
  /-- Once all calls are settled, none is pending and no timer is armed. -/
  finished : (∀ call ∈ state.calls, call.settled ≠ []) →
    (∀ correlationId, state.pending.get correlationId = none) ∧
      ∀ call ∈ state.calls, call.armed = false

theorem Good.accounted (good : Good state) : Accounted timeoutMs state where
  each := good.calls
  expires index call found unsettled := by
    have waits := good.waits found unsettled
    refine ⟨expire timeoutMs state index call, _, ?_, settle_self _ found, ⟨?_, rfl⟩⟩
    · simp only [step, found, waits.armed, if_true]
    · rw [unsettled]
      exact ⟨_, _, rfl, rfl⟩
  finished all := by
    constructor
    · intro correlationId
      rw [Option.eq_none_iff_forall_ne_some]
      intro index pends
      obtain ⟨call, listed, -, unsettled⟩ := good.pending correlationId index pends
      exact all call (List.mem_of_getElem? listed) unsettled
    · intro call member
      obtain ⟨index, found⟩ := List.getElem?_of_mem member
      rcases good.calls index call found with waits | settled
      · exact absurd waits.unsettled (all call member)
      · exact settled.disarmed

/-- In every state of every run in which no event finds another call pending under its id, the
calls are accounted for, and the next such event leaves every call but its own. -/
theorem calls_accounted (timeoutMs : Nat) (state : State Data)
    (reached : Runs (step timeoutMs) Undisturbed {} state) :
    Accounted timeoutMs state ∧
      ∀ move next, Undisturbed state move → step timeoutMs state move = some next →
        ∀ index call, state.calls[index]? = some call → move.of ≠ some index →
          next.calls[index]? = some call := by
  have good : Good state := reached.invariant good_start fun _ _ _ good permitted moved =>
    good_step good permitted moved
  refine ⟨good.accounted, ?_⟩
  intro move next permitted moved index call found apart
  exact step_others permitted moved found apart

/-- A start that is answered is accounted for. -/
theorem answered_start_accounted :
    ∃ state : State Unit, (∃ call ∈ state.calls, call.settled ≠ []) ∧ Accounted 10000 state := by
  let start : Move Unit := .start (some "order") ""
  let reply : Move Unit := .reply ⟨"order", .ok ()⟩ (some 0)
  let waiting : State Unit := awaitReply {} "order" "start"
  have free : Undisturbed {} start := (rfl : (Table.empty : Table String Nat).get "order" = none)
  have own : Undisturbed waiting reply := fun _ pends => pends
  have started : Runs (step 10000) Undisturbed {} waiting := Runs.start.step free rfl
  have answered : Runs (step 10000) Undisturbed {}
      (handleReply waiting ⟨"order", .ok ()⟩ (some 0)) := started.step own rfl
  refine ⟨_, ?_, (calls_accounted 10000 _ answered).1⟩
  exact ⟨_, List.mem_singleton_self _, by simp⟩

/-- Two starts under one id, the first of which cannot be sent. -/
def twoStarts : List (Move Unit) :=
  [.start (some "order") "", .start (some "order") "", .sendFails 0 "down"]

/-- A failure to send one start settles another start under its id. -/
theorem two_starts_disturbed :
    ¬ ∀ state : State Unit, Runs (step 10000) (fun _ _ => True) {} state →
      Accounted 10000 state := by
  intro claim
  have reached : Runs (step 10000) (fun _ _ => True) {} _ := Runs.start.of_moves twoStarts rfl
  -- The second start has been settled by the first one's event.
  rcases (claim _ reached).each 1 _ rfl with waits | settled
  · exact absurd waits.unsettled (by simp)
  · obtain ⟨source, settlement, once, own⟩ := settled.once
    obtain ⟨rfl, -⟩ := Prod.mk.inj (List.singleton_inj.mp once)
    exact absurd own (by decide)

end Runs

end Durable.ProxyRunGateway
