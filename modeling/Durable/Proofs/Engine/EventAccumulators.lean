import Durable.Data.Grouping
import Durable.Engine.EventAccumulators
import Durable.Interleaving.Histories

/-! What a chain of an accumulator's runs makes of its signals, whatever its runs observe. -/

namespace Durable

namespace EventAccumulators

open Addresses (accumulatorRunId)
open Grouping (Keeps mem_recent)
open Interleaving (AtEach atEach_cons atEach_nil)

/-- A routed event is unwrapped as it was routed. -/
theorem unwrap_routed (payload : Payload) (id : String) :
    unwrap (routed payload (some id)) = { id := some id, payload } := by
  -- The dedupe id is the first field, and the payload the only one under its own key.
  cases payload <;> rfl

/-- A signal a chain has heard, and whether its event was taken. -/
structure Heard where
  event : RoutedEvent
  taken : Bool

namespace Heard

variable (heard : Heard)

/-- The payload, if it was taken. -/
def payloads : List Payload := if heard.taken then [heard.event.payload] else []

/-- The dedupe id, if it was taken. -/
def ids : List String := if heard.taken then heard.event.id.toList else []

end Heard

namespace AccumulatorRun

variable (run : AccumulatorRun)

/-- What a run hears: what its waits return. -/
def hears (observed : Observed) : Option Heard :=
  match run.asks, observed with
  | some (.waitForSignal _ _), .returned signal =>
    some { event := unwrap signal, taken := (run.ids.take (unwrap signal).id).1 }
  | _, _ => none

end AccumulatorRun

/-- The runs of an accumulator, each continued as the next one. -/
structure Chain where
  run : AccumulatorRun
  /-- What its runs have heard, the latest first. -/
  heard : List Heard := []
  /-- The inputs that runs of the target were started with. -/
  started : List Payload := []

namespace Chain

/-- A run that has started its target is continued as the next one. -/
def answer (chain : Chain) (observed : Observed) : Chain :=
  match chain.run.phase, observed with
  | .firing input, .returned _ =>
    { chain with
      run := .start (chain.run.ids.carry chain.run.input)
      started := chain.started ++ [input] }
  | _, _ =>
    { chain with
      run := chain.run.answer observed
      heard := (chain.run.hears observed).toList ++ chain.heard }

/-- The chain that an input begins, after what its runs observe. -/
def after (input : AccumulatorInput) (observed : List Observed) : Chain :=
  observed.foldl answer { run := .start input }

/-- The payloads that were taken, in the order in which they were heard. -/
def taken (chain : Chain) : List Payload := chain.heard.reverse.flatMap Heard.payloads

end Chain

/-- The ids known after what has been heard: those an input brought along, and those taken. -/
def knownIds (input : AccumulatorInput) (heard : List Heard) : List String :=
  (Seen.ofCarried input.seen).ids ++ heard.reverse.flatMap Heard.ids

section Bursts

/-- The input that a burst starts the target with. -/
def BatchMode.fire (events : List Payload) : BatchMode → Payload
  | .debounce => events.getLast?.join
  | .batch _ => batchInput events

/-- A burst has an event, and a batch no more of them than it may. -/
def BatchMode.Fits (events : List Payload) : BatchMode → Prop
  | .debounce => events ≠ []
  | .batch maxSize => events ≠ [] ∧ events.length ≤ max 1 maxSize

/-- The events in hand are those the phase says. -/
def Phase.Holds (mode : BatchMode) (current : List Payload) : Phase → Prop
  | .parked => current = []
  | .extending last => mode = .debounce ∧ current ≠ [] ∧ mode.fire current = last
  | .opened events => current = events ∧ events.length = 1
  | .checking events _ | .collecting events _ _ =>
    current = events ∧ events ≠ [] ∧ ∃ maxSize, mode = .batch maxSize ∧ events.length < maxSize
  | .firing input => mode.Fits current ∧ mode.fire current = input
  | .failed _ => True

variable {input : AccumulatorInput} {run : AccumulatorRun} {mode : BatchMode}
  {current : List Payload}

/-- A batch with events, of which it had room for the last, goes on or fires. -/
theorem holds_gather {maxSize : Nat} {events : List Payload} (some_ : events ≠ [])
    (few : events.length ≤ max 1 maxSize) (deadline : Int) :
    (AccumulatorRun.gather maxSize events deadline).Holds (.batch maxSize) events := by
  unfold AccumulatorRun.gather
  by_cases room : events.length < maxSize
  · rw [if_pos room]
    exact ⟨rfl, some_, maxSize, rfl, room⟩
  · rw [if_neg room]
    exact ⟨⟨some_, few⟩, rfl⟩

/-- A run that receives a signal holds its event where it was new. -/
theorem holds_receive {signal : Payload} {taken : Payload → Phase} {dropped : Phase}
    (kept : ∀ payload, (taken payload).Holds mode (current ++ [payload]))
    (left : dropped.Holds mode current) :
    (run.receive signal taken dropped).phase.Holds mode (current ++ Heard.payloads
      { event := unwrap signal, taken := (run.ids.take (unwrap signal).id).1 }) := by
  unfold AccumulatorRun.receive Heard.payloads
  by_cases isNew : (run.ids.take (unwrap signal).id).1 = true
  · simp only [if_pos isNew]
    exact kept _
  · simp only [if_neg isNew, List.append_nil]
    exact left

/-- What a signal adds to the events in hand, while a run waits for one. -/
theorem payloads_hears {signal : Payload} {token : Token} {timeoutMs : Option Nat}
    (waits : run.asks = some (.waitForSignal token timeoutMs)) :
    (run.hears (.returned signal)).toList.flatMap Heard.payloads = Heard.payloads
      { event := unwrap signal, taken := (run.ids.take (unwrap signal).id).1 } := by
  unfold AccumulatorRun.hears
  rw [waits, Option.toList_some, List.flatMap_singleton]

/-- Nothing but what is returned adds to the events in hand. -/
theorem hears_eq_none {observed : Observed} (other : ∀ signal, observed ≠ .returned signal) :
    run.hears observed = none := by
  unfold AccumulatorRun.hears
  split
  · exact absurd rfl (other _)
  · rfl

/-- A debounce that starts nothing holds the events it has heard since the burst began. -/
theorem holds_debounce (holds : run.phase.Holds .debounce current) {observed : Observed}
    (going : ∀ input result, run.phase = .firing input → observed ≠ .returned result) :
    (run.debounce observed).phase.Holds .debounce
      (current ++ (run.hears observed).toList.flatMap Heard.payloads) := by
  obtain ⟨input, ids, phase⟩ := run
  cases observed with
  | returned signal =>
    cases phase with
    | parked =>
      rw [payloads_hears rfl]
      refine holds_receive (fun payload => ⟨rfl, by simp, ?_⟩) holds
      simp [BatchMode.fire]
    | extending last =>
      rw [payloads_hears rfl]
      refine holds_receive (fun payload => ⟨rfl, by simp, ?_⟩) holds
      simp [BatchMode.fire]
    | firing input => exact absurd rfl (going input signal rfl)
    | collecting events deadline remaining =>
      -- A debounce is never at what a batch is at.
      obtain ⟨-, -, maxSize, isBatch, -⟩ := holds
      cases isBatch
    | _ => exact (List.append_nil current).symm ▸ holds
  | threw error =>
    rw [hears_eq_none (by simp), Option.toList_none, List.flatMap_nil, List.append_nil]
    cases phase with
    | extending last =>
      cases error with
      | timeout label timeoutMs => exact holds.2
      | _ => trivial
    | _ => trivial
  | _ =>
    rw [hears_eq_none (by simp), Option.toList_none, List.flatMap_nil, List.append_nil]
    cases phase with
    | _ => exact holds

/-- A batch that starts nothing holds the events it has heard since the burst began. -/
theorem holds_batch {maxSize : Nat} (holds : run.phase.Holds (.batch maxSize) current)
    {observed : Observed}
    (going : ∀ input result, run.phase = .firing input → observed ≠ .returned result) :
    (run.batch maxSize observed).phase.Holds (.batch maxSize)
      (current ++ (run.hears observed).toList.flatMap Heard.payloads) := by
  obtain ⟨input, ids, phase⟩ := run
  cases observed with
  | returned result =>
    cases phase with
    | parked =>
      obtain rfl : current = [] := holds
      rw [payloads_hears rfl]
      exact holds_receive (fun payload => ⟨rfl, rfl⟩) rfl
    | opened events =>
      obtain ⟨rfl, single⟩ := holds
      have some_ : current ≠ [] := by
        rintro rfl
        cases single
      have quiet : (AccumulatorRun.hears ⟨input, ids, .opened current⟩
          (.returned result)).toList = [] := rfl
      rw [quiet, List.flatMap_nil, List.append_nil]
      -- Only a number is what the clock reads.
      cases result with
      | none => exact ⟨rfl, single⟩
      | some value =>
        cases value with
        | num now => exact holds_gather some_ (by omega) _
        | _ => exact ⟨rfl, single⟩
    | checking events deadline =>
      obtain ⟨rfl, some_, limit, same, room⟩ := holds
      cases same
      have quiet : (AccumulatorRun.hears ⟨input, ids, .checking current deadline⟩
          (.returned result)).toList = [] := rfl
      rw [quiet, List.flatMap_nil, List.append_nil]
      cases result with
      | none => exact ⟨rfl, some_, maxSize, rfl, room⟩
      | some value =>
        cases value with
        | num now =>
          show Phase.Holds _ _ (AccumulatorRun.phase (if _ then _ else _))
          split
          · exact ⟨⟨some_, by omega⟩, rfl⟩
          · exact ⟨rfl, some_, maxSize, rfl, room⟩
        | _ => exact ⟨rfl, some_, maxSize, rfl, room⟩
    | collecting events deadline remaining =>
      obtain ⟨rfl, some_, limit, same, room⟩ := holds
      cases same
      rw [payloads_hears rfl]
      refine holds_receive (fun payload => holds_gather (by simp) ?_ deadline)
        (holds_gather some_ (by omega) deadline)
      rw [List.length_append, List.length_singleton]
      omega
    | firing input => exact absurd rfl (going input result rfl)
    | extending last => cases holds.1
    | failed error => exact (List.append_nil current).symm ▸ holds
  | threw error =>
    rw [hears_eq_none (by simp), Option.toList_none, List.flatMap_nil, List.append_nil]
    cases phase with
    | collecting events deadline remaining =>
      cases error with
      | timeout label timeoutMs =>
        obtain ⟨rfl, some_, limit, same, room⟩ := holds
        cases same
        exact ⟨⟨some_, by omega⟩, rfl⟩
      | _ => trivial
    | _ => trivial
  | _ =>
    rw [hears_eq_none (by simp), Option.toList_none, List.flatMap_nil, List.append_nil]
    cases phase with
    | _ => exact holds

/-- What a run observes leaves its input alone. -/
theorem answer_input (run : AccumulatorRun) (observed : Observed) :
    (run.answer observed).input = run.input := by
  unfold AccumulatorRun.answer
  cases run.input.mode with
  | debounce =>
    dsimp only
    unfold AccumulatorRun.debounce
    split <;> rfl
  | batch maxSize =>
    dsimp only
    unfold AccumulatorRun.batch
    split
    any_goals rfl
    dsimp only
    split <;> rfl

/-- A run that starts nothing holds the events it has heard since the burst began. -/
theorem holds_answer (holds : run.phase.Holds run.input.mode current) {observed : Observed}
    (going : ∀ input result, run.phase = .firing input → observed ≠ .returned result) :
    (run.answer observed).phase.Holds (run.answer observed).input.mode
      (current ++ (run.hears observed).toList.flatMap Heard.payloads) := by
  rw [answer_input]
  unfold AccumulatorRun.answer
  cases isMode : run.input.mode with
  | debounce => exact holds_debounce (isMode ▸ holds) going
  | batch maxSize => exact holds_batch (isMode ▸ holds) going

/-- Bursts are what a chain has started its target with, and the events in hand are the others. -/
structure Chain.Accounts (input : AccumulatorInput) (chain : Chain) (bursts : List (List Payload))
    (current : List Payload) : Prop where
  same : ∃ seen, chain.run.input = { input with seen }
  started : chain.started = bursts.map fun burst => input.mode.fire burst
  taken : bursts.flatten ++ current = chain.taken
  fits : ∀ burst ∈ bursts, input.mode.Fits burst
  holds : chain.run.phase.Holds chain.run.input.mode current

/-- A chain goes on with its next run, or with what its run makes of what it observes. -/
theorem Chain.answer_cases (chain : Chain) (observed : Observed) :
    (∃ input, chain.run.phase = .firing input ∧ chain.answer observed =
      { chain with
        run := .start (chain.run.ids.carry chain.run.input)
        started := chain.started ++ [input] }) ∨
      (∀ input result, chain.run.phase = .firing input → observed ≠ .returned result) ∧
        chain.answer observed =
          { chain with
            run := chain.run.answer observed
            heard := (chain.run.hears observed).toList ++ chain.heard } := by
  unfold Chain.answer
  split
  · rename_i fires
    exact .inl ⟨_, fires, rfl⟩
  · rename_i going
    exact .inr ⟨going, rfl⟩

/-- Whatever a run observes, the events are accounted for. -/
theorem Chain.Accounts.answer {chain : Chain} {bursts : List (List Payload)}
    (accounts : chain.Accounts input bursts current) (observed : Observed) :
    ∃ bursts current, (chain.answer observed).Accounts input bursts current := by
  obtain ⟨⟨seen, same⟩, started, taken, fits, holds⟩ := accounts
  rcases chain.answer_cases observed with ⟨_, fires, next⟩ | ⟨going, next⟩
  · -- The events in hand are the burst that the target is started with.
    rw [fires, same] at holds
    obtain ⟨complete, rfl⟩ := holds
    rw [next]
    refine ⟨bursts ++ [current], [],
      ⟨(chain.run.ids.carry chain.run.input).seen, ?_⟩, ?_, ?_, ?_, rfl⟩
    · show chain.run.ids.carry chain.run.input = _
      rw [same]
      rfl
    · rw [List.map_append, ← started]
      rfl
    · rw [List.flatten_append, List.append_nil, List.flatten_singleton]
      exact taken
    · intro burst listed
      rcases List.mem_append.mp listed with before | last
      · exact fits burst before
      · rw [List.mem_singleton.mp last]
        exact complete
  · rw [next]
    refine ⟨bursts, current ++ (chain.run.hears observed).toList.flatMap Heard.payloads,
      ⟨seen, (answer_input ..).trans same⟩, started, ?_, fits, holds_answer holds going⟩
    rw [← List.append_assoc, taken]
    unfold Chain.taken
    cases chain.run.hears observed with
    | none => simp
    | some heard => simp

/-- Whatever the runs of a chain observe, the events are accounted for. -/
theorem accounts_after (input : AccumulatorInput) (observed : List Observed) :
    ∃ bursts current, (Chain.after input observed).Accounts input bursts current := by
  induction observed using List.reverseRecOn with
  | nil => exact ⟨[], [], ⟨input.seen, rfl⟩, rfl, rfl, nofun, rfl⟩
  | append_singleton observed last ih =>
    obtain ⟨bursts, current, accounts⟩ := ih
    unfold Chain.after
    rw [List.foldl_append]
    exact accounts.answer last

/--
No event that was taken is lost, repeated, or moved, whatever the runs of a chain observe.

The target is started once for each burst, with the events taken since the burst before.

Only the events after the last burst are still in hand, and none are while a run is parked.

Every wait of every run is for the token that events are routed to.
-/
theorem bursts_lose_nothing (input : AccumulatorInput) (observed : List Observed) :
    ∃ (bursts : List (List Payload)) (current : List Payload),
      (Chain.after input observed).started = (bursts.map fun burst => input.mode.fire burst) ∧
      bursts.flatten ++ current = (Chain.after input observed).taken ∧
      (∀ burst ∈ bursts, input.mode.Fits burst) ∧
      ((Chain.after input observed).run.phase = .parked → current = []) ∧
      ∀ token timeoutMs,
        (Chain.after input observed).run.asks = some (.waitForSignal token timeoutMs) →
          token = .named (accumulatorRunId input.target input.key) := by
  obtain ⟨bursts, current, ⟨seen, same⟩, started, taken, fits, holds⟩ :=
    accounts_after input observed
  refine ⟨bursts, current, started, taken, fits, ?_, ?_⟩
  · intro parked
    rw [parked] at holds
    exact holds
  · intro token timeoutMs asks
    unfold AccumulatorRun.asks at asks
    rw [same] at asks
    split at asks <;> cases asks <;> rfl

/-- A copy of an event is dropped, and the batch goes on. -/
example :
    (Chain.after { target := "digest", mode := .batch 2, windowMs := 50 }
      [.returned (routed (some (.num 1)) (some "a")), .returned (some (.num 0)),
        .returned (some (.num 10)), .returned (routed (some (.num 1)) (some "a")),
        .returned (some (.num 20)), .returned (some (.num 2)), .returned none]).started =
      [batchInput [some (.num 1), some (.num 2)]] := rfl

end Bursts

section Dedupe

/-- An event is taken, and its id with it, unless it has one that already was. -/
theorem take_cases (seen : Seen) (id : Option String) :
    ((seen.take id).1 = true ∧ (seen.take id).2.ids = seen.ids ++ id.toList ∧
        ∀ text, id = some text → text ∉ seen.ids) ∨
      ∃ text, id = some text ∧ text ∈ seen.ids ∧ seen.take id = (false, seen) := by
  cases id with
  | none => exact .inl ⟨rfl, (List.append_nil _).symm, nofun⟩
  | some text =>
    by_cases listed : text ∈ seen.ids
    · refine .inr ⟨text, rfl, listed, ?_⟩
      show (if _ then _ else _) = _
      rw [if_pos listed]
    · left
      have took : seen.take (some text) = (true, ⟨seen.ids ++ [text]⟩) := if_neg listed
      rw [took]
      refine ⟨rfl, rfl, ?_⟩
      rintro other same
      cases same
      exact listed

/-- What a run hears is all that it takes an id from. -/
theorem answer_ids {run : AccumulatorRun} {current : List Payload}
    (holds : run.phase.Holds run.input.mode current) {observed : Observed}
    (going : ∀ input result, run.phase = .firing input → observed ≠ .returned result) :
    (run.answer observed).ids = (run.hears observed).elim run.ids
      fun heard => (run.ids.take heard.event.id).2 := by
  obtain ⟨⟨target, mode, windowMs, key, seen⟩, ids, phase⟩ := run
  cases observed with
  | returned result =>
    cases phase with
    | parked => cases mode <;> rfl
    | extending last =>
      obtain ⟨isDebounce, -, -⟩ := holds
      cases isDebounce
      rfl
    | collecting events deadline remaining =>
      obtain ⟨-, -, maxSize, isBatch, -⟩ := holds
      cases isBatch
      rfl
    | firing input => exact absurd rfl (going input result rfl)
    | opened events =>
      cases mode with
      | debounce => rfl
      | batch maxSize => cases result with
        | none => rfl
        | some value => cases value <;> rfl
    | checking events deadline =>
      cases mode with
      | debounce => rfl
      | batch maxSize => cases result with
        | none => rfl
        | some value => cases value with
          | num now =>
            show AccumulatorRun.ids (if _ then _ else _) = ids
            split <;> rfl
          | _ => rfl
    | failed error => cases mode <;> rfl
  | threw error =>
    rw [hears_eq_none (by simp)]
    cases mode <;> cases phase <;> cases error <;> rfl
  | _ =>
    rw [hears_eq_none (by simp)]
    cases mode <;> cases phase <;> rfl

/-- A signal is dropped for an id that is known, and taken for one that is not of late. -/
def Heard.Judged (input : AccumulatorInput) (heard : Heard) (earlier : List Heard) : Prop :=
  (heard.taken = false → ∃ id, heard.event.id = some id ∧ id ∈ knownIds input earlier) ∧
    (heard.taken = true → ∀ id, heard.event.id = some id →
      id ∉ (knownIds input earlier).drop ((knownIds input earlier).length - seenCap))

/-- A run keeps the last ids that are known, and has judged its signals by them. -/
structure Chain.Remembers (input : AccumulatorInput) (chain : Chain) : Prop where
  keeps : Keeps seenCap (knownIds input chain.heard) chain.run.ids.ids
  judged : AtEach (fun _ => true) (Heard.Judged input) chain.heard

/-- The run that goes on keeps enough of the ids its input brings along. -/
theorem keeps_carry {all : List String} {seen : Seen} (keeps : Keeps seenCap all seen.ids)
    (input : AccumulatorInput) :
    Keeps seenCap all (Seen.ofCarried (seen.carry input).seen).ids := by
  show Keeps seenCap all (Option.getD (if _ then _ else _) [])
  by_cases some_ : 0 < seen.ids.length
  · rw [if_pos some_, Option.getD_some]
    exact keeps.drop
  · rw [if_neg some_, Option.getD_none,
      ← List.eq_nil_of_length_eq_zero (Nat.eq_zero_of_not_pos some_)]
    exact keeps

/-- A run takes the event of what it hears just where it takes its id. -/
theorem taken_of_hears {run : AccumulatorRun} {observed : Observed} {heard : Heard}
    (hears : run.hears observed = some heard) :
    heard.taken = (run.ids.take heard.event.id).1 := by
  unfold AccumulatorRun.hears at hears
  split at hears
  · cases hears
    rfl
  · cases hears

/-- What a chain hears is judged by the ids its run keeps, and remembered. -/
theorem Chain.Remembers.answer {input : AccumulatorInput} {chain : Chain} {current : List Payload}
    (remembers : chain.Remembers input)
    (holds : chain.run.phase.Holds chain.run.input.mode current) (observed : Observed) :
    (chain.answer observed).Remembers input := by
  obtain ⟨keeps, judged⟩ := remembers
  rcases chain.answer_cases observed with ⟨_, -, next⟩ | ⟨going, next⟩
  · rw [next]
    exact ⟨keeps_carry keeps _, judged⟩
  · rw [next]
    have ids := answer_ids holds going
    cases hears : chain.run.hears observed with
    | none =>
      rw [hears] at ids
      refine ⟨?_, judged⟩
      show Keeps seenCap _ (chain.run.answer observed).ids.ids
      rw [ids]
      exact keeps
    | some heard =>
      rw [hears] at ids
      have taken := taken_of_hears hears
      have known : knownIds input (heard :: chain.heard) =
          knownIds input chain.heard ++ heard.ids := by simp [knownIds]
      refine ⟨?_, atEach_cons.mpr ⟨fun _ => ⟨?_, ?_⟩, judged⟩⟩
      · show Keeps seenCap (knownIds input (heard :: chain.heard))
          (chain.run.answer observed).ids.ids
        rw [known, ids]
        rcases take_cases chain.run.ids heard.event.id with ⟨took, kept, -⟩ | ⟨text, -, -, same⟩
        · rw [Option.elim_some, kept, Heard.ids, if_pos (taken.trans took)]
          cases heard.event.id with
          | none => simpa using keeps
          | some text => exact keeps.concat text
        · have dropped : ¬heard.taken = true := by simp [taken, same]
          rw [Option.elim_some, same, Heard.ids, if_neg dropped, List.append_nil]
          exact keeps
      · intro dropped
        rcases take_cases chain.run.ids heard.event.id with ⟨took, -, -⟩ | ⟨text, named, listed, -⟩
        · rw [taken, took] at dropped
          cases dropped
        · exact ⟨text, named, keeps.mem listed⟩
      · intro took text named recent
        rcases take_cases chain.run.ids heard.event.id with ⟨-, -, absent⟩ | ⟨-, -, -, same⟩
        · exact absent text named (keeps.mem_of_recent recent)
        · rw [taken, same] at took
          cases took

/-- Whatever its runs observe, a chain remembers. -/
theorem remembers_after (input : AccumulatorInput) (observed : List Observed) :
    (Chain.after input observed).Remembers input := by
  induction observed using List.reverseRecOn with
  | nil =>
    refine ⟨?_, atEach_nil⟩
    show Keeps seenCap (_ ++ []) _
    rw [List.append_nil]
    exact Keeps.self _
  | append_singleton observed last ih =>
    obtain ⟨bursts, current, accounts⟩ := accounts_after input observed
    unfold Chain.after at ih accounts ⊢
    rw [List.foldl_append]
    exact ih.answer accounts.holds last

/--
An event is dropped only for an id that was taken before, or that the chain began with.

It is taken twice only where at least as many other ids as are carried over were taken between.
-/
theorem events_count_once (input : AccumulatorInput) (observed : List Observed) :
    (∀ heard earlier, (heard :: earlier) <:+ (Chain.after input observed).heard →
        heard.taken = false → ∃ id, heard.event.id = some id ∧ id ∈ knownIds input earlier) ∧
      ∀ later second between first older id,
        (Chain.after input observed).heard = later ++ second :: between ++ first :: older →
        second.taken = true → second.event.id = some id →
        first.taken = true → first.event.id = some id →
        seenCap ≤ (between.flatMap Heard.ids).length := by
  have judged := (remembers_after input observed).judged
  refine ⟨fun heard earlier within => (judged heard earlier within rfl).1, ?_⟩
  intro later second between first older id listed took named took' named'
  have within : (second :: (between ++ first :: older)) <:+ (Chain.after input observed).heard :=
    ⟨later, by rw [listed, List.append_assoc, List.cons_append]⟩
  have apart := (judged second _ within rfl).2 took id named
  by_contra few
  -- The last ids reach back to where the id was taken before.
  refine apart ?_
  have known : knownIds input (between ++ first :: older) =
      knownIds input older ++ id :: between.reverse.flatMap Heard.ids := by
    simp [knownIds, Heard.ids, took', named']
  have same : (between.reverse.flatMap Heard.ids).length = (between.flatMap Heard.ids).length :=
    ((List.reverse_perm between).flatMap_right _).length_eq
  rw [known]
  exact mem_recent (by omega)

end Dedupe

end EventAccumulators

end Durable
