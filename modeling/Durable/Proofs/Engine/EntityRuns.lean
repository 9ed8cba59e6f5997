import Durable.Engine.EntityRuns
import Durable.Interleaving.Runs
import Mathlib.Data.List.Induction

/-! Each operation of an entity takes effect once, in order, over any crashes and replays. -/

namespace Durable

namespace EntityRuns

open Interleaving (Runs)

/-- An operation that took effect: its message, its result, and the state it left. -/
structure EntityOp where
  message : EntityMessage
  result : Payload
  state : Payload

section Serial

variable (may : EntityMessage → Payload → EntityOutcome → Prop)

/-- Operations one after another, each on the state that the one before it left. -/
def Serial (state : Payload) : List EntityOp → Prop
  | [] => True
  | op :: rest => may op.message state (.ok (op.result, op.state)) ∧ Serial op.state rest

/-- The state that operations leave. -/
def stateAfter (state : Payload) (ops : List EntityOp) : Payload :=
  (ops.getLast?.map EntityOp.state).getD state

variable {may}

theorem stateAfter_concat (state : Payload) (ops : List EntityOp) (op : EntityOp) :
    stateAfter state (ops ++ [op]) = op.state := by simp [stateAfter]

/-- One more operation is on the state that the others left. -/
theorem serial_concat {state : Payload} {ops : List EntityOp} {op : EntityOp} :
    Serial may state (ops ++ [op]) ↔
      Serial may state ops ∧ may op.message (stateAfter state ops) (.ok (op.result, op.state)) := by
  induction ops generalizing state with
  | nil => simp [Serial, stateAfter]
  | cons first rest ih =>
    have last : stateAfter state (first :: rest) = stateAfter first.state rest := by
      cases rest with
      | nil => rfl
      | cons second rest => simp [stateAfter, List.getLast?_cons]
    rw [List.cons_append, Serial, Serial, ih, last, and_assoc]

end Serial

section Operations

/-- A nudge, and a copy of an earlier operation, are no operations. -/
def Skipped (earlier : List EntityMessage) (message : EntityMessage) : Prop :=
  message.nudge = true ∨ ∃ id, message.id = some id ∧ id ∈ earlier.filterMap (·.id)

/-- One more message is an operation, or it is skipped. -/
theorem operations_concat (messages : List EntityMessage) (message : EntityMessage) :
    Skipped (operations messages) message ∧
        operations (messages ++ [message]) = operations messages ∨
      ¬Skipped (operations messages) message ∧
        operations (messages ++ [message]) = operations messages ++ [message] := by
  have decided : (message.nudge ||
      message.id.any (· ∈ (operations messages).filterMap (·.id))) = true ↔
        Skipped (operations messages) message := by
    simp only [Bool.or_eq_true, Option.any_eq_true, decide_eq_true_eq, Skipped]
  unfold operations at decided ⊢
  rw [List.foldl_append]
  by_cases skipped : Skipped (operations messages) message
  · exact .inl ⟨skipped, if_pos (decided.mpr skipped)⟩
  · exact .inr ⟨skipped, if_neg fun same => skipped (decided.mp same)⟩

/-- No two of the operations are the same send. -/
theorem operations_pairwise (messages : List EntityMessage) :
    (operations messages).Pairwise fun earlier later =>
      earlier.id.isSome → earlier.id ≠ later.id := by
  induction messages using List.reverseRecOn with
  | nil => exact .nil
  | append_singleton messages message ih =>
    rcases operations_concat messages message with ⟨-, same⟩ | ⟨taken, same⟩
    · exact same ▸ ih
    · rw [same]
      refine List.pairwise_append.mpr ⟨ih, List.pairwise_singleton .., ?_⟩
      intro earlier listed later last named copied
      cases List.mem_singleton.mp last
      obtain ⟨id, named⟩ := Option.isSome_iff_exists.mp named
      exact taken (.inr ⟨id, copied ▸ named, List.mem_filterMap.mpr ⟨earlier, listed, named⟩⟩)

/-- A send that was heard is one of the operations, or a copy of one. -/
theorem exists_operation {messages : List EntityMessage} {message : EntityMessage} {id : String}
    (heard : message ∈ messages) (real : message.nudge = false) (named : message.id = some id) :
    ∃ op ∈ operations messages, op.id = some id := by
  induction messages using List.reverseRecOn with
  | nil => cases heard
  | append_singleton messages last ih =>
    rcases List.mem_append.mp heard with before | now
    · obtain ⟨op, listed, same⟩ := ih before
      rcases operations_concat messages last with ⟨-, went⟩ | ⟨-, went⟩
      · exact ⟨op, went ▸ listed, same⟩
      · exact ⟨op, went ▸ List.mem_append_left _ listed, same⟩
    · cases List.mem_singleton.mp now
      rcases operations_concat messages message with ⟨skipped, went⟩ | ⟨-, went⟩
      · obtain ⟨text, named', copied⟩ := skipped.resolve_left (by simp [real])
        obtain ⟨op, listed, same⟩ := List.mem_filterMap.mp copied
        exact ⟨op, went ▸ listed, same.trans (named'.symm.trans named)⟩
      · exact ⟨message, went ▸ List.mem_append_right _ List.mem_cons_self, named⟩

end Operations

/-- The runner that a turn comes to by replaying records. -/
def restored (config : EntityConfig) (records : List Observed) : EntityRun :=
  records.foldl EntityRun.answer { state := config.initialState }

theorem restored_concat (config : EntityConfig) (records : List Observed) (observed : Observed) :
    restored config (records ++ [observed]) = (restored config records).answer observed := by
  unfold restored
  rw [List.foldl_append]
  rfl

namespace EntityWorld

variable (config : EntityConfig)

/-- The turn under way has replayed the records it says, and nothing else. -/
def Replays (world : EntityWorld) : Prop :=
  ∀ run replayed, world.turn = some (run, replayed) →
    replayed ≤ world.records.length ∧ run = restored config (world.records.take replayed)

variable {config} {world next : EntityWorld} {run : EntityRun}

/-- A turn that has replayed everything is where its run is. -/
theorem Replays.live (replays : world.Replays config) (live : world.live = some run) :
    run = restored config world.records := by
  unfold EntityWorld.live at live
  cases turn : world.turn with
  | none =>
    rw [turn] at live
    cases live
  | some entry =>
    obtain ⟨other, replayed⟩ := entry
    rw [turn] at live
    dsimp only at live
    split at live
    · rename_i whole
      cases live
      obtain ⟨-, same⟩ := replays run replayed turn
      rw [same, whole, List.take_length]
    · cases live

/-- What a turn records, it goes on with as a replay would. -/
theorem Replays.record (same : run = restored config world.records) (observed : Observed) :
    (world.record run observed).Replays config := by
  intro other replayed turn
  cases turn
  refine ⟨?_, ?_⟩
  · show _ ≤ (world.records ++ [observed]).length
    simp
  · show _ = restored config ((world.records ++ [observed]).take (world.records.length + 1))
    rw [List.take_of_length_le (by simp), restored_concat, same]

end EntityWorld

section Accounts

/-- What a runner is at, between the operations it was given and those that took effect. -/
def EntityPhase.Holds (given : List EntityMessage) (ops : List EntityOp) : EntityPhase → Prop
  | .waiting | .failed => given = ops.map (·.message)
  | .handling message => given = ops.map (·.message) ++ [message]
  | .publishing message result =>
    given = ops.map (·.message) ∧
      ∃ op, ops.getLast? = some op ∧ op.message = message ∧ op.result = result
  | .replying reply result =>
    given = ops.map (·.message) ∧
      ∃ op, ops.getLast? = some op ∧ op.message.reply = some reply ∧ op.result = result

/-- The latest operation is not published yet. -/
def EntityPhase.isPublishing : EntityPhase → Prop
  | .publishing _ _ => True
  | _ => False

/-- The caller of the latest operation is not answered yet. -/
def EntityPhase.isOwing : EntityPhase → Prop
  | .publishing _ _ | .replying _ _ => True
  | _ => False

/-- A caller is answered once the state is published. -/
theorem EntityPhase.isPublishing.isOwing {phase : EntityPhase} (publishes : phase.isPublishing) :
    phase.isOwing := by
  cases phase with
  | publishing message result => trivial
  | _ => exact publishes.elim

theorem EntityPhase.waiting_rests : ¬EntityPhase.waiting.isOwing := id

theorem EntityPhase.handling_rests {message : EntityMessage} :
    ¬(EntityPhase.handling message).isOwing := id

/-- What an entity's run has come to: the runner that its records restore, the operations it was
given and those that took effect, the states it has published, and the answers it has sent. -/
structure Accounts (may : EntityMessage → Payload → EntityOutcome → Prop) (config : EntityConfig)
    (run : EntityRun) (given : List EntityMessage) (published : List (Nat × Payload))
    (replies : List (Nat × String × Payload)) (ops : List EntityOp) : Prop where
  serial : Serial may config.initialState ops
  state : run.state = stateAfter config.initialState ops
  seen : run.seen = given.filterMap (·.id)
  holds : run.phase.Holds given ops
  faithful : ∀ place state, (place, state) ∈ published →
    ∃ op, ops[place]? = some op ∧ op.state = state
  shown : ∀ place op, ops[place]? = some op →
    (place, op.state) ∈ published ∨ run.phase.isPublishing ∧ place + 1 = ops.length
  replied : ∀ place token result, (place, token, result) ∈ replies →
    ∃ op, ops[place]? = some op ∧ op.message.reply = some token ∧ op.result = result
  answered : ∀ place op token, ops[place]? = some op → op.message.reply = some token →
    (place, token, op.result) ∈ replies ∨ run.phase.isOwing ∧ place + 1 = ops.length

variable {may : EntityMessage → Payload → EntityOutcome → Prop} {config : EntityConfig}
  {run : EntityRun} {given : List EntityMessage} {published : List (Nat × Payload)}
  {replies : List (Nat × String × Payload)} {ops : List EntityOp}

/-- A message is skipped just where it is none of the operations. -/
theorem hear_cases {messages : List EntityMessage}
    (seen : run.seen = (operations messages).filterMap (·.id)) (message : EntityMessage) :
    (operations (messages ++ [message]) = operations messages ∧ run.hear message = run.again) ∨
      operations (messages ++ [message]) = operations messages ++ [message] ∧
        run.hear message =
          { run with seen := run.seen ++ message.id.toList, phase := .handling message } := by
  unfold EntityRun.hear
  rcases operations_concat messages message with ⟨skipped, same⟩ | ⟨taken, same⟩
  · refine .inl ⟨same, ?_⟩
    rcases skipped with nudge | ⟨text, named, copied⟩
    · exact if_pos nudge
    · have known : text ∈ run.seen := seen ▸ copied
      rw [named]
      dsimp only
      rw [if_pos known, ite_self]
  · refine .inr ⟨same, ?_⟩
    rw [if_neg fun nudge => taken (.inl nudge)]
    cases named : message.id with
    | none => rw [Option.toList_none, List.append_nil]
    | some text => exact if_neg fun known => taken (.inr ⟨text, named, seen ▸ known⟩)

/-- A runner that owes nothing has published every state, and answered every caller. -/
theorem Accounts.settled (accounts : Accounts may config run given published replies ops)
    (rests : ¬run.phase.isOwing) :
    (∀ place op, ops[place]? = some op → (place, op.state) ∈ published) ∧
      ∀ place op token, ops[place]? = some op → op.message.reply = some token →
        (place, token, op.result) ∈ replies := by
  constructor
  · intro place op listed
    exact (accounts.shown place op listed).resolve_right fun late => rests late.1.isOwing
  · intro place op token listed asks
    exact (accounts.answered place op token listed asks).resolve_right fun late => rests late.1

/-- Two of the operations that took effect are not the same send. -/
theorem same_send {messages : List EntityMessage} (all : operations messages = ops.map (·.message))
    {first second : Nat} {effect other : EntityOp} {id : String} (found : ops[first]? = some effect)
    (found' : ops[second]? = some other) (same : effect.message.id = other.message.id)
    (named : effect.message.id = some id) : first = second := by
  have apart := operations_pairwise messages
  rw [all, List.pairwise_map, List.pairwise_iff_getElem] at apart
  obtain ⟨bound, rfl⟩ := List.getElem?_eq_some_iff.mp found
  obtain ⟨bound', rfl⟩ := List.getElem?_eq_some_iff.mp found'
  rcases Nat.lt_trichotomy first second with before | same_ | after
  · exact absurd same (apart first second bound bound' before (named ▸ rfl))
  · exact same_
  · exact absurd same.symm (apart second first bound' bound after (same ▸ named ▸ rfl))

/-- A runner that waits hears the message it takes, if it is one. -/
theorem EntityRun.answer_waiting (waits : run.phase = .waiting) (signal : Payload) :
    run.answer (.returned signal) =
      match EntityMessage.ofPayload signal with
      | none => { run with phase := .failed }
      | some message => run.hear message := by
  obtain ⟨round, state, seen, phase⟩ := run
  cases waits
  rfl

/-- A runner that owes nothing may go on to whatever its operations bear out. -/
theorem Accounts.carry (accounts : Accounts may config run given published replies ops)
    (rests : ¬run.phase.isOwing) {after : EntityRun} {heard : List EntityMessage}
    (state : after.state = run.state) (seen : after.seen = heard.filterMap (·.id))
    (holds : after.phase.Holds heard ops) :
    Accounts may config after heard published replies ops := by
  obtain ⟨shown, answered⟩ := accounts.settled rests
  exact {
    serial := accounts.serial
    state := state.trans accounts.state
    seen
    holds
    faithful := accounts.faithful
    shown := fun place op listed => .inl (shown place op listed)
    replied := accounts.replied
    answered := fun place op token listed asks => .inl (answered place op token listed asks) }

/-- A message that is heard is the next operation, or it is skipped. -/
theorem Accounts.hear {messages : List EntityMessage}
    (accounts : Accounts may config run (operations messages) published replies ops)
    (waits : run.phase = .waiting) (message : EntityMessage) :
    Accounts may config (run.hear message) (operations (messages ++ [message])) published replies
      ops := by
  have rests := waits ▸ EntityPhase.waiting_rests
  have holds := accounts.holds
  rw [waits] at holds
  rcases hear_cases accounts.seen message with ⟨skipped, went⟩ | ⟨taken, went⟩
  · rw [skipped, went]
    exact accounts.carry rests rfl accounts.seen holds
  · rw [taken, went]
    refine accounts.carry rests rfl ?_ (congrArg (· ++ [message]) holds)
    show run.seen ++ message.id.toList = _
    rw [accounts.seen, List.filterMap_append]
    cases id : message.id <;> simp [id]

/-- A message of which nothing can be read fails the runner. -/
theorem Accounts.fail (accounts : Accounts may config run given published replies ops)
    (waits : run.phase = .waiting) :
    Accounts may config { run with phase := .failed } given published replies ops := by
  have holds := accounts.holds
  rw [waits] at holds
  exact accounts.carry (waits ▸ EntityPhase.waiting_rests) rfl accounts.seen holds

/-- What is recorded of a handler takes effect on the state. -/
theorem Accounts.handle (accounts : Accounts may config run given published replies ops)
    {message : EntityMessage} (handles : run.phase = .handling message) {result state : Payload}
    (came : may message run.state (.ok (result, state))) :
    Accounts may config (run.answer (.returned (some (entityOutput result state)))) given published
      replies (ops ++ [⟨message, result, state⟩]) := by
  obtain ⟨shown, answered⟩ := accounts.settled (handles ▸ EntityPhase.handling_rests)
  obtain ⟨serial, before, seen, holds, faithful, -, replied, -⟩ := accounts
  have went : run.answer (.returned (some (entityOutput result state))) =
      { run with state, phase := .publishing message result } := by
    unfold EntityRun.answer
    rw [handles]
    cases result <;> cases state <;> rfl
  rw [handles] at holds
  have kept : ∀ {place : Nat} {op : EntityOp}, ops[place]? = some op →
      (ops ++ [⟨message, result, state⟩])[place]? = some op := by
    intro place op listed
    rw [List.getElem?_append_left (List.getElem?_eq_some_iff.mp listed).1]
    exact listed
  -- An operation is an earlier one, or the one that takes effect now.
  have either : ∀ {place : Nat} {op : EntityOp},
      (ops ++ [⟨message, result, state⟩])[place]? = some op →
      ops[place]? = some op ∨ place + 1 = (ops ++ [EntityOp.mk message result state]).length := by
    intro place op listed
    by_cases earlier : place < ops.length
    · rw [List.getElem?_append_left earlier] at listed
      exact .inl listed
    · have bound := (List.getElem?_eq_some_iff.mp listed).1
      rw [List.length_append, List.length_singleton] at bound ⊢
      exact .inr (by omega)
  rw [went]
  refine ⟨serial_concat.mpr ⟨serial, before ▸ came⟩, by rw [stateAfter_concat], seen,
    ⟨?_, _, List.getLast?_concat, rfl, rfl⟩, ?_, ?_, ?_, ?_⟩
  · rw [List.map_append]
    exact holds
  · intro place value listed
    obtain ⟨op, found, same⟩ := faithful place value listed
    exact ⟨op, kept found, same⟩
  · intro place op listed
    exact (either listed).imp (shown place op) fun latest => ⟨trivial, latest⟩
  · intro place token value listed
    obtain ⟨op, found, same⟩ := replied place token value listed
    exact ⟨op, kept found, same⟩
  · intro place op token listed asks
    exact (either listed).imp (fun earlier => answered place op token earlier asks)
      fun latest => ⟨trivial, latest⟩

/-- The place of the latest operation, where every operation that was given took effect. -/
theorem latest_place {op : EntityOp} (all : given = ops.map (·.message))
    (latest : ops.getLast? = some op) :
    ops[given.length - 1]? = some op ∧ given.length - 1 + 1 = ops.length := by
  have some_ : ops ≠ [] := by
    rintro rfl
    cases latest
  have positive := List.length_pos_iff.mpr some_
  rw [all, List.length_map]
  exact ⟨List.getLast?_eq_getElem? ▸ latest, by omega⟩

/-- The state that the latest operation left is published. -/
theorem Accounts.publish (accounts : Accounts may config run given published replies ops)
    {message : EntityMessage} {result : Payload}
    (publishes : run.phase = .publishing message result) :
    Accounts may config (run.answer (.returned none)) given
      (published ++ [(given.length - 1, run.state)]) replies ops := by
  obtain ⟨serial, state, seen, holds, faithful, shown, replied, answered⟩ := accounts
  rw [publishes] at holds shown answered
  obtain ⟨all, op, latest, own, same⟩ := holds
  obtain ⟨found, last⟩ := latest_place all latest
  have left : op.state = run.state := by rw [state, stateAfter, latest]; rfl
  have faithful' : ∀ place value, (place, value) ∈ published ++ [(given.length - 1, run.state)] →
      ∃ op, ops[place]? = some op ∧ op.state = value := by
    intro place value listed
    rcases List.mem_append.mp listed with before | now
    · exact faithful place value before
    · cases List.mem_singleton.mp now
      exact ⟨op, found, left⟩
  have shown' : ∀ place op, ops[place]? = some op →
      (place, op.state) ∈ published ++ [(given.length - 1, run.state)] := by
    intro place other listed
    rcases shown place other listed with before | ⟨-, late⟩
    · exact List.mem_append_left _ before
    · obtain rfl : place = given.length - 1 := by omega
      cases found.symm.trans listed
      rw [left]
      exact List.mem_append_right _ List.mem_cons_self
  cases reply : message.reply with
  | none =>
    have went : run.answer (.returned none) = run.again := by
      obtain ⟨round, state, seen, phase⟩ := run
      cases publishes
      simp only [EntityRun.answer, reply]
    rw [went]
    -- Nobody waits for the latest operation.
    refine ⟨serial, state, seen, all, faithful',
      fun place op listed => .inl (shown' place op listed), replied, ?_⟩
    intro place other token listed asks
    refine (answered place other token listed asks).imp_right fun late => ?_
    obtain rfl : place = given.length - 1 := by omega
    cases found.symm.trans listed
    rw [own, reply] at asks
    cases asks
  | some token =>
    have went : run.answer (.returned none) = { run with phase := .replying token result } := by
      obtain ⟨round, state, seen, phase⟩ := run
      cases publishes
      simp only [EntityRun.answer, reply]
    rw [went]
    refine ⟨serial, state, seen, ⟨all, op, latest, by rw [own, reply], same⟩, faithful',
      fun place op listed => .inl (shown' place op listed), replied, ?_⟩
    intro place other token listed asks
    exact (answered place other token listed asks).imp_right fun late => ⟨trivial, late.2⟩

/-- The caller of the latest operation is answered, and the runner may go on. -/
theorem Accounts.send (accounts : Accounts may config run given published replies ops)
    {token : String} {result : Payload} (sends : run.phase = .replying token result) :
    Accounts may config run given published (replies ++ [(given.length - 1, token, result)]) ops ∧
      Accounts may config (run.answer (.returned none)) given published
        (replies ++ [(given.length - 1, token, result)]) ops := by
  obtain ⟨serial, state, seen, holds, faithful, shown, replied, answered⟩ := accounts
  have held := holds
  rw [sends] at held
  obtain ⟨all, op, latest, asked, same⟩ := held
  obtain ⟨found, last⟩ := latest_place all latest
  have replied' : ∀ place text value,
      (place, text, value) ∈ replies ++ [(given.length - 1, token, result)] →
      ∃ op, ops[place]? = some op ∧ op.message.reply = some text ∧ op.result = value := by
    intro place text value listed
    rcases List.mem_append.mp listed with before | now
    · exact replied place text value before
    · cases List.mem_singleton.mp now
      exact ⟨op, found, asked, same⟩
  have answered' : ∀ place op text, ops[place]? = some op → op.message.reply = some text →
      (place, text, op.result) ∈ replies ++ [(given.length - 1, token, result)] := by
    intro place other text listed asks
    rcases answered place other text listed asks with before | ⟨-, late⟩
    · exact List.mem_append_left _ before
    · obtain rfl : place = given.length - 1 := by omega
      cases found.symm.trans listed
      cases asked.symm.trans asks
      rw [same]
      exact List.mem_append_right _ List.mem_cons_self
  have answers : ∀ {isOwing : Prop} place op text, ops[place]? = some op →
      op.message.reply = some text →
      (place, text, op.result) ∈ replies ++ [(given.length - 1, token, result)] ∨
        isOwing ∧ place + 1 = ops.length :=
    fun place op text listed asks => .inl (answered' place op text listed asks)
  have went : run.answer (.returned none) = run.again := by
    obtain ⟨round, state, seen, phase⟩ := run
    cases sends
    rfl
  refine ⟨⟨serial, state, seen, holds, faithful, shown, replied', answers⟩, ?_⟩
  rw [went]
  refine ⟨serial, state, seen, all, faithful, ?_, replied', answers⟩
  intro place op listed
  refine .inl ((shown place op listed).resolve_right fun late => ?_)
  rw [sends] at late
  exact late.1

end Accounts

namespace EntityWorld

section Moves

variable {config : EntityConfig} {world next : EntityWorld}

/-- A turn reads the record that is next. -/
theorem step_replay (moved : world.step config .replay = some next) :
    ∃ run replayed observed, world.turn = some (run, replayed) ∧
      world.records[replayed]? = some observed ∧
      next = { world with turn := some (run.answer observed, replayed + 1) } := by
  simp only [step, Option.bind_eq_bind, Option.bind_eq_some_iff] at moved
  obtain ⟨⟨run, replayed⟩, turn, observed, listed, went⟩ := moved
  cases went
  exact ⟨run, replayed, observed, turn, listed, rfl⟩

/-- Only a turn that waits takes a signal. -/
theorem step_hear {signal : Payload} (moved : world.step config (.hear signal) = some next) :
    ∃ run, world.live = some run ∧ run.phase = .waiting ∧
      next = { world.record run (.returned signal) with
        heard := world.heard ++ (EntityMessage.ofPayload signal).toList } := by
  simp only [step, Option.bind_eq_bind, Option.bind_eq_some_iff] at moved
  obtain ⟨run, live, went⟩ := moved
  cases phase : run.phase with
  | waiting =>
    rw [phase] at went
    cases went
    exact ⟨run, live, phase, rfl⟩
  | _ =>
    rw [phase] at went
    cases went

/-- A handler's state is recorded, or the turn ends as though it had not run. -/
theorem step_handle {outcome : EntityOutcome} {recorded : Bool}
    (moved : world.step config (.handle outcome recorded) = some next) :
    ∃ run message, world.live = some run ∧ run.phase = .handling message ∧
      (next = { world with turn := none } ∨ ∃ result state, outcome = .ok (result, state) ∧
        next = world.record run (.returned (some (entityOutput result state)))) := by
  simp only [step, Option.bind_eq_bind, Option.bind_eq_some_iff] at moved
  obtain ⟨run, live, went⟩ := moved
  cases phase : run.phase with
  | handling message =>
    rw [phase] at went
    refine ⟨run, message, live, phase, ?_⟩
    dsimp only at went
    split at went
    · cases went
      rcases outcome with error | ⟨result, state⟩
      · exact .inl rfl
      · cases recorded with
        | false => exact .inl rfl
        | true => exact .inr ⟨result, state, rfl, rfl⟩
    · cases went
      exact .inl rfl
  | _ =>
    rw [phase] at went
    cases went

/-- The state is published for the latest operation. -/
theorem step_publish (moved : world.step config .publish = some next) :
    ∃ run message result, world.live = some run ∧ run.phase = .publishing message result ∧
      next = { world.record run (.returned none) with
        published := world.published ++ [(world.place, run.state)] } := by
  simp only [step, Option.bind_eq_bind, Option.bind_eq_some_iff] at moved
  obtain ⟨run, live, went⟩ := moved
  cases phase : run.phase with
  | publishing message result =>
    rw [phase] at went
    cases went
    exact ⟨run, message, result, live, phase, rfl⟩
  | _ =>
    rw [phase] at went
    cases went

/-- The caller of the latest operation is answered, and this is recorded or the turn ends. -/
theorem step_send {recorded : Bool} (moved : world.step config (.send recorded) = some next) :
    ∃ run reply result sent, world.live = some run ∧ run.phase = .replying reply result ∧
      sent = { world with replies := world.replies ++ [(world.place, reply, result)] } ∧
      (next = { sent with turn := none } ∨ next = sent.record run (.returned none)) := by
  simp only [step, Option.bind_eq_bind, Option.bind_eq_some_iff] at moved
  obtain ⟨run, live, went⟩ := moved
  cases phase : run.phase with
  | replying reply result =>
    rw [phase] at went
    refine ⟨run, reply, result, _, live, phase, rfl, ?_⟩
    cases recorded with
    | false =>
      cases went
      exact .inl rfl
    | true =>
      cases went
      exact .inr rfl
  | _ =>
    rw [phase] at went
    cases went

end Moves

/-- Where a handler may come to what it comes to. -/
def Allowed (may : EntityMessage → Payload → EntityOutcome → Prop) (world : EntityWorld) :
    EntityMove → Prop
  | .handle outcome _ => ∀ run message, world.live = some run → run.phase = .handling message →
    may message run.state outcome
  | _ => True

/-- What is stored of an entity's run accounts for the operations that took effect. -/
structure Sound (may : EntityMessage → Payload → EntityOutcome → Prop) (config : EntityConfig)
    (world : EntityWorld) (ops : List EntityOp) : Prop where
  replays : world.Replays config
  accounts : Accounts may config (restored config world.records) (operations world.heard)
    world.published world.replies ops

variable {may : EntityMessage → Payload → EntityOutcome → Prop} {config : EntityConfig}
  {world next : EntityWorld} {ops : List EntityOp}

/-- A run that has not begun is accounted for. -/
theorem sound_start : Sound may config {} [] where
  replays _ _ turn := by cases turn
  accounts :=
    { serial := trivial
      state := rfl
      seen := rfl
      holds := rfl
      faithful := by simp
      shown := by simp
      replied := by simp
      answered := by simp }

/-- A step leaves the operations that took effect, and at most one more takes effect. -/
theorem Sound.step (sound : world.Sound may config ops) {move : EntityMove}
    (allowed : world.Allowed may move) (moved : world.step config move = some next) :
    ∃ more, next.Sound may config (ops ++ more) := by
  obtain ⟨replays, accounts⟩ := sound
  -- Nothing is replayed by a turn that has ended.
  have ended : ∀ {other : EntityWorld}, other.turn = none → other.Replays config := by
    intro other none_ run replayed turn
    rw [none_] at turn
    cases turn
  have same : ∀ {more : List EntityOp}, more = [] → ops ++ more = ops := by
    rintro _ rfl
    exact List.append_nil ops
  cases move with
  | begin =>
    cases moved
    refine ⟨[], ?_, (same rfl).symm ▸ accounts⟩
    intro run replayed turn
    cases turn
    exact ⟨Nat.zero_le _, rfl⟩
  | crash =>
    cases moved
    exact ⟨[], ended rfl, (same rfl).symm ▸ accounts⟩
  | replay =>
    obtain ⟨run, replayed, observed, turn, listed, rfl⟩ := step_replay moved
    refine ⟨[], ?_, (same rfl).symm ▸ accounts⟩
    intro other count turn'
    cases turn'
    obtain ⟨-, rfl⟩ := replays run replayed turn
    obtain ⟨bound, rfl⟩ := List.getElem?_eq_some_iff.mp listed
    refine ⟨bound, ?_⟩
    rw [List.take_succ_eq_append_getElem bound, restored_concat]
  | hear signal =>
    obtain ⟨run, live, waits, rfl⟩ := step_hear moved
    obtain rfl := replays.live live
    refine ⟨[], Replays.record rfl _, ?_⟩
    rw [same rfl]
    show Accounts may config (restored config (world.records ++ [.returned signal])) _ _ _ ops
    rw [restored_concat]
    rw [EntityRun.answer_waiting waits]
    cases EntityMessage.ofPayload signal with
    | none => exact (List.append_nil world.heard).symm ▸ accounts.fail waits
    | some message => exact accounts.hear waits message
  | handle outcome recorded =>
    obtain ⟨run, message, live, handles, rfl | ⟨result, state, rfl, rfl⟩⟩ := step_handle moved
    · exact ⟨[], ended rfl, (same rfl).symm ▸ accounts⟩
    · have came := allowed run message live handles
      obtain rfl := replays.live live
      refine ⟨[⟨message, result, state⟩], Replays.record rfl _, ?_⟩
      show Accounts may config (restored config (world.records ++ [_])) _ _ _ _
      rw [restored_concat]
      exact accounts.handle handles came
  | publish =>
    obtain ⟨run, message, result, live, publishes, rfl⟩ := step_publish moved
    obtain rfl := replays.live live
    refine ⟨[], Replays.record rfl _, ?_⟩
    rw [same rfl]
    show Accounts may config (restored config (world.records ++ [_])) _ _ _ _
    rw [restored_concat]
    exact accounts.publish publishes
  | send recorded =>
    obtain ⟨run, reply, result, sent, live, sends, rfl, rfl | rfl⟩ := step_send moved
    · obtain rfl := replays.live live
      exact ⟨[], ended rfl, (same rfl).symm ▸ (accounts.send sends).1⟩
    · obtain rfl := replays.live live
      refine ⟨[], Replays.record rfl _, ?_⟩
      rw [same rfl]
      show Accounts may config (restored config (world.records ++ [_])) _ _ _ _
      rw [restored_concat]
      exact (accounts.send sends).2

/-- Over a run, what took effect stays, and more may take effect. -/
theorem Sound.run {later : EntityWorld} (sound : world.Sound may config ops)
    (onward : Runs (EntityWorld.step config) (Allowed may) world later) :
    ∃ more, later.Sound may config (ops ++ more) := by
  induction onward with
  | start => exact ⟨[], (List.append_nil ops).symm ▸ sound⟩
  | step _ permitted moved ih =>
    obtain ⟨more, middle⟩ := ih
    obtain ⟨last, ends⟩ := middle.step permitted moved
    exact ⟨more ++ last, List.append_assoc .. ▸ ends⟩

/-- Operations that took effect on an entity, one after another. -/
structure TookEffect (may : EntityMessage → Payload → EntityOutcome → Prop) (config : EntityConfig)
    (world : EntityWorld) (ops : List EntityOp) : Prop where
  serial : Serial may config.initialState ops
  /-- They are the operations that were heard, in that order, but perhaps the last. -/
  heard : operations world.heard = ops.map (·.message) ∨
    ∃ last, operations world.heard = ops.map (·.message) ++ [last]
  /-- A turn that has replayed everything has the state that they leave. -/
  state : ∀ run, world.live = some run → run.state = stateAfter config.initialState ops
  /-- What is published of an operation is the state that it left. -/
  published : ∀ place state, (place, state) ∈ world.published →
    ∃ op, ops[place]? = some op ∧ op.state = state

/-- What is accounted for took effect. -/
theorem Sound.tookEffect (sound : world.Sound may config ops) :
    TookEffect may config world ops := by
  obtain ⟨replays, accounts⟩ := sound
  refine ⟨accounts.serial, ?_, ?_, accounts.faithful⟩
  · have holds := accounts.holds
    cases phase : (restored config world.records).phase with
    | waiting | failed =>
      rw [phase] at holds
      exact .inl holds
    | handling message =>
      rw [phase] at holds
      exact .inr ⟨message, holds⟩
    | publishing message result | replying message result =>
      rw [phase] at holds
      exact .inl holds.1
  · intro run live
    obtain rfl := replays.live live
    exact accounts.state

/-- An entity with one operation. -/
def door : EntityConfig := { initialState := some (.str "closed"), handlers := ["open"] }

/-- The operation opens the door, or it fails. -/
def mayOpen (_ : EntityMessage) (_ : Payload) (outcome : EntityOutcome) : Prop :=
  outcome = .ok (some (.bool true), some (.str "open")) ∨ ∃ error, outcome = .error error

/-- A call that a workflow has sent. -/
def doorCall : Value := entityMessage "open" none "wf:3" (some (.named "entityreply:wf:3"))

/-- The handler fails on a call, and the next turn runs it again but crashes. -/
def doorCalled : List EntityMove :=
  [.begin, .hear (some doorCall), .handle (.error { message := "stuck" }) true, .begin, .replay,
    .handle (.ok (some (.bool true), some (.str "open"))) false]

/-- The call is handled, it is answered twice as a turn crashes, and a copy of it arrives. -/
def doorAnswered : List EntityMove :=
  [.begin, .replay, .handle (.ok (some (.bool true), some (.str "open"))) true, .publish,
    .send false, .begin, .replay, .replay, .replay, .send true, .hear (some doorCall)]

theorem doorCalled_allowed : ∀ move ∈ doorCalled, ∀ world, Allowed mayOpen world move := by
  simp [doorCalled, Allowed, mayOpen]

theorem doorAnswered_allowed : ∀ move ∈ doorAnswered, ∀ world, Allowed mayOpen world move := by
  simp [doorAnswered, Allowed, mayOpen]

/-- However a run crashes and replays, each operation takes effect at most once, in the order in
which they were heard, on the state that the one before it left; and what took effect stays. -/
theorem operations_take_effect_once {later : EntityWorld}
    (reached : Runs (EntityWorld.step config) (Allowed may) {} world)
    (onward : Runs (EntityWorld.step config) (Allowed may) world later) :
    ∃ ops more, TookEffect may config world ops ∧ TookEffect may config later (ops ++ more) := by
  obtain ⟨ops, sound⟩ := sound_start.run reached
  obtain ⟨more, ends⟩ := sound.run onward
  exact ⟨ops, more, sound.tookEffect, ends.tookEffect⟩

/-- A door that is opened once over two crashes. -/
theorem door_opened_once : ∃ world later, Runs (EntityWorld.step door) (Allowed mayOpen) {} world ∧
    Runs (EntityWorld.step door) (Allowed mayOpen) world later ∧
      ∃ ops more, TookEffect mayOpen door world ops ∧
        TookEffect mayOpen door later (ops ++ more) := by
  have reached : Runs (EntityWorld.step door) (Allowed mayOpen) {} _ :=
    Runs.of_allowed doorCalled doorCalled_allowed .start rfl
  exact ⟨_, _, reached, Runs.of_allowed doorAnswered doorAnswered_allowed .start rfl,
    operations_take_effect_once reached
      (Runs.of_allowed doorAnswered doorAnswered_allowed .start rfl)⟩

/-- What a workflow sends to an entity, the entity's runner reads. -/
theorem ofPayload_entityMessage (op : String) (arg : Payload) (id : String) (reply : Option Token) :
    EntityMessage.ofPayload (some (entityMessage op arg id reply)) =
      some {
        op := some op
        arg
        reply := (reply.map Token.text).filter (· ≠ "")
        id := some id
        nudge := false } := by
  cases arg <;> cases reply <;> rfl

end EntityWorld

end EntityRuns

end Durable
