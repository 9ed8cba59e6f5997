import Durable.Transport.RunReplies
import Mathlib.Data.List.Induction

/-! A reply is addressed to the instance that sent the message, and to no other, exactly where that
instance is the last that asked under the reply's id, and none of its messages with the id has been
finished since. -/

namespace Durable.RunReplies

open Interleaving (Table moves moves_append moves_concat)

variable {transport : Transport} {history : List Move} {state : State} {msg : Message}
  {id owner : String}

/-- An instance was the last that asked under an id, and no message of its with that id has been
finished since. -/
def LastAsked (transport : Transport) (history : List Move) (id owner : String) : Prop :=
  ∃ before msg after, history = before ++ Move.receive msg :: after ∧
    msg.route transport = some (id, owner) ∧
    (∀ later, Move.receive later ∈ after → ∀ other, later.route transport ≠ some (id, other)) ∧
    ∀ later, Move.finish later ∈ after → later.route transport ≠ some (id, owner)

section Histories

theorem lastAsked_concat {move : Move} :
    LastAsked transport (history ++ [move]) id owner ↔
      (∃ msg, move = .receive msg ∧ msg.route transport = some (id, owner)) ∨
        LastAsked transport history id owner ∧
          (∀ later, move = .receive later → ∀ other, later.route transport ≠ some (id, other)) ∧
          ∀ later, move = .finish later → later.route transport ≠ some (id, owner) := by
  constructor
  · rintro ⟨before, msg, after, split, asked, unasked, unfinished⟩
    -- The message is received by the move itself, or by an earlier one.
    rcases List.eq_nil_or_concat after with rfl | ⟨rest, last, rfl⟩
    · obtain ⟨rfl, same⟩ := List.append_inj' split rfl
      exact Or.inl ⟨msg, List.head_eq_of_cons_eq same, asked⟩
    · rw [List.concat_eq_append] at split unasked unfinished
      rw [← List.cons_append, ← List.append_assoc] at split
      obtain ⟨rfl, same⟩ := List.append_inj' split rfl
      obtain rfl := List.head_eq_of_cons_eq same
      right
      refine ⟨⟨before, msg, rest, rfl, asked, ?_, ?_⟩, ?_, ?_⟩
      · intro later listed
        exact unasked later (List.mem_append_left _ listed)
      · intro later listed
        exact unfinished later (List.mem_append_left _ listed)
      · intro later here
        exact unasked later (List.mem_append_right _ (List.mem_singleton.mpr here.symm))
      · intro later here
        exact unfinished later (List.mem_append_right _ (List.mem_singleton.mpr here.symm))
  · rintro (⟨msg, rfl, asked⟩ |
      ⟨⟨before, msg, after, rfl, asked, unasked, unfinished⟩, notNow, norNow⟩)
    · exact ⟨history, msg, [], rfl, asked, by simp, by simp⟩
    · refine ⟨before, msg, after ++ [move], by simp, asked, ?_, ?_⟩
      · intro later listed
        rcases List.mem_append.mp listed with earlier | here
        · exact unasked later earlier
        · exact notNow later (List.mem_singleton.mp here).symm
      · intro later listed
        rcases List.mem_append.mp listed with earlier | here
        · exact unfinished later earlier
        · exact norNow later (List.mem_singleton.mp here).symm

theorem not_lastAsked_nil : ¬ LastAsked transport [] id owner := by
  rintro ⟨before, msg, after, split, -⟩
  exact absurd split.symm (by simp)

theorem lastAsked_receive :
    LastAsked transport (history ++ [.receive msg]) id owner ↔
      msg.route transport = some (id, owner) ∨
        LastAsked transport history id owner ∧
          ∀ other, msg.route transport ≠ some (id, other) := by
  rw [lastAsked_concat]
  simp

theorem lastAsked_finish :
    LastAsked transport (history ++ [.finish msg]) id owner ↔
      LastAsked transport history id owner ∧ msg.route transport ≠ some (id, owner) := by
  rw [lastAsked_concat]
  simp

theorem lastAsked_publish {answer : Answer} :
    LastAsked transport (history ++ [.publishRunReply msg answer]) id owner ↔
      LastAsked transport history id owner := by
  rw [lastAsked_concat]
  simp

end Histories

section Routes

theorem remember_get :
    (remember transport state msg).get id = some owner ↔
      msg.route transport = some (id, owner) ∨
        state.replyRoutes.get id = some owner ∧
          ∀ other, msg.route transport ≠ some (id, other) := by
  unfold remember
  cases routed : msg.route transport with
  | none => simp
  | some pair =>
    obtain ⟨key, asker⟩ := pair
    rw [Table.get_set]
    by_cases same : key = id
    · subst same
      simp
    · simp [same]

theorem forget_get :
    (forget transport state msg).get id = some owner ↔
      state.replyRoutes.get id = some owner ∧ msg.route transport ≠ some (id, owner) := by
  unfold forget
  cases routed : msg.route transport with
  | none => simp
  | some pair =>
    obtain ⟨key, asker⟩ := pair
    dsimp only
    split
    · rename_i own
      -- The entry of the message is still its own, and goes.
      rw [Table.get_erase]
      by_cases same : key = id
      · subst same
        rw [if_pos rfl, own]
        simp
      · simp [same]
    · rename_i other
      -- Another instance has asked under the id since.
      constructor
      · intro found
        refine ⟨found, ?_⟩
        intro same
        cases same
        exact other found
      · exact And.left

theorem replyRoutes_get (ran : moves (step transport) {} history = some state) :
    state.replyRoutes.get id = some owner ↔ LastAsked transport history id owner := by
  induction history using List.reverseRecOn generalizing state with
  | nil =>
    obtain rfl := Option.some.inj ran
    have none : ({} : State).replyRoutes.get id = none := rfl
    simp [none, not_lastAsked_nil]
  | append_singleton history move ih =>
    rw [moves_concat] at ran
    obtain ⟨before, earlier, moved⟩ := Option.bind_eq_some_iff.mp ran
    have known := ih earlier
    cases move with
    | receive msg =>
      rw [step, Option.ite_none_right_eq_some, Option.some.injEq] at moved
      obtain ⟨-, rfl⟩ := moved
      rw [lastAsked_receive, ← known]
      exact remember_get
    | publishRunReply msg answer =>
      rw [step, Option.ite_none_right_eq_some, Option.some.injEq] at moved
      obtain ⟨-, rfl⟩ := moved
      rw [lastAsked_publish, ← known]
    | finish msg =>
      rw [step, Option.ite_none_right_eq_some, Option.some.injEq] at moved
      obtain ⟨-, rfl⟩ := moved
      rw [lastAsked_finish, ← known]
      exact forget_get

end Routes

section Replies

/-- In every run, the reply to a message is addressed to its sender and to no other exactly where
the sender is the one that asked last under the reply's id, or where the message names no sender and
nobody has asked last. -/
theorem reply_to_requester_iff {before after : List Move} {answer : Answer} {final : State}
    (ran : moves (step transport) {} (before ++ Move.publishRunReply msg answer :: after) =
      some final) :
    ∃ state, moves (step transport) {} before = some state ∧
      state.handled msg.kind = some msg ∧
      ((∀ addressee, reply state msg answer = some addressee →
          addressee = msg.requester transport) ↔
        ∀ requestId, msg.replyId answer = some requestId → ∀ owner,
          LastAsked transport before requestId owner ↔ msg.requester transport = some owner) := by
  rw [moves_append] at ran
  obtain ⟨state, earlier, ran⟩ := Option.bind_eq_some_iff.mp ran
  obtain ⟨next, published, -⟩ := Option.bind_eq_some_iff.mp ran
  rw [step, Option.ite_none_right_eq_some] at published
  refine ⟨state, earlier, published.1, ?_⟩
  have routed (id owner : String) : publishRunReply state id = some owner ↔
      LastAsked transport before id owner := replyRoutes_get earlier
  unfold reply
  cases msg.replyId answer with
  | none => simp
  | some requestId =>
    simp only [Option.map_some, Option.some.injEq, forall_eq']
    constructor
    · intro same owner
      rw [← routed, same]
    · intro same
      apply Option.ext
      intro owner
      exact (routed requestId owner).trans (same owner)

def orderStart : Message := .startRun (some "order-7") (some "pod-a")

/-- While it is handled, a request of another instance is received that carries its id. -/
def overlapping : List Move :=
  [.receive orderStart, .receive (.runRequest "order-7" (some "pod-b"))]

/-- The reply to a start that is handled alone is addressed to the instance that sent it. -/
theorem lone_start_answered :
    ∃ state, moves (step .db) {} [.receive orderStart] = some state ∧
      ∀ addressee, reply state orderStart (.started "order-7") = some addressee →
        addressee = some "pod-a" := by
  have ran : moves (step .db) {} ([.receive orderStart] ++
      .publishRunReply orderStart (.started "order-7") :: []) =
        some { replyRoutes := ⟨[("order-7", "pod-a")]⟩, startRun := some orderStart } := by
    decide
  obtain ⟨state, earlier, -, right⟩ := reply_to_requester_iff ran
  refine ⟨state, earlier, right.mpr ?_⟩
  intro requestId replied owner
  cases replied
  -- The start is the only message, so its sender is the last that asked.
  have asked : LastAsked .db ([] ++ [.receive orderStart]) "order-7" owner ↔ _ :=
    lastAsked_receive
  have routed : orderStart.route .db = some ("order-7", "pod-a") := rfl
  have sender : orderStart.requester .db = some "pod-a" := rfl
  refine asked.trans ?_
  simp [routed, sender, not_lastAsked_nil]

/-- A start of one instance and a request of another with the start's id are handled at once: the
reply to the start is addressed to the instance that sent the request. -/
theorem overlapped_start_misrouted :
    ¬ ∀ (transport : Transport) (history : List Move) (state : State) (msg : Message)
      (answer : Answer), moves (step transport) {} history = some state →
        state.handled msg.kind = some msg → ∀ addressee, reply state msg answer = some addressee →
          addressee = msg.requester transport := by
  intro addressed
  have misrouted := addressed .db overlapping _ orderStart (.started "order-7") rfl rfl _ rfl
  revert misrouted
  decide

end Replies

end Durable.RunReplies
