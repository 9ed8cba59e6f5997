import Durable.Wakes.Requests

/-! Every call about a leased run keeps account of the wakes it refused. -/

namespace Durable

open Interleaving

namespace WakeBoard

/-- What is known of a run. -/
structure BoardBooks (fans : List StepFanCall) (board : WakeBoard) : Prop where
  live : board.status ∈ wakeableStatuses
  drawn : ∀ reason ∈ board.reasons, reason.id < board.drawn
  apart : ∀ reason ∈ board.reasons, ∀ other ∈ board.reasons, reason.id = other.id → reason = other
  covered : ∀ reason ∈ board.reasons, ∀ cause ∈ reason.causes,
    cause ∈ board.ledger.written ∧ Covers reason.payload cause
  sent : ∀ seq member, board.members.get seq = some member → ∃ call ∈ fans,
    member.first = call.first ∧ call.Owns seq ∧
      ∀ earlier, call.first ≤ earlier → earlier ≤ seq → (board.members.get earlier).isSome = true
  begun : ∀ cause ∈ board.ledger.begun, cause ∈ board.ledger.written

/-- What is known of a path about a run. -/
structure PhaseBooks (board : WakeBoard) (phase : WakePhase) : Prop where
  own : ∀ cause ∈ phase.carries, cause ∈ board.ledger.written
  kept : phase.kept = true → ∀ cause ∈ phase.carries, board.Answered cause ∨ board.Kept cause
  drawn : ∀ id ∈ phase.served ++ phase.spent, id < board.drawn
  served : phase.starting = false → ∀ reason ∈ board.reasons, reason.id ∈ phase.served →
    ∀ cause ∈ reason.causes, board.Answered cause
  spent : ∀ reason ∈ board.reasons, reason.id ∈ phase.spent →
    ∀ cause ∈ reason.causes, board.Answered cause
  settled : ∀ note ∈ phase.settled, ∀ seq, note.1 ≤ seq → seq ≤ note.2 →
    (∃ member, board.members.get seq = some member ∧ member.settled = true) ∧
      ∀ cause ∈ board.ledger.written, cause.member = some seq → board.Answered cause
  known : ∀ seq ∈ phase.known, (board.members.get seq).isSome = true

/-- A cause is answered, or someone will see to it. -/
def Owed (board : WakeBoard) (every : List WakePhase) (cause : WakeCause) : Prop :=
  board.Answered cause ∨ (∃ phase ∈ every, cause ∈ phase.carries ∨ phase.starting = true) ∨
    board.Kept cause ∧ (board.Requested ∨ ∃ phase ∈ every, phase.looking = true)

/-- What is known of a run and of the paths about it. -/
structure WakesHeld (fans : List StepFanCall) (board : WakeBoard) (every : List WakePhase) :
    Prop where
  run : board.BoardBooks fans
  phases : ∀ phase ∈ every, board.PhaseBooks phase
  owed : ∀ cause ∈ board.ledger.written, board.Owed every cause

/-- What a call may do to a run, as far as paths about it are concerned. -/
structure Grows (board after : WakeBoard) : Prop where
  written : ∀ cause ∈ board.ledger.written, cause ∈ after.ledger.written
  fresh : ∀ cause ∈ after.ledger.written, cause ∈ board.ledger.written ∨
    ∀ seq, cause.member = some seq → ∀ member, board.members.get seq = some member →
      member.settled = false
  answered : ∀ cause, board.Answered cause → after.Answered cause
  drawn : board.drawn ≤ after.drawn
  reasons : ∀ reason ∈ after.reasons, reason ∈ board.reasons ∨ board.drawn ≤ reason.id
  kept : ∀ cause, board.Kept cause → after.Answered cause ∨ after.Kept cause
  members : ∀ seq member, board.members.get seq = some member →
    ∃ later, after.members.get seq = some later ∧ (member.settled = true → later.settled = true)

variable {fans : List StepFanCall} {board after : WakeBoard} {phase : WakePhase}
  {others : List WakePhase} {later : WakePhase} {call : StepFanCall}

theorem Grows.same (reasons : after.reasons = board.reasons) (drawn : after.drawn = board.drawn)
    (members : after.members = board.members) (ledger : after.ledger = board.ledger) :
    board.Grows after := by
  refine ⟨?_, ?_, ?_, ?_, ?_, ?_, ?_⟩
  · exact fun cause written => ledger ▸ written
  · exact fun cause written => .inl (ledger ▸ written)
  · exact fun cause answered => by simpa only [Answered, Begun, ledger] using answered
  · exact Nat.le_of_eq drawn.symm
  · exact fun reason kept => .inl (reasons ▸ kept)
  · exact fun cause kept => .inr (by simpa only [Kept, reasons] using kept)
  · exact fun seq member found => ⟨member, members ▸ found, fun ended => ended⟩

theorem PhaseBooks.grows (books : board.PhaseBooks phase) (grows : board.Grows after) :
    after.PhaseBooks phase := by
  refine ⟨?_, ?_, ?_, ?_, ?_, ?_, ?_⟩
  · exact fun cause carried => grows.written cause (books.own cause carried)
  · intro buffered cause carried
    rcases books.kept buffered cause carried with answered | kept
    · exact .inl (grows.answered cause answered)
    · exact grows.kept cause kept
  · exact fun id known => Nat.lt_of_lt_of_le (books.drawn id known) grows.drawn
  · intro begun reason kept served cause member
    rcases grows.reasons reason kept with before | new
    · exact grows.answered cause (books.served begun reason before served cause member)
    · -- A reason that is kept now was not found then.
      have old := books.drawn reason.id (List.mem_append_left _ served)
      omega
  · intro reason kept spent cause member
    rcases grows.reasons reason kept with before | new
    · exact grows.answered cause (books.spent reason before spent cause member)
    · have old := books.drawn reason.id (List.mem_append_right _ spent)
      omega
  · intro note read seq lower upper
    obtain ⟨⟨member, found, ended⟩, answered⟩ := books.settled note read seq lower upper
    obtain ⟨later, there, still⟩ := grows.members seq member found
    refine ⟨⟨later, there, still ended⟩, fun cause written settled => ?_⟩
    rcases grows.fresh cause written with before | new
    · exact grows.answered cause (answered cause before settled)
    · -- A step that has ended does not complete again.
      cases (new seq settled member found).symm.trans ended
  · intro seq known
    obtain ⟨member, found⟩ := Option.isSome_iff_exists.mp (books.known seq known)
    obtain ⟨later, there, -⟩ := grows.members seq member found
    exact Option.isSome_iff_exists.mpr ⟨later, there⟩

theorem PhaseBooks.of_same (books : board.PhaseBooks phase)
    (carries : later.carries = phase.carries) (kept : later.kept = phase.kept)
    (starting : later.starting = phase.starting) (served : later.served = phase.served)
    (settled : later.settled = phase.settled) (known : later.known = phase.known)
    (spent : later.spent = phase.spent) : board.PhaseBooks later := by
  refine ⟨?_, ?_, ?_, ?_, ?_, ?_, ?_⟩
  · rw [carries]
    exact books.own
  · rw [carries, kept]
    exact books.kept
  · rw [served, spent]
    exact books.drawn
  · rw [starting, served]
    exact books.served
  · rw [spent]
    exact books.spent
  · rw [settled]
    exact books.settled
  · rw [known]
    exact books.known

theorem Owed.grows {cause : WakeCause} (owed : board.Owed (phase :: others) cause)
    (grows : board.Grows after) (carries : ∀ cause ∈ phase.carries, cause ∈ later.carries)
    (starting : phase.starting = true → later.starting = true)
    (looking : phase.looking = true → later.looking = true)
    (requested : board.Requested → after.Requested) : after.Owed (later :: others) cause := by
  have seen_to {left right : WakePhase → Prop} (keeps : left phase → right later)
      (others_keep : ∀ other ∈ others, left other → right other)
      (some_ : ∃ each ∈ phase :: others, left each) : ∃ each ∈ later :: others, right each := by
    obtain ⟨each, member, does⟩ := some_
    rcases List.mem_cons.mp member with rfl | member
    · exact ⟨later, List.mem_cons_self, keeps does⟩
    · exact ⟨each, List.mem_cons_of_mem _ member, others_keep each member does⟩
  rcases owed with answered | underWay | ⟨kept, asked⟩
  · exact .inl (grows.answered cause answered)
  · refine .inr (.inl (seen_to ?_ (fun _ _ does => does) underWay))
    exact fun does => does.imp (carries cause) starting
  · rcases grows.kept cause kept with answered | kept
    · exact .inl answered
    · refine .inr (.inr ⟨kept, asked.imp requested fun some_ => ?_⟩)
      exact seen_to looking (fun _ _ does => does) some_

theorem WakesHeld.moved (held : board.WakesHeld fans (phase :: others))
    (grows : board.Grows after) (run : after.BoardBooks fans) (mine : after.PhaseBooks later)
    (owed : ∀ cause ∈ after.ledger.written, after.Owed (later :: others) cause) :
    after.WakesHeld fans (later :: others) := by
  refine ⟨run, fun each member => ?_, owed⟩
  rcases List.mem_cons.mp member with rfl | member
  · exact mine
  · exact (held.phases each (List.mem_cons_of_mem _ member)).grows grows

theorem WakesHeld.mine (held : board.WakesHeld fans (phase :: others)) : board.PhaseBooks phase :=
  held.phases phase List.mem_cons_self

theorem BoardBooks.same (books : board.BoardBooks fans) (live : after.status ∈ wakeableStatuses)
    (reasons : after.reasons = board.reasons) (drawn : after.drawn = board.drawn)
    (members : after.members = board.members) (ledger : after.ledger = board.ledger) :
    after.BoardBooks fans := by
  refine ⟨live, ?_, ?_, ?_, ?_, ?_⟩
  · rw [reasons, drawn]
    exact books.drawn
  · rw [reasons]
    exact books.apart
  · rw [reasons, ledger]
    exact books.covered
  · rw [members]
    exact books.sent
  · rw [ledger]
    exact books.begun

theorem WakesHeld.quiet (held : board.WakesHeld fans (phase :: others))
    (live : after.status ∈ wakeableStatuses) (reasons : after.reasons = board.reasons)
    (drawn : after.drawn = board.drawn) (members : after.members = board.members)
    (ledger : after.ledger = board.ledger)
    (requested : after.wakeRequestedAt = board.wakeRequestedAt) :
    after.WakesHeld fans (phase :: others) := by
  have grows : board.Grows after := .same reasons drawn members ledger
  refine held.moved grows (held.run.same live reasons drawn members ledger)
    (held.mine.grows grows) fun cause written => ?_
  refine (held.owed cause (ledger ▸ written)).grows grows (fun _ carried => carried)
    (fun starting => starting) (fun looking => looking) fun asked => ?_
  rw [Requested, requested]
  exact asked

theorem WakesHeld.requestTurn (held : board.WakesHeld fans (phase :: others)) (at_ : Nat)
    (kept : phase.kept = true) :
    WakesHeld fans { board with wakeRequestedAt := some at_ }
      ({ phase with carries := [], kept := false } :: others) := by
  have grows : board.Grows { board with wakeRequestedAt := some at_ } := .same rfl rfl rfl rfl
  have books := held.mine.grows grows
  refine held.moved grows (held.run.same held.run.live rfl rfl rfl rfl)
    ⟨by simp, by simp, books.drawn, books.served, books.spent, books.settled, books.known⟩ ?_
  intro cause written
  rcases held.owed cause written with answered | ⟨each, member, carried⟩ | ⟨there, -⟩
  · exact .inl answered
  · rcases List.mem_cons.mp member with rfl | member
    · rcases carried with carried | starting
      · -- A reason is kept for what the path carried, and now a turn is asked for.
        rcases held.mine.kept kept cause carried with answered | there
        · exact .inl answered
        · exact .inr (.inr ⟨there, .inl rfl⟩)
      · exact .inr (.inl ⟨_, List.mem_cons_self, .inr starting⟩)
    · exact .inr (.inl ⟨each, List.mem_cons_of_mem _ member, carried⟩)
  · exact .inr (.inr ⟨there, .inl rfl⟩)

theorem WakesHeld.requestAgain (held : board.WakesHeld fans (phase :: others)) (at_ : Nat) :
    WakesHeld fans { board with wakeRequestedAt := some at_ }
      ({ phase with looking := false } :: others) := by
  have grows : board.Grows { board with wakeRequestedAt := some at_ } := .same rfl rfl rfl rfl
  refine held.moved grows (held.run.same held.run.live rfl rfl rfl rfl)
    ((held.mine.grows grows).of_same rfl rfl rfl rfl rfl rfl rfl) fun cause written => ?_
  rcases held.owed cause written with answered | ⟨each, member, carried⟩ | ⟨there, -⟩
  · exact .inl answered
  · rcases List.mem_cons.mp member with rfl | member
    · exact .inr (.inl ⟨_, List.mem_cons_self, carried⟩)
    · exact .inr (.inl ⟨each, List.mem_cons_of_mem _ member, carried⟩)
  · exact .inr (.inr ⟨there, .inl rfl⟩)

theorem WakesHeld.clearRequest (held : board.WakesHeld fans (phase :: others)) (starts : Bool) :
    WakesHeld fans { board with wakeRequestedAt := none }
      (phase.after (.clearRequest starts) () :: others) := by
  have grows : board.Grows { board with wakeRequestedAt := none } := .same rfl rfl rfl rfl
  have books := held.mine.grows grows
  have run : BoardBooks fans { board with wakeRequestedAt := none } :=
    held.run.same held.run.live rfl rfl rfl rfl
  cases starts with
  | true =>
    refine held.moved grows run ⟨books.own, books.kept, books.drawn, by simp [WakePhase.after],
      books.spent, books.settled, books.known⟩ fun cause written => ?_
    exact .inr (.inl ⟨_, List.mem_cons_self, .inr rfl⟩)
  | false =>
    refine held.moved grows run (books.of_same rfl rfl rfl rfl rfl rfl rfl) fun cause written => ?_
    rcases held.owed cause written with answered | ⟨each, member, carried⟩ | ⟨there, -⟩
    · exact .inl answered
    · rcases List.mem_cons.mp member with rfl | member
      · exact .inr (.inl ⟨_, List.mem_cons_self, carried⟩)
      · exact .inr (.inl ⟨each, List.mem_cons_of_mem _ member, carried⟩)
    · exact .inr (.inr ⟨there, .inr ⟨_, List.mem_cons_self, rfl⟩⟩)

/-- A path keeps its reason. -/
theorem WakesHeld.keepReason (held : board.WakesHeld fans (phase :: others))
    {payload : Option (List (Nat × Nat))} {causes : List WakeCause}
    (own : ∀ cause, cause ∈ causes ↔ cause ∈ phase.carries)
    (covered : ∀ cause ∈ causes, Covers payload cause) :
    WakesHeld fans
      { board with
        reasons := board.reasons ++ [{ id := board.drawn, payload, causes }]
        drawn := board.drawn + 1 } ({ phase with kept := true } :: others) := by
  have grows : board.Grows
      { board with
        reasons := board.reasons ++ [{ id := board.drawn, payload, causes }]
        drawn := board.drawn + 1 } := by
    refine ⟨fun _ written => written, fun _ written => .inl written, fun _ answered => answered,
      Nat.le_succ _, fun reason kept => ?_, fun cause kept => ?_,
      fun seq member found => ⟨member, found, fun ended => ended⟩⟩
    · rcases List.mem_append.mp kept with before | new
      · exact .inl before
      · rw [List.mem_singleton.mp new]
        exact .inr (Nat.le_refl _)
    · obtain ⟨reason, before, member⟩ := kept
      exact .inr ⟨reason, List.mem_append_left _ before, member⟩
  have books := held.mine.grows grows
  refine held.moved grows ⟨held.run.live, ?_, ?_, ?_, held.run.sent, held.run.begun⟩
    ⟨books.own, fun _ cause carried => ?_, books.drawn, books.served, books.spent, books.settled,
      books.known⟩ fun cause written => ?_
  · intro reason kept
    rcases List.mem_append.mp kept with before | new
    · exact Nat.lt_succ_of_lt (held.run.drawn reason before)
    · rw [List.mem_singleton.mp new]
      exact Nat.lt_succ_self _
  · intro reason kept other otherKept same
    rcases List.mem_append.mp kept with before | new <;>
      rcases List.mem_append.mp otherKept with otherBefore | otherNew
    · exact held.run.apart reason before other otherBefore same
    · -- The new reason has a number none of the others has.
      have old := held.run.drawn reason before
      rw [same, List.mem_singleton.mp otherNew] at old
      exact absurd old (Nat.lt_irrefl _)
    · have old := held.run.drawn other otherBefore
      rw [← same, List.mem_singleton.mp new] at old
      exact absurd old (Nat.lt_irrefl _)
    · rw [List.mem_singleton.mp new, List.mem_singleton.mp otherNew]
  · intro reason kept cause member
    rcases List.mem_append.mp kept with before | new
    · exact held.run.covered reason before cause member
    · rw [List.mem_singleton.mp new] at member ⊢
      exact ⟨held.mine.own cause ((own cause).mp member), covered cause member⟩
  · exact .inr ⟨_, List.mem_append_right _ List.mem_cons_self, (own cause).mpr carried⟩
  · exact (held.owed cause written).grows grows (fun _ carried => carried)
      (fun starting => starting) (fun looking => looking) fun asked => asked

theorem PhaseBooks.seen_answered (books : board.PhaseBooks phase) {reason : KeptReason}
    (seen : wakeReasonSeen phase.settledFar reason.payload = true) {cause : WakeCause}
    (written : cause ∈ board.ledger.written) (covers : Covers reason.payload cause) :
    board.Answered cause := by
  cases payload : reason.payload with
  | none =>
    rw [payload] at seen
    cases seen
  | some fans =>
    rw [payload] at seen
    obtain ⟨seq, settled, first, last, listed, lower, upper⟩ := covers fans payload
    -- The turn has read the cause's fan settled at least up to the cause.
    have far := List.all_eq_true.mp (Bool.and_eq_true_iff.mp seen).2 (first, last) listed
    obtain ⟨note, read, reaches⟩ := List.any_eq_true.mp far
    obtain ⟨same, further⟩ := Bool.and_eq_true_iff.mp reaches
    have within : seq ≤ note.2 := Nat.le_trans upper (of_decide_eq_true further)
    have after : note.1 ≤ seq := beq_iff_eq.mp same ▸ lower
    exact (books.settled note read seq after within).2 cause written settled

theorem WakesHeld.findReasons (held : board.WakesHeld fans (phase :: others))
    (starting : phase.starting = true) (most : Nat) :
    board.WakesHeld fans
      ({ phase with served := (board.reasons.take most).map (·.id) } :: others) := by
  have books := held.mine
  have grows : board.Grows board := .same rfl rfl rfl rfl
  refine held.moved grows held.run ⟨books.own, books.kept, fun id known => ?_, fun begun => ?_,
    books.spent, books.settled, books.known⟩ fun cause written => ?_
  · rcases List.mem_append.mp known with found | spent
    · obtain ⟨reason, kept, rfl⟩ := List.mem_map.mp found
      exact held.run.drawn reason (List.mem_of_mem_take kept)
    · exact books.drawn id (List.mem_append_right _ spent)
  · cases starting.symm.trans begun
  · exact (held.owed cause written).grows grows (fun _ carried => carried)
      (fun starting => starting) (fun looking => looking) fun asked => asked

theorem WakesHeld.spendReasons (held : board.WakesHeld fans (phase :: others))
    (begun : phase.starting = false) (most : Nat) :
    board.WakesHeld fans
      ({ phase with spent := ((board.reasons.take most).filter phase.hasSeen).map (·.id) } ::
        others) := by
  have books := held.mine
  have grows : board.Grows board := .same rfl rfl rfl rfl
  refine held.moved grows held.run ⟨books.own, books.kept, fun id known => ?_, books.served,
    fun reason kept spent cause member => ?_, books.settled, books.known⟩ fun cause written => ?_
  · rcases List.mem_append.mp known with served | spent
    · exact books.drawn id (List.mem_append_left _ served)
    · obtain ⟨reason, seen, rfl⟩ := List.mem_map.mp spent
      exact held.run.drawn reason (List.mem_of_mem_take (List.mem_filter.mp seen).1)
  · obtain ⟨same, filtered, number⟩ := List.mem_map.mp spent
    obtain ⟨taken, seen⟩ := List.mem_filter.mp filtered
    have one := held.run.apart same (List.mem_of_mem_take taken) reason kept number
    subst one
    rcases Bool.or_eq_true_iff.mp seen with served | read
    · exact books.served begun same kept (of_decide_eq_true served) cause member
    · obtain ⟨written, covers⟩ := held.run.covered same kept cause member
      exact books.seen_answered read written covers
  · exact (held.owed cause written).grows grows (fun _ carried => carried)
      (fun starting => starting) (fun looking => looking) fun asked => asked

theorem WakesHeld.lookAgain (held : board.WakesHeld fans (phase :: others)) {most : Nat}
    (all : board.reasons.length ≤ most) :
    board.WakesHeld fans
      ({ phase with
        looking := (board.reasons.take most).any fun reason =>
          !decide (reason.id ∈ phase.spent) &&
            !wakeReasonSeen phase.settledFar reason.payload } :: others) := by
  have grows : board.Grows board := .same rfl rfl rfl rfl
  refine held.moved grows held.run (held.mine.of_same rfl rfl rfl rfl rfl rfl rfl)
    fun cause written => ?_
  rw [List.take_of_length_le all]
  rcases held.owed cause written with answered | ⟨each, member, carried⟩ | ⟨⟨reason, kept, listed⟩, asked⟩
  · exact .inl answered
  · rcases List.mem_cons.mp member with rfl | member
    · exact .inr (.inl ⟨_, List.mem_cons_self, carried⟩)
    · exact .inr (.inl ⟨each, List.mem_cons_of_mem _ member, carried⟩)
  · rcases asked with requested | ⟨each, member, looks⟩
    · exact .inr (.inr ⟨⟨reason, kept, listed⟩, .inl requested⟩)
    · rcases List.mem_cons.mp member with rfl | member
      · -- The path has seen the reason, and so its cause is answered, or it finds it now.
        by_cases spent : reason.id ∈ each.spent
        · exact .inl (held.mine.spent reason kept spent cause listed)
        · by_cases seen : wakeReasonSeen each.settledFar reason.payload = true
          · obtain ⟨-, covers⟩ := held.run.covered reason kept cause listed
            exact .inl (held.mine.seen_answered seen written covers)
          · refine .inr (.inr ⟨⟨reason, kept, listed⟩, .inr ⟨_, List.mem_cons_self, ?_⟩⟩)
            exact List.any_eq_true.mpr ⟨reason, kept, by simp [spent, seen]⟩
      · exact .inr (.inr ⟨⟨reason, kept, listed⟩, .inr ⟨each, List.mem_cons_of_mem _ member, looks⟩⟩)

theorem WakesHeld.removeReason (held : board.WakesHeld fans (phase :: others)) {id : Nat}
    (begun : phase.starting = false) (known : id ∈ phase.served ∨ id ∈ phase.spent) :
    WakesHeld fans { board with reasons := board.reasons.filter (·.id ≠ id) }
      (phase :: others) := by
  have books := held.mine
  have grows : board.Grows { board with reasons := board.reasons.filter (·.id ≠ id) } := by
    refine ⟨fun _ written => written, fun _ written => .inl written, fun _ answered => answered,
      Nat.le_refl _, fun reason kept => .inl (List.mem_filter.mp kept).1, fun cause there => ?_,
      fun seq member found => ⟨member, found, fun ended => ended⟩⟩
    obtain ⟨reason, kept, listed⟩ := there
    by_cases same : reason.id = id
    · subst same
      rcases known with served | spent
      · exact .inl (books.served begun reason kept served cause listed)
      · exact .inl (books.spent reason kept spent cause listed)
    · exact .inr ⟨reason, List.mem_filter.mpr ⟨kept, by simpa using same⟩, listed⟩
  refine held.moved grows ⟨held.run.live, ?_, ?_, ?_, held.run.sent, held.run.begun⟩ (books.grows grows)
    fun cause written => ?_
  · exact fun reason kept => held.run.drawn reason (List.mem_filter.mp kept).1
  · exact fun reason kept other otherKept => held.run.apart reason (List.mem_filter.mp kept).1 other
      (List.mem_filter.mp otherKept).1
  · exact fun reason kept => held.run.covered reason (List.mem_filter.mp kept).1
  · exact (held.owed cause written).grows grows (fun _ carried => carried)
      (fun starting => starting) (fun looking => looking) fun asked => asked

theorem WakesHeld.replay (held : board.WakesHeld fans (phase :: others)) :
    WakesHeld fans { board with ledger := { board.ledger with begun := board.ledger.written } }
      ({ phase with starting := false, carries := [], kept := false, settled := [] } :: others) := by
  have books := held.mine
  have grows : board.Grows
      { board with ledger := { board.ledger with begun := board.ledger.written } } := by
    refine ⟨fun _ written => written, fun _ written => .inl written, fun cause answered => ?_,
      Nat.le_refl _, fun reason kept => .inl kept, fun _ kept => .inr kept,
      fun seq member found => ⟨member, found, fun ended => ended⟩⟩
    rcases answered with begun | seen
    · exact .inl (held.run.begun cause begun)
    · exact .inr seen
  have written (reason : KeptReason) (kept : reason ∈ board.reasons) (cause : WakeCause)
      (listed : cause ∈ reason.causes) : cause ∈ board.ledger.written :=
    (held.run.covered reason kept cause listed).1
  refine held.moved grows
    ⟨held.run.live, held.run.drawn, held.run.apart, held.run.covered, held.run.sent,
      fun _ begun => begun⟩
    ⟨by simp, by simp, books.drawn, ?_, ?_, by simp, books.known⟩ fun cause listed => .inl (.inl listed)
  · exact fun _ reason kept _ cause listed => .inl (written reason kept cause listed)
  · exact fun reason kept _ cause listed => .inl (written reason kept cause listed)

theorem BoardBooks.read_settled (books : board.BoardBooks fans) (laid : FansLaid fans)
    (called : call ∈ fans) {highest seq : Nat}
    (read : call.readSettled board.members = some highest) (lower : call.first ≤ seq)
    (upper : seq ≤ highest) :
    call.Owns seq ∧ ∃ member, board.members.get seq = some member ∧ member.settled = true := by
  unfold StepFanCall.readSettled at read
  split at read
  · rename_i none_
    have last := List.mem_of_getLast? read
    obtain ⟨position, sent⟩ := List.mem_filter.mp last
    have within := List.mem_range'_1.mp position
    have owns : call.Owns seq := ⟨lower, by omega⟩
    obtain ⟨member, found⟩ := Option.isSome_iff_exists.mp sent
    obtain ⟨other, listed, -, ownsLast, earlier⟩ := books.sent highest member found
    -- The step is one of this fan's, and the fan's steps are sent in order.
    have one := laid call called other listed highest ⟨within.1, within.2⟩ ownsLast
    subst one
    obtain ⟨there, here⟩ := Option.isSome_iff_exists.mp (earlier seq lower upper)
    refine ⟨owns, there, here, ?_⟩
    by_contra going
    have flying : seq ∈ call.inFlight board.members := by
      refine List.mem_filter.mpr ⟨List.mem_range'_1.mpr owns, ?_⟩
      simp [here, Bool.eq_false_iff.mpr going]
    rw [none_] at flying
    cases flying
  · cases read

theorem readsFan_same (call : StepFanCall) :
    ∃ seen, board.readsFan call = { board with ledger := { board.ledger with seen } } ∧
      (∀ cause ∈ board.ledger.seen, cause ∈ seen) ∧
      (call.inFlight board.members = [] → ∀ cause ∈ board.ledger.written, ∀ seq,
        cause.member = some seq → call.Owns seq → cause ∈ seen) := by
  unfold readsFan
  split
  · refine ⟨_, rfl, fun cause seen => List.mem_append_right _ seen, ?_⟩
    intro _ cause written seq settled owns
    refine List.mem_append_left _ (List.mem_filter.mpr ⟨written, ?_⟩)
    simpa [settled] using owns
  · rename_i flying
    exact ⟨board.ledger.seen, rfl, fun _ seen => seen, fun none_ => absurd none_ flying⟩

/-- A turn reads a fan. -/
theorem WakesHeld.listFan (held : board.WakesHeld fans (phase :: others)) (laid : FansLaid fans)
    (called : call ∈ fans) : WakesHeld fans (board.readsFan call)
      (phase.after (.listFan call) board.members :: others) := by
  obtain ⟨seen, read, before, fan⟩ := board.readsFan_same call
  rw [read]
  have grows : board.Grows { board with ledger := { board.ledger with seen } } := by
    refine ⟨fun _ written => written, fun _ written => .inl written, fun cause answered => ?_,
      Nat.le_refl _, fun reason kept => .inl kept, fun _ kept => .inr kept,
      fun seq member found => ⟨member, found, fun ended => ended⟩⟩
    exact answered.imp_right (before cause)
  have books := held.mine.grows grows
  refine held.moved grows
    ⟨held.run.live, held.run.drawn, held.run.apart, held.run.covered, held.run.sent, held.run.begun⟩
    ⟨books.own, books.kept, books.drawn, books.served, books.spent, ?_, ?_⟩ fun cause written => ?_
  · intro note listed seq lower upper
    have either : note ∈ phase.settled ∨ ∃ highest, call.readSettled board.members = some highest ∧
        note = (call.first, highest) := by
      cases settled : call.readSettled board.members with
      | none =>
        refine .inl ?_
        simpa only [WakePhase.after, settled] using listed
      | some highest =>
        rcases List.mem_cons.mp (by simpa only [WakePhase.after, settled] using listed) with same | old
        · exact .inr ⟨highest, rfl, same⟩
        · exact .inl old
    rcases either with old | ⟨highest, settled, rfl⟩
    · exact books.settled note old seq lower upper
    · obtain ⟨owns, member, found, ended⟩ := held.run.read_settled laid called settled lower upper
      refine ⟨⟨member, found, ended⟩, fun cause written completed => .inr ?_⟩
      have none_ : call.inFlight board.members = [] := by
        unfold StepFanCall.readSettled at settled
        split at settled
        · assumption
        · cases settled
      exact fan none_ cause written seq completed owns
  · intro seq known
    rcases List.mem_append.mp known with listed | old
    · exact (board.members.mem_keys seq).mp listed
    · exact books.known seq old
  · exact (held.owed cause written).grows grows (fun _ carried => carried)
      (fun starting => starting) (fun looking => looking) fun asked => asked

theorem get_sent (first : Nat) (seqs : List Nat) (members : Interleaving.Table Nat FanMember)
    (seq : Nat) :
    (seqs.foldl (fun members seq => members.set seq { first, status := .pending }) members).get seq =
      if seq ∈ seqs then some { first, status := .pending } else members.get seq := by
  induction seqs generalizing members with
  | nil => simp
  | cons sent rest ih =>
    rw [List.foldl_cons, ih]
    by_cases later : seq ∈ rest
    · simp [later]
    · by_cases here : sent = seq
      · simp [here, later]
      · simp [Table.get_set_ne _ _ here, later, Ne.symm here]

/-- A turn sends steps of a fan. -/
theorem WakesHeld.sendMembers (held : board.WakesHeld fans (phase :: others)) {seqs : List Nat}
    (called : call ∈ fans)
    (inOrder : ∀ seq ∈ seqs, call.Owns seq ∧ ∀ earlier, call.first ≤ earlier → earlier < seq →
      earlier ∈ phase.known ∨ earlier ∈ seqs)
    (fresh : ∀ seq ∈ seqs, ∀ member ∈ board.members.get seq, member.settled = false) :
    WakesHeld fans (board.exec (.sendMembers call.first seqs)).1
      ({ phase with known := seqs ++ phase.known } :: others) := by
  have stored (seq : Nat) : (board.exec (.sendMembers call.first seqs)).1.members.get seq =
      if seq ∈ seqs then some { first := call.first, status := .pending }
      else board.members.get seq := get_sent call.first seqs board.members seq
  have sent (seq : Nat) (there : (board.members.get seq).isSome = true ∨ seq ∈ seqs) :
      ((board.exec (.sendMembers call.first seqs)).1.members.get seq).isSome = true := by
    rw [stored]
    split
    · rfl
    · rename_i left
      exact there.resolve_right left
  have grows : board.Grows (board.exec (.sendMembers call.first seqs)).1 := by
    refine ⟨fun _ written => written, fun _ written => .inl written, fun _ answered => answered,
      Nat.le_refl _, fun reason kept => .inl kept, fun _ kept => .inr kept,
      fun seq member found => ?_⟩
    rw [stored]
    split
    · rename_i chosen
      -- A step that is sent again has not ended.
      refine ⟨_, rfl, fun ended => ?_⟩
      cases (fresh seq chosen member found).symm.trans ended
    · exact ⟨member, found, fun ended => ended⟩
  have books := held.mine.grows grows
  refine held.moved grows
    ⟨held.run.live, held.run.drawn, held.run.apart, held.run.covered, fun seq member found => ?_,
      held.run.begun⟩
    ⟨books.own, books.kept, books.drawn, books.served, books.spent, books.settled,
      fun seq known => ?_⟩ fun cause written => ?_
  · rw [stored] at found
    split at found
    · rename_i chosen
      cases found
      obtain ⟨owns, before⟩ := inOrder seq chosen
      refine ⟨call, called, rfl, owns, fun earlier lower upper => sent earlier ?_⟩
      rcases Nat.lt_or_eq_of_le upper with less | rfl
      · exact (before earlier lower less).imp_left (held.mine.known earlier)
      · exact .inr chosen
    · obtain ⟨other, listed, first, owns, before⟩ := held.run.sent seq member found
      exact ⟨other, listed, first, owns, fun earlier lower upper =>
        sent earlier (.inl (before earlier lower upper))⟩
  · rcases List.mem_append.mp known with new | old
    · exact sent seq (.inr new)
    · exact books.known seq old
  · exact (held.owed cause written).grows grows (fun _ carried => carried)
      (fun starting => starting) (fun looking => looking) fun asked => asked

theorem WakesHeld.writes (held : board.WakesHeld fans (phase :: others)) (member : Option Nat)
    (fresh : ∀ seq, member = some seq → ∀ row, board.members.get seq = some row →
      row.settled = false) (unkept : phase.kept = false) :
    WakesHeld fans (board.writes member).1
      ({ phase with carries := (board.writes member).2 :: phase.carries } :: others) := by
  have grows : board.Grows (board.writes member).1 := by
    refine ⟨fun _ written => List.mem_cons_of_mem _ written, fun cause written => ?_,
      fun _ answered => answered, Nat.le_refl _, fun reason kept => .inl kept,
      fun _ kept => .inr kept, fun seq row found => ⟨row, found, fun ended => ended⟩⟩
    rcases List.mem_cons.mp written with rfl | before
    · exact .inr fresh
    · exact .inl before
  have books := held.mine.grows grows
  refine held.moved grows
    ⟨held.run.live, held.run.drawn, held.run.apart, fun reason kept cause listed => ?_,
      held.run.sent, fun cause begun => List.mem_cons_of_mem _ (held.run.begun cause begun)⟩
    ⟨fun cause carried => ?_, fun kept => ?_, books.drawn, books.served, books.spent,
      books.settled, books.known⟩ fun cause written => ?_
  · obtain ⟨written, covers⟩ := held.run.covered reason kept cause listed
    exact ⟨List.mem_cons_of_mem _ written, covers⟩
  · rcases List.mem_cons.mp carried with rfl | before
    · exact List.mem_cons_self
    · exact books.own cause before
  · cases unkept.symm.trans kept
  · rcases List.mem_cons.mp written with rfl | before
    · exact .inr (.inl ⟨_, List.mem_cons_self, .inl List.mem_cons_self⟩)
    · exact (held.owed cause before).grows grows (fun _ carried => List.mem_cons_of_mem _ carried)
        (fun starting => starting) (fun looking => looking) fun asked => asked

/-- A step that was in flight ends. -/
theorem WakesHeld.settle (held : board.WakesHeld fans (phase :: others)) {seq : Nat}
    {member : FanMember} (found : board.members.get seq = some member)
    (going : member.settled = false) (status : StepStatus) :
    WakesHeld fans { board with members := board.members.set seq { member with status } }
      (phase :: others) := by
  have stored (other : Nat) : (board.members.set seq { member with status }).get other =
      if seq = other then some { member with status } else board.members.get other :=
    board.members.get_set seq other _
  have same (other : Nat) : ((board.members.set seq { member with status }).get other).isSome =
      (board.members.get other).isSome := by
    rw [stored]
    split
    · rename_i here
      rw [← here, found]
      rfl
    · rfl
  have grows : board.Grows
      { board with members := board.members.set seq { member with status } } := by
    refine ⟨fun _ written => written, fun _ written => .inl written, fun _ answered => answered,
      Nat.le_refl _, fun reason kept => .inl kept, fun _ kept => .inr kept,
      fun other row there => ?_⟩
    by_cases here : seq = other
    · subst here
      rw [found] at there
      cases there
      exact ⟨_, (stored seq).trans (if_pos rfl), fun ended => by cases going.symm.trans ended⟩
    · exact ⟨row, (stored other).trans ((if_neg here).trans there), fun ended => ended⟩
  refine held.moved grows
    ⟨held.run.live, held.run.drawn, held.run.apart, held.run.covered, fun other row there => ?_,
      held.run.begun⟩ (held.mine.grows grows) fun cause written => ?_
  · have before : ∃ old, board.members.get other = some old ∧ row.first = old.first := by
      rw [stored] at there
      split at there
      · rename_i here
        subst here
        cases there
        exact ⟨member, found, rfl⟩
      · exact ⟨row, there, rfl⟩
    obtain ⟨old, was, first⟩ := before
    obtain ⟨call, listed, own, owns, earlier⟩ := held.run.sent other old was
    exact ⟨call, listed, first.trans own, owns, fun each lower upper =>
      (same each).trans (earlier each lower upper)⟩
  · exact (held.owed cause written).grows grows (fun _ carried => carried)
      (fun starting => starting) (fun looking => looking) fun asked => asked

/-- A call that concerns the lease. -/
inductive OnLease : WakeOp → Prop where
  | take (owner : String) (leaseUntil now : Nat) : OnLease (.tryLockRun owner leaseUntil now)
  | renew (owner : String) (leaseUntil : Nat) : OnLease (.renewRunLock owner leaseUntil)
  | release (owner : String) : OnLease (.releaseRunLock owner)
  | releaseUnless (owner : String) : OnLease (.releaseRunLockUnlessWakeRequested owner)

theorem OnLease.exec {op : WakeOp} (on : OnLease op) :
    ∃ lease, (board.exec op).1 = { board with lease } := by
  cases on with
  | take owner leaseUntil now =>
    by_cases taken : (board.lease.any fun lease => decide (now < lease.2)) = true
    · exact ⟨_, congrArg Prod.fst (if_pos taken)⟩
    · exact ⟨_, congrArg Prod.fst (if_neg taken)⟩
  | renew owner leaseUntil =>
    by_cases own : board.heldBy owner = true
    · exact ⟨_, congrArg Prod.fst (if_pos own)⟩
    · exact ⟨_, congrArg Prod.fst (if_neg own)⟩
  | release owner =>
    by_cases own : board.heldBy owner = true
    · exact ⟨_, if_pos own⟩
    · exact ⟨_, if_neg own⟩
  | releaseUnless owner =>
    by_cases own : board.heldBy owner = true
    · by_cases asked : board.wakeRequestedAt.isSome = true
      · exact ⟨_, congrArg Prod.fst ((if_pos own).trans (if_pos asked))⟩
      · exact ⟨_, congrArg Prod.fst ((if_pos own).trans (if_neg asked))⟩
    · exact ⟨_, congrArg Prod.fst (if_neg own)⟩

theorem WakesHeld.onLease (held : board.WakesHeld fans (phase :: others)) {op : WakeOp}
    (on : OnLease op) : WakesHeld fans (board.exec op).1 (phase :: others) := by
  obtain ⟨lease, same⟩ := on.exec
  rw [same]
  exact held.quiet held.run.live rfl rfl rfl rfl rfl

theorem WakesHeld.settleMember (held : board.WakesHeld fans (phase :: others)) (seq : Nat)
    (completed : Bool) (unkept : phase.kept = false) :
    WakePhase.fits (.settleMember seq completed) (board.exec (.settleMember seq completed)).2 ∧
      WakesHeld fans (board.exec (.settleMember seq completed)).1
        (phase.after (.settleMember seq completed) (board.exec (.settleMember seq completed)).2 ::
          others) := by
  cases found : board.members.get seq with
  | none =>
    have nothing : board.exec (.settleMember seq completed) = (board, none) := by
      simp only [WakeBoard.exec, found]
      rfl
    rw [nothing]
    exact ⟨trivial, held⟩
  | some member =>
    by_cases ended : member.settled = true
    · have nothing : board.exec (.settleMember seq completed) = (board, none) := by
        simp only [WakeBoard.exec, found, if_pos ended]
        rfl
      rw [nothing]
      exact ⟨trivial, held⟩
    · have going : member.settled = false := Bool.eq_false_iff.mpr ended
      have writes := held.writes (if completed then some seq else none) (fun other same row there => by
        cases completed with
        | false => cases same
        | true =>
          cases same
          rw [found] at there
          cases there
          exact going) unkept
      have settles := writes.settle found going (if completed then StepStatus.completed else .failed)
      obtain ⟨call, -, first, owns, -⟩ := held.run.sent seq member found
      have done : board.exec (.settleMember seq completed) =
          ({ (board.writes (if completed then some seq else none)).1 with
              members := board.members.set seq
                { member with status := if completed then StepStatus.completed else .failed } },
            some ((board.writes (if completed then some seq else none)).2, member.first)) := by
        simp only [WakeBoard.exec, found, if_neg ended]
        rfl
      rw [done]
      exact ⟨⟨rfl, first ▸ owns.1⟩, settles⟩

/-- A call that is made as it may be is answered as it should, and keeps everything in order. -/
theorem WakesHeld.exec (held : board.WakesHeld fans (phase :: others)) (laid : FansLaid fans)
    (op : WakeOp) (may : phase.may fans op) (view : reasonsInView.step board phase others op) :
    WakePhase.fits op (board.exec op).2 ∧
      WakesHeld fans (board.exec op).1 (phase.after op (board.exec op).2 :: others) := by
  have live : isTerminalStatus board.status = false := by
    have known := held.run.live
    simp only [wakeableStatuses, List.mem_cons, List.not_mem_nil, or_false] at known
    rcases known with status | status | status <;> rw [status] <;> rfl
  cases op with
  | clock => exact ⟨trivial, held⟩
  | getRun => exact ⟨live, held⟩
  | tryLockRun owner leaseUntil now => exact ⟨trivial, held.onLease (.take owner leaseUntil now)⟩
  | renewRunLock owner leaseUntil => exact ⟨trivial, held.onLease (.renew owner leaseUntil)⟩
  | releaseRunLock owner => exact ⟨trivial, held.onLease (.release owner)⟩
  | releaseRunLockUnlessWakeRequested owner =>
    exact ⟨trivial, held.onLease (.releaseUnless owner)⟩
  | requestTurn at_ =>
    have asked : board.exec (.requestTurn at_) =
        ({ board with wakeRequestedAt := some at_ }, true) := if_pos held.run.live
    rw [asked]
    exact ⟨rfl, held.requestTurn at_ may⟩
  | requestAgain at_ => exact ⟨trivial, held.requestAgain at_⟩
  | clearRequest starts => exact ⟨trivial, held.clearRequest starts⟩
  | keepReason payload causes => exact ⟨trivial, held.keepReason may.1 may.2⟩
  | keptReasons look most =>
    refine ⟨trivial, ?_⟩
    cases look with
    | starting => exact held.findReasons may most
    | lettingGo => exact held.spendReasons may most
    | again => exact held.lookAgain view
    | dropping => exact held
  | removeReason id => exact ⟨trivial, held.removeReason may.1 may.2⟩
  | replay => exact ⟨trivial, held.replay⟩
  | listFan call => exact ⟨trivial, held.listFan laid may.1⟩
  | sendMembers first seqs =>
    obtain ⟨call, called, rfl, inOrder⟩ := may
    exact ⟨trivial, held.sendMembers called inOrder view⟩
  | fenced => exact ⟨trivial, held.quiet held.run.live rfl rfl rfl rfl rfl⟩
  | parksOn => exact ⟨trivial, held.quiet held.run.live rfl rfl rfl rfl rfl⟩
  | park wakeAt =>
    by_cases parks : board.status ∈ parkableStatuses
    · have parked : board.exec (.park wakeAt) =
          ({ board with status := .suspended, wakeAt }, true) := if_pos parks
      rw [parked]
      exact ⟨trivial, held.quiet (List.mem_cons_of_mem _ List.mem_cons_self) rfl rfl rfl rfl rfl⟩
    · have left : board.exec (.park wakeAt) = (board, false) := if_neg parks
      rw [left]
      exact ⟨trivial, held⟩
  | writeCause =>
    exact ⟨trivial, held.writes none (fun _ none_ => by cases none_) may⟩
  | settleMember seq completed => exact held.settleMember seq completed may

theorem WakesHeld.perm {before later : List WakePhase} (order : before.Perm later)
    (held : board.WakesHeld fans before) : board.WakesHeld fans later := by
  have seen_to {does : WakePhase → Prop} (some_ : ∃ each ∈ before, does each) :
      ∃ each ∈ later, does each := by
    obtain ⟨each, member, does⟩ := some_
    exact ⟨each, order.mem_iff.mp member, does⟩
  refine ⟨held.run, fun each member => held.phases each (order.mem_iff.mpr member),
    fun cause written => ?_⟩
  exact (held.owed cause written).imp_right fun rest =>
    rest.imp seen_to fun both => both.imp_right fun asked => asked.imp_right seen_to

end WakeBoard

end Durable
