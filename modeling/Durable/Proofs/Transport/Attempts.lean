import Mathlib.Data.List.Count
import Durable.Transport.Attempts

/-! The transport loses no attempt's result, as long as attempts do not overtake result rows. -/

namespace Durable

open Interleaving

namespace Transport

/-- What is known of the task rows and of those that were settled. -/
structure TaskBooks (transport : Transport) : Prop where
  keyed : ∀ id row, transport.tasks.get id = some row → row.stepId = id
  numbered : ∀ id row, transport.tasks.get id = some row → row.serial < transport.ledger.inserted
  apart : ∀ id other row later, transport.tasks.get id = some row →
    transport.tasks.get other = some later → row.serial = later.serial → id = other
  unsettled : ∀ id row, transport.tasks.get id = some row →
    ∀ entry ∈ transport.ledger.settled, entry.1 ≠ row.serial
  settled : ∀ entry ∈ transport.ledger.settled, entry.1 < transport.ledger.inserted
  once : (transport.ledger.settled.map Prod.fst).Nodup
  accounted : ∀ serial < transport.ledger.inserted,
    (∃ id row, transport.tasks.get id = some row ∧ row.serial = serial) ∨
      ∃ result, (serial, result) ∈ transport.ledger.settled
  counted : ∀ id row, transport.tasks.get id = some row →
    row.carries.reclaims = transport.ledger.takeovers.count row.serial
  takenOver : ∀ serial ∈ transport.ledger.takeovers, serial < transport.ledger.inserted

/-- What is known of the result rows. -/
structure ResultBooks (transport : Transport) : Prop where
  keyed : ∀ id row, transport.results.get id = some row → row.stepId = id
  written : transport.ledger.written = transport.ledger.settled
  waiting : ∀ entry ∈ transport.ledger.settled, entry ∈ transport.ledger.handed ∨
    ∃ row, transport.Waits entry row
  stamped : ∀ id row, transport.results.get id = some row → ∀ token ∈ row.claimedBy,
    token.stamp < transport.hrtime

def SameResult (row other : ResultRow) : Prop :=
  (row.serial, row.carries) = (other.serial, other.carries)

/-- What is known of the rounds over the result table. -/
structure RoundBooks (transport : Transport) (every : List RoundPhase) : Prop where
  drawn : ∀ phase ∈ every, ∀ token ∈ phase.token, token.stamp < transport.hrtime
  apart : every.Pairwise fun phase other => ∀ token ∈ phase.token, token ∉ other.token
  own : ∀ phase ∈ every, phase.read = true → ∀ token ∈ phase.token,
    ∀ id row, transport.results.get id = some row → row.claimedBy = some token →
      ∀ won ∈ phase.won, won.stepId = id → SameResult won row
  handed : ∀ phase ∈ every, ∀ row ∈ phase.handed, row ∈ phase.won ∧
    (row.serial, row.carries) ∈ transport.ledger.handed

/-- What is known of the tables and of the rounds over them. -/
structure AttemptsHeld (transport : Transport) (every : List RoundPhase) : Prop where
  tasks : transport.TaskBooks
  results : transport.ResultBooks
  rounds : transport.RoundBooks every

variable {transport after : Transport} {row : TaskRow} {every : List RoundPhase}
  {token : ClaimToken}

/-- Changing rows without touching their numbers keeps the task rows in order. -/
theorem TaskBooks.changed (books : transport.TaskBooks) (change : String → TaskRow → TaskRow)
    (rows : ∀ id, after.tasks.get id = (transport.tasks.get id).map (change id))
    (same : ∀ id row, (change id row).stepId = row.stepId ∧ (change id row).serial = row.serial)
    (inserted : after.ledger.inserted = transport.ledger.inserted)
    (settled : after.ledger.settled = transport.ledger.settled)
    (counted : ∀ id row, transport.tasks.get id = some row →
      (change id row).carries.reclaims = after.ledger.takeovers.count row.serial)
    (takenOver : ∀ serial ∈ after.ledger.takeovers, serial < transport.ledger.inserted) :
    after.TaskBooks := by
  -- A row that is there afterwards is what the change has made of one that was there.
  have was : ∀ id row, after.tasks.get id = some row →
      ∃ before, transport.tasks.get id = some before ∧ change id before = row := by
    intro id row found
    rw [rows id] at found
    exact Option.map_eq_some_iff.mp found
  refine ⟨?_, ?_, ?_, ?_, ?_, ?_, ?_, ?_, ?_⟩
  · intro id row found
    obtain ⟨before, there, rfl⟩ := was id row found
    exact (same id before).1.trans (books.keyed id before there)
  · intro id row found
    obtain ⟨before, there, rfl⟩ := was id row found
    rw [(same id before).2, inserted]
    exact books.numbered id before there
  · intro id other row later found located equal
    obtain ⟨before, there, rfl⟩ := was id row found
    obtain ⟨second, here, rfl⟩ := was other later located
    rw [(same id before).2, (same other second).2] at equal
    exact books.apart id other before second there here equal
  · intro id row found entry member
    obtain ⟨before, there, rfl⟩ := was id row found
    rw [(same id before).2]
    exact books.unsettled id before there entry (settled ▸ member)
  · intro entry member
    rw [inserted]
    exact books.settled entry (settled ▸ member)
  · rw [settled]
    exact books.once
  · intro serial numbered
    rw [inserted] at numbered
    rcases books.accounted serial numbered with ⟨id, row, there, numbered⟩ | ⟨result, member⟩
    · exact .inl ⟨id, change id row, by rw [rows id, there]; rfl, (same id row).2.trans numbered⟩
    · exact .inr ⟨result, settled ▸ member⟩
  · intro id row found
    obtain ⟨before, there, rfl⟩ := was id row found
    rw [(same id before).2]
    exact counted id before there
  · intro serial member
    rw [inserted]
    exact takenOver serial member

theorem TaskBooks.update (books : transport.TaskBooks) (change : TaskRow → TaskRow)
    (same : ∀ row, (change row).stepId = row.stepId ∧ (change row).serial = row.serial ∧
      (change row).carries = row.carries) :
    TaskBooks { transport with tasks := transport.tasks.update change } := by
  refine books.changed (fun _ => change) (fun id => transport.tasks.get_update change id)
    (fun _ row => ⟨(same row).1, (same row).2.1⟩) rfl rfl ?_ books.takenOver
  intro id row found
  rw [(same row).2.2]
  exact books.counted id row found

theorem TaskBooks.serials_nodup (books : transport.TaskBooks) :
    (transport.tasks.stored.map (·.serial)).Nodup := by
  refine List.pairwise_map.mpr (List.pairwise_filterMap.mpr ?_)
  refine List.Pairwise.imp ?_ transport.tasks.keys_nodup
  intro id other different row found later located equal
  exact different (books.apart id other row later found located equal)

theorem TaskBooks.count_serial (books : transport.TaskBooks) (some_ : TaskRow → Bool)
    {id : String} (found : transport.tasks.get id = some row) :
    ((transport.tasks.stored.filter some_).map (·.serial)).count row.serial =
      if some_ row then 1 else 0 := by
  have nodup : ((transport.tasks.stored.filter some_).map (·.serial)).Nodup :=
    books.serials_nodup.sublist (List.filter_sublist.map _)
  have stored : row ∈ transport.tasks.stored := (transport.tasks.mem_stored row).mpr ⟨id, found⟩
  split
  · rename_i chosen
    refine List.count_eq_one_of_mem nodup ?_
    exact List.mem_map_of_mem (List.mem_filter.mpr ⟨stored, chosen⟩)
  · rename_i left
    refine List.count_eq_zero_of_not_mem fun member => left ?_
    obtain ⟨other, chosen, equal⟩ := List.mem_map.mp member
    obtain ⟨listed, chosen⟩ := List.mem_filter.mp chosen
    obtain ⟨key, located⟩ := (transport.tasks.mem_stored other).mp listed
    -- A row with the same number is the same row.
    have same : key = id := books.apart key id other row located found equal
    subst same
    cases located.symm.trans found
    exact chosen

theorem TaskBooks.takeOver (books : transport.TaskBooks) (query : ClaimQuery) (ids : List String)
    (token : ClaimToken) (stampedAt : Nat) :
    TaskBooks (transport.exec (.claimLapsed .tasks query ids token stampedAt true)).1 := by
  refine books.changed
    (fun _ row => if row.lapsedIn query ids then TaskRow.takenOver (row.claimed token stampedAt) true
      else row) (fun id => transport.tasks.get_update _ id) ?_ rfl rfl ?_ ?_
  · intro _ row
    split <;> exact ⟨rfl, rfl⟩
  · intro id row found
    show _ = (((transport.tasks.stored.filter fun row => row.lapsedIn query ids).map
      (·.serial)) ++ transport.ledger.takeovers).count row.serial
    rw [List.count_append, books.count_serial (·.lapsedIn query ids) found]
    have before := books.counted id row found
    split
    · show row.carries.reclaims + 1 = _
      omega
    · omega
  · intro serial member
    rcases List.mem_append.mp member with taken | earlier
    · obtain ⟨row, chosen, rfl⟩ := List.mem_map.mp taken
      obtain ⟨id, found⟩ := (transport.tasks.mem_stored row).mp (List.mem_filter.mp chosen).1
      exact books.numbered id row found
    · exact books.takenOver serial earlier

/-- A task row that is inserted has the next number. -/
theorem TaskBooks.insertTask (books : transport.TaskBooks) (namespaceValue : String)
    (withPriority : Bool) (createdAt : Nat) (task : RemoteTask) :
    (transport.insertTask namespaceValue withPriority createdAt task).TaskBooks := by
  unfold Transport.insertTask
  split
  · exact books
  · rename_i absent
    have fresh : transport.ledger.inserted ∉ transport.ledger.takeovers := fun member =>
      Nat.lt_irrefl _ (books.takenOver _ member)
    refine ⟨?_, ?_, ?_, ?_, ?_, books.once, ?_, ?_, ?_⟩
    · intro id row found
      simp only [Table.get_set] at found
      split at found
      · rename_i same
        cases found
        exact same
      · exact books.keyed id row found
    · intro id row found
      simp only [Table.get_set] at found
      split at found
      · cases found
        exact Nat.lt_succ_self _
      · exact Nat.lt_succ_of_lt (books.numbered id row found)
    · intro id other row later found located equal
      simp only [Table.get_set] at found located
      -- An older row's number is smaller than the new one's.
      split at found <;> split at located
      · rename_i here there
        exact here.symm.trans there
      · cases found
        exact absurd equal.symm (Nat.ne_of_lt (books.numbered other later located))
      · cases located
        exact absurd equal (Nat.ne_of_lt (books.numbered id row found))
      · exact books.apart id other row later found located equal
    · intro id row found entry member
      simp only [Table.get_set] at found
      split at found
      · cases found
        exact Nat.ne_of_lt (books.settled entry member)
      · exact books.unsettled id row found entry member
    · exact fun entry member => Nat.lt_succ_of_lt (books.settled entry member)
    · intro serial numbered
      rcases Nat.lt_succ_iff_lt_or_eq.mp numbered with older | newest
      · rcases books.accounted serial older with ⟨id, row, found, numbered⟩ | settled
        · refine .inl ⟨id, row, ?_, numbered⟩
          rw [Table.get_set_ne _ _ fun same => ?_, found]
          rw [same, found] at absent
          cases absent
        · exact .inr settled
      · exact .inl ⟨task.stepId, _, Table.get_set_self .., newest.symm⟩
    · intro id row found
      simp only [Table.get_set] at found
      split at found
      · cases found
        exact (List.count_eq_zero_of_not_mem fresh).symm
      · exact books.counted id row found
    · exact fun serial member => Nat.lt_succ_of_lt (books.takenOver serial member)

/-- A task row that is deleted to be settled was settled for the first time. -/
theorem TaskBooks.remove (books : transport.TaskBooks) {stepId : String}
    (found : transport.tasks.get stepId = some row) (result : StepResult) :
    TaskBooks { transport with
      tasks := transport.tasks.erase stepId
      ledger := { transport.ledger with
        settled := (row.serial, result) :: transport.ledger.settled } } := by
  have kept : ∀ id other, (transport.tasks.erase stepId).get id = some other →
      stepId ≠ id ∧ transport.tasks.get id = some other := by
    intro id other located
    rw [Table.get_erase] at located
    split at located
    · cases located
    · rename_i apart
      exact ⟨apart, located⟩
  refine ⟨?_, ?_, ?_, ?_, ?_, ?_, ?_, ?_, books.takenOver⟩
  · exact fun id other located => books.keyed id other (kept id other located).2
  · exact fun id other located => books.numbered id other (kept id other located).2
  · intro id second other later located there equal
    exact books.apart id second other later (kept id other located).2 (kept second later there).2
      equal
  · intro id other located entry member
    obtain ⟨apart, there⟩ := kept id other located
    rcases List.mem_cons.mp member with rfl | earlier
    · exact fun equal => apart (books.apart stepId id row other found there equal)
    · exact books.unsettled id other there entry earlier
  · intro entry member
    rcases List.mem_cons.mp member with rfl | earlier
    · exact books.numbered stepId row found
    · exact books.settled entry earlier
  · refine List.nodup_cons.mpr ⟨fun again => ?_, books.once⟩
    obtain ⟨entry, earlier, equal⟩ := List.mem_map.mp again
    exact books.unsettled stepId row found entry earlier equal
  · intro serial numbered
    rcases books.accounted serial numbered with ⟨id, other, located, own⟩ | ⟨earlier, member⟩
    · by_cases same : stepId = id
      · subst same
        cases found.symm.trans located
        exact .inr ⟨result, own ▸ List.mem_cons_self⟩
      · exact .inl ⟨id, other, (Table.get_erase_ne _ same).trans located, own⟩
    · exact .inr ⟨earlier, List.mem_cons_of_mem _ member⟩
  · exact fun id other located => books.counted id other (kept id other located).2

theorem TaskBooks.same (books : transport.TaskBooks) (tasks : after.tasks = transport.tasks)
    (inserted : after.ledger.inserted = transport.ledger.inserted)
    (settled : after.ledger.settled = transport.ledger.settled)
    (takeovers : after.ledger.takeovers = transport.ledger.takeovers) : after.TaskBooks := by
  refine books.changed (fun _ row => row) (fun id => by simp [tasks]) (fun _ _ => ⟨rfl, rfl⟩)
    inserted settled ?_ ?_
  · exact fun id row found => takeovers ▸ books.counted id row found
  · exact fun serial member => books.takenOver serial (takeovers ▸ member)

theorem ResultBooks.changed (books : transport.ResultBooks) (change : ResultRow → ResultRow)
    (same : ∀ row, (change row).stepId = row.stepId ∧ SameResult (change row) row)
    (held : ∀ row, ∀ token ∈ (change row).claimedBy, token ∈ row.claimedBy ∨
      token.stamp < transport.hrtime) :
    ResultBooks { transport with results := transport.results.update change } := by
  have was : ∀ id row, (transport.results.update change).get id = some row →
      ∃ before, transport.results.get id = some before ∧ change before = row := by
    intro id row found
    rw [Table.get_update] at found
    exact Option.map_eq_some_iff.mp found
  refine ⟨?_, books.written, ?_, ?_⟩
  · intro id row found
    obtain ⟨before, there, rfl⟩ := was id row found
    exact (same before).1.trans (books.keyed id before there)
  · intro entry member
    refine (books.waiting entry member).imp id ?_
    rintro ⟨row, there, own⟩
    refine ⟨change row, ?_, (same row).2.trans own⟩
    show (transport.results.update change).get (change row).stepId = _
    rw [Table.get_update, (same row).1, there]
    rfl
  · intro id row found token member
    obtain ⟨before, there, rfl⟩ := was id row found
    rcases held before token member with old | drawn
    · exact books.stamped id before there token old
    · exact drawn

theorem RoundBooks.changed (books : transport.RoundBooks every) (change : ResultRow → ResultRow)
    (same : ∀ row, SameResult (change row) row)
    (held : ∀ row token, (change row).claimedBy = some token → row.claimedBy = some token ∨
      ∀ phase ∈ every, phase.read = true → token ∉ phase.token) :
    RoundBooks { transport with results := transport.results.update change } every := by
  refine ⟨books.drawn, books.apart, ?_, books.handed⟩
  intro phase member read token own id row found claimed won listed here
  simp only [Table.get_update] at found
  obtain ⟨before, there, rfl⟩ := Option.map_eq_some_iff.mp found
  rcases held before token claimed with old | unread
  · exact (books.own phase member read token own id before there old won listed here).trans
      (same before).symm
  · exact absurd own (unread phase member read)

variable {phase : RoundPhase} {others : List RoundPhase}

theorem RoundBooks.token_apart (books : transport.RoundBooks (phase :: others))
    (own : phase.token = some token) {other : RoundPhase} (member : other ∈ others) :
    token ∉ other.token :=
  (List.pairwise_cons.mp books.apart).1 other member token own

theorem AttemptsHeld.claimResults (held : transport.AttemptsHeld (phase :: others))
    (own : phase.token = some token) (unread : phase.read = false)
    (change : ResultRow → ResultRow)
    (either : ∀ row, change row = row ∨ ∃ stampedAt, change row = row.claimed token stampedAt) :
    AttemptsHeld { transport with results := transport.results.update change }
      (phase :: others) := by
  have same : ∀ row, (change row).stepId = row.stepId ∧ SameResult (change row) row := by
    intro row
    rcases either row with kept | ⟨stampedAt, taken⟩
    · rw [kept]
      exact ⟨rfl, rfl⟩
    · rw [taken]
      exact ⟨rfl, rfl⟩
  have holder : ∀ row other, (change row).claimedBy = some other →
      row.claimedBy = some other ∨ other = token := by
    intro row other claimed
    rcases either row with kept | ⟨stampedAt, taken⟩
    · rw [kept] at claimed
      exact .inl claimed
    · rw [taken] at claimed
      exact .inr (Option.some.inj claimed).symm
  refine ⟨held.tasks.same rfl rfl rfl rfl, held.results.changed change same ?_,
    held.rounds.changed change (fun row => (same row).2) ?_⟩
  · intro row other claimed
    refine (holder row other claimed).imp id ?_
    rintro rfl
    exact held.rounds.drawn phase List.mem_cons_self other own
  · intro row other claimed
    refine (holder row other claimed).imp id ?_
    rintro rfl path member read
    rcases List.mem_cons.mp member with rfl | another
    · rw [unread] at read
      cases read
    · exact held.rounds.token_apart own another

theorem AttemptsHeld.releaseResults (held : transport.AttemptsHeld every)
    (change : ResultRow → ResultRow)
    (either : ∀ row, (change row).stepId = row.stepId ∧ SameResult (change row) row ∧
      ∀ token, (change row).claimedBy = some token → row.claimedBy = some token) :
    AttemptsHeld { transport with results := transport.results.update change } every := by
  refine ⟨held.tasks.same rfl rfl rfl rfl, held.results.changed change ?_ ?_,
    held.rounds.changed change (fun row => (either row).2.1) ?_⟩
  · exact fun row => ⟨(either row).1, (either row).2.1⟩
  · exact fun row token claimed => .inl ((either row).2.2 token claimed)
  · exact fun row token claimed => .inl ((either row).2.2 token claimed)

theorem AttemptsHeld.updateTasks (held : transport.AttemptsHeld every)
    (change : TaskRow → TaskRow)
    (same : ∀ row, (change row).stepId = row.stepId ∧ (change row).serial = row.serial ∧
      (change row).carries = row.carries) :
    AttemptsHeld { transport with tasks := transport.tasks.update change } every :=
  ⟨held.tasks.update change same,
    ⟨held.results.keyed, held.results.written, held.results.waiting, held.results.stamped⟩,
    ⟨held.rounds.drawn, held.rounds.apart, held.rounds.own, held.rounds.handed⟩⟩

theorem AttemptsHeld.withTasks (held : transport.AttemptsHeld every) (books : after.TaskBooks)
    (results : after.results = transport.results) (hrtime : after.hrtime = transport.hrtime)
    (settled : after.ledger.settled = transport.ledger.settled)
    (written : after.ledger.written = transport.ledger.written)
    (handed : after.ledger.handed = transport.ledger.handed) : after.AttemptsHeld every := by
  refine ⟨books, ⟨?_, ?_, ?_, ?_⟩, ⟨?_, held.rounds.apart, ?_, ?_⟩⟩
  · rw [results]
    exact held.results.keyed
  · rw [written, settled]
    exact held.results.written
  · rw [settled, handed]
    simp only [Waits, results]
    exact held.results.waiting
  · rw [results, hrtime]
    exact held.results.stamped
  · rw [hrtime]
    exact held.rounds.drawn
  · rw [results]
    exact held.rounds.own
  · rw [handed]
    exact held.rounds.handed

theorem AttemptsHeld.insertTasks (held : transport.AttemptsHeld every) (namespaceValue : String)
    (withPriority : Bool) (createdAt : Nat) (tasks : List RemoteTask) :
    AttemptsHeld (tasks.foldl (insertTask namespaceValue withPriority createdAt) transport)
      every := by
  induction tasks generalizing transport with
  | nil => exact held
  | cons task rest ih =>
    refine ih ?_
    have books := held.tasks.insertTask namespaceValue withPriority createdAt task
    unfold insertTask at books ⊢
    split
    · exact held
    · rename_i absent
      simp only [absent] at books
      exact held.withTasks books rfl rfl rfl rfl rfl

theorem AttemptsHeld.restamp (held : transport.AttemptsHeld every) {stepId : String}
    (found : transport.tasks.get stepId = some row) (stampedAt : Nat) :
    AttemptsHeld { transport with
      tasks := transport.tasks.set stepId { row with claimedAt := some stampedAt } } every := by
  refine held.withTasks ?_ rfl rfl rfl rfl rfl
  refine held.tasks.changed
    (fun id row => if stepId = id then { row with claimedAt := some stampedAt } else row) ?_ ?_ rfl
    rfl ?_ held.tasks.takenOver
  · intro id
    rw [Table.get_set]
    split
    · rename_i same
      subst same
      rw [found]
      rfl
    · simp
  · intro id other
    split <;> exact ⟨rfl, rfl⟩
  · intro id other located
    have counted := held.tasks.counted id other located
    split <;> exact counted

/-- A task row is settled while no result row is left of its step. -/
theorem AttemptsHeld.settle (held : transport.AttemptsHeld every) (stepId : String)
    (token : ClaimToken) (result : StepResult) (namespaceValue : String) (createdAt : Nat)
    (spaced : ∀ row ∈ transport.tasks.get stepId, row.heldBy token = true →
      transport.results.get stepId = none) :
    AttemptsHeld (transport.settle stepId token result namespaceValue createdAt).1 every := by
  unfold Transport.settle
  split
  · exact held
  · rename_i row found
    split
    · rename_i holds
      have absent := spaced row found holds
      simp only [insertResult, absent]
      refine ⟨(held.tasks.remove found result).same rfl rfl rfl rfl, ⟨?_, ?_, ?_, ?_⟩,
        ⟨held.rounds.drawn, held.rounds.apart, ?_, held.rounds.handed⟩⟩
      · intro id other located
        simp only [Table.get_set] at located
        split at located
        · rename_i same
          cases located
          exact same
        · exact held.results.keyed id other located
      · exact congrArg _ held.results.written
      · intro entry member
        rcases List.mem_cons.mp member with rfl | earlier
        · exact .inr ⟨{ stepId, namespaceValue, createdAt, serial := row.serial, carries := result },
            Table.get_set_self .., rfl⟩
        · refine (held.results.waiting entry earlier).imp id ?_
          rintro ⟨other, there, own⟩
          refine ⟨other, ?_, own⟩
          show (transport.results.set stepId _).get other.stepId = some other
          rw [Table.get_set_ne _ _ fun same => ?_, there]
          rw [← same, absent] at there
          cases there
      · intro id other located
        simp only [Table.get_set] at located
        split at located
        · -- Nobody has claimed the row yet.
          cases located
          exact fun _ claimed => by cases claimed
        · exact held.results.stamped id other located
      · intro phase member read holder own id other located claimed
        simp only [Table.get_set] at located
        split at located
        · cases located
          cases claimed
        · exact held.rounds.own phase member read holder own id other located claimed
    · exact held

theorem AttemptsHeld.draw (held : transport.AttemptsHeld (phase :: others)) (instanceId : String) :
    AttemptsHeld { transport with hrtime := transport.hrtime + 1 }
      ({ token := some { instanceId, stamp := transport.hrtime } } :: others) := by
  refine ⟨held.tasks.same rfl rfl rfl rfl, ⟨held.results.keyed, held.results.written,
    held.results.waiting, ?_⟩, ⟨?_, ?_, ?_, ?_⟩⟩
  · exact fun id row found token member =>
      Nat.lt_succ_of_lt (held.results.stamped id row found token member)
  · refine List.forall_mem_cons.mpr ⟨?_, fun other member token own => ?_⟩
    · rintro token ⟨⟩
      exact Nat.lt_succ_self _
    · exact Nat.lt_succ_of_lt (held.rounds.drawn other (List.mem_cons_of_mem _ member) token own)
  · refine List.pairwise_cons.mpr ⟨?_, (List.pairwise_cons.mp held.rounds.apart).2⟩
    rintro other member token ⟨⟩ own
    -- The other round has drawn its token before.
    have before := held.rounds.drawn other (List.mem_cons_of_mem _ member) _ own
    exact Nat.lt_irrefl _ before
  · refine List.forall_mem_cons.mpr ⟨?_, fun other member =>
      held.rounds.own other (List.mem_cons_of_mem _ member)⟩
    intro read
    cases read
  · refine List.forall_mem_cons.mpr ⟨?_, fun other member =>
      held.rounds.handed other (List.mem_cons_of_mem _ member)⟩
    intro row listed
    cases listed

theorem AttemptsHeld.read (held : transport.AttemptsHeld (phase :: others)) (empty : phase.handed = []) (won : List ResultRow)
    (rows : ∀ row ∈ won, row ∈ transport.results.stored) :
    AttemptsHeld transport ({ phase with read := true, won } :: others) := by
  refine ⟨held.tasks, held.results, ⟨?_, ?_, ?_, ?_⟩⟩
  · refine List.forall_mem_cons.mpr ⟨held.rounds.drawn phase List.mem_cons_self, ?_⟩
    exact fun other member => held.rounds.drawn other (List.mem_cons_of_mem _ member)
  · have apart := List.pairwise_cons.mp held.rounds.apart
    exact List.pairwise_cons.mpr ⟨apart.1, apart.2⟩
  · refine List.forall_mem_cons.mpr ⟨?_, fun other member =>
      held.rounds.own other (List.mem_cons_of_mem _ member)⟩
    intro _ holder _ id row found _ other listed here
    -- A table has one row for each step.
    obtain ⟨key, located⟩ := (transport.results.mem_stored other).mp (rows other listed)
    have same : key = id := (held.results.keyed key other located).symm.trans here
    subst same
    cases located.symm.trans found
    rfl
  · refine List.forall_mem_cons.mpr ⟨?_, fun other member =>
      held.rounds.handed other (List.mem_cons_of_mem _ member)⟩
    intro row listed
    rw [show ({ phase with read := true, won } : RoundPhase).handed = [] from empty] at listed
    cases listed

theorem AttemptsHeld.handOver (held : transport.AttemptsHeld (phase :: others)) {row : ResultRow}
    (won : row ∈ phase.won) :
    AttemptsHeld (transport.exec (.handleResult row)).1
      ({ phase with handed := row :: phase.handed } :: others) := by
  have more : ∀ entry ∈ transport.ledger.handed,
      entry ∈ (row.serial, row.carries) :: transport.ledger.handed :=
    fun _ => List.mem_cons_of_mem _
  refine ⟨held.tasks.same rfl rfl rfl rfl, ⟨held.results.keyed, held.results.written, ?_,
    held.results.stamped⟩, ⟨?_, ?_, ?_, ?_⟩⟩
  · exact fun entry member => (held.results.waiting entry member).imp (more entry) id
  · refine List.forall_mem_cons.mpr ⟨held.rounds.drawn phase List.mem_cons_self, ?_⟩
    exact fun other member => held.rounds.drawn other (List.mem_cons_of_mem _ member)
  · have apart := List.pairwise_cons.mp held.rounds.apart
    exact List.pairwise_cons.mpr ⟨apart.1, apart.2⟩
  · refine List.forall_mem_cons.mpr ⟨held.rounds.own phase List.mem_cons_self, ?_⟩
    exact fun other member => held.rounds.own other (List.mem_cons_of_mem _ member)
  · refine List.forall_mem_cons.mpr ⟨List.forall_mem_cons.mpr ⟨⟨won, List.mem_cons_self⟩, ?_⟩, ?_⟩
    · intro other listed
      have before := held.rounds.handed phase List.mem_cons_self other listed
      exact ⟨before.1, more _ before.2⟩
    · intro path member other listed
      have before := held.rounds.handed path (List.mem_cons_of_mem _ member) other listed
      exact ⟨before.1, more _ before.2⟩

theorem AttemptsHeld.deleteOne (held : transport.AttemptsHeld (phase :: others))
    (own : phase.token = some token) (read : phase.read = true) {id : String}
    (handed : ∃ row ∈ phase.handed, row.stepId = id) :
    AttemptsHeld (deleteResult token transport id) (phase :: others) := by
  unfold deleteResult
  split
  · exact held
  · rename_i row found
    split
    · rename_i holds
      have holder : row.claimedBy = some token := beq_iff_eq.mp holds
      obtain ⟨given, listed, here⟩ := handed
      obtain ⟨won, entered⟩ := held.rounds.handed phase List.mem_cons_self given listed
      have same := held.rounds.own phase List.mem_cons_self read token own id row found holder given
        won here
      have kept : ∀ other later, (transport.results.erase id).get other = some later →
          transport.results.get other = some later := by
        intro other later located
        rw [Table.get_erase] at located
        split at located
        · cases located
        · exact located
      refine ⟨held.tasks.same rfl rfl rfl rfl, ⟨?_, held.results.written, ?_, ?_⟩,
        ⟨held.rounds.drawn, held.rounds.apart, ?_, held.rounds.handed⟩⟩
      · exact fun other later located => held.results.keyed other later (kept other later located)
      · intro entry member
        rcases held.results.waiting entry member with done | ⟨later, there, entry_own⟩
        · exact .inl done
        · by_cases equal : id = later.stepId
          · -- The deleted row is the one that waited, and it was handed over.
            subst equal
            cases found.symm.trans there
            exact .inl (entry_own ▸ same ▸ entered)
          · exact .inr ⟨later, (Table.get_erase_ne _ equal).trans there, entry_own⟩
      · exact fun other later located => held.results.stamped other later (kept other later located)
      · intro path member read holder own other later located
        exact held.rounds.own path member read holder own other later (kept other later located)
    · exact held

theorem AttemptsHeld.delete (held : transport.AttemptsHeld (phase :: others))
    (own : phase.token = some token) (read : phase.read = true) {ids : List String}
    (handed : ∀ id ∈ ids, ∃ row ∈ phase.handed, row.stepId = id) :
    AttemptsHeld (ids.foldl (deleteResult token) transport) (phase :: others) := by
  induction ids generalizing transport with
  | nil => exact held
  | cons id rest ih =>
    refine ih (held.deleteOne own read (handed id List.mem_cons_self)) ?_
    exact fun other member => handed other (List.mem_cons_of_mem _ member)

theorem AttemptsHeld.perm {before later : List RoundPhase} (order : before.Perm later)
    (held : transport.AttemptsHeld before) : transport.AttemptsHeld later := by
  have symmetric : ∀ {phase other : RoundPhase}, (∀ token ∈ phase.token, token ∉ other.token) →
      ∀ token ∈ other.token, token ∉ phase.token :=
    fun apart token there here => apart token here there
  refine ⟨held.tasks, held.results, ⟨?_, ?_, ?_, ?_⟩⟩
  · exact fun phase member => held.rounds.drawn phase (order.mem_iff.mpr member)
  · exact order.pairwise held.rounds.apart symmetric
  · exact fun phase member => held.rounds.own phase (order.mem_iff.mpr member)
  · exact fun phase member => held.rounds.handed phase (order.mem_iff.mpr member)

/-- A statement that is made as it may be keeps everything in order. -/
theorem AttemptsHeld.exec (held : transport.AttemptsHeld (phase :: others)) (op : TransportOp)
    (may : phase.may op) (spaced : spacedAttempts.step transport phase others op) :
    AttemptsHeld (transport.exec op).1 (phase.after op (transport.exec op).2 :: others) := by
  cases op with
  | now | claimedTasks => exact held
  | candidates channel query => cases channel <;> exact held
  | hrtime instanceId => exact held.draw instanceId
  | hasTaskColumn | freeSlots | closing | runHandler =>
    exact held.withTasks (held.tasks.same rfl rfl rfl rfl) rfl rfl rfl rfl rfl
  | insertTasks namespaceValue withPriority createdAt tasks =>
    exact held.insertTasks namespaceValue withPriority createdAt tasks
  | claimFresh channel namespaceValue ids token stampedAt =>
    cases channel with
    | tasks =>
      refine held.updateTasks _ fun row => ?_
      unfold ClaimRow.claimedFresh
      split <;> exact ⟨rfl, rfl, rfl⟩
    | results =>
      refine held.claimResults may.1 may.2 _ fun row => ?_
      unfold ClaimRow.claimedFresh
      split
      · exact .inr ⟨stampedAt, rfl⟩
      · exact .inl rfl
  | claimLapsed channel query ids token stampedAt countReclaims =>
    cases channel with
    | tasks =>
      have counts : countReclaims = true := spaced
      subst counts
      exact held.withTasks (held.tasks.takeOver query ids token stampedAt) rfl rfl rfl rfl rfl
    | results =>
      refine held.claimResults may.1 may.2 _ fun row => ?_
      unfold ClaimRow.claimedLapsed
      split
      · exact .inr ⟨stampedAt, rfl⟩
      · exact .inl rfl
  | claimedResults token stampedAt =>
    exact held.read may.2.2 _ fun row member => (List.mem_filter.mp member).1
  | unclaimTasks token ids =>
    refine held.updateTasks _ fun row => ?_
    split <;> exact ⟨rfl, rfl, rfl⟩
  | restampTask stepId token stampedAt =>
    simp only [Transport.exec, RoundPhase.after]
    split
    · exact held
    · rename_i row found
      split
      · exact held.restamp found stampedAt
      · exact held
  | settleTask stepId token result namespaceValue createdAt =>
    exact held.settle stepId token result namespaceValue createdAt spaced
  | renew channel tokens stampedAt =>
    cases channel with
    | tasks =>
      refine held.updateTasks _ fun row => ?_
      unfold ClaimRow.renewed
      split <;> exact ⟨rfl, rfl, rfl⟩
    | results =>
      refine held.releaseResults _ fun row => ?_
      unfold ClaimRow.renewed
      split <;> exact ⟨rfl, rfl, fun _ claimed => claimed⟩
  | handBack channel tokens =>
    cases channel with
    | tasks =>
      refine held.updateTasks _ fun row => ?_
      unfold ClaimRow.handedBack
      split <;> exact ⟨rfl, rfl, rfl⟩
    | results =>
      refine held.releaseResults _ fun row => ?_
      unfold ClaimRow.handedBack
      split
      · refine ⟨rfl, rfl, fun token claimed => ?_⟩
        cases claimed
      · exact ⟨rfl, rfl, fun _ claimed => claimed⟩
  | handleResult row => exact held.handOver may
  | deleteResults token ids => exact held.delete may.1 may.2.1 may.2.2

end Transport

end Durable
