import Durable.Proofs.Engine.TerminalImmutability
import Durable.Proofs.Lease.Releases

/-! Who ends the lease of a run, and which turns write it after another instance has taken it. -/

namespace Durable

open Interleaving

section Holder

variable {store : Store} {runId owner : String}

theorem leaseHolder_eq_some : store.leaseHolder runId = some owner ↔
    ∃ run, store.runs.get runId = some run ∧ run.lockedBy = some owner := by
  simp [Store.leaseHolder, Option.bind_eq_some_iff]

theorem leaseHolder_set {row : WorkflowRun} {written : String} {reads : Store}
    (runs : reads.runs = store.runs.set written row)
    (keeps : written = runId → row.lockedBy = some owner)
    (held : store.leaseHolder runId = some owner) : reads.leaseHolder runId = some owner := by
  obtain ⟨run, stored, holder⟩ := leaseHolder_eq_some.mp held
  rw [leaseHolder_eq_some, runs]
  by_cases same : written = runId
  · subst same
    exact ⟨row, by simp, keeps rfl⟩
  · exact ⟨run, by rw [Table.get_set_ne _ _ same]; exact stored, holder⟩

/-- A store operation that leaves the leases leaves their holders. -/
theorem exec_leaseHolder {op : StoreOp} (leaves : LeavesLease op)
    (held : store.leaseHolder runId = some owner) :
    (store.exec op).1.leaseHolder runId = some owner := by
  obtain ⟨run, stored, holder⟩ := leaseHolder_eq_some.mp held
  -- The row a patch makes has the holder of the row it is made of.
  have patched : ∀ {written row patch}, patch.lockedBy = none →
      store.runs.get written = some row → written = runId →
        (row.patched patch).lockedBy = some owner := by
    intro written row patch unlocked found same
    subst same
    rw [stored, Option.some.injEq] at found
    subst found
    simp [WorkflowRun.patched, unlocked, holder]
  cases op with
  | updateRun written patch =>
    simp only [Store.exec]
    cases found : store.runs.get written with
    | none => exact held
    | some row => exact leaseHolder_set rfl (patched leaves found) held
  | updateRunIf written expected patch =>
    simp only [Store.exec]
    cases found : store.runs.get written with
    | none => exact held
    | some row =>
      dsimp only
      split
      · exact leaseHolder_set rfl (patched leaves found) held
      · exact held
  | createRun row =>
    simp only [Store.exec]
    cases found : store.runs.get row.id with
    | some _ => exact held
    | none =>
      refine leaseHolder_set rfl (fun same => ?_) held
      rw [same, stored] at found
      cases found
  | registerChildWaits entries =>
    obtain ⟨waiters, checkpoints, registered⟩ := store.exec_registerChildWaits_frame entries
    rw [registered]
    exact held
  | settleCheckpointsIfPending settlements =>
    obtain ⟨checkpoints, settled⟩ := Store.settleEach_frame settlements store
    simp only [Store.exec, settled]
    exact held
  | _ =>
    simp only [Store.exec]
    first
    | exact held
    | (split <;> first | exact held | (split <;> exact held))

theorem tryLockRun_leaseHolder (other taker : String) (leaseUntilMs nowMs : Nat)
    (held : store.leaseHolder runId = some owner) :
    (store.tryLockRun other taker leaseUntilMs nowMs).1.leaseHolder runId = some owner ∨
      store.leaseExpired runId nowMs = true := by
  unfold Store.tryLockRun
  cases found : store.runs.get other with
  | none => exact .inl held
  | some row =>
    dsimp only
    cases free : row.leaseFree nowMs with
    | false => exact .inl (by simpa using held)
    | true =>
      simp only [if_true]
      by_cases same : other = runId
      · subst same
        exact .inr (by simp [Store.leaseExpired, found, free])
      · exact .inl (leaseHolder_set rfl (fun run => absurd run same) held)

theorem renewRunLock_leaseHolder (other renewer : String) (leaseUntilMs : Nat)
    (held : store.leaseHolder runId = some owner) :
    (store.renewRunLock other renewer leaseUntilMs).1.leaseHolder runId = some owner := by
  obtain ⟨run, stored, holder⟩ := leaseHolder_eq_some.mp held
  unfold Store.renewRunLock
  cases found : store.runs.get other with
  | none => exact held
  | some row =>
    dsimp only
    split
    · refine leaseHolder_set rfl (fun same => ?_) held
      subst same
      rw [stored, Option.some.injEq] at found
      subst found
      exact holder
    · exact held

theorem releaseRunLock_leaseHolder (other releaser : String)
    (held : store.leaseHolder runId = some owner) :
    (store.releaseRunLock other (some releaser)).leaseHolder runId = some owner ∨
      releaser = owner := by
  obtain ⟨run, stored, holder⟩ := leaseHolder_eq_some.mp held
  unfold Store.releaseRunLock
  cases found : store.runs.get other with
  | none => exact .inl held
  | some row =>
    dsimp only
    split
    · rename_i own
      by_cases same : other = runId
      · subst same
        rw [stored, Option.some.injEq] at found
        subst found
        refine .inr (Eq.symm ?_)
        simpa [holder] using own
      · exact .inl (leaseHolder_set rfl (fun run => absurd run same) held)
    · exact .inl held

theorem releaseUnlessWake_leaseHolder (other releaser : String)
    (held : store.leaseHolder runId = some owner) :
    (store.releaseRunLockUnlessWakeRequested other releaser).1.leaseHolder runId = some owner ∨
      releaser = owner := by
  unfold Store.releaseRunLockUnlessWakeRequested
  cases store.runs.get other with
  | none => exact .inl held
  | some row =>
    dsimp only
    split
    · split
      · exact .inl held
      · exact releaseRunLock_leaseHolder other releaser held
    · exact .inl held

theorem releaseAnyLock_leaseHolder (other : String)
    (held : store.leaseHolder runId = some owner) :
    (store.releaseRunLock other none).leaseHolder runId =
      if other = runId then none else some owner := by
  obtain ⟨run, stored, holder⟩ := leaseHolder_eq_some.mp held
  unfold Store.releaseRunLock
  by_cases same : other = runId
  · subst same
    simp [stored, Store.leaseHolder]
  · simp only [same, if_false]
    cases found : store.runs.get other with
    | none => exact held
    | some row =>
      exact leaseHolder_set rfl (fun run => absurd run same) held

end Holder

/--
The lease of a run is ended by its owner or has expired, and no turn writes the run after another
instance has taken the lease since the turn came to hold it.
-/
structure LeaseOwned (log : List LeaseEvent) : Prop where
  ends : ∀ owner actor expired, LeaseEvent.ended owner actor expired ∈ log →
    actor.owner = owner ∨ expired = true
  /-- A turn writes while no other instance has taken its lease. -/
  writes : AtEach LeaseEvent.isWrote
    (fun event earlier => leaseTaken event.actor earlier = false) log

def PassedWell (log : List LeaseEvent) : Prop :=
  AtEach LeaseEvent.isPassed
    (fun event earlier => leaseTaken event.actor (event :: earlier) = false) log

section Conditions

variable (board : LeaseBoard) (op : LeaseOp)

/-- A release in nobody's name finds no lease of another owner, unless it has expired. -/
def safeRelease : Bool :=
  match op.call with
  | .releaseRunLock runId none =>
    runId != board.runId || board.store.leaseExpired board.runId board.store.clock ||
      (board.store.leaseHolder board.runId).all (· == op.actor.owner)
  | _ => true

/--
A turn writes the run while no other instance has taken its lease since the turn last found the
lease not lost; a turn that writes without a look at it, since it came to hold the lease.
-/
def timelyWrite : Bool :=
  match op.call with
  | .store asked =>
    !(op.actor.turn.isSome && asked.wroteRun board.runId (board.store.exec asked).2) ||
      !takenSincePassed op.actor board.log
  | _ => true

/-- A turn looks for the loss of its lease only after a renewal has noticed it. -/
def timelyFence : Bool :=
  match op.call with
  | .leaseLostRuns runId =>
    runId != board.runId || !leaseTaken op.actor board.log ||
      (board.remembered op.actor.instanceId board.runId).leaseLost
  | _ => true

def keepsLease : Bool := safeRelease board op && timelyWrite board op

/-- What the operations of a run have to be for the lease to stay owned along it. -/
def timely : Bool := keepsLease board op && timelyFence board op

end Conditions

section Step

variable {board : LeaseBoard} {op : LeaseOp}

/-- What an operation that releases in its own name or in nobody's ends is ended by its owner. -/
theorem endings_owned_iff (own : OwnRelease op) :
    (∀ owner actor expired, LeaseEvent.ended owner actor expired ∈
        board.endings op (board.perform op.actor op.call).1.store →
          actor.owner = owner ∨ expired = true) ↔ safeRelease board op = true := by
  obtain ⟨actor, call⟩ := op
  unfold LeaseBoard.endings
  cases held : board.store.leaseHolder board.runId with
  | none =>
    -- Without a lease, nothing ends.
    refine iff_of_true (by simp) ?_
    unfold safeRelease
    split
    · simp [held]
    · rfl
  | some owner =>
    -- A lease that is kept, is its caller's own or has expired is no concern.
    have unconcerned : (board.perform actor call).1.store.leaseHolder board.runId = some owner ∨
        actor.owner = owner ∨ board.store.leaseExpired board.runId (board.time call) = true →
          ∀ ended by' expired, LeaseEvent.ended ended by' expired ∈
            (if (board.perform actor call).1.store.leaseHolder board.runId = some owner then []
              else [.ended owner actor (board.store.leaseExpired board.runId (board.time call))]) →
            by'.owner = ended ∨ expired = true := by
      intro fine ended by' expired listed
      split at listed
      · cases listed
      · rename_i changed
        cases List.mem_singleton.mp listed
        rcases fine with kept | fine
        · exact absurd kept changed
        · exact fine
    cases call with
    | store asked => exact iff_of_true (unconcerned (.inl (exec_leaseHolder own held))) rfl
    | readHolder runId => exact iff_of_true (unconcerned (.inl held)) rfl
    | tryLockRun runId leaseUntilMs nowMs =>
      refine iff_of_true (unconcerned ?_) rfl
      rcases tryLockRun_leaseHolder runId actor.owner leaseUntilMs nowMs held with kept | expired
      · exact .inl kept
      · exact .inr (.inr expired)
    | renewRunLock runId leaseUntilMs =>
      exact iff_of_true (unconcerned (.inl (renewRunLock_leaseHolder _ _ _ held))) rfl
    | releaseRunLockUnlessWakeRequested runId =>
      refine iff_of_true (unconcerned ?_) rfl
      rcases releaseUnlessWake_leaseHolder runId actor.owner held with kept | own
      · exact .inl kept
      · exact .inr (.inl own)
    | leaseLostRuns runId => exact iff_of_true (unconcerned (.inl held)) rfl
    | memory runId => exact iff_of_true (unconcerned (.inl held)) rfl
    | note runId noted => exact iff_of_true (unconcerned (.inl held)) rfl
    | releaseRunLock runId named =>
      cases named with
      | some releaser =>
        -- The caller releases in its own name.
        have self : releaser = actor.owner := by simpa [OwnRelease] using own
        subst self
        refine iff_of_true (unconcerned ?_) rfl
        rcases releaseRunLock_leaseHolder runId actor.owner held with kept | own
        · exact .inl kept
        · exact .inr (.inl own)
      | none =>
        have after := releaseAnyLock_leaseHolder runId held
        simp only [LeaseBoard.perform, after, safeRelease, held, LeaseBoard.time]
        by_cases same : runId = board.runId
        · simp only [same, if_true, reduceCtorEq, if_false, bne_self_eq_false, Bool.false_or,
            Bool.or_eq_true, Option.all_some, beq_iff_eq]
          constructor
          · intro every
            rcases every owner actor _ (List.mem_singleton_self _) with own | expired
            · exact .inr own.symm
            · exact .inl expired
          · intro fine ended by' expired listed
            cases List.mem_singleton.mp listed
            exact fine.elim .inr fun own => .inl own.symm
        · simp [same]

theorem takenSincePassed_eq {log : List LeaseEvent} (passed : PassedWell log)
    (turn : LeaseActor) : takenSincePassed turn log = leaseTaken turn log := by
  refine since_marked ?_
  intro event earlier within marked
  -- The turn's own look is one of those at which the lease was not lost.
  cases event with
  | passed actor =>
    have same : actor = turn := by simpa [LeaseEvent.passes] using marked
    subst same
    exact passed _ earlier within rfl
  | _ => cases marked

theorem exec_log : (board.exec op).1.log =
    board.notice op.actor op.call (board.perform op.actor op.call).2 ++
      board.endings op (board.perform op.actor op.call).1.store ++
        (board.perform op.actor op.call).1.log := by
  have same : (board.perform op.actor op.call).1.log = board.log := by
    cases op.call <;> rfl
  rw [same]
  rfl

theorem endings_cases (after : Store) : board.endings op after = [] ∨
    ∃ owner expired, board.endings op after = [.ended owner op.actor expired] := by
  unfold LeaseBoard.endings
  split
  · exact .inl rfl
  · split
    · exact .inl rfl
    · exact .inr ⟨_, _, rfl⟩

theorem notice_cases : board.notice op.actor op.call (board.perform op.actor op.call).2 = [] ∨
    ∃ event, board.notice op.actor op.call (board.perform op.actor op.call).2 = [event] ∧
      ∀ owner actor expired, event ≠ .ended owner actor expired := by
  obtain ⟨actor, call⟩ := op
  have oneAtMost : ∀ (condition : Bool) event,
      (∀ owner actor expired, event ≠ LeaseEvent.ended owner actor expired) →
        (if condition = true then [event] else []) = [] ∨ ∃ other,
          (if condition = true then [event] else []) = [other] ∧
            ∀ owner actor expired, other ≠ .ended owner actor expired := by
    intro condition event different
    cases condition with
    | false => exact .inl rfl
    | true => exact .inr ⟨event, rfl, different⟩
  cases call with
  | store asked => exact oneAtMost _ (.wrote actor) (by simp)
  | readHolder runId => exact oneAtMost _ (.proved actor) (by simp)
  | tryLockRun runId leaseUntilMs nowMs => exact oneAtMost _ (.took actor) (by simp)
  | renewRunLock runId leaseUntilMs => exact oneAtMost _ (.proved actor) (by simp)
  | leaseLostRuns runId => exact oneAtMost _ (.passed actor) (by simp)
  | releaseRunLock runId owner => exact .inl rfl
  | releaseRunLockUnlessWakeRequested runId => exact .inl rfl
  | memory runId => exact .inl rfl
  | note runId noted => exact .inl rfl

theorem noticed_of_eq {condition : Bool} {event other : LeaseEvent}
    (one : (if condition = true then [event] else []) = [other]) :
    condition = true ∧ event = other := by
  cases condition with
  | false => cases one
  | true =>
    cases one
    exact ⟨rfl, rfl⟩

variable (board op) in
theorem leaseTaken_endings (turn : LeaseActor) (after : Store) (log : List LeaseEvent) :
    leaseTaken turn (board.endings op after ++ log) = leaseTaken turn log := by
  rcases endings_cases after with none | ⟨owner, expired, one⟩
  · rw [none, List.nil_append]
  · rw [one]
    exact since_of_neither rfl rfl log

variable (board op) in
theorem atEach_endings {marks : LeaseEvent → Bool} {holds : LeaseEvent → List LeaseEvent → Prop}
    (unmarked : ∀ owner actor expired, marks (.ended owner actor expired) = false)
    (after : Store) (log : List LeaseEvent) :
    AtEach marks holds (board.endings op after ++ log) ↔ AtEach marks holds log := by
  rcases endings_cases after with none | ⟨owner, expired, one⟩
  · rw [none, List.nil_append]
  · rw [one, List.singleton_append, atEach_cons]
    simp [unmarked]

theorem notice_timely_iff (passed : PassedWell board.log) :
    (∀ event ∈ board.notice op.actor op.call (board.perform op.actor op.call).2,
        event.isWrote = true → leaseTaken event.actor board.log = false) ↔
      timelyWrite board op = true := by
  obtain ⟨actor, call⟩ := op
  -- Whatever is noticed of another operation is no write.
  have noWrite : ∀ (condition : Bool) (event : LeaseEvent), event.isWrote = false →
      ∀ listed ∈ (if condition = true then [event] else []), LeaseEvent.isWrote listed = true →
        leaseTaken listed.actor board.log = false := by
    intro condition event other listed inside wrote
    cases condition with
    | false => cases inside
    | true =>
      cases List.mem_singleton.mp inside
      rw [other] at wrote
      cases wrote
  cases call with
  | store asked =>
    have timely : ∀ condition : Bool,
        (∀ event ∈ (if condition = true then [LeaseEvent.wrote actor] else []),
          LeaseEvent.isWrote event = true → leaseTaken event.actor board.log = false) ↔
            (!condition || !leaseTaken actor board.log) = true := by
      intro condition
      cases condition with
      | false => simp
      | true => simp [LeaseEvent.isWrote, LeaseEvent.actor]
    simp only [timelyWrite, takenSincePassed_eq passed]
    exact timely _
  | readHolder runId => exact iff_of_true (noWrite _ (.proved actor) rfl) rfl
  | tryLockRun runId leaseUntilMs nowMs => exact iff_of_true (noWrite _ (.took actor) rfl) rfl
  | renewRunLock runId leaseUntilMs => exact iff_of_true (noWrite _ (.proved actor) rfl) rfl
  | leaseLostRuns runId => exact iff_of_true (noWrite _ (.passed actor) rfl) rfl
  | releaseRunLock runId owner => exact iff_of_true (by simp [LeaseBoard.notice]) rfl
  | releaseRunLockUnlessWakeRequested runId =>
    exact iff_of_true (by simp [LeaseBoard.notice]) rfl
  | memory runId => exact iff_of_true (by simp [LeaseBoard.notice]) rfl
  | note runId noted => exact iff_of_true (by simp [LeaseBoard.notice]) rfl

/-- The lease stays owned over an operation just when the operation keeps it. -/
theorem exec_owned_iff (own : OwnRelease op) (owned : LeaseOwned board.log)
    (passed : PassedWell board.log) :
    LeaseOwned (board.exec op).1.log ↔ keepsLease board op = true := by
  have logged : (board.perform op.actor op.call).1.log = board.log := by
    cases op.call <;> rfl
  rw [exec_log, logged, keepsLease, Bool.and_eq_true, ← endings_owned_iff own,
    ← notice_timely_iff passed]
  have taken := fun turn => leaseTaken_endings board op turn
    (board.perform op.actor op.call).1.store board.log
  have before := (atEach_endings board op (fun _ _ _ => rfl)
    (board.perform op.actor op.call).1.store board.log).mpr owned.writes
  rcases notice_cases with none | ⟨event, one, other⟩
  · rw [none, List.nil_append]
    constructor
    · intro after
      exact ⟨fun owner actor expired listed =>
        after.ends owner actor expired (List.mem_append_left _ listed), by simp⟩
    · intro fine
      refine ⟨?_, before⟩
      intro owner actor expired listed
      rcases List.mem_append.mp listed with new | old
      · exact fine.1 owner actor expired new
      · exact owned.ends owner actor expired old
  · rw [one, List.append_assoc, List.singleton_append]
    constructor
    · intro after
      refine ⟨?_, ?_⟩
      · intro owner actor expired listed
        exact after.ends owner actor expired
          (List.mem_cons_of_mem _ (List.mem_append_left _ listed))
      · intro noticed inside wrote
        cases List.mem_singleton.mp inside
        rw [← taken]
        exact (atEach_cons.mp after.writes).1 wrote
    · intro fine
      refine ⟨?_, atEach_cons.mpr ⟨fun wrote => ?_, before⟩⟩
      · intro owner actor expired listed
        rcases List.mem_cons.mp listed with same | listed
        · exact absurd same.symm (other owner actor expired)
        · rcases List.mem_append.mp listed with new | old
          · exact fine.1 owner actor expired new
          · exact owned.ends owner actor expired old
      · rw [taken]
        exact fine.2 event (List.mem_singleton_self _) wrote

/-- A turn that looks for the loss of its lease only once it was noticed has not lost it. -/
theorem exec_passedWell (passed : PassedWell board.log) (looks : timelyFence board op = true) :
    PassedWell (board.exec op).1.log := by
  have logged : (board.perform op.actor op.call).1.log = board.log := by
    cases op.call <;> rfl
  rw [exec_log, logged]
  have taken := fun turn => leaseTaken_endings board op turn
    (board.perform op.actor op.call).1.store board.log
  have before : PassedWell (board.endings op (board.perform op.actor op.call).1.store ++
      board.log) :=
    (atEach_endings board op (fun _ _ _ => rfl) _ _).mpr passed
  rcases notice_cases with none | ⟨event, one, other⟩
  · rw [none, List.nil_append]
    exact before
  · rw [one, List.append_assoc, List.singleton_append]
    refine atEach_cons.mpr ⟨fun marked => ?_, before⟩
    obtain ⟨actor, call⟩ := op
    -- Only a look that answers that nothing was lost is noticed as one.
    cases event with
    | passed looking =>
      have neither : leaseTaken looking (.passed looking ::
          (board.endings ⟨actor, call⟩ (board.perform actor call).1.store ++ board.log)) =
          leaseTaken looking board.log :=
        (since_of_neither rfl rfl _).trans (taken looking)
      show leaseTaken looking _ = false
      rw [neither]
      cases call with
      | leaseLostRuns runId =>
        obtain ⟨unflagged, same⟩ := noticed_of_eq one
        cases same
        simp only [LeaseBoard.perform, Bool.and_eq_true, beq_iff_eq, Bool.not_eq_true'] at unflagged
        obtain ⟨same, unflagged⟩ := unflagged
        subst same
        simpa [timelyFence, unflagged] using looks
      | store asked => cases (noticed_of_eq one).2
      | readHolder runId => cases (noticed_of_eq one).2
      | tryLockRun runId leaseUntilMs nowMs => cases (noticed_of_eq one).2
      | renewRunLock runId leaseUntilMs => cases (noticed_of_eq one).2
      | releaseRunLock runId owner => cases one
      | releaseRunLockUnlessWakeRequested runId => cases one
      | memory runId => cases one
      | note runId noted => cases one
    | _ => cases marked

end Step

section Runs

/-- Paths at work on the runs of a store, of which one run's history is kept. -/
def contending (runId : String) (store : Store) (memory : Table (String × String) TurnMemory)
    (paths : List LeasePath) : Config LeaseBoard (LeaseProgram Unit) where
  shared := { runId, store, memory }
  pool := paths.zipIdx.map fun path => path.1.program path.2

/-- Paths over the store, while time passes. -/
abbrev leases : System LeaseBoard LeaseOp (LeaseProgram Unit) Nat LeaseOp.Answer :=
  disturbed LeaseBoard.exec fun elapsed board => board.drift elapsed

/-- Every operation of a move is of a kind, where that can be decided. -/
abbrev Keeping (holds : LeaseBoard → LeaseOp → Bool) :
    Config LeaseBoard (LeaseProgram Unit) → Move Nat → Prop :=
  Performs fun board op => holds board op = true

theorem contending_owned {runId : String} {store : Store}
    {memory : Table (String × String) TurnMemory} {paths : List LeasePath}
    {final : Config LeaseBoard (LeaseProgram Unit)}
    (reached : leases.Reaches (Keeping timely) (contending runId store memory paths) final) :
    (LeaseOwned final.shared.log ∧ PassedWell final.shared.log) ∧
      ∀ program ∈ final.pool, program.Uses OwnRelease := by
  have step : ∀ (board : LeaseBoard) (op : LeaseOp), OwnRelease op → timely board op = true →
      LeaseOwned board.log ∧ PassedWell board.log →
        LeaseOwned (board.exec op).1.log ∧ PassedWell (board.exec op).1.log := by
    intro board op own kept before
    have both : keepsLease board op = true ∧ timelyFence board op = true := by
      simpa [timely] using kept
    exact ⟨(exec_owned_iff own before.1 before.2).mpr both.1, exec_passedWell before.2 both.2⟩
  have initially : LeaseOwned [] ∧ PassedWell [] := by
    refine ⟨⟨?_, atEach_nil⟩, atEach_nil⟩
    intro owner actor expired listed
    cases listed
  have uses : ∀ program ∈ (contending runId store memory paths).pool,
      program.Uses OwnRelease := by
    intro program listed
    obtain ⟨path, _, rfl⟩ := List.mem_map.mp listed
    exact path.1.uses_ownRelease path.2
  have drifted : ∀ (board : LeaseBoard) (elapsed : Nat),
      LeaseOwned board.log ∧ PassedWell board.log →
        LeaseOwned (board.drift elapsed).log ∧ PassedWell (board.drift elapsed).log :=
    fun _ _ before => before
  exact disturbed_invariant step drifted uses initially reached

/--
Where every release in nobody's name finds no unexpired lease of another owner, every turn that
looks finds the loss of its lease noticed, and every turn that writes does so before another
instance has taken the lease since that look, the lease is owned; and the next operation leaves
it owned just when its release or its write is of that kind.
-/
theorem lease_owned_iff (runId : String) (store : Store)
    (memory : Table (String × String) TurnMemory) (paths : List LeasePath)
    (final : Config LeaseBoard (LeaseProgram Unit))
    (reached : leases.Reaches (Keeping timely) (contending runId store memory paths) final) :
    LeaseOwned final.shared.log ∧
      ∀ move next, leases.fire final move = some next →
        (LeaseOwned next.shared.log ↔ Keeping keepsLease final move) := by
  obtain ⟨⟨owned, passed⟩, uses⟩ := contending_owned reached
  refine ⟨owned, ?_⟩
  intro move next fired
  rcases disturbed_cases fired with ⟨index, op, rest, rfl, located, rfl⟩ | ⟨elapsed, rfl, rfl⟩
  · have own := (uses _ (List.mem_of_getElem? located)).1
    have performs : Keeping keepsLease final (.step index) ↔
        keepsLease final.shared op = true := performs_step_iff located
    exact (exec_owned_iff own owned passed).trans performs.symm
  · exact iff_of_true owned (performs_drift _ _ _)

end Runs

section Takeover

def dueRun : WorkflowRun where
  id := "run"
  workflow := "order"
  status := .suspended

def podNamed (name : String) : EngineInstance where
  instanceId := name
  leaseMs := 10
  bootedAt := 0
  settings := {}

def blockedTurn : TurnWorkload := .inProcess { body := .nothing (.blocked "no worker") }

def twoTurns : Config LeaseBoard (LeaseProgram Unit) :=
  contending "run" { (default : Store) with runs := Table.empty.set "run" dueRun } .empty
    [.resume (podNamed "a") blockedTurn 0 false false "run",
      .resume (podNamed "b") blockedTurn 0 false false "run"]

def inTurns : List (Move Nat) :=
  List.replicate 8 (.step 0) ++ List.replicate 8 (.step 1)

/-- The first turn stalls past its lease, and parks the run once the second has taken it over. -/
def parkedByTheFirst : List (Move Nat) :=
  List.replicate 4 (.step 0) ++ [.drift 20] ++ List.replicate 4 (.step 1) ++
    List.replicate 3 (.step 0)

/-- One turn after the other, the lease is owned. -/
theorem lease_owned_in_turns :
    leases.checkRun (performsCheck timely) twoTurns inTurns = true ∧
      ∃ final, leases.run twoTurns inTurns = some final ∧ LeaseOwned final.shared.log := by
  have kept : leases.checkRun (performsCheck timely) twoTurns inTurns = true := by
    decide +kernel
  have ran : (leases.run twoTurns inTurns).isSome = true := by
    decide +kernel
  have met := System.runMeets_of_check (fun _ _ checked => performs_of_check checked) inTurns kept
  have reached := System.reaches_of_run_meets inTurns (Option.some_get ran).symm met
  exact ⟨kept, _, (Option.some_get ran).symm, (lease_owned_iff _ _ _ _ _ reached).1⟩

theorem parkedByTheFirst_runs : (leases.run twoTurns parkedByTheFirst).isSome = true := by
  decide +kernel

/-- A turn that parks its run blocked after a takeover clears the lease of the new owner. -/
theorem stale_park_clears_lease :
    ¬ ∀ (runId : String) (store : Store) (memory : Table (String × String) TurnMemory)
      (paths : List LeasePath) (final : Config LeaseBoard (LeaseProgram Unit)),
      leases.Reaches System.anyMove (contending runId store memory paths) final →
        LeaseOwned final.shared.log := by
  intro owned
  have reached := System.reaches_get parkedByTheFirst parkedByTheFirst_runs
  have kept := (owned _ _ _ _ _ reached).ends "b" { instanceId := "a", turn := some 0 } false
    (by decide +kernel)
  revert kept
  decide

end Takeover

end Durable
