import Durable.Interleaving.Entries
import Durable.Transport.QueueJobs

/-! Every claim of a queue transport is renewed, finalized or handed back, as long as no pop gives
out a job whose earlier claim is still open, or comes after the open jobs were listed. -/

namespace Durable.QueueJobs

open Interleaving (Runs Table getElem?_concat_eq_some getElem?_modify_cases)

variable {state next : State} {index : Nat} {claim : Claim}

/-- Whether `close` has listed the open jobs. -/
def Closing.listed : Closing → Bool
  | .handingBack _ => true
  | .closed => true
  | _ => false

/-- A pop does not give out a job that is still open under an earlier claim, and comes before the
open jobs are listed to be handed back. -/
def Undisturbed (state : State) : Move → Prop
  | .pop _ job => state.openJobs.get job.id = none ∧ state.closing.listed = false
  | _ => True

/-- A claim whose handler or finalization is not over, and that was not handed back. -/
def Claim.held (claim : Claim) : Prop := claim.phase ≠ .over ∧ claim.handedBack = false

/-- A renewal round has been started, and is not under way. -/
def Finished (state : State) (round : Nat) : Prop :=
  round < state.rounds ∧ (state.renewal = none ∨ round + 1 < state.rounds)

/-- What the claims of a transport are promised in a state. -/
structure Accounted (state : State) : Prop where
  /-- A claim is finalized once when its handler is over, and not before. -/
  finalized : ∀ claim ∈ state.claims,
    claim.endings.length = if claim.phase = .over then 1 else 0
  /-- A claim that is held was renewed by every round since it was popped. -/
  renewed : ∀ claim ∈ state.claims, claim.held → ∀ round, claim.since ≤ round →
    Finished state round → round ∈ claim.renewals
  /-- A claim that is held is open under its own handle, for the next round and for `close`. -/
  isOpen : ∀ index claim, state.claims[index]? = some claim → claim.held →
    state.openJobs.get claim.job.id = some ⟨claim.queue, jobHandle claim.job, index⟩
  closed : state.closing = .closed → ∀ claim ∈ state.claims, ¬ claim.held

/-- What is known of a claim in every state. -/
structure GoodClaim (state : State) (index : Nat) (claim : Claim) : Prop where
  finalized : claim.endings.length = if claim.phase = .over then 1 else 0
  since : claim.since ≤ state.rounds
  before : state.closing.listed = false → claim.handedBack = false
  isOpen : claim.held →
    state.openJobs.get claim.job.id = some ⟨claim.queue, jobHandle claim.job, index⟩
  renewed : claim.held → ∀ round, claim.since ≤ round → round < state.rounds →
    round ∈ claim.renewals ∨ round + 1 = state.rounds ∧ ∃ groups, state.renewal = some groups ∧
      ∃ group ∈ groups, ∃ job ∈ group.2, job.claim = index
  listed : ∀ rest, state.closing = .handingBack rest → claim.held →
    ∃ job, (claim.job.id, job) ∈ rest
  closed : state.closing = .closed → ¬ claim.held

/-- What holds in every state that such runs reach. -/
structure Good (state : State) : Prop where
  distinct : state.openJobs.Distinct
  claims : ∀ index claim, state.claims[index]? = some claim → GoodClaim state index claim
  apart : ∀ (index other : Nat) (claim another : Claim), state.claims[index]? = some claim →
    state.claims[other]? = some another → claim.phase ≠ .over → another.phase ≠ .over →
    claim.job.id = another.job.id → index = other
  entries : ∀ rest, state.closing = .handingBack rest → ∀ entry ∈ rest, ∀ index claim,
    state.claims[index]? = some claim → claim.phase ≠ .over → claim.job.id = entry.1 →
    entry.2.claim = index
  idle : state.closing.listed = true → state.renewal = none

section Changes

theorem Good.rephase (good : Good state) (found : state.claims[index]? = some claim)
    (running : claim.phase ≠ .over) {phase : Phase} (still : phase ≠ .over) :
    Good (change state index fun claim => { claim with phase := phase }) where
  distinct := good.distinct
  claims other after listed := by
    rcases getElem?_modify_cases listed with ⟨rfl, before, alsoFound, rfl⟩ | ⟨-, same⟩
    · obtain rfl := Option.some.inj (found.symm.trans alsoFound)
      have known := good.claims other claim found
      have held : Claim.held { claim with phase := phase } → claim.held :=
        fun held => ⟨running, held.2⟩
      exact {
        finalized := by
          rw [if_neg still]
          have finalized := known.finalized
          rwa [if_neg running] at finalized
        since := known.since
        before := known.before
        isOpen := fun stays => known.isOpen (held stays)
        renewed := fun stays => known.renewed (held stays)
        listed := fun rest handing stays => known.listed rest handing (held stays)
        closed := fun closed stays => known.closed closed (held stays) }
    · have known := good.claims other after same
      exact { known with }
  apart first second claim another listed alsoListed runs alsoRuns same := by
    rcases getElem?_modify_cases listed with ⟨rfl, before, was, rfl⟩ | ⟨-, was⟩
    · obtain rfl := Option.some.inj (found.symm.trans was)
      rcases getElem?_modify_cases alsoListed with ⟨rfl, _⟩ | ⟨-, alsoWas⟩
      · rfl
      · exact good.apart _ _ _ _ was alsoWas running alsoRuns same
    · rcases getElem?_modify_cases alsoListed with ⟨rfl, before, alsoWas, rfl⟩ | ⟨-, alsoWas⟩
      · obtain rfl := Option.some.inj (found.symm.trans alsoWas)
        exact good.apart _ _ _ _ was alsoWas runs running same
      · exact good.apart _ _ _ _ was alsoWas runs alsoRuns same
  entries rest handing entry among other after listed runs same := by
    rcases getElem?_modify_cases listed with ⟨rfl, before, was, rfl⟩ | ⟨-, was⟩
    · obtain rfl := Option.some.inj (found.symm.trans was)
      exact good.entries rest handing entry among other claim was running same
    · exact good.entries rest handing entry among other after was runs same
  idle := good.idle

/-- `#runJob` is over with a claim, whose entry alone goes away. -/
theorem Good.finish (good : Good state) (found : state.claims[index]? = some claim)
    (running : claim.phase ≠ .over) (ending : Ending) :
    Good (finish state index claim ending) where
  distinct := good.distinct.erase _
  claims other after listed := by
    rcases getElem?_modify_cases listed with ⟨rfl, before, alsoFound, rfl⟩ | ⟨apart, same⟩
    · obtain rfl := Option.some.inj (found.symm.trans alsoFound)
      have known := good.claims other claim found
      have gone : ¬ Claim.held { claim with
          phase := .over, endings := claim.endings ++ [ending] } := fun held => held.1 rfl
      exact {
        finalized := by
          have finalized := known.finalized
          rw [if_neg running] at finalized
          rw [if_pos rfl, List.length_append, finalized]
          rfl
        since := known.since
        before := known.before
        isOpen := fun held => absurd held gone
        renewed := fun held => absurd held gone
        listed := fun _ _ held => absurd held gone
        closed := fun _ => gone }
    · have known := good.claims other after same
      exact { known with
        isOpen := by
          intro held
          -- Another claim that runs is of another job.
          have others : claim.job.id ≠ after.job.id := by
            intro equal
            exact apart (good.apart _ _ _ _ found same running held.1 equal).symm
          exact (Table.get_erase_ne _ others).trans (known.isOpen held) }
  apart first second claim another listed alsoListed runs alsoRuns same := by
    rcases getElem?_modify_cases listed with ⟨rfl, before, was, rfl⟩ | ⟨-, was⟩
    · exact absurd rfl runs
    · rcases getElem?_modify_cases alsoListed with ⟨rfl, before, alsoWas, rfl⟩ | ⟨-, alsoWas⟩
      · exact absurd rfl alsoRuns
      · exact good.apart _ _ _ _ was alsoWas runs alsoRuns same
  entries rest handing entry among other after listed runs same := by
    rcases getElem?_modify_cases listed with ⟨rfl, before, was, rfl⟩ | ⟨-, was⟩
    · exact absurd rfl runs
    · exact good.entries rest handing entry among other after was runs same
  idle := good.idle

/-- A pop gives out a job that no earlier claim holds open. -/
theorem Good.pop (good : Good state) {job : AcquiredJob}
    (free : state.openJobs.get job.id = none) (before : state.closing.listed = false)
    (queue : String) :
    Good { state with
      openJobs := state.openJobs.set job.id ⟨queue, jobHandle job, state.claims.length⟩
      claims := state.claims ++ [{ queue := queue, job := job, since := state.rounds }] } := by
  -- An earlier claim of the job is over, since it would be open.
  have done : ∀ (other : Nat) (after : Claim), state.claims[other]? = some after →
      after.phase ≠ .over → job.id ≠ after.job.id := by
    intro other after listed runs same
    have known := good.claims other after listed
    rw [same, known.isOpen ⟨runs, known.before before⟩] at free
    cases free
  have unlisted : ∀ {rest}, state.closing = .handingBack rest → False := by
    intro rest handing
    rw [handing] at before
    cases before
  constructor
  · exact good.distinct.set _ _
  · intro other after found
    rcases getElem?_concat_eq_some found with was | ⟨rfl, rfl⟩
    · have known := good.claims other after was
      exact { known with
        isOpen := by
          intro held
          exact (Table.get_set_ne _ _ (done other after was held.1)).trans (known.isOpen held) }
    · exact {
        finalized := rfl
        since := Nat.le_refl _
        before := fun _ => rfl
        isOpen := fun _ => Table.get_set_self _ _ _
        renewed := by
          intro _ round since started
          exact absurd since (Nat.not_le_of_lt started)
        listed := fun _ handing => (unlisted handing).elim
        closed := by
          intro closed
          rw [show state.closing = .closed from closed] at before
          cases before }
  · intro first second claim another found alsoFound runs alsoRuns same
    rcases getElem?_concat_eq_some found with was | ⟨rfl, rfl⟩
    · rcases getElem?_concat_eq_some alsoFound with alsoWas | ⟨rfl, rfl⟩
      · exact good.apart _ _ _ _ was alsoWas runs alsoRuns same
      · exact absurd same.symm (done _ _ was runs)
    · rcases getElem?_concat_eq_some alsoFound with alsoWas | ⟨rfl, rfl⟩
      · exact absurd same (done _ _ alsoWas alsoRuns)
      · rfl
  · intro rest handing
    exact (unlisted handing).elim
  · exact good.idle

theorem mem_byQueue {jobs : List OpenJob} {job : OpenJob} (listed : job ∈ jobs) :
    ∃ group ∈ byQueue jobs, job ∈ group.2 := by
  unfold byQueue
  rw [Grouping.collect_lists]
  refine ⟨_, List.mem_map_of_mem (Grouping.mem_firsts.mpr
    (List.mem_filterMap.mpr ⟨job, listed, rfl⟩)), ?_⟩
  exact List.mem_filter.mpr ⟨listed, decide_eq_true rfl⟩

theorem goOn_of_mem {groups : List (String × List OpenJob)} {group : String × List OpenJob}
    (listed : group ∈ groups) : goOn groups = some groups := by
  cases groups with
  | nil => cases listed
  | cons first rest => rfl

theorem Good.renew (good : Good state) (idle : state.renewal = none)
    (before : state.closing.listed = false) :
    Good { state with
      rounds := state.rounds + 1
      renewal := goOn (byQueue state.openJobs.values) } where
  distinct := good.distinct
  claims other after found := by
    have known := good.claims other after found
    exact { known with
      since := Nat.le_succ_of_le known.since
      renewed := by
        intro held round since started
        rcases Nat.lt_or_eq_of_le (Nat.le_of_lt_succ started) with earlier | rfl
        · -- The rounds before this one are over.
          rcases known.renewed held round since earlier with done | ⟨-, groups, running, -⟩
          · exact .inl done
          · rw [idle] at running
            cases running
        · right
          refine ⟨rfl, ?_⟩
          have entry := Table.mem_rows _ (known.isOpen held)
          have listed : _ ∈ state.openJobs.values := List.mem_map_of_mem entry
          obtain ⟨group, among, here⟩ := mem_byQueue listed
          exact ⟨_, goOn_of_mem among, group, among, _, here, rfl⟩ }
  apart := good.apart
  entries := good.entries
  idle handing := by
    rw [show state.closing.listed = true from handing] at before
    cases before

theorem getElem?_renewJobs_cases {jobs : List OpenJob} {other : Nat} {after : Claim}
    (found : (renewJobs state jobs)[other]? = some after) :
    ∃ before, state.claims[other]? = some before ∧
      ((∃ job ∈ jobs, job.claim = other) ∧
          after = { before with renewals := before.renewals ++ [state.rounds - 1] } ∨
        (∀ job ∈ jobs, job.claim ≠ other) ∧ after = before) := by
  rw [renewJobs, List.getElem?_mapIdx, Option.map_eq_some_iff] at found
  obtain ⟨before, listed, rfl⟩ := found
  refine ⟨before, listed, ?_⟩
  by_cases named : ∃ job ∈ jobs, job.claim = other
  · left
    refine ⟨named, ?_⟩
    obtain ⟨job, among, same⟩ := named
    rw [if_pos (List.any_eq_true.mpr ⟨job, among, decide_eq_true same⟩)]
  · right
    have unnamed : ∀ job ∈ jobs, job.claim ≠ other := fun job among same =>
      named ⟨job, among, same⟩
    refine ⟨unnamed, ?_⟩
    rw [if_neg]
    rw [List.any_eq_true]
    intro either
    obtain ⟨job, among, same⟩ := either
    exact unnamed job among (of_decide_eq_true same)

/-- A round renews the claims of its next queue. -/
theorem Good.renewQueue (good : Good state) {queue : String} {jobs : List OpenJob}
    {rest : List (String × List OpenJob)} (running : state.renewal = some ((queue, jobs) :: rest)) :
    Good { state with claims := renewJobs state jobs, renewal := goOn rest } where
  distinct := good.distinct
  claims other after found := by
    obtain ⟨before, was, either⟩ := getElem?_renewJobs_cases found
    have known := good.claims other before was
    rcases either with ⟨_, rfl⟩ | ⟨unnamed, rfl⟩
    · exact { known with
        renewed := by
          intro held round since started
          left
          rw [List.mem_append, List.mem_singleton]
          rcases known.renewed held round since started with done | ⟨last, -⟩
          · exact .inl done
          · exact .inr (by rw [← last]; rfl) }
    · exact { known with
        renewed := by
          intro held round since started
          rcases known.renewed held round since started with done | ⟨last, groups, same, left⟩
          · exact .inl done
          · -- The claim is in a group that is still to come.
            right
            obtain ⟨group, among, job, here, own⟩ := left
            obtain rfl := Option.some.inj (running.symm.trans same)
            rcases List.mem_cons.mp among with rfl | later
            · exact absurd own (unnamed job here)
            · exact ⟨last, rest, goOn_of_mem later, group, later, job, here, own⟩ }
  apart first second claim another found alsoFound := by
    obtain ⟨before, was, either⟩ := getElem?_renewJobs_cases found
    obtain ⟨alsoBefore, alsoWas, alsoEither⟩ := getElem?_renewJobs_cases alsoFound
    have same : claim.phase = before.phase ∧ claim.job = before.job := by
      rcases either with ⟨_, rfl⟩ | ⟨_, rfl⟩
      · exact ⟨rfl, rfl⟩
      · exact ⟨rfl, rfl⟩
    have alsoSame : another.phase = alsoBefore.phase ∧ another.job = alsoBefore.job := by
      rcases alsoEither with ⟨_, rfl⟩ | ⟨_, rfl⟩
      · exact ⟨rfl, rfl⟩
      · exact ⟨rfl, rfl⟩
    rw [same.1, same.2, alsoSame.1, alsoSame.2]
    exact good.apart _ _ _ _ was alsoWas
  entries left handing := by
    -- No round is under way once the open jobs are listed.
    have idle := good.idle (by rw [show state.closing = .handingBack left from handing]; rfl)
    rw [idle] at running
    cases running
  idle handing := by
    have idle := good.idle handing
    rw [idle] at running
    cases running

theorem Good.closing (good : Good state) (before : state.closing.listed = false)
    {closing : Closing} (still : closing.listed = false) :
    Good { state with closing := closing } := by
  have unlisted : ∀ {rest}, closing = .handingBack rest → False := by
    intro rest handing
    rw [handing] at still
    cases still
  constructor
  · exact good.distinct
  · intro other after found
    have known := good.claims other after found
    exact { known with
      before := fun _ => known.before before
      listed := fun _ handing => (unlisted handing).elim
      closed := by
        intro closed
        rw [show closing = .closed from closed] at still
        cases still }
  · exact good.apart
  · intro rest handing
    exact (unlisted handing).elim
  · intro handing
    rw [show closing.listed = true from handing] at still
    cases still

theorem Good.handBack (good : Good state) (before : state.closing.listed = false)
    (idle : state.renewal = none) :
    Good { state with closing := .handingBack state.openJobs.rows } := by
  constructor
  · exact good.distinct
  · intro other after found
    have known := good.claims other after found
    exact { known with
      before := by
        intro handing
        cases handing
      listed := by
        intro rest handing held
        obtain rfl := Closing.handingBack.inj handing
        exact ⟨_, Table.mem_rows _ (known.isOpen held)⟩
      closed := by
        intro closed
        cases closed }
  · exact good.apart
  · intro rest handing entry among other after found runs same
    obtain rfl := Closing.handingBack.inj handing
    -- The job of the entry is open under the claim.
    have known := good.claims other after found
    have isOpen := known.isOpen ⟨runs, known.before before⟩
    have entryOpen := good.distinct.mem_rows_iff.mp among
    rw [same] at isOpen
    rw [Option.some.inj (entryOpen.symm.trans isOpen)]
  · intro _
    exact idle

/-- The next of the open jobs is handed back. -/
theorem Good.handBackNext (good : Good state) {jobId : String} {job : OpenJob}
    {rest : List (String × OpenJob)}
    (handing : state.closing = .handingBack ((jobId, job) :: rest)) :
    Good { change state job.claim fun claim => { claim with handedBack := true } with
      openJobs := state.openJobs.erase jobId
      closing := .handingBack rest } := by
  have idle := good.idle (by rw [handing]; rfl)
  -- A claim that runs under the entry's id is the entry's.
  have own : ∀ (other : Nat) (after : Claim), state.claims[other]? = some after →
      after.phase ≠ .over → after.job.id = jobId → job.claim = other := by
    intro other after found runs same
    exact good.entries _ handing (jobId, job) (List.mem_cons_self ..) other after found runs same
  constructor
  · exact good.distinct.erase _
  · intro other after found
    rcases getElem?_modify_cases found with ⟨rfl, before, was, rfl⟩ | ⟨apart, was⟩
    · have known := good.claims _ before was
      have gone : ¬ Claim.held { before with handedBack := true } := fun held => by
        cases held.2
      exact {
        finalized := known.finalized
        since := known.since
        before := by
          intro unlisted
          cases unlisted
        isOpen := fun held => absurd held gone
        renewed := fun held => absurd held gone
        listed := fun _ _ held => absurd held gone
        closed := fun _ => gone }
    · have known := good.claims other after was
      have others : after.held → jobId ≠ after.job.id := by
        intro held same
        exact apart (own other after was held.1 same.symm).symm
      exact { known with
        before := by
          intro unlisted
          cases unlisted
        isOpen := by
          intro held
          exact (Table.get_erase_ne _ (others held)).trans (known.isOpen held)
        listed := by
          intro left same held
          obtain rfl := Closing.handingBack.inj same
          obtain ⟨entry, among⟩ := known.listed _ handing held
          rcases List.mem_cons.mp among with first | later
          · exact absurd (congrArg Prod.fst first).symm (others held)
          · exact ⟨entry, later⟩
        closed := by
          intro closed
          cases closed }
  · intro first second claim another found alsoFound
    have was : ∀ (other : Nat) (after : Claim),
        (state.claims.modify job.claim fun claim => { claim with handedBack := true })[other]? =
          some after → ∃ before, state.claims[other]? = some before ∧ before.phase = after.phase ∧
            before.job = after.job := by
      intro other after found
      rcases getElem?_modify_cases found with ⟨rfl, before, was, rfl⟩ | ⟨-, was⟩
      · exact ⟨before, was, rfl, rfl⟩
      · exact ⟨after, was, rfl, rfl⟩
    obtain ⟨before, listed, phase, same⟩ := was first claim found
    obtain ⟨alsoBefore, alsoListed, alsoPhase, alsoSame⟩ := was second another alsoFound
    rw [← phase, ← same, ← alsoPhase, ← alsoSame]
    exact good.apart _ _ _ _ listed alsoListed
  · intro left same entry among other after found
    obtain rfl := Closing.handingBack.inj same
    rcases getElem?_modify_cases found with ⟨rfl, before, was, rfl⟩ | ⟨-, was⟩
    · exact good.entries _ handing entry (List.mem_cons_of_mem _ among) _ before was
    · exact good.entries _ handing entry (List.mem_cons_of_mem _ among) other after was
  · intro _
    exact idle

theorem Good.closed (good : Good state) (handing : state.closing = .handingBack []) :
    Good { state with closing := .closed } := by
  have idle := good.idle (by rw [handing]; rfl)
  constructor
  · exact good.distinct
  · intro other after found
    have known := good.claims other after found
    exact { known with
      before := by
        intro unlisted
        cases unlisted
      listed := by
        intro rest same
        cases same
      closed := by
        intro _ held
        obtain ⟨entry, among⟩ := known.listed _ handing held
        cases among }
  · exact good.apart
  · intro rest same
    cases same
  · intro _
    exact idle

end Changes

section Runs

theorem good_start : Good {} where
  distinct := Table.distinct_empty
  claims index claim found := by cases found
  apart index other claim another found := by cases found
  entries rest handing := by cases handing
  idle handing := by cases handing

/-- Every move keeps what holds of all states, if no pop disturbs an open job. -/
theorem good_step (state : State) (move : Move) (next : State) (good : Good state)
    (permitted : Undisturbed state move) (moved : step state move = some next) : Good next := by
  cases move with
  | pop queue job =>
    obtain rfl := Option.some.inj moved
    exact good.pop permitted.1 permitted.2 queue
  | handled index succeeds =>
    dsimp only [step] at moved
    split at moved
    · cases moved
    · rename_i claim found
      rw [Option.ite_none_right_eq_some] at moved
      obtain ⟨handling, same⟩ := moved
      obtain rfl := Option.some.inj same
      apply good.rephase found
      · rw [handling]
        exact Phase.noConfusion
      · cases succeeds
        · exact Phase.noConfusion
        · exact Phase.noConfusion
  | completed index answered =>
    dsimp only [step] at moved
    split at moved
    · cases moved
    · rename_i claim found
      split at moved
      · rename_i completing
        have running : claim.phase ≠ .over := by
          rw [completing]
          exact Phase.noConfusion
        split at moved
        · obtain rfl := Option.some.inj moved
          exact good.finish found running .completed
        · obtain rfl := Option.some.inj moved
          exact good.rephase found running Phase.noConfusion
      · cases moved
  | retried index =>
    dsimp only [step] at moved
    split at moved
    · cases moved
    · rename_i claim found
      rw [Option.ite_none_right_eq_some] at moved
      obtain ⟨retrying, same⟩ := moved
      obtain rfl := Option.some.inj same
      apply good.finish found
      rw [retrying]
      exact Phase.noConfusion
  | renew =>
    dsimp only [step] at moved
    rw [Option.ite_none_right_eq_some] at moved
    obtain ⟨⟨idle, renews⟩, same⟩ := moved
    obtain rfl := Option.some.inj same
    apply good.renew idle
    -- The timer is stopped before the open jobs are listed.
    cases phase : state.closing with
    | running => rfl
    | draining => rfl
    | drained => rfl
    | handingBack rest =>
      rw [phase] at renews
      cases renews
    | closed =>
      rw [phase] at renews
      cases renews
  | renewQueue =>
    dsimp only [step] at moved
    split at moved
    · rename_i queue jobs rest running
      obtain rfl := Option.some.inj moved
      exact good.renewQueue running
    · cases moved
  | close =>
    dsimp only [step] at moved
    split at moved
    · rename_i running
      obtain rfl := Option.some.inj moved
      exact good.closing (by rw [running]; rfl) rfl
    · cases moved
  | drained =>
    dsimp only [step] at moved
    split at moved
    · rename_i draining
      obtain rfl := Option.some.inj moved
      exact good.closing (by rw [draining]; rfl) rfl
    · cases moved
  | handBack =>
    dsimp only [step] at moved
    split at moved
    · rename_i drained idle
      obtain rfl := Option.some.inj moved
      exact good.handBack (by rw [drained]; rfl) idle
    · cases moved
  | handBackNext =>
    dsimp only [step] at moved
    split at moved
    · rename_i jobId job rest handing
      obtain rfl := Option.some.inj moved
      exact good.handBackNext handing
    · rename_i handing
      obtain rfl := Option.some.inj moved
      exact good.closed handing
    · cases moved

theorem Good.accounted (good : Good state) : Accounted state where
  finalized claim among := by
    obtain ⟨index, found⟩ := List.getElem?_of_mem among
    exact (good.claims index claim found).finalized
  renewed claim among held round since finished := by
    obtain ⟨index, found⟩ := List.getElem?_of_mem among
    rcases (good.claims index claim found).renewed held round since finished.1 with done | running
    · exact done
    · obtain ⟨last, groups, running, -⟩ := running
      rcases finished.2 with idle | before
      · rw [idle] at running
        cases running
      · omega
  isOpen index claim found := (good.claims index claim found).isOpen
  closed closed claim among := by
    obtain ⟨index, found⟩ := List.getElem?_of_mem among
    exact (good.claims index claim found).closed closed

/-- In every run whose pops give out no job that is still open under an earlier claim, and none once
the open jobs are listed, every claim is renewed, finalized or handed back. -/
theorem claims_accounted (reached : Runs step Undisturbed {} state) : Accounted state :=
  (reached.invariant good_start good_step).accounted

/-- A job that is renewed, completed, and not open when the transport closes. -/
theorem completed_job_accounted : ∃ state, state.closing = .closed ∧ state.rounds = 1 ∧
    (∃ claim ∈ state.claims, claim.endings = [.completed]) ∧ Accounted state := by
  have free : Undisturbed {} (.pop "tasks" ⟨"j", some "a"⟩) := ⟨rfl, rfl⟩
  have popped : Runs step Undisturbed {} _ := Runs.start.step free rfl
  have reached : Runs step Undisturbed {} _ :=
    popped.of_allowed [.renew, .renewQueue, .handled 0 true, .completed 0 true, .close, .drained,
      .handBack, .handBackNext] (by simp [Undisturbed]) rfl
  exact ⟨_, rfl, rfl, ⟨_, List.mem_singleton_self _, rfl⟩, claims_accounted reached⟩

/-- A job that is popped again while its earlier claim is still handled: once the earlier handler is
over, the later claim is neither renewed nor handed back. -/
theorem popped_again_lost : ∃ state, Runs step (fun _ _ => True) {} state ∧
    state.closing = .closed ∧ state.rounds = 1 ∧
    (∃ claim ∈ state.claims, claim.phase = .handling ∧ claim.renewals = [] ∧
      claim.handedBack = false) ∧ ¬ Accounted state := by
  have reached : Runs step (fun _ _ => True) {} _ :=
    Runs.of_moves [.pop "tasks" ⟨"j", some "a"⟩, .pop "tasks" ⟨"j", some "b"⟩, .handled 0 true,
      .completed 0 true, .renew, .close, .drained, .handBack, .handBackNext] .start rfl
  refine ⟨_, reached, rfl, rfl, ⟨_, List.mem_of_getElem? (i := 1) rfl, rfl, rfl, rfl⟩, ?_⟩
  intro accounted
  exact accounted.closed rfl _ (List.mem_of_getElem? (i := 1) rfl) ⟨Phase.noConfusion, rfl⟩

end Runs

end Durable.QueueJobs
