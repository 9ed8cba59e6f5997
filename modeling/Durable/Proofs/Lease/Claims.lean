import Durable.Lease.Claims
import Mathlib.Tactic.ByContra

/-! A proof of a lease holds against every claim that could release the lease, unless the counts
were forgotten while it was under way. -/

namespace Durable.Claims

open Interleaving (Table)

/-- Where a proof returned that the instance holds the lease it renewed, no claim that was marked
before that has released the lease since the renewal. -/
def Owned (proof : LeaseProof) : Prop := proof.result = some true → proof.released = false

/-- A proof finds the count it read, though claims were marked and the counts forgotten since. -/
def FalselyUnchanged (state : State) (proof : LeaseProof) : Prop :=
  proof.forgotten = true ∧ 0 < proof.marksSince ∧
    state.claimsMade.get proof.runId = proof.before

def CountsTell (state : State) (move : Move) : Prop :=
  ∀ index proof, move = .finish index → state.proofs[index]? = some proof →
    ¬FalselyUnchanged state proof

def isLiveOn (runId : String) (claim : Claim) : Bool := claim.runId = runId ∧ claim.phase ≠ .over

def liveOn (claims : List Claim) (runId : String) : Nat := claims.countP (isLiveOn runId)

section Live

variable {claims : List Claim} {index : Nat} {claim : Claim}

theorem liveOn_concat (claims : List Claim) (runId other : String) :
    liveOn (claims ++ [{ runId := runId }]) other =
      liveOn claims other + if runId = other then 1 else 0 := by
  simp [liveOn, isLiveOn, List.countP_append, List.countP_singleton]

theorem liveOn_set {phase : ClaimPhase} (found : claims[index]? = some claim)
    (before : claim.phase ≠ .over) (after : phase ≠ .over) (runId : String) :
    liveOn (claims.set index { claim with phase := phase }) runId = liveOn claims runId := by
  obtain ⟨within, same⟩ := List.getElem?_eq_some_iff.mp found
  unfold liveOn
  rw [List.countP_set within, same]
  have alike : isLiveOn runId { claim with phase := phase } = isLiveOn runId claim := by
    simp [isLiveOn, before, after]
  rw [alike]
  have counted := List.boole_getElem_le_countP (p := isLiveOn runId) (l := claims) (i := index) within
  rw [same] at counted
  omega

theorem liveOn_over (found : claims[index]? = some claim) (before : claim.phase ≠ .over)
    (runId : String) :
    liveOn (claims.set index { claim with phase := .over }) runId +
      (if claim.runId = runId then 1 else 0) = liveOn claims runId := by
  obtain ⟨within, same⟩ := List.getElem?_eq_some_iff.mp found
  unfold liveOn
  rw [List.countP_set within, same]
  have counted := List.boole_getElem_le_countP (p := isLiveOn runId) (l := claims) (i := index) within
  rw [same] at counted
  have dead : isLiveOn runId { claim with phase := .over } = false := by simp [isLiveOn]
  by_cases own : claim.runId = runId
  · have live : isLiveOn runId claim = true := by simp [isLiveOn, own, before]
    rw [live, if_pos rfl] at counted
    rw [dead, live, if_pos rfl, if_neg Bool.false_ne_true, if_pos own]
    omega
  · have live : isLiveOn runId claim = false := by simp [isLiveOn, own]
    rw [dead, live, if_neg Bool.false_ne_true, if_neg own]
    omega

theorem liveOn_pos (found : claims[index]? = some claim) (before : claim.phase ≠ .over) :
    0 < liveOn claims claim.runId := by
  apply List.countP_pos_iff.mpr
  exact ⟨claim, List.mem_of_getElem? found, by simp [isLiveOn, before]⟩

end Live

/-- What holds of a proof, beside what the instance remembers. -/
structure GoodProof (state : State) (proof : LeaseProof) : Prop where
  before : proof.before ≠ some 0
  counted : proof.underWay = true → proof.forgotten = false →
    (state.claimsMade.get proof.runId).getD 0 = proof.before.getD 0 + proof.marksSince
  live : proof.underWay = true → 0 < liveOn state.claims proof.runId → 0 < proof.marksSince
  released : proof.underWay = true → proof.released = true → 0 < proof.marksSince
  owned : Owned proof
  marked : proof.marked ≤ state.claims.length
  ended : proof.result = some true → ∀ (index : Nat) (claim : Claim), index < proof.marked →
    state.claims[index]? = some claim → claim.runId = proof.runId → claim.phase = .over

/-- What the instance remembers of the claims is what there is, and its proofs are good. -/
structure Good (state : State) : Prop where
  inFlight : ∀ runId, state.claimsInFlight.get runId =
    if liveOn state.claims runId = 0 then none else some (liveOn state.claims runId)
  made : ∀ runId, state.claimsMade.get runId ≠ some 0
  proofs : ∀ proof ∈ state.proofs, GoodProof state proof

section Steps

variable {instanceId : String} {state next : State} {proof : LeaseProof} {index : Nat}

theorem good_start : Good {} where
  inFlight _ := rfl
  made _ zero := by cases zero
  proofs _ member := absurd member List.not_mem_nil

theorem GoodProof.frame (good : GoodProof state proof) (claims : next.claims = state.claims)
    (made : next.claimsMade = state.claimsMade) : GoodProof next proof where
  before := good.before
  counted := by rw [made]; exact good.counted
  live := by rw [claims]; exact good.live
  released := good.released
  owned := good.owned
  marked := by rw [claims]; exact good.marked
  ended := by rw [claims]; exact good.ended

theorem GoodProof.phase (good : GoodProof state proof) {claim : Claim} {phase : ClaimPhase}
    (found : state.claims[index]? = some claim) (before : claim.phase ≠ .over)
    (fewer : ∀ runId, liveOn next.claims runId ≤ liveOn state.claims runId)
    (claims : next.claims = state.claims.set index { claim with phase := phase })
    (made : next.claimsMade = state.claimsMade) : GoodProof next proof where
  before := good.before
  counted := by rw [made]; exact good.counted
  live open_ live := good.live open_ (Nat.lt_of_lt_of_le live (fewer proof.runId))
  released := good.released
  owned := good.owned
  marked := by rw [claims, List.length_set]; exact good.marked
  ended := by
    intro returned other held within at_ own
    rw [claims, List.getElem?_set] at at_
    split at at_
    · -- The claim that changes was live, so it was not marked before the proof returned.
      rename_i same
      subst same
      rw [if_pos (List.getElem?_eq_some_iff.mp found).1] at at_
      obtain rfl := Option.some.inj at_
      exact absurd (good.ended returned index claim within found own) before
    · exact good.ended returned other held within at_ own

theorem Good.flying (good : Good state) (runId : String) :
    (state.claimsInFlight.get runId).getD 0 = liveOn state.claims runId := by
  rw [good.inFlight]
  split
  · rename_i none
    rw [none, Option.getD_none]
  · rw [Option.getD_some]

/-- A proof under way is noted a mark. -/
theorem GoodProof.mark (good : GoodProof state proof) (runId : String) :
    GoodProof (markClaim state runId)
      (noteMark runId (decide (claimsMadeMax ≤ state.claimsMade.rows.length)) proof) := by
  unfold noteMark
  cases open_ : proof.underWay with
  | false =>
    -- A proof that has returned is left alone, and the new claim comes after those it waited for.
    rw [if_neg Bool.false_ne_true]
    refine ⟨good.before, fun under => ?_, fun under => ?_, good.released, good.owned, ?_, ?_⟩
    · rw [open_] at under
      cases under
    · rw [open_] at under
      cases under
    · have within := good.marked
      simp only [markClaim, List.length_append, List.length_singleton]
      omega
    · intro returned index claim within found own
      have before : index < state.claims.length := Nat.lt_of_lt_of_le within good.marked
      simp only [markClaim, List.getElem?_append_left before] at found
      exact good.ended returned index claim within found own
  | true =>
    rw [if_pos rfl]
    have running : proof.result = none := by simpa [LeaseProof.underWay] using open_
    refine ⟨good.before, fun _ kept => ?_, fun _ live => ?_, fun _ released => ?_, ?_, ?_, ?_⟩
    · -- Where the counts are kept, the marked run's count grows by one.
      simp only [Bool.or_eq_false_iff] at kept
      have counted := good.counted open_ kept.1
      simp only [markClaim, kept.2, Bool.false_eq_true, if_false, Table.get_set]
      by_cases own : runId = proof.runId
      · subst own
        simp only [if_true, Option.getD_some]
        omega
      · have apart : proof.runId ≠ runId := fun same => own same.symm
        simp only [own, apart, if_false]
        exact counted
    · simp only [markClaim, liveOn_concat] at live
      by_cases own : proof.runId = runId
      · simp only [own, if_true]
        omega
      · have apart : runId ≠ proof.runId := fun same => own same.symm
        simp only [own, apart, if_false, Nat.add_zero] at live ⊢
        exact good.live open_ live
    · have since := good.released open_ released
      by_cases own : proof.runId = runId <;> simp only [own, if_true, if_false] <;> omega
    · intro returned
      rw [running] at returned
      cases returned
    · have within := good.marked
      simp only [markClaim, List.length_append, List.length_singleton]
      omega
    · intro returned
      rw [running] at returned
      cases returned

theorem good_mark (good : Good state) (runId : String) : Good (markClaim state runId) where
  inFlight other := by
    simp only [markClaim, Table.get_set, good.flying, liveOn_concat]
    by_cases same : runId = other
    · simp [same]
    · simp [same, good.inFlight]
  made other := by
    simp only [markClaim, Table.get_set]
    split
    · intro zero
      cases Option.some.inj zero
    · split
      · intro zero
        cases zero
      · exact good.made other
  proofs proof member := by
    obtain ⟨earlier, listed, rfl⟩ := List.mem_map.mp member
    exact (good.proofs earlier listed).mark runId

theorem good_lock (good : Good state) {leaseUntilMs nowMs : Nat}
    (moved : lockClaim instanceId state index leaseUntilMs nowMs = some next) : Good next := by
  unfold lockClaim at moved
  cases found : state.claims[index]? with
  | none => simp [found] at moved
  | some claim =>
    simp only [found] at moved
    split at moved
    · rename_i marked
      have before : claim.phase ≠ .over := by simp [marked]
      -- Refused or not, the claim stays live.
      have kept : ∀ (leases : Table String Lease) (phase : ClaimPhase), phase ≠ .over →
          Good { state with leases := leases, claims := state.claims.set index { claim with phase := phase } } := by
        intro leases phase after
        have same := liveOn_set found before after
        refine ⟨fun runId => ?_, good.made, fun proof member => ?_⟩
        · rw [same]
          exact good.inFlight runId
        · exact (good.proofs proof member).phase found before
            (fun runId => Nat.le_of_eq (same runId)) rfl rfl
      split at moved
      · obtain rfl := Option.some.inj moved
        exact kept state.leases .refused (by simp)
      · obtain rfl := Option.some.inj moved
        exact kept _ .locked (by simp)
    · cases moved

theorem good_release (good : Good state) (moved : releaseClaim instanceId state index = some next) :
    Good next := by
  unfold releaseClaim at moved
  cases found : state.claims[index]? with
  | none => simp [found] at moved
  | some claim =>
    simp only [found] at moved
    by_cases locked : claim.phase = .locked
    · rw [if_pos locked] at moved
      obtain rfl := Option.some.inj moved
      refine ⟨good.inFlight, good.made, fun proof member => ?_⟩
      obtain ⟨earlier, listed, rfl⟩ := List.mem_map.mp member
      have held := good.proofs earlier listed
      have before : claim.phase ≠ .over := by simp [locked]
      suffices noted : GoodProof state (noteRelease claim.runId index earlier) from
        noted.frame rfl rfl
      unfold noteRelease
      split
      · rename_i met
        obtain ⟨own, -, either⟩ := met
        refine ⟨held.before, held.counted, held.live, fun under _ => ?_, fun returned => ?_,
          held.marked, held.ended⟩
        · -- The claim is live, so it was marked since the proof began.
          have live := liveOn_pos found before
          rw [← own] at live
          exact held.live under live
        · -- A proof that returned the lease waited for every claim marked before.
          rcases either with under | within
          · have running : earlier.result = none := by simpa [LeaseProof.underWay] using under
            rw [running] at returned
            cases returned
          · exact absurd (held.ended returned index claim within found own.symm) before
      · exact held
    · rw [if_neg locked] at moved
      cases moved

theorem good_unmark (good : Good state) (moved : unmarkClaim state index = some next) :
    Good next := by
  unfold unmarkClaim at moved
  cases found : state.claims[index]? with
  | none => simp [found] at moved
  | some claim =>
    simp only [found] at moved
    split at moved
    · cases moved
    · rename_i before
      obtain rfl := Option.some.inj moved
      have counted := liveOn_over found before
      have live := liveOn_pos found before
      have held : state.claimsInFlight.get claim.runId = some (liveOn state.claims claim.runId) := by
        rw [good.inFlight, if_neg (by omega)]
      refine ⟨fun runId => ?_, good.made, fun proof member => ?_⟩
      · have fewer := counted runId
        dsimp only
        rw [held, Option.getD_some]
        by_cases own : claim.runId = runId
        · subst own
          rw [if_pos rfl] at fewer
          split
          · rw [Table.get_set_self, if_neg (by omega)]
            congr 1
            omega
          · rw [Table.get_erase_self, if_pos (by omega)]
        · rw [if_neg own, Nat.add_zero] at fewer
          rw [fewer, ← good.inFlight]
          split
          · exact Table.get_set_ne _ _ own
          · exact Table.get_erase_ne _ own
      · refine (good.proofs proof member).phase found before (fun runId => ?_) rfl rfl
        have fewer := counted runId
        dsimp only
        omega

theorem good_begin (good : Good state) (runId : String) : Good (beginProof state runId) := by
  unfold beginProof
  split
  · -- With a claim in flight it has failed.
    refine ⟨good.inFlight, good.made, fun proof member => ?_⟩
    rcases List.mem_append.mp member with earlier | new
    · exact (good.proofs proof earlier).frame rfl rfl
    · obtain rfl := List.mem_singleton.mp new
      refine ⟨by simp, ?_, ?_, ?_, ?_, Nat.zero_le _, ?_⟩
      · simp [LeaseProof.underWay]
      · simp [LeaseProof.underWay]
      · simp [LeaseProof.underWay]
      · simp [Owned]
      · simp
  · rename_i none
    refine ⟨good.inFlight, good.made, fun proof member => ?_⟩
    rcases List.mem_append.mp member with earlier | new
    · exact (good.proofs proof earlier).frame rfl rfl
    · obtain rfl := List.mem_singleton.mp new
      have idle : liveOn state.claims runId = 0 := by
        have held := good.inFlight runId
        by_contra some_
        rw [if_neg some_] at held
        simp [held] at none
      refine ⟨good.made runId, fun _ _ => ?_, fun _ live => ?_, ?_, ?_, Nat.zero_le _, ?_⟩
      · simp
      · exact absurd idle (Nat.ne_of_gt live)
      · simp
      · simp [Owned]
      · simp

theorem good_renew (good : Good state) {leaseUntilMs : Nat}
    (moved : renewProof instanceId state index leaseUntilMs = some next) : Good next := by
  unfold renewProof at moved
  cases found : state.proofs[index]? with
  | none => simp [found] at moved
  | some proof =>
    simp only [found] at moved
    split at moved
    · obtain rfl := Option.some.inj moved
      have held := good.proofs proof (List.mem_of_getElem? found)
      refine ⟨good.inFlight, good.made, fun other member => ?_⟩
      rcases List.mem_or_eq_of_mem_set member with earlier | rfl
      · exact (good.proofs other earlier).frame rfl rfl
      · exact ⟨held.before, held.counted, held.live, held.released, held.owned, held.marked,
          held.ended⟩
    · cases moved

/-- A proof that returns keeps everything good, unless its count is falsely unchanged. -/
theorem good_finish (good : Good state) (tells : CountsTell state (.finish index))
    (moved : finishProof state index = some next) : Good next := by
  unfold finishProof at moved
  cases found : state.proofs[index]? with
  | none => simp [found] at moved
  | some proof =>
    simp only [found] at moved
    split at moved
    · cases moved
    · rename_i renewed answered
      split at moved
      · rename_i under
        obtain rfl := Option.some.inj moved
        have held := good.proofs proof (List.mem_of_getElem? found)
        refine ⟨good.inFlight, good.made, fun other member => ?_⟩
        rcases List.mem_or_eq_of_mem_set member with earlier | rfl
        · exact (good.proofs other earlier).frame rfl rfl
        · refine ⟨held.before, ?_, ?_, ?_, fun returned => ?_, Nat.le_refl _,
            fun returned other claim _ at_ own => ?_⟩
          · simp [LeaseProof.underWay]
          · simp [LeaseProof.underWay]
          · simp [LeaseProof.underWay]
          · -- The count tells that no claim was marked, so none has released the lease.
            simp only [Option.some.injEq, Bool.and_eq_true, beq_iff_eq] at returned
            have unmarked : proof.marksSince = 0 := by
              by_contra some_
              have pos : 0 < proof.marksSince := Nat.pos_of_ne_zero some_
              cases kept : proof.forgotten with
              | true => exact tells index proof rfl found ⟨kept, pos, returned.2⟩
              | false =>
                have counted := held.counted under kept
                rw [returned.2] at counted
                omega
            cases released : proof.released with
            | false => rfl
            | true =>
              have since := held.released under released
              omega
          · -- No claim is in flight, so every claim on the run is over.
            simp only [Option.some.injEq, Bool.and_eq_true, Option.isNone_iff_eq_none] at returned
            by_contra before
            have live : 0 < liveOn state.claims proof.runId := own ▸ liveOn_pos at_ before
            have flying := good.inFlight proof.runId
            rw [returned.1.2, if_neg (by omega)] at flying
            cases flying
      · cases moved

theorem good_step (good : Good state) {move : Move} (tells : CountsTell state move)
    (moved : step instanceId state move = some next) : Good next := by
  cases move with
  | mark runId =>
    obtain rfl := Option.some.inj moved
    exact good_mark good runId
  | lock index leaseUntilMs nowMs => exact good_lock good moved
  | release index => exact good_release good moved
  | unmark index => exact good_unmark good moved
  | begin runId =>
    obtain rfl := Option.some.inj moved
    exact good_begin good runId
  | renew index leaseUntilMs => exact good_renew good moved
  | finish index => exact good_finish good tells moved
  | drift runId lease =>
    obtain rfl := Option.some.inj moved
    exact ⟨good.inFlight, good.made, fun proof member => (good.proofs proof member).frame rfl rfl⟩

end Steps

/-- In every run in which no proof returns on a count that is falsely unchanged, a proof that
returned the lease holds against every claim marked before it returned. -/
theorem proved_lease_owned (instanceId : String) (state : State)
    (reached : Reaches instanceId CountsTell state) : ∀ proof ∈ state.proofs, Owned proof := by
  have good : Good state := by
    induction reached with
    | start => exact good_start
    | step _ permitted moved ih => exact good_step ih permitted moved
  exact fun proof member => (good.proofs proof member).owned

section Quiet

/-- Where a proof meets no claim, it returns the lease, and nothing has released it. -/
theorem quiet_proof_owned :
    ∃ state : State, (∃ proof ∈ state.proofs, proof.result = some true) ∧
      ∀ proof ∈ state.proofs, Owned proof := by
  let held : Lease := { lockedBy := some "engine", lockedUntil := some 5 }
  have quiet : ∀ (state : State) (move : Move), (∀ index, move ≠ .finish index) →
      CountsTell state move :=
    fun _ _ other index _ same => absurd same (other index)
  have taken : Reaches "engine" CountsTell { leases := Table.empty.set "run" held } :=
    .step .start (quiet _ (.drift "run" held) (by simp)) rfl
  have begun := Reaches.step taken (quiet _ (.begin "run") (by simp)) rfl
  have renewed := Reaches.step begun (quiet _ (.renew 0 10) (by simp)) rfl
  refine ⟨_, ?_, proved_lease_owned "engine" _ (.step renewed ?_ (rfl : step _ _ (.finish 0) = _))⟩
  · exact ⟨_, List.mem_singleton_self _, by decide⟩
  · intro index proof same found
    obtain rfl := Move.finish.inj same
    obtain rfl := Option.some.inj found
    exact fun changed => Bool.false_ne_true changed.1

end Quiet

section Forgotten

/-- A run of moves from a state. -/
def moves (instanceId : String) (state : State) : List Move → Option State
  | [] => some state
  | move :: rest => (step instanceId state move).bind (moves instanceId · rest)

theorem reaches_moves {instanceId : String} (list : List Move) : ∀ {state final : State},
    Reaches instanceId (fun _ _ => True) state → moves instanceId state list = some final →
      Reaches instanceId (fun _ _ => True) final := by
  induction list with
  | nil =>
    intro state final reached ran
    obtain rfl := Option.some.inj ran
    exact reached
  | cons move rest ih =>
    intro state final reached ran
    obtain ⟨next, moved, later⟩ := Option.bind_eq_some_iff.mp ran
    exact ih (.step reached trivial moved) later

def otherRun (index : Nat) : String := String.ofList (List.replicate (index + 1) 'x')

theorem otherRun_inj {first second : Nat} (same : otherRun first = otherRun second) :
    first = second := by
  have lengths := congrArg String.length same
  simpa [otherRun] using lengths

theorem setRow_length {Value : Type} (key : String) (value : Value) (rows : List (String × Value))
    (fresh : Table.getRow key rows = none) :
    (Table.setRow key value rows).length = rows.length + 1 := by
  induction rows with
  | nil => rfl
  | cons row rest ih =>
    obtain ⟨other, held⟩ := row
    simp only [Table.getRow] at fresh
    split at fresh
    · cases fresh
    · rename_i apart
      simp [Table.setRow, apart, ih fresh]

theorem counts_filled (instanceId : String) (count : Nat) (few : count ≤ claimsMadeMax) :
    ∃ state, Reaches instanceId (fun _ _ => True) state ∧
      state.claimsMade.rows.length = count ∧ state.claims.length = count ∧ state.proofs = [] ∧
        ∀ runId, (∀ index < count, runId ≠ otherRun index) →
          state.claimsMade.get runId = none ∧ state.claimsInFlight.get runId = none := by
  induction count with
  | zero => exact ⟨{}, .start, rfl, rfl, rfl, fun _ _ => ⟨rfl, rfl⟩⟩
  | succ count ih =>
    obtain ⟨state, reached, size, claims, proofs, others⟩ := ih (by omega)
    have fresh := others (otherRun count) fun index less same => by
      have := otherRun_inj same
      omega
    have room : ¬claimsMadeMax ≤ state.claimsMade.rows.length := by omega
    have marked : step instanceId state (.mark (otherRun count)) =
        some (markClaim state (otherRun count)) := rfl
    refine ⟨markClaim state (otherRun count), .step reached trivial marked, ?_⟩
    refine ⟨?_, ?_, ?_, fun runId apart => ?_⟩
    · simp only [markClaim, room, decide_false, Bool.false_eq_true, if_false, Table.set]
      rw [setRow_length _ _ _ fresh.1, size]
    · simp [markClaim, claims]
    · simp [markClaim, proofs]
    · have known := others runId fun index less => apart index (by omega)
      have other : otherRun count ≠ runId := fun same => apart count (by omega) same.symm
      simp only [markClaim, room, decide_false, Bool.false_eq_true, if_false]
      rw [Table.get_set_ne _ _ other, Table.get_set_ne _ _ other]
      exact known

/-- A claim comes and goes while a proof is under way, and then the counts are forgotten. -/
theorem forgotten_claim_released :
    ¬∀ state, Reaches "engine" (fun _ _ => True) state → ∀ proof ∈ state.proofs, Owned proof := by
  intro owned
  obtain ⟨state, reached, size, claims, proofs, others⟩ :=
    counts_filled "engine" 4095 (by decide)
  have fresh := others "run" fun index _ same => by
    have := congrArg (fun text => text.toList.head?) same
    simp [otherRun, List.replicate_succ] at this
  obtain ⟨inFlight, made, leases, earlier, none⟩ := state
  dsimp only at size claims proofs fresh
  subst proofs
  have room : ¬claimsMadeMax ≤ made.rows.length := by rw [size]; decide
  have full : claimsMadeMax ≤ (made.set "run" 1).rows.length := by
    rw [Table.set, setRow_length _ _ _ fresh.1, size]
    decide
  have at_ : ∀ claim : Claim, (earlier ++ [claim])[4095]? = some claim := by
    intro claim
    rw [← claims]
    simp
  have set_ : ∀ first second : Claim, (earlier ++ [first]).set 4095 second = earlier ++ [second] := by
    intro first second
    rw [← claims]
    simp
  have ran : ∃ final, moves "engine" ⟨inFlight, made, leases, earlier, []⟩
      [.drift "run" {}, .begin "run", .mark "run", .lock 4095 10 0, .renew 0 20, .release 4095,
        .unmark 4095, .mark "other", .finish 0] = some final ∧
      ∃ proof ∈ final.proofs, ¬Owned proof := by
    simp [moves, step, beginProof, markClaim, lockClaim, renewProof, releaseClaim, unmarkClaim,
      finishProof, fresh, room, full, at_, set_, noteMark, noteRelease, LeaseProof.underWay, tryLockRun,
      holds, Table.get_set, Table.get_erase, Owned]
  obtain ⟨final, ran, proof, member, lost⟩ := ran
  exact lost (owned final (reaches_moves _ reached ran) proof member)

end Forgotten

end Durable.Claims
