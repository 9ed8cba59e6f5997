import Durable.Interleaving.Table

/-! Short claims on runs, and proofs that an instance holds a run's lease, in one instance. -/

namespace Durable.Claims

open Interleaving (Table)

/-- How far a claim on a run has come. -/
inductive ClaimPhase where
  | marked
  | refused
  | locked
  | over
deriving Repr, DecidableEq

/-- A claim on a run: the lease, held for a moment to hand the run off. -/
structure Claim where
  runId : String
  phase : ClaimPhase := .marked
deriving Repr, DecidableEq

/-- A proof that the instance holds a run's lease for a turn. -/
structure LeaseProof where
  runId : String
  /-- How many claims on the run the instance had counted when the proof began. -/
  before : Option Nat := none
  /-- Whether the renewal found the lease, once the store has answered. -/
  renewed : Option Bool := none
  result : Option Bool := none
  marked : Nat := 0
  marksSince : Nat := 0
  forgotten : Bool := false
  /-- A claim marked before it returned has released the lease since the renewal. -/
  released : Bool := false
deriving Repr, DecidableEq

/-- The lease of a run's row. -/
structure Lease where
  lockedBy : Option String := none
  lockedUntil : Option Nat := none
deriving Repr, DecidableEq

/-- What an instance remembers of claims, the leases in the store, and the claims and proofs there
have been. -/
structure State where
  claimsInFlight : Table String Nat := Table.empty
  claimsMade : Table String Nat := Table.empty
  leases : Table String Lease := Table.empty
  claims : List Claim := []
  proofs : List LeaseProof := []

/-- How many runs the instance counts claims of before it forgets them. -/
def claimsMadeMax : Nat := 4096

/-- A proof that has not returned. -/
def LeaseProof.underWay (proof : LeaseProof) : Bool := proof.result = none

section Operations

variable (instanceId : String) (state : State)

/-- A proof once a claim on a run is marked, with the counts forgotten or not. -/
def noteMark (runId : String) (forgets : Bool) (proof : LeaseProof) : LeaseProof :=
  if proof.underWay then
    { proof with
      -- A claim that is marked as the counts are forgotten is counted anew.
      marksSince := if proof.runId = runId then proof.marksSince + 1 else proof.marksSince
      forgotten := proof.forgotten || forgets }
  else proof

/-- `markClaim`: a claim on a run begins. -/
def markClaim (runId : String) : State :=
  let forgets := decide (claimsMadeMax ≤ state.claimsMade.rows.length)
  let counted := if forgets then Table.empty else state.claimsMade
  { state with
    claimsInFlight := state.claimsInFlight.set runId ((state.claimsInFlight.get runId).getD 0 + 1)
    claimsMade := counted.set runId ((counted.get runId).getD 0 + 1)
    claims := state.claims ++ [{ runId := runId }]
    proofs := state.proofs.map (noteMark runId forgets) }

/-- `tryLockRun`: whether a lease can be taken, and the lease that is held then. -/
def tryLockRun (leaseUntilMs nowMs : Nat) (lease : Lease) : Option Lease :=
  if lease.lockedUntil.any (nowMs < ·) then none
  else some { lockedBy := some instanceId, lockedUntil := some leaseUntilMs }

/-- A claim asks for the lease. -/
def lockClaim (index leaseUntilMs nowMs : Nat) : Option State :=
  match state.claims[index]? with
  | none => none
  | some claim =>
    if claim.phase = .marked then
      match (state.leases.get claim.runId).bind (tryLockRun instanceId leaseUntilMs nowMs) with
      | none =>
        some { state with claims := state.claims.set index { claim with phase := .refused } }
      | some lease =>
        some { state with
          leases := state.leases.set claim.runId lease
          claims := state.claims.set index { claim with phase := .locked } }
    else none

/-- `releaseRunLock`: the lease without its holder, where that is the instance. -/
def releaseRunLock (lease : Lease) : Lease :=
  if lease.lockedBy = some instanceId then {} else lease

/-- A proof once a claim on a run has released the lease. -/
def noteRelease (runId : String) (index : Nat) (proof : LeaseProof) : LeaseProof :=
  if proof.runId = runId ∧ proof.renewed.isSome = true ∧
      (proof.underWay = true ∨ index < proof.marked) then
    { proof with released := true }
  else proof

/-- A claim that took the lease releases it. -/
def releaseClaim (index : Nat) : Option State :=
  match state.claims[index]? with
  | none => none
  | some claim =>
    if claim.phase = .locked then
      some { state with
        leases :=
          match state.leases.get claim.runId with
          | none => state.leases
          | some lease => state.leases.set claim.runId (releaseRunLock instanceId lease)
        proofs := state.proofs.map (noteRelease claim.runId index) }
    else none

/-- `unmarkClaim`: a claim on a run is over. -/
def unmarkClaim (index : Nat) : Option State :=
  match state.claims[index]? with
  | none => none
  | some claim =>
    if claim.phase = .over then none
    else
      let left := (state.claimsInFlight.get claim.runId).getD 1 - 1
      some { state with
        claimsInFlight :=
          if 0 < left then state.claimsInFlight.set claim.runId left
          else state.claimsInFlight.erase claim.runId
        claims := state.claims.set index { claim with phase := .over } }

/-- `proveOwnLease` begins: it has failed where a claim is in flight, and else it has read the
count of the claims and sent the renewal. -/
def beginProof (runId : String) : State :=
  if (state.claimsInFlight.get runId).isSome then
    { state with proofs := state.proofs ++ [{ runId := runId, result := some false }] }
  else
    { state with
      proofs := state.proofs ++ [{ runId := runId, before := state.claimsMade.get runId }] }

/-- `renewRunLock`: whether the instance holds a lease. -/
def holds (lease : Option Lease) : Bool := lease.any (·.lockedBy = some instanceId)

/-- The renewal of a proof reaches the store. -/
def renewProof (index leaseUntilMs : Nat) : Option State :=
  match state.proofs[index]? with
  | none => none
  | some proof =>
    if proof.underWay ∧ proof.renewed = none then
      let lease := state.leases.get proof.runId
      some { state with
        leases :=
          if holds instanceId lease then
            state.leases.set proof.runId
              { lockedBy := some instanceId, lockedUntil := some leaseUntilMs }
          else state.leases
        proofs := state.proofs.set index { proof with renewed := some (holds instanceId lease) } }
    else none

/-- `proveOwnLease` returns, once the store has answered. -/
def finishProof (index : Nat) : Option State :=
  match state.proofs[index]? with
  | none => none
  | some proof =>
    match proof.renewed with
    | none => none
    | some renewed =>
      if proof.underWay then
        let result := renewed && (state.claimsInFlight.get proof.runId).isNone &&
          state.claimsMade.get proof.runId == proof.before
        some { state with
          proofs := state.proofs.set index
            { proof with result := some result, marked := state.claims.length } }
      else none

end Operations

/-- One step of the instance, or of the store behind it. -/
inductive Move where
  | mark (runId : String)
  | lock (index leaseUntilMs nowMs : Nat)
  | release (index : Nat)
  | unmark (index : Nat)
  | begin (runId : String)
  | renew (index leaseUntilMs : Nat)
  | finish (index : Nat)
  /-- A turn of this instance, or another instance, takes, renews or releases a lease. -/
  | drift (runId : String) (lease : Lease)
deriving Repr, DecidableEq

/-- What a step leads to, where it can be taken. -/
def step (instanceId : String) (state : State) : Move → Option State
  | .mark runId => some (markClaim state runId)
  | .lock index leaseUntilMs nowMs => lockClaim instanceId state index leaseUntilMs nowMs
  | .release index => releaseClaim instanceId state index
  | .unmark index => unmarkClaim state index
  | .begin runId => some (beginProof state runId)
  | .renew index leaseUntilMs => renewProof instanceId state index leaseUntilMs
  | .finish index => finishProof state index
  | .drift runId lease => some { state with leases := state.leases.set runId lease }

/-- A state is reached by steps that are allowed where they are taken. -/
inductive Reaches (instanceId : String) (allowed : State → Move → Prop) : State → Prop where
  | start : Reaches instanceId allowed {}
  | step {state next : State} {move : Move} (before : Reaches instanceId allowed state)
      (permitted : allowed state move) (moved : Claims.step instanceId state move = some next) :
      Reaches instanceId allowed next

end Durable.Claims
