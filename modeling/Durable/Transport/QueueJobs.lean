import Durable.Data.Grouping
import Durable.Interleaving.Runs
import Durable.Interleaving.Table

/-! The jobs that one queue transport has popped: run, renewed, and handed back when it closes. -/

namespace Durable.QueueJobs

open Interleaving (Table)

/-- What a claimed job is finalized with. -/
inductive JobHandle where
  | lease (id leaseToken : String)
  | id (id : String)
deriving Repr, DecidableEq

/-- A job as a pop gives it out. -/
structure AcquiredJob where
  id : String
  leaseToken : Option String
deriving Repr, DecidableEq

/-- The handle of a claimed job: its lease when the adapter issued one, else its id. -/
def jobHandle (job : AcquiredJob) : JobHandle :=
  match job.leaseToken with
  | some leaseToken => .lease job.id leaseToken
  | none => .id job.id

/-- An entry of the map of open jobs. -/
structure OpenJob where
  queue : String
  handle : JobHandle
  claim : Nat
deriving Repr, DecidableEq

/-- How far `#runJob` is with a claim. -/
inductive Phase where
  | handling
  /-- The handler has succeeded, and the job is being completed. -/
  | completing
  /-- The handler has failed, or the completion, and the job is being retried. -/
  | retrying
  | over
deriving Repr, DecidableEq

/-- How `#runJob` finalized a claim. -/
inductive Ending where
  | completed | retried
deriving Repr, DecidableEq

/-- A claim that a pop has given out. -/
structure Claim where
  queue : String
  job : AcquiredJob
  /-- How many renewal rounds had been started when it was popped. -/
  since : Nat
  phase : Phase := .handling
  endings : List Ending := []
  renewals : List Nat := []
  handedBack : Bool := false
deriving Repr, DecidableEq

/-- How far `close` is. -/
inductive Closing where
  | running
  | draining
  | drained
  | handingBack (rest : List (String × OpenJob))
  | closed
deriving Repr, DecidableEq

/-- One transport, and the claims it was given. -/
structure State where
  openJobs : Table String OpenJob := .empty
  claims : List Claim := []
  rounds : Nat := 0
  /-- What the renewal round under way has still to renew, queue by queue. -/
  renewal : Option (List (String × List OpenJob)) := none
  closing : Closing := .running
deriving Repr, DecidableEq

/-- What happens next. -/
inductive Move where
  | pop (queue : String) (job : AcquiredJob)
  | handled (claim : Nat) (succeeds : Bool)
  | completed (claim : Nat) (answered : Bool)
  | retried (claim : Nat)
  | renew
  | renewQueue
  | close
  | drained
  | handBack
  | handBackNext

section Operations

variable (state : State)

/-- The open jobs of each queue, as a renewal round collects them. -/
def byQueue (jobs : List OpenJob) : List (String × List OpenJob) :=
  Grouping.collect (fun job => some job.queue) (fun leases job => leases.getD [] ++ [job]) jobs

/-- What is left of a round, if anything is. -/
def goOn : List (String × List OpenJob) → Option (List (String × List OpenJob))
  | [] => none
  | group :: rest => some (group :: rest)

/-- A claim changes. -/
def change (index : Nat) (edit : Claim → Claim) : State :=
  { state with claims := state.claims.modify index edit }

/-- `#runJob` is over: its job is no longer open. -/
def finish (index : Nat) (claim : Claim) (ending : Ending) : State :=
  { change state index fun claim =>
      { claim with phase := .over, endings := claim.endings ++ [ending] } with
    openJobs := state.openJobs.erase claim.job.id }

/-- The claims of a queue are renewed in a round. -/
def renewJobs (jobs : List OpenJob) : List Claim :=
  state.claims.mapIdx fun index claim =>
    if jobs.any fun job => job.claim = index then
      { claim with renewals := claim.renewals ++ [state.rounds - 1] }
    else claim

/-- Whether the renewal timer runs. -/
def Closing.renews : Closing → Bool
  | .running => true
  | .draining => true
  | _ => false

/-- What a move makes of the state, if it can happen. -/
def step : Move → Option State
  | .pop queue job => some { state with
      openJobs := state.openJobs.set job.id ⟨queue, jobHandle job, state.claims.length⟩
      claims := state.claims ++ [{ queue := queue, job := job, since := state.rounds }] }
  | .handled index succeeds =>
    match state.claims[index]? with
    | none => none
    | some claim =>
      if claim.phase = .handling then
        some (change state index fun claim =>
          { claim with phase := if succeeds then .completing else .retrying })
      else none
  | .completed index answered =>
    match state.claims[index]? with
    | none => none
    | some claim =>
      if claim.phase = .completing then
        if answered then some (finish state index claim .completed)
        -- A completion that fails ends in the same catch as a handler that does.
        else some (change state index fun claim => { claim with phase := .retrying })
      else none
  | .retried index =>
    match state.claims[index]? with
    | none => none
    | some claim =>
      if claim.phase = .retrying then some (finish state index claim .retried) else none
  | .renew =>
    if state.renewal = none ∧ state.closing.renews then
      some { state with
        rounds := state.rounds + 1
        renewal := goOn (byQueue state.openJobs.values) }
    else none
  | .renewQueue =>
    match state.renewal with
    | some ((_, jobs) :: rest) =>
      some { state with claims := renewJobs state jobs, renewal := goOn rest }
    | _ => none
  | .close =>
    match state.closing with
    | .running => some { state with closing := .draining }
    | _ => none
  | .drained =>
    match state.closing with
    | .draining => some { state with closing := .drained }
    | _ => none
  | .handBack =>
    match state.closing, state.renewal with
    | .drained, none => some { state with closing := .handingBack state.openJobs.rows }
    | _, _ => none
  | .handBackNext =>
    match state.closing with
    | .handingBack ((jobId, job) :: rest) =>
      some { change state job.claim fun claim => { claim with handedBack := true } with
        openJobs := state.openJobs.erase jobId
        closing := .handingBack rest }
    | .handingBack [] => some { state with closing := .closed }
    | _ => none

end Operations

end Durable.QueueJobs
