import Durable.Data.Rows
import Durable.Interleaving.Program
import Durable.Interleaving.Table

/-! One run's lease, its request for another turn, and the steps of its fans. -/

namespace Durable

open Interleaving (Program Table)

/-- Something that was written and that a run is woken for; no path reads it. -/
structure WakeCause where
  number : Nat
  member : Option Nat := none
deriving Repr, DecidableEq

/-- Why a run is woken: the barrier of some step fans opened, or anything else. -/
structure WakeReason where
  generic : Bool := false
  /-- The first position of each fan, with the last of its steps to be looked at. -/
  fans : Table Nat Nat := .empty
  causes : List WakeCause := []
deriving Repr, DecidableEq, Inhabited

/-- `noteWakeReason`: one more wake, for a fan's barrier or for anything else. -/
def WakeReason.note (reason : WakeReason) (cause : WakeCause) : Option (Nat × Nat) → WakeReason
  | some (first, seq) =>
    { reason with
      fans := reason.fans.set first (max ((reason.fans.get first).getD seq) seq)
      causes := cause :: reason.causes }
  | none => { reason with generic := true, causes := cause :: reason.causes }

/-- What is kept of a reason: the fans' barriers, or nothing. -/
def WakeReason.payload (reason : WakeReason) : Option (List (Nat × Nat)) :=
  if reason.generic then none else some reason.fans.rows

/-- A reason a refused wake has kept. -/
structure KeptReason where
  id : Nat
  payload : Option (List (Nat × Nat))
  causes : List WakeCause
deriving Repr, DecidableEq

/-- `wakeReasonSeen`: a turn has read every fan of a kept reason settled, at least that far. -/
def wakeReasonSeen (settled : Nat → Nat → Bool) : Option (List (Nat × Nat)) → Bool
  | none => false
  | some fans => !fans.isEmpty && fans.all fun (first, seq) => settled first seq

/-- A fan of steps, as the run's body calls it. -/
structure StepFanCall where
  first : Nat
  size : Nat
  concurrency : Option Nat := none
  failFast : Bool := false
deriving Repr, DecidableEq

/-- A step of a fan that was sent. -/
structure FanMember where
  first : Nat
  status : StepStatus
deriving Repr, DecidableEq

/-- The step has ended. -/
def FanMember.settled (member : FanMember) : Bool :=
  member.status == .completed || member.status == .failed

namespace StepFanCall

variable (call : StepFanCall) (members : Table Nat FanMember)

/-- A position is one of the fan's. -/
def Owns (seq : Nat) : Prop := call.first ≤ seq ∧ seq < call.first + call.size

instance (seq : Nat) : Decidable (call.Owns seq) := inferInstanceAs (Decidable (_ ∧ _))

/-- The fan's positions. -/
def positions : List Nat := List.range' call.first call.size

/-- The positions whose step was not sent. -/
def unsent : List Nat := call.positions.filter fun seq => (members.get seq).isNone

/-- The positions whose step was sent and has not ended. -/
def inFlight : List Nat :=
  call.positions.filter fun seq => (members.get seq).any (!·.settled)

/-- The last position whose step was sent. -/
def highest : Option Nat :=
  (call.positions.filter fun seq => (members.get seq).isSome).getLast?

/-- A step of the fan has failed. -/
def anyFailed : Bool :=
  call.positions.any fun seq => (members.get seq).any (·.status == .failed)

/-- The steps to be sent next: none while some are in flight. -/
def batch : List Nat :=
  if call.inFlight members = [] then
    match call.concurrency with
    | none => call.unsent members
    | some most => (call.unsent members).take most
  else []

/-- How far the fan was read with nothing in flight, if it was. -/
def readSettled : Option Nat :=
  if call.inFlight members = [] then call.highest members else none

end StepFanCall

/-- What was written and what turns have read of it; no path reads it. -/
structure WakeLedger where
  written : List WakeCause := []
  begun : List WakeCause := []
  /-- The fan steps that had completed when some turn read their fan with nothing in flight. -/
  seen : List WakeCause := []
deriving Repr, DecidableEq

/-- What surrounds the run, by how often it has been asked. -/
structure WakeAround where
  /-- Whether the instance knows that its turn has lost the lease. -/
  fenced : Nat → Bool := fun _ => false
  parksOn : Nat → Option Nat := fun _ => none
deriving Inhabited

/-- One run, as far as its turns are concerned. -/
structure WakeBoard where
  status : RunStatus := .suspended
  lease : Option (String × Nat) := none
  wakeRequestedAt : Option Nat := none
  wakeAt : Option Nat := none
  reasons : List KeptReason := []
  drawn : Nat := 0
  members : Table Nat FanMember := .empty
  clock : Nat := 0
  asked : Nat := 0
  around : WakeAround := {}
  ledger : WakeLedger := {}
deriving Inhabited

/-- What a path reads of the run. -/
structure RunLook where
  status : RunStatus
  lease : Option (String × Nat)
  wakeRequestedAt : Option Nat
deriving Repr, DecidableEq

/-- What the kept reasons are read for. -/
inductive ReasonLook where
  | starting | lettingGo | again | dropping
deriving Repr, DecidableEq

/-- One store call about the run, or one look at what surrounds it. -/
inductive WakeOp where
  | clock
  | getRun
  | tryLockRun (owner : String) (leaseUntil now : Nat)
  | renewRunLock (owner : String) (leaseUntil : Nat)
  | releaseRunLock (owner : String)
  | releaseRunLockUnlessWakeRequested (owner : String)
  | requestTurn (at_ : Nat)
  | requestAgain (at_ : Nat)
  | clearRequest (starts : Bool)
  | keepReason (payload : Option (List (Nat × Nat))) (causes : List WakeCause)
  | keptReasons (look : ReasonLook) (most : Nat)
  | removeReason (id : Nat)
  | replay
  | listFan (call : StepFanCall)
  | sendMembers (first : Nat) (seqs : List Nat)
  | fenced
  | parksOn
  | park (wakeAt : Option Nat)
  | writeCause
  | settleMember (seq : Nat) (completed : Bool)

/-- What a call answers. -/
def WakeOp.Answer : WakeOp → Type
  | clock => Nat
  | getRun => RunLook
  | tryLockRun .. => Bool
  | renewRunLock .. => Bool
  | releaseRunLock .. => Unit
  | releaseRunLockUnlessWakeRequested .. => Bool
  | requestTurn _ => Bool
  | requestAgain _ => Unit
  | clearRequest _ => Unit
  | keepReason .. => Unit
  | keptReasons .. => List KeptReason
  | removeReason _ => Unit
  | replay => Unit
  | listFan _ => Table Nat FanMember
  | sendMembers .. => Unit
  | fenced => Bool
  | parksOn => Option Nat
  | park _ => Bool
  | writeCause => WakeCause
  | settleMember .. => Option (WakeCause × Nat)

/-- The statuses of a run a wake has something to do with. -/
def wakeableStatuses : List RunStatus := [.running, .suspended, .blocked]

/-- The statuses a turn may park a run from. -/
def parkableStatuses : List RunStatus := [.pending, .running, .suspended, .blocked, .failed]

namespace WakeBoard

variable (board : WakeBoard)

/-- What surrounds the run has been asked once more. -/
def asks : WakeBoard := { board with asked := board.asked + 1 }

/-- What a path reads of the run. -/
def look : RunLook :=
  { status := board.status, lease := board.lease, wakeRequestedAt := board.wakeRequestedAt }

/-- An instance holds the lease, in its own eyes. -/
def heldBy (owner : String) : Bool := board.lease.any (·.1 == owner)

/-- Write something the run is woken for. -/
def writes (member : Option Nat) : WakeBoard × WakeCause :=
  let cause : WakeCause := { number := board.ledger.written.length, member }
  ({ board with ledger := { board.ledger with written := cause :: board.ledger.written } }, cause)

/-- A turn has read a fan. -/
def readsFan (call : StepFanCall) : WakeBoard :=
  if call.inFlight board.members = [] then
    { board with ledger := { board.ledger with
      seen := board.ledger.written.filter (fun cause => cause.member.any fun seq => call.Owns seq)
        ++ board.ledger.seen } }
  else board

/-- What a call does to the run, and what it answers. -/
def exec : (op : WakeOp) → WakeBoard × op.Answer
  | .clock => (board, board.clock)
  | .getRun => (board, board.look)
  | .tryLockRun owner leaseUntil now =>
    if board.lease.any (now < ·.2) then (board, false)
    else ({ board with lease := some (owner, leaseUntil) }, true)
  | .renewRunLock owner leaseUntil =>
    if board.heldBy owner then ({ board with lease := some (owner, leaseUntil) }, true)
    else (board, false)
  | .releaseRunLock owner =>
    (if board.heldBy owner then { board with lease := none } else board, ())
  | .releaseRunLockUnlessWakeRequested owner =>
    if board.heldBy owner then
      if board.wakeRequestedAt.isSome then (board, false) else ({ board with lease := none }, true)
    else (board, true)
  | .requestTurn at_ =>
    if board.status ∈ wakeableStatuses then ({ board with wakeRequestedAt := some at_ }, true)
    else (board, false)
  | .requestAgain at_ => ({ board with wakeRequestedAt := some at_ }, ())
  | .clearRequest _ => ({ board with wakeRequestedAt := none }, ())
  | .keepReason payload causes =>
    ({ board with
      reasons := board.reasons ++ [{ id := board.drawn, payload, causes }]
      drawn := board.drawn + 1 }, ())
  | .keptReasons _ most => (board, board.reasons.take most)
  | .removeReason id => ({ board with reasons := board.reasons.filter (·.id ≠ id) }, ())
  | .replay => ({ board with ledger := { board.ledger with begun := board.ledger.written } }, ())
  | .listFan call => (board.readsFan call, board.members)
  | .sendMembers first seqs =>
    ({ board with
      members := seqs.foldl (fun members seq => members.set seq { first, status := .pending })
        board.members }, ())
  | .fenced => (board.asks, board.around.fenced board.asked)
  | .parksOn => (board.asks, board.around.parksOn board.asked)
  | .park wakeAt =>
    if board.status ∈ parkableStatuses then ({ board with status := .suspended, wakeAt }, true)
    else (board, false)
  | .writeCause => board.writes none
  | .settleMember seq completed =>
    match board.members.get seq with
    | none => (board, none)
    | some member =>
      if member.settled then (board, none)
      else
        let status := if completed then StepStatus.completed else .failed
        let settled := { board with members := board.members.set seq { member with status } }
        let (after, cause) := settled.writes (if completed then some seq else none)
        (after, some (cause, member.first))

end WakeBoard

/-- What happens to the run by itself. -/
inductive WakeDrift where
  | elapse (passed : Nat)
  | renew (owner : String) (leaseUntil : Nat)
deriving Repr, DecidableEq

/-- What happens to the run by itself. -/
def WakeBoard.drift : WakeDrift → WakeBoard → WakeBoard
  | .elapse passed, board => { board with clock := board.clock + passed }
  | .renew owner leaseUntil, board =>
    if board.heldBy owner then { board with lease := some (owner, leaseUntil) } else board

end Durable
