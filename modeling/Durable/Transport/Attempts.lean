import Durable.Interleaving.Process
import Durable.Transport.Db

/-! What becomes of the attempts that are dispatched over the database transport. -/

namespace Durable

open Interleaving

/-- How far a round over the result table has come. -/
structure RoundPhase where
  token : Option ClaimToken := none
  read : Bool := false
  won : List ResultRow := []
  handed : List ResultRow := []

/-- How far a round has come after a statement. -/
def RoundPhase.after (phase : RoundPhase) : (op : TransportOp) → op.Answer → RoundPhase
  | .hrtime instanceId, (answer : Nat) => { token := some { instanceId, stamp := answer } }
  | .claimedResults .., answer => { phase with read := true, won := answer }
  | .handleResult row, _ => { phase with handed := row :: phase.handed }
  | _, _ => phase

/-- What a round may do to the result table. -/
def RoundPhase.may (phase : RoundPhase) : TransportOp → Prop
  | .claimFresh .results _ _ token _ => phase.token = some token ∧ phase.read = false
  | .claimLapsed .results _ _ token .. => phase.token = some token ∧ phase.read = false
  | .claimedResults token _ => phase.token = some token ∧ phase.read = false ∧ phase.handed = []
  | .handleResult row => row ∈ phase.won
  | .deleteResults token ids =>
    phase.token = some token ∧ phase.read = true ∧ ∀ id ∈ ids, ∃ row ∈ phase.handed, row.stepId = id
  | _ => True

/-- Watch the rounds over the result table. -/
def roundWatch : Monitor TransportOp TransportOp.Answer RoundPhase where
  allows := RoundPhase.may
  expects _ _ _ := True
  advance := RoundPhase.after

/-- The paths over the transport's tables. -/
inductive TransportWork : TransportPath Unit → Prop where
  | dispatch (transport : DbTransport) (tasks : List RemoteTask) :
      TransportWork (transport.dispatchMany tasks)
  | tick (transport : DbTransport) : TransportWork (transport.taskTick >>= fun _ => .done ())
  | run (transport : DbTransport) (row : TaskRow) (token : ClaimToken) :
      TransportWork (transport.runTask row token)
  | results (transport : DbTransport) (order : List ResultRow → List ResultRow)
      (permutes : ∀ rows, (order rows).Perm rows) : TransportWork (transport.resultTick order)
  | renew (transport : DbTransport) (held : List (Channel × List ClaimToken)) :
      TransportWork (transport.renewHeld held)
  | handBack (channel : Channel) (tokens : List ClaimToken) :
      TransportWork (Statement.handBack channel tokens)

/-- The paths under way. -/
def transportPool (paths : List (TransportPath Unit)) :
    List (Process TransportOp TransportOp.Answer RoundPhase Unit) :=
  paths.map fun path => { phase := {}, rest := path }

/-- The paths over one set of tables; any of them may stop for good, and time passes. -/
def transportPaths : System Transport TransportOp
    (Process TransportOp TransportOp.Answer RoundPhase Unit) Nat TransportOp.Answer :=
  processes roundWatch Transport.exec
    (fun process => some { process with rest := .done (), again := none }) Transport.elapse

/-- The tables, and the paths under way over them. -/
abbrev TransportConfig :=
  Config Transport (Process TransportOp TransportOp.Answer RoundPhase Unit)

/--
An attempt is settled only once the last result of its step has been deleted, and takeovers are
counted.
-/
def spacedAttempts : Admission Transport TransportOp RoundPhase where
  step transport _ _ op :=
    match op with
    | .settleTask stepId token .. => ∀ row ∈ transport.tasks.get stepId, row.heldBy token = true →
        transport.results.get stepId = none
    | .claimLapsed .tasks _ _ _ _ countReclaims => countReclaims = true
    | _ => True

instance (transport : Transport) (phase : RoundPhase) (others : List RoundPhase)
    (op : TransportOp) : Decidable (spacedAttempts.step transport phase others op) := by
  unfold spacedAttempts
  dsimp only
  split <;> infer_instance

instance (transport : Transport) (phase : RoundPhase) (others : List RoundPhase) :
    Decidable (spacedAttempts.crash transport phase others) :=
  inferInstanceAs (Decidable True)

/-- A step is dispatched again only once what its last attempt ended with was handed over. -/
def handledFirst : Admission Transport TransportOp RoundPhase where
  step transport _ _ op :=
    match op with
    | .insertTasks _ _ _ tasks => ∀ task ∈ tasks, transport.tasks.get task.stepId = none ∧
        ∀ entry ∈ transport.ledger.settled, (entry.2.runId, entry.2.seq) = (task.runId, task.seq) →
          entry ∈ transport.ledger.handed
    | _ => True

instance (transport : Transport) (phase : RoundPhase) (others : List RoundPhase)
    (op : TransportOp) : Decidable (handledFirst.step transport phase others op) := by
  unfold handledFirst
  dsimp only
  split <;> infer_instance

instance (transport : Transport) (phase : RoundPhase) (others : List RoundPhase) :
    Decidable (handledFirst.crash transport phase others) :=
  inferInstanceAs (Decidable True)

/-- Some rounds of an instance over the result table, one after the other. -/
def DbTransport.resultTicks (transport : DbTransport) (order : List ResultRow → List ResultRow) :
    Nat → TransportPath Unit
  | 0 => return ()
  | rounds + 1 => do
    transport.resultTick order
    transport.resultTicks order rounds

namespace Transport

variable (transport : Transport)

/-- No row was ever inserted. -/
structure Unused : Prop where
  tasks : transport.tasks = .empty
  results : transport.results = .empty
  ledger : transport.ledger = {}

/-- An entry of the ledger is a result row that waits to be handed over. -/
def Waits (entry : Nat × StepResult) (row : ResultRow) : Prop :=
  transport.results.get row.stepId = some row ∧ (row.serial, row.carries) = entry

/-- An instance that has slots and is left alone hands a result row over, sooner or later. -/
def HandsOver (row : ResultRow) : Prop :=
  (∀ asked, 0 < transport.around.slots asked) →
    ∀ (instance_ : DbTransport) (order : List ResultRow → List ResultRow),
      instance_.namespaceValue = row.namespaceValue → (∀ rows, (order rows).Perm rows) →
        ∃ passed rounds, (row.serial, row.carries) ∈
          ((instance_.resultTicks order rounds).alone exec
            (transport.elapse passed)).1.ledger.handed

/-- The transport loses no attempt's result. -/
structure LosesNothing : Prop where
  settledOnce : (transport.ledger.settled.map Prod.fst).Nodup
  /-- A task row is there, or it was deleted as its result was written. -/
  deletedWritten : ∀ serial < transport.ledger.inserted,
    (∃ stepId row, transport.tasks.get stepId = some row ∧ row.serial = serial) ∨
      ∃ result, (serial, result) ∈ transport.ledger.settled ∧
        (serial, result) ∈ transport.ledger.written
  /-- The result of a settled row was handed over, or it waits for an instance to hand it over. -/
  delivered : ∀ entry ∈ transport.ledger.settled, entry ∈ transport.ledger.handed ∨
    ∃ row, transport.Waits entry row ∧ transport.HandsOver row
  counted : ∀ stepId row, transport.tasks.get stepId = some row →
    row.carries.reclaims = transport.ledger.takeovers.count row.serial

end Transport

end Durable
