import Durable.Interleaving.Process
import Durable.Wakes.Turns

/-! What becomes of the wakes a leased run refuses. -/

namespace Durable

open Interleaving

/-- How far a path about the run has come. -/
structure WakePhase where
  carries : List WakeCause := []
  kept : Bool := false
  starting : Bool := false
  served : List Nat := []
  settled : List (Nat × Nat) := []
  known : List Nat := []
  spent : List Nat := []
  /-- Whether it has cleared the request, and looks again or asks again. -/
  looking : Bool := false

namespace WakePhase

variable (phase : WakePhase)

/-- A fan was read with nothing in flight at least so far. -/
def settledFar (first seq : Nat) : Bool :=
  phase.settled.any fun note => note.1 == first && decide (seq ≤ note.2)

/-- A reason was seen by the turn. -/
def hasSeen (reason : KeptReason) : Bool :=
  decide (reason.id ∈ phase.served) || wakeReasonSeen phase.settledFar reason.payload

/-- The phase after a call has been answered. -/
def after : (op : WakeOp) → op.Answer → WakePhase
  | .writeCause, (cause : WakeCause) => { phase with carries := cause :: phase.carries }
  | .settleMember .., (some (cause, _) : Option (WakeCause × Nat)) =>
    { phase with carries := cause :: phase.carries }
  | .keepReason .., _ => { phase with kept := true }
  | .requestTurn _, _ => { phase with carries := [], kept := false }
  | .clearRequest starts, _ =>
    if starts then { phase with starting := true } else { phase with looking := true }
  | .keptReasons .starting _, (kept : List KeptReason) => { phase with served := kept.map (·.id) }
  | .keptReasons .lettingGo _, (kept : List KeptReason) =>
    { phase with spent := (kept.filter phase.hasSeen).map (·.id) }
  | .keptReasons .again _, (later : List KeptReason) =>
    { phase with looking := later.any fun reason => !decide (reason.id ∈ phase.spent) &&
        !wakeReasonSeen phase.settledFar reason.payload }
  | .requestAgain _, _ => { phase with looking := false }
  | .replay, _ => { phase with starting := false, carries := [], kept := false, settled := [] }
  | .listFan call, (members : Table Nat FanMember) =>
    { phase with
      known := members.keys ++ phase.known
      settled := match call.readSettled members with
        | none => phase.settled
        | some highest => (call.first, highest) :: phase.settled }
  | .sendMembers _ seqs, _ => { phase with known := seqs ++ phase.known }
  | _, _ => phase

end WakePhase

/-- A payload covers a cause: it is for anything, or for a fan the cause is a step of. -/
def Covers (payload : Option (List (Nat × Nat))) (cause : WakeCause) : Prop :=
  ∀ fans, payload = some fans → ∃ seq, cause.member = some seq ∧
    ∃ first last, (first, last) ∈ fans ∧ first ≤ seq ∧ seq ≤ last

/-- What a path about a run may call. -/
def WakePhase.may (fans : List StepFanCall) (phase : WakePhase) : WakeOp → Prop
  | .keepReason payload causes =>
    (∀ cause, cause ∈ causes ↔ cause ∈ phase.carries) ∧ ∀ cause ∈ causes, Covers payload cause
  | .requestTurn _ => phase.kept = true
  | .writeCause => phase.kept = false
  | .settleMember .. => phase.kept = false
  | .removeReason id => phase.starting = false ∧ (id ∈ phase.served ∨ id ∈ phase.spent)
  | .keptReasons .starting _ => phase.starting = true
  | .keptReasons .lettingGo _ => phase.starting = false
  | .listFan call => call ∈ fans ∧ phase.starting = false
  | .sendMembers first seqs => ∃ call ∈ fans, call.first = first ∧ ∀ seq ∈ seqs, call.Owns seq ∧
      ∀ earlier, first ≤ earlier → earlier < seq → earlier ∈ phase.known ∨ earlier ∈ seqs
  | _ => True

/-- What a path about a live run is answered. -/
def WakePhase.fits : (op : WakeOp) → op.Answer → Prop
  | .getRun, (run : RunLook) => isTerminalStatus run.status = false
  | .requestTurn _, (asked : Bool) => asked = true
  | .settleMember seq completed, (some (cause, first) : Option (WakeCause × Nat)) =>
    cause.member = (if completed then some seq else none) ∧ first ≤ seq
  | _, _ => True

/-- Watch the paths about a run whose body calls some fans. -/
def wakeWatch (fans : List StepFanCall) : Monitor WakeOp WakeOp.Answer WakePhase where
  allows phase op := phase.may fans op
  expects _ op answer := WakePhase.fits op answer
  advance := WakePhase.after

/-- The paths about a run whose body calls some fans. -/
inductive WakeWork (fans : List StepFanCall) : WakePath Unit → Prop where
  | wake (engine : WakeEngine) (turns : Nat) (writes : List CauseWrite) :
      WakeWork fans (engine.writeAndWake fans turns writes)
  | queue (engine : WakeEngine) (turns : Nat) (writes : List CauseWrite) :
      WakeWork fans (engine.writeAndQueue fans turns writes)
  | poll (engine : WakeEngine) (turns : Nat) :
      WakeWork fans (engine.leaseAndResume fans turns false {})
  | retry (engine : WakeEngine) (turns : Nat) (stamped : Bool) :
      WakeWork fans (engine.retryDroppedWake fans turns stamped)

/-- The body of a run calls its fans on positions of their own. -/
def FansLaid (fans : List StepFanCall) : Prop :=
  ∀ call ∈ fans, ∀ other ∈ fans, ∀ seq, call.Owns seq → other.Owns seq → call = other

/-- The paths under way. -/
def wakePool (paths : List (WakePath Unit)) :
    List (Process WakeOp WakeOp.Answer WakePhase Unit) :=
  paths.map fun path => { phase := {}, rest := path }

/-- The paths about one run; time passes, and leases are renewed. -/
def wakePaths (fans : List StepFanCall) : System WakeBoard WakeOp
    (Process WakeOp WakeOp.Answer WakePhase Unit) WakeDrift WakeOp.Answer :=
  processes (wakeWatch fans) WakeBoard.exec (fun _ => none) WakeBoard.drift

/-- The run, and the paths under way about it. -/
abbrev WakeConfig := Config WakeBoard (Process WakeOp WakeOp.Answer WakePhase Unit)

/-- All kept reasons are read at once, and a step that has ended is not sent again. -/
def reasonsInView : Admission WakeBoard WakeOp WakePhase where
  step board _ _ op :=
    match op with
    | .keptReasons _ most => board.reasons.length ≤ most
    | .sendMembers _ seqs =>
      ∀ seq ∈ seqs, ∀ member ∈ board.members.get seq, member.settled = false
    | _ => True

instance (board : WakeBoard) (phase : WakePhase) (others : List WakePhase) (op : WakeOp) :
    Decidable (reasonsInView.step board phase others op) := by
  unfold reasonsInView
  dsimp only
  split <;> infer_instance

instance (board : WakeBoard) (phase : WakePhase) (others : List WakePhase) :
    Decidable (reasonsInView.crash board phase others) :=
  inferInstanceAs (Decidable True)

namespace WakeBoard

variable (board : WakeBoard)

/-- A live run nothing was written about yet. -/
structure Untouched : Prop where
  live : board.status ∈ wakeableStatuses
  reasons : board.reasons = []
  members : board.members = .empty
  ledger : board.ledger = {}

/-- A turn has started since the cause was written. -/
def Begun (cause : WakeCause) : Prop := cause ∈ board.ledger.begun

/-- A turn has started since the cause was written, or has read its fan with nothing in flight. -/
def Answered (cause : WakeCause) : Prop := board.Begun cause ∨ cause ∈ board.ledger.seen

/-- A reason is kept for the cause. -/
def Kept (cause : WakeCause) : Prop := ∃ reason ∈ board.reasons, cause ∈ reason.causes

end WakeBoard

/-- Another turn of the run is asked for. -/
def WakeBoard.Requested (board : WakeBoard) : Prop := board.wakeRequestedAt.isSome = true

/-- No wake is lost, where causes have to be answered in some way. -/
structure NoWakeLost (answered : WakeBoard → WakeCause → Prop) (config : WakeConfig) : Prop where
  /-- A cause was answered, or some path will start a turn, or another turn is asked for. -/
  owed : ∀ cause ∈ config.shared.ledger.written, answered config.shared cause ∨
    (∃ phase ∈ phases config.pool, cause ∈ phase.carries ∨ phase.starting = true) ∨
      config.shared.Kept cause ∧ (config.shared.Requested ∨
        ∃ phase ∈ phases config.pool, phase.looking = true)
  /-- Where no path is under way, a cause was answered or another turn is asked for. -/
  rested : (∀ process ∈ config.pool, process.rests = true) →
    ∀ cause ∈ config.shared.ledger.written, answered config.shared cause ∨
      config.shared.Requested
  /-- An instance that is left alone with the run starts a turn that answers everything. -/
  due : ∀ (engine : WakeEngine) (fans : List StepFanCall) (turns : Nat), 0 < engine.leaseMs →
    ∃ passed, ∀ cause ∈ config.shared.ledger.written,
      ((engine.leaseAndResume fans turns false {}).alone WakeBoard.exec
        (config.shared.drift (.elapse passed))).1.Begun cause

end Durable
