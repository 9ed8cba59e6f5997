import Durable.Proofs.Ctx.Silence

/-! Which operations refuse a checkpoint that another operation recorded. -/

namespace Durable

open Interleaving

variable {found : Option (Nat × StepCheckpoint)} {program : Engine OpEnd} {row : StepCheckpoint}
  {seq : Nat} {rest : Option StepCheckpoint → Engine OpEnd}

abbrev History := Nat → Option StepCheckpoint

def fitsHistory (history : History) : (op : StoreOp) → op.Answer → Prop
  | .readCheckpoint _ seq _, answer => ∀ row, history seq = some row → answer = some row
  | .getCheckpoint _ seq, answer => ∀ row, history seq = some row → answer = some row
  | .replayCheckpoints _, answer => ∀ seq row, history seq = some row → answer seq = some row
  | _, _ => True

/-- The recorded checkpoint a replay's read finds that its operation does not record itself. -/
def foreignRow (history : History) (owner : Nat → Owner) :
    (op : StoreOp) → op.Answer → Option (Nat × StepCheckpoint)
  | .readCheckpoint _ seq _, some row =>
    if history seq = some row ∧ (owner seq).admits row = false then some (seq, row) else none
  | _, _ => none

/-- Watch for the first checkpoint of another operation that a replay finds. -/
def firstForeign (history : History) (owner : Nat → Owner) :
    Monitor StoreOp StoreOp.Answer (Option (Nat × StepCheckpoint)) where
  allows _ _ := True
  expects _ op answer := fitsHistory history op answer
  advance found op answer := found.or (foreignRow history owner op answer)

def unwatched : Monitor StoreOp StoreOp.Answer Unit where
  allows _ _ := True
  expects _ _ _ := True
  advance _ _ _ := ()

section Guard

variable (host : CtxHost) (history : History) (current : Nat) (op : CtxOp)

/-- The operation compares names at this checkpoint, and the names differ. -/
def IsRefused (seq : Nat) (row : StepCheckpoint) : Prop :=
  op.checksName row = true ∧ row.name ≠ (op.ownerAt host current seq).name

def Refuses (seq : Nat) (ending : OpEnd) : Prop :=
  ∃ expected recorded, ending = .nonDeterminism seq expected recorded

/-- The call takes only its own checkpoints, or throws at the first that is another's. -/
def TakesOwn : Prop :=
  (host.call current op).Meets (firstForeign history (op.ownerAt host current))
    (fun found ending => ∀ seq row, found = some (seq, row) →
      Refuses seq ending) none

/-- The first checkpoint of another operation that the call finds has another name it compares. -/
def ForeignRefused : Prop :=
  (host.call current op).Meets (firstForeign history (op.ownerAt host current))
    (fun found _ => ∀ seq row, found = some (seq, row) → IsRefused host current op seq row) none

/-- The call throws for the first checkpoint of another operation exactly when it refuses it. -/
def HeedsAt (found : Option (Nat × StepCheckpoint)) (ending : OpEnd) : Prop :=
  ∀ seq row, found = some (seq, row) →
    (Refuses seq ending ↔ IsRefused host current op seq row)

/-- A program heeds the checkpoints of other operations it finds. -/
def Heeds (program : Engine OpEnd) (found : Option (Nat × StepCheckpoint)) : Prop :=
  program.Meets (firstForeign history (op.ownerAt host current)) (HeedsAt host current op) found

variable {host history current op} {α : Type}

theorem unmoved_of_silent {owner : Nat → Owner} {program : Engine α}
    (silent : Silent anyEnd program) :
    program.Meets (firstForeign history owner) (fun after _ => after = found) found := by
  induction program with
  | done result => rfl
  | call op' next ih =>
    refine ⟨trivial, fun answer _ => ?_⟩
    have quiet := silent.1
    -- An operation that is no read for the replay finds nothing.
    have unfound : (firstForeign history owner).advance found op' answer = found := by
      cases op' <;> first | exact Option.or_none | cases quiet
    rw [unfound]
    exact ih answer (silent.2 answer trivial)

theorem heeds_of_silent (silent : Silent anyEnd program) :
    Heeds host history current op program none :=
  Program.Meets.weaken (unmoved_of_silent silent) fun found ending unmoved seq row located => by
    subst unmoved
    cases located

theorem heeds_of_calm (accepted : ¬ IsRefused host current op seq row)
    (calm : program.Meets (firstForeign history (op.ownerAt host current))
      (fun _ ending => Calm ending) (some (seq, row))) :
    Heeds host history current op program (some (seq, row)) := by
  induction program with
  | done ending =>
    rintro seq' row' ⟨⟩
    refine ⟨?_, fun refused => absurd refused accepted⟩
    rintro ⟨expected, recorded, rfl⟩
    exact calm.elim
  | call op' next ih => exact ⟨trivial, fun answer fits => ih answer (calm.2 answer fits)⟩

def Unguarded (program : Engine OpEnd) : Prop :=
  program.Meets unwatched (fun _ ending => Calm ending) ()

theorem unguarded_of_silent (silent : Silent Calm program) : Unguarded program := by
  induction program with
  | done ending => exact silent
  | call op' next ih => exact ⟨trivial, fun answer _ => ih answer (silent.2 answer trivial)⟩

theorem calm_of_unguarded (unguarded : Unguarded program) :
    program.Meets (firstForeign history (op.ownerAt host current))
      (fun _ ending => Calm ending) found := by
  induction program generalizing found with
  | done ending => exact unguarded
  | call op' next ih => exact ⟨trivial, fun answer _ => ih answer (unguarded.2 answer trivial)⟩

theorem heeds_of_tolerated
    (tolerated : ∀ seq row, found = some (seq, row) → ¬ IsRefused host current op seq row)
    (silent : Silent Calm program) : Heeds host history current op program found := by
  cases found with
  | none => exact heeds_of_silent silent.anyEnd
  | some checkpoint =>
    exact heeds_of_calm (tolerated _ _ rfl) (calm_of_unguarded (unguarded_of_silent silent))

theorem unguarded_bind {first : Engine α} {rest : α → Engine OpEnd}
    (closing : ∀ result, Unguarded (rest result)) : Unguarded (first >>= rest) := by
  induction first with
  | done result => exact closing result
  | call op' next ih => exact ⟨trivial, fun answer _ => ih answer⟩

theorem heeds_of_unguarded (unchecked : ∀ row, op.checksName row = false)
    (unguarded : Unguarded program) : Heeds host history current op program none := by
  refine Program.Meets.weaken (calm_of_unguarded unguarded) fun found ending calm seq row _ => ?_
  refine ⟨?_, fun refused => ?_⟩
  · rintro ⟨expected, recorded, rfl⟩
    exact calm.elim
  · have named := refused.1
    rw [unchecked row] at named
    cases named

theorem heeds_read (silent : ∀ answer, Silent anyEnd (rest answer))
    (heeding : ∀ row, history seq = some row →
      Heeds host history current op (rest (some row)) (some (seq, row))) :
    Heeds host history current op (host.readCheckpoint seq >>= rest) none := by
  refine ⟨trivial, fun answer fits => ?_⟩
  cases answer with
  | none => exact heeds_of_silent (silent none)
  | some row =>
    change Heeds host history current op (rest (some row))
      (none.or (if history seq = some row ∧ _ then some (seq, row) else none))
    split
    · rename_i foreign
      exact heeding row foreign.1
    · exact heeds_of_silent (silent (some row))

/--
An operation that reads one position heeds it by refusing where it has to, and only there.

Wherever it does not refuse, what follows the read is calm.
-/
theorem heeds_guarded (absent : Silent Calm (rest none))
    (refused : ∀ row, IsRefused host current op seq row →
      rest (some row) = .done (.nonDeterminism seq (op.ownerAt host current seq).name row.name))
    (accepted : ∀ row, ¬ IsRefused host current op seq row → Silent Calm (rest (some row))) :
    Heeds host history current op (host.readCheckpoint seq >>= rest) none := by
  refine heeds_read (fun answer => ?_) fun row _ => ?_
  · cases answer with
    | none => exact absent.anyEnd
    | some row =>
      by_cases refusing : IsRefused host current op seq row
      · rw [refused row refusing]
        trivial
      · exact (accepted row refusing).anyEnd
  · by_cases refusing : IsRefused host current op seq row
    · rw [refused row refusing]
      rintro seq' row' ⟨⟩
      exact ⟨fun _ => refusing, fun _ => ⟨_, _, rfl⟩⟩
    · refine heeds_of_tolerated ?_ (accepted row refusing)
      rintro seq' row' ⟨⟩
      exact refusing

end Guard

section Operations

variable {host : CtxHost} {history : History} {current : Nat} {op : CtxOp} {step : StepDef}
  {expected recorded : String} {fan : StepFan} {again : Engine OpEnd} {turn : RemoteTurn}
  {later : List Nat}

theorem isRefused_iff {name : String} (checks : ∀ row, op.checksName row = true)
    (named : (op.ownerAt host current seq).name = name) :
    IsRefused host current op seq row ↔ row.name ≠ name := by
  simp [IsRefused, checks, named]

theorem heeds_compared (name : String) (checks : ∀ row, op.checksName row = true)
    (named : (op.ownerAt host current seq).name = name) (absent : Silent Calm (rest none))
    (differs : ∀ row, row.name ≠ name →
      rest (some row) = .done (.nonDeterminism seq name row.name))
    (same : ∀ row, row.name = name → Silent Calm (rest (some row))) :
    Heeds host history current op (host.readCheckpoint seq >>= rest) none := by
  refine heeds_guarded absent (fun row refused => ?_) fun row accepted => ?_
  · rw [named]
    exact differs row ((isRefused_iff checks named).mp refused)
  · rw [isRefused_iff checks named, Decidable.not_not] at accepted
    exact same row accepted

theorem heeds_localStep (name : String) (retries : Option Nat)
    (checks : ∀ row, op.checksName row = true)
    (named : (op.ownerAt host current current).name = name) :
    Heeds host history current op (host.localStep name retries current) none := by
  refine heeds_compared name checks named (host.runLocalStep_silent current name _)
    (fun row differs => by simp only [if_pos differs]; rfl) fun row same => ?_
  simp only [same, ne_eq, not_true_eq_false, if_false]
  split
  · trivial
  · exact host.runLocalStep_silent current name _

theorem heeds_transaction (name : String) :
    Heeds host history current (.transaction name) (host.transaction name current) none := by
  unfold CtxHost.transaction
  split
  · exact heeds_of_silent trivial
  · refine heeds_compared name (fun _ => rfl) rfl (host.runTransaction_silent name current)
      (fun row differs => by simp only [if_pos differs]; rfl) fun row same => ?_
    simp only [same, ne_eq, not_true_eq_false, if_false]
    split
    · trivial
    · exact host.runTransaction_silent name current

theorem heeds_setEvent (key : String) (value : Payload) :
    Heeds host history current (.setEvent key value) (host.setEvent key value current) none := by
  refine heeds_compared ("event:" ++ key) (fun _ => rfl) rfl ⟨rfl, fun _ _ => trivial⟩
    (fun row differs => by simp only [if_pos differs]; rfl) fun row same => ?_
  simp only [same, ne_eq, not_true_eq_false, if_false]
  split
  · trivial
  · exact ⟨rfl, fun _ _ => trivial⟩

theorem heeds_upsertSearchAttributes (attrs : Payload) :
    Heeds host history current (.upsertSearchAttributes attrs)
      (host.upsertSearchAttributes attrs current) none := by
  refine heeds_compared "searchAttributes" (fun _ => rfl) rfl ⟨rfl, fun _ _ => trivial⟩
    (fun row differs => by simp only [if_pos differs]; rfl) fun row same => ?_
  simp only [same, ne_eq, not_true_eq_false, if_false]
  trivial

theorem heeds_patched (id : String) :
    Heeds host history current (.patched id) (host.patched id current) none := by
  refine heeds_guarded ⟨rfl, fun _ _ => trivial⟩ (fun row refused => ?_) fun row accepted => ?_
  · obtain ⟨marked, differs⟩ := refused
    simp only [CtxOp.ownerAt, Owner.name] at differs
    simp only [CtxOp.checksName] at marked
    simp only [if_neg differs, if_pos marked]
    rfl
  · dsimp only
    split
    · trivial
    · rename_i differs
      split
      · rename_i marked
        exact absurd ⟨marked, differs⟩ accepted
      · trivial

theorem heeds_callEntity (name key entityOp : String) (arg : Payload) :
    Heeds host history current (.callEntity name key entityOp arg)
      (host.callEntity name key entityOp arg current) none := by
  refine heeds_guarded ?_ (fun row refused => ?_) fun row accepted => ?_
  · exact ⟨rfl, fun _ _ => ⟨rfl, fun _ _ => host.sendIntent_silent name key entityOp arg current⟩⟩
  · obtain ⟨open_, differs⟩ := refused
    simp only [CtxOp.ownerAt, Owner.name] at differs
    have pending : ¬ row.status = .completed := by simpa [CtxOp.checksName] using open_
    simp only [if_neg pending, if_pos differs]
    rfl
  · dsimp only
    split
    · trivial
    · rename_i pending
      have same : ¬ row.name ≠ signalName (host.entityReplyToken current) := fun differs =>
        accepted ⟨by simpa [CtxOp.checksName] using pending, differs⟩
      rw [if_neg same]
      split
      · refine silent_perform rfl fun stored => ?_
        split
        · trivial
        · exact host.awaitReply_silent ..
      · exact host.awaitReply_silent ..

theorem unguarded_read (absent : Silent Calm (rest none))
    (present : ∀ row, Silent Calm (rest (some row))) :
    Unguarded (host.readCheckpoint seq >>= rest) := by
  refine unguarded_bind fun answer => unguarded_of_silent ?_
  cases answer with
  | none => exact absent
  | some row => exact present row

theorem unguarded_wait (ending : Payload → OpEnd) (calm : ∀ output, Calm (ending output))
    (silent : Silent Calm program) (absent : rest none = program)
    (present : ∀ row, rest (some row) =
      if row.status = .completed then .done (ending row.output) else program) :
    Unguarded (host.readCheckpoint seq >>= rest) := by
  refine unguarded_read (absent ▸ silent) fun row => ?_
  rw [present row]
  split
  · exact calm row.output
  · exact silent

theorem unguarded_suspendUntil (wakeAt : Nat → Nat) :
    Unguarded (host.suspendUntil wakeAt current) := by
  refine unguarded_bind fun now => unguarded_read ?_ fun row => ?_
  · exact ⟨rfl, fun _ _ => ⟨rfl, fun _ _ => trivial⟩⟩
  · dsimp only
    split <;> trivial

theorem unguarded_waitForSignal (token : Token) (timeoutMs : Option Nat) :
    Unguarded (host.call current (.waitForSignal token timeoutMs)) := by
  cases timeoutMs with
  | none =>
    exact unguarded_wait (returnedAt (current + 1)) (fun _ => trivial)
      (host.awaitSignal_silent token current) rfl fun _ => rfl
  | some timeoutMs =>
    exact unguarded_bind fun deadline =>
      unguarded_wait (returnedAt (current + 2)) (fun _ => trivial)
        (host.awaitSignalUntil_silent token (current + 1) timeoutMs deadline) rfl fun _ => rfl

theorem unguarded_waitForEvent (name : String) (criteria : Option EventMatch)
    (timeoutMs : Option Nat) :
    Unguarded (host.call current (.waitForEvent name criteria timeoutMs)) := by
  cases timeoutMs with
  | none =>
    exact unguarded_wait (returnedAt (current + 1)) (fun _ => trivial)
      (host.registerForEvent_silent name _ _ current none) rfl fun _ => rfl
  | some timeoutMs =>
    exact unguarded_bind fun deadline =>
      unguarded_wait (returnedAt (current + 2)) (fun _ => trivial)
        (host.awaitEventUntil_silent name _ _ (current + 1) timeoutMs deadline) rfl fun _ => rfl

theorem unguarded_waitForRun (target : String) (timeoutMs : Option Nat) :
    Unguarded (host.call current (.waitForRun target timeoutMs)) := by
  cases timeoutMs with
  | none =>
    exact unguarded_wait (returnedAt (current + 1)) (fun _ => trivial)
      (host.registerForRun_silent target _ current none) rfl fun _ => rfl
  | some timeoutMs =>
    exact unguarded_bind fun deadline =>
      unguarded_wait (returnedAt (current + 2)) (fun _ => trivial)
        (host.awaitRunUntil_silent target _ (current + 1) timeoutMs deadline) rfl fun _ => rfl

theorem unguarded_webhookWait (minted : Nat) (timeoutMs : Option Nat) :
    Unguarded (host.call current (.webhookWait minted timeoutMs)) := by
  cases timeoutMs with
  | none =>
    exact unguarded_wait (returnedAt current) (fun _ => trivial)
      (host.awaitCallback_silent minted current) rfl fun _ => rfl
  | some timeoutMs =>
    -- Here the deadline is read only once the buffer has been found empty.
    have bounded : Unguarded (host.awaitCallbackUntil minted timeoutMs current) := by
      refine unguarded_bind fun found => ?_
      cases found with
      | some payload => trivial
      | none =>
        refine unguarded_bind fun deadline => unguarded_bind fun now => unguarded_of_silent ?_
        split
        · exact host.timeOut_silent ..
        · exact host.registerAndRecheck_silent ..
    refine unguarded_bind fun answer => ?_
    cases answer with
    | none => exact bounded
    | some row =>
      dsimp only
      split
      · trivial
      · exact bounded

theorem unguarded_breakpoint (label : Option String) :
    Unguarded (host.breakpoint label current) :=
  unguarded_read ⟨rfl, fun _ _ => ⟨rfl, fun _ _ => trivial⟩⟩ fun row => by
    dsimp only
    split <;> trivial

theorem unguarded_child (childId : Option String) : Unguarded (host.child childId current) := by
  refine unguarded_read ⟨rfl, fun _ _ => host.joinChild_silent _ current⟩ fun row => ?_
  dsimp only
  split
  · exact calm_unwrapped _ _ _
  · exact host.joinChild_silent _ current

theorem unguarded_startChild (childId : Option String) :
    Unguarded (host.startChild childId current) :=
  unguarded_wait (returnedAt (current + 1)) (fun _ => trivial)
    (host.spawnChild_silent _ current) rfl fun _ => rfl

theorem unguarded_signalEntity (name key entityOp : String) (arg : Payload) :
    Unguarded (host.signalEntity name key entityOp arg current) :=
  unguarded_wait (fun _ => returnedAt (current + 1) none) (fun _ => trivial)
    (host.dispatchEntityOp_silent name key entityOp arg current) rfl fun _ => rfl

theorem unguarded_allChildren (fan : ChildFan) : Unguarded (host.allChildren fan) := by
  refine unguarded_bind fun rows => unguarded_bind fun runs => unguarded_bind fun completions => ?_
  cases fan.turn rows completions with
  | threw error cancelled => exact unguarded_bind fun _ => trivial
  | suspended registered => exact unguarded_bind fun _ => unguarded_bind fun _ => trivial
  | returned outputs => trivial
  | settled results => trivial

theorem callRemote_other (policy : RemotePolicy) (runId : String) (seq : Nat) (input : Payload)
    (group refusal : Option String) (differs : row.name ≠ step.name) :
    policy.callRemote runId seq step input group refusal (some row) =
      .nonDeterminism step.name row.name := by
  simp [RemotePolicy.callRemote, differs]

theorem dispatch_named (runId : String) (seq : Nat) (step : StepDef) (attempt : Nat)
    (input : Payload) (group refusal : Option String) (expected recorded : String) :
    RemotePolicy.dispatch runId seq step attempt input group refusal ≠
      .nonDeterminism expected recorded := by
  unfold RemotePolicy.dispatch
  split <;> simp

theorem callRemote_named (policy : RemotePolicy) (runId : String) (seq : Nat) (input : Payload)
    (group refusal : Option String) (same : row.name = step.name) (expected recorded : String) :
    policy.callRemote runId seq step input group refusal (some row) ≠
      .nonDeterminism expected recorded := by
  simp only [RemotePolicy.callRemote, same, ne_eq, not_true_eq_false, if_false]
  split
  · simp
  split
  · simp
  split
  · simp
  split
  · unfold RemotePolicy.awaitPending
    split
    · simp
    split
    · simp
    split
    · simp
    split <;> simp
  · unfold RemotePolicy.retryFailed
    split
    · simp
    split
    · simp
    split
    · simp
    · exact dispatch_named _ _ _ _ _ _ _ _ _
  · exact dispatch_named _ _ _ _ _ _ _ _ _

/-- The ends of a program that has found a checkpoint are calm. -/
def Watched (host : CtxHost) (history : History) (current : Nat) (op : CtxOp)
    (found : Nat × StepCheckpoint) (program : Engine OpEnd) : Prop :=
  program.Meets (firstForeign history (op.ownerAt host current)) (fun _ ending => Calm ending)
    (some found)

theorem watched_applyRemote {found : Nat × StepCheckpoint} (seq : Nat) (step : StepDef)
    (input : Payload) (existing : Option StepCheckpoint)
    (retried : Watched host history current op found again)
    (named : ∀ expected recorded, turn ≠ .nonDeterminism expected recorded) :
    Watched host history current op found
      (host.applyRemote seq step input existing again turn) := by
  cases turn with
  | nonDeterminism expected recorded => exact absurd rfl (named expected recorded)
  | suspended wakeAt write _ =>
    cases write with
    | none => trivial
    | some write =>
      simp only [CtxHost.applyRemote]
      split
      · refine ⟨trivial, fun saved _ => ?_⟩
        cases saved
        · exact retried
        · trivial
      · exact ⟨trivial, fun _ _ => trivial⟩
  | awaited => exact calm_of_unguarded (unguarded_of_silent (host.awaitRemote_silent ..))
  | returned | failed | refused => trivial

theorem watched_decideRemote {found : Nat × StepCheckpoint} (seq : Nat) (input : Payload)
    (retried : Watched host history current op found again) (same : row.name = step.name) :
    Watched host history current op found
      (host.decideRemote seq step input again (some row)) :=
  ⟨trivial, fun _ _ => ⟨trivial, fun _ _ =>
    watched_applyRemote seq step input (some row) retried (callRemote_named _ _ _ _ _ _ same)⟩⟩

theorem watched_redecideRemote {found : Nat × StepCheckpoint} (seq : Nat) (input : Payload)
    (recorded : history seq = some row) (same : row.name = step.name) (rereads : Nat) :
    Watched host history current op found (host.redecideRemote seq step input rereads) := by
  induction rereads with
  | zero => trivial
  | succ rereads ih =>
    refine ⟨trivial, fun answer fits => ?_⟩
    -- The stored row is the recorded one, whenever it is read.
    rw [fits row recorded]
    exact watched_decideRemote seq input ih same

theorem heeds_applyRemote {input : Payload}
    (refused : IsRefused host current (.step step input) current row)
    (differs : row.name ≠ step.name) (policy : RemotePolicy) (refusal : Option String)
    (again : Engine OpEnd) : Heeds host history current (.step step input)
      (host.applyRemote current step input (some row) again
        (policy.callRemote host.runId current step input none refusal (some row)))
      (some (current, row)) := by
  rw [callRemote_other _ _ _ _ _ _ differs]
  rintro seq' row' ⟨⟩
  exact ⟨fun _ => refused, fun _ => ⟨_, _, rfl⟩⟩

theorem heeds_step (step : StepDef) (input : Payload) :
    Heeds host history current (.step step input) (host.step step input current) none := by
  have again := host.redecideRemote_silent current step input host.rereads
  refine heeds_read (fun answer => ?_) fun row recorded => ?_
  · split
    · exact silent_perform rfl fun stored => host.decideRemote_silent current step input again _
    · exact host.decideRemote_silent current step input again _
  · by_cases same : row.name = step.name
    · have accepted : ¬ IsRefused host current (.step step input) current row := fun refused =>
        refused.2 same
      have retried : Watched host history current (.step step input) (current, row)
          (host.redecideRemote current step input host.rereads) :=
        watched_redecideRemote current input recorded same host.rereads
      refine heeds_of_calm accepted ?_
      split
      · refine ⟨trivial, fun stored fits => ?_⟩
        rw [fits row recorded]
        exact watched_decideRemote current input retried same
      · exact watched_decideRemote current input retried same
    · have refused : IsRefused host current (.step step input) current row := ⟨rfl, same⟩
      have deciding : Heeds host history current (.step step input)
          (host.decideRemote current step input
            (host.redecideRemote current step input host.rereads) (some row))
          (some (current, row)) :=
        ⟨trivial, fun now _ => ⟨trivial, fun refusal _ => heeds_applyRemote refused same _ _ _⟩⟩
      split
      · refine ⟨trivial, fun stored fits => ?_⟩
        rw [fits row recorded]
        exact deciding
      · exact deciding

theorem look_other (fan : StepFan) (policy : RemotePolicy) (refusals : Nat → Option String)
    (index : Nat) (tally : FanTally) (differs : row.name ≠ fan.step.name) :
    fan.look policy refusals index (some row) tally =
      .error (.nonDeterminism fan.step.name row.name) := by
  simp [StepFan.look, differs]

theorem look_named (fan : StepFan) (policy : RemotePolicy) (refusals : Nat → Option String)
    (index : Nat) (tally : FanTally) {row : Option StepCheckpoint}
    (same : ∀ checkpoint ∈ row, checkpoint.name = fan.step.name) :
    fan.look policy refusals index row tally ≠ .error (.nonDeterminism expected recorded) := by
  cases row with
  | none => simp [StepFan.look]
  | some row =>
    have named := same row rfl
    have unrefused := fun group refusal => callRemote_named policy fan.runId
      (fan.firstSeq + index) (fan.inputs.getD index none) group refusal named
    simp only [StepFan.look, named, ne_eq, not_true_eq_false, if_false]
    split
    · simp
    split
    · simp
    split
    · simp
    · simp
    · split <;> simp
    · rename_i decided
      exact absurd decided (unrefused _ _ _ _)
    · simp
    · simp

theorem conclude_named (fan : StepFan) (policy : RemotePolicy) (refusals : Nat → Option String)
    (tally : FanTally) (expected recorded : String) :
    fan.conclude policy refusals tally ≠ .nonDeterminism expected recorded := by
  unfold StepFan.conclude
  split
  · simp
  split
  · simp
  unfold StepFan.finish
  dsimp only
  split
  · simp
  split <;> simp

/-- What a survey has found, if anything, is a row of the fan's own name, and of no later member. -/
def FoundNamed (fan : StepFan) (later : List Nat) (found : Option (Nat × StepCheckpoint)) : Prop :=
  ∀ seq row, found = some (seq, row) →
    row.name = fan.step.name ∧ ∀ index ∈ later, seq ≠ fan.firstSeq + index

theorem FoundNamed.subset {fewer : List Nat} (named : FoundNamed fan later found)
    (subset : fewer ⊆ later) : FoundNamed fan fewer found := fun seq row located =>
  ⟨(named seq row located).1, fun index member => (named seq row located).2 index (subset member)⟩

/-- A survey refuses the first row of another name, and only such a row. -/
def SurveyEnds (fan : StepFan) (found : Option (Nat × StepCheckpoint)) :
    Except (Nat × StepFanOutcome) FanTally → Prop
  | .ok _ => FoundNamed fan [] found
  | .error (index, ended) =>
    (FoundNamed fan [] found ∧ ∀ expected recorded, ended ≠ .nonDeterminism expected recorded) ∨
      ∃ row : StepCheckpoint, row.name ≠ fan.step.name ∧
        ended = .nonDeterminism fan.step.name row.name ∧
        (FoundNamed fan [index] found ∨ found = some (fan.firstSeq + index, row))

theorem callRemote_refuses (policy : RemotePolicy) (runId : String) (seq : Nat) (input : Payload)
    (group refusal : Option String) {existing : Option StepCheckpoint}
    (refused : policy.callRemote runId seq step input group refusal existing =
      .nonDeterminism expected recorded) :
    ∃ row, existing = some row ∧ row.name ≠ step.name ∧ expected = step.name ∧
      recorded = row.name := by
  cases existing with
  | none =>
    -- Without a row there is no name to compare.
    simp only [RemotePolicy.callRemote, RemotePolicy.dispatch] at refused
    split at refused
    · cases refused
    split at refused
    · cases refused
    split at refused <;> cases refused
  | some row =>
    by_cases same : row.name = step.name
    · exact absurd refused (callRemote_named policy runId seq input group refusal same _ _)
    · simp only [RemotePolicy.callRemote, if_pos same] at refused
      cases refused
      exact ⟨row, rfl, same, rfl, rfl⟩

/-- A member refuses a row of another name only, and the recorded one if there is one. -/
def MemberEnds (history : History) (fan : StepFan) (index : Nat) (expected recorded : String) :
    Prop :=
  ∃ row : StepCheckpoint, row.name ≠ fan.step.name ∧ expected = fan.step.name ∧
    recorded = row.name ∧ ∀ known, history (fan.firstSeq + index) = some known → known = row

theorem decideMember_meets (fan : StepFan) (policy : RemotePolicy)
    (refusals : Nat → Option String) (owner : Nat → Owner) (index : Nat)
    (found : Option (Nat × StepCheckpoint)) (rereads : Nat) :
    (CtxHost.decideMember fan policy refusals index rereads).Meets (firstForeign history owner)
      (fun after turn => after = found ∧ ∀ expected recorded,
        turn = .nonDeterminism expected recorded →
          MemberEnds history fan index expected recorded) found := by
  induction rereads with
  | zero => exact ⟨rfl, fun _ _ refused => nomatch refused⟩
  | succ rereads ih =>
    unfold CtxHost.decideMember
    refine Program.meets_perform trivial fun stored fits => ?_
    rw [show (firstForeign history owner).advance found (.getCheckpoint _ _) stored = found from
      Option.or_none]
    dsimp only
    split
    · -- The row is rewritten, and read again when it has moved on.
      rename_i write sends decided
      split
      · refine Program.meets_perform trivial fun wrote _ => ?_
        rw [show (firstForeign history owner).advance found (.saveCheckpointIfPending _) wrote =
          found from Option.or_none]
        cases wrote with
        | true => exact ⟨rfl, fun _ _ refused => nomatch decided.symm.trans refused⟩
        | false => exact ih
      · refine Program.meets_perform trivial fun _ _ => ?_
        exact ⟨Option.or_none, fun _ _ refused => nomatch decided.symm.trans refused⟩
    · refine ⟨rfl, fun expected recorded refused => ?_⟩
      obtain ⟨row, rfl, differs, rfl, rfl⟩ := callRemote_refuses _ _ _ _ _ _ refused
      exact ⟨row, differs, rfl, rfl, fun known recorded =>
        (Option.some.inj (fits known recorded)).symm⟩

theorem takeDecided_refuses {index : Nat} {tally : FanTally}
    (refused : CtxHost.takeDecided fan index tally turn = .error (.nonDeterminism expected recorded)) :
    turn = .nonDeterminism expected recorded := by
  cases turn with
  | nonDeterminism => cases refused; rfl
  | failed error =>
    simp only [CtxHost.takeDecided] at refused
    split at refused <;> cases refused
  | _ => cases refused

theorem surveyMember_meets (fan : StepFan) (policy : RemotePolicy)
    (refusals : Nat → Option String) (owner : Nat → Owner) (rereads index : Nat)
    (tally : FanTally) (row : Option StepCheckpoint)
    (same : ∀ checkpoint ∈ row, checkpoint.name = fan.step.name)
    (found : Option (Nat × StepCheckpoint)) :
    (CtxHost.surveyMember fan policy refusals rereads index tally row).Meets
      (firstForeign history owner) (fun after result => after = found ∧ ∀ expected recorded,
        result = .error (.nonDeterminism expected recorded) →
          MemberEnds history fan index expected recorded) found := by
  unfold CtxHost.surveyMember
  split
  · refine Program.meets_bind
      (decideMember_meets fan policy refusals owner index found rereads) ?_
    rintro after turn ⟨rfl, refuses⟩
    exact ⟨rfl, fun expected recorded refused => refuses _ _ (takeDecided_refuses refused)⟩
  · exact ⟨rfl, fun expected recorded refused =>
      absurd refused (look_named fan policy refusals index tally same)⟩

theorem foundNamed_advance (history : History) (owner : Nat → Owner) (seq : Nat)
    (row : StepCheckpoint) (snapshot : Option StepCheckpoint) (named : FoundNamed fan later found) :
    (FoundNamed fan later ((firstForeign history owner).advance found
        (.readCheckpoint fan.runId seq snapshot) (some row)) ∨
      (firstForeign history owner).advance found (.readCheckpoint fan.runId seq snapshot)
        (some row) = some (seq, row) ∧ history seq = some row) := by
  cases found with
  | some earlier => exact .inl named
  | none =>
    change FoundNamed fan later
        (none.or (if history seq = some row ∧ _ then some (seq, row) else none)) ∨
      (none.or (if history seq = some row ∧ _ then some (seq, row) else none)) = _ ∧ _
    split
    · rename_i foreign
      exact .inr ⟨rfl, foreign.1⟩
    · exact .inl named

theorem surveyRow_meets (fan : StepFan) (policy : RemotePolicy) (refusals : Nat → Option String)
    (rereads : Nat) (rows : FanRows) (owner : Nat → Owner) (index : Nat) {rest : List Nat}
    (tally : FanTally) (row : Option StepCheckpoint) (named : FoundNamed fan rest found)
    (same : ∀ checkpoint ∈ row, checkpoint.name = fan.step.name)
    (known : FoundNamed fan [index] found ∨ history (fan.firstSeq + index) = row ∧ row.isSome)
    (onward : ∀ tally, (CtxHost.surveySteps fan policy refusals rereads rows rest tally).Meets
      (firstForeign history owner) (SurveyEnds fan) found) : (do
      match ← CtxHost.surveyMember fan policy refusals rereads index tally row with
      | .error ended => return .error (index, ended)
      | .ok tally => CtxHost.surveySteps fan policy refusals rereads rows rest tally :
        Engine (Except (Nat × StepFanOutcome) FanTally)).Meets
      (firstForeign history owner) (SurveyEnds fan) found := by
  refine Program.meets_bind
    (surveyMember_meets fan policy refusals owner rereads index tally row same found) ?_
  rintro after (ended | tally) ⟨rfl, refuses⟩
  · by_cases refused : ∃ expected recorded, ended = .nonDeterminism expected recorded
    · obtain ⟨expected, recorded, rfl⟩ := refused
      obtain ⟨stored, differs, rfl, rfl, recent⟩ := refuses _ _ rfl
      rcases known with elsewhere | ⟨recorded, present⟩
      · exact .inr ⟨stored, differs, rfl, .inl elsewhere⟩
      · -- The row that has been looked at is the recorded one, and it is read again.
        obtain ⟨checkpoint, rfl⟩ := Option.isSome_iff_exists.mp present
        exact absurd (recent checkpoint recorded ▸ same checkpoint rfl) differs
    · refine .inl ⟨named.subset (by simp), fun expected recorded here => ?_⟩
      exact refused ⟨expected, recorded, here⟩
  · exact onward _

theorem surveyRow_other (fan : StepFan) (policy : RemotePolicy) (refusals : Nat → Option String)
    (rereads index : Nat) (tally : FanTally) (row : StepCheckpoint)
    (other : row.name ≠ fan.step.name)
    (onward : FanTally → Engine (Except (Nat × StepFanOutcome) FanTally)) :
    (do
      match ← CtxHost.surveyMember fan policy refusals rereads index tally (some row) with
      | .error ended => return .error (index, ended)
      | .ok tally => onward tally :
        Engine (Except (Nat × StepFanOutcome) FanTally)) =
      return .error (index, .nonDeterminism fan.step.name row.name) := by
  have kept : CtxHost.surveyMember fan policy refusals rereads index tally (some row) =
      return .error (.nonDeterminism fan.step.name row.name) := by
    simp [CtxHost.surveyMember, CtxHost.isHandedOver, other,
      look_other fan policy refusals index tally other]
  rw [kept]
  rfl

/-- A survey of a step fan ends as it should. -/
theorem surveySteps_meets (fan : StepFan) (policy : RemotePolicy)
    (refusals : Nat → Option String) (rereads : Nat) (rows : FanRows) (owner : Nat → Owner)
    (indexes : List Nat) (tally : FanTally) (found : Option (Nat × StepCheckpoint))
    (distinct : indexes.Nodup) (named : FoundNamed fan indexes found) :
    (CtxHost.surveySteps fan policy refusals rereads rows indexes tally).Meets
      (firstForeign history owner) (SurveyEnds fan) found := by
  induction indexes generalizing tally found with
  | nil => exact named
  | cons index rest ih =>
    have fresh := List.nodup_cons.mp distinct
    have own := fun (row : Option StepCheckpoint) {found} (named : FoundNamed fan rest found) same
        known =>
      surveyRow_meets fan policy refusals rereads rows owner index tally row named same known
        fun tally => ih tally found fresh.2 named
    unfold CtxHost.surveySteps
    cases located : rows index with
    | none => exact own none (named.subset (by simp)) (by simp) (.inl (named.subset (by simp)))
    | some snapshot =>
      refine ⟨trivial, fun answer _ => ?_⟩
      cases answer with
      | none =>
        have unmoved : (firstForeign history owner).advance found
            (.readCheckpoint fan.runId (fan.firstSeq + index) (some snapshot)) none = found :=
          Option.or_none
        rw [unmoved]
        exact own none (named.subset (by simp)) (by simp) (.inl (named.subset (by simp)))
      | some row =>
        have advanced :=
          foundNamed_advance history owner (fan.firstSeq + index) row (some snapshot) named
        by_cases same : row.name = fan.step.name
        · rcases advanced with still | ⟨now, recorded⟩
          · exact own (some row) (still.subset (by simp)) (by simpa using same)
              (.inl (still.subset (by simp)))
          · refine own (some row) ?_ (by simpa using same) (.inr ⟨recorded, rfl⟩)
            rw [now]
            rintro seq row' ⟨⟩
            refine ⟨same, fun later member here => ?_⟩
            exact fresh.1 (Nat.add_left_cancel here ▸ member)
        · have refused := surveyRow_other fan policy refusals rereads index tally row same
            fun tally => CtxHost.surveySteps fan policy refusals rereads rows rest tally
          refine (congrArg (Program.Meets (firstForeign history owner) (SurveyEnds fan) · _)
            refused).mpr ?_
          exact .inr ⟨row, same, rfl,
            advanced.imp (FoundNamed.subset · (by simp)) And.left⟩

theorem sendSteps_silent (fan : StepFan) (indexes : List Nat) :
    Silent anyEnd (CtxHost.sendSteps fan indexes) := by
  induction indexes with
  | nil => trivial
  | cons index rest ih => exact silent_perform rfl fun _ => ih

theorem concludeSteps_silent (fan : StepFan) (index : Nat) {ended : StepFanOutcome}
    (named : ∀ expected recorded, ended ≠ .nonDeterminism expected recorded) :
    Silent Calm (CtxHost.concludeSteps fan index ended) := by
  cases ended with
  | nonDeterminism expected recorded => exact absurd rfl (named expected recorded)
  | suspended wakeAt sent => exact silent_bind (sendSteps_silent fan sent) fun _ _ => trivial
  | threw | refused | returned | settled => trivial

theorem heeds_runSteps (fan : StepFan) (policy : RemotePolicy) (refusal : Option String)
    (rereads : Nat) (rows : FanRows) (checks : ∀ row, op.checksName row = true)
    (named : ∀ seq, (op.ownerAt host current seq).name = fan.step.name) :
    Heeds host history current op (CtxHost.runSteps fan policy refusal rereads rows) none := by
  have tolerated : ∀ {later found}, FoundNamed fan later found → ∀ seq row,
      found = some (seq, row) → ¬ IsRefused host current op seq row :=
    fun same seq row located refused =>
      (isRefused_iff checks (named seq)).mp refused (same seq row located).1
  refine Program.meets_bind (surveySteps_meets fan _ _ _ _ _ _ _ none
    List.nodup_range (by rintro seq row ⟨⟩)) ?_
  rintro found (⟨index, ended⟩ | tally) reached
  · rcases reached with ⟨same, unrefused⟩ | ⟨row, differs, rfl, same | located⟩
    · exact heeds_of_tolerated (tolerated same) (concludeSteps_silent fan index unrefused)
    · -- The survey refuses a row that is not of the history.
      intro seq row' located
      refine ⟨?_, fun refused => absurd refused (tolerated same seq row' located)⟩
      rintro ⟨expected, recorded, threw⟩
      have here : fan.firstSeq + index = seq := by injection threw
      exact absurd here.symm ((same seq row' located).2 index (by simp))
    · rintro seq row' found'
      cases located.symm.trans found'
      rw [isRefused_iff checks (named _)]
      exact ⟨fun _ => differs, fun _ => ⟨_, _, rfl⟩⟩
  · exact heeds_of_tolerated (tolerated reached)
      (concludeSteps_silent fan _ (conclude_named fan _ _ tally))

theorem heeds_allSteps (fan : StepFan) (checks : ∀ row, op.checksName row = true)
    (named : ∀ seq, (op.ownerAt host current seq).name = fan.step.name) :
    Heeds host history current op (host.allSteps fan) none := by
  unfold CtxHost.allSteps
  split
  · exact heeds_of_silent trivial
  split
  · exact heeds_of_silent trivial
  split
  · exact heeds_of_silent trivial
  exact ⟨trivial, fun stored _ => ⟨trivial, fun now _ => ⟨trivial, fun refusal _ =>
    heeds_runSteps fan _ refusal _ _ checks named⟩⟩⟩

theorem heeds (host : CtxHost) (history : History) (current : Nat) (op : CtxOp) :
    Heeds host history current op (host.call current op) none := by
  cases op with
  | localStep name retries => exact heeds_localStep name retries (fun _ => rfl) rfl
  | transaction name => exact heeds_transaction name
  | now => exact heeds_localStep "now" none (fun _ => rfl) rfl
  | sideEffect => exact heeds_localStep "sideEffect" none (fun _ => rfl) rfl
  | step dispatched input => exact heeds_step dispatched input
  | sleep duration => exact heeds_of_unguarded (fun _ => rfl) (unguarded_suspendUntil _)
  | sleepUntil moment => exact heeds_of_unguarded (fun _ => rfl) (unguarded_suspendUntil _)
  | setEvent key value => exact heeds_setEvent key value
  | upsertSearchAttributes attrs => exact heeds_upsertSearchAttributes attrs
  | patched id => exact heeds_patched id
  | waitForSignal token timeoutMs =>
    exact heeds_of_unguarded (fun _ => rfl) (unguarded_waitForSignal token timeoutMs)
  | waitForEvent name criteria timeoutMs =>
    exact heeds_of_unguarded (fun _ => rfl) (unguarded_waitForEvent name criteria timeoutMs)
  | waitForRun target timeoutMs =>
    exact heeds_of_unguarded (fun _ => rfl) (unguarded_waitForRun target timeoutMs)
  | onUpdate name timeoutMs =>
    cases timeoutMs with
    | none =>
      exact heeds_of_unguarded (fun _ => rfl) (unguarded_waitForSignal (host.updateToken name) none)
    | some timeoutMs =>
      exact heeds_of_unguarded (fun _ => rfl)
        (unguarded_waitForSignal (host.updateToken name) (some timeoutMs))
  | webhook => exact heeds_of_silent trivial
  | webhookWait minted timeoutMs =>
    exact heeds_of_unguarded (fun _ => rfl) (unguarded_webhookWait minted timeoutMs)
  | breakpoint label => exact heeds_of_unguarded (fun _ => rfl) (unguarded_breakpoint label)
  | child childId => exact heeds_of_unguarded (fun _ => rfl) (unguarded_child childId)
  | startChild childId => exact heeds_of_unguarded (fun _ => rfl) (unguarded_startChild childId)
  | callEntity name key entityOp arg => exact heeds_callEntity name key entityOp arg
  | signalEntity name key entityOp arg =>
    exact heeds_of_unguarded (fun _ => rfl) (unguarded_signalEntity name key entityOp arg)
  | allChildren size mode settle waves =>
    exact heeds_of_unguarded (fun _ => rfl) (unguarded_allChildren _)
  | allSteps dispatched inputs mode settle concurrency =>
    exact heeds_allSteps _ (fun _ => rfl) fun _ => rfl

end Operations

namespace Body

/-- A replay of a body takes only its own checkpoints, or throws at the first that is another's. -/
def TakesOwn (host : CtxHost) (history : History) : Body → Nat → Prop
  | .perform op next, current =>
    Durable.TakesOwn host history current op ∧ ∀ result position,
      (host.call current op).Ends (fitsHistory history) (.observed result position) →
        (next result).TakesOwn host history position
  | _, _ => True

/-- Each first checkpoint of another operation a replay finds has a name that is compared. -/
def ForeignRefused (host : CtxHost) (history : History) : Body → Nat → Prop
  | .perform op next, current =>
    Durable.ForeignRefused host history current op ∧ ∀ result position,
      (host.call current op).Ends (fitsHistory history) (.observed result position) →
        (next result).ForeignRefused host history position
  | _, _ => True

/-- The checkpoints one turn of a body leaves when nothing else touches the store. -/
def recorded (host : CtxHost) (body : Body) (store : Store) : History := fun seq =>
  ((body.turn host 0).alone Store.exec store).1.checkpoints.get (host.runId, seq)

end Body

/--
A replay takes only its own checkpoints, or throws where it would not, exactly where it compares.

The first checkpoint of another operation has to be found by an operation that compares names, and
its name has to differ.
-/
theorem replay_takes_own_iff (host : CtxHost) (history : History) (body : Body) (current : Nat) :
    body.TakesOwn host history current ↔ body.ForeignRefused host history current := by
  induction body generalizing current with
  | perform op next ih =>
    refine and_congr ?_ (forall_congr' fun result => forall_congr' fun position =>
      imp_congr_right fun _ => ih result position)
    refine Program.Meets.congr (heeds host history current op) fun found ending heeded => ?_
    exact forall_congr' fun seq => forall_congr' fun row => imp_congr_right fun located =>
      heeded seq row located
  | finished | failed | continuedAsNew => exact Iff.rfl

/-- A wait for a signal takes the output that a local step of the old code recorded. -/
theorem replay_takes_foreign :
    ¬ ∀ (host : CtxHost) (store : Store) (old new : Body),
      new.TakesOwn { host with replay := old.recorded host store } (old.recorded host store) 0 := by
  intro claimed
  let host : CtxHost := { runId := "run", replay := fun _ => none }
  let store : Store := { around := { bodies := fun _ _ _ => .ok (some (.num 42)) } }
  let old : Body := .perform (.localStep "charge" none) fun _ => .finished none
  let new : Body := .perform (.waitForSignal (.named "approval") none) fun _ => .finished none
  have charged : old.recorded host store 0 =
      some { runId := "run", seq := 0, name := "charge", kind := .local
             output := some (.num 42) } := by decide +kernel
  have replayed := (claimed host store old new).1
  -- The wait reads the completed step, and hands its output to the body.
  have taken := replayed.2 (some _) fun row located => charged.symm.trans located
  obtain ⟨expected, recorded, threw⟩ := taken 0 _ (if_pos ⟨charged, by decide⟩)
  cases threw

end Durable
