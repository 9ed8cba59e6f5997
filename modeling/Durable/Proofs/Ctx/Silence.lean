import Durable.Ctx.Body
import Durable.Interleaving.Monitor

/-! What operations do after their replay has read its positions. -/

namespace Durable

open Interleaving

def isReplayRead : StoreOp → Bool
  | .readCheckpoint .. => true
  | _ => false

def silence : Monitor StoreOp StoreOp.Answer Unit where
  allows _ op := isReplayRead op = false
  expects _ _ _ := True
  advance _ _ _ := ()

/-- A program that reads no position for the replay, and ends as it should. -/
def Silent {α : Type} (ends : α → Prop) (program : Engine α) : Prop :=
  program.Meets silence (fun _ result => ends result) ()

/-- A call that ends without a `NonDeterminismError`. -/
def Calm : OpEnd → Prop
  | .nonDeterminism .. => False
  | _ => True

/-- Any end at all. -/
def anyEnd {α : Type} : α → Prop := fun _ => True

theorem Silent.anyEnd {α : Type} {ends : α → Prop} {program : Engine α}
    (silent : Silent ends program) : Silent Durable.anyEnd program :=
  Program.Meets.weaken silent fun _ _ _ => trivial

theorem silent_bind {α β : Type} {middle : α → Prop} {ends : β → Prop} {first : Engine α}
    {rest : α → Engine β} (opening : Silent middle first)
    (closing : ∀ result, middle result → Silent ends (rest result)) :
    Silent ends (first >>= rest) :=
  Program.meets_bind opening fun _ result reached => closing result reached

theorem silent_perform {α : Type} {ends : α → Prop} {op : StoreOp}
    {rest : op.Answer → Engine α} (quiet : isReplayRead op = false)
    (after : ∀ answer, Silent ends (rest answer)) :
    Silent ends (Program.perform op >>= rest) :=
  ⟨quiet, fun answer _ => after answer⟩

theorem calm_unwrapped (next : Nat) (label : String) (payload : Payload) :
    Calm (unwrappedAt next label payload) := by
  unfold unwrappedAt
  split <;> trivial

namespace CtxHost

variable (host : CtxHost)

section Steps

theorem settleLocalStep_silent (seq : Nat) (name : String) (attempt : Nat)
    {again : Option (Engine OpEnd)} (retried : ∀ program ∈ again, Silent Calm program)
    (result : Except StepError Payload) :
    Silent Calm (host.settleLocalStep seq name attempt again result) := by
  cases result with
  | ok output => exact ⟨rfl, fun _ _ => trivial⟩
  | error error =>
    simp only [settleLocalStep]
    split
    · rename_i program found
      split at found
      · cases found
      · exact retried program found
    · exact ⟨rfl, fun _ _ => trivial⟩

theorem attemptLocalStep_silent (seq : Nat) (name : String) (attempt retries : Nat) :
    Silent Calm (host.attemptLocalStep seq name attempt retries) := by
  induction retries generalizing attempt with
  | zero =>
    exact ⟨rfl, fun result _ => host.settleLocalStep_silent seq name attempt (by simp) result⟩
  | succ retries ih =>
    refine ⟨rfl, fun result _ => host.settleLocalStep_silent seq name attempt ?_ result⟩
    intro program member
    cases member
    exact ih (attempt + 1)

theorem startStep_silent (seq : Nat) (name : String) :
    Silent anyEnd (host.startStep seq name) := by
  unfold startStep
  split
  · exact ⟨rfl, fun _ _ => trivial⟩
  · trivial

theorem runLocalStep_silent (seq : Nat) (name : String) (retries : Nat) :
    Silent Calm (do
      host.startStep seq name
      host.attemptLocalStep seq name 1 retries) :=
  silent_bind (host.startStep_silent seq name) fun _ _ =>
    host.attemptLocalStep_silent seq name 1 retries

theorem runTransaction_silent (name : String) (current : Nat) :
    Silent Calm (host.runTransaction name current) := by
  refine silent_perform rfl fun result => ?_
  cases result with
  | ok output => exact ⟨rfl, fun _ _ => trivial⟩
  | error error => trivial

theorem settleRemote_silent (seq : Nat) (step : StepDef) (input : Payload) (attempt : Nat)
    {again : Option (Engine OpEnd)} (retried : ∀ program ∈ again, Silent Calm program)
    (result : Except StepError Payload) :
    Silent Calm (host.settleRemote seq step input attempt again result) := by
  have given_up : ∀ error, Silent Calm (again.getD (.done (threwAt (seq + 1) error))) := by
    intro error
    cases again with
    | none => trivial
    | some program => exact retried program rfl
  cases result with
  | ok output => exact ⟨rfl, fun _ _ => trivial⟩
  | error error =>
    simp only [settleRemote]
    split
    · refine silent_perform rfl fun late => ?_
      cases late with
      | none => exact given_up _
      | some late =>
        dsimp only
        split
        · exact ⟨rfl, fun _ _ => trivial⟩
        · exact given_up _
    · trivial

theorem awaitRemote_silent (seq : Nat) (step : StepDef) (input : Payload)
    (attempt retries : Nat) :
    Silent Calm (host.awaitRemote seq step input attempt retries) := by
  induction retries generalizing attempt with
  | zero =>
    exact silent_perform rfl fun _ => silent_perform rfl fun result =>
      host.settleRemote_silent seq step input attempt (by simp) result
  | succ retries ih =>
    refine silent_perform rfl fun _ => silent_perform rfl fun result =>
      host.settleRemote_silent seq step input attempt ?_ result
    intro program member
    cases member
    exact ih (attempt + 1)

theorem applyRemote_silent (seq : Nat) (step : StepDef) (input : Payload)
    (existing : Option StepCheckpoint) {again : Engine OpEnd} (retried : Silent anyEnd again)
    (turn : RemoteTurn) :
    Silent anyEnd (host.applyRemote seq step input existing again turn) := by
  cases turn with
  | suspended wakeAt write _ =>
    cases write with
    | none => trivial
    | some write =>
      simp only [applyRemote]
      split
      · refine silent_perform rfl fun saved => ?_
        cases saved
        · exact retried
        · trivial
      · exact ⟨rfl, fun _ _ => trivial⟩
  | awaited => exact (host.awaitRemote_silent ..).anyEnd
  | returned | failed | nonDeterminism | refused => trivial

theorem decideRemote_silent (seq : Nat) (step : StepDef) (input : Payload)
    {again : Engine OpEnd} (retried : Silent anyEnd again) (existing : Option StepCheckpoint) :
    Silent anyEnd (host.decideRemote seq step input again existing) :=
  silent_perform rfl fun _ => silent_perform rfl fun _ =>
    host.applyRemote_silent seq step input existing retried _

theorem redecideRemote_silent (seq : Nat) (step : StepDef) (input : Payload) (rereads : Nat) :
    Silent anyEnd (host.redecideRemote seq step input rereads) := by
  induction rereads with
  | zero => trivial
  | succ rereads ih =>
    exact silent_perform rfl fun existing => host.decideRemote_silent seq step input ih existing

end Steps

section Waits

theorem consumeBuffered_silent (token : Token) (seq : Nat) :
    Silent anyEnd (host.consumeBuffered token seq) := by
  refine silent_perform rfl fun answer => ?_
  cases answer with
  | none => trivial
  | some payload => exact ⟨rfl, fun _ _ => trivial⟩

theorem registerAndRecheck_silent (token : Token) (seq next : Nat) (wakeAt : Option Nat) :
    Silent Calm (host.registerAndRecheck token seq next wakeAt) := by
  refine silent_perform rfl fun _ => silent_bind (host.consumeBuffered_silent token seq) ?_
  intro found _
  cases found with
  | none => trivial
  | some payload => exact ⟨rfl, fun _ _ => trivial⟩

theorem timeOut_silent (token : Token) (seq next : Nat) (label : String) (timeoutMs : Nat) :
    Silent Calm (host.timeOut token seq next label timeoutMs) :=
  ⟨rfl, fun _ _ => trivial⟩

theorem consumeFirstMatch_silent (criteria : EventMatch) (token : Token) (seq now : Nat)
    (candidates : List BufferedEvent) :
    Silent anyEnd (host.consumeFirstMatch criteria token seq now candidates) := by
  induction candidates with
  | nil => trivial
  | cons candidate rest ih =>
    unfold consumeFirstMatch
    split
    · exact ⟨rfl, fun _ _ => ih⟩
    · split
      · exact ih
      · refine silent_perform rfl fun removed => ?_
        cases removed
        · exact ih
        · exact ⟨rfl, fun _ _ => ⟨rfl, fun _ _ => trivial⟩⟩

theorem consumeBufferedEvent_silent (name : String) (criteria : EventMatch) (token : Token)
    (seq : Nat) : Silent anyEnd (host.consumeBufferedEvent name criteria token seq) := by
  refine silent_perform rfl fun candidates => ?_
  cases host.eventBufferTtlMs with
  | none => exact host.consumeFirstMatch_silent criteria token seq 0 candidates
  | some _ =>
    exact silent_perform rfl fun now =>
      host.consumeFirstMatch_silent criteria token seq now candidates

theorem registerForEvent_silent (name : String) (criteria : EventMatch) (token : Token)
    (seq : Nat) (wakeAt : Option Nat) :
    Silent Calm (host.registerForEvent name criteria token seq wakeAt) := by
  refine silent_perform rfl fun _ =>
    silent_bind (host.consumeBufferedEvent_silent name criteria token seq) fun found _ => ?_
  cases found <;> trivial

theorem followChain_silent (run : WorkflowRun) (hops : Nat) :
    Silent anyEnd (followChain run hops) := by
  induction hops generalizing run with
  | zero => trivial
  | succ hops ih =>
    unfold followChain
    split
    · refine silent_perform rfl fun next => ?_
      cases next with
      | none => trivial
      | some next => exact ih next
    · trivial

theorem lastRunOfChain_silent (runId : String) : Silent anyEnd (lastRunOfChain runId) := by
  refine silent_perform rfl fun run => ?_
  cases run with
  | none => trivial
  | some run => exact silent_bind (followChain_silent run runWaitMaxHops) fun _ _ => trivial

theorem settledTarget_silent (target : String) (token : Token) (seq : Nat)
    (wakeAt : Option Nat) : Silent Calm (host.settledTarget target token seq wakeAt) := by
  refine silent_bind (lastRunOfChain_silent target) fun run _ => ?_
  cases run with
  | none => exact ⟨rfl, fun _ _ => trivial⟩
  | some run =>
    dsimp only
    split
    · trivial
    · refine silent_perform rfl fun taken => ?_
      cases taken with
      | some waiter => exact ⟨rfl, fun _ _ => trivial⟩
      | none =>
        refine silent_perform rfl fun delivered => ?_
        cases delivered with
        | none => trivial
        | some delivered =>
          dsimp only
          split <;> trivial

theorem registerForRun_silent (target : String) (token : Token) (seq : Nat)
    (wakeAt : Option Nat) : Silent Calm (host.registerForRun target token seq wakeAt) :=
  ⟨rfl, fun _ _ => host.settledTarget_silent target token seq wakeAt⟩

theorem awaitSignal_silent (token : Token) (current : Nat) :
    Silent Calm (host.awaitSignal token current) := by
  refine silent_bind (host.consumeBuffered_silent token current) fun found _ => ?_
  cases found with
  | some payload => trivial
  | none => exact host.registerAndRecheck_silent token current (current + 1) none

theorem awaitSignalUntil_silent (token : Token) (waitSeq timeoutMs deadline : Nat) :
    Silent Calm (host.awaitSignalUntil token waitSeq timeoutMs deadline) := by
  refine silent_bind (host.consumeBuffered_silent token waitSeq) fun found _ => ?_
  cases found with
  | some payload => trivial
  | none =>
    refine silent_perform rfl fun now => ?_
    split
    · exact host.timeOut_silent ..
    · exact host.registerAndRecheck_silent ..

theorem awaitEventUntil_silent (name : String) (criteria : EventMatch) (token : Token)
    (waitSeq timeoutMs deadline : Nat) :
    Silent Calm (host.awaitEventUntil name criteria token waitSeq timeoutMs deadline) := by
  refine silent_perform rfl fun now => ?_
  split
  · exact host.timeOut_silent ..
  · exact host.registerForEvent_silent ..

theorem awaitRunUntil_silent (target : String) (token : Token)
    (waitSeq timeoutMs deadline : Nat) :
    Silent Calm (host.awaitRunUntil target token waitSeq timeoutMs deadline) := by
  refine silent_perform rfl fun now => ?_
  split
  · exact host.timeOut_silent ..
  · exact host.registerForRun_silent ..

theorem awaitCallback_silent (minted current : Nat) :
    Silent Calm (host.awaitCallback minted current) := by
  refine silent_bind (host.consumeBuffered_silent _ minted) fun found _ => ?_
  cases found with
  | some payload => trivial
  | none => exact host.registerAndRecheck_silent ..

end Waits

section Children

theorem settleChild_silent (childId : String) (seq : Nat) (payload : Payload) :
    Silent Calm (host.settleChild childId seq payload) :=
  silent_perform rfl fun _ => silent_perform rfl fun _ => calm_unwrapped _ _ _

theorem markChildDelivered_silent (child : WorkflowRun) :
    Silent anyEnd (markChildDelivered child) := by
  unfold markChildDelivered
  split
  · trivial
  · exact ⟨rfl, fun _ _ => trivial⟩

theorem joinChild_silent (childId : String) (current : Nat) :
    Silent Calm (host.joinChild childId current) := by
  refine silent_perform rfl fun buffered => ?_
  cases buffered with
  | some payload => exact host.settleChild_silent childId current payload
  | none =>
    refine silent_perform rfl fun run => ?_
    cases run with
    | none => exact ⟨rfl, fun _ _ => trivial⟩
    | some run =>
      dsimp only
      split
      · exact silent_bind (markChildDelivered_silent run) fun _ _ =>
          host.settleChild_silent childId current _
      · trivial

theorem spawnChild_silent (childId : String) (current : Nat) :
    Silent Calm (host.spawnChild childId current) := by
  refine silent_perform rfl fun run => ?_
  cases run with
  | some run => exact ⟨rfl, fun _ _ => trivial⟩
  | none => exact ⟨rfl, fun _ _ => ⟨rfl, fun _ _ => trivial⟩⟩

theorem sendEntityOp_silent (name key op : String) (arg : Payload) (seq : Nat)
    (reply : Option Token) : Silent anyEnd (host.sendEntityOp name key op arg seq reply) := by
  unfold sendEntityOp
  split
  · exact ⟨rfl, fun _ _ => trivial⟩
  · trivial

theorem sendIntent_silent (name key op : String) (arg : Payload) (seq : Nat) :
    Silent Calm (host.sendIntent name key op arg seq) := by
  refine silent_bind (host.sendEntityOp_silent name key op arg seq _) fun sent _ => ?_
  cases sent
  · exact ⟨rfl, fun _ _ => trivial⟩
  · exact ⟨rfl, fun _ _ => ⟨rfl, fun _ _ => trivial⟩⟩

theorem awaitReply_silent (name key op : String) (arg : Payload) (current : Nat)
    (intent : StepCheckpoint) :
    Silent Calm (host.awaitReply name key op arg current intent) := by
  refine silent_bind (host.consumeBuffered_silent _ current) fun found _ => ?_
  cases found with
  | some payload => exact ⟨rfl, fun _ _ => trivial⟩
  | none =>
    dsimp only
    split
    · exact ⟨rfl, fun _ _ => trivial⟩
    · exact host.sendIntent_silent name key op arg current

theorem dispatchEntityOp_silent (name key op : String) (arg : Payload) (current : Nat) :
    Silent Calm (host.dispatchEntityOp name key op arg current) := by
  refine silent_bind (host.sendEntityOp_silent name key op arg current none) fun sent _ => ?_
  cases sent
  · exact ⟨rfl, fun _ _ => ⟨rfl, fun _ _ => trivial⟩⟩
  · exact silent_perform rfl fun _ => ⟨rfl, fun _ _ => trivial⟩

end Children

end CtxHost

end Durable
