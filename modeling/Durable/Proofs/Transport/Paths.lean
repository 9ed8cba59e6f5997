import Durable.Proofs.Transport.Attempts
import Durable.Proofs.Transport.Progress

/-! The transport's paths keep to their rounds, and lose no attempt's result. -/

namespace Durable

open Interleaving

section Paths

variable {α : Type} {phase : RoundPhase}

abbrev Rounding (ends : RoundPhase → α → Prop) (path : TransportPath α) (phase : RoundPhase) :
    Prop :=
  path.Meets roundWatch ends phase

def anyRound : RoundPhase → α → Prop := fun _ _ => True

def OffResults : TransportOp → Prop
  | .claimFresh .results .. | .claimLapsed .results .. | .claimedResults .. | .handleResult _
  | .deleteResults .. => False
  | _ => True

theorem rounding_off {path : TransportPath α} (off : path.Uses OffResults) :
    Rounding anyRound path phase := by
  induction path generalizing phase with
  | done result => trivial
  | call op next ih =>
    refine ⟨?_, fun answer _ => ih answer (off.2 answer)⟩
    have first := off.1
    cases op with
    | claimFresh channel =>
      cases channel with
      | tasks => trivial
      | results => exact first.elim
    | claimLapsed channel =>
      cases channel with
      | tasks => trivial
      | results => exact first.elim
    | claimedResults | handleResult | deleteResults => exact first.elim
    | _ => trivial

variable (transport : DbTransport)

theorem insertChunks_off (withPriority : Bool) (createdAt : Nat) (chunks : List (List RemoteTask)) :
    (transport.insertChunks withPriority createdAt chunks).Uses OffResults := by
  induction chunks with
  | nil => trivial
  | cons chunk rest ih => exact ⟨trivial, fun _ => ih⟩

theorem dispatchMany_off (tasks : List RemoteTask) :
    (transport.dispatchMany tasks).Uses OffResults := by
  unfold DbTransport.dispatchMany
  split
  · trivial
  · exact ⟨trivial, fun _ => ⟨trivial, fun _ => insertChunks_off transport _ _ _⟩⟩

theorem claimTasks_off (limit : Nat) (countReclaims byPriority : Bool) :
    (transport.claimTasks limit countReclaims byPriority).Uses OffResults := by
  have stamped : (transport.stampClaim .tasks limit (some transport.servedTokens) countReclaims
      byPriority).Uses OffResults := by
    refine Program.uses_perform trivial fun now => Program.uses_perform trivial fun stamp => ?_
    refine Program.uses_perform trivial fun stampedAt => ?_
    refine Program.uses_perform trivial fun candidates => ?_
    dsimp only
    split
    · trivial
    · split
      · refine Program.uses_perform trivial fun _ => ?_
        split
        · exact Program.uses_perform trivial fun _ => trivial
        · trivial
      · split
        · exact Program.uses_perform trivial fun _ => trivial
        · trivial
  refine Program.uses_bind stamped fun round => ?_
  split
  · trivial
  · exact ⟨trivial, fun _ => trivial⟩

theorem taskTick_off : transport.taskTick.Uses OffResults := by
  unfold DbTransport.taskTick
  split
  · trivial
  · refine Program.uses_perform trivial fun free => ?_
    split
    · trivial
    · refine Program.uses_perform trivial fun countReclaims => ?_
      refine Program.uses_perform trivial fun byPriority => ?_
      refine Program.uses_bind (claimTasks_off transport _ _ _) fun round => ?_
      obtain ⟨rows, token⟩ := round
      dsimp only
      split
      · trivial
      · refine Program.uses_perform trivial fun closing => ?_
        split
        · exact Program.uses_perform trivial fun _ => trivial
        · refine Program.uses_perform trivial fun fits => ?_
          split
          · exact Program.uses_perform trivial fun _ => trivial
          · trivial

theorem runTask_off (row : TaskRow) (token : ClaimToken) :
    (transport.runTask row token).Uses OffResults := by
  have settled : ∀ result, (transport.settleTask row.stepId token result).Uses OffResults :=
    fun result => ⟨trivial, fun _ => ⟨trivial, fun _ => trivial⟩⟩
  have handled : (transport.runStepHandler row.carries.task).Uses OffResults := by
    unfold DbTransport.runStepHandler
    split
    · exact ⟨trivial, fun _ => trivial⟩
    · trivial
  unfold DbTransport.runTask
  split
  · exact Program.uses_bind (settled _) fun _ => trivial
  · refine Program.uses_perform trivial fun stampedAt => ?_
    refine Program.uses_perform trivial fun holds => ?_
    split
    · exact Program.uses_bind handled fun result => Program.uses_bind (settled result) fun _ => trivial
    · trivial

theorem renewHeld_off (held : List (Channel × List ClaimToken)) :
    (transport.renewHeld held).Uses OffResults := by
  induction held with
  | nil => trivial
  | cons entry rest ih =>
    obtain ⟨channel, tokens⟩ := entry
    unfold DbTransport.renewHeld
    split
    · exact ih
    · exact ⟨trivial, fun _ => ⟨trivial, fun _ => ih⟩⟩

theorem stampClaim_rounding (limit : Nat) :
    Rounding (fun after round => after.token = some round.1 ∧ after.read = false ∧
        after.handed = [])
      (transport.stampClaim .results limit none false false) phase := by
  refine Program.meets_perform trivial fun now _ => Program.meets_perform trivial fun stamp _ => ?_
  refine Program.meets_perform trivial fun stampedAt _ => ?_
  refine Program.meets_perform trivial fun candidates _ => ?_
  dsimp only
  split
  · exact ⟨rfl, rfl, rfl⟩
  · split
    · refine Program.meets_perform ⟨rfl, rfl⟩ fun _ _ => ?_
      split
      · exact Program.meets_perform ⟨rfl, rfl⟩ fun _ _ => ⟨rfl, rfl, rfl⟩
      · exact ⟨rfl, rfl, rfl⟩
    · split
      · exact Program.meets_perform ⟨rfl, rfl⟩ fun _ _ => ⟨rfl, rfl, rfl⟩
      · exact ⟨rfl, rfl, rfl⟩

theorem handleEach_rounding (rows : List ResultRow) (won : ∀ row ∈ rows, row ∈ phase.won) :
    Rounding (fun after ids => after.token = phase.token ∧ after.read = phase.read ∧
        (∀ row ∈ phase.handed, row ∈ after.handed) ∧
          ∀ id ∈ ids, ∃ row ∈ after.handed, row.stepId = id)
      (DbTransport.handleEach rows) phase := by
  induction rows generalizing phase with
  | nil => exact ⟨rfl, rfl, fun _ listed => listed, by simp⟩
  | cons row rest ih =>
    refine Program.meets_perform (won row List.mem_cons_self) fun succeeded _ => ?_
    refine Program.meets_bind (ih fun other listed => won other (List.mem_cons_of_mem _ listed)) ?_
    rintro after ids ⟨token, read, kept, known⟩
    refine ⟨token, read, fun other listed => kept other (List.mem_cons_of_mem _ listed), ?_⟩
    intro id member
    split at member
    · rcases List.mem_cons.mp member with rfl | other
      · exact ⟨row, kept row List.mem_cons_self, rfl⟩
      · exact known id other
    · exact known id member

theorem resultTick_rounding (order : List ResultRow → List ResultRow)
    (permutes : ∀ rows, (order rows).Perm rows) :
    Rounding anyRound (transport.resultTick order) phase := by
  have claimed : ∀ (limit : Nat) (phase : RoundPhase), Rounding (fun after round =>
      after.token = some round.2 ∧ (round.1 = [] ∨ after.read = true ∧ after.won = round.1))
        (transport.claimResults limit) phase := by
    intro limit phase
    refine Program.meets_bind (stampClaim_rounding transport limit) ?_
    rintro after ⟨token, stampedAt⟩ ⟨own, unread, empty⟩
    cases stampedAt with
    | none => exact ⟨own, .inl rfl⟩
    | some stampedAt =>
      exact Program.meets_perform ⟨own, unread, empty⟩ fun rows _ => ⟨own, .inr ⟨rfl, rfl⟩⟩
  refine Program.meets_perform trivial fun free _ => ?_
  split
  · trivial
  · refine Program.meets_bind (claimed _ _) ?_
    rintro after ⟨rows, token⟩ ⟨own, claimed⟩
    dsimp only
    split
    · trivial
    · rename_i some_
      obtain ⟨read, won⟩ := claimed.resolve_left fun none => some_ (List.isEmpty_iff.mpr none)
      refine Program.meets_bind (handleEach_rounding (order rows) fun row listed => ?_) ?_
      · rw [won]
        exact (permutes rows).mem_iff.mp listed
      · rintro later ids ⟨token_same, read_same, -, known⟩
        split
        · trivial
        · exact ⟨⟨token_same.trans own, read_same.trans read, known⟩, fun _ _ => trivial⟩

theorem TransportWork.follows {path : TransportPath Unit} (work : TransportWork path) :
    Process.Follows roundWatch anyRound { phase := {}, rest := path } := by
  cases work with
  | dispatch transport tasks =>
    exact Process.follows_once (rounding_off (dispatchMany_off transport tasks))
  | tick transport =>
    refine Process.follows_once (rounding_off (Program.uses_bind (taskTick_off transport) ?_))
    exact fun _ => trivial
  | run transport row token =>
    exact Process.follows_once (rounding_off (runTask_off transport row token))
  | results transport order permutes =>
    exact Process.follows_once (resultTick_rounding transport order permutes)
  | renew transport held =>
    exact Process.follows_once (rounding_off (renewHeld_off transport held))
  | handBack channel tokens => exact Process.follows_once ⟨trivial, fun _ _ => trivial⟩

end Paths

section Runs

namespace Transport

variable {transport : Transport}

theorem Unused.held (unused : transport.Unused) {every : List RoundPhase}
    (begun : ∀ phase ∈ every, phase = {}) : transport.AttemptsHeld every := by
  obtain ⟨tasks, results, ledger⟩ := unused
  refine ⟨?_, ?_, ?_⟩
  · constructor <;> simp [tasks, ledger]
  · constructor <;> simp [results, ledger]
  · refine ⟨?_, ?_, ?_, ?_⟩
    · intro phase member token drawn
      rw [begun phase member] at drawn
      cases drawn
    · refine List.pairwise_iff_getElem.mpr fun i j within _ _ token drawn => ?_
      rw [begun _ (List.getElem_mem within)] at drawn
      cases drawn
    · intro phase member read
      rw [begun phase member] at read
      cases read
    · intro phase member row handed
      rw [begun phase member] at handed
      cases handed

theorem AttemptsHeld.losesNothing {every : List RoundPhase} (held : transport.AttemptsHeld every) :
    transport.LosesNothing := by
  refine ⟨held.tasks.once, fun serial inserted => ?_, fun entry settled => ?_, held.tasks.counted⟩
  · refine (held.tasks.accounted serial inserted).imp_right ?_
    rintro ⟨result, settled⟩
    exact ⟨result, settled, held.results.written ▸ settled⟩
  · refine (held.results.waiting entry settled).imp_right ?_
    rintro ⟨row, stored, same⟩
    exact ⟨row, ⟨stored, same⟩, hands_over held.results.keyed stored⟩

end Transport

/--
The transport loses no attempt's result along a run that settles an attempt only once the last
result of its step has been deleted.
-/
theorem transport_loses_nothing {transport : Transport} (unused : transport.Unused)
    {paths : List (TransportPath Unit)} (known : ∀ path ∈ paths, TransportWork path)
    {final : TransportConfig}
    (reached : transportPaths.Reaches (spacedAttempts.permits roundWatch)
      ⟨transport, transportPool paths⟩ final) : final.shared.LosesNothing := by
  have initially : transport.AttemptsHeld (phases (transportPool paths)) := by
    refine unused.held fun phase member => ?_
    obtain ⟨process, pooled, rfl⟩ := List.mem_map.mp member
    obtain ⟨path, -, rfl⟩ := List.mem_map.mp pooled
    rfl
  have following : ∀ process ∈ transportPool paths, process.Follows roundWatch anyRound := by
    intro process pooled
    obtain ⟨path, member, rfl⟩ := List.mem_map.mp pooled
    exact (known path member).follows
  obtain ⟨held, -⟩ : final.shared.AttemptsHeld (phases final.pool) ∧
      ∀ process ∈ final.pool, process.Follows roundWatch anyRound := by
    refine processes_invariant anyRound (fun transport every => transport.AttemptsHeld every)
      (fun _ {_ _} order held => held.perm order) ?_ ?_ ?_ following initially reached
    · exact fun shared phase others op held may spaced => ⟨trivial, held.exec op may spaced⟩
    · intro shared process others left held _ fell _
      -- A path that stops for good leaves its round as it was.
      cases fell
      exact ⟨Process.follows_once trivial, held⟩
    · exact fun shared every passed held =>
        ⟨held.tasks.same rfl rfl rfl rfl,
          ⟨held.results.keyed, held.results.written, held.results.waiting, held.results.stamped⟩,
          ⟨held.rounds.drawn, held.rounds.apart, held.rounds.own, held.rounds.handed⟩⟩
  exact held.losesNothing

end Runs

/-- A step's first attempt fails, and every later one succeeds. -/
def secondTry : Transport :=
  { around := {
      work := fun _ task => if task.attempt = 1 then .error { message := "unavailable" } else .ok none } }

theorem secondTry_unused : secondTry.Unused := ⟨rfl, rfl, rfl⟩

def attemptOf (attempt : Nat) : RemoteTask :=
  { runId := "r", seq := 0, stepId := "r:0", name := "pay", group := "pay", attempt }

def dispatcher : DbTransport := { instanceId := "engine" }

def payWorker : DbTransport :=
  { instanceId := "worker", handlers := ["pay"], servedTokens := ["pay"] }

/-- A worker's round that claims an attempt's task row, and the row as it claims it. -/
def claimedAttempt (attempt stamp : Nat) : TaskRow × ClaimToken :=
  let token : ClaimToken := { instanceId := "worker", stamp }
  ({ stepId := "r:0", namespaceValue := "default", claimedBy := some token, claimedAt := some 0
     createdAt := 0, serial := attempt - 1, carries := { task := attemptOf attempt } }, token)

/-- The paths of an attempt: it is dispatched, claimed and run. -/
def attemptPaths (attempt stamp : Nat) : List (TransportPath Unit) :=
  [dispatcher.dispatchMany [attemptOf attempt], payWorker.taskTick >>= fun _ => .done (),
    payWorker.runTask (claimedAttempt attempt stamp).1 (claimedAttempt attempt stamp).2]

/-- Two attempts, and the round that hands the first one's result over. -/
def twoAttempts : List (TransportPath Unit) :=
  attemptPaths 1 0 ++ dispatcher.resultTick id :: attemptPaths 2 2

theorem twoAttempts_work : ∀ path ∈ twoAttempts, TransportWork path := by
  simp only [twoAttempts, attemptPaths, List.cons_append, List.nil_append, List.forall_mem_cons]
  exact ⟨.dispatch _ _, .tick _, .run _ _ _, .results _ _ fun _ => .refl _, .dispatch _ _, .tick _,
    .run _ _ _, by simp⟩

def attemptMoves (first : Nat) : List (Move Nat) :=
  List.replicate 3 (.step first) ++ List.replicate 11 (.step (first + 1)) ++
    List.replicate 5 (.step (first + 2))

/-- The first attempt is run, and its result handed over and deleted. -/
def oneAfterAnother : List (Move Nat) := attemptMoves 0 ++ List.replicate 9 (.step 3) ++ attemptMoves 4

theorem oneAfterAnother_runs :
    (transportPaths.run ⟨secondTry, transportPool twoAttempts⟩ oneAfterAnother).isSome := by
  decide +kernel

/-- An attempt that begins once the last one's result was deleted loses nothing. -/
theorem transport_loses_nothing_spaced :
    ((transportPaths.run ⟨secondTry, transportPool twoAttempts⟩ oneAfterAnother).get
      oneAfterAnother_runs).shared.LosesNothing :=
  transport_loses_nothing secondTry_unused twoAttempts_work
    (spacedAttempts.reaches_get oneAfterAnother oneAfterAnother_runs (by decide +kernel))

/-- The second attempt is settled after the first one's result was handed over, and before its row
is deleted. -/
def overtakingResult : List (Move Nat) :=
  attemptMoves 0 ++ List.replicate 8 (.step 3) ++ attemptMoves 4 ++ [.step 3]

theorem overtakingResult_runs :
    (transportPaths.run ⟨secondTry, transportPool twoAttempts⟩ overtakingResult).isSome := by
  decide +kernel

def overtakenResult : TransportConfig :=
  (transportPaths.run ⟨secondTry, transportPool twoAttempts⟩ overtakingResult).get
    overtakingResult_runs

/--
Where a step's next attempt is settled before the last one's result row is deleted, its result is
not written, although its task row is deleted and although all clocks show the same.
-/
theorem overtaken_result_is_lost :
    ¬ ∀ transport : Transport, transport.Unused → (∀ a b, transport.skews a = transport.skews b) →
      ∀ paths : List (TransportPath Unit), (∀ path ∈ paths, TransportWork path) →
        ∀ final : TransportConfig, transportPaths.Reaches (handledFirst.permits roundWatch)
          ⟨transport, transportPool paths⟩ final → final.shared.LosesNothing := by
  intro claimed
  have reached : transportPaths.Reaches (handledFirst.permits roundWatch)
      ⟨secondTry, transportPool twoAttempts⟩ overtakenResult :=
    handledFirst.reaches_get overtakingResult overtakingResult_runs (by decide +kernel)
  have kept := claimed secondTry secondTry_unused (fun _ _ => rfl) twoAttempts twoAttempts_work
    overtakenResult reached
  have settled : (1, resultOf (attemptOf 2) (.ok none)) ∈ overtakenResult.shared.ledger.settled := by
    decide +kernel
  have unhanded : (1, resultOf (attemptOf 2) (.ok none)) ∉ overtakenResult.shared.ledger.handed := by
    decide +kernel
  have emptied : overtakenResult.shared.results.rows = [] := by decide +kernel
  -- The second attempt's result was not handed over, and no result row is left.
  rcases kept.delivered _ settled with handed | ⟨row, ⟨stored, -⟩, -⟩
  · exact unhanded handed
  · rw [Table.get, emptied] at stored
    cases stored

end Durable
