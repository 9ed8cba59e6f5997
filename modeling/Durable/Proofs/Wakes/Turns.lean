import Durable.Proofs.Wakes.Requests

/-! Turns and wakes keep to what they may call, and no wake is lost. -/

namespace Durable

open Interleaving

section Paths

variable {α : Type} {fans : List StepFanCall} {phase : WakePhase} {reason : WakeReason}

/-- A path about a run that calls what it may, and ends in some phase. -/
abbrev Waking (fans : List StepFanCall) (ends : WakePhase → α → Prop) (path : WakePath α)
    (phase : WakePhase) : Prop :=
  path.Meets (wakeWatch fans) ends phase

/-- A path has asked a turn for whatever it has written. -/
structure WakePhase.Idle (phase : WakePhase) : Prop where
  carries : phase.carries = []
  kept : phase.kept = false
  starting : phase.starting = false
  looking : phase.looking = false

/-- A path carries what a reason is for, and has not yet kept it. -/
structure WakePhase.Carries (phase : WakePhase) (reason : WakeReason) : Prop where
  same : ∀ cause, cause ∈ reason.causes ↔ cause ∈ phase.carries
  covers : reason.generic = false → ∀ cause ∈ reason.causes, ∃ seq, cause.member = some seq ∧
    ∃ first last, reason.fans.get first = some last ∧ first ≤ seq ∧ seq ≤ last
  kept : phase.kept = false
  starting : phase.starting = false
  looking : phase.looking = false

theorem WakePhase.Idle.carriesNone (idle : phase.Idle) (none_ : reason.causes = []) :
    phase.Carries reason :=
  ⟨fun cause => by simp [none_, idle.carries], fun _ cause listed => by simp [none_] at listed,
    idle.kept, idle.starting, idle.looking⟩

theorem WakePhase.Carries.payload (carries : phase.Carries reason) {cause : WakeCause}
    (listed : cause ∈ reason.causes) : Covers reason.payload cause := by
  intro rows payload
  unfold WakeReason.payload at payload
  split at payload
  · cases payload
  · rename_i specific
    cases payload
    obtain ⟨seq, settled, first, last, found, lower, upper⟩ :=
      carries.covers (Bool.eq_false_iff.mpr specific) cause listed
    exact ⟨seq, settled, first, last, reason.fans.mem_rows found, lower, upper⟩

theorem WakePhase.Carries.idle (carries : phase.Carries reason)
    (none_ : reason.causes.isEmpty = true) : phase.Idle := by
  have nothing := List.isEmpty_iff.mp none_
  refine ⟨?_, carries.kept, carries.starting, carries.looking⟩
  refine List.eq_nil_iff_forall_not_mem.mpr fun cause carried => ?_
  have listed := (carries.same cause).mpr carried
  rw [nothing] at listed
  cases listed

theorem WakePhase.Carries.generic (carries : phase.Carries reason) :
    phase.Carries { reason with generic := true } :=
  ⟨carries.same, (fun specific => by cases specific), carries.kept, carries.starting, carries.looking⟩

theorem WakePhase.Carries.noteAny (carries : phase.Carries reason) (cause : WakeCause) :
    WakePhase.Carries { phase with carries := cause :: phase.carries } (reason.note cause none) :=
  ⟨fun other => by simp [WakeReason.note, carries.same], (fun specific => by cases specific),
    carries.kept, carries.starting, carries.looking⟩

theorem WakePhase.Carries.noteFan (carries : phase.Carries reason) {cause : WakeCause}
    {first seq : Nat} (settled : cause.member = some seq) (within : first ≤ seq) :
    WakePhase.Carries { phase with carries := cause :: phase.carries }
      (reason.note cause (some (first, seq))) := by
  refine ⟨fun other => by simp [WakeReason.note, carries.same], fun specific other listed => ?_,
    carries.kept, carries.starting, carries.looking⟩
  rcases List.mem_cons.mp listed with rfl | before
  · exact ⟨seq, settled, first, _, Table.get_set_self _ _ _, within, Nat.le_max_right _ _⟩
  · obtain ⟨own, completed, head, last, found, lower, upper⟩ :=
      carries.covers specific other before
    by_cases same : first = head
    · -- The fan is to be looked at no less far than before.
      subst same
      refine ⟨own, completed, first, _, Table.get_set_self _ _ _, lower, ?_⟩
      rw [found]
      exact Nat.le_trans upper (Nat.le_max_left _ _)
    · exact ⟨own, completed, head, last, (Table.get_set_ne _ _ same).trans found, lower, upper⟩

theorem writeCauses_waking (writes : List CauseWrite) (carries : phase.Carries reason) :
    Waking fans (fun after reason => after.Carries reason) (writeCauses writes reason) phase := by
  induction writes generalizing phase reason with
  | nil => exact carries
  | cons write rest ih =>
    cases write with
    | plain => exact ⟨carries.kept, fun cause _ => ih (carries.noteAny cause)⟩
    | member seq completed =>
      refine ⟨carries.kept, fun answer fits => ?_⟩
      cases answer with
      | none => exact ih carries
      | some settled =>
        obtain ⟨cause, first⟩ := settled
        obtain ⟨member, within⟩ := fits
        cases completed with
        | true => exact ih (carries.noteFan member within)
        | false => exact ih (carries.noteAny cause)

/-- A call that neither writes anything of a wake nor depends on it. -/
inductive Plain : WakeOp → Prop where
  | clock : Plain .clock
  | getRun : Plain .getRun
  | onLease {op : WakeOp} (on : WakeBoard.OnLease op) : Plain op
  | fenced : Plain .fenced
  | parksOn : Plain .parksOn
  | park (wakeAt : Option Nat) : Plain (.park wakeAt)
  | dropping (most : Nat) : Plain (.keptReasons .dropping most)

theorem waking_plain {path : WakePath α} (plain : path.Uses Plain) :
    Waking fans (fun after _ => after = phase) path phase := by
  induction path generalizing phase with
  | done result => exact rfl
  | call op next ih =>
    have same (answer : op.Answer) : phase.after op answer = phase := by
      cases plain.1 with
      | onLease on => cases on <;> rfl
      | _ => rfl
    refine ⟨?_, fun answer _ => ?_⟩
    · cases plain.1 with
      | onLease on => cases on <;> exact trivial
      | _ => exact trivial
    · exact Eq.mpr (congrArg (Waking fans (fun after _ => after = phase) (next answer))
        (same answer)) (ih answer (plain.2 answer))

/-- A path ends idle, whatever its result. -/
abbrev EndsIdle : WakePhase → α → Prop := fun after _ => after.Idle

theorem requestWake_waking (engine : WakeEngine) (carries : phase.Carries reason)
    {resume : WakePath Unit} (resumes : ∀ {idle : WakePhase}, idle.Idle →
      Waking fans EndsIdle resume idle) :
    Waking fans EndsIdle (engine.requestWake reason resume) phase := by
  have asks : Waking fans (fun after _ => after.Idle) (WakeEngine.stampWakeRequest reason)
      phase := by
    refine Program.meets_perform
      ⟨fun cause => carries.same cause, fun cause listed => carries.payload listed⟩ fun _ _ => ?_
    refine Program.meets_perform trivial fun now _ => ?_
    exact ⟨rfl, fun asked _ => ⟨rfl, rfl, carries.starting, carries.looking⟩⟩
  refine Program.meets_bind asks fun idle asked rested => ?_
  split
  · refine Program.meets_perform trivial fun now _ => Program.meets_perform trivial fun taken _ => ?_
    split
    · refine Program.meets_perform trivial fun fresh _ => ?_
      split
      · exact resumes rested
      · exact ⟨trivial, fun _ _ => rested⟩
    · exact rested
  · exact rested

/-- What a turn knows of what it has to serve is noted in its phase. -/
structure WakePhase.Knows (phase : WakePhase) (served : List Nat)
    (settled : Table Nat Nat) : Prop where
  idle : phase.Idle
  served : ∀ id ∈ served, id ∈ phase.served
  settled : ∀ first last, settled.get first = some last → (first, last) ∈ phase.settled

theorem startTurn_waking (run : RunLook) (looking : phase.looking = false) :
    Waking fans (fun after served => after.Knows served .empty) (WakeEngine.startTurn run)
      phase := by
  unfold WakeEngine.startTurn
  have none_ (after : WakePhase) (first last : Nat)
      (found : (Table.empty : Table Nat Nat).get first = some last) :
      (first, last) ∈ after.settled := by cases found
  split
  · refine Program.meets_perform trivial fun _ _ => Program.meets_perform rfl fun kept _ => ?_
    refine Program.meets_perform trivial fun _ _ => ?_
    exact ⟨⟨rfl, rfl, rfl, looking⟩, fun id found => found, none_ _⟩
  · refine Program.meets_perform trivial fun _ _ => ?_
    exact ⟨⟨rfl, rfl, rfl, looking⟩, by simp, none_ _⟩

theorem sendRounds_waking {call : StepFanCall} (called : call ∈ fans) {served : List Nat}
    {settled : Table Nat Nat} (rounds : Nat) (seqs : List Nat) (knows : phase.Knows served settled)
    (sorted : seqs.Pairwise (· < ·)) (inOrder : ∀ seq ∈ seqs, call.Owns seq ∧
      ∀ earlier, call.first ≤ earlier → earlier < seq → earlier ∈ phase.known ∨ earlier ∈ seqs) :
    Waking fans (fun after _ => after.Knows served settled)
      (sendRounds call.first rounds seqs) phase := by
  induction rounds generalizing phase seqs with
  | zero => exact knows
  | succ rounds ih =>
    unfold sendRounds
    split
    · exact knows
    · have parts := List.take_append_drop stepFanSendRound seqs
      have apart : ∀ first ∈ seqs.take stepFanSendRound, ∀ later ∈ seqs.drop stepFanSendRound,
          first < later := by
        rw [← parts] at sorted
        exact (List.pairwise_append.mp sorted).2.2
      refine Program.meets_perform ⟨call, called, rfl, fun seq chosen => ?_⟩ fun _ _ => ?_
      · obtain ⟨owns, before⟩ := inOrder seq (List.mem_of_mem_take chosen)
        refine ⟨owns, fun earlier lower less => (before earlier lower less).imp_right fun listed => ?_⟩
        rw [← parts] at listed
        rcases List.mem_append.mp listed with now | later
        · exact now
        · exact absurd (apart seq chosen earlier later) (by omega)
      · refine ih _ ⟨⟨knows.idle.carries, knows.idle.kept, knows.idle.starting, knows.idle.looking⟩,
          knows.served, knows.settled⟩ (sorted.drop) fun seq left => ?_
        obtain ⟨owns, before⟩ := inOrder seq (List.mem_of_mem_drop left)
        refine ⟨owns, fun earlier lower less => ?_⟩
        rcases before earlier lower less with known | listed
        · exact .inl (List.mem_append_right _ known)
        · rw [← parts] at listed
          rcases List.mem_append.mp listed with sent | later
          · exact .inl (List.mem_append_left _ sent)
          · exact .inr later

theorem batch_inOrder (call : StepFanCall) (members : Table Nat FanMember) :
    (call.batch members).Pairwise (· < ·) ∧ ∀ seq ∈ call.batch members, call.Owns seq ∧
      ∀ earlier, call.first ≤ earlier → earlier < seq →
        earlier ∈ members.keys ∨ earlier ∈ call.batch members := by
  have sorted : (call.unsent members).Pairwise (· < ·) :=
    List.Pairwise.filter _ (List.pairwise_lt_range' _)
  -- The batch is nothing, or the first of the steps that were not sent.
  have prefix_ : call.batch members = [] ∨ ∃ most, call.batch members =
      (call.unsent members).take most := by
    unfold StepFanCall.batch
    split
    · split
      · exact .inr ⟨(call.unsent members).length, by rw [List.take_length]⟩
      · exact .inr ⟨_, rfl⟩
    · exact .inl rfl
  rcases prefix_ with nothing | ⟨most, taken⟩
  · rw [nothing]
    exact ⟨List.Pairwise.nil, fun _ listed => by cases listed⟩
  rw [taken]
  refine ⟨sorted.take, fun seq chosen => ?_⟩
  obtain ⟨position, unsent⟩ := List.mem_filter.mp (List.mem_of_mem_take chosen)
  have owns := List.mem_range'_1.mp position
  refine ⟨owns, fun earlier lower less => ?_⟩
  by_cases sent : (members.get earlier).isSome = true
  · exact .inl ((members.mem_keys earlier).mpr sent)
  · refine .inr ?_
    have listed : earlier ∈ call.unsent members := by
      refine List.mem_filter.mpr ⟨List.mem_range'_1.mpr ⟨lower, by omega⟩, ?_⟩
      simpa using sent
    have parts := List.take_append_drop most (call.unsent members)
    rw [← parts] at sorted listed
    rcases List.mem_append.mp listed with now | later
    · exact now
    · exact absurd ((List.pairwise_append.mp sorted).2.2 seq chosen earlier later) (by omega)

theorem WakePhase.Knows.reads {served : List Nat} {settled : Table Nat Nat}
    (knows : phase.Knows served settled) (call : StepFanCall) (members : Table Nat FanMember) :
    WakePhase.Knows (phase.after (.listFan call) members) served
      (noteSettledFan settled call (call.readSettled members)) := by
  refine ⟨⟨knows.idle.carries, knows.idle.kept, knows.idle.starting, knows.idle.looking⟩,
    knows.served, fun first last found => ?_⟩
  cases read : call.readSettled members with
  | none =>
    rw [read] at found
    simpa only [WakePhase.after, read] using knows.settled first last found
  | some highest =>
    rw [read] at found
    have listed : (first, last) = (call.first, highest) ∨ (first, last) ∈ phase.settled := by
      by_cases same : call.first = first
      · subst same
        rw [noteSettledFan, Table.get_set_self, Option.some.injEq] at found
        cases before : settled.get call.first with
        | none =>
          rw [before, Option.getD_none, Nat.max_self] at found
          exact .inl (by rw [found])
        | some old =>
          rw [before, Option.getD_some] at found
          rcases Nat.le_total old highest with less | more
          · rw [Nat.max_eq_right less] at found
            exact .inl (by rw [found])
          · rw [Nat.max_eq_left more] at found
            exact .inr (found ▸ knows.settled call.first old before)
      · rw [noteSettledFan, Table.get_set_ne _ _ same] at found
        exact .inr (knows.settled first last found)
    simpa only [WakePhase.after, read, List.mem_cons] using listed

theorem callFans_waking {served : List Nat} (calls : List StepFanCall)
    (called : ∀ call ∈ calls, call ∈ fans) {settled : Table Nat Nat}
    (knows : phase.Knows served settled) :
    Waking fans (fun after settled => after.Knows served settled) (callFans calls settled)
      phase := by
  induction calls generalizing phase settled with
  | nil => exact knows
  | cons call rest ih =>
    have own := called call List.mem_cons_self
    have others : ∀ call ∈ rest, call ∈ fans := fun each listed =>
      called each (List.mem_cons_of_mem _ listed)
    refine Program.meets_perform ⟨own, knows.idle.starting⟩ fun members _ => ?_
    have reads := knows.reads call members
    split
    · -- The failure ends the fan before the turn notes how far it was read.
      refine ih others ⟨reads.idle, reads.served, fun first last found => ?_⟩
      have before := knows.settled first last found
      cases read : call.readSettled members with
      | none => simpa only [wakeWatch, WakePhase.after, read] using before
      | some highest =>
        simpa only [wakeWatch, WakePhase.after, read] using List.mem_cons_of_mem _ before
    · obtain ⟨sorted, inOrder⟩ := batch_inOrder call members
      refine Program.meets_bind (sendRounds_waking own _ _ reads sorted fun seq chosen => ?_)
        fun after _ knows => ?_
      · obtain ⟨owns, before⟩ := inOrder seq chosen
        exact ⟨owns, fun earlier lower less => (before earlier lower less).imp_left
          fun sent => List.mem_append_left _ sent⟩
      · split
        · exact ih others knows
        · exact knows

section LettingGo

variable {served : List Nat} {settled : Table Nat Nat}

theorem WakePhase.Knows.seen (knows : phase.Knows served settled)
    {payload : Option (List (Nat × Nat))}
    (seen : wakeReasonSeen (Durable.settledFar settled) payload = true) :
    wakeReasonSeen phase.settledFar payload = true := by
  cases payload with
  | none => cases seen
  | some rows =>
    obtain ⟨some_, all⟩ := Bool.and_eq_true_iff.mp seen
    refine Bool.and_eq_true_iff.mpr ⟨some_, List.all_eq_true.mpr fun ⟨first, seq⟩ listed => ?_⟩
    have far : (settled.get first).any (seq ≤ ·) = true := List.all_eq_true.mp all (first, seq) listed
    cases found : settled.get first with
    | none =>
      rw [found] at far
      cases far
    | some last =>
      rw [found] at far
      refine List.any_eq_true.mpr ⟨(first, last), knows.settled first last found, ?_⟩
      simpa using far

theorem removeReasons_waking (ids : List Nat) (begun : phase.starting = false)
    (known : ∀ id ∈ ids, id ∈ phase.served ∨ id ∈ phase.spent) :
    Waking fans (fun after _ => after = phase) (WakeEngine.removeReasons ids) phase := by
  induction ids with
  | nil => exact rfl
  | cons id rest ih =>
    exact ⟨⟨begun, known id List.mem_cons_self⟩, fun _ _ =>
      ih fun other listed => known other (List.mem_cons_of_mem _ listed)⟩

theorem dropWakeReasons_waking (knows : phase.Knows served settled) :
    Waking fans (fun after _ => after = phase) (WakeEngine.dropWakeReasons served) phase := by
  refine Program.meets_perform trivial fun kept _ => ?_
  refine removeReasons_waking _ knows.idle.starting fun id listed => .inl ?_
  obtain ⟨reason, chosen, rfl⟩ := List.mem_map.mp listed
  exact knows.served reason.id (of_decide_eq_true (List.mem_filter.mp chosen).2)

theorem releaseSuspendedLease_plain (engine : WakeEngine) :
    engine.releaseSuspendedLease.Uses Plain := by
  unfold WakeEngine.releaseSuspendedLease
  split
  · exact ⟨.onLease (.releaseUnless _), fun _ => trivial⟩
  · refine Program.uses_perform .getRun fun before => ?_
    split
    · trivial
    · exact ⟨.onLease (.release _), fun _ => trivial⟩

/-- A turn that lets go of its lease is idle afterwards. -/
theorem letGoOfSuspendedTurn_waking (engine : WakeEngine) (rounds : Nat)
    (knows : phase.Knows served settled) :
    Waking fans EndsIdle (engine.letGoOfSuspendedTurn served settled rounds) phase := by
  induction rounds generalizing phase with
  | zero => exact knows.idle
  | succ rounds ih =>
    refine Program.meets_bind (waking_plain (releaseSuspendedLease_plain engine)) ?_
    rintro after released rfl
    split
    · split
      · exact knows.idle
      · refine Program.meets_bind (dropWakeReasons_waking knows) ?_
        rintro after _ rfl
        exact knows.idle
    · refine Program.meets_perform knows.idle.starting fun (kept : List KeptReason) _ => ?_
      -- What the turn has seen of the kept reasons is noted to be spent.
      have noted (reason : KeptReason) (listed : reason ∈ kept)
          (seen : (decide (reason.id ∈ served) ||
            wakeReasonSeen (settledFar settled) reason.payload) = true) :
          reason.id ∈ (after.after (.keptReasons .lettingGo wakeRequestScan) kept).spent := by
        refine List.mem_map.mpr ⟨reason, List.mem_filter.mpr ⟨listed, ?_⟩, rfl⟩
        rcases Bool.or_eq_true_iff.mp seen with found | read
        · exact Bool.or_eq_true_iff.mpr (.inl (decide_eq_true (knows.served _ (of_decide_eq_true found))))
        · exact Bool.or_eq_true_iff.mpr (.inr (knows.seen read))
      have later : WakePhase.Knows (after.after (.keptReasons .lettingGo wakeRequestScan) kept)
          served settled :=
        ⟨⟨knows.idle.carries, knows.idle.kept, knows.idle.starting, knows.idle.looking⟩,
          knows.served, knows.settled⟩
      dsimp only
      split
      · exact later.idle
      · refine Program.meets_bind (removeReasons_waking _ later.idle.starting fun id listed => ?_) ?_
        · obtain ⟨reason, chosen, rfl⟩ := List.mem_map.mp listed
          obtain ⟨kept, seen⟩ := List.mem_filter.mp chosen
          exact .inr (noted reason kept seen)
        rintro spent _ rfl
        refine Program.meets_perform trivial fun _ _ => Program.meets_perform trivial fun found _ => ?_
        split
        · -- The turn that finds a reason it has not seen asks for another one.
          refine Program.meets_perform trivial fun now _ => Program.meets_perform trivial fun _ _ => ?_
          exact ⟨knows.idle.carries, knows.idle.kept, knows.idle.starting, rfl⟩
        · rename_i none_
          refine ih ⟨⟨knows.idle.carries, knows.idle.kept, knows.idle.starting, ?_⟩, knows.served,
            knows.settled⟩
          refine Bool.eq_false_iff.mpr fun unseen => none_ ?_
          obtain ⟨reason, there, missed⟩ := List.any_eq_true.mp unseen
          obtain ⟨notSpent, notSeen⟩ := Bool.and_eq_true_iff.mp missed
          refine List.any_eq_true.mpr ⟨reason, there, Bool.and_eq_true_iff.mpr ⟨?_, ?_⟩⟩
          · rw [Bool.not_eq_true', decide_eq_false_iff_not] at notSpent ⊢
            intro spent
            obtain ⟨same, chosen, number⟩ := List.mem_map.mp spent
            obtain ⟨listed, seen⟩ := List.mem_filter.mp chosen
            exact notSpent (number ▸ noted same listed seen)
          · rw [Bool.not_eq_true', Bool.eq_false_iff] at notSeen ⊢
            exact fun seen => notSeen (knows.seen seen)

end LettingGo

theorem settleSuspended_plain : WakeEngine.settleSuspended.Uses Plain := by
  refine Program.uses_perform .fenced fun fenced => ?_
  split
  · exact ⟨.getRun, fun _ => trivial⟩
  · refine Program.uses_perform .parksOn fun wakeAt => Program.uses_perform (.park wakeAt) fun parked => ?_
    split
    · trivial
    · exact ⟨.getRun, fun _ => trivial⟩

theorem runTurn_waking (engine : WakeEngine) (run : RunLook) (looking : phase.looking = false) :
    Waking fans EndsIdle (engine.runTurn run fans) phase := by
  unfold WakeEngine.runTurn
  refine Program.meets_bind (startTurn_waking run looking) fun started served knows => ?_
  refine Program.meets_bind (callFans_waking fans (fun _ called => called) knows)
    fun later settled knows => ?_
  refine Program.meets_bind (waking_plain settleSuspended_plain) ?_
  rintro parked suspended rfl
  split
  · exact letGoOfSuspendedTurn_waking engine 5 knows
  · exact ⟨trivial, fun _ _ => knows.idle⟩

theorem leaseForTurn_plain (engine : WakeEngine) (run : RunLook) (lockedForTurn : Bool) :
    (engine.leaseForTurn run lockedForTurn).Uses Plain := by
  refine Program.uses_perform .clock fun (now : Nat) => ?_
  have take : (RunCall.tryLockRun engine.instanceId (now + engine.leaseMs) now).Uses Plain :=
    ⟨.onLease (.take _ _ _), fun _ => trivial⟩
  split
  · split
    · trivial
    · refine Program.uses_perform (.onLease (.renew _ _)) fun renewed => ?_
      split
      · trivial
      · exact take
  · exact take

theorem resume_waking (engine : WakeEngine) (turns : Nat) (lockedForTurn : Bool)
    (carries : phase.Carries reason) (some_ : 0 < turns ∨ phase.Idle) :
    Waking fans EndsIdle (engine.resume fans turns lockedForTurn reason) phase := by
  induction turns generalizing phase lockedForTurn reason with
  | zero => exact some_.resolve_left (Nat.lt_irrefl 0)
  | succ turns ih =>
    have again {idle : WakePhase} (rested : idle.Idle) :
        Waking fans EndsIdle (engine.resume fans turns false againReason) idle :=
      ih false (rested.carriesNone rfl) (.inr rested)
    refine Program.meets_perform trivial fun run live => ?_
    rw [if_neg (Bool.eq_false_iff.mp live)]
    refine Program.meets_bind (waking_plain (leaseForTurn_plain engine run lockedForTurn)) ?_
    rintro leased taken rfl
    split
    · refine Program.meets_bind (runTurn_waking engine run carries.looking) fun idle released rested => ?_
      split
      · exact rested
      · exact again rested
    · exact requestWake_waking engine carries again

theorem leaseAndResume_waking (engine : WakeEngine) (turns : Nat) (recheck : Bool)
    (carries : phase.Carries reason) (some_ : recheck = true ∨ phase.Idle) :
    Waking fans EndsIdle (engine.leaseAndResume fans turns recheck reason) phase := by
  refine Program.meets_perform trivial fun now _ => Program.meets_perform trivial fun taken _ => ?_
  split
  · exact resume_waking engine (turns + 1) true carries.generic (.inl (Nat.succ_pos turns))
  · split
    · exact requestWake_waking engine carries.generic fun rested =>
        resume_waking engine turns false (rested.carriesNone rfl) (.inr rested)
    · rename_i unasked
      exact some_.resolve_left unasked

theorem retryDroppedWake_waking (engine : WakeEngine) (turns : Nat) (stamped : Bool)
    (rested : phase.Idle) :
    Waking fans EndsIdle (engine.retryDroppedWake fans turns stamped) phase := by
  refine Program.meets_perform trivial fun run _ => ?_
  split
  · exact rested
  · split
    · exact rested
    · refine Program.meets_perform trivial fun now _ => ?_
      split
      · exact rested
      · split
        · exact rested
        · refine Program.meets_perform trivial fun taken _ => ?_
          split
          · refine Program.meets_perform trivial fun fresh _ => ?_
            split
            · exact resume_waking engine turns false (rested.carriesNone rfl) (.inr rested)
            · exact ⟨trivial, fun _ _ => rested⟩
          · exact rested

theorem WakeWork.follows {path : WakePath Unit} (work : WakeWork fans path) :
    Process.Follows (wakeWatch fans) EndsIdle { phase := {}, rest := path } := by
  have rested : ({} : WakePhase).Idle := ⟨rfl, rfl, rfl, rfl⟩
  cases work with
  | wake engine turns writes =>
    refine Process.follows_once ?_
    refine Program.meets_bind (writeCauses_waking writes (rested.carriesNone rfl))
      fun after reason carries => ?_
    split
    · rename_i nothing
      exact carries.idle nothing
    · exact resume_waking engine (turns + 1) false carries (.inl (Nat.succ_pos turns))
  | queue engine turns writes =>
    refine Process.follows_once ?_
    refine Program.meets_bind (writeCauses_waking writes (rested.carriesNone rfl))
      fun after reason carries => ?_
    split
    · rename_i nothing
      exact carries.idle nothing
    · exact leaseAndResume_waking engine turns true carries (.inl rfl)
  | poll engine turns =>
    exact Process.follows_once
      (leaseAndResume_waking engine turns false (rested.carriesNone rfl) (.inr rested))
  | retry engine turns stamped =>
    exact Process.follows_once (retryDroppedWake_waking engine turns stamped rested)

end Paths

end Durable
