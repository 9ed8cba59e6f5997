import Durable.Schedules.Bookkeeping

/-! Where every write finds its schedule as it was read, the schedules keep their bookkeeping. -/

namespace Durable

open Interleaving

variable {latest : Nat}

section Windows

variable {parser : CronParser} {spec : SpecDoc} {atMs : Nat}

theorem latestWindowAtOrBefore_le (lawful : parser.Lawful)
    (found : latestWindowAtOrBefore parser spec atMs = .ok latest) : latest ≤ atMs := by
  unfold latestWindowAtOrBefore at found
  split at found
  · rename_i expr _
    obtain ⟨fires, before, -⟩ := lawful expr (spec.timezone.getD "UTC")
    have bound := (before _ _ found).2.1
    omega
  · cases found
    exact Nat.div_mul_le_self _ _

theorem nextWindowAfter_gt (lawful : parser.Lawful) {afterMs next : Nat}
    (found : nextWindowAfter parser spec afterMs = .ok (some next)) : afterMs < next := by
  unfold nextWindowAfter at found
  split at found
  · rename_i expr _
    obtain ⟨fires, -, after⟩ := lawful expr (spec.timezone.getD "UTC")
    cases answered : nextCronFireMs parser expr afterMs spec.timezone with
    | error message => simp [answered, Except.map] at found
    | ok fire =>
      have same : fire = next := by simpa [answered, Except.map] using found
      subst same
      exact (after _ _ answered).2.1
  · rename_i every _
    cases found
    rw [Nat.mul_comm]
    exact Nat.lt_mul_div_succ afterMs every.property

theorem nextWindowAfter_latest (lawful : parser.Lawful) {next : Nat}
    (last : latestWindowAtOrBefore parser spec atMs = .ok latest)
    (found : nextWindowAfter parser spec latest = .ok (some next)) : atMs < next := by
  have later := nextWindowAfter_gt lawful found
  unfold latestWindowAtOrBefore at last
  unfold nextWindowAfter at found
  split at last
  · rename_i expr shape
    rw [shape] at found
    obtain ⟨fires, before, after⟩ := lawful expr (spec.timezone.getD "UTC")
    dsimp only at found
    cases answered : nextCronFireMs parser expr latest spec.timezone with
    | error message => simp [answered, Except.map] at found
    | ok fire =>
      have same : fire = next := by simpa [answered, Except.map] using found
      subst same
      -- A fire at or before the time would be at or before the last one.
      by_contra early
      have bound := (before _ _ last).2.2 fire (after _ _ answered).1 (by omega)
      omega
  · rename_i every shape
    rw [shape] at found
    cases last
    have answer : (atMs / every.val * every.val / every.val + 1) * every.val = next := by
      simpa using found
    rw [Nat.mul_div_cancel _ every.property, Nat.mul_comm] at answer
    rw [← answer]
    exact Nat.lt_mul_div_succ atMs every.property

end Windows

namespace ScheduleClient

open ScheduleProgram SchedulePhase

variable {client : ScheduleClient} {record : ScheduleRecord} {nowMs : Nat}
  {rest : List ScheduleRecord} {id : String} {existing : Option ScheduleRecord}
  {before after : ScheduleBoard} {earlier : List Nat} {phases : List SchedulePhase}
  {note : Option String}

theorem meets_op {α : Type} {ends : SchedulePhase → α → Prop} {call : ScheduleCall}
    {purpose : SchedulePurpose} {rest : call.Answer → ScheduleProgram α} {phase : SchedulePhase}
    (allowed : Allows phase ⟨purpose, call⟩)
    (after : ∀ answer, (rest answer).Meets monitor ends
      (phase.advance ⟨purpose, call⟩ answer)) :
    (perform call purpose >>= rest).Meets monitor ends phase :=
  ⟨allowed, fun answer _ => after answer⟩

/-- A tick that knows its time is about to list or to fire. -/
def Ticks (nowMs : Nat) (records : List ScheduleRecord) (phase : SchedulePhase) : Prop :=
  phase = .due nowMs records ∨ (records = [] ∧ phase = .timed nowMs)

theorem advance_meets {next : Option Nat} {fired : Bool} {lastError : Option String}
    (later : ∀ window, next = some window → nowMs < window) {phase : SchedulePhase}
    (placed : phase = if fired then .launched nowMs record latest rest
      else .due nowMs (record :: rest)) :
    (advance record nowMs latest next fired lastError).Meets monitor
      (fun phase _ => phase = .due nowMs rest) phase := by
  have dueLater : DueAfter nowMs
      (next.map fun next => next + jitterFor record.id next record.spec)
      (nextState record latest next fired lastError) := by
    intro dueAt due
    cases next with
    | none => cases due
    | some window =>
      cases due
      refine ⟨window, ?_, Nat.le_add_right _ _, later window rfl⟩
      unfold nextState
      split <;> rfl
  cases fired with
  | true =>
    subst placed
    refine meets_op (.count ⟨rfl, rfl, rfl, _, _, rfl, rfl, ⟨rfl, rfl⟩, dueLater⟩) fun answer => ?_
    rfl
  | false =>
    subst placed
    refine meets_op (.move ⟨rfl, rfl, rfl, _, _, rfl, rfl, ⟨rfl, rfl⟩, dueLater⟩) fun answer => ?_
    rfl

theorem stop_meets {message : String} :
    (stop record nowMs message).Meets monitor (fun phase _ => phase = .due nowMs rest)
      (.due nowMs (record :: rest)) := by
  refine meets_op (.move ⟨rfl, rfl, rfl, none, _, rfl, rfl, ⟨rfl, rfl⟩, ?_⟩) fun answer => rfl
  intro dueAt due
  cases due

theorem launch_meets {next : Option Nat} (later : ∀ window, next = some window → nowMs < window)
    (fires : Fires nowMs record latest) :
    (launch record nowMs latest next).Meets monitor (fun phase _ => phase = .due nowMs rest)
      (.due nowMs (record :: rest)) := by
  refine meets_op (.start fires) fun answer => ?_
  cases answer with
  | ok _ => exact advance_meets later rfl
  | error message =>
    -- The run is looked up under the window's id.
    refine meets_op .lookUp fun found => ?_
    cases found with
    | some status => exact advance_meets later rfl
    | none => exact advance_meets later rfl

theorem fire_meets (lawful : client.parser.Lawful) :
    (client.fire record nowMs).Meets monitor (fun phase _ => phase = .due nowMs rest)
      (.due nowMs (record :: rest)) := by
  unfold fire
  cases last : latestWindowAtOrBefore client.parser record.spec nowMs with
  | error message => exact stop_meets
  | ok latest =>
    dsimp only
    cases following : nextWindowAfter client.parser record.spec latest with
    | error message => exact stop_meets
    | ok next =>
      have later : ∀ window, next = some window → nowMs < window := by
        intro window same
        subst same
        exact nextWindowAfter_latest lawful last following
      dsimp only
      split
      · exact advance_meets later rfl
      · rename_i dueNow
        have fires : Fires nowMs record latest := by
          refine ⟨latestWindowAtOrBefore_le lawful last, ?_⟩
          intro planned same
          simp only [notDue, same, Option.getD_some, Bool.or_eq_true, decide_eq_true_eq,
            not_or, Nat.not_lt] at dueNow
          exact dueNow.2
        have looks : (overlapping record.spec record.state).Meets monitor
            (fun phase _ => phase = .due nowMs (record :: rest)) (.due nowMs (record :: rest)) := by
          unfold overlapping
          split
          · refine meets_op .look fun answer => ?_
            cases answer <;> rfl
          · rfl
        refine Program.meets_bind looks ?_
        intro phase overlaps same
        subst same
        cases overlaps
        · exact launch_meets later fires
        · exact advance_meets later rfl

theorem fireEach_meets (lawful : client.parser.Lawful) :
    ∀ (records : List ScheduleRecord) (started : List String),
      (client.fireEach nowMs records started).Meets monitor
        (fun phase result => ∃ left, phase = .due nowMs left ∧ (result.2 = false → left = []))
        (.due nowMs records)
  | [], started => ⟨[], rfl, fun _ => rfl⟩
  | record :: records, started => by
    unfold fireEach
    refine meets_op .draining fun drained => ?_
    cases drained
    · refine Program.meets_bind (fire_meets lawful) ?_
      intro phase runId same
      subst same
      exact fireEach_meets lawful records _
    · exact ⟨_, rfl, fun absurd => by cases absurd⟩

theorem tickRounds_meets (lawful : client.parser.Lawful) :
    ∀ (rounds : Nat) (started : List String) (phase : SchedulePhase), Ticks nowMs [] phase →
      (client.tickRounds nowMs rounds started).Meets monitor (fun phase _ => phase.Polls) phase
  | 0, started, phase, ticks => by
    rcases ticks with rfl | ⟨-, rfl⟩ <;> trivial
  | rounds + 1, started, phase, ticks => by
    unfold tickRounds
    refine meets_op .draining fun drained => ?_
    have stays : phase.advance ⟨.plain, .isDraining⟩ drained = phase := by
      rcases ticks with rfl | ⟨-, rfl⟩ <;> rfl
    rw [stays]
    cases drained
    · -- The listing is allowed before and after the first round.
      have listed : Allows phase ⟨.plain, .listSchedules nowMs client.namespace tickBatch⟩ := by
        rcases ticks with rfl | ⟨-, rfl⟩
        · exact .listAgain
        · exact .list
      refine meets_op listed fun records => ?_
      have lists : phase.advance ⟨.plain, .listSchedules nowMs client.namespace tickBatch⟩ records =
          .due nowMs records := by
        rcases ticks with rfl | ⟨-, rfl⟩ <;> rfl
      rw [lists]
      refine Program.meets_bind (fireEach_meets lawful records started) ?_
      intro phase' result ended
      obtain ⟨left, rfl, emptied⟩ := ended
      obtain ⟨started', drained⟩ := result
      dsimp only
      split
      · trivial
      · rename_i goesOn
        have going : drained = false := by
          cases drained
          · rfl
          · simp at goesOn
        have nothing : left = [] := emptied going
        subst nothing
        exact tickRounds_meets lawful rounds _ _ (.inl rfl)
    · rcases ticks with rfl | ⟨-, rfl⟩ <;> trivial

theorem tick_meets (lawful : client.parser.Lawful) {phase : SchedulePhase} (polls : phase.Polls) :
    client.tick.Meets monitor (fun phase _ => phase.Polls) phase := by
  refine meets_op (.clock polls) fun nowMs => ?_
  have timed : phase.advance ⟨.plain, .now⟩ nowMs = .timed nowMs := by
    cases phase with
    | idle | timed _ | due _ _ => rfl
    | refused _ _ _ _ | launched _ _ _ _ | read _ _ | readAt _ _ _ => exact polls.elim
  rw [timed]
  exact tickRounds_meets lawful 50 [] _ (.inr ⟨rfl, rfl⟩)

theorem rests_of_polls {phase : SchedulePhase} (polls : phase.Polls) (result : ScheduleEnd) :
    Rests phase result := by
  intro id window owes
  cases phase with
  | idle | timed _ | due _ _ | read _ _ | readAt _ _ _ => exact owes
  | refused _ _ _ _ | launched _ _ _ _ => exact polls

theorem describe_meets : (describe id).Meets monitor Rests .idle := by
  refine meets_op .get fun answer => ?_
  cases answer <;> exact fun _ _ owes => owes

theorem pause_meets : (pause id note).Meets monitor Rests .idle := by
  refine meets_op .get fun answer => ?_
  cases answer with
  | none => exact fun _ _ owes => owes
  | some record =>
    refine meets_op .clockRead fun nowMs => ?_
    exact meets_op (.pause rfl rfl rfl) fun answer => describe_meets

theorem resume_meets (lawful : client.parser.Lawful) :
    (client.resume id).Meets monitor Rests .idle := by
  refine meets_op .get fun answer => ?_
  cases answer with
  | none => exact fun _ _ owes => owes
  | some record =>
    refine meets_op .clockRead fun nowMs => ?_
    cases following : nextWindowAfter client.parser record.spec nowMs with
    | error message => exact fun _ _ owes => owes
    | ok window =>
      refine meets_op .clockAgain fun updatedAt => ?_
      refine meets_op (.resume rfl rfl rfl ⟨rfl, rfl⟩ ?_) fun answer => describe_meets
      intro dueAt due
      cases window with
      | none => cases due
      | some window =>
        cases due
        exact ⟨window, rfl, Nat.le_add_right _ _, nextWindowAfter_gt lawful following⟩

theorem write_meets (lawful : client.parser.Lawful) {opts : ScheduleOptions} :
    (client.write opts existing).Meets monitor Rests (.read opts.id existing) := by
  unfold write
  cases described : toSpec opts with
  | error message => exact fun _ _ owes => owes
  | ok spec =>
    refine meets_op .clockRead fun nowMs => ?_
    cases following : nextWindowAfter client.parser spec nowMs with
    | error message => exact fun _ _ owes => owes
    | ok window =>
      refine meets_op (.save rfl ?_ ?_) fun answer => fun _ _ owes => owes
      · cases existing <;> exact ⟨rfl, rfl⟩
      · intro dueAt due
        cases window with
        | none => cases due
        | some window =>
          cases due
          exact ⟨window, rfl, Nat.le_add_right _ _, nextWindowAfter_gt lawful following⟩

theorem Path.meets {parser : CronParser} (lawful : parser.Lawful)
    {program : ScheduleProgram ScheduleEnd} (path : Path parser program) :
    program.Meets monitor Rests .idle := by
  cases path with
  | tick same =>
    subst same
    have idle : SchedulePhase.idle.Polls := trivial
    exact (tick_meets lawful idle).weaken fun _ result polls => rests_of_polls polls result
  | create same opts =>
    subst same
    refine meets_op .get fun answer => ?_
    cases answer with
    | none => exact write_meets lawful
    | some record => exact fun _ _ owes => owes
  | upsert same opts =>
    subst same
    exact meets_op .get fun answer => write_meets lawful
  | pause id note => exact pause_meets
  | resume same id =>
    subst same
    exact resume_meets lawful

theorem poller_follows (lawful : client.parser.Lawful) :
    Process.Follows monitor Rests
      { phase := .idle, rest := .done (.ticked []), again := some client.tick } :=
  Process.follows_again (fun phase _ => phase.Polls) trivial
    (fun _ result polls => rests_of_polls polls result)
    fun _ _ polls => tick_meets lawful polls

/-- A record agrees with the windows that have been counted of its schedule. -/
structure Coherent (record : ScheduleRecord) (counted : List Nat) : Prop where
  fires : record.fires = counted.length
  last : record.state.lastRunId = counted.getLast?.map (windowRunId record.id)
  ahead : ∀ dueAt, record.nextFireAt = some dueAt → ∃ window,
    record.state.window = some window ∧ window ≤ dueAt ∧ ∀ fired ∈ counted, fired < window

/-- A record agreed, when it was read, with the windows counted by then. -/
def Seen (board : ScheduleBoard) (record : ScheduleRecord) (earlier : List Nat) : Prop :=
  earlier <+: board.counted record.id ∧ Coherent record earlier

def Listed (board : ScheduleBoard) (nowMs : Nat) (record : ScheduleRecord) : Prop :=
  (∃ earlier, Seen board record earlier) ∧ (board.schedules.get record.id).isSome = true ∧
    ∃ dueAt, record.nextFireAt = some dueAt ∧ dueAt ≤ nowMs

/-- What a change has read agrees with the windows counted by then. -/
def Known (board : ScheduleBoard) (id : String) (existing : Option ScheduleRecord)
    (earlier : List Nat) : Prop :=
  earlier <+: board.counted id ∧
    match existing with
    | none => earlier = []
    | some record => record.id = id ∧ Coherent record earlier

/-- What a phase knows of the board. -/
def Knows (board : ScheduleBoard) : SchedulePhase → Prop
  | .idle => True
  | .timed nowMs => nowMs ≤ board.clockMs
  | .due nowMs records =>
    nowMs ≤ board.clockMs ∧ ∀ record ∈ records, Listed board nowMs record
  | .refused nowMs record window rest | .launched nowMs record window rest =>
    nowMs ≤ board.clockMs ∧ Fires nowMs record window ∧
      ∀ each ∈ record :: rest, Listed board nowMs each
  | .read id existing =>
    ∃ earlier, Known board id existing earlier ∧ ∀ window ∈ earlier, window ≤ board.clockMs
  | .readAt id existing nowMs =>
    ∃ earlier, Known board id existing earlier ∧ ∀ window ∈ earlier, window ≤ nowMs

/-- The board, and what the calls on it know and owe. -/
structure Sound (board : ScheduleBoard) (phases : List SchedulePhase) : Prop where
  past : ∀ id, ∀ window ∈ board.counted id, window ≤ board.clockMs
  increasing : ∀ id, (board.counted id).Pairwise (· < ·)
  rows : ∀ id record, board.schedules.get id = some record →
    record.id = id ∧ Coherent record (board.counted id) ∧ board.defined id = some record.spec
  absent : ∀ id, board.schedules.get id = none → board.counted id = []
  once : board.launches.Nodup
  created : ∀ id window, (id, window) ∈ board.launches →
    (board.runs.get (windowRunId id window)).isSome = true
  covered : ∀ id window, (id, window) ∈ board.launches →
    window ∈ board.counted id ∨ ∃ phase ∈ phases, phase.owes id window
  fresh : ∀ start ∈ board.starts, start.fires ≤ (board.counted start.id).length ∧
    ∀ window ∈ (board.counted start.id).take start.fires, window < start.window
  knows : ∀ phase ∈ phases, Knows board phase

/-- What one board knows still holds on another. -/
structure Grows (before after : ScheduleBoard) : Prop where
  counted : ∀ id, before.counted id <+: after.counted id
  clock : before.clockMs ≤ after.clockMs
  kept : ∀ id, (before.schedules.get id).isSome = true → (after.schedules.get id).isSome = true

theorem Listed.grows (grows : Grows before after) (listed : Listed before nowMs record) :
    Listed after nowMs record := by
  obtain ⟨⟨earlier, within, coherent⟩, present, due⟩ := listed
  exact ⟨⟨earlier, within.trans (grows.counted _), coherent⟩, grows.kept _ present, due⟩

theorem Known.grows (grows : Grows before after) (known : Known before id existing earlier) :
    Known after id existing earlier :=
  ⟨known.1.trans (grows.counted _), known.2⟩

theorem Knows.grows (grows : Grows before after) {phase : SchedulePhase}
    (knows : Knows before phase) : Knows after phase := by
  have clock := grows.clock
  cases phase with
  | idle => trivial
  | timed nowMs => exact Nat.le_trans knows clock
  | due nowMs records =>
    exact ⟨Nat.le_trans knows.1 clock, fun record member => (knows.2 record member).grows grows⟩
  | refused nowMs record window rest | launched nowMs record window rest =>
    obtain ⟨past, fires, listed⟩ := knows
    exact ⟨Nat.le_trans past clock, fires, fun each member => (listed each member).grows grows⟩
  | read id existing =>
    obtain ⟨earlier, known, past⟩ := knows
    exact ⟨earlier, known.grows grows, fun window member => Nat.le_trans (past window member) clock⟩
  | readAt id existing nowMs =>
    obtain ⟨earlier, known, past⟩ := knows
    exact ⟨earlier, known.grows grows, past⟩

theorem counted_eq {counted : List Nat} (within : earlier <+: counted)
    (same : earlier.length = counted.length) : earlier = counted :=
  within.eq_of_length same

theorem fresh_grows (grows : Grows before after) {start : WindowStart}
    (fresh : start.fires ≤ (before.counted start.id).length ∧
      ∀ window ∈ (before.counted start.id).take start.fires, window < start.window) :
    start.fires ≤ (after.counted start.id).length ∧
      ∀ window ∈ (after.counted start.id).take start.fires, window < start.window := by
  obtain ⟨more, longer⟩ := grows.counted start.id
  rw [← longer, List.take_append_of_le_length fresh.1, List.length_append]
  exact ⟨by have := fresh.1; omega, fresh.2⟩

section Steps

variable {board : ScheduleBoard} {phase : SchedulePhase} {others : List SchedulePhase}
  {row : ScheduleRecord} {window : Nat} {patch : ScheduleChange} {nextFireAt : Option Nat}
  {state : StateDoc} {expected : Option (Option Nat)}

theorem Sound.turn (sound : Sound board (phase :: others)) {next : SchedulePhase}
    (knows : Knows board next)
    (owes : ∀ id window, (id, window) ∈ board.launches → phase.owes id window →
      next.owes id window ∨ window ∈ board.counted id) : Sound board (next :: others) := by
  refine { sound with covered := ?_, knows := ?_ }
  · intro id window launched
    rcases sound.covered id window launched with counted | ⟨held, member, owing⟩
    · exact .inl counted
    · rcases List.mem_cons.mp member with rfl | beside
      · rcases owes id window launched owing with still | counted
        · exact .inr ⟨next, List.mem_cons_self, still⟩
        · exact .inl counted
      · exact .inr ⟨held, List.mem_cons_of_mem _ beside, owing⟩
  · intro each member
    rcases List.mem_cons.mp member with rfl | beside
    · exact knows
    · exact sound.knows each (List.mem_cons_of_mem _ beside)

theorem Sound.rewrite (sound : Sound board (phase :: others)) (defined : String → Option SpecDoc)
    (coherent : Coherent row (board.counted row.id)) (describes : defined row.id = some row.spec)
    (elsewhere : ∀ id, id ≠ row.id → defined id = board.defined id) :
    Sound { board with schedules := board.schedules.set row.id row, defined }
      (phase :: others) := by
  have grows : Grows board { board with schedules := board.schedules.set row.id row, defined } := by
    refine ⟨fun id => List.prefix_refl _, Nat.le_refl _, ?_⟩
    intro id present
    simp only [Table.get_set]
    split <;> simp [present]
  refine { sound with rows := ?_, absent := ?_, knows := ?_ }
  · intro id record found
    simp only [Table.get_set] at found
    split at found
    · rename_i same
      cases found
      subst same
      exact ⟨rfl, coherent, describes⟩
    · rename_i different
      obtain ⟨own, agrees, spec⟩ := sound.rows id record found
      exact ⟨own, agrees, (elsewhere id (Ne.symm different)).trans spec⟩
  · intro id missing
    simp only [Table.get_set] at missing
    split at missing
    · cases missing
    · exact sound.absent id missing
  · intro each member
    exact (sound.knows each member).grows grows

/-- A later window is counted, and the row of its schedule says so. -/
theorem Sound.count (sound : Sound board (phase :: others)) (past : window ≤ board.clockMs)
    (later : ∀ fired ∈ board.counted row.id, fired < window)
    (coherent : Coherent row (board.counted row.id ++ [window]))
    (describes : board.defined row.id = some row.spec) : Sound { board with
      schedules := board.schedules.set row.id row
      counted := changeAt row.id (board.counted row.id ++ [window]) board.counted }
      (phase :: others) := by
  have grows : Grows board { board with
      schedules := board.schedules.set row.id row
      counted := changeAt row.id (board.counted row.id ++ [window]) board.counted } := by
    refine ⟨?_, Nat.le_refl _, ?_⟩
    · intro id
      unfold changeAt
      dsimp only
      split
      · rename_i same
        subst same
        exact List.prefix_append _ _
      · exact List.prefix_refl _
    · intro id present
      simp only [Table.get_set]
      split <;> simp [present]
  refine { sound with
    past := ?_, increasing := ?_, rows := ?_, absent := ?_, covered := ?_, fresh := ?_, knows := ?_ }
  · intro id fired member
    unfold changeAt at member
    dsimp only at member
    split at member
    · rcases List.mem_append.mp member with before | new
      · exact sound.past _ fired before
      · cases List.mem_singleton.mp new
        exact past
    · exact sound.past id fired member
  · intro id
    unfold changeAt
    dsimp only
    split
    · -- The new window is later than every one before it.
      refine List.pairwise_append.mpr ⟨sound.increasing _, List.pairwise_singleton _ _, ?_⟩
      intro fired before new member
      cases List.mem_singleton.mp member
      exact later fired before
    · exact sound.increasing id
  · intro id record found
    simp only [Table.get_set] at found
    unfold changeAt
    dsimp only
    split at found
    · rename_i same
      cases found
      subst same
      rw [if_pos rfl]
      exact ⟨rfl, coherent, describes⟩
    · rename_i different
      rw [if_neg (Ne.symm different)]
      exact sound.rows id record found
  · intro id missing
    simp only [Table.get_set] at missing
    split at missing
    · cases missing
    · rename_i different
      unfold changeAt
      dsimp only
      rw [if_neg (Ne.symm different)]
      exact sound.absent id missing
  · intro id fired launched
    rcases sound.covered id fired launched with counted | owing
    · exact .inl ((grows.counted id).subset counted)
    · exact .inr owing
  · intro start member
    exact fresh_grows grows (sound.fresh start member)
  · intro each member
    exact (sound.knows each member).grows grows

theorem update_cases (id : String) (patch : ScheduleChange) (expected : Option (Option Nat))
    (purpose : SchedulePurpose) :
    board.update id patch expected purpose = (board, false) ∧
        (∀ row, board.schedules.get id = some row → ∃ dueAt, expected = some dueAt ∧
          row.nextFireAt ≠ dueAt) ∨
      ∃ row, board.schedules.get id = some row ∧
        (∀ dueAt, expected = some dueAt → row.nextFireAt = dueAt) ∧
        board.update id patch expected purpose =
          (({ board with schedules := board.schedules.set id (patch.apply row) } :
            ScheduleBoard).noteUpdate id purpose, true) := by
  unfold ScheduleBoard.update
  cases found : board.schedules.get id with
  | none => exact .inl ⟨rfl, by simp⟩
  | some row =>
    dsimp only
    split
    · rename_i due
      refine .inr ⟨row, rfl, ?_, rfl⟩
      intro dueAt same
      subst same
      simpa using due
    · rename_i moved
      refine .inl ⟨rfl, ?_⟩
      intro row' same
      cases same
      cases expected with
      | none => simp at moved
      | some dueAt => exact ⟨dueAt, rfl, by simpa using moved⟩

theorem Sound.seen_now (sound : Sound board (phase :: others)) (seen : Seen board record earlier)
    (found : board.schedules.get record.id = some row) (same : row.fires = record.fires) :
    earlier = board.counted record.id := by
  have current := (sound.rows _ _ found).2.1.fires
  have then' := seen.2.fires
  exact counted_eq seen.1 (by omega)

theorem Sound.patched (sound : Sound board (phase :: others))
    (found : board.schedules.get id = some row) (spec : patch.spec = none)
    (moved : patch.nextFireAt = some nextFireAt) (stated : patch.state = some state)
    (own : record.id = id) (agrees : Coherent record (board.counted id))
    (continues : Continues state record.fires record.state.lastRunId)
    (later : ∀ dueAt, nextFireAt = some dueAt → ∃ window, state.window = some window ∧
      window ≤ dueAt ∧ ∀ fired ∈ board.counted id, fired < window) :
    Sound { board with schedules := board.schedules.set id (patch.apply row) }
      (phase :: others) := by
  obtain ⟨named, -, described⟩ := sound.rows id row found
  have placed : (patch.apply row).id = id := named
  have described' : board.defined (patch.apply row).id = some (patch.apply row).spec := by
    rw [placed, described]
    simp [ScheduleChange.apply, spec]
  have coherent : Coherent (patch.apply row) (board.counted (patch.apply row).id) := by
    rw [placed]
    refine ⟨?_, ?_, ?_⟩
    · have counts := agrees.fires
      have carried := continues.1
      simp only [ScheduleRecord.fires, ScheduleChange.apply, stated, Option.getD_some] at counts ⊢
      rw [carried]
      exact counts
    · have last := agrees.last
      have carried := continues.2
      rw [placed, ← own]
      simp only [ScheduleChange.apply, stated, Option.getD_some]
      rw [carried, last, own]
    · intro dueAt due
      have due' : nextFireAt = some dueAt := by
        simpa [ScheduleChange.apply, moved] using due
      simpa [ScheduleChange.apply, stated] using later dueAt due'
  have rewritten := sound.rewrite board.defined coherent described' fun _ _ => rfl
  rw [placed] at rewritten
  exact rewritten

theorem Listed.planned (coherent : Coherent record earlier)
    (due : ∃ dueAt, record.nextFireAt = some dueAt ∧ dueAt ≤ nowMs) :
    ∃ window, record.state.window = some window ∧ window ≤ nowMs ∧
      ∀ fired ∈ earlier, fired < window := by
  obtain ⟨dueAt, next, past⟩ := due
  obtain ⟨window, planned, before, ahead⟩ := coherent.ahead dueAt next
  exact ⟨window, planned, by omega, ahead⟩

theorem Sound.moves (sound : Sound board (.due nowMs (record :: rest) :: others))
    (advances : Advances nowMs record record.fires record.state.lastRunId id patch expected)
    (admitted : findsAsRead board (.due nowMs (record :: rest))
      ⟨.plain, .updateSchedule id patch expected⟩ = true) :
    Sound (board.update id patch expected .plain).1 (.due nowMs rest :: others) := by
  obtain ⟨same, expects, spec, nextFireAt, state, moved, stated, continues, later⟩ := advances
  subst same
  have knows := sound.knows _ List.mem_cons_self
  obtain ⟨⟨earlier, seen⟩, present, due⟩ := knows.2 record List.mem_cons_self
  rcases update_cases record.id patch expected .plain with ⟨kept, -⟩ | ⟨row, found, asDue, applied⟩
  · rw [kept]
    refine sound.turn ⟨knows.1, fun each member => knows.2 each (List.mem_cons_of_mem _ member)⟩ ?_
    exact fun id window _ owes => owes.elim
  · have unmoved := asDue _ expects
    have asRead : row.fires = record.fires := by
      simpa [findsAsRead, found, unmoved] using admitted
    have all := sound.seen_now seen found asRead
    rw [applied]
    have patched := sound.patched found spec moved stated rfl (all ▸ seen.2) continues (by
      intro dueAt same
      obtain ⟨window, planned, before, after⟩ := later dueAt same
      obtain ⟨earliest, -, past, ahead⟩ := Listed.planned seen.2 due
      refine ⟨window, planned, before, fun fired member => ?_⟩
      have counted := ahead fired (all ▸ member)
      omega)
    have known := patched.knows _ List.mem_cons_self
    refine patched.turn ⟨known.1, fun each member => known.2 each (List.mem_cons_of_mem _ member)⟩ ?_
    exact fun id window _ owes => owes.elim

/-- A tick that counts the window it has started keeps the board sound. -/
theorem Sound.counts (sound : Sound board (.launched nowMs record window rest :: others))
    (advances : Advances nowMs record (record.fires + 1)
      (some (windowRunId record.id window)) id patch expected)
    (admitted : findsAsRead board (.launched nowMs record window rest)
      ⟨.fire record window, .updateSchedule id patch expected⟩ = true) :
    Sound (board.update id patch expected (.fire record window)).1 (.due nowMs rest :: others) := by
  obtain ⟨same, expects, spec, nextFireAt, state, moved, stated, continues, later⟩ := advances
  subst same
  obtain ⟨past, fires, listed⟩ := sound.knows _ List.mem_cons_self
  obtain ⟨⟨earlier, seen⟩, present, due⟩ := listed record List.mem_cons_self
  have others' : ∀ each ∈ rest, Listed board nowMs each :=
    fun each member => listed each (List.mem_cons_of_mem _ member)
  rcases update_cases record.id patch expected (.fire record window) with
    ⟨kept, missed⟩ | ⟨row, found, asDue, applied⟩
  · rw [kept]
    -- The row has moved on; the window must have been counted by another poller.
    refine sound.turn ⟨past, others'⟩ ?_
    rintro id' window' - ⟨rfl, rfl⟩
    obtain ⟨row, found⟩ := Option.isSome_iff_exists.mp present
    obtain ⟨dueAt, same, elsewhere⟩ := missed row found
    have different : row.nextFireAt ≠ record.nextFireAt := by
      intro alike
      rw [expects] at same
      cases same
      exact elsewhere alike
    have counted : window ∈ board.counted record.id := by
      simpa [findsAsRead, found, different] using admitted
    exact .inr counted
  · have unmoved := asDue _ expects
    have asRead : row.fires = record.fires := by
      simpa [findsAsRead, found, unmoved] using admitted
    have all := sound.seen_now seen found asRead
    obtain ⟨planned, plans, plannedPast, ahead⟩ := Listed.planned seen.2 due
    have planned' := fires.2 planned plans
    have latest : ∀ fired ∈ board.counted record.id, fired < window := by
      intro fired member
      have before := ahead fired (all ▸ member)
      omega
    obtain ⟨named, -, described⟩ := sound.rows record.id row found
    have placed : (patch.apply row).id = record.id := named
    have coherent : Coherent (patch.apply row) (board.counted (patch.apply row).id ++ [window]) := by
      rw [placed]
      refine ⟨?_, ?_, ?_⟩
      · have counts := seen.2.fires
        have carried := continues.1
        rw [all] at counts
        simp only [ScheduleRecord.fires, ScheduleChange.apply, stated, Option.getD_some,
          List.length_append, List.length_singleton] at counts carried ⊢
        omega
      · have carried := continues.2
        rw [placed]
        simpa [ScheduleChange.apply, stated] using carried
      · intro dueAt same
        have same' : nextFireAt = some dueAt := by
          simpa [ScheduleChange.apply, moved] using same
        obtain ⟨next, plans', before, after⟩ := later dueAt same'
        refine ⟨next, by simpa [ScheduleChange.apply, stated] using plans', before, ?_⟩
        intro fired member
        have bound := fires.1
        rcases List.mem_append.mp member with counted | new
        · have early := latest fired counted
          omega
        · cases List.mem_singleton.mp new
          omega
    have described' : board.defined (patch.apply row).id = some (patch.apply row).spec := by
      rw [placed, described]
      simp [ScheduleChange.apply, spec]
    have counted := sound.count (Nat.le_trans fires.1 past) (by rw [placed]; exact latest) coherent
      described'
    rw [placed] at counted
    rw [applied]
    obtain ⟨past', -, listed'⟩ := counted.knows _ List.mem_cons_self
    refine counted.turn
      ⟨past', fun each member => listed' each (List.mem_cons_of_mem _ member)⟩ ?_
    rintro id' window' - ⟨rfl, rfl⟩
    refine .inr ?_
    simp [changeAt]

theorem Sound.noteStart (sound : Sound board (phase :: others))
    (listed : Listed board nowMs record) (fires : Fires nowMs record window) :
    Sound (board.noteStart (.fire record window)) (phase :: others) := by
  obtain ⟨⟨earlier, seen⟩, present, due⟩ := listed
  obtain ⟨planned, plans, -, ahead⟩ := Listed.planned seen.2 due
  have planned' := fires.2 planned plans
  have grows : Grows board (board.noteStart (.fire record window)) :=
    ⟨fun _ => List.prefix_refl _, Nat.le_refl _, fun _ present => present⟩
  refine { sound with
    fresh := ?_, knows := fun each member => (sound.knows each member).grows grows }
  intro start member
  rcases List.mem_append.mp member with before | new
  · exact sound.fresh start before
  · cases List.mem_singleton.mp new
    have counts := seen.2.fires
    have within := seen.1.length_le
    refine ⟨?_, ?_⟩
    · show record.fires ≤ (board.counted record.id).length
      omega
    intro fired counted
    -- The windows counted by then are the first of those counted now.
    have same : (board.counted record.id).take record.fires = earlier := by
      rw [counts]
      exact (List.prefix_iff_eq_take.mp seen.1).symm
    have early := ahead fired (by rw [← same]; exact counted)
    dsimp only
    omega

/-- The run of a window is created, and the window is to be counted. -/
theorem Sound.createRun (sound : Sound board (phase :: others)) {run : StartedRun}
    (free : board.runs.get (windowRunId record.id window) = none) {next : SchedulePhase}
    (owes : next.owes record.id window) (knows : Knows board next)
    (debtless : ∀ id window, ¬ phase.owes id window) :
    Sound (board.createRun (windowRunId record.id window) run (.fire record window))
      (next :: others) := by
  have grows : Grows board
      (board.createRun (windowRunId record.id window) run (.fire record window)) :=
    ⟨fun _ => List.prefix_refl _, Nat.le_refl _, fun _ present => present⟩
  have fresh : (record.id, window) ∉ board.launches := by
    intro launched
    have exists' := sound.created _ _ launched
    simp [free] at exists'
  refine { sound with once := ?_, created := ?_, covered := ?_, knows := ?_ }
  · exact List.nodup_append.mpr ⟨sound.once, List.nodup_singleton _, by
      intro launch member other new same
      cases List.mem_singleton.mp new
      subst same
      exact fresh member⟩
  · intro id window' launched
    rcases List.mem_append.mp launched with before | new
    · have exists' := sound.created id window' before
      show ((board.runs.set (windowRunId record.id window) run).get (windowRunId id window')).isSome =
        true
      rw [Table.get_set]
      split <;> simp [exists']
    · cases List.mem_singleton.mp new
      show ((board.runs.set (windowRunId record.id window) run).get
        (windowRunId record.id window)).isSome = true
      simp
  · intro id window' launched
    rcases List.mem_append.mp launched with before | new
    · rcases sound.covered id window' before with counted | ⟨held, member, owing⟩
      · exact .inl counted
      · rcases List.mem_cons.mp member with rfl | beside
        · exact absurd owing (debtless id window')
        · exact .inr ⟨held, List.mem_cons_of_mem _ beside, owing⟩
    · cases List.mem_singleton.mp new
      exact .inr ⟨next, List.mem_cons_self, owes⟩
  · intro each member
    rcases List.mem_cons.mp member with rfl | beside
    · exact knows.grows grows
    · exact (sound.knows each (List.mem_cons_of_mem _ beside)).grows grows

theorem Sound.starts (sound : Sound board (.due nowMs (record :: rest) :: others))
    {workflow : String} {input : Payload} {opts : StartOptions}
    (fires : Fires nowMs record window) : let op : ScheduleOp :=
      ⟨.fire record window, .start workflow input (windowRunId record.id window) opts⟩
    Sound (board.exec op).1
      (SchedulePhase.advance (.due nowMs (record :: rest)) op (board.exec op).2 :: others) := by
  intro op
  have knows := sound.knows _ List.mem_cons_self
  have noted := sound.noteStart (knows.2 record List.mem_cons_self) fires
  have knows' := noted.knows _ List.mem_cons_self
  have debtless : ∀ id window', ¬ (SchedulePhase.due nowMs (record :: rest)).owes id window' :=
    fun _ _ owes => owes
  have launchedKnows : Knows (board.noteStart (.fire record window))
      (.launched nowMs record window rest) := ⟨knows'.1, fires, knows'.2⟩
  have refusedKnows : Knows (board.noteStart (.fire record window))
      (.refused nowMs record window rest) := ⟨knows'.1, fires, knows'.2⟩
  simp only [op, ScheduleBoard.exec, ScheduleBoard.start]
  split
  · exact noted.turn launchedKnows fun _ _ _ owes => owes.elim
  · rename_i free _
    exact noted.createRun free ⟨rfl, rfl⟩ launchedKnows debtless
  · exact noted.turn refusedKnows fun _ _ _ owes => owes.elim
  · rename_i free _
    exact noted.createRun free ⟨rfl, rfl⟩ refusedKnows debtless

theorem Sound.looksUp (sound : Sound board (.refused nowMs record window rest :: others)) :
    let op : ScheduleOp := ⟨.plain, .getRun (windowRunId record.id window)⟩
    Sound (board.exec op).1
      (SchedulePhase.advance (.refused nowMs record window rest) op (board.exec op).2 ::
        others) := by
  intro op
  obtain ⟨past, fires, listed⟩ := sound.knows _ List.mem_cons_self
  simp only [op, ScheduleBoard.exec]
  cases found : board.runs.get (windowRunId record.id window) with
  | some run => exact sound.turn ⟨past, fires, listed⟩ fun _ _ _ owes => .inl owes
  | none =>
    refine sound.turn ⟨past, listed⟩ ?_
    rintro id window' launched ⟨rfl, rfl⟩
    have exists' := sound.created _ _ launched
    simp [found] at exists'

theorem Sound.known_now (sound : Sound board (phase :: others))
    (known : Known board id existing earlier) (same : board.fires id = existing.elim 0 (·.fires)) :
    earlier = board.counted id := by
  have read : earlier.length = existing.elim 0 (·.fires) := by
    have agrees := known.2
    cases existing with
    | none => simp [agrees]
    | some record => exact agrees.2.fires.symm
  have current : (board.counted id).length = board.fires id := by
    unfold ScheduleBoard.fires
    cases found : board.schedules.get id with
    | none => simp [sound.absent id found]
    | some row => exact (sound.rows id row found).2.1.fires.symm
  exact counted_eq known.1 (by omega)

theorem Sound.saves (sound : Sound board (.readAt id existing nowMs :: others))
    (same : record.id = id) (continues : Continues record.state (existing.elim 0 (·.fires))
      (existing.bind (·.state.lastRunId))) (later : DueAfter nowMs record.nextFireAt record.state)
    (admitted : findsAsRead board (.readAt id existing nowMs) ⟨.plain, .saveSchedule record⟩ =
      true) : Sound (board.save record) (.idle :: others) := by
  subst same
  obtain ⟨earlier, known, past⟩ := sound.knows _ List.mem_cons_self
  have all := sound.known_now known (by simpa [findsAsRead] using admitted)
  have coherent : Coherent record (board.counted record.id) := by
    have agrees := known.2
    rw [← all]
    refine ⟨?_, ?_, ?_⟩
    · have carried := continues.1
      cases existing with
      | none => simpa [ScheduleRecord.fires, agrees] using carried
      | some old => exact carried.trans agrees.2.fires
    · have carried := continues.2
      cases existing with
      | none => simpa [agrees] using carried
      | some old =>
        have last := agrees.2.last
        rw [agrees.1] at last
        exact carried.trans last
    · intro dueAt due
      obtain ⟨window, planned, before, after⟩ := later dueAt due
      refine ⟨window, planned, before, fun fired member => ?_⟩
      have counted := past fired member
      omega
  have rewritten := sound.rewrite (changeAt record.id (some record.spec) board.defined) coherent
    (by simp [changeAt]) fun id different => by simp [changeAt, different]
  exact rewritten.turn trivial fun _ _ _ owes => owes.elim

theorem Sound.resumes {existing : ScheduleRecord}
    (sound : Sound board (.readAt id (some existing) nowMs :: others)) (spec : patch.spec = none)
    (moved : patch.nextFireAt = some nextFireAt) (stated : patch.state = some state)
    (continues : Continues state existing.fires existing.state.lastRunId)
    (later : DueAfter nowMs nextFireAt state)
    (admitted : findsAsRead board (.readAt id (some existing) nowMs)
      ⟨.plain, .updateSchedule id patch none⟩ = true) :
    Sound (board.update id patch none .plain).1 (.idle :: others) := by
  obtain ⟨earlier, known, past⟩ := sound.knows _ List.mem_cons_self
  rcases update_cases id patch none .plain with ⟨kept, -⟩ | ⟨row, found, -, applied⟩
  · rw [kept]
    exact sound.turn trivial fun _ _ _ owes => owes.elim
  · have all := sound.known_now known (by simpa [findsAsRead] using admitted)
    rw [applied]
    have patched := sound.patched found spec moved stated known.2.1 (all ▸ known.2.2) continues (by
      intro dueAt same
      obtain ⟨window, planned, before, after⟩ := later dueAt same
      refine ⟨window, planned, before, fun fired member => ?_⟩
      have counted := past fired (all ▸ member)
      omega)
    exact patched.turn trivial fun _ _ _ owes => owes.elim

theorem Sound.pauses {existing : ScheduleRecord}
    (sound : Sound board (.readAt id (some existing) nowMs :: others))
    (spec : patch.spec = some (existing.spec.noted note)) (kept : patch.nextFireAt = none)
    (stated : patch.state = none) (admitted : findsAsRead board (.readAt id (some existing) nowMs)
      ⟨.pause note, .updateSchedule id patch none⟩ = true) :
    Sound (board.update id patch none (.pause note)).1 (.idle :: others) := by
  rcases update_cases id patch none (.pause note) with ⟨kept', -⟩ | ⟨row, found, -, applied⟩
  · rw [kept']
    exact sound.turn trivial fun _ _ _ owes => owes.elim
  · obtain ⟨named, coherent, described⟩ := sound.rows id row found
    have asRead : row.spec.noted note = existing.spec.noted note := by
      simpa [findsAsRead, found] using admitted
    have placed : (patch.apply row).id = id := named
    have agrees : Coherent (patch.apply row) (board.counted (patch.apply row).id) := by
      rw [placed]
      refine ⟨?_, ?_, ?_⟩
      · simpa [ScheduleRecord.fires, ScheduleChange.apply, stated] using coherent.fires
      · simpa [ScheduleChange.apply, stated] using coherent.last
      · simpa [ScheduleChange.apply, stated, kept] using coherent.ahead
    have describes : changeAt id ((board.defined id).map (·.noted note)) board.defined
        (patch.apply row).id = some (patch.apply row).spec := by
      rw [placed]
      simp [changeAt, described, ScheduleChange.apply, spec, asRead]
    have rewritten := sound.rewrite
      (changeAt id ((board.defined id).map (·.noted note)) board.defined) agrees describes
      (by
        intro other different
        rw [placed] at different
        simp [changeAt, different])
    rw [placed] at rewritten
    rw [applied]
    exact rewritten.turn trivial fun _ _ _ owes => owes.elim

end Steps

theorem Sound.lists {board : ScheduleBoard} (sound : Sound board phases) {limit : Nat}
    {scope : Option String} (member : record ∈ board.listing nowMs scope limit) :
    Listed board nowMs record := by
  have sorted := List.mem_of_mem_take member
  rw [List.mem_insertionSort, List.mem_filter, Table.mem_stored] at sorted
  obtain ⟨⟨id, found⟩, due⟩ := sorted
  obtain ⟨named, coherent, -⟩ := sound.rows id record found
  subst named
  refine ⟨⟨_, List.prefix_refl _, coherent⟩, by simp [found], ?_⟩
  unfold ScheduleBoard.isDue at due
  cases next : record.nextFireAt with
  | none => simp [next] at due
  | some dueAt =>
    simp only [next, Option.any_some, Bool.and_eq_true, decide_eq_true_eq] at due
    exact ⟨dueAt, rfl, due.1.2⟩

theorem Sound.reads {board : ScheduleBoard} (sound : Sound board phases) (id : String) :
    Knows board (.read id (board.schedules.get id)) := by
  refine ⟨board.counted id, ⟨List.prefix_refl _, ?_⟩, sound.past id⟩
  cases found : board.schedules.get id with
  | none => exact sound.absent id found
  | some record =>
    obtain ⟨named, coherent, -⟩ := sound.rows id record found
    exact ⟨named, coherent⟩

/-- Every operation that finds its schedule as it was read keeps the board sound. -/
theorem Sound.step {board : ScheduleBoard} {phase : SchedulePhase} {others : List SchedulePhase}
    {op : ScheduleOp} (sound : Sound board (phase :: others)) (allowed : Allows phase op)
    (admitted : findsAsRead board phase op = true) :
    Sound (board.exec op).1 (phase.advance op (board.exec op).2 :: others) := by
  have knows := sound.knows _ List.mem_cons_self
  cases allowed with
  | draining =>
    have stays : phase.advance ⟨.plain, .isDraining⟩ board.draining = phase := by
      cases phase with
      | due nowMs records => cases records <;> rfl
      | _ => rfl
    show Sound board (phase.advance ⟨.plain, .isDraining⟩ board.draining :: others)
    rw [stays]
    exact sound
  | @look nowMs records runId =>
    have stays : (SchedulePhase.due nowMs records).advance ⟨.plain, .getRun runId⟩
        ((board.runs.get runId).map (·.status)) = .due nowMs records := by
      cases records <;> rfl
    show Sound board ((SchedulePhase.due nowMs records).advance ⟨.plain, .getRun runId⟩
      ((board.runs.get runId).map (·.status)) :: others)
    rw [stays]
    exact sound
  | clock polls =>
    have timed : phase.advance ⟨.plain, .now⟩ board.clockMs = .timed board.clockMs := by
      cases phase with
      | idle | timed _ | due _ _ => rfl
      | refused _ _ _ _ | launched _ _ _ _ | read _ _ | readAt _ _ _ => exact polls.elim
    show Sound board (phase.advance ⟨.plain, .now⟩ board.clockMs :: others)
    rw [timed]
    refine sound.turn (Nat.le_refl _) fun id window _ owes => ?_
    exact absurd owes (rests_of_polls polls (.ticked []) id window)
  | clockRead => exact sound.turn knows fun _ _ _ owes => owes.elim
  | clockAgain => exact sound
  | list | listAgain =>
    refine sound.turn ⟨?_, fun record member => sound.lists member⟩ fun _ _ _ owes => owes.elim
    first
      | exact knows
      | exact knows.1
  | get => exact sound.turn (sound.reads _) fun _ _ _ owes => owes.elim
  | start fires => exact sound.starts fires
  | lookUp => exact sound.looksUp
  | move advances => exact sound.moves advances admitted
  | count advances => exact sound.counts advances admitted
  | save same continues later => exact sound.saves same continues later admitted
  | resume spec moved stated continues later =>
    exact sound.resumes spec moved stated continues later admitted
  | pause spec kept stated => exact sound.pauses spec kept stated admitted

/-- What happens around the calls keeps the board sound. -/
theorem Sound.drift {board : ScheduleBoard} (sound : Sound board phases)
    (around : ScheduleBoard.Around) : Sound (board.drift around) phases := by
  have same : ∀ after : ScheduleBoard, after.counted = board.counted →
      after.schedules = board.schedules → board.clockMs ≤ after.clockMs → Grows board after := by
    intro after counted schedules clock
    refine ⟨fun id => ?_, clock, fun id present => ?_⟩
    · rw [counted]
    · rw [schedules]
      exact present
  -- A run that exists stays; every other part of the invariant is about what does not change.
  have written : ∀ (runId : String) (run : StartedRun),
      Sound { board with runs := board.runs.set runId run } phases := by
    intro runId run
    refine { sound with created := ?_, knows := ?_ }
    · intro id window launched
      have exists' := sound.created id window launched
      simp only [Table.get_set]
      split <;> simp [exists']
    · intro phase member
      exact (sound.knows phase member).grows (same _ rfl rfl (Nat.le_refl _))
  cases around with
  | elapse passed =>
    have later : board.clockMs ≤ board.clockMs + passed := Nat.le_add_right _ _
    refine { sound with past := ?_, knows := ?_ }
    · intro id window member
      exact Nat.le_trans (sound.past id window member) later
    · intro phase member
      exact (sound.knows phase member).grows
        (same { board with clockMs := board.clockMs + passed } rfl rfl later)
  | drain draining =>
    exact { sound with knows := fun phase member =>
      (sound.knows phase member).grows (same _ rfl rfl (Nat.le_refl _)) }
  | fail outage =>
    exact { sound with knows := fun phase member =>
      (sound.knows phase member).grows (same _ rfl rfl (Nat.le_refl _)) }
  | progress runId status =>
    unfold ScheduleBoard.drift
    dsimp only
    split
    · exact sound
    · exact written _ _
  | create runId run =>
    unfold ScheduleBoard.drift
    dsimp only
    split
    · exact written _ _
    · exact sound

theorem sound_atStart {runs : Table String StartedRun} {clockMs : Nat}
    (idle : ∀ phase ∈ phases, phase = .idle) : Sound { runs, clockMs } phases where
  past := by simp
  increasing := by simp
  rows := by simp
  absent := by simp
  once := List.nodup_nil
  created := by simp
  covered := by simp
  fresh := by simp
  knows := by
    intro phase member
    rw [idle phase member]
    trivial

/-- Where every write finds its schedule as it was read, the schedules keep their bookkeeping. -/
theorem bookkeeping_kept {parser : CronParser} (lawful : parser.Lawful)
    {runs : Table String StartedRun} {clockMs : Nat} {pollers : List ScheduleClient}
    (same : ∀ poller ∈ pollers, poller.parser = parser)
    {calls : List (ScheduleProgram ScheduleEnd)} (paths : ∀ call ∈ calls, Path parser call)
    {final : Config ScheduleBoard Proc}
    (reached : system.Reaches (clear.permits monitor) (atStart runs clockMs pollers calls) final) :
    Keeps final := by
  have starting : ∀ process ∈ (atStart runs clockMs pollers calls).pool,
      process.phase = .idle ∧ process.Follows monitor Rests := by
    intro process member
    rcases List.mem_append.mp member with polling | calling
    · obtain ⟨poller, listed, rfl⟩ := List.mem_map.mp polling
      have own : poller.parser.Lawful := by
        rw [same poller listed]
        exact lawful
      exact ⟨rfl, poller_follows own⟩
    · obtain ⟨call, listed, rfl⟩ := List.mem_map.mp calling
      exact ⟨rfl, Process.follows_once ((paths call listed).meets lawful)⟩
  obtain ⟨sound, follow⟩ := processes_invariant Rests Sound
    (fun board before after perm sound =>
      { sound with
        covered := fun id window launched => (sound.covered id window launched).imp_right
          fun ⟨phase, member, owes⟩ => ⟨phase, perm.mem_iff.mp member, owes⟩
        knows := fun phase member => sound.knows phase (perm.mem_iff.mpr member) })
    (fun board phase others op sound allowed admitted => ⟨trivial, sound.step allowed admitted⟩)
    (fun board process others left sound follows crashed => by cases crashed)
    (fun board every around sound => sound.drift around)
    (fun process member => (starting process member).2)
    (sound_atStart (by
      intro phase member
      obtain ⟨process, held, rfl⟩ := List.mem_map.mp member
      exact (starting process held).1))
    reached
  refine ⟨sound.once, fun start member => (sound.fresh start member).2, sound.increasing, ?_, ?_,
    fun id record found => (sound.rows id record found).2.2⟩
  · intro id window launched
    rcases sound.covered id window launched with counted | ⟨phase, member, owes⟩
    · exact .inl counted
    · obtain ⟨process, held, rfl⟩ := List.mem_map.mp member
      refine .inr ⟨process, held, ?_, owes⟩
      -- A process at rest owes nothing.
      cases resting : process.rests with
      | false => rfl
      | true =>
        obtain ⟨result, rests⟩ := (follow process held).ended resting
        exact absurd owes (rests id window)
  · intro id record found
    obtain ⟨named, coherent, -⟩ := sound.rows id record found
    refine ⟨coherent.fires, ?_⟩
    have last := coherent.last
    rw [named] at last
    exact last

section Examples

def minuteParser : CronParser where
  prev _ at' _ := if at' = 0 then .error "no fire before" else .ok ((at' - 1) / 60000 * 60000)
  next _ at' _ := .ok ((at' / 60000 + 1) * 60000)

theorem minuteParser_lawful : minuteParser.Lawful := by
  intro expr timezone
  refine ⟨(60000 ∣ ·), ?_, ?_⟩
  · intro at' found answered
    simp only [minuteParser] at answered
    split at answered
    · cases answered
    · cases answered
      exact ⟨by omega, by omega, fun fire minute before => by omega⟩
  · intro at' found answered
    cases answered
    exact ⟨by omega, by omega, fun fire minute after => by omega⟩

/-- The client of the engine. -/
def digestClient : ScheduleClient where
  parser := minuteParser

/-- A schedule that fires every minute. -/
def digest : ScheduleOptions where
  id := "digest"
  workflow := "send"
  cron := some "* * * * *"

/-- The same schedule, defined to fire every hour. -/
def hourly : ScheduleOptions := { digest with cron := none, every := some 3600000 }

/-- A poller, and calls beside it. -/
def beside (calls : List (ScheduleProgram ScheduleEnd)) : Config ScheduleBoard Proc :=
  atStart .empty 0 [digestClient] calls

/-- A process performs so many operations. -/
def steps (index times : Nat) : List (Move ScheduleBoard.Around) :=
  List.replicate times (.step index)

/-- A schedule is created, paused and resumed; then its first window fires. -/
def firing : List (Move ScheduleBoard.Around) :=
  steps 1 3 ++ steps 2 4 ++ steps 3 5 ++ [.drift (.elapse 60000)] ++ steps 0 6

def firingCalls : List (ScheduleProgram ScheduleEnd) :=
  [digestClient.upsert digest, pause "digest" (some "quiet"), digestClient.resume "digest"]

theorem firing_runs : (system.run (beside firingCalls) firing).isSome = true := by
  decide +kernel

/-- A schedule that is created, paused, resumed, and fired keeps its bookkeeping. -/
theorem bookkeeping_kept_firing :
    Keeps ((system.run (beside firingCalls) firing).get firing_runs) := by
  refine bookkeeping_kept minuteParser_lawful ?_ ?_ (clear.reaches_get firing firing_runs ?_)
  · intro poller listed
    rw [List.mem_singleton.mp listed]
    rfl
  · intro call listed
    simp only [firingCalls, List.mem_cons, List.not_mem_nil, or_false] at listed
    have same : digestClient.parser = minuteParser := rfl
    rcases listed with rfl | rfl | rfl
    · exact .upsert same digest
    · exact .pause _ _
    · exact .resume same _
  · decide +kernel

/-- The bookkeeping of the example, as far as it can be computed. -/
def agrees (config : Config ScheduleBoard Proc) : Bool :=
  let board := config.shared
  let counted := board.counted "digest"
  (board.launches.all fun launch =>
      decide (launch.2 ∈ board.counted launch.1) || config.pool.any (!·.rests)) &&
    (board.schedules.get "digest").all fun record =>
      record.fires == counted.length && decide (board.defined "digest" = some record.spec)

theorem Keeps.agrees {config : Config ScheduleBoard Proc} (keeps : Keeps config) :
    agrees config = true := by
  unfold ScheduleClient.agrees
  simp only [Bool.and_eq_true, List.all_eq_true, Option.all_eq_true]
  refine ⟨?_, ?_⟩
  · intro launch member
    rcases keeps.covered launch.1 launch.2 member with counted | ⟨process, held, busy, -⟩
    · simp [counted]
    · simp only [Bool.or_eq_true, List.any_eq_true]
      exact .inr ⟨process, held, by simp [busy]⟩
  · intro record found
    have counts := (keeps.counts "digest" record found).1
    have defined := keeps.defined "digest" record found
    simp [counts, defined]

/-- A pause that has read the schedule writes back the definition that an upsert replaced. -/
def stalePause : List (Move ScheduleBoard.Around) :=
  steps 1 3 ++ steps 2 1 ++ steps 3 3 ++ steps 2 3

def stalePauseCalls : List (ScheduleProgram ScheduleEnd) :=
  [digestClient.upsert digest, pause "digest" none, digestClient.upsert hourly]

/-- An upsert that has read the schedule writes back the state a tick has moved on since. -/
def staleUpsert : List (Move ScheduleBoard.Around) :=
  steps 1 3 ++ [.drift (.elapse 60000)] ++ steps 2 1 ++ steps 0 6 ++ steps 2 2

/-- A tick has started the window when an upsert moves the schedule on. -/
def lostWindow : List (Move ScheduleBoard.Around) :=
  steps 1 3 ++ [.drift (.elapse 60000)] ++ steps 0 5 ++ steps 2 3 ++ steps 0 1

def upsertCalls : List (ScheduleProgram ScheduleEnd) :=
  [digestClient.upsert digest, digestClient.upsert hourly]

theorem stalePause_runs : (system.run (beside stalePauseCalls) stalePause).isSome = true := by
  decide +kernel

theorem staleUpsert_runs : (system.run (beside upsertCalls) staleUpsert).isSome = true := by
  decide +kernel

theorem lostWindow_runs : (system.run (beside upsertCalls) lostWindow).isSome = true := by
  decide +kernel

theorem not_keeps {calls : List (ScheduleProgram ScheduleEnd)}
    {moves : List (Move ScheduleBoard.Around)}
    (ran : (system.run (beside calls) moves).isSome = true)
    (disagrees : agrees ((system.run (beside calls) moves).get ran) = false) :
    ¬∀ final, system.Reaches System.anyMove (beside calls) final → Keeps final := by
  intro every
  have kept := (every _ (system.reaches_get moves ran)).agrees
  rw [disagrees] at kept
  cases kept

/-- A stale pause, a stale upsert, and an upsert amid a tick each break the bookkeeping. -/
theorem stale_writes_break_bookkeeping :
    (¬∀ final, system.Reaches System.anyMove (beside stalePauseCalls) final → Keeps final) ∧
      ¬∀ final, system.Reaches System.anyMove (beside upsertCalls) final → Keeps final := by
  refine ⟨?_, ?_⟩
  · exact not_keeps stalePause_runs (by decide +kernel)
  · exact not_keeps staleUpsert_runs (by decide +kernel)

/-- An upsert amid a tick leaves the window that the tick has started uncounted. -/
example : agrees ((system.run (beside upsertCalls) lostWindow).get lostWindow_runs) = false := by
  decide +kernel

end Examples

end ScheduleClient

end Durable
