import Durable.Schedules.Polling
import Durable.Proofs.Schedules.Bookkeeping

/-! A schedule whose ticks come in time fires every window once, in order, and none early. -/

namespace Durable

open Interleaving

section Windows

variable {parser : CronParser} {spec : SpecDoc} {windows : Nat → Prop}

theorem SpecDoc.Windows.latest (of : spec.Windows parser windows) {time : Nat}
    (present : ∃ window, windows window ∧ window ≤ time) :
    ∃ latest, latestWindowAtOrBefore parser spec time = .ok latest ∧ windows latest ∧
      latest ≤ time ∧ ∀ window, windows window → window ≤ time → window ≤ latest := by
  unfold SpecDoc.Windows at of
  unfold latestWindowAtOrBefore
  cases shape : spec.cadence with
  | cron expr =>
    rw [shape] at of
    obtain ⟨earlier, isWindow, before⟩ := present
    -- The library is asked for the last fire before the next millisecond.
    obtain ⟨found, answered, fires, within, last⟩ :=
      of.prev (time + 1) ⟨earlier, isWindow, Nat.lt_succ_of_le before⟩
    refine ⟨found, answered, fires, Nat.le_of_lt_succ within, ?_⟩
    intro window alsoFires alsoBefore
    exact last window alsoFires (Nat.lt_succ_of_le alsoBefore)
  | every everyMs =>
    rw [shape] at of
    refine ⟨_, rfl, (of _).mpr (Nat.dvd_mul_left _ _), Nat.div_mul_le_self _ _, ?_⟩
    intro window isWindow before
    obtain ⟨count, rfl⟩ := (of window).mp isWindow
    rw [Nat.mul_comm]
    apply Nat.mul_le_mul_right
    rw [Nat.le_div_iff_mul_le everyMs.property, Nat.mul_comm]
    exact before

theorem SpecDoc.Windows.next (of : spec.Windows parser windows) (time : Nat) :
    ∃ next, nextWindowAfter parser spec time = .ok (some next) ∧ Follows windows time next := by
  unfold SpecDoc.Windows at of
  unfold nextWindowAfter
  cases shape : spec.cadence with
  | cron expr =>
    rw [shape] at of
    obtain ⟨found, answered, fires, after, first⟩ := of.next time
    refine ⟨found, ?_, fires, after, first⟩
    unfold nextCronFireMs
    dsimp only
    rw [answered]
    rfl
  | every everyMs =>
    rw [shape] at of
    refine ⟨_, rfl, (of _).mpr (Nat.dvd_mul_left _ _), ?_, ?_⟩
    · rw [Nat.mul_comm]
      exact Nat.lt_mul_div_succ time everyMs.property
    · intro window isWindow after
      obtain ⟨count, rfl⟩ := (of window).mp isWindow
      rw [Nat.mul_comm]
      apply Nat.mul_le_mul_left
      rw [Nat.succ_le_iff, Nat.div_lt_iff_lt_mul everyMs.property, Nat.mul_comm]
      exact after

theorem Follows.unique {window next other : Nat} (follows : Follows windows window next)
    (also : Follows windows window other) : next = other :=
  Nat.le_antisymm (follows.2.2 other also.1 also.2.1) (also.2.2 next follows.1 follows.2.1)

end Windows

namespace ScheduleBoard

variable {board : ScheduleBoard}

theorem update_row {row : ScheduleRecord} (found : board.schedules.get row.id = some row)
    (patch : ScheduleChange) (purpose : SchedulePurpose) :
    (board.update row.id patch (some row.nextFireAt) purpose).1 =
      ({ board with schedules := board.schedules.set row.id (patch.apply row) } :
        ScheduleBoard).noteUpdate row.id purpose := by
  simp [update, found]

theorem noteUpdate_same (id : String) (purpose : SchedulePurpose) :
    (board.noteUpdate id purpose).schedules = board.schedules ∧
      (board.noteUpdate id purpose).starts = board.starts ∧
      (board.noteUpdate id purpose).draining = board.draining ∧
      (board.noteUpdate id purpose).outage = board.outage := by
  cases purpose with
  | plain => exact ⟨rfl, rfl, rfl, rfl⟩
  | fire record window => exact ⟨rfl, rfl, rfl, rfl⟩
  | pause note => exact ⟨rfl, rfl, rfl, rfl⟩

theorem start_works (works : board.outage = none) (runId : String) (run : StartedRun)
    (purpose : SchedulePurpose) :
    (board.start runId run purpose).2 = .ok () ∧
      (board.start runId run purpose).1.schedules = board.schedules ∧
      (board.start runId run purpose).1.starts = board.starts ∧
      (board.start runId run purpose).1.draining = board.draining ∧
      (board.start runId run purpose).1.outage = board.outage := by
  unfold start
  rw [works]
  cases board.runs.get runId with
  | some held => exact ⟨rfl, rfl, rfl, rfl, works⟩
  | none =>
    cases purpose with
    | plain => exact ⟨rfl, rfl, rfl, rfl, works⟩
    | fire record window => exact ⟨rfl, rfl, rfl, rfl, works⟩
    | pause note => exact ⟨rfl, rfl, rfl, rfl, works⟩

end ScheduleBoard

namespace ScheduleClient

open ScheduleBoard

variable {client : ScheduleClient} {board : ScheduleBoard} {row : ScheduleRecord} {nowMs : Nat}
  {after : ScheduleBoard} {rows : List ScheduleRecord} {scope : Option String} {limit : Nat}

/-- A row has been moved on, and nothing has happened to the others. -/
structure Moved (nowMs : Nat) (row : ScheduleRecord) (before after : ScheduleBoard) : Prop where
  schedules : ∃ moved, after.schedules = before.schedules.set row.id moved ∧
    moved.id = row.id ∧ ∀ «namespace», isDue nowMs «namespace» moved = false
  starts : ∃ more, after.starts = before.starts ++ more ∧ ∀ start ∈ more, start.id = row.id
  draining : after.draining = before.draining
  outage : after.outage = before.outage

theorem isDue_later {next : Option Nat} (due : row.nextFireAt = next)
    (later : ∀ time, next = some time → nowMs < time) («namespace» : Option String) :
    isDue nowMs «namespace» row = false := by
  rw [isDue, due]
  cases next with
  | none => simp
  | some time =>
    have after := later time rfl
    simp [Nat.not_le_of_lt after]

/-- The row after its window was dealt with. -/
def advanced (row : ScheduleRecord) (nowMs latest : Nat) (next : Option Nat) (fired : Bool)
    (lastError : Option String) : ScheduleRecord :=
  { row with
    nextFireAt := next.map row.fireTime
    state := nextState row latest next fired lastError
    updatedAt := nowMs }

theorem advance_moves (found : board.schedules.get row.id = some row) (nowMs latest : Nat)
    (next : Option Nat) (fired : Bool) (lastError : Option String) :
    let after := ((advance row nowMs latest next fired lastError).alone exec board).1
    after.schedules = board.schedules.set row.id (advanced row nowMs latest next fired lastError) ∧
      after.starts = board.starts ∧ after.draining = board.draining ∧
      after.outage = board.outage := by
  intro after
  have same : after = (board.update row.id
      { nextFireAt := some (next.map row.fireTime)
        state := some (nextState row latest next fired lastError)
        updatedAt := nowMs } (some row.nextFireAt)
      (if fired then .fire row latest else .plain)).1 := rfl
  rw [same, update_row found]
  exact noteUpdate_same _ _

theorem launch_moves (found : board.schedules.get row.id = some row) (works : board.outage = none)
    (nowMs latest : Nat) (next : Option Nat) :
    let after := ((launch row nowMs latest next).alone exec board).1
    after.schedules = board.schedules.set row.id (advanced row nowMs latest next true none) ∧
      after.starts = board.starts ++ [{ id := row.id, window := latest, fires := row.fires }] ∧
      after.draining = board.draining ∧ after.outage = board.outage := by
  intro after
  have noted : (board.noteStart (.fire row latest)).outage = none := works
  obtain ⟨answered, schedules, starts, draining, outage⟩ := start_works noted
    (windowRunId row.id latest)
    { workflow := row.workflow, input := row.spec.input, opts := startOptions row }
    (.fire row latest)
  -- The start is answered, so the row is advanced on the board that it leaves.
  have same : after = ((advance row nowMs latest next true none).alone exec
      ((board.noteStart (.fire row latest)).start (windowRunId row.id latest)
        { workflow := row.workflow, input := row.spec.input, opts := startOptions row }
        (.fire row latest)).1).1 := by
    have known : exec board ⟨.fire row latest, .start row.workflow row.spec.input
        (windowRunId row.id latest) (startOptions row)⟩ = (_, .ok ()) := Prod.ext rfl answered
    exact congrArg Prod.fst (Program.alone_step known _)
  have stillFound : ((board.noteStart (.fire row latest)).start (windowRunId row.id latest)
      { workflow := row.workflow, input := row.spec.input, opts := startOptions row }
      (.fire row latest)).1.schedules.get row.id = some row := by
    rw [schedules]
    exact found
  have moved := advance_moves stillFound nowMs latest next true none
  rw [same]
  dsimp only at moved
  rw [moved.1, moved.2.1, moved.2.2.1, moved.2.2.2, schedules, starts, draining, outage]
  exact ⟨rfl, rfl, rfl, rfl⟩

theorem overlapping_alone (spec : SpecDoc) (state : StateDoc) :
    ((overlapping spec state).alone exec board).1 = board := by
  unfold overlapping
  split
  · rename_i lastRunId _ _
    have known : exec board ⟨.plain, .getRun lastRunId⟩ =
        (board, (board.runs.get lastRunId).map (·.status)) := rfl
    apply (congrArg Prod.fst (Program.alone_step known _)).trans
    cases board.runs.get lastRunId with
    | none => rfl
    | some run => rfl
  · rfl

theorem Moved.of_advanced {latest : Nat} {next : Option Nat} {fired : Bool}
    {lastError : Option String} (schedules : after.schedules =
      board.schedules.set row.id (advanced row nowMs latest next fired lastError))
    (starts : ∃ more, after.starts = board.starts ++ more ∧ ∀ start ∈ more, start.id = row.id)
    (draining : after.draining = board.draining) (outage : after.outage = board.outage)
    (later : ∀ window, next = some window → nowMs < window) : Moved nowMs row board after where
  schedules := by
    refine ⟨_, schedules, rfl, isDue_later rfl ?_⟩
    intro time found
    obtain ⟨window, same, rfl⟩ := Option.map_eq_some_iff.mp found
    have after := later window same
    unfold ScheduleRecord.fireTime
    omega
  starts := starts
  draining := draining
  outage := outage

/-- Firing a row moves it on. -/
theorem fire_moves (lawful : client.parser.Lawful) (nowMs : Nat)
    (found : board.schedules.get row.id = some row) (works : board.outage = none) :
    Moved nowMs row board ((client.fire row nowMs).alone exec board).1 := by
  -- A definition that does not evaluate is stopped.
  have stops : ∀ message, Moved nowMs row board ((stop row nowMs message).alone exec board).1 := by
    intro message
    have same : ((stop row nowMs message).alone exec board).1 = (board.update row.id
        { paused := some true
          nextFireAt := some none
          state := some { row.state with lastError := some s!"invalid schedule: {message}" }
          updatedAt := nowMs } (some row.nextFireAt) .plain).1 := rfl
    rw [same, update_row found]
    exact {
      schedules := ⟨_, rfl, rfl, fun _ => rfl⟩
      starts := ⟨[], (List.append_nil _).symm, fun _ listed => absurd listed List.not_mem_nil⟩
      draining := rfl
      outage := rfl }
  have advances : ∀ latest next, (∀ window, next = some window → nowMs < window) →
      Moved nowMs row board ((advance row nowMs latest next false none).alone exec board).1 := by
    intro latest next later
    obtain ⟨schedules, starts, draining, outage⟩ :=
      advance_moves found nowMs latest next false none
    exact .of_advanced schedules ⟨[], by rw [starts, List.append_nil],
      fun _ listed => absurd listed List.not_mem_nil⟩ draining outage later
  unfold fire
  cases last : latestWindowAtOrBefore client.parser row.spec nowMs with
  | error message => exact stops message
  | ok latest =>
    dsimp only
    cases following : nextWindowAfter client.parser row.spec latest with
    | error message => exact stops message
    | ok next =>
      dsimp only
      have later : ∀ window, next = some window → nowMs < window := by
        rintro window rfl
        exact nextWindowAfter_latest lawful last following
      split
      · exact advances latest next later
      · rw [Program.alone_bind, overlapping_alone]
        split
        · exact advances latest next later
        · obtain ⟨schedules, starts, draining, outage⟩ :=
            launch_moves found works nowMs latest next
          exact .of_advanced schedules ⟨_, starts, fun start listed => by
            rw [List.mem_singleton.mp listed]⟩ draining outage later

theorem fire_due (found : board.schedules.get row.id = some row) (works : board.outage = none)
    {latest next : Nat} (last : latestWindowAtOrBefore client.parser row.spec nowMs = .ok latest)
    (following : nextWindowAfter client.parser row.spec latest = .ok (some next))
    (due : notDue row nowMs latest = false) (allow : row.spec.overlap = .allow) :
    let after := ((client.fire row nowMs).alone exec board).1
    after.schedules.get row.id = some (advanced row nowMs latest (some next) true none) ∧
      after.starts = board.starts ++
        [{ id := row.id, window := latest, fires := row.fires }] := by
  intro after
  have same : after = ((launch row nowMs latest (some next)).alone exec board).1 := by
    change (Program.alone exec (client.fire row nowMs) board).1 = _
    unfold fire
    rw [last]
    dsimp only
    rw [following]
    dsimp only
    rw [due, if_neg Bool.false_ne_true]
    unfold overlapping
    rw [allow]
    rfl
  obtain ⟨schedules, starts, -, -⟩ := launch_moves found works nowMs latest (some next)
  rw [same, schedules, starts]
  exact ⟨Interleaving.Table.get_set_self _ _ _, rfl⟩

theorem Moved.others (moved : Moved nowMs row board after) {id : String} (other : id ≠ row.id) :
    after.schedules.get id = board.schedules.get id ∧
      after.started id = board.started id := by
  obtain ⟨next, schedules, -⟩ := moved.schedules
  obtain ⟨more, starts, own⟩ := moved.starts
  constructor
  · rw [schedules, Table.get_set_ne _ _ (Ne.symm other)]
  · have none : more.filter (fun start => start.id = id) = [] := by
      rw [List.filter_eq_nil_iff]
      intro start listed same
      exact other ((of_decide_eq_true same).symm.trans (own start listed))
    rw [started, started, starts, List.filter_append, none, List.append_nil]

theorem Moved.keys (moved : Moved nowMs row board after)
    (found : board.schedules.get row.id = some row) :
    after.schedules.keys = board.schedules.keys := by
  obtain ⟨next, schedules, -⟩ := moved.schedules
  rw [schedules]
  exact Table.keys_set_known _ _ (by rw [found]; rfl)

/-- Rows have been fired one after the other, each as it was listed. -/
structure Swept (client : ScheduleClient) (nowMs : Nat) (rows : List ScheduleRecord)
    (before after : ScheduleBoard) : Prop where
  draining : after.draining = false
  outage : after.outage = none
  keys : after.schedules.keys = before.schedules.keys
  others : ∀ id, id ∉ rows.map (·.id) → after.schedules.get id = before.schedules.get id ∧
    after.started id = before.started id
  fired : ∀ row ∈ rows, ∃ between : ScheduleBoard, between.schedules.get row.id = some row ∧
    between.outage = none ∧ between.started row.id = before.started row.id ∧
    after.schedules.get row.id =
      ((client.fire row nowMs).alone exec between).1.schedules.get row.id ∧
    after.started row.id = ((client.fire row nowMs).alone exec between).1.started row.id

/-- Where the engine is not shutting down, listed rows are fired one after the other. -/
theorem fireEach_sweeps (lawful : client.parser.Lawful) (nowMs : Nat)
    (found : ∀ row ∈ rows, board.schedules.get row.id = some row)
    (distinct : (rows.map (·.id)).Nodup) (runs : board.draining = false)
    (works : board.outage = none) (started : List String) :
    ∃ result, ((client.fireEach nowMs rows started).alone exec board).2 = (result, false) ∧
      Swept client nowMs rows board ((client.fireEach nowMs rows started).alone exec board).1 := by
  -- The first row is fired on this board, and leaves the others as they were listed.
  induction rows generalizing board started with
  | nil =>
    refine ⟨started, rfl, runs, works, rfl, ?_, ?_⟩
    · intro id _
      exact ⟨rfl, rfl⟩
    · intro row listed
      cases listed
  | cons first rest ih =>
    have here := found first (List.mem_cons_self ..)
    have moved := fire_moves lawful nowMs here works
    obtain ⟨apart, distinctRest⟩ := List.nodup_cons.mp distinct
    have firedFirst : (client.fireEach nowMs (first :: rest) started).alone exec board =
        (client.fireEach nowMs rest
          (started ++ ((client.fire first nowMs).alone exec board).2.toList)).alone exec
            ((client.fire first nowMs).alone exec board).1 := by
      have known : exec board ⟨.plain, .isDraining⟩ = (board, false) := by
        rw [← runs]
        rfl
      apply (Program.alone_step known _).trans
      exact Program.alone_bind _ _ _ _
    have stillFound : ∀ row ∈ rest,
        ((client.fire first nowMs).alone exec board).1.schedules.get row.id = some row := by
      intro row listed
      have other : row.id ≠ first.id := by
        intro same
        exact apart (List.mem_map.mpr ⟨row, listed, same⟩)
      rw [(moved.others other).1]
      exact found row (List.mem_cons_of_mem _ listed)
    obtain ⟨result, ended, swept⟩ := ih stillFound distinctRest
      (moved.draining.trans runs) (moved.outage.trans works)
      (started ++ ((client.fire first nowMs).alone exec board).2.toList)
    rw [firedFirst]
    refine ⟨result, ended, swept.draining, swept.outage, swept.keys.trans (moved.keys here), ?_, ?_⟩
    · intro id absent
      rw [List.map_cons, List.mem_cons, not_or] at absent
      obtain ⟨schedules, starts⟩ := swept.others id absent.2
      obtain ⟨alsoSchedules, alsoStarts⟩ := moved.others absent.1
      exact ⟨schedules.trans alsoSchedules, starts.trans alsoStarts⟩
    · intro row listed
      rcases List.mem_cons.mp listed with rfl | later
      · obtain ⟨schedules, starts⟩ := swept.others row.id apart
        exact ⟨board, here, works, rfl, schedules, starts⟩
      · obtain ⟨between, kept, outage, before, schedules, starts⟩ := swept.fired row later
        have other : row.id ≠ first.id := by
          intro same
          exact apart (List.mem_map.mpr ⟨row, later, same⟩)
        exact ⟨between, kept, outage, before.trans (moved.others other).2, schedules, starts⟩

/-- Every schedule is kept under its own id. -/
def Keyed (board : ScheduleBoard) : Prop :=
  ∀ id row, board.schedules.get id = some row → row.id = id

theorem ids_stored (keyed : Keyed board) :
    board.schedules.stored.map (·.id) = board.schedules.keys := by
  rw [Table.stored, List.map_filterMap]
  have known : ∀ key ∈ board.schedules.keys,
      (board.schedules.get key).map (·.id) = some key := by
    intro key listed
    obtain ⟨row, found⟩ := Option.isSome_iff_exists.mp ((Table.mem_keys _ _).mp listed)
    rw [found, Option.map_some, keyed key row found]
  rw [List.filterMap_congr known, List.filterMap_some]

theorem mem_listing (keyed : Keyed board) (listed : row ∈ board.listing nowMs scope limit) :
    board.schedules.get row.id = some row ∧ isDue nowMs scope row = true := by
  have among := List.mem_of_mem_take listed
  rw [List.mem_insertionSort, List.mem_filter, Table.mem_stored] at among
  obtain ⟨⟨id, found⟩, due⟩ := among
  rw [keyed id row found]
  exact ⟨found, due⟩

theorem listing_full (found : board.schedules.get row.id = some row)
    (due : isDue nowMs scope row = true) (absent : row ∉ board.listing nowMs scope limit) :
    (board.listing nowMs scope limit).length = limit := by
  unfold listing at absent ⊢
  by_contra short
  rw [List.length_take] at short
  apply absent
  rw [List.take_of_length_le (by omega), List.mem_insertionSort, List.mem_filter,
    Table.mem_stored]
  exact ⟨⟨row.id, found⟩, due⟩

theorem nodup_listing (keyed : Keyed board) :
    ((board.listing nowMs scope limit).map (·.id)).Nodup := by
  have distinct : ((board.schedules.stored.filter (isDue nowMs scope)).map (·.id)).Nodup := by
    have keys := Table.keys_nodup board.schedules
    rw [← ids_stored keyed] at keys
    exact keys.sublist (List.filter_sublist.map _)
  apply List.Nodup.sublist ((List.take_sublist _ _).map _)
  rw [((List.perm_insertionSort _ _).map _).nodup_iff]
  exact distinct

theorem dueCount_eq (board : ScheduleBoard) (nowMs : Nat) (scope : Option String) :
    board.dueCount nowMs scope = (board.schedules.keys.filter fun key =>
      (board.schedules.get key).any (isDue nowMs scope)).length := by
  rw [dueCount, Table.stored]
  induction board.schedules.keys with
  | nil => rfl
  | cons key rest ih =>
    cases found : board.schedules.get key with
    | none => simp [found, ih]
    | some row => by_cases due : isDue nowMs scope row <;> simp [found, due, ih]

theorem length_filter_notMem {all chosen : List String} (distinct : all.Nodup)
    (once : chosen.Nodup) (within : ∀ id ∈ chosen, id ∈ all) :
    (all.filter (· ∉ chosen)).length + chosen.length = all.length := by
  have same : (all.filter (· ∈ chosen)).Perm chosen := by
    rw [List.perm_ext_iff_of_nodup (distinct.filter _) once]
    intro id
    rw [List.mem_filter, decide_eq_true_iff]
    constructor
    · exact And.right
    · intro listed
      exact ⟨within id listed, listed⟩
  rw [← same.length_eq, Nat.add_comm, all.length_eq_length_filter_add (· ∈ chosen)]
  simp

theorem Swept.notDue (lawful : client.parser.Lawful) (swept : Swept client nowMs rows board after)
    (listed : row ∈ rows) : ∃ moved, after.schedules.get row.id = some moved ∧ moved.id = row.id ∧
      ∀ scope, isDue nowMs scope moved = false := by
  obtain ⟨between, found, works, -, schedules, -⟩ := swept.fired row listed
  obtain ⟨moved, same, own, due⟩ := (fire_moves lawful nowMs found works).schedules
  refine ⟨moved, ?_, own, due⟩
  rw [schedules, same, Table.get_set_self]

theorem Swept.dueCount (lawful : client.parser.Lawful)
    (swept : Swept client nowMs rows board after)
    (found : ∀ row ∈ rows, board.schedules.get row.id = some row ∧ isDue nowMs scope row = true)
    (distinct : (rows.map (·.id)).Nodup) :
    after.dueCount nowMs scope + rows.length = board.dueCount nowMs scope := by
  rw [dueCount_eq, dueCount_eq, swept.keys]
  have left : (board.schedules.keys.filter fun key =>
        (after.schedules.get key).any (isDue nowMs scope)) =
      (board.schedules.keys.filter fun key =>
        (board.schedules.get key).any (isDue nowMs scope)).filter (· ∉ rows.map (·.id)) := by
    rw [List.filter_filter]
    apply List.filter_congr
    intro key _
    by_cases listed : key ∈ rows.map (·.id)
    · -- A row that was fired is not due.
      obtain ⟨row, among, rfl⟩ := List.mem_map.mp listed
      obtain ⟨moved, kept, -, due⟩ := swept.notDue lawful among
      rw [kept, Option.any_some, due scope]
      simp [listed]
    · rw [(swept.others key listed).1]
      simp [listed]
  have count : (rows.map (·.id)).length = rows.length := List.length_map ..
  rw [left, ← count]
  apply length_filter_notMem ((Table.keys_nodup _).filter _) distinct
  intro id listed
  obtain ⟨row, among, rfl⟩ := List.mem_map.mp listed
  obtain ⟨kept, due⟩ := found row among
  rw [List.mem_filter, Table.mem_keys, kept]
  exact ⟨rfl, due⟩

theorem Swept.keyed (lawful : client.parser.Lawful) (swept : Swept client nowMs rows board after)
    (keyed : Keyed board) : Keyed after := by
  intro id row found
  by_cases listed : id ∈ rows.map (·.id)
  · obtain ⟨fired, among, rfl⟩ := List.mem_map.mp listed
    obtain ⟨moved, kept, own, -⟩ := swept.notDue lawful among
    obtain rfl := Option.some.inj (kept.symm.trans found)
    exact own
  · rw [(swept.others id listed).1] at found
    exact keyed id row found

theorem tickRounds_succ (lawful : client.parser.Lawful) (keyed : Keyed board)
    (runs : board.draining = false) (works : board.outage = none) (rounds : Nat)
    (started : List String) :
    ∃ after more, Swept client nowMs (board.listing nowMs client.namespace tickBatch) board after ∧
      ((client.tickRounds nowMs (rounds + 1) started).alone exec board).1 =
        if (board.listing nowMs client.namespace tickBatch).length < tickBatch then after
        else ((client.tickRounds nowMs rounds more).alone exec after).1 := by
  obtain ⟨result, ended, swept⟩ := fireEach_sweeps lawful nowMs
    (fun row listed => (mem_listing keyed listed).1) (nodup_listing keyed) runs works started
  refine ⟨_, result, swept, ?_⟩
  have answered : exec board ⟨.plain, .isDraining⟩ = (board, false) := by
    rw [← runs]
    rfl
  have listed : exec board ⟨.plain, .listSchedules nowMs client.namespace tickBatch⟩ =
      (board, board.listing nowMs client.namespace tickBatch) := rfl
  apply (congrArg Prod.fst (Program.alone_step answered _)).trans
  apply (congrArg Prod.fst (Program.alone_step listed _)).trans
  apply (congrArg Prod.fst (Program.alone_bind _ _ _ _)).trans
  rw [ended]
  dsimp only
  rw [Bool.false_or]
  by_cases short : (board.listing nowMs client.namespace tickBatch).length < tickBatch
  · rw [if_pos short, if_pos (decide_eq_true short)]
    rfl
  · rw [if_neg short, if_neg (by rw [decide_eq_true_iff]; exact short)]

theorem tickRounds_notDue (lawful : client.parser.Lawful) (keyed : Keyed board)
    (runs : board.draining = false) (works : board.outage = none)
    (found : board.schedules.get row.id = some row)
    (later : isDue nowMs client.namespace row = false) (rounds : Nat) (runIds : List String) :
    ((client.tickRounds nowMs rounds runIds).alone exec board).1.schedules.get row.id = some row ∧
      ((client.tickRounds nowMs rounds runIds).alone exec board).1.started row.id =
        board.started row.id := by
  induction rounds generalizing board runIds with
  | zero => exact ⟨found, rfl⟩
  | succ rounds ih =>
    obtain ⟨after, more, swept, same⟩ := tickRounds_succ lawful keyed runs works rounds runIds
    -- The row is not listed, so the round leaves it.
    have absent : row.id ∉ (board.listing nowMs client.namespace tickBatch).map (·.id) := by
      intro listed
      obtain ⟨other, among, own⟩ := List.mem_map.mp listed
      obtain ⟨kept, due⟩ := mem_listing keyed among
      rw [own, found] at kept
      obtain rfl := Option.some.inj kept
      rw [later] at due
      cases due
    obtain ⟨schedules, starts⟩ := swept.others row.id absent
    rw [same]
    split
    · exact ⟨schedules.trans found, starts⟩
    · rw [← starts]
      exact ih (swept.keyed lawful keyed) swept.draining swept.outage (schedules.trans found) more

/-- A row that is due is fired once by a tick's rounds, if they are enough. -/
theorem tickRounds_due (lawful : client.parser.Lawful) (keyed : Keyed board)
    (runs : board.draining = false) (works : board.outage = none)
    (found : board.schedules.get row.id = some row)
    (due : isDue nowMs client.namespace row = true) {rounds : Nat}
    (few : board.dueCount nowMs client.namespace ≤ rounds * tickBatch) (runIds : List String) :
    ∃ between : ScheduleBoard, between.schedules.get row.id = some row ∧ between.outage = none ∧
      between.started row.id = board.started row.id ∧
      ((client.tickRounds nowMs rounds runIds).alone exec board).1.schedules.get row.id =
        ((client.fire row nowMs).alone exec between).1.schedules.get row.id ∧
      ((client.tickRounds nowMs rounds runIds).alone exec board).1.started row.id =
        ((client.fire row nowMs).alone exec between).1.started row.id := by
  induction rounds generalizing board runIds with
  | zero =>
    -- The row itself is due.
    rw [Nat.zero_mul, Nat.le_zero, ScheduleBoard.dueCount, List.length_eq_zero_iff,
      List.filter_eq_nil_iff] at few
    exact absurd due (few row ((Table.mem_stored _ _).mpr ⟨row.id, found⟩))
  | succ rounds ih =>
    obtain ⟨after, more, swept, same⟩ := tickRounds_succ lawful keyed runs works rounds runIds
    by_cases listed : row ∈ board.listing nowMs client.namespace tickBatch
    · obtain ⟨between, kept, outage, before, schedules, starts⟩ := swept.fired row listed
      refine ⟨between, kept, outage, before, ?_⟩
      rw [same]
      split
      · exact ⟨schedules, starts⟩
      · -- The rounds that follow leave the row that was fired.
        obtain ⟨moved, now, own, later⟩ := swept.notDue lawful listed
        rw [← own] at now
        have left := tickRounds_notDue lawful (swept.keyed lawful keyed) swept.draining
          swept.outage now (later _) rounds more
        rw [own] at left now
        rw [left.1, left.2, ← now]
        exact ⟨schedules, starts⟩
    · have full := listing_full found due listed
      have absent : row.id ∉ (board.listing nowMs client.namespace tickBatch).map (·.id) := by
        intro among
        obtain ⟨other, here, own⟩ := List.mem_map.mp among
        have kept := (mem_listing keyed here).1
        rw [own, found] at kept
        obtain rfl := Option.some.inj kept
        exact listed here
      obtain ⟨schedules, starts⟩ := swept.others row.id absent
      have fewer := swept.dueCount lawful (fun other here => mem_listing keyed here)
        (nodup_listing keyed)
      rw [full] at fewer
      rw [Nat.succ_mul] at few
      rw [same, if_neg (by omega), ← starts]
      exact ih (swept.keyed lawful keyed) swept.draining swept.outage (schedules.trans found)
        (by omega) more

theorem tickAt_eq (client : ScheduleClient) (nowMs : Nat) (board : ScheduleBoard) :
    client.tickAt nowMs board =
      ((client.tickRounds nowMs 50 []).alone exec { board with clockMs := nowMs }).1 := by
  have known : exec { board with clockMs := nowMs } ⟨.plain, .now⟩ =
      ({ board with clockMs := nowMs }, nowMs) := rfl
  exact congrArg Prod.fst (Program.alone_step known _)

section Polling

variable {record : ScheduleRecord} {windows : Nat → Prop} {created : Nat} {ticks : Nat → Nat}
  {boards : Nat → ScheduleBoard} {started : List Nat} {n : Nat}

/-- Before a tick a schedule waits for a window, having fired those before it. -/
structure Waits (record : ScheduleRecord) (windows : Nat → Prop) (created : Nat)
    (ticks : Nat → Nat) (n : Nat) (row : ScheduleRecord) (started : List Nat) (next : Nat) :
    Prop where
  id : row.id = record.id
  spec : row.spec = record.spec
  unpaused : row.paused = false
  scope : row.namespace = record.namespace
  isWindow : windows next ∧ created < next
  dueAt : row.nextFireAt = some (record.fireTime next)
  window : row.state.window = some next
  inOrder : started.Pairwise (· < ·)
  earlier : ∀ time, time ∈ started ↔ windows time ∧ created < time ∧ time < next
  notEarly : ∀ time ∈ started, ∃ m < n, record.fireTime time ≤ ticks m
  pending : ∀ m < n, ticks m < record.fireTime next

theorem fireTime_same (id : row.id = record.id) (spec : row.spec = record.spec) (window : Nat) :
    row.fireTime window = record.fireTime window := by
  rw [ScheduleRecord.fireTime, ScheduleRecord.fireTime, id, spec]

theorem Waits.isDue {next : Nat} (waits : Waits record windows created ticks n row started next)
    (serves : client.serves record.namespace = true) (nowMs : Nat) :
    isDue nowMs client.namespace row = decide (record.fireTime next ≤ nowMs) := by
  rw [ScheduleBoard.isDue, waits.unpaused, waits.dueAt, waits.scope]
  have inScope : (client.namespace.all fun filter => record.namespace == filter ||
      (filter == "default" && record.namespace == "")) = true := serves
  rw [inScope]
  simp

theorem Waits.later {next : Nat} (waits : Waits record windows created ticks n row started next)
    (ordered : ∀ n, ticks n ≤ ticks (n + 1)) (early : ticks n < record.fireTime next) :
    Waits record windows created ticks (n + 1) row started next := by
  refine { waits with notEarly := ?_, pending := ?_ }
  · intro time listed
    obtain ⟨m, before, reached⟩ := waits.notEarly time listed
    exact ⟨m, Nat.lt_succ_of_lt before, reached⟩
  · intro m before
    have bound := monotone_nat_of_le_succ ordered (Nat.le_of_lt_succ before)
    omega

/-- A tick in time fires the window that is waited for. -/
theorem Waits.fires {next following : Nat}
    (waits : Waits record windows created ticks n row started next)
    (ordered : ∀ n, ticks n ≤ ticks (n + 1)) (follows : Follows windows next following)
    (due : record.fireTime next ≤ ticks n) (inTime : ticks n < following) :
    Waits record windows created ticks (n + 1)
      (advanced row (ticks n) next (some following) true none) (started ++ [next]) following where
  id := waits.id
  spec := waits.spec
  unpaused := waits.unpaused
  scope := waits.scope
  isWindow := ⟨follows.1, Nat.lt_trans waits.isWindow.2 follows.2.1⟩
  dueAt := congrArg some (fireTime_same waits.id waits.spec following)
  window := rfl
  inOrder := by
    rw [List.pairwise_append]
    refine ⟨waits.inOrder, List.pairwise_singleton _ _, ?_⟩
    intro time listed last same
    rw [List.mem_singleton.mp same]
    exact ((waits.earlier time).mp listed).2.2
  earlier time := by
    rw [List.mem_append, List.mem_singleton, waits.earlier]
    constructor
    · intro either
      rcases either with ⟨isWindow, after, before⟩ | rfl
      · exact ⟨isWindow, after, Nat.lt_trans before follows.2.1⟩
      · exact ⟨waits.isWindow.1, waits.isWindow.2, follows.2.1⟩
    · intro all
      obtain ⟨isWindow, after, before⟩ := all
      -- No window lies between the two.
      rcases Nat.lt_trichotomy time next with less | same | more
      · exact .inl ⟨isWindow, after, less⟩
      · exact .inr same
      · have bound := follows.2.2 time isWindow more
        omega
  notEarly time listed := by
    rcases List.mem_append.mp listed with before | same
    · obtain ⟨m, less, reached⟩ := waits.notEarly time before
      exact ⟨m, Nat.lt_succ_of_lt less, reached⟩
    · rw [List.mem_singleton.mp same]
      exact ⟨n, Nat.lt_succ_self n, due⟩
  pending m before := by
    have bound := monotone_nat_of_le_succ ordered (Nat.le_of_lt_succ before)
    unfold ScheduleRecord.fireTime
    omega

theorem Creates.waits {creator : ScheduleClient} {opts : ScheduleOptions}
    (creates : creator.Creates opts created record)
    (of : record.spec.Windows creator.parser windows) (ticks : Nat → Nat) :
    ∃ next, Waits record windows created ticks 0 record [] next := by
  obtain ⟨spec, window, -, answered, rfl, unpaused⟩ := creates
  obtain ⟨next, alsoAnswered, follows⟩ := of.next created
  obtain rfl := Except.ok.inj (answered.symm.trans alsoAnswered)
  refine ⟨next, rfl, rfl, unpaused, rfl, ⟨follows.1, follows.2.1⟩, rfl, rfl, List.Pairwise.nil,
    ?_, ?_, ?_⟩
  · intro time
    constructor
    · intro listed
      cases listed
    · intro all
      obtain ⟨isWindow, after, before⟩ := all
      have bound := follows.2.2 time isWindow after
      omega
  · intro time listed
    cases listed
  · intro m before
    cases before

/-- What a tick makes of a row that waits: it is left, or fired for its window. -/
theorem Waits.tick (lawful : client.parser.Lawful)
    (of : record.spec.Windows client.parser windows) (allow : record.spec.overlap = .allow)
    (polls : client.Polls record created ticks boards)
    (inTime : TickedInTime record windows created ticks) {next : Nat}
    (waits : Waits record windows created ticks n row started next)
    (found : (boards n).schedules.get record.id = some row)
    (known : (boards n).started record.id = started) :
    ∃ after more next, (client.tickAt (ticks n) (boards n)).schedules.get record.id = some after ∧
      (client.tickAt (ticks n) (boards n)).started record.id = started ++ more ∧
      Waits record windows created ticks (n + 1) after (started ++ more) next := by
  have keyed : Keyed { boards n with clockMs := ticks n } := polls.keyed n
  obtain ⟨runs, works⟩ := polls.works n
  have due := waits.isDue polls.serves (ticks n)
  rw [← waits.id] at found known ⊢
  rw [tickAt_eq]
  by_cases reached : record.fireTime next ≤ ticks n
  · -- The first tick from the fire time on is the one that comes in time, or one before it.
    obtain ⟨following, _, follows⟩ := of.next next
    obtain ⟨m, least, before, onTime⟩ :=
      inTime next following waits.isWindow.1 waits.isWindow.2 follows
    have first : n ≤ m := by
      by_contra earlier
      have late := waits.pending m (by omega)
      omega
    have bound := monotone_nat_of_le_succ polls.ordered first
    rw [decide_eq_true reached] at due
    obtain ⟨between, kept, outage, starts, schedules, fired⟩ :=
      tickRounds_due lawful keyed runs works found due (polls.few n) []
    -- So the latest window is the one that is waited for.
    obtain ⟨latest, last, isWindow, within, greatest⟩ :=
      of.latest ⟨next, waits.isWindow.1, Nat.le_trans (Nat.le_add_right _ _) reached⟩
    have same : latest = next := by
      have atLeast := greatest next waits.isWindow.1
        (Nat.le_trans (Nat.le_add_right _ _) reached)
      by_contra other
      have beyond := follows.2.2 latest isWindow (by omega)
      omega
    subst same
    obtain ⟨found', answered, alsoFollows⟩ := of.next latest
    obtain rfl := alsoFollows.unique follows
    have isDue : notDue row (ticks n) latest = false := by
      have late : row.spec.catchup = .skip →
          ticks n - latest ≤ onTimeGraceMs + row.spec.jitterMs.getD 0 := by
        rw [waits.spec]
        intro skips
        have grace := onTime skips
        omega
      rw [notDue, waits.window]
      by_cases skips : row.spec.catchup = .skip
      · simp [late skips]
      · simp [skips]
    obtain ⟨moved, started'⟩ := fire_due kept outage (by rw [waits.spec]; exact last)
      (by rw [waits.spec]; exact answered) isDue (by rw [waits.spec]; exact allow)
    refine ⟨_, [latest], found', schedules.trans moved, ?_,
      waits.fires polls.ordered follows reached (by omega)⟩
    rw [fired, ScheduleBoard.started, started', List.filter_append, List.map_append,
      List.filter_singleton, decide_eq_true rfl]
    exact congrArg (· ++ [latest]) (starts.trans known)
  · rw [decide_eq_false reached] at due
    obtain ⟨schedules, starts⟩ :=
      tickRounds_notDue lawful keyed runs works found due 50 []
    refine ⟨row, [], next, schedules, ?_, ?_⟩
    · rw [List.append_nil]
      exact starts.trans known
    · rw [List.append_nil]
      exact waits.later polls.ordered (by omega)

theorem polled_waits (lawful : client.parser.Lawful)
    (of : record.spec.Windows client.parser windows) (allow : record.spec.overlap = .allow)
    (polls : client.Polls record created ticks boards)
    (inTime : TickedInTime record windows created ticks) {first : Nat}
    (begins : Waits record windows created ticks 0 record [] first) (n : Nat) :
    ∃ row next, (boards n).schedules.get record.id = some row ∧
      Waits record windows created ticks n row ((boards n).started record.id) next := by
  induction n with
  | zero =>
    rw [polls.unstarted]
    exact ⟨record, first, polls.row, begins⟩
  | succ n ih =>
    obtain ⟨row, next, found, waits⟩ := ih
    obtain ⟨after, more, following, moved, started, still⟩ :=
      waits.tick lawful of allow polls inTime found rfl
    rw [polls.undone n, started]
    exact ⟨after, following, (polls.kept n).trans moved, still⟩

/-- Where ticks come in time, each between a window's fire time and the window after it, and while
the window is on time if late ones are skipped, every window after a schedule's creation is fired
once, in order, and none before its fire time. -/
theorem every_window_fired {creator : ScheduleClient} {opts : ScheduleOptions}
    (lawful : client.parser.Lawful) (library : creator.parser = client.parser)
    (creates : creator.Creates opts created record)
    (of : record.spec.Windows client.parser windows) (allow : record.spec.overlap = .allow)
    (polls : client.Polls record created ticks boards)
    (inTime : TickedInTime record windows created ticks) :
    FiresEveryWindow record windows created ticks (client.fired record ticks boards) := by
  obtain ⟨first, begins⟩ := creates.waits (by rw [library]; exact of) ticks
  have before := polled_waits lawful of allow polls inTime begins
  -- After every tick the schedule waits for a window whose fire time has not come.
  have after : ∀ n, ∃ row next, Waits record windows created ticks (n + 1) row
      (client.fired record ticks boards n) next := by
    intro n
    obtain ⟨row, next, found, waits⟩ := before (n + 1)
    rw [polls.undone n] at waits
    exact ⟨row, next, waits⟩
  constructor
  · intro window isWindow later
    obtain ⟨next, -, follows⟩ := of.next window
    obtain ⟨n, reached, -⟩ := inTime window next isWindow later follows
    obtain ⟨row, awaited, waits⟩ := after n
    refine ⟨n, (waits.earlier window).mpr ⟨isWindow, later, ?_⟩⟩
    have pending := waits.pending n (Nat.lt_succ_self n)
    rcases Nat.lt_trichotomy window awaited with less | rfl | more
    · exact less
    · omega
    · -- Another window that is waited for would have been fired before this one.
      obtain ⟨following, -, alsoFollows⟩ := of.next awaited
      obtain ⟨m, due, inside, -⟩ :=
        inTime awaited following waits.isWindow.1 waits.isWindow.2 alsoFollows
      have bound := alsoFollows.2.2 window isWindow more
      have within : window ≤ record.fireTime window := Nat.le_add_right _ _
      by_cases early : m ≤ n
      · have late := waits.pending m (Nat.lt_succ_of_le early)
        omega
      · have order := monotone_nat_of_le_succ polls.ordered (Nat.le_of_not_le early)
        omega
  · intro n
    obtain ⟨row, next, waits⟩ := after n
    exact waits.inOrder
  · intro n
    obtain ⟨row, next, found, waits⟩ := before (n + 1)
    obtain ⟨moved, more, following, -, started, -⟩ :=
      waits.tick lawful of allow polls inTime found rfl
    rw [fired, fired, started, polls.undone n]
    exact List.prefix_append _ _
  · intro n window listed
    obtain ⟨row, next, waits⟩ := after n
    obtain ⟨m, less, reached⟩ := waits.notEarly window listed
    exact Nat.le_trans reached (monotone_nat_of_le_succ polls.ordered (Nat.le_of_lt_succ less))
  · intro n window listed
    obtain ⟨row, next, waits⟩ := after n
    obtain ⟨isWindow, later, -⟩ := (waits.earlier window).mp listed
    exact ⟨isWindow, later⟩

end Polling

section Alone

variable {record : ScheduleRecord} {created : Nat} {ticks : Nat → Nat}

theorem tickRounds_keeps (lawful : client.parser.Lawful) (keyed : Keyed board)
    (runs : board.draining = false) (works : board.outage = none) (nowMs rounds : Nat)
    (runIds : List String) :
    let after := ((client.tickRounds nowMs rounds runIds).alone exec board).1
    Keyed after ∧ after.draining = false ∧ after.outage = none ∧
      after.schedules.keys = board.schedules.keys := by
  induction rounds generalizing board runIds with
  | zero => exact ⟨keyed, runs, works, rfl⟩
  | succ rounds ih =>
    obtain ⟨after, more, swept, same⟩ := tickRounds_succ lawful keyed runs works rounds runIds
    dsimp only
    rw [same]
    split
    · exact ⟨swept.keyed lawful keyed, swept.draining, swept.outage, swept.keys⟩
    · obtain ⟨still, draining, outage, keys⟩ :=
        ih (swept.keyed lawful keyed) swept.draining swept.outage more
      exact ⟨still, draining, outage, keys.trans swept.keys⟩

/-- The boards of ticks between which nothing happens. -/
def polled (client : ScheduleClient) (ticks : Nat → Nat) (board : ScheduleBoard) :
    Nat → ScheduleBoard
  | 0 => board
  | n + 1 => client.tickAt (ticks n) (polled client ticks board n)

theorem polled_keeps (lawful : client.parser.Lawful) (keyed : Keyed board)
    (runs : board.draining = false) (works : board.outage = none) (ticks : Nat → Nat) (n : Nat) :
    Keyed (client.polled ticks board n) ∧ (client.polled ticks board n).draining = false ∧
      (client.polled ticks board n).outage = none ∧
      (client.polled ticks board n).schedules.keys = board.schedules.keys := by
  induction n with
  | zero => exact ⟨keyed, runs, works, rfl⟩
  | succ n ih =>
    obtain ⟨still, draining, outage, keys⟩ := ih
    have same : Keyed { client.polled ticks board n with clockMs := ticks n } := still
    have kept := tickRounds_keeps lawful same draining outage (ticks n) 50 []
    rw [polled, tickAt_eq]
    exact ⟨kept.1, kept.2.1, kept.2.2.1, kept.2.2.2.trans keys⟩

theorem polls_polled (lawful : client.parser.Lawful) (keyed : Keyed board)
    (runs : board.draining = false) (works : board.outage = none)
    (few : board.schedules.keys.length ≤ 50 * tickBatch)
    (serves : client.serves record.namespace = true)
    (row : board.schedules.get record.id = some record)
    (unstarted : board.started record.id = []) (later : created ≤ ticks 0)
    (ordered : ∀ n, ticks n ≤ ticks (n + 1)) :
    client.Polls record created ticks (client.polled ticks board) where
  serves := serves
  row := row
  unstarted := unstarted
  later := later
  ordered := ordered
  kept _ := rfl
  undone _ := rfl
  works n := by
    obtain ⟨-, draining, outage, -⟩ := polled_keeps lawful keyed runs works ticks n
    exact ⟨draining, outage⟩
  keyed n := (polled_keeps lawful keyed runs works ticks n).1
  few n := by
    rw [dueCount_eq, (polled_keeps lawful keyed runs works ticks n).2.2.2]
    exact Nat.le_trans (List.length_filter_le _ _) few

end Alone

section Examples

theorem jitterFor_le (id : String) (window : Nat) (spec : SpecDoc) :
    jitterFor id window spec ≤ spec.jitterMs.getD 0 := by
  unfold jitterFor
  dsimp only
  split
  · exact Nat.zero_le _
  · exact Nat.le_of_lt (Nat.mod_lt _ (by omega))

def everyHour (jitter : Option Int) (catchup : Catchup) : ScheduleOptions where
  id := "hourly"
  workflow := "send"
  every := some 3600000
  jitter := jitter
  catchup := some catchup

def everyHourSpec (jitterMs : Option Nat) (catchup : Catchup) : SpecDoc where
  cadence := .every ⟨3600000, by decide⟩
  jitterMs := jitterMs
  catchup := catchup

def everyHourRecord (jitter : Option Int) (jitterMs : Option Nat) (catchup : Catchup) :
    ScheduleRecord :=
  digestClient.recordOf (everyHour jitter catchup) none (everyHourSpec jitterMs catchup) 0
    (some 3600000)

def boardOf (record : ScheduleRecord) : ScheduleBoard where
  schedules := Table.empty.set record.id record

theorem hour_after {hour next : Nat} (whole : 3600000 ∣ hour)
    (follows : Follows (3600000 ∣ ·) hour next) : next = hour + 3600000 := by
  obtain ⟨isHour, later, first⟩ := follows
  have bound := first (hour + 3600000) (by omega) (by omega)
  omega

theorem polls_boardOf {record : ScheduleRecord} {ticks : Nat → Nat}
    (serves : digestClient.serves record.namespace = true)
    (ordered : ∀ n, ticks n ≤ ticks (n + 1)) :
    digestClient.Polls record 0 ticks (digestClient.polled ticks (boardOf record)) := by
  apply polls_polled minuteParser_lawful
  · intro id row found
    rw [boardOf, Table.get_set] at found
    split at found
    · rename_i same
      rw [← Option.some.inj found, same]
    · cases found
  · rfl
  · rfl
  · have keys : (boardOf record).schedules.keys = [record.id] := rfl
    rw [keys, List.length_singleton]
    decide
  · exact serves
  · exact Table.get_set_self _ _ _
  · rfl
  · exact Nat.zero_le _
  · exact ordered

/-- A schedule of every hour with a jitter below a minute, polled a minute after every hour. -/
theorem every_hour_fired : FiresEveryWindow (everyHourRecord (some 60000) (some 60000) .latest)
    (3600000 ∣ ·) 0 (fun n => (n + 1) * 3600000 + 60000)
    (digestClient.fired (everyHourRecord (some 60000) (some 60000) .latest)
      (fun n => (n + 1) * 3600000 + 60000)
      (digestClient.polled (fun n => (n + 1) * 3600000 + 60000)
        (boardOf (everyHourRecord (some 60000) (some 60000) .latest)))) := by
  have ordered : ∀ n : Nat, (n + 1) * 3600000 + 60000 ≤ (n + 1 + 1) * 3600000 + 60000 := by
    intro n
    omega
  apply every_window_fired minuteParser_lawful rfl
    ⟨everyHourSpec (some 60000) .latest, some 3600000, rfl, rfl, rfl, rfl⟩
  · intro time
    rfl
  · rfl
  · exact polls_boardOf rfl ordered
  · intro window next isHour later follows
    have after := hour_after isHour follows
    have jitter := jitterFor_le "hourly" window (everyHourSpec (some 60000) .latest)
    have most : jitterFor "hourly" window (everyHourSpec (some 60000) .latest) ≤ 60000 := jitter
    refine ⟨window / 3600000 - 1, ?_, ?_, ?_⟩
    · change window + jitterFor "hourly" window (everyHourSpec (some 60000) .latest) ≤ _
      dsimp only
      omega
    · dsimp only
      omega
    · intro skips
      cases skips

/-- The times of ticks, the first of which comes half an hour after its window. -/
def lateTicks (n : Nat) : Nat := if n = 0 then 5400000 else (n + 1) * 3600000

/-- A window whose tick comes between its fire time and the next one's, but late, is not fired by a
schedule that skips late windows. -/
theorem late_window_not_fired :
    digestClient.Creates (everyHour none .skip) 0 (everyHourRecord none none .skip) ∧
    (everyHourRecord none none .skip).spec.overlap = .allow ∧
    digestClient.Polls (everyHourRecord none none .skip) 0 lateTicks
      (digestClient.polled lateTicks (boardOf (everyHourRecord none none .skip))) ∧
    (everyHourRecord none none .skip).spec.Windows digestClient.parser (3600000 ∣ ·) ∧
    TickedBetweenFires (everyHourRecord none none .skip) (3600000 ∣ ·) 0 lateTicks ∧
    ¬ FiresEveryWindow (everyHourRecord none none .skip) (3600000 ∣ ·) 0 lateTicks
      (digestClient.fired (everyHourRecord none none .skip) lateTicks
        (digestClient.polled lateTicks (boardOf (everyHourRecord none none .skip)))) := by
  have ordered : ∀ n : Nat, lateTicks n ≤ lateTicks (n + 1) := by
    intro n
    unfold lateTicks
    split
    · rw [if_neg (Nat.succ_ne_zero n)]
      omega
    · rw [if_neg (Nat.succ_ne_zero n)]
      omega
  refine ⟨⟨everyHourSpec none .skip, some 3600000, rfl, rfl, rfl, rfl⟩, rfl,
    polls_boardOf rfl ordered, fun _ => Iff.rfl, ?_, ?_⟩
  · intro window next isHour later follows
    have after := hour_after isHour follows
    have exact' : ∀ hour, (everyHourRecord none none .skip).fireTime hour = hour := fun _ => rfl
    refine ⟨window / 3600000 - 1, ?_, ?_⟩
    · rw [exact', lateTicks]
      split
      · omega
      · omega
    · rw [exact', lateTicks]
      split
      · omega
      · omega
  · intro fires
    have first : digestClient.fired (everyHourRecord none none .skip) lateTicks
        (digestClient.polled lateTicks (boardOf (everyHourRecord none none .skip))) 0 = [] := by
      decide +kernel
    have second : digestClient.fired (everyHourRecord none none .skip) lateTicks
        (digestClient.polled lateTicks (boardOf (everyHourRecord none none .skip))) 1 =
          [7200000] := by
      decide +kernel
    -- The first window would have to come after the second one.
    obtain ⟨n, listed⟩ := fires.each 3600000 (Nat.dvd_refl _) (by omega)
    have begins : ∀ m, [7200000] <+: digestClient.fired (everyHourRecord none none .skip) lateTicks
        (digestClient.polled lateTicks (boardOf (everyHourRecord none none .skip))) (m + 1) := by
      intro m
      induction m with
      | zero => rw [second]
      | succ m ih => exact ih.trans (fires.grows (m + 1))
    cases n with
    | zero =>
      rw [first] at listed
      cases listed
    | succ m =>
      obtain ⟨rest, same⟩ := begins m
      have inOrder := fires.inOrder (m + 1)
      rw [← same] at listed inOrder
      rcases List.mem_cons.mp listed with equal | among
      · cases equal
      · have after := (List.pairwise_cons.mp inOrder).1 _ among
        omega

end Examples

end ScheduleClient

end Durable
