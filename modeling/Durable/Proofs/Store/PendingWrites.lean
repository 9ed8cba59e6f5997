import Durable.Store.PendingWrites
import Durable.Text.Joined

/-! Batches of conditional writes to the checkpoints do what the writes do one at a time. -/

namespace Durable.Lucid

open Grouping (collect upsert lookup_upsert lookup_of_mem collect_concat_some keys_collect
  nodup_firsts keys_upsert mem_upsert)
open Sql (slices flatten_slices upsertSlices upsertRow Writes Batch)
open Joined (append_mark_inj_of_back)

section Keys

variable {Number Json : Type} {js : Columns Number Json}

theorem checkpointKey_inj {runId runId' : String} {seq seq' : Number}
    (same : checkpointKey js runId seq = checkpointKey js runId' seq') :
    runId = runId' ∧ seq = seq' := by
  have texts : runId.toList ++ Char.ofNat 0 :: (js.numberText seq).toList =
      runId'.toList ++ Char.ofNat 0 :: (js.numberText seq').toList := by
    simpa [checkpointKey] using congrArg String.toList same
  obtain ⟨runs, numbers⟩ :=
    append_mark_inj_of_back (js.numberText_plain seq) (js.numberText_plain seq') texts
  have read := js.number_numberText seq
  rw [String.toList_inj.mp numbers, js.number_numberText] at read
  exact ⟨String.toList_inj.mp runs, (Option.some.inj read).symm⟩

def textOfKey (js : Columns Number Json) (key : String × Number) : String :=
  checkpointKey js key.1 key.2

theorem textOfKey_inj {key key' : String × Number} :
    textOfKey js key = textOfKey js key' ↔ key = key' := by
  constructor
  · intro same
    obtain ⟨runs, seqs⟩ := checkpointKey_inj same
    exact Prod.ext runs seqs
  · intro same
    rw [same]

end Keys

section Maps

variable {Row : Type}

theorem lookup_foldl_upsert (read pending : List (String × Row)) (k : String) :
    ((read.foldl (fun pending row => upsert row.1 (fun _ => row.2) pending) pending).lookup
        k).isSome ↔ (pending.lookup k).isSome ∨ ∃ row ∈ read, row.1 = k := by
  induction read generalizing pending with
  | nil => simp
  | cons first rest ih =>
    rw [List.foldl_cons, ih, lookup_upsert]
    by_cases own : k = first.1
    · simp [own]
    · simp [own, Ne.symm own]

theorem lookup_dropKey (k other : String) (pending : List (String × Row)) :
    (dropKey k pending).lookup other = if other = k then none else pending.lookup other := by
  induction pending with
  | nil => simp [dropKey]
  | cons first rest ih =>
    obtain ⟨met, row⟩ := first
    unfold dropKey at ih ⊢
    have apart : ¬other = met → (other == met) = false := by
      intro other
      simpa using other
    by_cases dropped : met = k
    · subst dropped
      rw [List.filter_cons_of_neg (by simp), ih]
      by_cases own : other = met
      · rw [if_pos own, if_pos own]
      · rw [if_neg own, if_neg own, List.lookup_cons, apart own]
    · rw [List.filter_cons_of_pos (by simpa using dropped), List.lookup_cons, ih,
        List.lookup_cons]
      by_cases own : other = k
      · subst own
        simp [apart (Ne.symm dropped)]
      · rw [if_neg own, if_neg own]

end Maps

section Locking

variable {Number Json : Type} [DecidableEq Number] (js : Columns Number Json)

theorem mem_lookup_seqsByRun (entries : List (String × Number)) (runId : String) (seq : Number) :
    seq ∈ ((seqsByRun entries).lookup runId).getD [] ↔ (runId, seq) ∈ entries := by
  induction entries using List.reverseRecOn with
  | nil => simp [seqsByRun]
  | append_singleton entries last ih =>
    have more : seqsByRun (entries ++ [last]) =
        upsert last.1 (fun seqs =>
          if last.2 ∈ seqs.getD [] then seqs.getD [] else seqs.getD [] ++ [last.2])
            (seqsByRun entries) := by
      unfold seqsByRun
      exact collect_concat_some rfl
    rw [more, lookup_upsert, List.mem_append, List.mem_singleton]
    by_cases own : runId = last.1
    · subst own
      rw [← ih, if_pos rfl, Option.getD_some]
      have same : (last.1, seq) = last ↔ seq = last.2 := by
        rw [Prod.ext_iff]
        simp
      rw [same]
      split
      · rename_i met
        constructor
        · exact Or.inl
        · intro either
          rcases either with listed | rfl
          · exact listed
          · exact met
      · rw [List.mem_append, List.mem_singleton]
    · have other : (runId, seq) ≠ last := by
        intro same
        exact own (by rw [← same])
      rw [if_neg own, ih]
      simp [other]

theorem mem_seqsByRun (entries : List (String × Number)) (runId : String) (seq : Number) :
    (∃ seqs, (runId, seqs) ∈ seqsByRun entries ∧ seq ∈ seqs) ↔ (runId, seq) ∈ entries := by
  rw [← mem_lookup_seqsByRun]
  constructor
  · intro found
    obtain ⟨seqs, listed, member⟩ := found
    have distinct : ((seqsByRun entries).map Prod.fst).Nodup := by
      unfold seqsByRun
      rw [keys_collect]
      exact nodup_firsts _
    rw [lookup_of_mem distinct listed]
    exact member
  · intro member
    cases found : (seqsByRun entries).lookup runId with
    | none => simp [found] at member
    | some seqs =>
      rw [found] at member
      obtain ⟨front, back, split, -⟩ := List.lookup_eq_some_iff.mp found
      exact ⟨seqs, by simp [split], member⟩

theorem updatePending_pending (runId : String) (seq : Number) (rows : List (CheckpointRow Number)) :
    (updatePending runId seq (fun row => { row with status := .pending }) rows).2 = rows := by
  unfold updatePending
  conv_rhs => rw [← List.map_id rows]
  apply List.map_congr_left
  intro row _
  split
  · rename_i chosen
    have status : row.status = .pending := by
      simp only [CheckpointRow.pendingAt, Bool.and_eq_true, decide_eq_true_eq] at chosen
      exact chosen.2
    rw [id_eq, ← status]
  · rfl

theorem lock_rows (locksRows : Bool) (entries : List (String × Number))
    (rows : List (CheckpointRow Number)) :
    (lockPendingCheckpoints js locksRows entries rows).2 = rows := by
  cases entries with
  | nil => rfl
  | cons first rest =>
    cases locksRows with
    | true => rfl
    | false => exact updatePending_pending _ _ rows

theorem mem_readPending {entries : List (String × Number)} {rows : List (CheckpointRow Number)}
    {k : String} {row : CheckpointRow Number} :
    (k, row) ∈ readPending js entries rows ↔
      row ∈ rows ∧ row.key ∈ entries ∧ row.status = .pending ∧ k = textOfKey js row.key := by
  have cut : ∀ (seqs : List Number) (seq : Number),
      seq ∈ seqs ↔ ∃ chunk ∈ slices checkpointBatch seqs, seq ∈ chunk := by
    intro seqs seq
    rw [← List.mem_flatten, flatten_slices (by decide)]
  constructor
  · intro read
    simp only [readPending, List.mem_flatMap, List.mem_map, List.mem_filter, Bool.and_eq_true,
      decide_eq_true_eq, Prod.mk.injEq] at read
    obtain ⟨⟨runId, seqs⟩, asked, chunk, sliced, _, ⟨stored, ⟨rfl, listed⟩, status⟩, rfl, rfl⟩ :=
      read
    refine ⟨stored, ?_, status, rfl⟩
    exact (mem_seqsByRun entries _ _).mp ⟨seqs, asked, (cut seqs _).mpr ⟨chunk, sliced, listed⟩⟩
  · intro found
    obtain ⟨stored, named, status, rfl⟩ := found
    obtain ⟨seqs, asked, member⟩ := (mem_seqsByRun entries row.runId row.seq).mpr named
    obtain ⟨chunk, sliced, listed⟩ := (cut seqs row.seq).mp member
    simp only [readPending, List.mem_flatMap, List.mem_map, List.mem_filter, Bool.and_eq_true,
      decide_eq_true_eq, Prod.mk.injEq]
    exact ⟨(row.runId, seqs), asked, chunk, sliced, row, ⟨stored, ⟨rfl, listed⟩, status⟩, rfl, rfl⟩

theorem lock_opens (locksRows : Bool) {entries : List (String × Number)}
    (rows : List (CheckpointRow Number)) {key : String × Number} (asked : key ∈ entries) :
    ((lockPendingCheckpoints js locksRows entries rows).1.lookup (textOfKey js key)).isSome ↔
      ∃ row ∈ rows, row.key = key ∧ decide (row.status = .pending) = true := by
  have map : (lockPendingCheckpoints js locksRows entries rows).1 =
      (readPending js entries rows).foldl
        (fun pending row => upsert row.1 (fun _ => row.2) pending) [] := by
    conv_rhs => rw [← lock_rows js locksRows entries rows]
    rfl
  rw [map, lookup_foldl_upsert]
  constructor
  · intro found
    rcases found with none | ⟨⟨k, row⟩, read, same⟩
    · cases none
    · obtain ⟨stored, -, status, rfl⟩ := (mem_readPending js).mp read
      exact ⟨row, stored, textOfKey_inj.mp same, decide_eq_true status⟩
  · rintro ⟨row, stored, rfl, status⟩
    exact .inr ⟨(textOfKey js row.key, row),
      (mem_readPending js).mpr ⟨stored, asked, of_decide_eq_true status, rfl⟩, rfl⟩

end Locking

section Updates

variable {Number Entry : Type} [DecidableEq Number]

/-- Entries that each write the pending row of their key. -/
structure PendingWrites (writes : Writes (String × Number) (CheckpointRow Number) Entry) : Prop
    where
  rowKey : writes.rowKey = CheckpointRow.key
  isOpen : ∀ row, writes.isOpen row = decide (row.status = .pending)

variable {writes : Writes (String × Number) (CheckpointRow Number) Entry}

theorem PendingWrites.one_eq (pending : PendingWrites writes) (entry : Entry)
    (rows : List (CheckpointRow Number)) :
    writes.one rows entry =
      (decide (0 < (updatePending (writes.entryKey entry).1 (writes.entryKey entry).2
          (writes.write entry) rows).1),
        (updatePending (writes.entryKey entry).1 (writes.entryKey entry).2
          (writes.write entry) rows).2) := by
  have chooses : writes.chooses entry =
      CheckpointRow.pendingAt (writes.entryKey entry).1 (writes.entryKey entry).2 := by
    funext row
    rw [Bool.eq_iff_iff]
    simp [Writes.chooses, CheckpointRow.pendingAt, pending.rowKey, pending.isOpen,
      CheckpointRow.key, Prod.ext_iff, and_assoc]
  have any : rows.any (writes.chooses entry) =
      decide (0 < rows.countP (writes.chooses entry)) := by
    rw [Bool.eq_iff_iff, decide_eq_true_iff, List.countP_pos_iff, List.any_eq_true]
  unfold Writes.one updatePending
  rw [any, chooses]

end Updates

section Deciding

variable {Number Json : Type} {js : Columns Number Json}

theorem decideSave_skip {decided : Decided Number (List (String × StepCheckpoint Number Json))}
    {cp : StepCheckpoint Number Json}
    (shut : ¬ (decided.pending.lookup (textOfKey js (cp.runId, cp.seq))).isSome) :
    decideSave js decided cp = { decided with wrote := decided.wrote ++ [false] } := by
  have missing : decided.pending.lookup (checkpointKey js cp.runId cp.seq) = none :=
    Option.not_isSome_iff_eq_none.mp shut
  rw [decideSave, missing]
  rfl

/-- A checkpoint whose row is pending is kept, and its row is no longer pending unless it leaves it
so. -/
theorem decideSave_take {decided : Decided Number (List (String × StepCheckpoint Number Json))}
    {cp : StepCheckpoint Number Json}
    (isOpen : (decided.pending.lookup (textOfKey js (cp.runId, cp.seq))).isSome) :
    decideSave js decided cp =
      { pending := if cp.status ≠ .pending then
          dropKey (checkpointKey js cp.runId cp.seq) decided.pending
        else decided.pending
        wrote := decided.wrote ++ [true]
        writes := upsert (checkpointKey js cp.runId cp.seq) (fun _ => cp) decided.writes } := by
  obtain ⟨row, found⟩ := Option.isSome_iff_exists.mp isOpen
  have found : decided.pending.lookup (checkpointKey js cp.runId cp.seq) = some row := found
  rw [decideSave, found]
  rfl

theorem isSome_left [DecidableEq Number] {Row : Type} {pending : List (String × Row)}
    {own : String × Number} (left : Prop) [Decidable left]
    (isOpen : (pending.lookup (textOfKey js own)).isSome) (key : String × Number) :
    ((if ¬left then dropKey (textOfKey js own) pending else pending).lookup
        (textOfKey js key)).isSome ↔
      if key = own then left else (pending.lookup (textOfKey js key)).isSome := by
  by_cases same : key = own
  · subst same
    by_cases kept : left
    · simp only [kept, not_true_eq_false, if_false, if_true, isOpen]
    · simp only [kept, not_false_eq_true, if_true, lookup_dropKey, Option.isSome_none,
        Bool.false_eq_true]
  · have texts : ¬textOfKey js key = textOfKey js own := textOfKey_inj.not.mpr same
    by_cases kept : left
    · simp only [kept, not_true_eq_false, if_false, same]
    · simp only [kept, not_false_eq_true, if_true, lookup_dropKey, texts, if_false, same]

end Deciding

section Saving

variable {Number Json : Type} [DecidableEq Number] (js : Columns Number Json)

/-- Checkpoints each overwrite the pending row of their key. -/
def saves : Writes (String × Number) (CheckpointRow Number) (StepCheckpoint Number Json) where
  rowKey := CheckpointRow.key
  entryKey cp := (cp.runId, cp.seq)
  isOpen row := row.status = .pending
  write cp row := row.overwritten js cp
  leaves cp := cp.status = .pending
  rowKey_write _ _ := rfl
  isOpen_write _ _ := rfl
  write_write _ _ _ _ := rfl

/-- What a batch of checkpoints has decided, with the map of its writes. -/
structure SaveState (js : Columns Number Json) where
  decided : Decided Number (List (String × StepCheckpoint Number Json))
  named : ∀ entry ∈ decided.writes, entry.1 = textOfKey js (entry.2.runId, entry.2.seq)
  distinct : (decided.writes.map Prod.fst).Nodup

/-- A checkpoint is stored under its text as its row replaces the one of its key. -/
theorem map_upsert {writes : List (String × StepCheckpoint Number Json)}
    (named : ∀ entry ∈ writes, entry.1 = textOfKey js (entry.2.runId, entry.2.seq))
    (distinct : (writes.map Prod.fst).Nodup) (cp : StepCheckpoint Number Json) :
    (upsert (checkpointKey js cp.runId cp.seq) (fun _ => cp) writes).map
        (fun entry => insertedCheckpoint js entry.2) =
      upsertRow CheckpointRow.key (fun _ each => each)
        (writes.map fun entry => insertedCheckpoint js entry.2) (insertedCheckpoint js cp) := by
  have own : ∀ entry ∈ writes, (insertedCheckpoint js entry.2).key = (insertedCheckpoint js cp).key
      ↔ entry.1 = checkpointKey js cp.runId cp.seq := by
    intro entry listed
    rw [named entry listed]
    exact textOfKey_inj.symm
  induction writes with
  | nil => rfl
  | cons first rest ih =>
    obtain ⟨k, earlier⟩ := first
    obtain ⟨apart, others⟩ := List.nodup_cons.mp distinct
    have later := ih (fun entry listed => named entry (List.mem_cons_of_mem _ listed)) others
      fun entry listed => own entry (List.mem_cons_of_mem _ listed)
    have head := own (k, earlier) List.mem_cons_self
    unfold upsertRow at later ⊢
    by_cases here : k = checkpointKey js cp.runId cp.seq
    · -- No other entry is stored under the text.
      have kept : ∀ row ∈ rest.map fun entry => insertedCheckpoint js entry.2,
          ¬ row.key = (insertedCheckpoint js cp).key := by
        intro row listed same
        obtain ⟨entry, member, rfl⟩ := List.mem_map.mp listed
        have text := (own entry (List.mem_cons_of_mem _ member)).mp same
        exact apart (List.mem_map.mpr ⟨entry, member, text.trans here.symm⟩)
      have same := head.mpr here
      simp only [upsert, if_pos here, List.map_cons, List.any_cons, same, decide_true,
        Bool.true_or, if_true]
      congr 1
      conv_lhs => rw [← List.map_id (rest.map _)]
      apply List.map_congr_left
      intro row listed
      rw [if_neg (kept row listed), id_eq]
    · have other := head.not.mpr here
      simp only [upsert, if_neg here, List.map_cons, List.any_cons, other, decide_false,
        Bool.false_or, if_false]
      rw [later]
      split <;> rfl

/-- A checkpoint of a batch keeps the map of its writes. -/
def SaveState.step (state : SaveState js) (cp : StepCheckpoint Number Json) : SaveState js where
  decided := decideSave js state.decided cp
  named := by
    unfold decideSave
    dsimp only
    split
    · exact state.named
    · intro entry listed
      rcases mem_upsert listed with rfl | kept
      · rfl
      · exact state.named entry kept
  distinct := by
    unfold decideSave
    dsimp only
    split
    · exact state.distinct
    · dsimp only
      rw [keys_upsert]
      split
      · exact state.distinct
      · rename_i unlisted
        rw [← List.concat_eq_append]
        exact state.distinct.concat unlisted

def saveBatch : Batch (saves js) mergeInserted (SaveState js) where
  opened state key := (state.decided.pending.lookup (textOfKey js key)).isSome
  wrote state := state.decided.wrote
  excluded state := state.decided.writes.map fun entry => insertedCheckpoint js entry.2
  step := SaveState.step js
  keeps row excluded same := same.symm
  skip state cp shut := by
    have step : (SaveState.step js state cp).decided = _ := decideSave_skip shut
    rw [step]
    exact ⟨rfl, fun _ => Iff.rfl, rfl⟩
  take state cp isOpen _ := by
    have step : (SaveState.step js state cp).decided = _ := decideSave_take isOpen
    rw [step]
    refine ⟨rfl, ?_, insertedCheckpoint js cp, rfl, ?_, map_upsert js state.named state.distinct cp⟩
    · intro key
      have left := isSome_left (cp.status = .pending) isOpen key
      simpa [saves, textOfKey] using left
    · intro row same
      obtain ⟨runs, seqs⟩ := Prod.mk.inj same
      have written : (insertedCheckpoint js cp).toWrittenCheckpointColumns =
          { checkpointToRow js cp with runId := row.runId, seq := row.seq } := by
        rw [runs, seqs]
        rfl
      rw [mergeInserted, written]
      rfl

theorem saveCheckpointsIfPending_eq (locksRows : Bool) (table : CheckpointTable Number)
    (checkpoints : List (StepCheckpoint Number Json)) :
    saveCheckpointsIfPending js locksRows checkpoints table.rows =
      some ((saves js).each checkpoints table.rows) := by
  cases some_ : checkpoints.isEmpty with
  | true =>
    obtain rfl := List.isEmpty_iff.mp some_
    rfl
  | false =>
    let begins : SaveState js :=
      ⟨⟨(lockPendingCheckpoints js locksRows (checkpoints.map fun cp => (cp.runId, cp.seq))
        table.rows).1, [], []⟩, by simp, by simp⟩
    let ends := checkpoints.foldl (SaveState.step js) begins
    have raw : checkpoints.foldl (decideSave js) begins.decided = ends.decided :=
      List.foldl_hom SaveState.decided fun _ _ => rfl
    have both : ends.decided.wrote = ((saves js).each checkpoints table.rows).1 ∧
        upsertSlices CheckpointRow.key mergeInserted checkpointUpsertBatch table.rows
          (ends.decided.writes.map fun entry => insertedCheckpoint js entry.2) =
            some ((saves js).each checkpoints table.rows).2 :=
      (saveBatch js).eq_each (by decide) table.primary checkpoints rfl rfl fun cp listed =>
        lock_opens js locksRows table.rows (List.mem_map_of_mem listed)
    rw [saveCheckpointsIfPending, some_, if_neg Bool.false_ne_true]
    dsimp only
    rw [lock_rows, raw, both.1, both.2]
    rfl

end Saving

section Settling

variable {Number Json : Type} [DecidableEq Number] (js : Columns Number Json)

/-- Settlements each settle the pending row of their key. -/
def settles : Writes (String × Number) (CheckpointRow Number) (StepSettlement Number Json) where
  rowKey := CheckpointRow.key
  entryKey s := (s.runId, s.seq)
  isOpen row := row.status = .pending
  write s row := row.settled js s
  leaves _ := false
  rowKey_write _ _ := rfl
  isOpen_write s row := by
    cases s with
    | mk _ _ status => cases status <;> rfl
  write_write _ _ _ leaves := by cases leaves

/-- The batch of settlements. -/
def settleBatch : Batch (settles js) mergeSettled
    (Decided Number (List (CheckpointRow Number))) where
  opened decided key := (decided.pending.lookup (textOfKey js key)).isSome
  wrote := Decided.wrote
  excluded := Decided.writes
  step := decideSettle js
  keeps _ _ _ := rfl
  skip decided s shut := by
    have missing : decided.pending.lookup (checkpointKey js s.runId s.seq) = none :=
      Option.not_isSome_iff_eq_none.mp shut
    rw [decideSettle, missing]
    exact ⟨rfl, fun _ => Iff.rfl, rfl⟩
  take decided s isOpen fresh := by
    obtain ⟨row, found⟩ := Option.isSome_iff_exists.mp isOpen
    have found : decided.pending.lookup (checkpointKey js s.runId s.seq) = some row := found
    have unlisted := fresh fun _ => rfl
    rw [decideSettle, found]
    refine ⟨rfl, ?_, insertedSettlement js s row, rfl, fun _ _ => rfl, ?_⟩
    · intro key
      have left := isSome_left False isOpen key
      simpa [settles, textOfKey] using left
    · -- No row of the key is kept yet.
      unfold upsertRow
      rw [if_neg]
      intro met
      obtain ⟨each, listed, same⟩ := List.any_eq_true.mp met
      exact unlisted (List.mem_map.mpr ⟨each, listed, of_decide_eq_true same⟩)

theorem settleCheckpointIfPending_eq (s : StepSettlement Number Json)
    (rows : List (CheckpointRow Number)) :
    settleCheckpointIfPending js s rows = (settles js).one rows s := by
  have pending : PendingWrites (settles js) := ⟨rfl, fun _ => rfl⟩
  rw [pending.one_eq]
  rfl

/-- A batch of settlements gives the verdicts and the rows of the settlements one after the
other. -/
theorem settleCheckpointsIfPending_eq (locksRows : Bool) (table : CheckpointTable Number)
    (settlements : List (StepSettlement Number Json)) :
    settleCheckpointsIfPending js locksRows settlements table.rows =
      some ((settles js).each settlements table.rows) := by
  cases settlements with
  | nil => rfl
  | cons first rest =>
    cases rest with
    | nil =>
      rw [settleCheckpointsIfPending, settleCheckpointIfPending_eq]
      rfl
    | cons second rest =>
      let settlements := first :: second :: rest
      let ends := settlements.foldl (decideSettle js)
        ⟨(lockPendingCheckpoints js locksRows (settlements.map fun s => (s.runId, s.seq))
          table.rows).1, [], []⟩
      have both : ends.wrote = ((settles js).each settlements table.rows).1 ∧
          upsertSlices CheckpointRow.key mergeSettled checkpointUpsertBatch table.rows ends.writes =
            some ((settles js).each settlements table.rows).2 :=
        (settleBatch js).eq_each (by decide) table.primary settlements rfl rfl fun s listed =>
          lock_opens js locksRows table.rows (List.mem_map_of_mem listed)
      unfold settleCheckpointsIfPending
      dsimp only
      rw [lock_rows]
      change Option.map (fun rows => (ends.wrote, rows)) (upsertSlices CheckpointRow.key
        mergeSettled checkpointUpsertBatch table.rows ends.writes) = _
      rw [both.1, both.2]
      rfl

end Settling

section Sequences

variable {Number Json : Type} [DecidableEq Number] (js : Columns Number Json)

def oneAtATime {Entry : Type}
    (write : Entry → List (CheckpointRow Number) → Bool × List (CheckpointRow Number)) :
    List Entry → List (CheckpointRow Number) → List Bool × List (CheckpointRow Number)
  | [], rows => ([], rows)
  | entry :: rest, rows =>
    let (wrote, rows) := write entry rows
    let (others, rows) := oneAtATime write rest rows
    (wrote :: others, rows)

theorem oneAtATime_eq_each {Entry : Type}
    {write : Entry → List (CheckpointRow Number) → Bool × List (CheckpointRow Number)}
    {writes : Writes (String × Number) (CheckpointRow Number) Entry}
    (own : ∀ entry rows, write entry rows = writes.one rows entry) (entries : List Entry)
    (rows : List (CheckpointRow Number)) :
    oneAtATime write entries rows = writes.each entries rows := by
  induction entries generalizing rows with
  | nil => rfl
  | cons first rest ih =>
    rw [oneAtATime, Writes.each, own]
    dsimp only
    rw [ih]

theorem saveCheckpointIfPending_eq (cp : StepCheckpoint Number Json)
    (rows : List (CheckpointRow Number)) :
    saveCheckpointIfPending js cp rows = (saves js).one rows cp := by
  have pending : PendingWrites (saves js) := ⟨rfl, fun _ => rfl⟩
  rw [pending.one_eq]
  rfl

/-- The columns of a row other than those that a settlement writes. -/
def CheckpointRow.unsettled (row : CheckpointRow Number) :
    KeptCheckpointColumns Number × Option Number × Option String :=
  (row.toKeptCheckpointColumns, row.lastHeartbeatAt, row.heartbeatProgress)

/-- What the batches of conditional writes do to a table. -/
structure BatchesAreSequential (js : Columns Number Json) (locksRows : Bool)
    (table : CheckpointTable Number) : Prop where
  saved : ∀ checkpoints, saveCheckpointsIfPending js locksRows checkpoints table.rows =
    some (oneAtATime (saveCheckpointIfPending js) checkpoints table.rows)
  settled : ∀ settlements, settleCheckpointsIfPending js locksRows settlements table.rows =
    some (oneAtATime (settleCheckpointIfPending js) settlements table.rows)
  /-- A batch of settlements leaves the other columns of each row, and inserts no row. -/
  unsettled : ∀ settlements wrote rows,
    settleCheckpointsIfPending js locksRows settlements table.rows = some (wrote, rows) →
      rows.map CheckpointRow.unsettled = table.rows.map CheckpointRow.unsettled
  uninserted : ∀ checkpoints wrote rows,
    saveCheckpointsIfPending js locksRows checkpoints table.rows = some (wrote, rows) →
      rows.map CheckpointRow.key = table.rows.map CheckpointRow.key

/-- A batch of conditional writes gives the verdicts and leaves the rows that the writes give and
leave one at a time; a settlement changes no other column, and nothing is inserted. -/
theorem batches_are_sequential (js : Columns Number Json) (locksRows : Bool)
    (table : CheckpointTable Number) : BatchesAreSequential js locksRows table := by
  constructor
  · intro checkpoints
    rw [saveCheckpointsIfPending_eq, oneAtATime_eq_each (saveCheckpointIfPending_eq js)]
  · intro settlements
    rw [settleCheckpointsIfPending_eq, oneAtATime_eq_each (settleCheckpointIfPending_eq js)]
  · intro settlements wrote rows result
    rw [settleCheckpointsIfPending_eq] at result
    obtain ⟨-, rfl⟩ := Prod.mk.inj (Option.some.inj result)
    exact Writes.map_each (fun _ _ => rfl) settlements table.rows
  · intro checkpoints wrote rows result
    rw [saveCheckpointsIfPending_eq] at result
    obtain ⟨-, rfl⟩ := Prod.mk.inj (Option.some.inj result)
    exact Writes.map_each (fun _ _ => rfl) checkpoints table.rows

end Sequences

end Durable.Lucid
