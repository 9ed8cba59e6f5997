import Mathlib.Data.List.Nodup

/-! Rows under keys: conditional updates, and upserts of many rows in slices. -/

namespace Sql

section Slices

variable {α : Type}

/-- The slices of a list of one size, as a loop over its indices takes them. -/
def slicesFrom (size : Nat) : Nat → List α → List (List α)
  | 0, _ => []
  | fuel + 1, list =>
    if list.isEmpty then [] else list.take size :: slicesFrom size fuel (list.drop size)

/-- The slices of a list, each of at most a size. -/
def slices (size : Nat) (list : List α) : List (List α) := slicesFrom size list.length list

/-- The slices are the list, cut. -/
theorem flatten_slicesFrom {size : Nat} (positive : 0 < size) (fuel : Nat) (list : List α)
    (enough : list.length ≤ fuel) : (slicesFrom size fuel list).flatten = list := by
  induction fuel generalizing list with
  | zero =>
    obtain rfl := List.length_eq_zero_iff.mp (Nat.le_zero.mp enough)
    rfl
  | succ fuel ih =>
    cases list with
    | nil => rfl
    | cons first rest =>
      have shorter : ((first :: rest).drop size).length ≤ fuel := by
        rw [List.length_drop, List.length_cons]
        rw [List.length_cons] at enough
        omega
      rw [slicesFrom, List.isEmpty_cons, if_neg Bool.false_ne_true, List.flatten_cons, ih _ shorter]
      exact List.take_append_drop size _

/-- The slices of a list are the list, cut. -/
theorem flatten_slices {size : Nat} (positive : 0 < size) (list : List α) :
    (slices size list).flatten = list :=
  flatten_slicesFrom positive _ list (Nat.le_refl _)

end Slices

section Upserts

variable {Key Row : Type} [DecidableEq Key] (key : Row → Key) (merge : Row → Row → Row)

/-- Insert a row, or merge it into the one of its key. -/
def upsertRow (rows : List Row) (excluded : Row) : List Row :=
  if rows.any fun row => key row = key excluded then
    rows.map fun row => if key row = key excluded then merge row excluded else row
  else rows ++ [excluded]

/-- Insert or merge some rows in one statement, which fails where it meets a row twice. -/
def upsertRows (rows : List Row) (excluded : List Row) : Option (List Row) :=
  if (excluded.map key).Nodup then some (excluded.foldl (upsertRow key merge) rows) else none

/-- Insert or merge some rows, a slice in each statement. -/
def upsertSlices (size : Nat) (rows : List Row) (excluded : List Row) : Option (List Row) :=
  (slices size excluded).foldlM (upsertRows key merge) rows

/-- A row with what is merged into it. -/
def merged (excluded : List Row) (row : Row) : Row :=
  match excluded.find? fun each => key each = key row with
  | some each => merge row each
  | none => row

variable {key merge}

/-- Statements that each meet no row twice are the upserts one after the other. -/
theorem foldlM_upsertRows (batches : List (List Row)) (rows : List Row)
    (distinct : (batches.flatten.map key).Nodup) :
    batches.foldlM (upsertRows key merge) rows =
      some (batches.flatten.foldl (upsertRow key merge) rows) := by
  induction batches generalizing rows with
  | nil => rfl
  | cons first rest ih =>
    rw [List.flatten_cons, List.map_append, List.nodup_append] at distinct
    obtain ⟨own, later, -⟩ := distinct
    rw [List.foldlM_cons, upsertRows, if_pos own, Option.bind_eq_bind, Option.bind_some,
      ih _ later, List.flatten_cons, List.foldl_append]

/-- Rows that are all there are merged into the ones of their keys. -/
theorem foldl_upsertRow
    (keeps : ∀ row excluded, key row = key excluded → key (merge row excluded) = key row)
    (excluded : List Row) (rows : List Row) (distinct : (excluded.map key).Nodup)
    (present : ∀ each ∈ excluded, key each ∈ rows.map key) :
    excluded.foldl (upsertRow key merge) rows = rows.map (merged key merge excluded) := by
  induction excluded generalizing rows with
  | nil =>
    have same : merged key merge [] = id := by
      funext row
      rfl
    rw [same, List.map_id]
    rfl
  | cons first rest ih =>
    rw [List.map_cons, List.nodup_cons] at distinct
    obtain ⟨apart, later⟩ := distinct
    have met : (rows.any fun row => decide (key row = key first)) = true := by
      obtain ⟨row, listed, same⟩ := List.mem_map.mp (present first List.mem_cons_self)
      rw [List.any_eq_true]
      exact ⟨row, listed, decide_eq_true same⟩
    have keys : (upsertRow key merge rows first).map key = rows.map key := by
      rw [upsertRow, if_pos met, List.map_map]
      apply List.map_congr_left
      intro row _
      rw [Function.comp_apply]
      split
      · rename_i same
        rw [keeps row first same]
      · rfl
    rw [List.foldl_cons, ih _ later]
    · rw [upsertRow, if_pos met, List.map_map]
      apply List.map_congr_left
      intro row _
      rw [Function.comp_apply]
      by_cases same : key row = key first
      · -- No other row is merged into the one that the first is.
        have alone : rest.find? (fun each => decide (key each = key (merge row first))) = none := by
          rw [List.find?_eq_none]
          intro each listed
          rw [keeps row first same, same, decide_eq_true_iff]
          intro again
          exact apart (List.mem_map.mpr ⟨each, listed, again⟩)
        rw [if_pos same, merged, alone, merged, List.find?_cons_of_pos]
        exact decide_eq_true same.symm
      · rw [if_neg same, merged, merged, List.find?_cons_of_neg]
        rw [decide_eq_true_iff]
        exact Ne.symm same
    · intro each listed
      rw [keys]
      exact present each (List.mem_cons_of_mem _ listed)

/-- Rows that are all there are merged into the ones of their keys, whatever the slices. -/
theorem upsertSlices_eq {size : Nat} (positive : 0 < size)
    (keeps : ∀ row excluded, key row = key excluded → key (merge row excluded) = key row)
    {excluded : List Row}
    {rows : List Row} (distinct : (excluded.map key).Nodup)
    (present : ∀ each ∈ excluded, key each ∈ rows.map key) :
    upsertSlices key merge size rows excluded = some (rows.map (merged key merge excluded)) := by
  have cut := flatten_slices positive excluded
  rw [upsertSlices, foldlM_upsertRows _ _ (by rw [cut]; exact distinct), cut,
    foldl_upsertRow keeps excluded rows distinct present]

/-- The keys of rows that a row replaces one of, or is added to. -/
theorem keys_replace (rows : List Row) (row : Row) :
    (upsertRow key (fun _ each => each) rows row).map key =
      if key row ∈ rows.map key then rows.map key else rows.map key ++ [key row] := by
  have met : (rows.any fun each => decide (key each = key row)) = true ↔
      key row ∈ rows.map key := by
    simp [List.any_eq_true]
  unfold upsertRow
  by_cases listed : key row ∈ rows.map key
  · rw [if_pos (met.mpr listed), if_pos listed, List.map_map]
    apply List.map_congr_left
    intro each _
    rw [Function.comp_apply]
    split
    · rename_i same
      exact same.symm
    · rfl
  · rw [if_neg (met.not.mpr listed), if_neg listed, List.map_append]
    rfl

/-- What is merged into a row once a row replaces one of some, or is added to them. -/
theorem merged_replace (rows : List Row) (excluded row : Row) :
    merged key merge (upsertRow key (fun _ each => each) rows excluded) row =
      if key row = key excluded then merge row excluded else merged key merge rows row := by
  have found : (upsertRow key (fun _ each => each) rows excluded).find?
      (fun each => decide (key each = key row)) =
        if key row = key excluded then some excluded
        else rows.find? fun each => decide (key each = key row) := by
    unfold upsertRow
    by_cases met : (rows.any fun each => decide (key each = key excluded)) = true
    · -- A row keeps its key where it is replaced.
      have kept : ((fun each => decide (key each = key row)) ∘
          fun each => if key each = key excluded then excluded else each) =
            fun each => decide (key each = key row) := by
        funext each
        rw [Function.comp_apply]
        split
        · rename_i same
          rw [same]
        · rfl
      rw [if_pos met, List.find?_map, kept]
      cases first : rows.find? fun each => decide (key each = key row) with
      | none =>
        obtain ⟨each, listed, same⟩ := List.any_eq_true.mp met
        have other := List.find?_eq_none.mp first each listed
        rw [of_decide_eq_true same, decide_eq_true_iff] at other
        rw [if_neg (Ne.symm other)]
        rfl
      | some each =>
        have same : key each = key row := by simpa using List.find?_some first
        rw [Option.map_some, same]
        by_cases own : key row = key excluded
        · rw [if_pos own, if_pos own]
        · rw [if_neg own, if_neg own]
    · rw [if_neg met, List.find?_append]
      by_cases own : key row = key excluded
      · have missing : rows.find? (fun each => decide (key each = key row)) = none := by
          rw [List.find?_eq_none]
          intro each listed same
          apply met
          rw [List.any_eq_true]
          exact ⟨each, listed, by rw [← own]; exact same⟩
        rw [missing, if_pos own]
        simp [own]
      · simp [own, Ne.symm own]
  unfold merged
  rw [found]
  by_cases own : key row = key excluded
  · rw [if_pos own, if_pos own]
  · rw [if_neg own, if_neg own]

end Upserts

section Writes

variable {Key Row Entry : Type}

/-- Entries that each write the open row of their key. -/
structure Writes (Key Row Entry : Type) where
  rowKey : Row → Key
  entryKey : Entry → Key
  isOpen : Row → Bool
  write : Entry → Row → Row
  leaves : Entry → Bool
  rowKey_write : ∀ entry row, rowKey (write entry row) = rowKey row
  isOpen_write : ∀ entry row, isOpen (write entry row) = leaves entry
  /-- Nothing of a write that leaves its row open is left by a later one. -/
  write_write : ∀ entry later row, leaves entry → write later (write entry row) = write later row

namespace Writes

variable (writes : Writes Key Row Entry)

/-- A row with the last entry written to it. -/
def latest (written : Key → Option Entry) (row : Row) : Row :=
  match written (writes.rowKey row) with
  | some entry => writes.write entry row
  | none => row

/-- What is known of the rows after some entries: which keys that are asked for are open, and which
entry was last written under a key. -/
structure Tracks (asked : Key → Prop) (rows current : List Row) (opened : Key → Prop)
    (written : Key → Option Entry) : Prop where
  image : current = rows.map (writes.latest written)
  opens : ∀ key, asked key →
    (opened key ↔ ∃ row ∈ current, writes.rowKey row = key ∧ writes.isOpen row)
  left : ∀ key, asked key → opened key → ∀ entry, written key = some entry → writes.leaves entry
  known : ∀ key entry, written key = some entry → key ∈ rows.map writes.rowKey

variable {writes} {asked : Key → Prop} {rows current : List Row} {opened : Key → Prop}
  {written : Key → Option Entry} {entry : Entry}

/-- The last entry written keeps a row's key. -/
theorem rowKey_latest (written : Key → Option Entry) (row : Row) :
    writes.rowKey (writes.latest written row) = writes.rowKey row := by
  unfold latest
  cases written (writes.rowKey row) with
  | none => rfl
  | some entry => exact writes.rowKey_write entry row

/-- Before any entry the open keys are those of the open rows. -/
theorem tracks_nil (rows : List Row)
    (opens : ∀ key, asked key →
      (opened key ↔ ∃ row ∈ rows, writes.rowKey row = key ∧ writes.isOpen row)) :
    writes.Tracks asked rows rows opened fun _ => none where
  image := by
    conv_lhs => rw [← List.map_id rows]
    rfl
  opens := opens
  left key asks isOpen entry none := by cases none
  known key entry none := by cases none

/-- The row of an open key is open, with what was written to it. -/
theorem Tracks.isOpen_latest (tracks : writes.Tracks asked rows current opened written)
    (distinct : (rows.map writes.rowKey).Nodup) {row : Row} (listed : row ∈ rows)
    (asks : asked (writes.rowKey row)) (isOpen : opened (writes.rowKey row)) :
    writes.isOpen (writes.latest written row) = true := by
  obtain ⟨later, found, same, open_⟩ := (tracks.opens _ asks).mp isOpen
  rw [tracks.image] at found
  obtain ⟨other, listed', rfl⟩ := List.mem_map.mp found
  rw [rowKey_latest] at same
  obtain rfl := List.inj_on_of_nodup_map distinct listed' listed same
  exact open_

/-- Writing to a row that is open with what was written to it is writing to the row. -/
theorem Tracks.write_latest (tracks : writes.Tracks asked rows current opened written) (row : Row)
    (asks : asked (writes.rowKey row)) (isOpen : opened (writes.rowKey row)) :
    writes.write entry (writes.latest written row) = writes.write entry row := by
  unfold latest
  cases before : written (writes.rowKey row) with
  | none => rfl
  | some earlier =>
    exact writes.write_write earlier entry row (tracks.left _ asks isOpen earlier before)

variable [DecidableEq Key]

/-- Whether an entry writes a row. -/
def chooses (writes : Writes Key Row Entry) (entry : Entry) (row : Row) : Bool :=
  writes.rowKey row = writes.entryKey entry && writes.isOpen row

/-- Write the open row of an entry's key, and tell whether there was one. -/
def one (writes : Writes Key Row Entry) (rows : List Row) (entry : Entry) : Bool × List Row :=
  (rows.any (writes.chooses entry),
    rows.map fun row => if writes.chooses entry row then writes.write entry row else row)

/-- Write the entries one after the other. -/
def each (writes : Writes Key Row Entry) : List Entry → List Row → List Bool × List Row
  | [], rows => ([], rows)
  | entry :: rest, rows =>
    let first := writes.one rows entry
    let others := each writes rest first.2
    (first.1 :: others.1, others.2)

/-- What no write changes of a row is as it was after all of them. -/
theorem map_each {Kept : Type} {kept : Row → Kept}
    (keeps : ∀ entry row, kept (writes.write entry row) = kept row) (entries : List Entry)
    (rows : List Row) : ((writes.each entries rows).2).map kept = rows.map kept := by
  induction entries generalizing rows with
  | nil => rfl
  | cons first rest ih =>
    rw [each, ih, one, List.map_map]
    apply List.map_congr_left
    intro row _
    rw [Function.comp_apply]
    split
    · exact keeps first row
    · rfl

/-- An entry whose key is not open writes nothing. -/
theorem Tracks.skip (tracks : writes.Tracks asked rows current opened written)
    (asks : asked (writes.entryKey entry)) (shut : ¬ opened (writes.entryKey entry)) :
    writes.one current entry = (false, current) := by
  have unchosen : ∀ row ∈ current, writes.chooses entry row = false := by
    intro row listed
    rw [Bool.eq_false_iff]
    intro chosen
    obtain ⟨same, isOpen⟩ := Bool.and_eq_true_iff.mp chosen
    exact shut ((tracks.opens _ asks).mpr ⟨row, listed, of_decide_eq_true same, isOpen⟩)
  have kept : current.map (fun row =>
      if writes.chooses entry row then writes.write entry row else row) = current := by
    conv_rhs => rw [← List.map_id current]
    apply List.map_congr_left
    intro row listed
    rw [unchosen row listed]
    rfl
  rw [one, kept, List.any_eq_false.mpr]
  intro row listed
  rw [unchosen row listed]
  exact Bool.false_ne_true

/-- An entry whose key is open is written. -/
theorem Tracks.take (tracks : writes.Tracks asked rows current opened written)
    (distinct : (rows.map writes.rowKey).Nodup) (asks : asked (writes.entryKey entry))
    (isOpen : opened (writes.entryKey entry)) :
    (writes.one current entry).1 = true ∧
      writes.Tracks asked rows (writes.one current entry).2
        (fun key => if key = writes.entryKey entry then writes.leaves entry = true else opened key)
        (fun key => if key = writes.entryKey entry then some entry else written key) := by
  obtain ⟨row, listed, same, open_⟩ := (tracks.opens _ asks).mp isOpen
  have chosen : writes.chooses entry row = true := by
    simp [chooses, same, open_]
  have image : (writes.one current entry).2 = rows.map (writes.latest fun key =>
      if key = writes.entryKey entry then some entry else written key) := by
    rw [one, tracks.image, List.map_map]
    apply List.map_congr_left
    intro row listed
    rw [Function.comp_apply]
    by_cases own : writes.rowKey row = writes.entryKey entry
    · -- The one row of the key is open still.
      have still := tracks.isOpen_latest distinct listed (own ▸ asks) (own ▸ isOpen)
      have chosen : writes.chooses entry (writes.latest written row) = true := by
        simp [chooses, rowKey_latest, own, still]
      rw [if_pos chosen, tracks.write_latest row (own ▸ asks) (own ▸ isOpen)]
      simp [latest, own]
    · have unchosen : writes.chooses entry (writes.latest written row) = false := by
        simp [chooses, rowKey_latest, own]
      rw [unchosen]
      simp [latest, own]
  constructor
  · rw [one, List.any_eq_true]
    exact ⟨row, listed, chosen⟩
  · constructor
    · exact image
    · intro key asks'
      by_cases own : key = writes.entryKey entry
      · subst own
        simp only [if_true]
        constructor
        · intro leaves
          refine ⟨writes.write entry row, ?_, ?_, ?_⟩
          · rw [one]
            apply List.mem_map.mpr
            exact ⟨row, listed, by rw [if_pos chosen]⟩
          · rw [writes.rowKey_write, same]
          · rw [writes.isOpen_write, leaves]
        · rintro ⟨later, found, same', open'⟩
          rw [image] at found
          obtain ⟨first, _, rfl⟩ := List.mem_map.mp found
          rw [rowKey_latest] at same'
          rw [latest, same', if_pos rfl] at open'
          rwa [← writes.isOpen_write entry first]
      · rw [if_neg own, tracks.opens key asks', image, tracks.image]
        simp only [List.mem_map, exists_exists_and_eq_and, rowKey_latest]
        apply exists_congr
        intro first
        apply and_congr_right
        intro _
        apply and_congr_right
        intro same'
        simp [latest, same', own]
    · intro key asks' isOpen' later found
      by_cases own : key = writes.entryKey entry
      · rw [if_pos own] at isOpen' found
        obtain rfl := Option.some.inj found
        exact isOpen'
      · rw [if_neg own] at isOpen' found
        exact tracks.left key asks' isOpen' later found
    · intro key later found
      by_cases own : key = writes.entryKey entry
      · rw [tracks.image] at listed
        obtain ⟨first, stored, rfl⟩ := List.mem_map.mp listed
        rw [rowKey_latest] at same
        exact List.mem_map.mpr ⟨first, stored, by rw [same, own]⟩
      · rw [if_neg own] at found
        exact tracks.known key later found

end Writes

/-- A batch that decides the entries in memory, and keeps what is to be upserted. -/
structure Batch [DecidableEq Key] (writes : Writes Key Row Entry) (merge : Row → Row → Row)
    (State : Type) where
  opened : State → Key → Prop
  wrote : State → List Bool
  excluded : State → List Row
  step : State → Entry → State
  keeps : ∀ row excluded, writes.rowKey row = writes.rowKey excluded →
    writes.rowKey (merge row excluded) = writes.rowKey row
  skip : ∀ state entry, ¬ opened state (writes.entryKey entry) →
    wrote (step state entry) = wrote state ++ [false] ∧
      (∀ key, opened (step state entry) key ↔ opened state key) ∧
      excluded (step state entry) = excluded state
  take : ∀ state entry, opened state (writes.entryKey entry) →
    -- Where every entry shuts its row, no row is kept twice.
    ((∀ entry, writes.leaves entry = false) →
      writes.entryKey entry ∉ (excluded state).map writes.rowKey) →
    wrote (step state entry) = wrote state ++ [true] ∧
      (∀ key, opened (step state entry) key ↔
        if key = writes.entryKey entry then writes.leaves entry = true else opened state key) ∧
      ∃ inserted, writes.rowKey inserted = writes.entryKey entry ∧
        (∀ row, writes.rowKey row = writes.entryKey entry →
          merge row inserted = writes.write entry row) ∧
        excluded (step state entry) =
          upsertRow writes.rowKey (fun _ each => each) (excluded state) inserted

namespace Batch

variable [DecidableEq Key] {writes : Writes Key Row Entry} {merge : Row → Row → Row}
  {State : Type} {asked : Key → Prop} {rows current : List Row} {written : Key → Option Entry}

/-- What is known of a batch after some entries. -/
structure Fits (batch : Batch writes merge State) (asked : Key → Prop) (rows current : List Row)
    (state : State) (written : Key → Option Entry) : Prop where
  tracks : writes.Tracks asked rows current (batch.opened state) written
  distinct : ((batch.excluded state).map writes.rowKey).Nodup
  kept : ∀ key, key ∈ (batch.excluded state).map writes.rowKey ↔ (written key).isSome
  image : ∀ row, merged writes.rowKey merge (batch.excluded state) row = writes.latest written row

variable {batch : Batch writes merge State} {state : State} {entry : Entry}

/-- One entry is decided as the write of its row is. -/
theorem Fits.step (fits : batch.Fits asked rows current state written)
    (primary : (rows.map writes.rowKey).Nodup) (asks : asked (writes.entryKey entry)) :
    batch.wrote (batch.step state entry) =
        batch.wrote state ++ [(writes.one current entry).1] ∧
      ∃ written', batch.Fits asked rows (writes.one current entry).2 (batch.step state entry)
        written' := by
  by_cases isOpen : batch.opened state (writes.entryKey entry)
  · have fresh : (∀ entry, writes.leaves entry = false) →
        writes.entryKey entry ∉ (batch.excluded state).map writes.rowKey := by
      intro shuts listed
      obtain ⟨earlier, before⟩ := Option.isSome_iff_exists.mp ((fits.kept _).mp listed)
      have left := fits.tracks.left _ asks isOpen earlier before
      rw [shuts earlier] at left
      cases left
    obtain ⟨verdict, opens, inserted, own, merges, excluded⟩ := batch.take state entry isOpen fresh
    obtain ⟨took, tracks⟩ := fits.tracks.take primary asks isOpen
    have same : batch.opened (batch.step state entry) = fun key =>
        if key = writes.entryKey entry then writes.leaves entry = true
        else batch.opened state key := by
      funext key
      exact propext (opens key)
    rw [verdict, took]
    refine ⟨rfl, fun key => if key = writes.entryKey entry then some entry else written key,
      ?_, ?_, ?_, ?_⟩
    · rw [same]
      exact tracks
    · rw [excluded, keys_replace]
      split
      · exact fits.distinct
      · rename_i unlisted
        rw [← List.concat_eq_append]
        exact fits.distinct.concat unlisted
    · intro key
      rw [excluded, keys_replace, own]
      by_cases here : key = writes.entryKey entry
      · rw [if_pos here, here]
        split <;> simp_all
      · rw [if_neg here, ← fits.kept key]
        split <;> simp_all
    · intro row
      rw [excluded, merged_replace, own]
      by_cases here : writes.rowKey row = writes.entryKey entry
      · rw [if_pos here, merges row here]
        simp [Writes.latest, here]
      · rw [if_neg here, fits.image row]
        simp [Writes.latest, here]
  · obtain ⟨verdict, opens, excluded⟩ := batch.skip state entry isOpen
    have same : batch.opened (batch.step state entry) = batch.opened state := by
      funext key
      exact propext (opens key)
    rw [fits.tracks.skip asks isOpen]
    refine ⟨verdict, written, ?_, ?_, ?_, ?_⟩
    · rw [same]
      exact fits.tracks
    · rw [excluded]
      exact fits.distinct
    · rw [excluded]
      exact fits.kept
    · rw [excluded]
      exact fits.image

/-- A batch is decided as the writes one after the other are. -/
theorem Fits.run (fits : batch.Fits asked rows current state written)
    (primary : (rows.map writes.rowKey).Nodup) (entries : List Entry)
    (asks : ∀ entry ∈ entries, asked (writes.entryKey entry)) :
    batch.wrote (entries.foldl batch.step state) =
        batch.wrote state ++ (writes.each entries current).1 ∧
      ∃ written', batch.Fits asked rows (writes.each entries current).2
        (entries.foldl batch.step state) written' := by
  induction entries generalizing current state written with
  | nil => exact ⟨by rw [Writes.each, List.append_nil]; rfl, written, fits⟩
  | cons first rest ih =>
    obtain ⟨verdict, written', next⟩ := fits.step primary (asks first List.mem_cons_self)
    obtain ⟨verdicts, last⟩ := ih next fun entry listed =>
      asks entry (List.mem_cons_of_mem _ listed)
    rw [List.foldl_cons, Writes.each]
    refine ⟨?_, last⟩
    rw [verdicts, verdict, List.append_assoc]
    rfl

/-- What a batch upserts makes of the rows what the writes one after the other make of them. -/
theorem Fits.upsert (fits : batch.Fits asked rows current state written) {size : Nat}
    (positive : 0 < size) :
    upsertSlices writes.rowKey merge size rows (batch.excluded state) = some current := by
  rw [upsertSlices_eq positive batch.keeps fits.distinct, fits.tracks.image]
  · congr 1
    apply List.map_congr_left
    intro row _
    exact fits.image row
  · intro each listed
    have kept := (fits.kept (writes.rowKey each)).mp (List.mem_map_of_mem listed)
    obtain ⟨entry, before⟩ := Option.isSome_iff_exists.mp kept
    exact fits.tracks.known _ entry before

/-- A batch that begins with the open rows it asks for, and nothing kept, gives the verdicts and
the rows of the writes one after the other. -/
theorem eq_each (batch : Batch writes merge State) {size : Nat} (positive : 0 < size)
    (primary : (rows.map writes.rowKey).Nodup) (entries : List Entry)
    (none : batch.excluded state = []) (wrote : batch.wrote state = [])
    (opens : ∀ entry ∈ entries, batch.opened state (writes.entryKey entry) ↔
      ∃ row ∈ rows, writes.rowKey row = writes.entryKey entry ∧ writes.isOpen row) :
    batch.wrote (entries.foldl batch.step state) = (writes.each entries rows).1 ∧
      upsertSlices writes.rowKey merge size rows
          (batch.excluded (entries.foldl batch.step state)) =
        some (writes.each entries rows).2 := by
  have begins : batch.Fits (fun key => ∃ entry ∈ entries, writes.entryKey entry = key) rows rows
      state fun _ => Option.none := by
    constructor
    · apply Writes.tracks_nil
      rintro key ⟨entry, listed, rfl⟩
      exact opens entry listed
    · simp [none]
    · simp [none]
    · intro row
      simp [none, merged, Writes.latest]
  obtain ⟨verdicts, written, ends⟩ := begins.run primary entries
    fun entry listed => ⟨entry, listed, rfl⟩
  refine ⟨?_, ends.upsert positive⟩
  rw [verdicts, wrote, List.nil_append]

end Batch

end Writes

end Sql
