/-! Finite tables in insertion order, as a shared state keeps them. -/

namespace Interleaving

/-- A finite table: its rows in the order they were first written. -/
structure Table (K V : Type) where
  rows : List (K × V)
deriving Repr, DecidableEq

namespace Table

variable {K V : Type} [DecidableEq K] {key other : K} {value : V} {table : Table K V}

/-- The table without rows. -/
def empty : Table K V := ⟨[]⟩

instance : Inhabited (Table K V) := ⟨empty⟩

/-- The value stored under a key in a list of rows. -/
def getRow (key : K) : List (K × V) → Option V
  | [] => none
  | (other, value) :: rest => if other = key then some value else getRow key rest

/-- Write a value under a key: in place where the key has a row, else as a new last row. -/
def setRow (key : K) (value : V) : List (K × V) → List (K × V)
  | [] => [(key, value)]
  | (other, held) :: rest =>
    if other = key then (key, value) :: rest else (other, held) :: setRow key value rest

/-- Drop the rows of a key from a list of rows. -/
def eraseRow (key : K) : List (K × V) → List (K × V)
  | [] => []
  | (other, held) :: rest =>
    if other = key then eraseRow key rest else (other, held) :: eraseRow key rest

/-- The value stored under a key. -/
def get (table : Table K V) (key : K) : Option V := getRow key table.rows

/-- Write a value under a key. -/
def set (table : Table K V) (key : K) (value : V) : Table K V := ⟨setRow key value table.rows⟩

/-- Drop the rows of a key. -/
def erase (table : Table K V) (key : K) : Table K V := ⟨eraseRow key table.rows⟩

/-- The values of the table, in row order. -/
def values (table : Table K V) : List V := table.rows.map Prod.snd

/-- Change every value of the table. -/
def update (table : Table K V) (change : V → V) : Table K V :=
  ⟨table.rows.map fun row => (row.1, change row.2)⟩

/-- The keys of a list of rows, each once. -/
def keyRows : List (K × V) → List K
  | [] => []
  | (key, _) :: rest => key :: (keyRows rest).filter (· ≠ key)

/-- The keys of the table, each once, in row order. -/
def keys (table : Table K V) : List K := keyRows table.rows

/-- The values stored under the keys, in row order. -/
def stored (table : Table K V) : List V := table.keys.filterMap table.get

/-- Nothing is stored in the empty table. -/
@[simp] theorem get_empty (key : K) : (empty : Table K V).get key = none := rfl

/-- Writing a key changes what is stored under it, and nothing else. -/
theorem get_set (table : Table K V) (key other : K) (value : V) :
    (table.set key value).get other = if key = other then some value else table.get other := by
  obtain ⟨rows⟩ := table
  simp only [get, set]
  -- The written row replaces the first row of its key, or comes last.
  induction rows with
  | nil => simp [setRow, getRow]
  | cons row rest ih =>
    obtain ⟨held, old⟩ := row
    simp only [setRow]
    split
    · rename_i same
      subst same
      by_cases here : held = other <;> simp [getRow, here]
    · rename_i different
      by_cases here : held = other
      · subst here
        simp [getRow, Ne.symm different]
      · simp [getRow, here, ih]

/-- What was written under a key is stored there. -/
@[simp] theorem get_set_self (table : Table K V) (key : K) (value : V) :
    (table.set key value).get key = some value := by
  simp [get_set]

/-- Writing one key leaves another alone. -/
theorem get_set_ne (table : Table K V) (value : V) (different : key ≠ other) :
    (table.set key value).get other = table.get other := by
  simp [get_set, different]

/-- Dropping a key leaves nothing under it, and every other key alone. -/
theorem get_erase (table : Table K V) (key other : K) :
    (table.erase key).get other = if key = other then none else table.get other := by
  obtain ⟨rows⟩ := table
  simp only [get, erase]
  induction rows with
  | nil => simp [eraseRow, getRow]
  | cons row rest ih =>
    obtain ⟨held, old⟩ := row
    by_cases same : held = key
    · -- A dropped row answered only for its own key.
      by_cases here : held = other <;> simp_all [eraseRow, getRow]
    · by_cases here : held = other
      · subst here
        simp [eraseRow, getRow, same, Ne.symm same]
      · simp [eraseRow, getRow, same, here, ih]

/-- Nothing is stored under a dropped key. -/
@[simp] theorem get_erase_self (table : Table K V) (key : K) :
    (table.erase key).get key = none := by
  simp [get_erase]

/-- Dropping one key leaves another alone. -/
theorem get_erase_ne (table : Table K V) (different : key ≠ other) :
    (table.erase key).get other = table.get other := by
  simp [get_erase, different]

/-- What is stored under a key where every value is changed. -/
theorem getRow_map {W : Type} (change : V → W) (key : K) (rows : List (K × V)) :
    getRow key (rows.map fun row => (row.1, change row.2)) = (getRow key rows).map change := by
  induction rows with
  | nil => rfl
  | cons row rest ih =>
    obtain ⟨held, old⟩ := row
    by_cases here : held = key <;> simp [getRow, here, ih]

/-- What is stored under a key changes with every value. -/
@[simp] theorem get_update (table : Table K V) (change : V → V) (key : K) :
    (table.update change).get key = (table.get key).map change :=
  getRow_map change key table.rows

/-- No key is listed twice. -/
theorem keys_nodup (table : Table K V) : table.keys.Nodup := by
  obtain ⟨rows⟩ := table
  simp only [keys]
  induction rows with
  | nil => exact List.nodup_nil
  | cons row rest ih => exact List.nodup_cons.mpr ⟨by simp, ih.filter _⟩

/-- The keys that are listed are those something is stored under. -/
theorem mem_keys (table : Table K V) (key : K) :
    key ∈ table.keys ↔ (table.get key).isSome = true := by
  obtain ⟨rows⟩ := table
  simp only [keys, get]
  induction rows with
  | nil => simp [keyRows, getRow]
  | cons row rest ih =>
    obtain ⟨held, old⟩ := row
    by_cases here : held = key
    · simp [keyRows, getRow, here]
    · simp [keyRows, getRow, here, Ne.symm here, ih]

/-- The stored values are those stored under some key. -/
theorem mem_stored (table : Table K V) (value : V) :
    value ∈ table.stored ↔ ∃ key, table.get key = some value := by
  refine List.mem_filterMap.trans ⟨fun ⟨key, _, found⟩ => ⟨key, found⟩, fun ⟨key, found⟩ => ?_⟩
  exact ⟨key, (table.mem_keys key).mpr (by simp [found]), found⟩

/-- What is stored under a key is in a row of the key. -/
theorem mem_rows (table : Table K V) (found : table.get key = some value) :
    (key, value) ∈ table.rows := by
  obtain ⟨rows⟩ := table
  simp only [get] at found ⊢
  induction rows with
  | nil => cases found
  | cons row rest ih =>
    obtain ⟨held, old⟩ := row
    by_cases here : held = key
    · simp only [getRow, if_pos here, Option.some.injEq] at found
      simp [here, found]
    · simp only [getRow, if_neg here] at found
      exact List.mem_cons_of_mem _ (ih found)

/-- Writing a key that has a value leaves the keys. -/
theorem keys_set_known (table : Table K V) (value : V) (known : (table.get key).isSome = true) :
    (table.set key value).keys = table.keys := by
  obtain ⟨rows⟩ := table
  simp only [keys, get, set] at known ⊢
  induction rows with
  | nil => cases known
  | cons row rest ih =>
    obtain ⟨held, old⟩ := row
    by_cases here : held = key
    · simp [setRow, keyRows, here]
    · simp only [setRow, getRow, if_neg here] at known ⊢
      simp only [keyRows, ih known]

/-- Writing a key that has no value adds it to the keys, as the last one. -/
theorem keys_set_new (table : Table K V) (value : V) (absent : table.get key = none) :
    (table.set key value).keys = table.keys ++ [key] := by
  obtain ⟨rows⟩ := table
  simp only [keys, get, set] at absent ⊢
  induction rows with
  | nil => rfl
  | cons row rest ih =>
    obtain ⟨held, old⟩ := row
    by_cases here : held = key
    · simp [getRow, here] at absent
    · simp only [setRow, getRow, if_neg here] at absent ⊢
      simp only [keyRows, ih absent, List.filter_append, List.cons_append]
      simp [Ne.symm here]

/-- No key has two rows. -/
def Distinct (table : Table K V) : Prop := (table.rows.map Prod.fst).Nodup

omit [DecidableEq K] in
/-- The empty table has no rows at all. -/
theorem distinct_empty : (empty : Table K V).Distinct := List.nodup_nil

/-- Writing a key touches its own row, or adds one. -/
theorem mem_setRow_keys (rows : List (K × V)) :
    other ∈ (setRow key value rows).map Prod.fst ↔ other = key ∨ other ∈ rows.map Prod.fst := by
  induction rows with
  | nil => simp [setRow]
  | cons row rest ih =>
    obtain ⟨held, old⟩ := row
    by_cases here : held = key
    · simp [setRow, here]
    · simp only [setRow, if_neg here, List.map_cons, List.mem_cons, ih]
      exact or_left_comm

/-- Writing a key gives no key a second row. -/
theorem Distinct.set (distinct : table.Distinct) (key : K) (value : V) :
    (table.set key value).Distinct := by
  obtain ⟨rows⟩ := table
  simp only [Distinct, Table.set] at distinct ⊢
  induction rows with
  | nil => simp [setRow]
  | cons row rest ih =>
    obtain ⟨held, old⟩ := row
    obtain ⟨fresh, rested⟩ := List.nodup_cons.mp distinct
    by_cases here : held = key
    · subst here
      simpa [setRow] using And.intro (by simpa using fresh) rested
    · -- The key is written behind the first row, whose key is another one.
      simp only [setRow, if_neg here, List.map_cons]
      refine List.nodup_cons.mpr ⟨fun member => ?_, ih rested⟩
      rcases (mem_setRow_keys rest).mp member with same | member
      · exact here same
      · exact fresh member

/-- The rows that are left of a key's erasure are those of the others. -/
theorem eraseRow_eq_filter (key : K) (rows : List (K × V)) :
    eraseRow key rows = rows.filter fun row => decide (row.1 ≠ key) := by
  induction rows with
  | nil => rfl
  | cons row rest ih =>
    obtain ⟨held, old⟩ := row
    by_cases here : held = key <;> simp [eraseRow, here, ih]

/-- Dropping a key gives no key a second row. -/
theorem Distinct.erase (distinct : table.Distinct) (key : K) : (table.erase key).Distinct := by
  simp only [Distinct, Table.erase, eraseRow_eq_filter]
  exact List.Nodup.sublist (List.Sublist.map _ List.filter_sublist) distinct

/-- Where no key has two rows, the rows are what is stored under their keys. -/
theorem Distinct.mem_rows_iff (distinct : table.Distinct) :
    (key, value) ∈ table.rows ↔ table.get key = some value := by
  refine ⟨fun member => ?_, table.mem_rows⟩
  obtain ⟨rows⟩ := table
  simp only [Distinct, get] at distinct member ⊢
  induction rows with
  | nil => cases member
  | cons row rest ih =>
    obtain ⟨held, old⟩ := row
    obtain ⟨fresh, rested⟩ := List.nodup_cons.mp distinct
    rcases List.mem_cons.mp member with same | member
    · cases same
      simp [getRow]
    · have listed : key ∈ rest.map Prod.fst := List.mem_map.mpr ⟨_, member, rfl⟩
      have other : held ≠ key := fun same => fresh (same ▸ listed)
      simpa [getRow, other] using ih rested member

/-- The values of the rows are what is stored under some key. -/
theorem Distinct.mem_values (distinct : table.Distinct) :
    value ∈ table.values ↔ ∃ key, table.get key = some value := by
  refine List.mem_map.trans ⟨?_, ?_⟩
  · rintro ⟨⟨key, held⟩, listed, rfl⟩
    exact ⟨key, distinct.mem_rows_iff.mp listed⟩
  · rintro ⟨key, found⟩
    exact ⟨(key, value), table.mem_rows found, rfl⟩

/-- Writing a key that has no value adds a row as the last one. -/
theorem rows_set_new (table : Table K V) (value : V) (absent : table.get key = none) :
    (table.set key value).rows = table.rows ++ [(key, value)] := by
  obtain ⟨rows⟩ := table
  simp only [get, set] at absent ⊢
  induction rows with
  | nil => rfl
  | cons row rest ih =>
    obtain ⟨held, old⟩ := row
    by_cases here : held = key
    · simp [getRow, here] at absent
    · simp only [setRow, getRow, if_neg here] at absent ⊢
      simp only [List.cons_append, ih absent]

/-- Writing a key that has no value adds the value as the last one. -/
theorem values_set_new (table : Table K V) (value : V) (absent : table.get key = none) :
    (table.set key value).values = table.values ++ [value] := by
  simp [values, table.rows_set_new value absent]

/-- Where no key has two rows, dropping the first row's key leaves the other rows. -/
theorem Distinct.rows_erase_head (distinct : table.Distinct) {rest : List (K × V)}
    (first : table.rows = (key, value) :: rest) : (table.erase key).rows = rest := by
  simp only [Distinct, first, List.map_cons, List.nodup_cons] at distinct
  simp only [Table.erase, first, eraseRow_eq_filter, List.filter_cons, ne_eq, not_true_eq_false,
    decide_false, Bool.false_eq_true, if_false]
  apply List.filter_eq_self.mpr
  intro row listed
  -- A later row has another key.
  have other : row.1 ≠ key := by
    intro same
    exact distinct.1 (same ▸ List.mem_map_of_mem listed)
  simpa using other

/-- Writing a key that has a value puts the new value in the place of the old one. -/
theorem length_filter_set (table : Table K V) {old : V} (found : table.get key = some old)
    (value : V) (counts : V → Bool) :
    ((table.set key value).values.filter counts).length + (if counts old then 1 else 0) =
      (table.values.filter counts).length + (if counts value then 1 else 0) := by
  obtain ⟨rows⟩ := table
  simp only [values, get, set] at found ⊢
  induction rows with
  | nil => cases found
  | cons row rest ih =>
    obtain ⟨held, first⟩ := row
    by_cases here : held = key
    · simp only [getRow, if_pos here, Option.some.injEq] at found
      subst found
      simp only [setRow, if_pos here, List.map_cons, List.filter_cons]
      split <;> split <;> simp
    · simp only [setRow, getRow, if_neg here] at found ⊢
      simp only [List.map_cons, List.filter_cons]
      have rested := ih found
      split
      · simp only [List.length_cons]
        omega
      · exact rested

end Table

end Interleaving
