import Mathlib.Data.List.Perm.Basic
import Mathlib.Data.List.Sort

/-! Entries of a list: by number as it grows and changes, by rank, and by what its keys have. -/

namespace Interleaving

section Numbers

variable {Entry : Type} {list later : List Entry} {number other : Nat}
  {entry last after : Entry} {edit : Entry → Entry}

/-- A list that has grown has the same entries. -/
theorem getElem?_append_of_some (found : list[number]? = some entry) :
    (list ++ later)[number]? = some entry := by
  have within := (List.getElem?_eq_some_iff.mp found).1
  rw [List.getElem?_append_left within]
  exact found

/-- An entry of a list that has grown by one was there before, or is the last. -/
theorem getElem?_concat_eq_some (found : (list ++ [last])[number]? = some entry) :
    list[number]? = some entry ∨ number = list.length ∧ entry = last := by
  have within := (List.getElem?_eq_some_iff.mp found).1
  rw [List.length_append, List.length_singleton] at within
  rcases Nat.lt_or_eq_of_le (Nat.le_of_lt_succ within) with before | rfl
  · -- The number is one of the shorter list.
    rw [List.getElem?_append_left before] at found
    exact .inl found
  · -- The number is the one after the shorter list's.
    rw [List.getElem?_concat_length] at found
    exact .inr ⟨rfl, (Option.some.inj found).symm⟩

/-- An entry of a list with one entry replaced is the new one, or was there before. -/
theorem getElem?_set_cases (found : (list.set number entry)[other]? = some after) :
    (other = number ∧ after = entry) ∨ other ≠ number ∧ list[other]? = some after := by
  by_cases same : other = number
  · subst same
    have within := (List.getElem?_eq_some_iff.mp found).1
    rw [List.length_set] at within
    rw [List.getElem?_set_self within] at found
    exact .inl ⟨rfl, (Option.some.inj found).symm⟩
  · rw [List.getElem?_set_ne (Ne.symm same)] at found
    exact .inr ⟨same, found⟩

/-- An entry of a list with one entry edited is the edited one, or was there before. -/
theorem getElem?_modify_cases (found : (list.modify number edit)[other]? = some after) :
    (other = number ∧ ∃ before, list[number]? = some before ∧ after = edit before) ∨
      other ≠ number ∧ list[other]? = some after := by
  by_cases same : other = number
  · subst same
    left
    rw [List.getElem?_modify_eq, Option.map_eq_map, Option.map_eq_some_iff] at found
    obtain ⟨before, listed, rfl⟩ := found
    exact ⟨rfl, before, listed, rfl⟩
  · rw [List.getElem?_modify_ne _ _ (Ne.symm same)] at found
    exact .inr ⟨same, found⟩

end Numbers

section Ranks

variable {α : Type} {before : α → α → Prop} {sorted : List α} {element : α}

/-- An element few others come before is among the first of a sorted list. -/
theorem mem_take_of_few (ranked : sorted.Pairwise before) (member : element ∈ sorted)
    (ahead : α → Bool)
    (counted : ∀ other ∈ sorted, before other element → other ≠ element → ahead other = true)
    {count : Nat} (few : (sorted.filter ahead).length < count) : element ∈ sorted.take count := by
  obtain ⟨front, rest, rfl, fresh⟩ := List.eq_append_cons_of_mem member
  have all : front.filter ahead = front := by
    refine List.filter_eq_self.mpr fun other listed => ?_
    have earlier := (List.pairwise_append.mp ranked).2.2 other listed element List.mem_cons_self
    exact counted other (List.mem_append_left _ listed) earlier fun same => fresh (same ▸ listed)
  have short : front.length < count := by
    rw [List.filter_append, all, List.length_append] at few
    omega
  refine List.mem_take_iff_getElem.mpr ⟨front.length, ?_, ?_⟩
  · simp only [List.length_append, List.length_cons]
    omega
  · simp

/-- Few elements come strictly before one of the first of a sorted list. -/
theorem few_of_mem_take (ranked : sorted.Pairwise before) {count : Nat}
    (first : element ∈ sorted.take count) (ahead : α → Bool)
    (counted : ∀ other, ahead other = true → ¬ before element other ∧ other ≠ element) :
    (sorted.filter ahead).length < count := by
  obtain ⟨index, within, here⟩ := List.mem_take_iff_getElem.mp first
  have inside : index < sorted.length := by omega
  have parts : sorted = sorted.take index ++ element :: sorted.drop (index + 1) := by
    rw [← here, List.getElem_cons_drop, List.take_append_drop]
  have none_ : (element :: sorted.drop (index + 1)).filter ahead = [] := by
    refine List.filter_eq_nil_iff.mpr fun other listed strictly => ?_
    obtain ⟨later, different⟩ := counted other strictly
    rw [parts] at ranked
    rcases List.mem_cons.mp listed with same | behind
    · exact different same
    · exact later (List.rel_of_pairwise_cons (List.pairwise_append.mp ranked).2.1 behind)
  have length := congrArg (fun list => (list.filter ahead).length) parts
  simp only [List.filter_append, none_, List.append_nil] at length
  rw [length]
  have shorter := List.length_filter_le ahead (sorted.take index)
  rw [List.length_take] at shorter
  omega

end Ranks

section Tallies

/-- Giving one key of a list a value adds that value to what the list's keys have. -/
theorem filterMap_perm_cons {K V : Type} {keys : List K} {before after : K → Option V} {key : K}
    {value : V} (distinct : keys.Nodup) (member : key ∈ keys) (absent : before key = none)
    (present : after key = some value) (same : ∀ other, other ≠ key → after other = before other) :
    (keys.filterMap after).Perm (value :: keys.filterMap before) := by
  induction keys with
  | nil => cases member
  | cons other rest ih =>
    have apart := List.nodup_cons.mp distinct
    by_cases here : other = key
    · subst here
      -- The key is no other key of the list, so the rest has what it had.
      have rest_same : rest.filterMap after = rest.filterMap before :=
        List.filterMap_congr fun later found => same later fun equal => apart.1 (equal ▸ found)
      simp [present, absent, rest_same]
    · have inner := ih apart.2 ((List.mem_cons.mp member).resolve_left (Ne.symm here))
      cases held : before other with
      | none => simpa [same other here, held] using inner
      | some old =>
        simp only [List.filterMap_cons, same other here, held]
        exact (inner.cons old).trans (List.Perm.swap value old _)

/-- Where two conditions differ at one key at most, so do the numbers of keys that meet them. -/
theorem filter_length_of_differ {K : Type} [DecidableEq K] (before after : K → Bool) (key : K)
    {keys : List K} (distinct : keys.Nodup) (same : ∀ other, other ≠ key → after other = before other) :
    (keys.filter after).length + (if key ∈ keys ∧ before key then 1 else 0) =
      (keys.filter before).length + if key ∈ keys ∧ after key then 1 else 0 := by
  induction keys with
  | nil => simp
  | cons other rest ih =>
    obtain ⟨apart, later⟩ := List.nodup_cons.mp distinct
    have inner := ih later
    by_cases here : other = key
    · -- The key is no other key of the list, so the rest has what it had.
      subst here
      simp only [apart, false_and, if_false, Nat.add_zero] at inner
      cases old : before other <;> cases new : after other <;> simp [old, new, inner]
    · have kept := same other here
      have elsewhere : key ∈ other :: rest ↔ key ∈ rest := by simp [Ne.symm here]
      simp only [elsewhere, List.filter_cons, kept]
      cases held : before other
      · simpa using inner
      · simp only [if_true, List.length_cons]
        omega

end Tallies

end Interleaving
