import Mathlib.Algebra.BigOperators.Group.List.Basic
import Mathlib.Data.List.Induction
import Mathlib.Data.List.Nodup

/-! Entries collected under keys, the keys in the order they are first met, totals over them, and
what is kept of the items met so far. -/

namespace Durable

namespace Grouping

variable {Item Key Entry Image Total : Type} {items : List Item} {item : Item}

section Firsts

variable [DecidableEq Item]

/-- The distinct items of a list, each at its first place. -/
def firsts (items : List Item) : List Item :=
  items.foldl (fun seen item => if item ∈ seen then seen else seen ++ [item]) []

@[simp]
theorem firsts_nil : firsts ([] : List Item) = [] := rfl

/-- One more item is a new first, or it has been met. -/
theorem firsts_concat (items : List Item) (item : Item) :
    firsts (items ++ [item]) =
      if item ∈ firsts items then firsts items else firsts items ++ [item] := by
  unfold firsts
  rw [List.foldl_append]
  rfl

/-- The firsts of a list are its items. -/
@[simp]
theorem mem_firsts : item ∈ firsts items ↔ item ∈ items := by
  induction items using List.reverseRecOn with
  | nil => simp
  | append_singleton items last ih =>
    rw [firsts_concat]
    by_cases met : last ∈ firsts items
    · -- The last item adds no member.
      rw [if_pos met, ih, List.mem_append, List.mem_singleton]
      constructor
      · exact Or.inl
      · intro either
        rcases either with listed | same
        · exact listed
        · exact ih.mp (same ▸ met)
    · rw [if_neg met, List.mem_append, List.mem_append, ih]

/-- No item is listed twice among the firsts. -/
theorem nodup_firsts (items : List Item) : (firsts items).Nodup := by
  induction items using List.reverseRecOn with
  | nil => simp
  | append_singleton items last ih =>
    rw [firsts_concat]
    by_cases met : last ∈ firsts items
    · rw [if_pos met]
      exact ih
    · rw [if_neg met]
      rw [← List.concat_eq_append]
      exact ih.concat met

/-- The firsts of a longer list begin with the firsts of its beginning. -/
theorem firsts_append (items more : List Item) :
    firsts (items ++ more) =
      firsts items ++ (firsts more).filter (fun item => decide (item ∉ items)) := by
  induction more using List.reverseRecOn with
  | nil => simp
  | append_singleton more last ih =>
    rw [← List.append_assoc, firsts_concat, ih, firsts_concat]
    -- The last item is met in the beginning, in the rest, or not at all.
    by_cases early : last ∈ items
    · by_cases late : last ∈ more
      · simp [early, late]
      · simp [early, late]
    · by_cases late : last ∈ more
      · simp [early, late]
      · simp [early, late]

/-- A list without repeats is its own firsts. -/
theorem firsts_eq_self (distinct : items.Nodup) : firsts items = items := by
  induction items using List.reverseRecOn with
  | nil => simp
  | append_singleton items last ih =>
    rw [List.nodup_append] at distinct
    obtain ⟨before, -, apart⟩ := distinct
    have fresh : last ∉ firsts items := by
      rw [mem_firsts]
      intro listed
      exact apart last listed last (by simp) rfl
    rw [firsts_concat, if_neg fresh, ih before]

/-- The firsts of a list and the list itself have the same firsts once both are mapped. -/
theorem firsts_filterMap [DecidableEq Image] (image : Item → Option Image) (items : List Item) :
    firsts ((firsts items).filterMap image) = firsts (items.filterMap image) := by
  induction items using List.reverseRecOn with
  | nil => simp
  | append_singleton items last ih =>
    rw [firsts_concat, List.filterMap_append]
    by_cases met : last ∈ firsts items
    · rw [if_pos met, ih]
      -- A repeated item has a repeated image.
      cases seen : image last with
      | none => simp [seen]
      | some value =>
        have repeated : value ∈ firsts (items.filterMap image) := by
          rw [mem_firsts, List.mem_filterMap]
          exact ⟨last, mem_firsts.mp met, seen⟩
        simp only [List.filterMap_cons, seen, List.filterMap_nil]
        rw [firsts_concat, if_pos repeated]
    · rw [if_neg met, List.filterMap_append]
      cases seen : image last with
      | none => simpa [seen] using ih
      | some value =>
        simp only [List.filterMap_cons, seen, List.filterMap_nil]
        rw [firsts_concat, firsts_concat, ih]

end Firsts

section Totals

variable [AddCommMonoid Total]

/-- The sum over chosen items is the sum over all with nothing for the others. -/
theorem sum_filter (chosen : Item → Bool) (share : Item → Total) (items : List Item) :
    ((items.filter chosen).map share).sum =
      (items.map fun item => if chosen item then share item else 0).sum := by
  induction items with
  | nil => rfl
  | cons item rest ih => by_cases taken : chosen item <;> simp [taken, ih]

/-- A walk that adds shares ends with their sum. -/
theorem foldl_shares {walk : Total → Item → Total} {share : Item → Total}
    (adds : ∀ total item, walk total item = total + share item) (items : List Item)
    (total : Total) : items.foldl walk total = total + (items.map share).sum := by
  induction items generalizing total with
  | nil => simp
  | cons item rest ih => rw [List.foldl_cons, ih, adds, List.map_cons, List.sum_cons, add_assoc]

end Totals

section Collect

variable [DecidableEq Key]

/-- Store under a key what its entry becomes; a new key goes last. -/
def upsert (key : Key) (change : Option Entry → Entry) : List (Key × Entry) → List (Key × Entry)
  | [] => [(key, change none)]
  | (other, entry) :: rest =>
    if other = key then (other, change (some entry)) :: rest
    else (other, entry) :: upsert key change rest

/-- Collect items under their keys; an item without a key is passed over. -/
def collect (keyOf : Item → Option Key) (step : Option Entry → Item → Entry)
    (items : List Item) : List (Key × Entry) :=
  items.foldl (fun entries item =>
    match keyOf item with
    | none => entries
    | some key => upsert key (step · item) entries) []

variable {keyOf : Item → Option Key} {step : Option Entry → Item → Entry} {key : Key}

@[simp]
theorem collect_nil : collect keyOf step [] = [] := rfl

/-- An item without a key leaves what is collected. -/
theorem collect_concat_none (unkeyed : keyOf item = none) :
    collect keyOf step (items ++ [item]) = collect keyOf step items := by
  simp [collect, unkeyed]

/-- An item changes the entry of its key. -/
theorem collect_concat_some (keyed : keyOf item = some key) : collect keyOf step (items ++ [item]) =
      upsert key (step · item) (collect keyOf step items) := by
  simp [collect, keyed]

/-- A change adds its key unless it is there. -/
theorem keys_upsert (key : Key) (change : Option Entry → Entry) (entries : List (Key × Entry)) :
    (upsert key change entries).map Prod.fst =
      if key ∈ entries.map Prod.fst then entries.map Prod.fst
      else entries.map Prod.fst ++ [key] := by
  induction entries with
  | nil => simp [upsert]
  | cons first rest ih =>
    unfold upsert
    by_cases here : first.1 = key
    · simp [here]
    · have elsewhere : ¬key = first.1 := fun same => here same.symm
      simp only [if_neg here, List.map_cons, ih, List.mem_cons, elsewhere, false_or]
      by_cases later : key ∈ rest.map Prod.fst
      · rw [if_pos later, if_pos later]
      · rw [if_neg later, if_neg later]
        rfl

/-- What is stored under a key after a change, and under the other keys. -/
theorem lookup_upsert (key other : Key) (change : Option Entry → Entry)
    (entries : List (Key × Entry)) :
    (upsert key change entries).lookup other =
      if other = key then some (change (entries.lookup key)) else entries.lookup other := by
  have apart : ∀ met : Key, ¬other = met → (other == met) = false := by
    intro met other
    simpa using other
  induction entries with
  | nil =>
    by_cases own : other = key
    · simp [upsert, own]
    · simp [upsert, List.lookup_cons, own, apart key own]
  | cons first rest ih =>
    obtain ⟨met, entry⟩ := first
    unfold upsert
    by_cases here : met = key
    · subst here
      by_cases own : other = met
      · simp [own]
      · simp [List.lookup_cons, own, apart met own]
    · rw [if_neg here, List.lookup_cons, ih]
      by_cases own : other = key
      · subst own
        simp [List.lookup_cons, apart met (Ne.symm here)]
      · rw [if_neg own, if_neg own, List.lookup_cons]
/-- What is stored is what was, or the new entry. -/
theorem mem_upsert {value : Entry} {entries : List (Key × Entry)} {item : Key × Entry}
    (listed : item ∈ upsert key (fun _ => value) entries) :
    item = (key, value) ∨ item ∈ entries := by
  induction entries with
  | nil => exact .inl (by simpa [upsert] using listed)
  | cons first rest ih =>
    unfold upsert at listed
    by_cases here : first.1 = key
    · rw [if_pos here] at listed
      rcases List.mem_cons.mp listed with same | later
      · exact .inl (by rw [same, here])
      · exact .inr (List.mem_cons_of_mem _ later)
    · rw [if_neg here] at listed
      rcases List.mem_cons.mp listed with same | later
      · exact .inr (by rw [same]; exact List.mem_cons_self)
      · rcases ih later with own | kept
        · exact .inl own
        · exact .inr (List.mem_cons_of_mem _ kept)

/-- Under keys that differ, each entry is the one its key finds. -/
theorem lookup_of_mem {entry : Entry} {entries : List (Key × Entry)}
    (distinct : (entries.map Prod.fst).Nodup) (listed : (key, entry) ∈ entries) :
    entries.lookup key = some entry := by
  induction entries with
  | nil => cases listed
  | cons first rest ih =>
    obtain ⟨apart, others⟩ := List.nodup_cons.mp distinct
    rw [List.lookup_cons]
    rcases List.mem_cons.mp listed with same | later
    · simp [← same]
    · have other : (key == first.1) = false := by
        rw [beq_eq_false_iff_ne]
        intro same
        exact apart (same ▸ List.mem_map_of_mem later)
      rw [other]
      exact ih others later

/-- The keys stand in the order they are first met. -/
theorem keys_collect (items : List Item) :
    (collect keyOf step items).map Prod.fst = firsts (items.filterMap keyOf) := by
  induction items using List.reverseRecOn with
  | nil => simp
  | append_singleton items last ih =>
    cases keyed : keyOf last with
    | none => simpa [collect_concat_none keyed, keyed] using ih
    | some key =>
      rw [collect_concat_some keyed, keys_upsert, ih, List.filterMap_append]
      simp only [List.filterMap_cons, keyed, List.filterMap_nil]
      rw [firsts_concat]

/-- A change and a choice of keys commute. -/
theorem filter_upsert (chosen : Key → Bool) (key : Key) (change : Option Entry → Entry)
    (entries : List (Key × Entry)) :
    (upsert key change entries).filter (fun entry => chosen entry.1) =
      if chosen key then upsert key change (entries.filter fun entry => chosen entry.1)
      else entries.filter fun entry => chosen entry.1 := by
  induction entries with
  | nil => by_cases taken : chosen key <;> simp [upsert, taken]
  | cons first rest ih =>
    obtain ⟨other, entry⟩ := first
    by_cases here : other = key
    · subst here
      by_cases taken : chosen other <;> simp [upsert, taken]
    · by_cases taken : chosen key <;> by_cases kept : chosen other <;>
        simp_all [upsert]

/-- The key of an item, if it is one of the chosen keys. -/
def chosenKey (chosen : Key → Bool) (keyOf : Item → Option Key) (item : Item) : Option Key :=
  (keyOf item).filter chosen

/-- The entries of chosen keys are collected from the items of these keys. -/
theorem filter_collect (chosen : Key → Bool) (items : List Item) :
    (collect keyOf step items).filter (fun entry => chosen entry.1) =
      collect (chosenKey chosen keyOf) step items := by
  induction items using List.reverseRecOn with
  | nil => simp
  | append_singleton items last ih =>
    cases keyed : keyOf last with
    | none =>
      have unkept : chosenKey chosen keyOf last = none := by simp [chosenKey, keyed]
      rw [collect_concat_none keyed, collect_concat_none unkept, ih]
    | some key =>
      rw [collect_concat_some keyed, filter_upsert, ih]
      by_cases taken : chosen key
      · have kept : chosenKey chosen keyOf last = some key := by simp [chosenKey, keyed, taken]
        rw [if_pos taken, collect_concat_some kept]
      · have dropped : chosenKey chosen keyOf last = none := by simp [chosenKey, keyed, taken]
        rw [if_neg taken, collect_concat_none dropped]

/-- What every step establishes holds of every entry. -/
theorem collect_invariant (Holds : Key → Entry → Prop)
    (starts : ∀ item key, keyOf item = some key → Holds key (step none item))
    (keeps : ∀ item key entry, keyOf item = some key → Holds key entry →
      Holds key (step (some entry) item))
    (items : List Item) : ∀ entry ∈ collect keyOf step items, Holds entry.1 entry.2 := by
  have upserted : ∀ (entries : List (Key × Entry)) (item : Item) (key : Key),
      keyOf item = some key → (∀ entry ∈ entries, Holds entry.1 entry.2) →
      ∀ entry ∈ upsert key (step · item) entries, Holds entry.1 entry.2 := by
    intro entries item key keyed
    induction entries with
    | nil =>
      intro _ entry listed
      simp only [upsert, List.mem_singleton] at listed
      subst listed
      exact starts item key keyed
    | cons first rest ih =>
      intro before entry listed
      unfold upsert at listed
      by_cases here : first.1 = key
      · rw [if_pos here] at listed
        rcases List.mem_cons.mp listed with same | later
        · subst same
          exact here ▸ keeps item key first.2 keyed (here ▸ before first (by simp))
        · exact before entry (by simp [later])
      · rw [if_neg here] at listed
        rcases List.mem_cons.mp listed with same | later
        · subst same
          exact before _ (by simp)
        · exact ih (fun entry listed => before entry (by simp [listed])) entry later
  induction items using List.reverseRecOn with
  | nil => simp
  | append_singleton items last ih =>
    cases keyed : keyOf last with
    | none => rwa [collect_concat_none keyed]
    | some key =>
      rw [collect_concat_some keyed]
      exact upserted _ last key keyed ih

/-- A change adds its share to a total. -/
theorem sum_upsert [AddCommMonoid Total] {measure : Key → Entry → Total}
    {change : Option Entry → Entry} {share : Total} (fresh : measure key (change none) = share)
    (more : ∀ entry, measure key (change (some entry)) = measure key entry + share)
    (entries : List (Key × Entry)) :
    ((upsert key change entries).map fun entry => measure entry.1 entry.2).sum =
      (entries.map fun entry => measure entry.1 entry.2).sum + share := by
  induction entries with
  | nil => simp [upsert, fresh]
  | cons first rest ih =>
    obtain ⟨other, entry⟩ := first
    by_cases here : other = key
    · subst here
      simp only [upsert, if_pos, List.map_cons, List.sum_cons, more]
      rw [add_assoc, add_comm share, ← add_assoc]
    · simp only [upsert, if_neg here, List.map_cons, List.sum_cons, ih]
      rw [add_assoc]

/-- The total over the entries is the total over the items, if each step adds its item's share. -/
theorem sum_collect [AddCommMonoid Total] (measure : Key → Entry → Total)
    (share : Key → Item → Total)
    (fresh : ∀ item key, keyOf item = some key → measure key (step none item) = share key item)
    (more : ∀ item key entry, keyOf item = some key →
      measure key (step (some entry) item) = measure key entry + share key item)
    (items : List Item) :
    ((collect keyOf step items).map fun entry => measure entry.1 entry.2).sum =
      (items.map fun item => ((keyOf item).map (share · item)).getD 0).sum := by
  induction items using List.reverseRecOn with
  | nil => simp
  | append_singleton items last ih =>
    cases keyed : keyOf last with
    | none => simp [collect_concat_none keyed, ih, keyed]
    | some key =>
      rw [collect_concat_some keyed,
        sum_upsert (fresh last key keyed) (fun entry => more last key entry keyed), ih]
      simp [keyed]

/-- Items listed under their keys: each key, in the order the keys are met, with its items. -/
theorem collect_lists (items : List Item) :
    collect keyOf (fun listed item => listed.getD [] ++ [item]) items =
      (firsts (items.filterMap keyOf)).map fun key =>
        (key, items.filter fun item => decide (keyOf item = some key)) := by
  have upserted : ∀ (keys : List Key) (key : Key) (item : Item) (lists : Key → List Item),
      keys.Nodup →
      (key ∉ keys → lists key = []) →
      upsert key (fun listed : Option (List Item) => listed.getD [] ++ [item])
          (keys.map fun each => (each, lists each)) =
        (if key ∈ keys then keys else keys ++ [key]).map fun each =>
          (each, if each = key then lists each ++ [item] else lists each) := by
    intro keys key item lists
    induction keys with
    | nil =>
      intro _ empty
      simp [upsert, empty]
    | cons first rest ih =>
      intro distinct empty
      obtain ⟨apart, others⟩ := List.nodup_cons.mp distinct
      by_cases here : first = key
      · subst here
        have kept : (rest.map fun each => (each, lists each)) =
            rest.map fun each =>
              (each, if each = first then lists each ++ [item] else lists each) := by
          apply List.map_congr_left
          intro each listed
          rw [if_neg]
          intro same
          exact apart (same ▸ listed)
        simp [upsert, kept]
      · have elsewhere : ¬key = first := fun same => here same.symm
        have later := ih others fun missing => empty (by simp [elsewhere, missing])
        simp only [List.map_cons, upsert, if_neg here, later]
        by_cases listed : key ∈ rest
        · simp [listed, here]
        · simp [listed, elsewhere, here]
  induction items using List.reverseRecOn with
  | nil => simp
  | append_singleton items last ih =>
    cases keyed : keyOf last with
    | none =>
      rw [collect_concat_none keyed, ih]
      simp [keyed]
    | some key =>
      rw [collect_concat_some keyed, ih, upserted _ _ _ _ (nodup_firsts _)]
      · rw [List.filterMap_append]
        simp only [List.filterMap_cons, keyed, List.filterMap_nil]
        rw [firsts_concat]
        apply List.map_congr_left
        intro each _
        by_cases same : each = key
        · subst same
          simp [keyed]
        · have apart : ¬key = each := fun equal => same equal.symm
          simp [keyed, same, apart]
      · intro missing
        rw [mem_firsts, List.mem_filterMap] at missing
        rw [List.filter_eq_nil_iff]
        intro item listed found
        exact missing ⟨item, listed, of_decide_eq_true found⟩

end Collect

section Recall

variable {all kept : List Item} {cap : Nat}

/-- What is kept of the items met so far: all of them, or at least so many of the last. -/
structure Keeps (cap : Nat) (all kept : List Item) : Prop where
  last : kept <:+ all
  many : kept = all ∨ cap ≤ kept.length

/-- Everything may be kept. -/
theorem Keeps.self (items : List Item) : Keeps cap items items := ⟨List.suffix_rfl, .inl rfl⟩

/-- One more item is kept with those that are. -/
theorem Keeps.concat (keeps : Keeps cap all kept) (item : Item) :
    Keeps cap (all ++ [item]) (kept ++ [item]) := by
  obtain ⟨⟨older, whole⟩, many⟩ := keeps
  refine ⟨⟨older, by rw [← List.append_assoc, whole]⟩, many.imp ?_ ?_⟩
  · intro same
    rw [same]
  · intro enough
    rw [List.length_append]
    omega

/-- As many of the last items as have to be kept are enough. -/
theorem Keeps.drop (keeps : Keeps cap all kept) :
    Keeps cap all (kept.drop (kept.length - cap)) := by
  refine ⟨(List.drop_suffix _ _).trans keeps.last, ?_⟩
  by_cases few : kept.length ≤ cap
  · -- Nothing is dropped.
    rw [Nat.sub_eq_zero_of_le few, List.drop_zero]
    exact keeps.many
  · right
    rw [List.length_drop]
    omega

/-- The last items are kept. -/
theorem Keeps.mem_of_recent (keeps : Keeps cap all kept)
    (recent : item ∈ all.drop (all.length - cap)) : item ∈ kept := by
  rcases keeps.many with same | enough
  · rw [same]
    exact List.mem_of_mem_drop recent
  · -- Both end the list, and the longer one is kept.
    have shorter : (all.drop (all.length - cap)).length ≤ kept.length := by
      rw [List.length_drop]
      omega
    exact (List.suffix_of_suffix_length_le (List.drop_suffix _ _) keeps.last shorter).subset recent

/-- An item is among the last ones until as many as are kept have come after it. -/
theorem mem_recent {front back : List Item} (few : back.length < cap) :
    item ∈ (front ++ item :: back).drop ((front ++ item :: back).length - cap) := by
  have reaches : (front ++ item :: back).length - cap ≤ front.length := by
    rw [List.length_append, List.length_cons]
    omega
  rw [List.drop_append_of_le_length reaches]
  exact List.mem_append_right _ List.mem_cons_self

/-- What is kept has been met. -/
theorem Keeps.mem (keeps : Keeps cap all kept) (listed : item ∈ kept) : item ∈ all :=
  keeps.last.subset listed

end Recall

end Grouping

end Durable
