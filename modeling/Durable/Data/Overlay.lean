/-! Changes that each give some of the fields of a state: the last one that gives a field says
what it holds. -/

namespace Durable.Overlay

variable {State Change Field Image : Type} {given : Change → Option Field} {changes : List Change}

/-- What the last of the changes that give a field gives it. -/
def lastGiven (given : Change → Option Field) (changes : List Change) : Option Field :=
  (changes.filterMap given).getLast?

@[simp] theorem lastGiven_nil (given : Change → Option Field) : lastGiven given [] = none := rfl

/-- A first change says what a field holds until another one gives it. -/
theorem lastGiven_cons (given : Change → Option Field) (change : Change)
    (changes : List Change) :
    lastGiven given (change :: changes) = (lastGiven given changes).or (given change) := by
  unfold lastGiven
  cases gave : given change with
  | none => rw [List.filterMap_cons_none gave, Option.or_none]
  | some field =>
    rw [List.filterMap_cons_some gave, List.getLast?_cons]
    cases (changes.filterMap given).getLast? with
    | none => rfl
    | some later => rfl

/-- A field that every change overlays holds what the last change gave it, or what it held. -/
theorem foldl_overlay {merge : State → Change → State} {held : State → Field}
    (step : ∀ state change, held (merge state change) = (given change).getD (held state))
    (changes : List Change) (start : State) :
    held (changes.foldl merge start) = (lastGiven given changes).getD (held start) := by
  induction changes generalizing start with
  | nil => rfl
  | cons change changes ih =>
    rw [List.foldl_cons, ih, step, lastGiven_cons]
    cases lastGiven given changes with
    | none => rfl
    | some later => rfl

/-- An image of what is given is given last where the original is. -/
theorem lastGiven_map (image : Field → Image) (given : Change → Option Field)
    (changes : List Change) :
    lastGiven (fun change => (given change).map image) changes =
      (lastGiven given changes).map image := by
  induction changes with
  | nil => rfl
  | cons change changes ih =>
    rw [lastGiven_cons, lastGiven_cons, ih]
    cases lastGiven given changes with
    | none => rfl
    | some later => rfl

/-- Changes that are read through others give last what those do. -/
theorem lastGiven_read {Other : Type} (given : Change → Option Field) (read : Other → Change)
    (changes : List Other) :
    lastGiven given (changes.map read) = lastGiven (fun change => given (read change)) changes := by
  unfold lastGiven
  rw [List.filterMap_map]
  rfl

/-- The last change gives last what it gives. -/
theorem lastGiven_of_getLast? {change : Change} {field : Field}
    (last : changes.getLast? = some change) (gave : given change = some field) :
    lastGiven given changes = some field := by
  obtain ⟨front, rfl⟩ := List.getLast?_eq_some_iff.mp last
  unfold lastGiven
  rw [List.filterMap_append, List.filterMap_cons_some gave, List.filterMap_nil,
    List.getLast?_concat]

/-- Where every change gives a field, the last one gives it last. -/
theorem lastGiven_always (given : Change → Field) (changes : List Change) :
    lastGiven (fun change => some (given change)) changes = changes.getLast?.map given := by
  unfold lastGiven
  rw [List.filterMap_eq_map', List.getLast?_map]

/-- Nothing is given last where no change gives anything. -/
theorem lastGiven_eq_none :
    lastGiven given changes = none ↔ ∀ change ∈ changes, given change = none := by
  unfold lastGiven
  rw [List.getLast?_eq_none_iff, List.filterMap_eq_nil_iff]

/-- What is given last but cleared is passed over: a change that gives a value last gives it. -/
theorem lastGiven_join_of_some {given : Change → Option (Option Field)} {field : Field}
    (last : lastGiven given changes = some (some field)) :
    lastGiven (fun change => (given change).join) changes = some field := by
  induction changes with
  | nil => cases last
  | cons change changes ih =>
    rw [lastGiven_cons] at last ⊢
    cases later : lastGiven given changes with
    | some kept =>
      rw [later] at last
      rw [ih (later.trans last)]
      rfl
    | none =>
      -- No later change gives the field, so none gives it a value.
      have nothing : lastGiven (fun change => (given change).join) changes = none := by
        apply lastGiven_eq_none.mpr
        intro other listed
        rw [lastGiven_eq_none.mp later other listed]
        rfl
      rw [later, Option.none_or] at last
      rw [nothing, Option.none_or, last]
      rfl

end Durable.Overlay
