import Mathlib.Data.List.Nodup

/-! The item left in charge by a list of items, each of which takes over when it beats the one in
charge, and when that is the same for every order of the list. -/

namespace Champion

variable {Item : Type} (beats : Item → Item → Bool)

/-- The one in charge after an item has come. -/
def challenge (current : Option Item) (item : Item) : Option Item :=
  match current with
  | none => some item
  | some holder => if beats item holder then some item else some holder

/-- The one in charge after a list of items. -/
def champion (items : List Item) : Option Item := items.foldl (challenge beats) none

/-- An item that beats all others. -/
def IsGreatest (items : List Item) (greatest : Item) : Prop :=
  greatest ∈ items ∧ ∀ item ∈ items, item ≠ greatest → beats greatest item = true

section Challenges

/-- After some items the one in charge is the one before, or one of them. -/
theorem foldl_challenge (items : List Item) : ∀ holder,
    ∃ last, items.foldl (challenge beats) (some holder) = some last ∧
      (last = holder ∨ last ∈ items) := by
  induction items with
  | nil => exact fun holder => ⟨holder, rfl, .inl rfl⟩
  | cons item rest ih =>
    intro holder
    rw [List.foldl_cons, challenge]
    split
    · obtain ⟨last, runs, member⟩ := ih item
      refine ⟨last, runs, .inr ?_⟩
      rcases member with same | later
      · simp [same]
      · exact List.mem_cons_of_mem item later
    · obtain ⟨last, runs, member⟩ := ih holder
      refine ⟨last, runs, ?_⟩
      rcases member with same | later
      · exact .inl same
      · exact .inr (List.mem_cons_of_mem item later)

/-- A list that is not empty leaves one of its items in charge. -/
theorem champion_mem {items : List Item} (filled : items ≠ []) :
    ∃ last ∈ items, champion beats items = some last := by
  obtain ⟨first, rest, rfl⟩ := List.exists_cons_of_ne_nil filled
  obtain ⟨last, runs, member⟩ := foldl_challenge beats rest first
  refine ⟨last, ?_, runs⟩
  rcases member with same | later
  · simp [same]
  · exact List.mem_cons_of_mem first later

variable {beats}

/-- One that no item beats stays in charge. -/
theorem foldl_challenge_of_unbeaten {items : List Item} {holder : Item}
    (unbeaten : ∀ item ∈ items, beats item holder = false) :
    items.foldl (challenge beats) (some holder) = some holder := by
  induction items with
  | nil => rfl
  | cons item rest ih =>
    have weaker := unbeaten item List.mem_cons_self
    rw [List.foldl_cons, challenge, weaker, if_neg Bool.false_ne_true]
    exact ih fun other later => unbeaten other (List.mem_cons_of_mem item later)

section Asymmetric

variable (asymmetric : ∀ one other, beats one other = true → beats other one = false)
include asymmetric

/-- An item that beats all others takes over when it comes, and stays. -/
theorem foldl_challenge_greatest {items : List Item} {greatest : Item} (current : Option Item)
    (greater : ∀ item ∈ items, item ≠ greatest → beats greatest item = true)
    (own : beats greatest greatest = false)
    (before : ∀ holder ∈ current, holder ≠ greatest → beats greatest holder = true)
    (comes : current = some greatest ∨ greatest ∈ items) :
    items.foldl (challenge beats) current = some greatest := by
  induction items generalizing current with
  | nil =>
    rcases comes with held | none
    · exact held
    · cases none
  | cons item rest ih =>
    have later : ∀ other ∈ rest, other ≠ greatest → beats greatest other = true :=
      fun other member => greater other (List.mem_cons_of_mem item member)
    rw [List.foldl_cons]
    by_cases mine : item = greatest
    · -- It takes over from whoever is in charge, unless it is in charge itself.
      subst mine
      have taken : challenge beats current item = some item := by
        cases current with
        | none => rfl
        | some holder =>
          by_cases same : holder = item
          · rw [same, challenge, own, if_neg Bool.false_ne_true]
          · rw [challenge, before holder rfl same, if_pos rfl]
      rw [taken]
      apply foldl_challenge_of_unbeaten
      intro other member
      by_cases same : other = item
      · rw [same]
        exact own
      · exact asymmetric item other (later other member same)
    · have weaker := greater item List.mem_cons_self mine
      apply ih (challenge beats current item) later
      · -- Whoever is in charge now was before, or has just come.
        intro holder held apart
        cases current with
        | none =>
          obtain rfl := Option.some.inj held
          exact weaker
        | some last =>
          simp only [challenge] at held
          split at held
          · obtain rfl := Option.some.inj held
            exact weaker
          · obtain rfl := Option.some.inj held
            exact before last rfl apart
      · rcases comes with held | member
        · left
          rw [held, challenge, asymmetric greatest item weaker, if_neg Bool.false_ne_true]
        · right
          rcases List.mem_cons.mp member with same | member
          · exact absurd same.symm mine
          · exact member

/-- Every order of the items leaves one item in charge, which none of them beats, just when one of
them beats all others. -/
theorem champion_orderFree_iff {items : List Item} (different : items.Nodup) :
    (∀ order : List Item, order.Perm items → champion beats order = champion beats items ∧
      ∀ holder ∈ champion beats order, ∀ item ∈ items, beats item holder = false) ↔
      (items ≠ [] → ∃ greatest, IsGreatest beats items greatest) := by
  have own : ∀ item, beats item item = false := by
    intro item
    by_contra beaten
    have beaten : beats item item = true := by simpa using beaten
    rw [asymmetric item item beaten] at beaten
    cases beaten
  constructor
  · intro free filled
    classical
    obtain ⟨last, member, held⟩ := champion_mem beats filled
    refine ⟨last, member, fun other listed apart => ?_⟩
    by_contra unbeaten
    -- Had the other come first and the last one behind it, the other would have stayed.
    have behind : last ∈ items.erase other := (List.mem_erase_of_ne (Ne.symm apart)).mpr member
    have order : (other :: last :: (items.erase other).erase last).Perm items :=
      ((List.perm_cons_erase behind).symm.cons other).trans (List.perm_cons_erase listed).symm
    obtain ⟨same, -⟩ := free _ order
    rw [held] at same
    have stays : champion beats (other :: last :: (items.erase other).erase last) =
        ((items.erase other).erase last).foldl (challenge beats) (some other) := by
      simp [champion, challenge, unbeaten]
    obtain ⟨end_, runs, ends⟩ := foldl_challenge beats ((items.erase other).erase last)
      other
    rw [stays, runs] at same
    obtain rfl := Option.some.inj same
    rcases ends with same | later
    · exact apart same.symm
    · exact (List.Nodup.not_mem_erase (different.erase other)) later
  · intro greatest order perm
    by_cases filled : items = []
    · subst filled
      rw [List.perm_nil.mp perm]
      exact ⟨rfl, fun holder held => by cases held⟩
    · obtain ⟨champ, member, greater⟩ := greatest filled
      have wins : ∀ list : List Item, list.Perm items → champion beats list = some champ := by
        intro list perm
        apply foldl_challenge_greatest asymmetric none
          (fun item listed => greater item (perm.mem_iff.mp listed)) (own champ)
          (fun holder held => by cases held)
        exact .inr (perm.mem_iff.mpr member)
      rw [wins order perm, wins items (List.Perm.refl items)]
      refine ⟨rfl, fun holder held item listed => ?_⟩
      obtain rfl := Option.some.inj held
      by_cases same : item = champ
      · rw [same]
        exact own champ
      · exact asymmetric champ item (greater item listed same)

/-- Where nothing is beaten but by what beats it through others, nobody beats the one in charge. -/
theorem champion_unbeaten {items : List Item} {champ : Item}
    (through : ∀ one two three, beats one two = false → beats two three = false →
      beats one three = false)
    (wins : champion beats items = some champ) : ∀ item ∈ items, beats item champ = false := by
  have own : ∀ item, beats item item = false := fun item => by
    cases same : beats item item with
    | false => rfl
    | true => exact same.symm.trans (asymmetric item item same)
  have ends : ∀ (items : List Item) (holder last : Item),
      items.foldl (challenge beats) (some holder) = some last →
        beats holder last = false ∧ ∀ item ∈ items, beats item last = false := by
    intro items
    induction items with
    | nil =>
      intro holder last same
      cases same
      exact ⟨own holder, nofun⟩
    | cons item rest ih =>
      intro holder last same
      rw [List.foldl_cons, challenge] at same
      rw [List.forall_mem_cons]
      by_cases taken : beats item holder = true
      · rw [if_pos taken] at same
        obtain ⟨here, later⟩ := ih item last same
        exact ⟨through _ _ _ (asymmetric _ _ taken) here, here, later⟩
      · rw [if_neg taken] at same
        obtain ⟨here, later⟩ := ih holder last same
        exact ⟨here, through _ _ _ (Bool.eq_false_iff.mpr taken) here, later⟩
  cases items with
  | nil => cases wins
  | cons first rest => exact List.forall_mem_cons.mpr (ends rest first champ wins)

end Asymmetric

end Challenges

end Champion
