import Mathlib.Data.List.Nodup
import Durable.Engine.BufferedSignals

/-! The sweep of buffered child completions decides every row as the rule for one row does. -/

namespace Durable

open Interleaving

variable {each : OpenRow} {rows : List BufferedChildRow} {row : BufferedChildRow}

section Parents

variable (store : Store) (parentId : String)

/-- Whether a parent settles a child, all its checkpoints being at hand. -/
def settlesAlone (childId : String) (completion : Payload) : Bool :=
  let slot := slotOf childId
  let expected := canonicalJson completion
  let at' := fun seq => store.checkpoints.get (parentId, seq)
  slot.lastLook expected at' (store.checkpointsOf parentId) (slot.firstLook expected at')

/-- A parent holds the outcome of a child: a completed checkpoint of the child's signal with that
completion, or a fold that stands for the child. -/
def HoldsOutcome (childId : String) (completion : Payload) : Prop :=
  ∃ row, (row ∈ store.checkpointsOf parentId ∨
      ∃ seq, store.checkpoints.get (parentId, seq) = some row) ∧
    row.status = .completed ∧
    (row.name = (slotOf childId).signal ∧ canonicalJson row.output = canonicalJson completion ∨
      ∃ fan, (slotOf childId).fan = some fan ∧ row.name = fan.fold ∧
        covers (foldOf (some row) fan.fold) fan.index)

variable {store parentId} {slot : ChildSlot} {expected : String}

theorem covers_foldOf {checkpoint : Option StepCheckpoint} {name : String} {index : Nat}
    (covered : covers (foldOf checkpoint name) index = true) :
    ∃ row, checkpoint = some row ∧ row.status = .completed ∧ row.name = name := by
  cases checkpoint with
  | none => simp [foldOf, covers] at covered
  | some row =>
    by_cases fold : row.status = .completed ∧ row.name = name
    · exact ⟨row, rfl, fold.1, fold.2⟩
    · simp [foldOf, fold, covers] at covered

theorem ChildSlot.firstLook_read (store : Store) (parentId : String) (slot : ChildSlot)
    (expected : String) (seqs : List Nat) (named : ∀ seq ∈ slot.firstSeqs, seq ∈ seqs) :
    slot.firstLook expected (checkpointsAt store parentId seqs) =
      slot.firstLook expected fun seq => store.checkpoints.get (parentId, seq) := by
  have own : slot.signalSeq.bind (checkpointsAt store parentId seqs) =
      slot.signalSeq.bind fun seq => store.checkpoints.get (parentId, seq) := by
    cases signal : slot.signalSeq with
    | none => rfl
    | some seq =>
      have listed : seq ∈ seqs := named seq (by simp [ChildSlot.firstSeqs, signal])
      simp [checkpointsAt, listed]
  unfold ChildSlot.firstLook
  simp only [own]
  cases fan : slot.fan with
  | none => rfl
  | some fold =>
    have listed : fold.firstSeq ∈ seqs := named fold.firstSeq (by simp [ChildSlot.firstSeqs, fan])
    simp only [checkpointsAt, listed, if_true]

theorem ChildSlot.settles_named {row : StepCheckpoint}
    (settles : (holdsSignal row slot.signal expected ||
      slot.fan.any fun fan => covers (foldOf (some row) fan.fold) fan.index) = true) :
    row.name ∈ slot.names := by
  rcases Bool.or_eq_true _ _ |>.mp settles with signal | fold
  · simp only [holdsSignal, decide_eq_true_eq] at signal
    simp [ChildSlot.names, signal.2.1]
  · obtain ⟨fan, held, covered⟩ := (Option.any_eq_true _ _).mp fold
    obtain ⟨found, same, -, name⟩ := covers_foldOf covered
    cases same
    simp [ChildSlot.names, held, name]

theorem ChildSlot.settledByName_read (store : Store) (parentId : String) (slot : ChildSlot)
    (expected : String) (names : List String) (named : ∀ name ∈ slot.names, name ∈ names) :
    slot.settledByName expected (parentCheckpointsNamed store parentId names) =
      slot.settledByName expected (store.checkpointsOf parentId) := by
  unfold ChildSlot.settledByName parentCheckpointsNamed
  rw [List.any_filter]
  apply List.any_congr rfl
  intro row
  cases settles : (holdsSignal row slot.signal expected ||
    slot.fan.any fun fan => covers (foldOf (some row) fan.fold) fan.index) with
  | false => simp
  | true =>
    have listed := named row.name (ChildSlot.settles_named settles)
    simp [listed]

theorem ChildSlot.lastLook_read (store : Store) (parentId : String) (slot : ChildSlot)
    (expected : String) (seqs : List Nat) (names : List String) (look : FirstLook)
    (wave : ∀ seq, look.waveSeq = some seq → seq ∈ seqs)
    (byName : look = .byName → ∀ name ∈ slot.names, name ∈ names) :
    slot.lastLook expected (checkpointsAt store parentId seqs)
        (parentCheckpointsNamed store parentId names) look =
      slot.lastLook expected (fun seq => store.checkpoints.get (parentId, seq))
        (store.checkpointsOf parentId) look := by
  cases look with
  | held settled => rfl
  | waveFold seq =>
    have listed : seq ∈ seqs := wave seq rfl
    simp only [ChildSlot.lastLook, checkpointsAt, listed, if_true]
  | byName => exact slot.settledByName_read store parentId expected names (byName rfl)

theorem parentSettles_eq (store : Store) (parentId : String)
    (children : List (String × Payload)) :
    parentSettles store parentId children =
      children.map fun child => settlesAlone store parentId child.1 child.2 := by
  unfold parentSettles
  simp only [List.map_map]
  apply List.map_congr_left
  intro child listed
  have entry : (slotOf child.1, canonicalJson child.2) ∈
      children.map fun child => (slotOf child.1, canonicalJson child.2) :=
    List.mem_map_of_mem listed
  generalize children.map (fun child => (slotOf child.1, canonicalJson child.2)) = entries
    at entry ⊢
  -- The first look is the one that reads the store itself.
  have first := (slotOf child.1).firstLook_read store parentId (canonicalJson child.2)
    (entries.flatMap fun entry => entry.1.firstSeqs)
    fun seq mine => List.mem_flatMap.mpr ⟨_, entry, mine⟩
  simp only [Function.comp_apply, settlesAlone, first]
  rw [ChildSlot.lastLook_read]
  · intro seq wave
    apply List.mem_filterMap.mpr
    refine ⟨_, List.mem_map_of_mem listed, ?_⟩
    simp only [Function.comp_apply, first]
    exact wave
  · intro byName name mine
    apply List.mem_flatMap.mpr
    refine ⟨_, List.mem_filter.mpr ⟨List.mem_map_of_mem listed, ?_⟩, mine⟩
    simp only [Function.comp_apply, first, byName, decide_true]

/-- A parent settles only children whose outcome it holds. -/
theorem holdsOutcome_of_settles {store : Store} {parentId childId : String} {completion : Payload}
    (settles : settlesAlone store parentId childId completion = true) :
    HoldsOutcome store parentId childId completion := by
  have bySignal : ∀ row, (row ∈ store.checkpointsOf parentId ∨
      ∃ seq, store.checkpoints.get (parentId, seq) = some row) →
      holdsSignal row (slotOf childId).signal (canonicalJson completion) = true →
      HoldsOutcome store parentId childId completion := by
    intro row stored holds
    simp only [holdsSignal, decide_eq_true_eq] at holds
    exact ⟨row, stored, holds.1, .inl holds.2⟩
  have byFold : ∀ fan checkpoint, (slotOf childId).fan = some fan →
      (∀ row, checkpoint = some row → row ∈ store.checkpointsOf parentId ∨
        ∃ seq, store.checkpoints.get (parentId, seq) = some row) →
      covers (foldOf checkpoint fan.fold) fan.index = true →
      HoldsOutcome store parentId childId completion := by
    intro fan checkpoint held stored covered
    obtain ⟨row, found, completed, name⟩ := covers_foldOf covered
    rw [found] at covered
    exact ⟨row, stored row found, completed, .inr ⟨fan, held, name, covered⟩⟩
  have stored : ∀ seq row, store.checkpoints.get (parentId, seq) = some row →
      row ∈ store.checkpointsOf parentId ∨
        ∃ seq, store.checkpoints.get (parentId, seq) = some row :=
    fun seq row found => .inr ⟨seq, found⟩
  have ownStored : ∀ row, ((slotOf childId).signalSeq.bind fun seq =>
      store.checkpoints.get (parentId, seq)) = some row → row ∈ store.checkpointsOf parentId ∨
        ∃ seq, store.checkpoints.get (parentId, seq) = some row := by
    intro row found
    obtain ⟨seq, -, at'⟩ := Option.bind_eq_some_iff.mp found
    exact stored seq row at'
  simp only [settlesAlone, ChildSlot.firstLook] at settles
  generalize ((slotOf childId).signalSeq.bind fun seq => store.checkpoints.get (parentId, seq)) =
    own at settles ownStored
  cases named : own.filter (·.name = (slotOf childId).signal) with
  | some row =>
    -- The child's own position holds its signal.
    rw [named] at settles
    exact bySignal row (ownStored row (Option.filter_eq_some_iff.mp named).1) settles
  | none =>
    rw [named] at settles
    cases held : (slotOf childId).fan with
    | none =>
      simp only [held] at settles
      split at settles
      · cases settles
      · simp only [ChildSlot.lastLook, ChildSlot.settledByName, held, Option.any_none,
          Bool.or_false, List.any_eq_true] at settles
        obtain ⟨row, listed, holds⟩ := settles
        exact bySignal row (.inl listed) holds
    | some fan =>
      simp only [held] at settles
      by_cases covered : covers (foldOf own fan.fold) fan.index = true
      · exact byFold fan own held ownStored covered
      · simp only [covered, Bool.false_eq_true, if_false] at settles
        have atFirst := byFold fan (store.checkpoints.get (parentId, fan.firstSeq)) held
          (stored fan.firstSeq)
        cases wave : fan.wave with
        | none =>
          rw [wave] at settles
          exact atFirst settles
        | some number =>
          cases number with
          | zero =>
            rw [wave] at settles
            exact atFirst settles
          | succ earlier =>
            rw [wave] at settles
            simp only at settles
            cases zero : (foldOf (store.checkpoints.get (parentId, fan.firstSeq))
                fan.waveZeroFold).filter (0 < ·.values.length) with
            | some waveZero =>
              simp only [zero, ChildSlot.lastLook, held, Option.any_some] at settles
              exact byFold fan _ held (stored _) settles
            | none =>
              simp only [zero, ChildSlot.lastLook, ChildSlot.settledByName, held, Option.any_some,
                List.any_eq_true, Bool.or_eq_true] at settles
              obtain ⟨row, listed, holds | folds⟩ := settles
              · exact bySignal row (.inl listed) holds
              · exact byFold fan (some row) held (by rintro _ ⟨⟩; exact .inl listed) folds

theorem childCompletionNeedsBuffer_eq {store : Store} {parentId childId : String}
    {completion : Payload} (parent : parentRunIdOf childId = some parentId) :
    childCompletionNeedsBuffer store childId completion =
      (!parentClosed (store.runs.get parentId) &&
        !settlesAlone store parentId childId completion) := by
  simp only [childCompletionNeedsBuffer, parent, parentSettles_eq]
  cases parentClosed (store.runs.get parentId) <;> simp

end Parents

/-- No parent needs the completion that a row holds, by the rule for one row. -/
def BufferedChildRow.unneeded (store : Store) (row : BufferedChildRow) : Bool :=
  row.childId.any fun childId => !childCompletionNeedsBuffer store childId row.payload

section Groups

def InGroup (groups : List (String × List OpenRow)) (parentId : String) (each : OpenRow) : Prop :=
  ∃ group, (parentId, group) ∈ groups ∧ each ∈ group

/-- Rows in groups come in order: the first row of a group is before its others and before those
of later groups. -/
structure GroupsOrdered (groups : List (String × List OpenRow)) : Prop where
  within : ∀ group ∈ groups, ∃ first rest, group.2 = first :: rest ∧
    ∀ each ∈ rest, first.place ≤ each.place
  across : groups.Pairwise fun earlier later =>
    ∀ first ∈ earlier.2.head?, ∀ each ∈ later.2, first.place ≤ each.place

variable {groups : List (String × List OpenRow)}

/-- Putting a row into a group adds that row to it. -/
theorem inGroup_addOpen {parentId : String} {row : OpenRow} {other : String} :
    InGroup (addOpen parentId row groups) other each ↔
      InGroup groups other each ∨ other = parentId ∧ each = row := by
  unfold InGroup
  induction groups with
  | nil =>
    simp only [addOpen, List.mem_singleton, Prod.mk.injEq, List.not_mem_nil, false_and,
      exists_false, false_or]
    constructor
    · intro found
      obtain ⟨group, ⟨same, rfl⟩, member⟩ := found
      exact ⟨same, List.mem_singleton.mp member⟩
    · intro found
      exact ⟨[row], ⟨found.1, rfl⟩, by simp [found.2]⟩
  | cons entry rest ih =>
    obtain ⟨held, group⟩ := entry
    by_cases same : held = parentId
    · subst same
      constructor
      · intro found
        obtain ⟨grown, listed, member⟩ := found
        simp only [addOpen, if_true, List.mem_cons, Prod.mk.injEq] at listed
        rcases listed with ⟨rfl, rfl⟩ | later
        · rcases List.mem_append.mp member with old | new
          · exact .inl ⟨group, by simp, old⟩
          · exact .inr ⟨rfl, List.mem_singleton.mp new⟩
        · exact .inl ⟨grown, List.mem_cons_of_mem _ later, member⟩
      · intro found
        simp only [addOpen, if_true]
        rcases found with ⟨old, listed, member⟩ | ⟨rfl, rfl⟩
        · rcases List.mem_cons.mp listed with isFirst | later
          · cases isFirst
            exact ⟨_, List.mem_cons_self, List.mem_append_left _ member⟩
          · exact ⟨old, List.mem_cons_of_mem _ later, member⟩
        · exact ⟨_, List.mem_cons_self, by simp⟩
    · have split : ∀ tail : List (String × List OpenRow),
          (∃ g, (other, g) ∈ (held, group) :: tail ∧ each ∈ g) ↔
            (other = held ∧ each ∈ group) ∨ ∃ g, (other, g) ∈ tail ∧ each ∈ g := by
        intro tail
        simp only [List.mem_cons, Prod.mk.injEq]
        constructor
        · intro found
          obtain ⟨g, ⟨rfl, rfl⟩ | later, member⟩ := found
          · exact .inl ⟨rfl, member⟩
          · exact .inr ⟨g, later, member⟩
        · intro found
          rcases found with ⟨rfl, member⟩ | ⟨g, later, member⟩
          · exact ⟨group, .inl ⟨rfl, rfl⟩, member⟩
          · exact ⟨g, .inr later, member⟩
      simp only [addOpen, same, if_false, split, ih, or_assoc]

/-- A row put behind every other keeps the groups in order. -/
theorem GroupsOrdered.addOpen (ordered : GroupsOrdered groups) (parentId : String) (row : OpenRow)
    (last : ∀ other each, InGroup groups other each → each.place ≤ row.place) :
    GroupsOrdered (addOpen parentId row groups) := by
  induction groups with
  | nil =>
    constructor
    · intro group listed
      rw [Durable.addOpen, List.mem_singleton] at listed
      exact ⟨row, [], by rw [listed], by simp⟩
    · simp [Durable.addOpen]
  | cons entry rest ih =>
    obtain ⟨held, group⟩ := entry
    obtain ⟨within, across⟩ := ordered
    rw [List.pairwise_cons] at across
    obtain ⟨first, others, shape, least⟩ := within _ List.mem_cons_self
    change group = first :: others at shape
    have firstLast : first.place ≤ row.place := by
      apply last held first
      exact ⟨group, List.mem_cons_self, by simp [shape]⟩
    by_cases same : held = parentId
    · rw [Durable.addOpen, if_pos same]
      constructor
      · intro grown listed
        rcases List.mem_cons.mp listed with rfl | later
        · refine ⟨first, others ++ [row], by simp [shape], ?_⟩
          intro each member
          rcases List.mem_append.mp member with old | new
          · exact least each old
          · rw [List.mem_singleton.mp new]
            exact firstLast
        · exact within grown (List.mem_cons_of_mem _ later)
      · rw [List.pairwise_cons]
        refine ⟨?_, across.2⟩
        intro later listed head isHead each member
        apply across.1 later listed head _ each member
        simpa [shape] using isHead
    · rw [Durable.addOpen, if_neg same]
      have grown := ih ⟨fun grown listed => within grown (List.mem_cons_of_mem _ listed), across.2⟩
        fun other each found => last other each (by
          obtain ⟨g, listed, member⟩ := found
          exact ⟨g, List.mem_cons_of_mem _ listed, member⟩)
      constructor
      · intro each listed
        rcases List.mem_cons.mp listed with rfl | later
        · exact ⟨first, others, shape, least⟩
        · exact grown.within each later
      · rw [List.pairwise_cons]
        refine ⟨?_, grown.across⟩
        intro later listed head isHead each member
        have isFirst : head = first := by simpa [shape] using isHead.symm
        -- A later group's row was there before, or is the row put last.
        rcases inGroup_addOpen.mp ⟨later.2, listed, member⟩ with old | ⟨-, new⟩
        · obtain ⟨g, oldListed, oldMember⟩ := old
          exact across.1 _ oldListed head isHead each oldMember
        · rw [isFirst, new]
          exact firstLast

end Groups

section Pages

variable (store : Store) (answers : SweepAnswers) {groups : List (String × List OpenRow)}
  {parentId : String} {entry : BufferedChildRow × Nat} {checked length : Nat}

theorem inGroup_addRow : InGroup (addRow store answers groups entry) parentId each ↔
      InGroup groups parentId each ∨ (each.row, each.place) = entry ∧
        each.row.runLook store answers = .undecided parentId each.childId := by
  obtain ⟨row, place⟩ := entry
  have keeps : (∀ owner childId, row.runLook store answers ≠ .undecided owner childId) →
      (InGroup groups parentId each ↔
        InGroup groups parentId each ∨ (each.row, each.place) = (row, place) ∧
          each.row.runLook store answers = .undecided parentId each.childId) := by
    intro decided
    constructor
    · exact .inl
    · intro found
      rcases found with old | ⟨same, undecided⟩
      · exact old
      · cases same
        exact absurd undecided (decided _ _)
  unfold addRow
  cases look : row.runLook store answers with
  | kept => exact keeps (by simp [look])
  | doomed => exact keeps (by simp [look])
  | undecided owner childId =>
    simp only [inGroup_addOpen]
    apply or_congr_right
    constructor
    · intro found
      obtain ⟨rfl, rfl⟩ := found
      exact ⟨rfl, look⟩
    · intro found
      obtain ⟨same, undecided⟩ := found
      cases same
      rw [look] at undecided
      cases undecided
      exact ⟨rfl, rfl⟩

theorem inGroup_foldl (rows : List (BufferedChildRow × Nat))
    (groups : List (String × List OpenRow)) :
    InGroup (rows.foldl (addRow store answers) groups) parentId each ↔
      InGroup groups parentId each ∨ (each.row, each.place) ∈ rows ∧
        each.row.runLook store answers = .undecided parentId each.childId := by
  induction rows generalizing groups with
  | nil => simp
  | cons entry rest ih =>
    rw [List.foldl_cons, ih, inGroup_addRow, List.mem_cons, or_and_right, or_assoc]

theorem inGroup_openRows (rows : List BufferedChildRow) :
    InGroup (openRows store answers rows) parentId each ↔
      rows[each.place]? = some each.row ∧
        each.row.runLook store answers = .undecided parentId each.childId := by
  unfold openRows
  rw [inGroup_foldl, List.mk_mem_zipIdx_iff_getElem?]
  simp [InGroup]

theorem groupsOrdered_openRows (rows : List BufferedChildRow) :
    GroupsOrdered (openRows store answers rows) := by
  unfold openRows
  -- Each row is put behind those before it in the page.
  have general : ∀ (rest : List BufferedChildRow) (start : Nat)
      (groups : List (String × List OpenRow)), GroupsOrdered groups →
      (∀ other each, InGroup groups other each → each.place ≤ start) →
      GroupsOrdered ((rest.zipIdx start).foldl (addRow store answers) groups) := by
    intro rest
    induction rest with
    | nil => intro start groups ordered _; exact ordered
    | cons row rest ih =>
      intro start groups ordered before
      rw [List.zipIdx_cons, List.foldl_cons]
      apply ih (start + 1)
      · unfold addRow
        cases row.runLook store answers with
        | kept => exact ordered
        | doomed => exact ordered
        | undecided parentId childId => exact ordered.addOpen parentId _ before
      · intro other each found
        rcases (inGroup_addRow store answers).mp found with old | ⟨same, -⟩
        · exact Nat.le_succ_of_le (before other each old)
        · cases same
          exact Nat.le_succ _
  apply general rows 0 [] ⟨by simp, by simp⟩
  intro other each found
  simp [InGroup] at found

theorem mem_doomedOf {group : List OpenRow} {place : Nat} :
    place ∈ doomedOf store answers parentId group ↔
      answers.unreadCheckpoints parentId = false ∧ ∃ each ∈ group, each.place = place ∧
        settlesAlone store parentId each.childId each.row.payload = true := by
  unfold doomedOf
  cases answers.unreadCheckpoints parentId with
  | true => simp
  | false =>
    simp only [Bool.false_eq_true, if_false, parentSettles_eq, List.map_map, true_and]
    rw [← List.map_prod_left_eq_zip]
    simp only [List.map_map, List.filter_map, List.mem_map, List.mem_filter]
    constructor
    · intro found
      obtain ⟨each, ⟨listed, settles⟩, at'⟩ := found
      exact ⟨each, listed, at', settles⟩
    · intro found
      obtain ⟨each, listed, at', settles⟩ := found
      exact ⟨each, ⟨listed, settles⟩, at'⟩

variable {store answers}

theorem checkGroups_settled {place : Nat}
    (doomed : place ∈ (checkGroups store answers length checked groups).1) :
    ∃ parentId each, InGroup groups parentId each ∧ each.place = place ∧
      settlesAlone store parentId each.childId each.row.payload = true := by
  induction groups generalizing checked with
  | nil => simp [checkGroups] at doomed
  | cons entry rest ih =>
    obtain ⟨parentId, group⟩ := entry
    rw [checkGroups] at doomed
    split at doomed
    · cases doomed
    · rcases List.mem_append.mp doomed with here | later
      · obtain ⟨-, each, member, at', settles⟩ := (mem_doomedOf store answers).mp here
        exact ⟨parentId, each, ⟨group, List.mem_cons_self, member⟩, at', settles⟩
      · obtain ⟨owner, each, ⟨found, listed, member⟩, rest⟩ := ih later
        exact ⟨owner, each, ⟨found, List.mem_cons_of_mem _ listed, member⟩, rest⟩

theorem checkGroups_doomed (ordered : GroupsOrdered groups) (found : InGroup groups parentId each)
    (decided : each.place < (checkGroups store answers length checked groups).2)
    (read : answers.unreadCheckpoints parentId = false)
    (settles : settlesAlone store parentId each.childId each.row.payload = true) :
    each.place ∈ (checkGroups store answers length checked groups).1 := by
  induction groups generalizing checked with
  | nil => simp [InGroup] at found
  | cons entry rest ih =>
    obtain ⟨owner, group⟩ := entry
    obtain ⟨held, listed, member⟩ := found
    obtain ⟨first, others, shape, least⟩ := ordered.within _ List.mem_cons_self
    change group = first :: others at shape
    have across := List.pairwise_cons.mp ordered.across
    rw [checkGroups] at decided ⊢
    by_cases cut : 0 < checked ∧ answers.late checked
    · -- Every row from the cut on comes after the first row of the group that was not checked.
      rw [if_pos cut] at decided
      simp only [shape, List.head?_cons, Option.map_some, Option.getD_some] at decided
      have after : first.place ≤ each.place := by
        rcases List.mem_cons.mp listed with isFirst | later
        · cases isFirst
          rw [shape] at member
          rcases List.mem_cons.mp member with rfl | other
          · exact Nat.le_refl _
          · exact least each other
        · exact across.1 _ later first (by simp [shape]) each member
      omega
    · rw [if_neg cut] at decided ⊢
      rcases List.mem_cons.mp listed with isFirst | later
      · cases isFirst
        exact List.mem_append_left _
          ((mem_doomedOf store answers).mpr ⟨read, each, member, rfl, settles⟩)
      · apply List.mem_append_right
        exact ih ⟨fun g there => ordered.within g (List.mem_cons_of_mem _ there), across.2⟩
          ⟨held, later, member⟩ decided

theorem checkGroups_decided (onTime : ∀ check, answers.late check = false) :
    (checkGroups store answers length checked groups).2 = length := by
  induction groups generalizing checked with
  | nil => rfl
  | cons entry rest ih =>
    obtain ⟨parentId, group⟩ := entry
    rw [checkGroups, if_neg (by simp [onTime])]
    exact ih

theorem BufferedChildRow.unneeded_of_look (store : Store) (answers : SweepAnswers)
    (row : BufferedChildRow) :
    (row.runLook store answers = .doomed → row.unneeded store = true) ∧
    (row.runLook store answers = .kept → (∀ parentId, answers.unread parentId = false) →
      row.unneeded store = false) ∧
    ∀ parentId childId, row.runLook store answers = .undecided parentId childId →
      row.unneeded store = settlesAlone store parentId childId row.payload := by
  unfold BufferedChildRow.runLook BufferedChildRow.unneeded
  cases child : row.childId with
  | none => simp
  | some childId =>
    cases parent : parentRunIdOf childId with
    | none => simp [childCompletionNeedsBuffer, parent]
    | some parentId =>
      simp only [parent, Option.any_some, childCompletionNeedsBuffer_eq parent]
      cases unread : answers.unread parentId with
      | true =>
        refine ⟨by simp, ?_, by simp⟩
        intro _ read
        rw [read parentId] at unread
        exact absurd unread Bool.false_ne_true
      | false =>
        cases closed : parentClosed (store.runs.get parentId) with
        | true => simp
        | false =>
          refine ⟨by simp, by simp, ?_⟩
          intro owner child look
          simp only [Bool.false_eq_true, if_false, RunRowsLook.undecided.injEq] at look
          rw [← look.1, ← look.2]
          simp

def doomedAt (store : Store) (answers : SweepAnswers) (rows : List BufferedChildRow)
    (entry : BufferedChildRow × Nat) : Bool :=
  entry.1.runLook store answers = .doomed ∨
    entry.2 ∈ (checkGroups store answers rows.length 0 (openRows store answers rows)).1

theorem unneeded_of_doomedAt (listed : entry ∈ rows.zipIdx)
    (doomed : doomedAt store answers rows entry = true) : entry.1.unneeded store = true := by
  obtain ⟨row, place⟩ := entry
  have at' : rows[place]? = some row := List.mk_mem_zipIdx_iff_getElem?.mp listed
  have rule := row.unneeded_of_look store answers
  rcases of_decide_eq_true doomed with byRun | byGroup
  · exact rule.1 byRun
  · obtain ⟨parentId, each, found, same, settles⟩ := checkGroups_settled byGroup
    obtain ⟨there, look⟩ := (inGroup_openRows store answers rows).mp found
    change each.place = place at same
    rw [same, at'] at there
    have isRow : row = each.row := Option.some.inj there
    rw [← isRow] at look settles
    rw [rule.2.2 parentId each.childId look]
    exact settles

/-- No read of a page throws. -/
structure SweepAnswers.Readable (answers : SweepAnswers) : Prop where
  runs : ∀ parentId, answers.unread parentId = false
  checkpoints : ∀ parentId, answers.unreadCheckpoints parentId = false

theorem doomedAt_of_unneeded (readable : answers.Readable) (listed : entry ∈ rows.zipIdx)
    (decided : entry.2 < (unneededChildSignals store answers rows).decided)
    (unneeded : entry.1.unneeded store = true) : doomedAt store answers rows entry = true := by
  obtain ⟨row, place⟩ := entry
  have at' : rows[place]? = some row := List.mk_mem_zipIdx_iff_getElem?.mp listed
  have rule := row.unneeded_of_look store answers
  apply decide_eq_true
  cases look : row.runLook store answers with
  | doomed => exact .inl rfl
  | kept =>
    rw [rule.2.1 look readable.runs] at unneeded
    cases unneeded
  | undecided parentId childId =>
    rw [rule.2.2 parentId childId look] at unneeded
    have found : InGroup (openRows store answers rows) parentId { place, row, childId } :=
      (inGroup_openRows store answers rows).mpr ⟨at', look⟩
    exact .inr (checkGroups_doomed (groupsOrdered_openRows store answers rows) found decided
      (readable.checkpoints parentId) unneeded)

theorem doomed_eq (store : Store) (answers : SweepAnswers) (rows : List BufferedChildRow) :
    (unneededChildSignals store answers rows).doomed =
      (rows.zipIdx.filter (doomedAt store answers rows)).map Prod.fst := rfl

theorem filter_zipIdx (test : BufferedChildRow × Nat → Bool) (alone : BufferedChildRow → Bool)
    (rows : List BufferedChildRow) (start : Nat)
    (same : ∀ entry ∈ rows.zipIdx start, test entry = alone entry.1) :
    ((rows.zipIdx start).filter test).map Prod.fst = rows.filter alone := by
  rw [List.filter_congr same]
  induction rows generalizing start with
  | nil => rfl
  | cons row rest ih =>
    have later := ih (start + 1) fun entry listed =>
      same entry (by rw [List.zipIdx_cons]; exact List.mem_cons_of_mem _ listed)
    rw [List.zipIdx_cons]
    cases picked : alone row with
    | true => simp [picked, later]
    | false => simp [picked, later]

theorem sublist_zipIdx (test : BufferedChildRow × Nat → Bool) (alone : BufferedChildRow → Bool)
    (rows : List BufferedChildRow) (start : Nat)
    (picks : ∀ entry ∈ rows.zipIdx start, test entry = true → alone entry.1 = true) :
    (((rows.zipIdx start).filter test).map Prod.fst).Sublist (rows.filter alone) := by
  induction rows generalizing start with
  | nil => simp
  | cons row rest ih =>
    rw [List.zipIdx_cons] at picks ⊢
    have later := ih (start + 1) fun entry listed => picks entry (List.mem_cons_of_mem _ listed)
    cases picked : test (row, start) with
    | true =>
      have also := picks (row, start) List.mem_cons_self picked
      rw [List.filter_cons_of_pos picked, List.map_cons, List.filter_cons_of_pos also]
      exact later.cons_cons row
    | false =>
      rw [List.filter_cons_of_neg (by simp [picked])]
      exact later.trans ((List.sublist_cons_self row rest).filter alone)

/-- The rows of a page that were decided are doomed by the rule for one row, and those after them
only where it dooms them too. -/
theorem doomed_split (store : Store) {answers : SweepAnswers} (readable : answers.Readable) (rows : List BufferedChildRow) :
    ∃ later, (unneededChildSignals store answers rows).doomed =
        (rows.take (unneededChildSignals store answers rows).decided).filter
          (·.unneeded store) ++ later ∧
      later.Sublist ((rows.drop (unneededChildSignals store answers rows).decided).filter
        (·.unneeded store)) := by
  generalize length : (unneededChildSignals store answers rows).decided = decided
  have halves : rows.zipIdx = (rows.take decided).zipIdx ++
      (rows.drop decided).zipIdx (rows.take decided).length := by
    rw [← List.take_append_drop decided rows, List.zipIdx_append]
    simp
  rw [doomed_eq, halves, List.filter_append, List.map_append]
  refine ⟨_, congrArg (· ++ _) (filter_zipIdx _ _ _ 0 ?_), sublist_zipIdx _ _ _ _ ?_⟩
  · intro entry listed
    have whole : entry ∈ rows.zipIdx := by
      rw [halves]
      exact List.mem_append_left _ listed
    have early : entry.2 < decided := by
      obtain ⟨row, place⟩ := entry
      have at' := List.mk_mem_zipIdx_iff_getElem?.mp listed
      have within := (List.getElem?_eq_some_iff.mp at').1
      simp only [List.length_take] at within
      show place < decided
      omega
    cases unneeded : entry.1.unneeded store with
    | true =>
      exact doomedAt_of_unneeded readable whole (by rw [length]; exact early) unneeded
    | false =>
      cases doomed : doomedAt store answers rows entry with
      | false => rfl
      | true =>
        rw [unneeded_of_doomedAt whole doomed] at unneeded
        cases unneeded
  · intro entry listed doomed
    apply unneeded_of_doomedAt _ doomed
    rw [halves]
    exact List.mem_append_right _ listed

theorem unneeded_of_doomed (doomed : row ∈ (unneededChildSignals store answers rows).doomed) :
    row ∈ rows ∧ row.unneeded store = true := by
  rw [doomed_eq] at doomed
  have among := (sublist_zipIdx _ (·.unneeded store) rows 0 fun entry listed =>
    unneeded_of_doomedAt listed).subset doomed
  exact List.mem_filter.mp among

/-- What a doomed row's parent is like: it is unknown, gone or ended for good, or it holds the
outcome. -/
theorem BufferedChildRow.unneeded_why (unneeded : row.unneeded store = true) :
    ∃ childId, row.childId = some childId ∧ ∀ parentId, parentRunIdOf childId = some parentId →
      parentClosed (store.runs.get parentId) = false →
      HoldsOutcome store parentId childId row.payload := by
  obtain ⟨childId, child, dooms⟩ := (Option.any_eq_true _ _).mp unneeded
  refine ⟨childId, child, ?_⟩
  intro parentId parent opened
  rw [childCompletionNeedsBuffer_eq parent, opened] at dooms
  exact holdsOutcome_of_settles (by simpa using dooms)

end Pages

section Sweeps

variable {store : Store}

theorem mem_deleteBufferedSignals {doomed : List BufferedChildRow}
    (distinct : (rows.map (·.id)).Nodup) (among : ∀ row ∈ doomed, row ∈ rows)
    (listed : row ∈ rows) (gone : row ∉ deleteBufferedSignals rows (doomed.map (·.id))) :
    row ∈ doomed := by
  by_cases hit : row.id ∈ doomed.map (·.id)
  · obtain ⟨other, isDoomed, same⟩ := List.mem_map.mp hit
    have equal := List.inj_on_of_nodup_map distinct (among other isDoomed) listed same
    rw [← equal]
    exact isDoomed
  · exact absurd (List.mem_filter.mpr ⟨listed, by simpa using hit⟩) gone

theorem listBufferedSignals_subset {cursor : Option Nat} {limit : Nat}
    (listed : row ∈ listBufferedSignals rows cursor limit) : row ∈ rows :=
  (List.mem_filter.mp (List.mem_of_mem_take listed)).1

/-- The pages of a call delete only rows that no parent needs. -/
theorem sweepPages_deletes (answers : SweepCallAnswers) (now left page : Nat)
    {sweep : BufferedSweep} (distinct : (sweep.rows.map (·.id)).Nodup) (listed : row ∈ sweep.rows)
    (gone : row ∉ (sweepPages store answers now left page sweep).rows) :
    row.unneeded store = true := by
  induction left generalizing page sweep with
  | zero => exact absurd listed gone
  | succ left ih =>
    rw [sweepPages] at gone
    split at gone
    · exact absurd listed gone
    · simp only [] at gone
      generalize rowsOf : listBufferedSignals sweep.rows sweep.cursor bufferedSweepPage = rows
        at gone
      have page' : ∀ other ∈ (unneededChildSignals store (answers.page page) rows).doomed,
          other ∈ sweep.rows ∧ other.unneeded store = true := by
        intro other doomed
        obtain ⟨inPage, unneeded⟩ := unneeded_of_doomed doomed
        rw [← rowsOf] at inPage
        exact ⟨listBufferedSignals_subset inPage, unneeded⟩
      have here : row ∉ deleteBufferedSignals sweep.rows
          ((unneededChildSignals store (answers.page page) rows).doomed.map (·.id)) →
          row.unneeded store = true := by
        intro deleted
        exact (page' row (mem_deleteBufferedSignals distinct
          (fun other doomed => (page' other doomed).1) listed deleted)).2
      -- Either this page deleted the row, or a later one did.
      by_cases kept : row ∈ deleteBufferedSignals sweep.rows
          ((unneededChildSignals store (answers.page page) rows).doomed.map (·.id))
      · split at gone
        · split at gone
          · exact absurd kept gone
          · exact absurd kept gone
        · cases last : rows.getLast? with
          | none =>
            rw [last] at gone
            exact absurd kept gone
          | some final =>
            rw [last] at gone
            simp only [] at gone
            split at gone
            · exact absurd kept gone
            · apply ih (page + 1) _ kept gone
              exact distinct.sublist (List.filter_sublist.map _)
      · exact here kept

/-- The sweep dooms the rows that the rule for one row dooms, each of them a row whose parent is
unknown, gone or ended for good, or holds its outcome; where the deadline cuts a page, the rows
decided are as the rule says, and the call deletes no row that the rule keeps. -/
theorem sweep_agrees_with_rule (store : Store) (answers : SweepAnswers)
    (rows : List BufferedChildRow) :
    (answers.Readable → (∀ check, answers.late check = false) →
      (unneededChildSignals store answers rows).doomed = rows.filter (·.unneeded store)) ∧
    (∀ row ∈ (unneededChildSignals store answers rows).doomed,
      ∃ childId, row.childId = some childId ∧ ∀ parentId,
        parentRunIdOf childId = some parentId → parentClosed (store.runs.get parentId) = false →
        HoldsOutcome store parentId childId row.payload) ∧
    (answers.Readable → ∃ later, (unneededChildSignals store answers rows).doomed =
        (rows.take (unneededChildSignals store answers rows).decided).filter
          (·.unneeded store) ++ later ∧
      later.Sublist ((rows.drop (unneededChildSignals store answers rows).decided).filter
        (·.unneeded store))) ∧
    ∀ call now skipped sweep, (sweep.rows.map (·.id)).Nodup → ∀ row ∈ sweep.rows,
      row ∉ (sweepBufferedSignals store call now skipped sweep).rows →
      row.unneeded store = true := by
  refine ⟨?_, ?_, fun readable => doomed_split store readable rows, ?_⟩
  · intro readable onTime
    obtain ⟨later, shape, among⟩ := doomed_split store readable rows
    have whole : (unneededChildSignals store answers rows).decided = rows.length :=
      checkGroups_decided onTime
    rw [whole, List.drop_length, List.filter_nil] at among
    rw [shape, whole, List.take_length, List.sublist_nil.mp among, List.append_nil]
  · intro row doomed
    exact (unneeded_of_doomed doomed).2 |> BufferedChildRow.unneeded_why
  · intro call now skipped sweep distinct row listed gone
    unfold sweepBufferedSignals at gone
    split at gone
    · exact absurd listed gone
    · split at gone
      · exact absurd listed gone
      · exact sweepPages_deletes call now _ 0 distinct listed gone

end Sweeps

section Examples

/-- A run that waits at its third position for a child whose id it chose. -/
def awaitsChosenChild : Store where
  runs := Table.set .empty "p" { id := "p", workflow := "order", status := .suspended }
  signalWaiters := Table.set .empty (.named "child:report")
    { token := .named "child:report", runId := "p", seq := 2 }
  checkpoints := Table.set .empty ("p", 2)
    { runId := "p", seq := 2, name := "signal:child:report", kind := .signal, status := .running }

/-- The completion of a child whose id its parent chose is doomed while the parent waits for it. -/
theorem sweep_dooms_awaited_row :
    ¬∀ (store : Store) (rows : List BufferedChildRow) (row : BufferedChildRow)
      (waiter : SignalWaiter) (run : WorkflowRun) (placeholder : StepCheckpoint),
      row ∈ (unneededChildSignals store {} rows).doomed →
      store.signalWaiters.get (.named row.token) = some waiter →
      store.runs.get waiter.runId = some run → isTerminalStatus run.status = false →
      store.checkpoints.get (waiter.runId, waiter.seq) = some placeholder →
      placeholder.status = .completed := by
  intro claim
  have settled := claim awaitsChosenChild [⟨1, "child:report", some (.num 4)⟩]
    ⟨1, "child:report", some (.num 4)⟩ _ _ _ (by decide +kernel) rfl rfl rfl rfl
  cases settled

end Examples

end Durable
